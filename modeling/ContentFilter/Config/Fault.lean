import ContentFilter.Config.Basic
import ContentFilter.Json.Shape

/-!
What keeps a text from being a configuration.
-/

namespace ContentFilter

open Json (Shape)

def RegionalFilters.shape : Shape :=
  .record "RegionalFilters" [.free "enabled" .bool, .free "regions" (.list .string)]

def CustomFilters.shape : Shape :=
  .record "CustomFilters"
    [.free "enabled" .bool, .free "trustedScriptlets" .bool, .free "text" .string]

def TrackerException.shape : Shape :=
  .record "Exception" [.free "global" .bool, .free "domains" (.list .string)]

def PausedEntry.shape : Shape := .record "PausedEntry" [.free "revokeAt" (.nullable .word64)]

def RedirectProtection.shape : Shape :=
  .record "RedirectProtection" [.free "enabled" .bool, .free "disabled" (.list .string)]

def SafeMode.shape : Shape :=
  .record "SafeMode" [.free "enabled" .bool, .free "denylist" (.list .string)]

def Managed.shape : Shape :=
  .record "Managed"
    [.free "customFilters" (.nullable .string), .free "trustedDomains" (.list .string)]

namespace Config

def shape : Shape :=
  .record "Config"
    [.free "blockAds" .bool, .free "blockTrackers" .bool, .free "blockAnnoyances" .bool,
      .free "regionalFilters" RegionalFilters.shape, .free "customFilters" CustomFilters.shape,
      .free "exceptions" (.map TrackerException.shape), .free "paused" (.map PausedEntry.shape),
      .free "redirectProtection" RedirectProtection.shape, .free "safeMode" SafeMode.shape,
      .free "elementPickerSelectors" (.map (.list .string)), .free "filtersUpdatedAt" .word64,
      .free "managed" Managed.shape]

def fault? (text : String) : Option Json.Fault := shape.fault? text.toList

end Config

end ContentFilter
