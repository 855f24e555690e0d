import ContentFilter.Data.KeyMap
import ContentFilter.Json.Decode
import ContentFilter.Text.Basic

/-!
What the user, or whoever manages the browser, has configured.
-/

namespace ContentFilter

open Json (Decoder)
open Json.Decode (record)

structure RegionalFilters where
  enabled : Bool := false
  regions : List String := []
  deriving DecidableEq, Repr

structure CustomFilters where
  enabled : Bool := false
  trustedScriptlets : Bool := false
  text : String := ""
  deriving DecidableEq, Repr

/-- Where a tracker is allowed: everywhere, or on the pages of some domains. -/
structure TrackerException where
  everywhere : Bool := false
  domains : List String := []
  deriving DecidableEq, Repr

/-- A pause, up to a time in milliseconds or until it is resumed. -/
structure PausedEntry where
  revokeAt : Option Nat := none
  deriving DecidableEq, Repr

def PausedEntry.isActive (entry : PausedEntry) (now : Nat) : Bool :=
  match entry.revokeAt with
  | some time => now < time
  | none => true

structure RedirectProtection where
  enabled : Bool := true
  /-- Hosts on which the user turned the protection off. -/
  disabled : List String := []
  deriving DecidableEq, Repr

structure SafeMode where
  enabled : Bool := false
  denylist : List String := []
  deriving DecidableEq, Repr

/-- Central settings that override the user's. -/
structure Managed where
  customFilters : Option String := none
  trustedDomains : List String := []
  deriving DecidableEq, Repr

structure Config where
  blockAds : Bool := true
  blockTrackers : Bool := true
  blockAnnoyances : Bool := false
  regionalFilters : RegionalFilters := {}
  customFilters : CustomFilters := {}
  /-- By tracker or by host. -/
  exceptions : KeyMap TrackerException := .empty
  /-- By host, or under the key for all pages. -/
  paused : KeyMap PausedEntry := .empty
  redirectProtection : RedirectProtection := {}
  safeMode : SafeMode := {}
  /-- The selectors that the user picked, by host. -/
  elementPickerSelectors : KeyMap (List String) := .empty
  filtersUpdatedAt : Nat := 0
  managed : Managed := {}
  deriving DecidableEq, Repr

/-- The key under which everything is paused. -/
def allPages : String := "<all_urls>"

namespace Config

/-- The custom filter text in effect: the managed one, else the user's when it is enabled. -/
def effectiveCustomFilters (config : Config) : Option String :=
  match config.managed.customFilters with
  | some text => some text
  | none => if config.customFilters.enabled then some config.customFilters.text else none

def hasPickedElements (config : Config) : Bool :=
  config.elementPickerSelectors.entries.any fun (_, selectors) => !selectors.isEmpty

/-- The list for each picked element, one filter a line. -/
def pickedFilters (config : Config) : String :=
  "\n".intercalate (config.elementPickerSelectors.entries.flatMap fun (host, selectors) =>
    selectors.map fun selector => host ++ "##" ++ selector)

end Config

-- The names of lists and of the engines made from them.
namespace ListName

def main : String := "main"
def custom : String := "custom"
def elementPicker : String := "element-picker"
def ads : String := "ads"
def tracking : String := "tracking"
def annoyances : String := "annoyances"

def regional (region : String) : String :=
  "lang-" ++ String.ofList (Text.lower (Text.trim region.toList))

/-- Each region once, in the order of the configuration. -/
def regions : List String → List String
  | [] => []
  | region :: rest => regional region :: (regions rest).filter (· != regional region)

/-- The lists that a configuration asks for, in the order of merging. -/
def enabled (config : Config) : List String :=
  (if config.blockAds then [ads] else []) ++ (if config.blockTrackers then [tracking] else []) ++
    (if config.blockAnnoyances then [annoyances] else []) ++
    (if config.regionalFilters.enabled then regions config.regionalFilters.regions else []) ++
    (if config.effectiveCustomFilters.isSome then [custom] else []) ++
    (if config.hasPickedElements then [elementPicker] else [])

end ListName

namespace RegionalFilters

def toJson (r : RegionalFilters) : Json :=
  .object [("enabled", .bool r.enabled), ("regions", .strings r.regions)]

def decode : Decoder RegionalFilters := fun json => do
  let r ← record ["enabled", "regions"] json
  pure
    { enabled := ← r.orDefault "enabled" Json.Decode.bool false
      regions := ← r.orDefault "regions" Json.Decode.strings [] }

end RegionalFilters

namespace CustomFilters

def toJson (c : CustomFilters) : Json :=
  .object
    [("enabled", .bool c.enabled), ("trustedScriptlets", .bool c.trustedScriptlets),
      ("text", .string c.text)]

def decode : Decoder CustomFilters := fun json => do
  let r ← record ["enabled", "trustedScriptlets", "text"] json
  pure
    { enabled := ← r.orDefault "enabled" Json.Decode.bool false
      trustedScriptlets := ← r.orDefault "trustedScriptlets" Json.Decode.bool false
      text := ← r.orDefault "text" Json.Decode.string "" }

end CustomFilters

namespace TrackerException

def toJson (e : TrackerException) : Json :=
  .object [("global", .bool e.everywhere), ("domains", .strings e.domains)]

def decode : Decoder TrackerException := fun json => do
  let r ← record ["global", "domains"] json
  pure
    { everywhere := ← r.orDefault "global" Json.Decode.bool false
      domains := ← r.orDefault "domains" Json.Decode.strings [] }

end TrackerException

namespace PausedEntry

def toJson (e : PausedEntry) : Json := .object [("revokeAt", .optional .nat e.revokeAt)]

def decode : Decoder PausedEntry := fun json => do
  let r ← record ["revokeAt"] json
  let time := Json.Decode.nullable Json.Decode.word64
  pure { revokeAt := ← r.orDefault "revokeAt" time none }

end PausedEntry

namespace RedirectProtection

def toJson (p : RedirectProtection) : Json :=
  .object [("enabled", .bool p.enabled), ("disabled", .strings p.disabled)]

def decode : Decoder RedirectProtection := fun json => do
  let r ← record ["enabled", "disabled"] json
  pure
    { enabled := ← r.orDefault "enabled" Json.Decode.bool true
      disabled := ← r.orDefault "disabled" Json.Decode.strings [] }

end RedirectProtection

namespace SafeMode

def toJson (s : SafeMode) : Json :=
  .object [("enabled", .bool s.enabled), ("denylist", .strings s.denylist)]

def decode : Decoder SafeMode := fun json => do
  let r ← record ["enabled", "denylist"] json
  pure
    { enabled := ← r.orDefault "enabled" Json.Decode.bool false
      denylist := ← r.orDefault "denylist" Json.Decode.strings [] }

end SafeMode

namespace Managed

def toJson (m : Managed) : Json :=
  .object
    [("customFilters", .optional .string m.customFilters),
      ("trustedDomains", .strings m.trustedDomains)]

def decode : Decoder Managed := fun json => do
  let r ← record ["customFilters", "trustedDomains"] json
  let text := Json.Decode.nullable Json.Decode.string
  pure
    { customFilters := ← r.orDefault "customFilters" text none
      trustedDomains := ← r.orDefault "trustedDomains" Json.Decode.strings [] }

end Managed

namespace KeyMap

def toJson {α : Type} (write : α → Json) (map : KeyMap α) : Json :=
  .object (map.entries.map fun (key, value) => (key, write value))

def decode {α : Type} (read : Decoder α) : Decoder (KeyMap α) := fun json =>
  (Json.Decode.entries read json).map ofList

end KeyMap

namespace Config

def fieldNames : List String :=
  ["blockAds", "blockTrackers", "blockAnnoyances", "regionalFilters", "customFilters", "exceptions",
    "paused", "redirectProtection", "safeMode", "elementPickerSelectors", "filtersUpdatedAt",
    "managed"]

def toJson (c : Config) : Json :=
  .object
    [("blockAds", .bool c.blockAds), ("blockTrackers", .bool c.blockTrackers),
      ("blockAnnoyances", .bool c.blockAnnoyances),
      ("regionalFilters", c.regionalFilters.toJson), ("customFilters", c.customFilters.toJson),
      ("exceptions", c.exceptions.toJson TrackerException.toJson),
      ("paused", c.paused.toJson PausedEntry.toJson),
      ("redirectProtection", c.redirectProtection.toJson), ("safeMode", c.safeMode.toJson),
      ("elementPickerSelectors", c.elementPickerSelectors.toJson Json.strings),
      ("filtersUpdatedAt", .nat c.filtersUpdatedAt), ("managed", c.managed.toJson)]

/-- Read a configuration; what is missing has its default. -/
def decode : Decoder Config := fun json => do
  let r ← record fieldNames json
  let d : Config := {}
  pure
    { blockAds := ← r.orDefault "blockAds" Json.Decode.bool d.blockAds
      blockTrackers := ← r.orDefault "blockTrackers" Json.Decode.bool d.blockTrackers
      blockAnnoyances := ← r.orDefault "blockAnnoyances" Json.Decode.bool d.blockAnnoyances
      regionalFilters := ← r.orDefault "regionalFilters" RegionalFilters.decode d.regionalFilters
      customFilters := ← r.orDefault "customFilters" CustomFilters.decode d.customFilters
      exceptions := ← r.orDefault "exceptions" (KeyMap.decode TrackerException.decode) d.exceptions
      paused := ← r.orDefault "paused" (KeyMap.decode PausedEntry.decode) d.paused
      redirectProtection := ←
        r.orDefault "redirectProtection" RedirectProtection.decode d.redirectProtection
      safeMode := ← r.orDefault "safeMode" SafeMode.decode d.safeMode
      elementPickerSelectors := ←
        r.orDefault "elementPickerSelectors" (KeyMap.decode Json.Decode.strings)
          d.elementPickerSelectors
      filtersUpdatedAt := ←
        r.orDefault "filtersUpdatedAt" Json.Decode.word64 d.filtersUpdatedAt
      managed := ← r.orDefault "managed" Managed.decode d.managed }

end Config

end ContentFilter
