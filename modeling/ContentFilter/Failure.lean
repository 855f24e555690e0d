import ContentFilter.Config.Settings
import ContentFilter.Engine.Snapshot
import ContentFilter.Rule.Host

/-!
Why an operation of the service failed. What is wrong with the user's filters is never among it.
-/

namespace ContentFilter

/-- Why a file could not be had from where lists come from. -/
inductive FetchCause where
  | notFound
  | noSource
  | notText (fault : Text.Utf8.Fault)
  | url (cause : Url.UrlError)
  | unreachable (url : String)
  deriving DecidableEq, Repr

def FetchCause.message : FetchCause → String
  | .notFound => "not found"
  | .noSource => "no remote source"
  | .notText fault => fault.message
  | .url cause => cause.message
  | .unreachable address => "error sending request for url (" ++ address ++ ")"

inductive Failure where
  | engineUnavailable (name : String)
  | snapshot (error : SnapshotError)
  | io
  | fetch (resource : String) (cause : FetchCause)
  | json
  | host (error : HostError)
  | overflow (overflow : RuleFamily.Overflow)
  | alarms (reason : String)
  | settings (error : SettingsError)
  deriving DecidableEq, Repr

/-- The name of a family as messages write it. -/
def RuleFamily.label : RuleFamily → String
  | .pause => "Pause"
  | .trustedDomains => "TrustedDomains"
  | .redirectProtection => "RedirectProtection"
  | .redirectAllowOnce => "RedirectAllowOnce"
  | .safeMode => "SafeMode"
  | .exceptions => "Exceptions"
  | .customFilters => "CustomFilters"
  | .fixes => "Fixes"

def RuleFamily.Overflow.message (o : RuleFamily.Overflow) : String :=
  "rule family " ++ o.family.label ++ " needs " ++ toString o.count ++ " ids but owns " ++
    toString o.family.capacity

def Failure.message : Failure → String
  | .engineUnavailable name => "engine '" ++ name ++ "' is not available from any source"
  | .snapshot error => "snapshot: " ++ error.message
  | .io => "storage"
  | .fetch resource cause => "fetch '" ++ resource ++ "' failed: " ++ cause.message
  | .json => "invalid json"
  | .host error => "declarative host: " ++ error.message
  | .overflow o => o.message
  | .alarms reason => "alarms: " ++ reason
  | .settings error => "invalid settings: " ++ error.message

end ContentFilter
