import ContentFilter.Allow.Trust

/-!
The rules that a configuration asks for directly: pauses, hosts without redirect protection, and
safe mode.
-/

namespace ContentFilter

namespace Pause

/-- A rule for everything when everything is paused, and one for all paused hosts. -/
def rules (config : Config) (now : Nat) : List Rule :=
  let active := (config.paused.entries.filter fun (_, entry) => entry.isActive now).map (·.1)
  let hosts := active.filter (· != allPages)
  (if active.contains allPages then
    [{ priority := Priority.pause
       action := .allowAllRequests
       condition := { resourceTypes := some Rule.documentTypes } }]
    else []) ++
  (if hosts.isEmpty then [] else [Rule.allowDocuments Priority.pause hosts])

end Pause

namespace RedirectProtection

/-- Whether the user turned the protection off for the host. -/
def isDisabledFor (protection : RedirectProtection) (host : String) : Except Text.CutFault Bool :=
  Domain.isWithinAny host.toList (protection.disabled.map String.toList)

/-- Navigations to hosts without protection pass. -/
def rules (protection : RedirectProtection) : List Rule :=
  if !protection.enabled || protection.disabled.isEmpty then []
  else
    [{ priority := Priority.redirectProtection
       action := .allow
       condition :=
        { requestDomains := some protection.disabled
          resourceTypes := some ["main_frame"] } }]

end RedirectProtection

namespace SafeMode

/-- In safe mode the denied hosts are blocked and all other documents pass. -/
def rules (mode : SafeMode) : List Rule :=
  let denied := (mode.denylist.map fun host =>
    String.ofList (Text.lower (Text.trim host.toList))).filter (!·.isEmpty)
  if !mode.enabled then []
  else
    (if denied.isEmpty then []
      else
        [{ priority := Priority.safeModeBlock
           action := .block
           condition := { requestDomains := some denied } }]) ++
    [{ priority := Priority.safeModeAllow
       action := .allowAllRequests
       condition := { resourceTypes := some Rule.documentTypes } }]

end SafeMode

end ContentFilter
