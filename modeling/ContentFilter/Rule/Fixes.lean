import ContentFilter.Engine.Source
import ContentFilter.Json.Parser
import ContentFilter.Json.Untyped
import ContentFilter.Task

/-!
Fixes: a document of declarative rules that is fetched, of which only sound rules are used.
-/

namespace ContentFilter

namespace Fixes

/-- The rule set that is shipped for the case that the document cannot be had. -/
def ruleset : String := "fixes"

/-- Why a rule of the document is dropped. -/
inductive DropCause where
  | noRule | noTarget | notOnFrames
  | unsupportedRegex (regex : String)
  deriving DecidableEq, Repr

def DropCause.reason : DropCause → String
  | .noRule => "invalid rule"
  | .noTarget => "redirect without a target"
  | .notOnFrames => "allowAllRequests needs frame resource types"
  | .unsupportedRegex regex => "regex not supported: " ++ regex

/-- A dropped rule by its place in the document. -/
structure Dropped where
  index : Nat
  cause : DropCause
  deriving DecidableEq, Repr

def Dropped.reason (dropped : Dropped) : String :=
  "#" ++ toString dropped.index ++ ": " ++ dropped.cause.reason

structure Load where
  rules : List Rule := []
  dropped : List Dropped := []
  deriving DecidableEq, Repr

/-- The entries of the document. -/
def entries (text : String) : Except Failure (List Json) :=
  match Json.parse text >>= Json.untyped? with
  | some (.array items) => .ok items
  | _ => .error .json

/-- What can be said of a rule without asking the browser. -/
def check (rule : Rule) : Except DropCause Unit :=
  if rule.action = .redirect ∧ rule.redirect = none then .error .noTarget
  else if rule.action = .allowAllRequests then
    if (rule.condition.resourceTypes.any fun types => types.all Rule.documentTypes.contains) then .ok ()
    else .error .notOnFrames
  else .ok ()

/-- Whether an entry is a rule that can be used. The browser is asked about its expression. -/
def validate (entry : Json) : Task RuleHost (Except DropCause Rule) :=
  match Rule.decode entry with
  | none => pure (.error .noRule)
  | some rule =>
    match check rule with
    | .error cause => pure (.error cause)
    | .ok () =>
      match rule.regex? with
      | none => pure (.ok rule)
      | some regex => do
        if ← Task.act (RuleHost.isRegexSupported regex) then pure (.ok rule)
        else pure (.error (.unsupportedRegex regex))

/-- The rules of the entries from number `index` on. -/
def validateAll (index : Nat) : List Json → Task RuleHost Load
  | [] => pure {}
  | entry :: rest => do
    let result ← validate entry
    let load ← validateAll (index + 1) rest
    match result with
    | .ok rule => pure { load with rules := rule :: load.rules }
    | .error cause => pure { load with dropped := ⟨index, cause⟩ :: load.dropped }

/-- The rules of a document, or why the document as a whole is unusable. -/
def load (source : FileSource) : Task RuleHost (Except Failure Load) :=
  match source.text FileSource.fixesFile >>= entries with
  | .error failure => pure (.error failure)
  | .ok entries => do pure (.ok (← validateAll 0 entries))

end Fixes

end ContentFilter
