import ContentFilter.Data.KeyMap
import ContentFilter.Rule.Family

/-!
The browser's store of declarative rules. An update is applied as a whole, removals first, or not at
all.
-/

namespace ContentFilter

inductive HostError where
  /-- These rules were refused, so nothing of the call was applied. -/
  | rejected (ids : List Nat) (reason : String)
  | failed (reason : String)
  deriving DecidableEq, Repr

def HostError.message : HostError → String
  | .rejected ids reason =>
    "rules rejected ([" ++ ", ".intercalate (ids.map toString) ++ "]): " ++ reason
  | .failed reason => reason

/-- What the host is asked for. -/
inductive HostCall where
  | rules (isSession : Bool)
  | updateRules (isSession : Bool) (removed : List Nat) (added : List Rule)
  | enabledRulesets
  | updateEnabledRulesets (enable disable : List String)
  | availableRulesets
  deriving DecidableEq, Repr

namespace HostCall

def name : HostCall → String
  | .rules false => "dynamic_rules"
  | .rules true => "session_rules"
  | .updateRules false _ _ => "update_dynamic_rules"
  | .updateRules true _ _ => "update_session_rules"
  | .enabledRulesets => "enabled_rulesets"
  | .updateEnabledRulesets _ _ => "update_enabled_rulesets"
  | .availableRulesets => "available_rulesets"

def isUpdate : HostCall → Bool
  | .updateRules _ _ _ | .updateEnabledRulesets _ _ => true
  | _ => false

end HostCall

-- Rules in the order of their numbers, each number once.
namespace RuleTable

def insert (rule : Rule) : List Rule → List Rule
  | [] => [rule]
  | other :: rest => if rule.id < other.id then rule :: other :: rest else other :: insert rule rest

def remove (ids : List Nat) (rules : List Rule) : List Rule :=
  rules.filter fun rule => !ids.contains rule.id

/-- Add rules one by one; a number that is taken is an error. -/
def insertAll (rules : List Rule) (added : List Rule) : Except HostError (List Rule) :=
  added.foldlM (fun rules rule =>
    if rules.any (·.id == rule.id) then .error (.failed ("duplicate rule id " ++ toString rule.id))
    else .ok (insert rule rules)) rules

end RuleTable

structure RuleHost where
  dynamic : List Rule := []
  session : List Rule := []
  enabled : KeyMap Unit := .empty
  /-- The rule sets shipped with the extension. -/
  available : List String := []
  unsupportedRegexes : List String := []
  /-- Rules with one of these patterns are refused. -/
  rejectedUrlFilters : List String := []
  /-- How many of the next rule updates fail. -/
  failingUpdates : Nat := 0
  /-- The calls that were made, the last one first. -/
  log : List HostCall := []
  /-- What the host answers after so many calls instead of serving the next one. -/
  refuse : Nat → HostCall → Option HostError := fun _ _ => none
  /-- How many calls were served. -/
  calls : Nat := 0

namespace RuleHost

/-- The host with the calls of these names failing. -/
def failing (calls : List String) (host : RuleHost) : RuleHost :=
  { host with refuse := fun _ call =>
      if calls.contains call.name then some (.failed (call.name ++ " failed")) else none }

def rules (host : RuleHost) (isSession : Bool) : List Rule :=
  if isSession then host.session else host.dynamic

/-- The rules in the range of a family. -/
def rulesOf (host : RuleHost) (family : RuleFamily) : List Rule :=
  (host.rules family.isSession).filter fun rule => family.contains rule.id

/-- Every rule that belongs to a family, family by family. -/
def familyRules (host : RuleHost) : List Rule := RuleFamily.all.flatMap host.rulesOf

def setRules (host : RuleHost) (isSession : Bool) (rules : List Rule) : RuleHost :=
  if isSession then { host with session := rules } else { host with dynamic := rules }

/-- Make a call: a refused one leaves nothing but its record. -/
def serve {α : Type} (call : HostCall) (answer : RuleHost → Except HostError α × RuleHost)
    (host : RuleHost) : Except HostError α × RuleHost :=
  let refusal := host.refuse host.log.length call
  let host := { host with log := call :: host.log }
  match refusal with
  | some error => (.error error, host)
  | none => answer { host with calls := host.calls + 1 }

def listRules (isSession : Bool) : RuleHost → Except HostError (List Rule) × RuleHost :=
  serve (.rules isSession) fun host => (.ok (host.rules isSession), host)

def isRejected (host : RuleHost) (rule : Rule) : Bool :=
  rule.condition.urlFilter.any host.rejectedUrlFilters.contains

/-- The rules after an update, or why it cannot be made. -/
def updated (host : RuleHost) (isSession : Bool) (removed : List Nat) (added : List Rule) :
    Except HostError (List Rule) :=
  let refused := (added.filter host.isRejected).map (·.id)
  if refused.isEmpty then
    RuleTable.insertAll (RuleTable.remove removed (host.rules isSession)) added
  else .error (.rejected refused "unsupported rule")

def updateRules (isSession : Bool) (removed : List Nat) (added : List Rule) :
    RuleHost → Except HostError Unit × RuleHost :=
  serve (.updateRules isSession removed added) fun host =>
    if 0 < host.failingUpdates then
      (.error (.failed "host unavailable"), { host with failingUpdates := host.failingUpdates - 1 })
    else match host.updated isSession removed added with
      | .ok rules => (.ok (), host.setRules isSession rules)
      | .error error => (.error error, host)

def enabledRulesets : RuleHost → Except HostError (List String) × RuleHost :=
  serve .enabledRulesets fun host => (.ok host.enabled.keys, host)

def updateEnabledRulesets (enable disable : List String) : RuleHost → Except HostError Unit × RuleHost :=
  serve (.updateEnabledRulesets enable disable) fun host =>
    let less := disable.foldl KeyMap.erase host.enabled
    (.ok (), { host with enabled := enable.foldl (fun set id => set.insert id ()) less })

def availableRulesets : RuleHost → Except HostError (List String) × RuleHost :=
  serve .availableRulesets fun host => (.ok host.available, host)

def isRegexSupported (regex : String) (host : RuleHost) : Bool × RuleHost :=
  (!host.unsupportedRegexes.contains regex, { host with calls := host.calls + 1 })

end RuleHost

end ContentFilter
