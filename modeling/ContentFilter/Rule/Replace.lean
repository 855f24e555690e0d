import ContentFilter.Failure
import ContentFilter.Task

/-!
Replacing the rules of a family: one update of the host removes the old ones and adds the new. Rules
that the host refuses are left out and the rest is submitted again.
-/

namespace ContentFilter

/-- A rule that the host refused, with its number. -/
structure RejectedRule where
  rule : Rule
  reason : String
  deriving DecidableEq, Repr

structure FamilyReport where
  family : RuleFamily
  removed : Nat
  added : Nat
  rejected : List RejectedRule
  deriving DecidableEq, Repr

namespace RuleHost

/-- One call of the host. -/
def call {α : Type} (answer : RuleHost → Except HostError α × RuleHost) :
    ExceptT Failure (Task RuleHost) α :=
  ExceptT.mk (Task.act fun host => ((answer host).1.mapError .host, (answer host).2))

/-- The numbers that are taken in the range of a family. -/
def idsOf (family : RuleFamily) : ExceptT Failure (Task RuleHost) (List Nat) := do
  let rules ← call (listRules family.isSession)
  pure ((rules.map (·.id)).filter family.contains)

/-- The refused ones of some submitted rules. -/
def refusedOf (ids : List Nat) (rules : List Rule) : List Rule :=
  rules.filter fun rule => ids.contains rule.id

def keptOf (ids : List Nat) (rules : List Rule) : List Rule :=
  rules.filter fun rule => !ids.contains rule.id

theorem length_keptOf_lt {ids : List Nat} {rules : List Rule} (h : refusedOf ids rules ≠ []) :
    (keptOf ids rules).length < rules.length := by
  have hsum := List.length_eq_countP_add_countP (fun rule : Rule => ids.contains rule.id) (l := rules)
  have hpos : 0 < (refusedOf ids rules).length := List.length_pos_iff.2 h
  simp only [refusedOf, keptOf, ← List.countP_eq_length_filter] at hpos ⊢
  have hnot : rules.countP (fun rule => !ids.contains rule.id) =
      rules.countP (fun rule => decide ¬(ids.contains rule.id) = true) := by
    simp
  omega

/-- What a submission came to: the rules that were added and those refused. -/
structure Submission where
  added : List Rule
  rejected : List RejectedRule := []
  deriving DecidableEq, Repr

/-- Submit rules in place of those with the removed numbers. A refusal that names none of them cannot
be helped. -/
def submit (isSession : Bool) (removed : List Nat) (rules : List Rule) :
    Task RuleHost (Except Failure Submission) := do
  match ← Task.act (updateRules isSession removed rules) with
  | .ok () => pure (.ok { added := rules })
  | .error (.failed reason) => pure (.error (.host (.failed reason)))
  | .error (.rejected ids reason) =>
    if h : refusedOf ids rules = [] then pure (.error (.host (.rejected ids reason)))
    else
      have : (keptOf ids rules).length < rules.length := length_keptOf_lt h
      let rest ← submit isSession removed (keptOf ids rules)
      let refused := (refusedOf ids rules).map fun rule => ⟨rule, reason⟩
      pure (rest.map fun rest => { rest with rejected := refused ++ rest.rejected })
termination_by rules.length

/-- Replace the rules of a family by these, numbered anew. -/
def replace (family : RuleFamily) (rules : List Rule) :
    ExceptT Failure (Task RuleHost) FamilyReport := do
  let numbered ← (family.assign rules).mapError Failure.overflow
  let removed ← idsOf family
  let submission ← ExceptT.mk (submit family.isSession removed numbered)
  pure
    { family
      removed := removed.length
      added := submission.added.length
      rejected := submission.rejected }

end RuleHost

end ContentFilter
