import ContentFilter.Proofs.Rule.Convert
import Mathlib.Data.List.MinMax

/-! The order in which a browser prefers rules, and the rules of it that win. -/

namespace ContentFilter

namespace Rule

/-- Whether a rule lets a request through. -/
def isPermission (rule : Rule) : Bool := rule.action == .allow || rule.action == .allowAllRequests

/-- Whether a rule keeps a request from going through as it is. -/
def Stops (rule : Rule) : Prop := rule.action = .block ∨ rule.action = .redirect

/-- The rule comes no later than the other: the higher priority comes first, and on a tie a permission
comes before the rest. -/
def Precedes (rule other : Rule) : Prop :=
  other.priority < rule.priority ∨
    other.priority = rule.priority ∧ (other.isPermission = true → rule.isPermission = true)

instance (rule other : Rule) : Decidable (rule.Precedes other) :=
  inferInstanceAs (Decidable (_ ∨ _))

/-- The rule is one that the browser may follow. -/
def Wins (rules : List Rule) (rule : Rule) : Prop :=
  rule ∈ rules ∧ ∀ other ∈ rules, rule.Precedes other

instance (rules : List Rule) (rule : Rule) : Decidable (Wins rules rule) :=
  inferInstanceAs (Decidable (_ ∧ _))

/-- The place of a rule in the order as one number. -/
def rank (rule : Rule) : Nat := 2 * rule.priority + rule.isPermission.toNat

variable {rule other : Rule} {rules : List Rule}

theorem Stops.isPermission_eq_false (h : rule.Stops) : rule.isPermission = false := by
  unfold isPermission
  rcases h with h | h <;> rw [h] <;> rfl

theorem not_stops_of_allow (h : rule.action = .allow) : ¬rule.Stops := by
  rintro (hblock | hredirect)
  · cases h.symm.trans hblock
  · cases h.symm.trans hredirect

theorem isPermission_of_allow (h : rule.action = .allow) : rule.isPermission = true := by
  rw [isPermission, h]
  rfl

theorem precedes_iff_rank_le : rule.Precedes other ↔ other.rank ≤ rule.rank := by
  unfold Precedes rank
  cases rule.isPermission <;> cases other.isPermission <;> simp <;> omega

/-- Some rule wins, if there is one at all. -/
theorem exists_wins (h : rules ≠ []) : ∃ rule, Wins rules rule := by
  cases hbest : rules.argmax rank with
  | none => exact absurd (List.argmax_eq_none.1 hbest) h
  | some rule =>
    exact ⟨rule, List.argmax_mem hbest, fun other hother =>
      precedes_iff_rank_le.2 (List.le_of_mem_argmax hother hbest)⟩

/-- What follows for a request does not depend on which of the winners the browser takes. -/
theorem Wins.isPermission_eq (h : Wins rules rule) (hother : Wins rules other) :
    rule.isPermission = other.isPermission := by
  have hle := precedes_iff_rank_le.1 (h.2 other hother.1)
  have hge := precedes_iff_rank_le.1 (hother.2 rule h.1)
  unfold rank at hle hge
  cases hone : rule.isPermission <;> cases htwo : other.isPermission <;>
    simp only [hone, htwo, Bool.toNat_false, Bool.toNat_true] at hle hge ⊢ <;> omega

section Converted

variable {filter : NetworkFilter} {filters : List NetworkFilter}

/-- What the importance of a filter adds to its priority. -/
def bonus (filter : NetworkFilter) : Nat :=
  if filter.isImportant then Priority.filterImportant else 0

/-- A converted exception is above the converted blocks and redirects of the same importance. -/
theorem priority_of_ofFilter (h : ofFilter filter = .ok rule) :
    filter.action = .allow ∧ rule.action = .allow ∧
        rule.priority = Priority.filterAllow + bonus filter ∨
      filter.action = .block ∧ rule.Stops ∧
        Priority.filterBlock + bonus filter ≤ rule.priority ∧
        rule.priority ≤ Priority.filterRedirect + bonus filter := by
  rw [ofFilter, obstacle?_of_ofFilter h, actionOf] at h
  cases hfilter : filter.action with
  | allow =>
    rw [hfilter] at h
    cases h
    exact .inl ⟨rfl, rfl, rfl⟩
  | block =>
    right
    rw [hfilter] at h
    cases hredirect : filter.redirect with
    | none =>
      rw [hredirect] at h
      cases h
      exact ⟨rfl, .inl rfl, le_refl _, Nat.add_le_add_right (by decide) _⟩
    | some name =>
      rw [hredirect] at h
      dsimp only at h
      cases hfound : Resource.find? name with
      | none =>
        rw [hfound] at h
        cases h
      | some resource =>
        rw [hfound] at h
        cases h
        exact ⟨rfl, .inr rfl, Nat.add_le_add_right (by decide) _, le_refl _⟩

/-- A filter whose rule comes first is important if the other is, and with the same importance it is an
exception if the other is. -/
theorem ahead_of_precedes {second : NetworkFilter} (h : ofFilter filter = .ok rule)
    (hsecond : ofFilter second = .ok other) (hprecedes : rule.Precedes other) :
    (second.isImportant = true → filter.isImportant = true) ∧
      (second.isImportant = filter.isImportant → second.action = .allow →
        filter.action = .allow) := by
  have hpriority := priority_of_ofFilter h
  have hother := priority_of_ofFilter hsecond
  rw [precedes_iff_rank_le, rank, rank] at hprecedes
  simp only [bonus, Priority.filterAllow, Priority.filterBlock, Priority.filterRedirect,
    Priority.filterImportant] at hpriority hother
  constructor
  · intro himportant
    by_contra hplain
    rw [if_neg hplain] at hpriority
    rw [if_pos himportant] at hother
    have hle := rule.isPermission.toNat_le
    omega
  · intro hsame hallow
    rcases hpriority with ⟨haction, -⟩ | ⟨-, hstops, -, hle⟩
    · exact haction
    rcases hother with ⟨-, hpermission, heq⟩ | ⟨hblock, -⟩
    · rw [hsame] at heq
      rw [hstops.isPermission_eq_false, isPermission_of_allow hpermission, heq] at hprecedes
      simp only [Bool.toNat_false, Bool.toNat_true] at hprecedes
      omega
    · rw [hallow] at hblock
      cases hblock

/-- All of the filters have a rule. -/
theorem exists_rule_of_ofFilters (h : ofFilters filters = (rules, [])) (hfilter : filter ∈ filters) :
    ∃ rule ∈ rules, ofFilter filter = .ok rule := by
  obtain ⟨hrules, herrors⟩ := Prod.mk.inj h
  cases hrule : ofFilter filter with
  | ok rule =>
    refine ⟨rule, ?_, rfl⟩
    rw [← hrules]
    exact List.mem_filterMap.2 ⟨filter, hfilter, by rw [hrule]; rfl⟩
  | error error =>
    have hnone := List.filterMap_eq_nil_iff.1 herrors filter hfilter
    rw [hrule] at hnone
    cases hnone

theorem exists_filter_of_ofFilters {errors : List ConversionError}
    (h : ofFilters filters = (rules, errors)) (hrule : rule ∈ rules) :
    ∃ filter ∈ filters, ofFilter filter = .ok rule := by
  rw [← (Prod.mk.inj h).1] at hrule
  obtain ⟨filter, hfilter, hsome⟩ := List.mem_filterMap.1 hrule
  refine ⟨filter, hfilter, ?_⟩
  cases hone : ofFilter filter with
  | ok one =>
    rw [hone] at hsome
    exact congrArg _ (Option.some.inj hsome)
  | error error =>
    rw [hone] at hsome
    cases hsome

end Converted

end Rule

end ContentFilter
