import ContentFilter.Allow.Exceptions
import ContentFilter.Proofs.Data.Traverse
import ContentFilter.Proofs.Domain.Lineage
import ContentFilter.Proofs.Text.Basic

/-! Which filters have a declarative rule, and what it says. -/

namespace ContentFilter

namespace Resource

theorem slash_mem_baseName {name : List Char} (h : '/' ∈ name) : '/' ∈ baseName name := by
  have htrim : '/' ∈ Text.trim name := Text.mem_trim h (by decide)
  dsimp only [baseName]
  split
  · next base rest hcut =>
    split
    · next hpriority =>
      rw [Text.cut?_append hcut, List.mem_append, List.mem_append] at htrim
      rcases htrim with (htrim | htrim) | htrim
      · exact htrim
      · exact absurd htrim (by decide)
      · exact absurd (List.all_eq_true.1 hpriority '/' htrim) (by decide)
    · exact htrim
  · exact htrim

/-- No bundled resource has a name with a slash. -/
theorem find?_slash {name : String} (h : '/' ∈ name.toList) : find? name = none := by
  have hmem := slash_mem_baseName h
  have hnames : ∀ resource ∈ bundled, ∀ known ∈ resource.name :: resource.aliases,
      '/' ∉ Text.lower known.toList := by decide
  rw [find?, Option.map_eq_none_iff, List.find?_eq_none]
  intro resource hresource hanswers
  obtain ⟨known, hknown, hequal⟩ := List.any_eq_true.1 hanswers
  apply hnames resource hresource known hknown
  rw [beq_iff_eq.1 hequal]
  exact List.mem_map.2 ⟨'/', hmem, by decide⟩

end Resource

namespace Rule

open Domain (IsAscii)

variable {filter : NetworkFilter} {rule : Rule}

theorem obstacle?_eq_none_iff :
    obstacle? filter = none ↔ filter.isCsp = false ∧ filter.isCosmeticException = false ∧
      filter.has .badFilter = false ∧ filter.has .redirectRule = false ∧
      IsAscii filter.raw.toList := by
  have hraw : filter.raw.toList.any (0x80 ≤ ·.toNat) = false ↔ IsAscii filter.raw.toList := by
    simp [IsAscii]
  rw [← hraw]
  unfold obstacle?
  grind

theorem obstacle?_of_ofFilter (h : ofFilter filter = .ok rule) : obstacle? filter = none := by
  unfold ofFilter at h
  split at h
  · cases h
  · assumption

theorem condition_of_ofFilter (h : ofFilter filter = .ok rule) :
    rule.id = 0 ∧ rule.condition = conditionOf filter := by
  unfold ofFilter at h
  split at h
  · cases h
  split at h
  · cases h
  · cases h
    exact ⟨rfl, rfl⟩

/-- Without an obstacle an exception has a rule. -/
theorem ofFilter_allow (hallow : filter.action = .allow) (h : obstacle? filter = none) :
    ∃ rule, ofFilter filter = .ok rule := by
  rw [ofFilter, h, actionOf, hallow]
  exact ⟨_, rfl⟩

/-- A filter whose rule blocks or redirects is no exception, and its redirect is a known one. -/
theorem block_of_ofFilter (h : ofFilter filter = .ok rule)
    (haction : rule.action = .block ∨ rule.action = .redirect) : filter.action = .block ∧
      ∀ name, filter.redirect = some name → Resource.find? name ≠ none := by
  have hnone := obstacle?_of_ofFilter h
  rw [ofFilter, hnone, actionOf] at h
  cases hfilter : filter.action with
  | allow =>
    rw [hfilter] at h
    cases h
    rcases haction with haction | haction <;> cases haction
  | block =>
    refine ⟨rfl, fun name hname hunknown => ?_⟩
    rw [hfilter, hname] at h
    dsimp only at h
    rw [hunknown] at h
    cases h

end Rule

/-- The rule of an exception is that of a filter, but for what makes it an exception. -/
theorem Exceptions.exists_source_of_mem_rules {config : Config} {db : TrackerDb} {rule : Rule}
    (h : rule ∈ Exceptions.rules config db) : ∃ filter source, Rule.ofFilter filter = .ok source ∧
      rule = { source with priority := Priority.exception, action := .allow, redirect := none } := by
  rw [Exceptions.rules, List.mem_filterMap] at h
  obtain ⟨text, -, hrule⟩ := h
  simp only [Exceptions.ruleOf?, Option.bind_eq_bind, Option.bind_eq_some_iff, Option.pure_def,
    Option.some.injEq] at hrule
  obtain ⟨filter, -, source, hsource, rfl⟩ := hrule
  exact ⟨filter, source, ok_of_toOption hsource, rfl⟩

end ContentFilter
