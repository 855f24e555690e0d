import ContentFilter.Engine.Custom
import ContentFilter.Proofs.Domain.Lineage
import ContentFilter.Proofs.Matching.Duplicates
import ContentFilter.Proofs.Rule.Convert

/-! The rules of the user's filters beside the engine that is compiled from the same text. The engine
drops cancelled and repeated filters, the rules are made line by line. -/

namespace ContentFilter

namespace NetworkFilter

open Domain (IsAscii)

/-- The first of the filters that say the same. -/
def first? (filters : List NetworkFilter) (filter : NetworkFilter) : Option NetworkFilter :=
  filters.find? fun other => !other.has .badFilter && other.body == filter.body

/-- The first of the filters that say the same is written with other characters than ASCII ones, so
that it has no rule. -/
def IsShadowed (filters : List NetworkFilter) (filter : NetworkFilter) : Prop :=
  ∃ first, first? filters filter = some first ∧ ¬IsAscii first.raw.toList

variable {filters : List NetworkFilter} {filter : NetworkFilter}

/-- A filter that no other cancels is kept in the form of the first one that says the same. -/
theorem find?_optimize (hcancelled : ¬filter.IsCancelled filters) :
    (optimize filters).1.find? (·.body == filter.body) = first? filters filter := by
  rw [optimize_eq, first?, find?_distinctBy, uncancelled, List.find?_filter]
  congr 1
  funext other
  cases hbody : other.body == filter.body with
  | false => simp
  | true =>
    have hnot : ¬other.IsCancelled filters := by
      rwa [IsCancelled, beq_iff_eq.1 hbody]
    simp [hnot]

end NetworkFilter

namespace Rule

open Domain (IsAscii)

variable {filter other : NetworkFilter} {rule : Rule}

/-- The text of a filter matters to its rule only through its characters. -/
theorem ofFilter_of_body_eq (hother : other.has .badFilter = false)
    (hascii : IsAscii other.raw.toList) (hbody : filter.body = other.body)
    (h : ofFilter filter = .ok rule) : ofFilter other = .ok rule := by
  have hnone := obstacle?_of_ofFilter h
  obtain ⟨hcsp, hcosmetic, hlive, hredirect, -⟩ := obstacle?_eq_none_iff.1 hnone
  have hsame := NetworkFilter.eq_of_body_eq hlive hother hbody
  have hnone' : obstacle? other = none := by
    rw [hsame] at hcsp hcosmetic hredirect
    exact obstacle?_eq_none_iff.2 ⟨hcsp, hcosmetic, hother, hredirect, hascii⟩
  have haction : actionOf filter = actionOf other := by
    rw [hsame]
    rfl
  have hcondition : conditionOf filter = conditionOf other := by
    rw [hsame]
    rfl
  have himportant : filter.isImportant = other.isImportant := by
    rw [hsame]
    rfl
  unfold ofFilter at h ⊢
  rw [hnone, haction, hcondition, himportant] at h
  rw [hnone']
  cases hdone : actionOf other with
  | error cause => simp [hdone] at h
  | ok done =>
    rw [hdone] at h
    exact h

theorem mem_ofFilters {filters : List NetworkFilter} :
    rule ∈ (ofFilters filters).1 ↔ ∃ filter ∈ filters, ofFilter filter = .ok rule := by
  have hsome (filter : NetworkFilter) :
      (ofFilter filter).toOption = some rule ↔ ofFilter filter = .ok rule := by
    cases ofFilter filter <;> simp [Except.toOption]
  simp [ofFilters, hsome]

end Rule

/-- The rules of the network filters that an engine holds. -/
def Engine.rules (engine : Engine) : List Rule :=
  (Rule.ofFilters (engine.lists.flatMap (·.network))).1

namespace CustomFilters

open NetworkFilter (optimize optimize_subset find?_optimize)

variable {filters : List NetworkFilter} {filter : NetworkFilter} {rule : Rule}

theorem rules_compile (origin : Nat) (text : String) (trusted : Bool) :
    (compile origin text trusted).2.rules =
      (Rule.ofFilters (optimize (parse text trusted).network).1).1 := by
  simp [Engine.rules, compile, Engine.ofFilters, Engine.ofList, Engine.lists, FilterList.ofFilters,
    FilterList.ofContent]

/-- A filter with a rule loses it in the engine only to a filter that takes it out, or to an earlier
one that says the same and has no rule. -/
theorem mem_rules_optimize (hfilter : filter ∈ filters) (hrule : Rule.ofFilter filter = .ok rule)
    (hcancelled : ¬filter.IsCancelled filters) (hshadowed : ¬filter.IsShadowed filters) :
    rule ∈ (Rule.ofFilters (optimize filters).1).1 := by
  obtain ⟨-, -, hlive, -, -⟩ := Rule.obstacle?_eq_none_iff.1 (Rule.obstacle?_of_ofFilter hrule)
  have hkept := find?_optimize hcancelled
  cases hfirst : NetworkFilter.first? filters filter with
  | none =>
    have hnot := List.find?_eq_none.1 hfirst filter hfilter
    simp [hlive] at hnot
  | some first =>
    rw [hfirst] at hkept
    have hprops := List.find?_some hfirst
    rw [Bool.and_eq_true, Bool.not_eq_true', beq_iff_eq] at hprops
    obtain ⟨hfirstLive, hbody⟩ := hprops
    have hascii : Domain.IsAscii first.raw.toList := by
      by_contra hnot
      exact hshadowed ⟨first, hfirst, hnot⟩
    apply Rule.mem_ofFilters.2
    refine ⟨first, List.mem_of_find?_eq_some hkept, ?_⟩
    exact Rule.ofFilter_of_body_eq hfirstLive hascii hbody.symm hrule

/-- The user's rules are those of the engine's filters, and beyond them those of the filters that the
engine took out, or gave up for an earlier one without a rule. So both hold the same rules exactly
when each rule of such a filter is also one of a filter in the engine. -/
theorem rulesOf_agrees_iff (config : Config) (text : String) (origin : Nat)
    (htext : config.effectiveCustomFilters = some text) :
    let filters := (parse text config.customFilters.trustedScriptlets).network
    let engine := (compile origin text config.customFilters.trustedScriptlets).2
    (∀ rule, rule ∈ (rulesOf config).1 ↔ rule ∈ engine.rules ∨ ∃ filter ∈ filters,
      Rule.ofFilter filter = .ok rule ∧ (filter.IsCancelled filters ∨ filter.IsShadowed filters)) ∧
    ((∀ rule, rule ∈ (rulesOf config).1 ↔ rule ∈ engine.rules) ↔
      ∀ filter ∈ filters, filter.IsCancelled filters ∨ filter.IsShadowed filters →
        ∀ rule, Rule.ofFilter filter = .ok rule → rule ∈ engine.rules) := by
  intro filters engine
  have hrules : (rulesOf config).1 = (Rule.ofFilters filters).1 := by
    rw [rulesOf, htext]
  have hengine : engine.rules = (Rule.ofFilters (optimize filters).1).1 :=
    rules_compile origin text config.customFilters.trustedScriptlets
  have hmem (rule : Rule) : rule ∈ (rulesOf config).1 ↔ rule ∈ engine.rules ∨ ∃ filter ∈ filters,
      Rule.ofFilter filter = .ok rule ∧
        (filter.IsCancelled filters ∨ filter.IsShadowed filters) := by
    rw [hrules, hengine, Rule.mem_ofFilters]
    constructor
    · rintro ⟨filter, hfilter, hrule⟩
      by_cases hlost : filter.IsCancelled filters ∨ filter.IsShadowed filters
      · exact .inr ⟨filter, hfilter, hrule, hlost⟩
      · rw [not_or] at hlost
        exact .inl (mem_rules_optimize hfilter hrule hlost.1 hlost.2)
    · rintro (hkept | ⟨filter, hfilter, hrule, -⟩)
      · obtain ⟨filter, hfilter, hrule⟩ := Rule.mem_ofFilters.1 hkept
        exact ⟨filter, optimize_subset filters hfilter, hrule⟩
      · exact ⟨filter, hfilter, hrule⟩
  refine ⟨hmem, ?_⟩
  constructor
  · intro hagree filter hfilter hlost rule hrule
    exact (hagree rule).1 ((hmem rule).2 (.inr ⟨filter, hfilter, hrule, hlost⟩))
  · intro hall rule
    rw [hmem]
    constructor
    · rintro (hkept | ⟨filter, hfilter, hrule, hlost⟩)
      · exact hkept
      · exact hall filter hfilter hlost rule hrule
    · exact .inl

/-- A configuration with that text of the user's. -/
def configOf (text : String) : Config := { customFilters := { enabled := true, text } }

/-- A filter, and one that takes it out. -/
def withdrawnText : String := "||ads.com^\n||ads.com^$badfilter"

theorem rulesOf_agrees_iff_withdrawn :
    let filters := (parse withdrawnText false).network
    (configOf withdrawnText).effectiveCustomFilters = some withdrawnText ∧
      ∀ rule, rule ∈ (rulesOf (configOf withdrawnText)).1 ↔
        rule ∈ (compile 0 withdrawnText false).2.rules ∨ ∃ filter ∈ filters,
          Rule.ofFilter filter = .ok rule ∧
            (filter.IsCancelled filters ∨ filter.IsShadowed filters) := by
  have htext : (configOf withdrawnText).effectiveCustomFilters = some withdrawnText := rfl
  exact ⟨htext, (rulesOf_agrees_iff (configOf withdrawnText) withdrawnText 0 htext).1⟩

/-- The filter that the engine took out still has its rule. -/
theorem withdrawn_has_rule :
    { priority := Priority.filterBlock, action := .block,
      condition := { urlFilter := some "||ads.com^" } } ∈ (rulesOf (configOf withdrawnText)).1 ∧
      (compile 0 withdrawnText false).2.rules = [] := by
  constructor
  · decide +kernel
  · have hlost : ∀ filter ∈ (parse withdrawnText false).network, filter.has .badFilter = true ∨
        ∃ bad ∈ (parse withdrawnText false).network,
          bad.has .badFilter = true ∧ bad.body = filter.body := by
      decide +kernel
    have hkept : (optimize (parse withdrawnText false).network).1 = [] := by
      rw [List.eq_nil_iff_forall_not_mem]
      intro filter hfilter
      obtain ⟨hlive, hcancelled⟩ := NetworkFilter.not_isCancelled_of_mem_optimize hfilter
      rcases hlost filter (optimize_subset _ hfilter) with hflag | hbad
      · rw [hlive] at hflag
        contradiction
      · exact hcancelled hbad
    rw [rules_compile, hkept]
    rfl

end CustomFilters

end ContentFilter
