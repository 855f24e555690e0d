import ContentFilter.Matching.Precedence
import ContentFilter.Proofs.Rule.HostOrder

/-! The decision on a request beside the rules that are made of the same filters. The engine looks for
the deciding filter class by class, the browser goes by the priorities of the rules. -/

namespace ContentFilter

variable {candidate : Candidate} {candidates : List Candidate} {rule : Rule} {rules : List Rule}

namespace Precedence

/-- The request does not go through as it is. -/
def stops (result : MatchResult) : Prop := result.decision = .block ∨ result.decision = .redirect

theorem blocked_stops (candidates : List Candidate) (block : Candidate) :
    stops (blocked candidates block) := by
  unfold stops blocked
  split
  · exact .inr rfl
  · exact .inl rfl

theorem not_stops_iff {result : MatchResult} : ¬stops result ↔ result.decision = .allow := by
  unfold stops
  cases result.decision <;> simp

/-- Some candidate is of a class. -/
def Has (candidates : List Candidate) (isOf : Candidate → Bool) : Prop :=
  ∃ candidate ∈ candidates, isOf candidate = true

theorem not_has_of_find? {isOf : Candidate → Bool} (h : candidates.find? isOf = none) :
    ¬Has candidates isOf := by
  rintro ⟨candidate, hmem, hclass⟩
  exact List.find?_eq_none.1 h candidate hmem hclass

theorem has_of_find? {isOf : Candidate → Bool} (h : candidates.find? isOf = some candidate) :
    Has candidates isOf :=
  ⟨candidate, List.mem_of_find?_eq_some h, List.find?_some h⟩

/-- A request is stopped by an important block without an important exception, or by a block without
any exception. -/
theorem stops_decide_iff : stops (decide candidates) ↔
    ¬Has candidates (·.isAllow true) ∧ (Has candidates (·.isBlock true) ∨
      ¬Has candidates (·.isAllow false) ∧ Has candidates (·.isBlock false)) := by
  have hdecided (candidate : Candidate) : ¬stops (.decidedBy candidate .allow) :=
    not_stops_iff.2 rfl
  unfold decide
  split
  · next allow hallow => simp [hdecided, has_of_find? hallow]
  next hallow =>
  have hallow := not_has_of_find? hallow
  split
  · next block hblock => simp [blocked_stops, has_of_find? hblock, hallow]
  next hblock =>
  have hblock := not_has_of_find? hblock
  split
  · next plain hplain => simp [hdecided, has_of_find? hplain, hblock]
  next hplain =>
  have hplain := not_has_of_find? hplain
  split
  · next last hlast => simp [blocked_stops, has_of_find? hlast, hallow, hplain]
  · next hlast => simp [not_stops_iff, not_has_of_find? hlast, hblock]

end Precedence

namespace Candidate

theorem decides_of_ofFilter (h : Rule.ofFilter candidate.filter = .ok rule) :
    candidate.decides = true ∧ candidate.filter.has .redirectRule = false := by
  obtain ⟨hcsp, hcosmetic, -, hredirect, -⟩ :=
    Rule.obstacle?_eq_none_iff.1 (Rule.obstacle?_of_ofFilter h)
  refine ⟨?_, hredirect⟩
  rw [decides, hcsp, hcosmetic]
  rfl

/-- A filter that has a rule is of one of the four classes, which its action and importance tell. -/
theorem isAllow_of_ofFilter (h : Rule.ofFilter candidate.filter = .ok rule) (important : Bool) :
    candidate.isAllow important = true ↔
      candidate.filter.action = .allow ∧ candidate.filter.isImportant = important := by
  obtain ⟨hdecides, hredirect⟩ := decides_of_ofFilter h
  simp [isAllow, hdecides, hredirect]

theorem isBlock_of_ofFilter (h : Rule.ofFilter candidate.filter = .ok rule) (important : Bool) :
    candidate.isBlock important = true ↔
      candidate.filter.action = .block ∧ candidate.filter.isImportant = important := by
  obtain ⟨hdecides, hredirect⟩ := decides_of_ofFilter h
  simp [isBlock, hdecides, hredirect]

end Candidate

namespace Precedence

section Converted

variable (hrules : Rule.ofFilters (candidates.map (·.filter)) = (rules, []))
include hrules

theorem exists_rule (hmem : candidate ∈ candidates) :
    ∃ rule ∈ rules, Rule.ofFilter candidate.filter = .ok rule :=
  Rule.exists_rule_of_ofFilters hrules (List.mem_map_of_mem hmem)

theorem has_isAllow_iff (important : Bool) : Has candidates (·.isAllow important) ↔
    ∃ candidate ∈ candidates, candidate.filter.action = .allow ∧
      candidate.filter.isImportant = important := by
  apply exists_congr
  intro candidate
  apply and_congr_right
  intro hmem
  obtain ⟨rule, -, hrule⟩ := exists_rule hrules hmem
  exact Candidate.isAllow_of_ofFilter hrule important

theorem has_isBlock_iff (important : Bool) : Has candidates (·.isBlock important) ↔
    ∃ candidate ∈ candidates, candidate.filter.action = .block ∧
      candidate.filter.isImportant = important := by
  apply exists_congr
  intro candidate
  apply and_congr_right
  intro hmem
  obtain ⟨rule, -, hrule⟩ := exists_rule hrules hmem
  exact Candidate.isBlock_of_ofFilter hrule important

/-- The engine decides as the winning rule does. -/
theorem stops_decide_of_wins (hwins : Rule.Wins rules rule) :
    stops (decide candidates) ↔ rule.Stops := by
  obtain ⟨filter, hfilter, hrule⟩ := Rule.exists_filter_of_ofFilters hrules hwins.1
  obtain ⟨winner, hwinner, rfl⟩ := List.mem_map.1 hfilter
  have hahead (candidate : Candidate) (hmem : candidate ∈ candidates) :
      (candidate.filter.isImportant = true → winner.filter.isImportant = true) ∧
        (candidate.filter.isImportant = winner.filter.isImportant →
          candidate.filter.action = .allow → winner.filter.action = .allow) := by
    obtain ⟨other, hother, hofFilter⟩ := exists_rule hrules hmem
    exact Rule.ahead_of_precedes hrule hofFilter (hwins.2 other hother)
  rw [stops_decide_iff, has_isAllow_iff hrules, has_isAllow_iff hrules, has_isBlock_iff hrules,
    has_isBlock_iff hrules]
  rcases Rule.priority_of_ofFilter hrule with ⟨haction, hallow, -⟩ | ⟨haction, hstops, -⟩
  · -- an exception is found before every block of its importance
    refine iff_of_false ?_ (Rule.not_stops_of_allow hallow)
    rintro ⟨hnone, ⟨block, hmem, -, himportant⟩ | ⟨hplain, -⟩⟩
    · exact hnone ⟨winner, hwinner, haction, (hahead block hmem).1 himportant⟩
    · cases himportant : winner.filter.isImportant with
      | true => exact hnone ⟨winner, hwinner, haction, himportant⟩
      | false => exact hplain ⟨winner, hwinner, haction, himportant⟩
  · -- no exception of its importance or above stands beside a block that wins
    refine iff_of_true ?_ hstops
    have hnone (candidate : Candidate) (hmem : candidate ∈ candidates)
        (hsame : candidate.filter.isImportant = winner.filter.isImportant) :
        candidate.filter.action ≠ .allow := by
      intro hcandidate
      rw [(hahead candidate hmem).2 hsame hcandidate] at haction
      cases haction
    cases himportant : winner.filter.isImportant with
    | true =>
      rw [himportant] at hnone
      constructor
      · rintro ⟨candidate, hmem, hcandidate, hsame⟩
        exact hnone candidate hmem hsame hcandidate
      · exact .inl ⟨winner, hwinner, haction, himportant⟩
    | false =>
      rw [himportant] at hnone
      refine ⟨?_, .inr ⟨?_, winner, hwinner, haction, himportant⟩⟩
      · rintro ⟨candidate, hmem, -, hsame⟩
        rw [(hahead candidate hmem).1 hsame] at himportant
        cases himportant
      · rintro ⟨candidate, hmem, hcandidate, hsame⟩
        exact hnone candidate hmem hsame hcandidate

theorem exists_wins (h : candidates ≠ []) : ∃ rule, Rule.Wins rules rule := by
  obtain ⟨candidate, hmem⟩ := List.exists_mem_of_ne_nil candidates h
  obtain ⟨rule, hrule, -⟩ := exists_rule hrules hmem
  exact Rule.exists_wins (List.ne_nil_of_mem hrule)

/-- A rule that is made of a filter permits or stops. -/
theorem allow_iff_not_stops (hrule : rule ∈ rules) : rule.action = .allow ↔ ¬rule.Stops := by
  obtain ⟨filter, -, hfilter⟩ := Rule.exists_filter_of_ofFilters hrules hrule
  rcases Rule.priority_of_ofFilter hfilter with ⟨-, hallow, -⟩ | ⟨-, hstops, -⟩
  · exact iff_of_true hallow (Rule.not_stops_of_allow hallow)
  · exact iff_of_false (fun hallow => Rule.not_stops_of_allow hallow hstops) (not_not_intro hstops)

end Converted

/-- Under filters that all have a rule the browser lets a request through, or has no rule for it, just
when the engine allows the request. -/
theorem decide_agrees_with_rules
    (hrules : Rule.ofFilters (candidates.map (·.filter)) = (rules, [])) :
    (((∃ rule, Rule.Wins rules rule ∧ rule.action = .allow) ∨ candidates = []) ↔
        (decide candidates).decision = .allow) ∧
      ((∃ rule, Rule.Wins rules rule ∧ (rule.action = .block ∨ rule.action = .redirect)) ↔
        (decide candidates).decision = .block ∨ (decide candidates).decision = .redirect) := by
  have hdecision : (decide candidates).decision = .allow ↔ ¬stops (decide candidates) :=
    not_stops_iff.symm
  constructor
  · rw [hdecision]
    constructor
    · rintro (⟨rule, hwins, hallow⟩ | rfl)
      · rw [stops_decide_of_wins hrules hwins]
        exact Rule.not_stops_of_allow hallow
      · exact not_stops_iff.2 rfl
    · intro hpasses
      by_cases hempty : candidates = []
      · exact .inr hempty
      obtain ⟨rule, hwins⟩ := exists_wins hrules hempty
      rw [stops_decide_of_wins hrules hwins] at hpasses
      exact .inl ⟨rule, hwins, (allow_iff_not_stops hrules hwins.1).2 hpasses⟩
  · constructor
    · rintro ⟨rule, hwins, hstops⟩
      exact (stops_decide_of_wins hrules hwins).2 hstops
    · intro hstops
      have hne : candidates ≠ [] := by
        rintro rfl
        exact not_stops_iff.2 rfl hstops
      obtain ⟨rule, hwins⟩ := exists_wins hrules hne
      exact ⟨rule, hwins, (stops_decide_of_wins hrules hwins).1 hstops⟩

/-- The filters of some texts as candidates. -/
def candidatesOf (texts : List String) : List Candidate :=
  texts.filterMap fun text => (NetworkFilter.parse text).toOption.map (Candidate.mk · "ads")

def importantTexts : List String :=
  ["@@||ads.com^", "||ads.com^$important,redirect=noopjs", "||ads.com^"]

/-- An important redirect is ahead of an exception on both sides. -/
theorem decide_agrees_with_rules_important :
    let candidates := candidatesOf importantTexts
    let rules := (Rule.ofFilters (candidates.map (·.filter))).1
    Rule.ofFilters (candidates.map (·.filter)) = (rules, []) ∧
      (decide candidates).decision = .redirect ∧
      ∃ rule, Rule.Wins rules rule ∧ (rule.action = .block ∨ rule.action = .redirect) := by
  have hrules : Rule.ofFilters ((candidatesOf importantTexts).map (·.filter)) =
      ((Rule.ofFilters ((candidatesOf importantTexts).map (·.filter))).1, []) := by
    decide +kernel
  have hdecision : (decide (candidatesOf importantTexts)).decision = .redirect := by
    decide +kernel
  exact ⟨hrules, hdecision, (decide_agrees_with_rules hrules).2.2 (.inr hdecision)⟩

-- on a tie of important filters the exception decides
example : (decide (candidatesOf ["||ads.com^$important,redirect=noopjs",
    "@@||ads.com^$important"])).decision = .allow := by decide +kernel

end Precedence

end ContentFilter

/-! The ranks of the filters that decide about requests. The first rank that occurs among the candidates
decides, and nothing else about them matters for whether the request is stopped. -/

namespace ContentFilter

/-- The filter neither sets a policy nor turns a cosmetic switch, so it is about the request itself. -/
structure NetworkFilter.IsAboutRequests (filter : NetworkFilter) : Prop where
  noPolicy : filter.csp = none
  noGenericHide : filter.has .genericHide = false
  noElemHide : filter.has .elemHide = false

theorem Candidate.decides_iff {candidate : Candidate} :
    candidate.decides = true ↔ candidate.filter.IsAboutRequests := by
  simp only [decides, NetworkFilter.isCsp, NetworkFilter.isCosmeticException, Bool.and_eq_true,
    Bool.not_eq_true', Option.isSome_eq_false_iff, Option.isNone_iff_eq_none, Bool.or_eq_false_iff]
  exact ⟨fun h => ⟨h.1, h.2.1, h.2.2⟩, fun h => ⟨h.noPolicy, h.noGenericHide, h.noElemHide⟩⟩

/-- The ranks of deciding filters, in their order. -/
inductive Rank where
  | importantAllow | importantBlock | allow | block
  deriving DecidableEq

namespace Rank

variable {rank : Rank} {candidate : Candidate} {candidates : List Candidate}

def action : Rank → Action
  | importantAllow | allow => .allow
  | importantBlock | block => .block

def isImportant : Rank → Bool
  | importantAllow | importantBlock => true
  | allow | block => false

/-- The ranks that come before. -/
def ahead : Rank → List Rank
  | importantAllow => []
  | importantBlock => [importantAllow]
  | allow => [importantAllow, importantBlock]
  | block => [importantAllow, importantBlock, allow]

/-- The filter has the rank. A filter that sets a policy, that turns a cosmetic switch or that is about
redirects only has none. -/
structure Includes (rank : Rank) (filter : NetworkFilter) : Prop extends filter.IsAboutRequests where
  action : filter.action = rank.action
  important : filter.isImportant = rank.isImportant
  noRedirectRule : filter.has .redirectRule = false

def Occurs (rank : Rank) (candidates : List Candidate) : Prop :=
  ∃ candidate ∈ candidates, rank.Includes candidate.filter

/-- The rank is the first that occurs. -/
structure Decides (rank : Rank) (candidates : List Candidate) : Prop where
  occurs : rank.Occurs candidates
  first : ∀ other ∈ rank.ahead, ¬other.Occurs candidates

def isOf : Rank → Candidate → Bool
  | importantAllow => Candidate.isAllow true
  | importantBlock => Candidate.isBlock true
  | allow => Candidate.isAllow false
  | block => Candidate.isBlock false

theorem isOf_iff : rank.isOf candidate = true ↔ rank.Includes candidate.filter := by
  have hparts : rank.isOf candidate = true ↔ candidate.decides = true ∧
      candidate.filter.action = rank.action ∧ candidate.filter.has .redirectRule = false ∧
        candidate.filter.isImportant = rank.isImportant := by
    cases rank <;>
      simp [isOf, action, isImportant, Candidate.isAllow, Candidate.isBlock, and_assoc]
  rw [hparts, Candidate.decides_iff]
  constructor
  · rintro ⟨hrequests, haction, hredirect, himportant⟩
    exact ⟨hrequests, haction, himportant, hredirect⟩
  · rintro ⟨hrequests, haction, himportant, hredirect⟩
    exact ⟨hrequests, haction, hredirect, himportant⟩

theorem has_iff_occurs (rank : Rank) : Precedence.Has candidates rank.isOf ↔ rank.Occurs candidates := by
  simp only [Precedence.Has, Occurs, isOf_iff]

instance : Decidable (rank.Occurs candidates) :=
  decidable_of_iff (candidates.any rank.isOf = true) (by simp [Occurs, isOf_iff])

instance : Decidable (rank.Decides candidates) :=
  decidable_of_iff (rank.Occurs candidates ∧ ∀ other ∈ rank.ahead, ¬other.Occurs candidates)
    ⟨fun h => ⟨h.1, h.2⟩, fun h => ⟨h.occurs, h.first⟩⟩

theorem find?_eq_none (h : ¬rank.Occurs candidates) : candidates.find? rank.isOf = none := by
  rw [← has_iff_occurs] at h
  simpa [Precedence.Has] using h

theorem exists_find? (h : rank.Occurs candidates) :
    ∃ candidate, candidates.find? rank.isOf = some candidate := by
  obtain ⟨candidate, hmem, hincludes⟩ := h
  rw [← Option.isSome_iff_exists, List.find?_isSome]
  exact ⟨candidate, hmem, isOf_iff.2 hincludes⟩

/-- What a rank decides through one of its candidates. -/
def result (candidates : List Candidate) (candidate : Candidate) : Rank → MatchResult
  | importantAllow | allow => .decidedBy candidate .allow
  | importantBlock | block => Precedence.blocked candidates candidate

/-- The first candidate of the first rank that occurs decides. -/
theorem Decides.exists_decide_eq (h : rank.Decides candidates) : ∃ candidate,
    candidates.find? rank.isOf = some candidate ∧
      Precedence.decide candidates = rank.result candidates candidate := by
  obtain ⟨candidate, hcandidate⟩ := exists_find? h.occurs
  have hahead (other : Rank) (hother : other ∈ rank.ahead) : candidates.find? other.isOf = none :=
    find?_eq_none (h.first other hother)
  refine ⟨candidate, hcandidate, ?_⟩
  cases rank with
  | importantAllow =>
    simp only [isOf] at hcandidate
    simp [Precedence.decide, hcandidate, result]
  | importantBlock =>
    have hnone := hahead importantAllow (by simp [ahead])
    simp only [isOf] at hcandidate hnone
    simp [Precedence.decide, hnone, hcandidate, result]
  | allow =>
    have hnone := hahead importantAllow (by simp [ahead])
    have hnoBlock := hahead importantBlock (by simp [ahead])
    simp only [isOf] at hcandidate hnone hnoBlock
    simp [Precedence.decide, hnone, hnoBlock, hcandidate, result]
  | block =>
    have hnone := hahead importantAllow (by simp [ahead])
    have hnoBlock := hahead importantBlock (by simp [ahead])
    have hnoAllow := hahead allow (by simp [ahead])
    simp only [isOf] at hcandidate hnone hnoBlock hnoAllow
    simp [Precedence.decide, hnone, hnoBlock, hnoAllow, hcandidate, result]

/-- Some rank decides, unless none occurs. -/
theorem exists_decides (candidates : List Candidate) :
    (∃ rank : Rank, rank.Decides candidates) ∨ ∀ rank : Rank, ¬rank.Occurs candidates := by
  by_cases himportantAllow : importantAllow.Occurs candidates
  · exact .inl ⟨importantAllow, himportantAllow, by simp [ahead]⟩
  by_cases himportantBlock : importantBlock.Occurs candidates
  · exact .inl ⟨importantBlock, himportantBlock, by simp [ahead, himportantAllow]⟩
  by_cases hallow : allow.Occurs candidates
  · exact .inl ⟨allow, hallow, by simp [ahead, himportantAllow, himportantBlock]⟩
  by_cases hblock : block.Occurs candidates
  · exact .inl ⟨block, hblock, by simp [ahead, himportantAllow, himportantBlock, hallow]⟩
  right
  intro rank
  cases rank <;> assumption

/-- The request is stopped by an important block without an important exception, or by a block if there
is neither an important one nor any exception. -/
theorem stops_iff_occurs : Precedence.stops (Precedence.decide candidates) ↔
    (importantBlock.Occurs candidates ∧ ¬importantAllow.Occurs candidates) ∨
      (block.Occurs candidates ∧ ¬importantBlock.Occurs candidates ∧
        ¬importantAllow.Occurs candidates ∧ ¬allow.Occurs candidates) := by
  simp only [Precedence.stops_decide_iff, ← has_iff_occurs, isOf]
  tauto

/-- A request that is stopped is stopped by a rank of blocks. -/
theorem exists_decides_of_stops (h : Precedence.stops (Precedence.decide candidates)) :
    ∃ rank : Rank, rank.Decides candidates ∧ rank.action = .block := by
  rcases exists_decides candidates with ⟨rank, hdecides⟩ | hnone
  · refine ⟨rank, hdecides, ?_⟩
    obtain ⟨candidate, -, hdecide⟩ := hdecides.exists_decide_eq
    rw [hdecide] at h
    cases rank with
    | importantAllow => exact absurd h (Precedence.not_stops_iff.2 rfl)
    | allow => exact absurd h (Precedence.not_stops_iff.2 rfl)
    | importantBlock => rfl
    | block => rfl
  · rw [stops_iff_occurs] at h
    rcases h with ⟨hblock, -⟩ | ⟨hblock, -⟩
    · exact absurd hblock (hnone importantBlock)
    · exact absurd hblock (hnone block)

section SameMembers

variable {others : List Candidate} (hsame : ∀ candidate, candidate ∈ others ↔ candidate ∈ candidates)
include hsame

theorem occurs_congr : rank.Occurs others ↔ rank.Occurs candidates := by
  simp only [Occurs, hsame]

theorem decides_congr : rank.Decides others ↔ rank.Decides candidates := by
  have hocc (rank : Rank) : rank.Occurs others ↔ rank.Occurs candidates := occurs_congr hsame
  constructor
  · rintro ⟨hoccurs, hfirst⟩
    exact ⟨(hocc rank).1 hoccurs, fun other hother h => hfirst other hother ((hocc other).2 h)⟩
  · rintro ⟨hoccurs, hfirst⟩
    exact ⟨(hocc rank).2 hoccurs, fun other hother h => hfirst other hother ((hocc other).1 h)⟩

theorem stops_congr : Precedence.stops (Precedence.decide others) ↔
    Precedence.stops (Precedence.decide candidates) := by
  simp only [stops_iff_occurs, occurs_congr hsame]

end SameMembers

/-- The filter and the list that the answer names are those of a candidate of the deciding rank. -/
theorem Decides.reports (h : rank.Decides candidates) : ∃ candidate ∈ candidates,
    rank.Includes candidate.filter ∧
      (Precedence.decide candidates).filter = some candidate.filter.raw ∧
      (Precedence.decide candidates).list = some candidate.list := by
  obtain ⟨candidate, hfind, hdecide⟩ := h.exists_decide_eq
  have hresult : (rank.result candidates candidate).filter = some candidate.filter.raw ∧
      (rank.result candidates candidate).list = some candidate.list := by
    cases rank <;> simp only [result, Precedence.blocked]
    case importantAllow => exact ⟨rfl, rfl⟩
    case allow => exact ⟨rfl, rfl⟩
    case importantBlock => split <;> exact ⟨rfl, rfl⟩
    case block => split <;> exact ⟨rfl, rfl⟩
  rw [hdecide]
  exact ⟨candidate, List.mem_of_find?_eq_some hfind, isOf_iff.1 (List.find?_some hfind), hresult⟩

/-- Without a filter of any rank the request goes through, and no filter is named. -/
theorem decide_of_no_rank (h : ∀ rank : Rank, ¬rank.Occurs candidates) :
    Precedence.decide candidates = {} := by
  have hnone (rank : Rank) : candidates.find? rank.isOf = none := find?_eq_none (h rank)
  have himportantAllow := hnone importantAllow
  have himportantBlock := hnone importantBlock
  have hallow := hnone allow
  have hblock := hnone block
  simp only [isOf] at himportantAllow himportantBlock hallow hblock
  simp [Precedence.decide, himportantAllow, himportantBlock, hallow, hblock]

end Rank

end ContentFilter
