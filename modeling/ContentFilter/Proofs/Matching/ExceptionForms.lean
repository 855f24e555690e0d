import ContentFilter.Proofs.Engine.Restore
import ContentFilter.Proofs.Matching.Answers
import ContentFilter.Proofs.Matching.CosmeticOrder
import ContentFilter.Proofs.Matching.PageRules

/-! What exceptions take away from a page besides the rules of their own form. The answer of an engine is
compared with that of another one whose lists lack some of the cosmetic filters. -/

namespace ContentFilter

/-- The form of a rule or of an exception: what is done to a page, or that it is done to the body of the
response. -/
inductive CosmeticForm where
  | hide | style | extended | scriptlet | html
  deriving DecidableEq, Repr

def CosmeticKind.form : CosmeticKind → CosmeticForm
  | .hide => .hide
  | .style _ => .style
  | .extended => .extended
  | .scriptlet _ => .scriptlet
  | .html => .html

def PageRule.form : PageRule → CosmeticForm
  | .hide _ => .hide
  | .style _ _ => .style
  | .extended _ => .extended
  | .scriptlet _ => .scriptlet

namespace CosmeticFilter

variable {filter : CosmeticFilter} {rule : PageRule} {form : CosmeticForm}

def isExceptionOf (form : CosmeticForm) (filter : CosmeticFilter) : Bool :=
  filter.unhide && filter.kind.form == form

theorem rule?_of_html (h : filter.kind = .html) : filter.rule? = none := by
  rw [rule?, h]

theorem scriptlet?_eq_none_iff : filter.scriptlet? = none ↔ filter.kind.form ≠ .scriptlet := by
  rw [scriptlet?]
  cases filter.kind <;> simp [CosmeticKind.form]

/-- An exception that is no scriptlet takes a rule away by its selector, and no rule of a scriptlet. -/
theorem cancels_of_selector (hunhide : filter.unhide = true) (hform : filter.kind.form ≠ .scriptlet) :
    filter.cancels rule = true ↔ rule.selector? = some filter.selector := by
  unfold cancels
  rw [hunhide, scriptlet?_eq_none_iff.2 hform]
  cases rule <;> simp [PageRule.selector?, @eq_comm _ filter.selector]

/-- An exception from scriptlets takes only those away. -/
theorem form_of_cancels_scriptlet (hform : filter.kind.form = .scriptlet)
    (h : filter.cancels rule = true) : rule.form = .scriptlet := by
  have hsome : filter.scriptlet?.isNone = false := by
    rw [← Bool.not_eq_true, Option.isNone_iff_eq_none, scriptlet?_eq_none_iff, hform]
    exact fun h => h rfl
  cases rule with
  | scriptlet call => rfl
  | _ => simp [cancels, hsome] at h

end CosmeticFilter

/-- The line has no cosmetic filter to drop. -/
def ParsedList.keepsLine (drop : CosmeticFilter → Bool) (line : List Char) : Bool :=
  match Filter.parseChars line with
  | .ok (some (.cosmetic filter)) => !drop filter
  | _ => true

theorem ParsedList.ofLines_filter (drop : CosmeticFilter → Bool) (lines : List (List Char))
    (number other : Nat) :
    (ofLines number (lines.filter (keepsLine drop))).network = (ofLines other lines).network ∧
      (ofLines number (lines.filter (keepsLine drop))).cosmetic =
        (ofLines other lines).cosmetic.filter (!drop ·) := by
  induction lines generalizing number other with
  | nil => exact ⟨rfl, rfl⟩
  | cons line lines ih =>
    rw [List.filter_cons, keepsLine]
    cases hline : Filter.parseChars line with
    | error cause => simp [ofLines, add, hline, ih (number + 1) (other + 1)]
    | ok found =>
      cases found with
      | none => simp [ofLines, add, hline, ih (number + 1) (other + 1)]
      | some found =>
        cases found with
        | network filter => simp [ofLines, add, hline, ih (number + 1) (other + 1)]
        | cosmetic filter =>
          cases hdropped : drop filter with
          | true => simp [ofLines, add, hline, hdropped, ih number (other + 1)]
          | false => simp [ofLines, add, hline, hdropped, ih (number + 1) (other + 1)]

theorem FilterList.drops_ofFilters (drop : CosmeticFilter → Bool) (name : String) (digest other : UInt64)
    (network : List NetworkFilter) (cosmetic : List CosmeticFilter) :
    Drops drop (ofFilters name digest network cosmetic)
      (ofFilters name other network (cosmetic.filter (!drop ·))) := ⟨rfl, rfl, rfl⟩

/-- Without the lines of the filters to drop a text is compiled to the list without them. -/
theorem FilterList.drops_parse {drop : CosmeticFilter → Bool} {name text less : String}
    (h : Text.lines less.toList = (Text.lines text.toList).filter (ParsedList.keepsLine drop)) :
    Drops drop (parse name text).1 (parse name less).1 := by
  obtain ⟨hnetwork, hcosmetic⟩ := ParsedList.ofLines_filter drop (Text.lines text.toList) 1 1
  rw [parse, parse, ParsedList.parse, ParsedList.parse, h]
  dsimp only
  rw [hnetwork, hcosmetic]
  exact drops_ofFilters drop name _ _ _ _

namespace CosmeticMatch

variable {query : CosmeticQuery} {switches : CosmeticSwitches} {filters : List CosmeticFilter}
  {drop : CosmeticFilter → Bool} {rules : List PageRule} {enableGeneric : Bool}

/-- Filters without a rule of their own can be left out of those that rules are made of. -/
theorem made_filter (hread : ∀ filter ∈ filters, filter.IsRead)
    (hdrop : ∀ filter ∈ filters, drop filter = true → filter.unhide = true ∨ filter.rule? = none) :
    made query switches (filters.filter (!drop ·)) = made query switches filters := by
  have hraw : ∀ one ∈ filters.filter fun filter => !filter.unhide && isWanted query switches filter,
      ∀ other ∈ filters.filter fun filter => !filter.unhide && isWanted query switches filter,
        one.raw = other.raw → (!drop one) = true → (!drop other) = true := by
    intro one hone other hother hraw hkept
    have hsame : one = other := (hread one (List.mem_filter.1 hone).1).eq_of_raw_eq
      (hread other (List.mem_filter.1 hother).1) hraw
    exact hsame ▸ hkept
  unfold made
  dsimp only
  rw [List.filter_comm, distinctBy_filter hraw, List.filterMap_filter]
  congr 1
  apply List.filterMap_congr
  intro filter hfilter
  obtain ⟨hmem, hwanted⟩ := List.mem_filter.1 ((distinctBy_sublist _ _).subset hfilter)
  cases hdropped : drop filter with
  | false => rfl
  | true =>
    obtain hunhide | hnone := hdrop filter hmem hdropped
    · rw [hunhide] at hwanted
      cases hwanted
    · rw [hnone]
      rfl

theorem filterMap_filter_of_view {α : Type} {view : PageRule → Option α} {make : α → PageRule}
    (hview : ∀ {rule a}, view rule = some a ↔ rule = make a) (keep : PageRule → Bool) :
    (rules.filter keep).filterMap view = (rules.filterMap view).filter (keep ∘ make) := by
  rw [List.filterMap_filter, List.filter_filterMap]
  apply List.filterMap_congr
  intro rule _
  cases hrule : view rule with
  | none => simp
  | some a =>
    obtain rfl := hview.1 hrule
    rfl

/-- The rules that are left out do not stand in the answer. -/
theorem rules_ofRules_filter (hfits : ∀ rule ∈ rules, rule.FitsSheet) (keep : PageRule → Bool) :
    (ofRules enableGeneric (rules.filter keep)).rules =
      (ofRules enableGeneric rules).rules.filter keep := by
  rw [rules_ofRules hfits, rules_ofRules fun rule hrule => hfits rule (List.mem_filter.1 hrule).1,
    filterMap_filter_of_view PageRule.hidden?_eq_some, filterMap_filter_of_view PageRule.style?_eq_some,
    filterMap_filter_of_view PageRule.extended?_eq_some, filterMap_filter_of_view PageRule.call?_eq_some,
    distinct_filter, distinct_filter]
  simp only [List.filter_append, List.filter_map]

theorem any_eq_or_filter {α : Type} (drop p : α → Bool) (as : List α) :
    as.any p = ((as.filter (!drop ·)).any p || (as.filter drop).any p) := by
  induction as with
  | nil => rfl
  | cons a as ih =>
    rw [List.any_cons, ih]
    cases hdrop : drop a <;> simp [hdrop, Bool.or_assoc, Bool.or_left_comm]

/-- Of two answers the second one has the rules of the first that are not cancelled, in their order. -/
structure LeftOf (cancelled : PageRule → Bool) (other found : CosmeticMatch) : Prop where
  enableGeneric : found.enableGeneric = other.enableGeneric
  rules : found.rules = other.rules.filter (!cancelled ·)
  eq_of_none : (∀ rule ∈ other.rules, cancelled rule = false) → found = other

theorem leftOf_resolve (hsound : ∀ filter ∈ filters, filter.IsSound)
    (hdrop : ∀ filter ∈ filters, drop filter = true → filter.unhide = true ∨ filter.rule? = none) :
    LeftOf (fun rule => (filters.filter drop).any (·.cancels rule))
      (resolve query switches (filters.filter (!drop ·))) (resolve query switches filters) := by
  have hread : ∀ filter ∈ filters, filter.IsRead := fun filter hfilter => (hsound filter hfilter).read
  have hspares (rule : PageRule) : spares switches (.of filters) rule =
      (spares switches (.of (filters.filter (!drop ·))) rule &&
        !(filters.filter drop).any (·.cancels rule)) := by
    rw [spares_of, spares_of, any_eq_or_filter drop, Bool.not_or, Bool.and_assoc]
  have hrules : (made query switches filters).filter (spares switches (.of filters)) =
      ((made query switches filters).filter (spares switches (.of (filters.filter (!drop ·))))).filter
        fun rule => !(filters.filter drop).any (·.cancels rule) := by
    rw [List.filter_filter, funext hspares]
    simp only [Bool.and_comm]
  have hfits : ∀ rule ∈ (made query switches filters).filter
      (spares switches (.of (filters.filter (!drop ·)))), rule.FitsSheet :=
    fun rule hrule => fitsSheet_of_mem_made hsound (List.mem_filter.1 hrule).1
  rw [resolve_eq_ofRules, resolve_eq_ofRules, made_filter hread hdrop, hrules]
  refine ⟨rfl, rules_ofRules_filter hfits _, fun hnone => ?_⟩
  rw [List.filter_eq_self.2]
  intro rule hrule
  rw [hnone rule ((mem_rules_ofRules hfits).2 hrule)]
  rfl

/-- The rules of a form in an answer, in their order. -/
def output (found : CosmeticMatch) (form : CosmeticForm) : List PageRule :=
  found.rules.filter (·.form == form)

variable {cancelled : PageRule → Bool} {other found : CosmeticMatch}

theorem LeftOf.output (h : LeftOf cancelled other found) (form : CosmeticForm) :
    found.output form = (other.output form).filter (!cancelled ·) := by
  rw [CosmeticMatch.output, CosmeticMatch.output, h.rules, List.filter_comm]

theorem LeftOf.output_eq_iff (h : LeftOf cancelled other found) (form : CosmeticForm) :
    found.output form = other.output form ↔
      ∀ rule ∈ other.rules, rule.form = form → cancelled rule = false := by
  rw [h.output, List.filter_eq_self, CosmeticMatch.output]
  simp

/-- Rules of other forms than the exceptions' go with those that have the selector of one. -/
theorem LeftOf.others_eq_iff {form : CosmeticForm}
    (h : LeftOf (fun rule => (filters.filter (·.isExceptionOf form)).any (·.cancels rule)) other found) :
    (∀ kind, kind ≠ form → found.output kind = other.output kind) ↔
      form = .scriptlet ∨ ∀ rule ∈ other.rules, rule.form ≠ form → ∀ filter ∈ filters,
        filter.isExceptionOf form = true → rule.selector? ≠ some filter.selector := by
  have hothers : (∀ kind, kind ≠ form → found.output kind = other.output kind) ↔
      ∀ rule ∈ other.rules, rule.form ≠ form → ∀ filter ∈ filters,
        filter.isExceptionOf form = true → filter.cancels rule = false := by
    simp only [h.output_eq_iff, List.any_filter, List.any_eq_false, Bool.not_eq_true, Bool.and_eq_false_imp]
    constructor
    · exact fun h rule hrule hform => h rule.form hform rule hrule rfl
    · rintro h kind hkind rule hrule rfl
      exact h rule hrule hkind
  rw [hothers]
  by_cases hform : form = .scriptlet
  · refine iff_of_true (fun rule _ hrule filter _ hexception => ?_) (.inl hform)
    obtain ⟨-, hkind⟩ := Bool.and_eq_true_iff.1 hexception
    rw [← Bool.not_eq_true]
    intro hcancels
    rw [CosmeticFilter.form_of_cancels_scriptlet ((beq_iff_eq.1 hkind).trans hform) hcancels, hform] at hrule
    exact hrule rfl
  · rw [or_iff_right hform]
    refine forall₂_congr fun rule _ => forall_congr' fun _ => forall₂_congr fun filter _ =>
      forall_congr' fun hexception => ?_
    obtain ⟨hunhide, hkind⟩ := Bool.and_eq_true_iff.1 hexception
    rw [← Bool.not_eq_true, CosmeticFilter.cancels_of_selector hunhide]
    rwa [beq_iff_eq.1 hkind]

theorem LeftOf.eq_iff (h : LeftOf cancelled other found) :
    found = other ↔ ∀ rule ∈ other.rules, cancelled rule = false := by
  refine ⟨fun heq => ?_, h.eq_of_none⟩
  have hrules := h.rules
  rw [heq, eq_comm, List.filter_eq_self] at hrules
  simpa using hrules

end CosmeticMatch

namespace ResponseMatch

/-- Exceptions that are not from filters on the body leave those alone. -/
theorem selectors_filter {drop : CosmeticFilter → Bool} {filters : List CosmeticFilter}
    (hdrop : ∀ filter, drop filter = true → filter.kind ≠ .html) :
    selectors (filters.filter (!drop ·)) = selectors filters := by
  have hhtml : (filters.filter (!drop ·)).filter (·.kind == .html) =
      filters.filter (·.kind == .html) := by
    rw [List.filter_filter]
    apply List.filter_congr
    intro filter _
    cases hkind : filter.kind == .html with
    | false => rfl
    | true =>
      cases hdropped : drop filter with
      | false => rfl
      | true => exact absurd (beq_iff_eq.1 hkind) (hdrop filter hdropped)
  unfold selectors
  rw [hhtml]

end ResponseMatch

namespace Engine

variable {engine less : Engine} {suffixes : Option Domain.PublicSuffixes} {query : CosmeticQuery}
  {drop : CosmeticFilter → Bool} {filters : List CosmeticFilter}

/-- The lists of the second engine are those of the first one without the cosmetic filters to drop. -/
def Drops (drop : CosmeticFilter → Bool) (engine less : Engine) : Prop :=
  List.Forall₂ (FilterList.Drops drop) engine.lists less.lists

theorem Drops.collectNetwork {request : Request} {candidates : List Candidate}
    (h : Drops drop engine less) (hcandidates : engine.collectNetwork request = .ok candidates) :
    less.collectNetwork request = .ok candidates := by
  obtain ⟨found, hfound, hflat⟩ := ok_of_bind hcandidates
  cases hflat
  have hsame : less.lists.mapM (·.collectNetwork request) = .ok (found.map id) := by
    refine mapM_of_forall₂ hfound (h.imp ?_)
    intro list rest hlist candidates hok
    exact (hlist.collectNetwork request).trans hok
  rw [Engine.collectNetwork, hsame, List.map_id]
  rfl

theorem Drops.collectCosmetics (h : Drops drop engine less)
    (hfilters : engine.collectCosmetics suffixes query = .ok filters) :
    less.collectCosmetics suffixes query = .ok (filters.filter (!drop ·)) := by
  obtain ⟨found, hfound, hflat⟩ := ok_of_bind hfilters
  cases hflat
  have hless : less.lists.mapM (·.collectCosmetics suffixes query) =
      .ok (found.map fun filters => filters.filter (!drop ·)) := by
    refine mapM_of_forall₂ hfound (h.imp ?_)
    intro list rest hlist filters hok
    exact hlist.collectCosmetics hok
  rw [Engine.collectCosmetics, hless, List.filter_flatten]
  rfl

/-- Without some exceptions, and without filters on the body, an engine answers with the rules that no
dropped one cancels. -/
theorem Drops.matchCosmetics {found : CosmeticMatch} (h : Drops drop engine less)
    (hlists : ∀ list ∈ engine.lists, list.Compiled)
    (hdrop : ∀ filter, drop filter = true → filter.unhide = true ∨ filter.kind = .html)
    (hfound : engine.matchCosmetics suffixes query = .ok found) :
    ∃ filters other, engine.collectCosmetics suffixes query = .ok filters ∧
      less.matchCosmetics suffixes query = .ok other ∧
      CosmeticMatch.LeftOf (fun rule => (filters.filter drop).any (·.cancels rule)) other found := by
  obtain ⟨candidates, hcandidates, hfound⟩ := ok_of_bind hfound
  obtain ⟨filters, hfilters, hfound⟩ := ok_of_bind hfound
  cases hfound
  have hruleless : ∀ filter ∈ filters, drop filter = true →
      filter.unhide = true ∨ filter.rule? = none :=
    fun filter _ hdropped => (hdrop filter hdropped).imp_right CosmeticFilter.rule?_of_html
  refine ⟨filters, _, hfilters, ?_,
    CosmeticMatch.leftOf_resolve (isSound_of_collectCosmetics hlists hfilters) hruleless⟩
  rw [Engine.matchCosmetics, h.collectNetwork hcandidates, h.collectCosmetics hfilters]
  rfl

theorem drops_compile {name text rest : String} (origin other : Nat)
    (h : Text.lines rest.toList = (Text.lines text.toList).filter (ParsedList.keepsLine drop)) :
    Drops drop (compile origin name text).1 (compile other name rest).1 :=
  .cons (FilterList.drops_parse h) .nil

/-- Without the exceptions of one form an engine answers with more rules, those that such an exception
cancels; rules of other forms are among them just when one has the selector of such an exception, which is
no scriptlet. In particular filters on the body of the response change nothing unless an exception among
them has the selector of a rule. The filters and exceptions of all other forms make no difference to what
a response is answered with. -/
theorem exceptions_by_form {engine : Engine} (hlists : ∀ list ∈ engine.lists, list.Compiled)
    (suffixes : Option Domain.PublicSuffixes) :
    (∀ form less, Drops (·.isExceptionOf form) engine less → ∀ query found,
      engine.matchCosmetics suffixes query = .ok found → ∃ filters other,
        engine.collectCosmetics suffixes query = .ok filters ∧
        less.matchCosmetics suffixes query = .ok other ∧
        found.enableGeneric = other.enableGeneric ∧
        (∀ kind, found.output kind = (other.output kind).filter fun rule =>
          !(filters.filter (·.isExceptionOf form)).any (·.cancels rule)) ∧
        ((∀ kind, kind ≠ form → found.output kind = other.output kind) ↔
          form = .scriptlet ∨ ∀ rule ∈ other.rules, rule.form ≠ form → ∀ filter ∈ filters,
            filter.isExceptionOf form = true → rule.selector? ≠ some filter.selector)) ∧
    (∀ drop less, (∀ filter, drop filter = true → filter.kind = .html) → Drops drop engine less →
      ∀ query found, engine.matchCosmetics suffixes query = .ok found → ∃ filters other,
        engine.collectCosmetics suffixes query = .ok filters ∧
        less.matchCosmetics suffixes query = .ok other ∧
        (found = other ↔ ∀ rule ∈ other.rules, ∀ filter ∈ filters,
          drop filter = true → filter.unhide = true → rule.selector? ≠ some filter.selector)) ∧
    ∀ drop less, (∀ filter, drop filter = true → filter.kind ≠ .html) → Drops drop engine less →
      ∀ request found, engine.matchResponse suffixes request = .ok found →
        less.matchResponse suffixes request = .ok found := by
  refine ⟨?_, ?_, ?_⟩
  · intro form less hless query found hfound
    obtain ⟨filters, other, hfilters, hother, hleft⟩ := hless.matchCosmetics hlists
      (fun filter hexception => .inl (Bool.and_eq_true_iff.1 hexception).1) hfound
    exact ⟨filters, other, hfilters, hother, hleft.enableGeneric, hleft.output, hleft.others_eq_iff⟩
  · intro drop less hdrop hless query found hfound
    obtain ⟨filters, other, hfilters, hother, hleft⟩ := hless.matchCosmetics hlists
      (fun filter hdropped => .inr (hdrop filter hdropped)) hfound
    refine ⟨filters, other, hfilters, hother, ?_⟩
    rw [hleft.eq_iff]
    simp only [List.any_filter, List.any_eq_false, Bool.not_eq_true, Bool.and_eq_false_imp]
    refine forall₂_congr fun rule _ => forall₂_congr fun filter _ => forall_congr' fun hdropped => ?_
    cases hunhide : filter.unhide with
    | false => simp [CosmeticFilter.cancels, hunhide]
    | true =>
      have hform : filter.kind.form ≠ .scriptlet := by
        rw [hdrop filter hdropped]
        decide
      rw [← Bool.not_eq_true, CosmeticFilter.cancels_of_selector hunhide hform]
      exact ⟨fun h _ => h, fun h => h rfl⟩
  · intro drop less hdrop hless request found hfound
    obtain ⟨candidates, hcandidates, hfound⟩ := ok_of_bind hfound
    obtain ⟨filters, hfilters, hfound⟩ := ok_of_bind hfound
    cases hfound
    rw [matchResponse, hless.collectNetwork hcandidates, hless.collectCosmetics hfilters,
      ← ResponseMatch.selectors_filter hdrop]
    rfl

/-- A rule that hides elements, and an exception from filters on the body with its selector. -/
def unhiding : Engine := (compile 0 "ads" "a.com##.ad\na.com#@#^.ad").1

def hidingOnly : Engine := (compile 0 "ads" "a.com##.ad").1

theorem drops_unhiding : Drops (·.isExceptionOf .html) unhiding hidingOnly :=
  drops_compile 0 0 (by decide +kernel)

theorem exceptions_by_form_unhiding : ∃ found filters other,
    unhiding.matchCosmetics none (.bootstrap "https://a.com/") = .ok found ∧
    unhiding.collectCosmetics none (.bootstrap "https://a.com/") = .ok filters ∧
    hidingOnly.matchCosmetics none (.bootstrap "https://a.com/") = .ok other ∧
    (∀ kind, found.output kind = (other.output kind).filter fun rule =>
      !(filters.filter (·.isExceptionOf .html)).any (·.cancels rule)) ∧
    ((∀ kind, kind ≠ .html → found.output kind = other.output kind) ↔
      CosmeticForm.html = .scriptlet ∨ ∀ rule ∈ other.rules, rule.form ≠ .html → ∀ filter ∈ filters,
        filter.isExceptionOf .html = true → rule.selector? ≠ some filter.selector) := by
  have hlists : ∀ list ∈ unhiding.lists, list.Compiled := (Built.compile 0 "ads" _).compiled
  obtain ⟨found, hfound⟩ := @exists_matchCosmetics_of_ascii none (.bootstrap "https://a.com/") unhiding
    rfl (by decide +kernel)
  obtain ⟨filters, other, hfilters, hother, -, houtput, hothers⟩ :=
    (exceptions_by_form hlists none).1 .html hidingOnly drops_unhiding _ found hfound
  exact ⟨found, filters, other, hfound, hfilters, hother, houtput, hothers⟩

/-- The exception from filters on the body shows what the rule hides. -/
theorem html_exception_unhides : Drops (·.isExceptionOf .html) unhiding hidingOnly ∧
    unhiding.matchCosmetics none (.bootstrap "https://a.com/") = .ok { enableGeneric := true } ∧
    hidingOnly.matchCosmetics none (.bootstrap "https://a.com/") =
      .ok { styles := ".ad\x7bdisplay:none !important;\x7d", enableGeneric := true } := by
  have hunhiding : (FilterList.parse "ads" "a.com##.ad\na.com#@#^.ad").1.collectCosmetics none
      (.bootstrap "https://a.com/") =
        .ok [⟨"a.com##.ad", ["a.com"], [], false, .hide, ".ad"⟩,
          ⟨"a.com#@#^.ad", ["a.com"], [], true, .html, ".ad"⟩] := by
    rw [FilterList.collectCosmetics_eq]
    decide +kernel
  have hhiding : (FilterList.parse "ads" "a.com##.ad").1.collectCosmetics none
      (.bootstrap "https://a.com/") = .ok [⟨"a.com##.ad", ["a.com"], [], false, .hide, ".ad"⟩] := by
    rw [FilterList.collectCosmetics_eq]
    decide +kernel
  refine ⟨drops_unhiding, ?_, ?_⟩
  · rw [matchCosmetics_of_singleton rfl (by decide +kernel) hunhiding]
    simp [CosmeticMatch.resolve, CosmeticMatch.isWanted, CosmeticMatch.Exceptions.of,
      CosmeticMatch.styleSheet, CosmeticSwitches.of, CosmeticFilter.isGeneric, CosmeticFilter.scriptlet?,
      CosmeticQuery.bootstrap, distinct, distinctBy, distinctFrom]
  · rw [matchCosmetics_of_singleton rfl (by decide +kernel) hhiding]
    simp [CosmeticMatch.resolve, CosmeticMatch.isWanted, CosmeticMatch.Exceptions.of,
      CosmeticMatch.styleSheet, CosmeticSwitches.of, CosmeticFilter.isGeneric, CosmeticFilter.scriptlet?,
      CosmeticQuery.bootstrap, distinct, distinctBy, distinctFrom]

end Engine

end ContentFilter
