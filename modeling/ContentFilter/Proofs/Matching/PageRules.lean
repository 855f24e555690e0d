import ContentFilter.Engine.Basic
import ContentFilter.Proofs.Filter.Picked
import ContentFilter.Proofs.Matching.CosmeticScan
import ContentFilter.Proofs.Matching.StyleSheet

/-! Where the scriptlets come from that a page is answered with: from the filters of the lists that apply
to the page, unless an exception or the query itself takes them away. -/

namespace ContentFilter

variable {suffixes : Option Domain.PublicSuffixes} {query : CosmeticQuery} {filter : CosmeticFilter}
  {filters : List CosmeticFilter} {call : ScriptletCall}

namespace CosmeticMatch

/-- No exception takes the call away. -/
def Exceptions.spares (exceptions : Exceptions) (call : ScriptletCall) : Bool :=
  !exceptions.allCalls && !exceptions.calls.contains call

/-- A filter brings a call to a page, if it applies to it. -/
structure Brings (query : CosmeticQuery) (switches : CosmeticSwitches) (exceptions : Exceptions)
    (call : ScriptletCall) (filter : CosmeticFilter) : Prop where
  scriptlet : filter.scriptlet? = some call
  unhide : filter.unhide = false
  wanted : isWanted query switches filter = true
  injection : query.injection = true
  spared : exceptions.spares call = true

variable {switches : CosmeticSwitches}

theorem exists_brings (h : call ∈ (resolve query switches filters).scriptlets) :
    ∃ filter ∈ filters, Brings query switches (.of filters) call filter := by
  rw [resolve] at h
  dsimp only at h
  rw [mem_distinct, List.mem_filter, List.mem_filterMap] at h
  obtain ⟨⟨filter, hchosen, hcall⟩, hspared⟩ := h
  obtain ⟨hfilter, hwanted⟩ := List.mem_filter.1 ((distinctBy_sublist _ _).subset hchosen)
  simp only [Bool.and_eq_true, Bool.not_eq_true'] at hwanted hspared
  obtain ⟨⟨hinjection, hall⟩, hcalls⟩ := hspared
  refine ⟨filter, hfilter, hcall, hwanted.1, hwanted.2, hinjection, ?_⟩
  rw [Exceptions.spares, hall, hcalls]
  rfl

/-- As filters of one text are the same, a filter that is wanted is chosen. -/
theorem mem_chosen (hread : ∀ filter ∈ filters, filter.IsRead) :
    filter ∈ distinctBy (·.raw)
        (filters.filter fun filter => !filter.unhide && isWanted query switches filter) ↔
      filter ∈ filters ∧ filter.unhide = false ∧ isWanted query switches filter = true := by
  rw [mem_distinctBy fun one hone other hother => ?_, List.mem_filter, Bool.and_eq_true,
    Bool.not_eq_true']
  exact (hread one (List.mem_filter.1 hone).1).eq_of_raw_eq (hread other (List.mem_filter.1 hother).1)

/-- No call gets lost. -/
theorem mem_scriptlets_of_brings (hread : ∀ filter ∈ filters, filter.IsRead) (hfilter : filter ∈ filters)
    (h : Brings query switches (.of filters) call filter) :
    call ∈ (resolve query switches filters).scriptlets := by
  have hchosen := (mem_chosen hread).2 ⟨hfilter, h.unhide, h.wanted⟩
  have hspared := h.spared
  rw [Exceptions.spares] at hspared
  rw [resolve]
  dsimp only
  rw [mem_distinct, List.mem_filter, List.mem_filterMap, h.injection, Bool.true_and]
  exact ⟨⟨filter, hchosen, h.scriptlet⟩, hspared⟩

end CosmeticMatch

theorem CosmeticFilter.isWanted_of_scriptlet (h : filter.scriptlet? = some call) :
    filter.isWanted query = true := by
  have hkind : (filter.kind != .hide) = true := by
    rw [scriptlet?] at h
    cases hkind : filter.kind <;> simp_all
  simp [isWanted, hkind]

namespace Engine

variable {engine : Engine}

theorem mem_collectCosmetics (h : engine.collectCosmetics suffixes query = .ok filters) :
    filter ∈ filters ↔ ∃ list ∈ engine.lists, ∃ found,
      list.collectCosmetics suffixes query = .ok found ∧ filter ∈ found := by
  obtain ⟨all, hall, heq⟩ := ok_of_bind h
  cases heq
  exact mem_flatten_of_mapM hall

/-- What answers a page are filters of the lists, and they apply to the page. -/
theorem exists_of_mem_collectCosmetics (h : engine.collectCosmetics suffixes query = .ok filters)
    (hfilter : filter ∈ filters) : ∃ list ∈ engine.lists, filter ∈ list.cosmetic ∧
      filter.appliesTo suffixes query.hostname.toList = .ok true := by
  obtain ⟨list, hlist, found, hfound, hfilter⟩ := (mem_collectCosmetics h).1 hfilter
  obtain ⟨keys, -, hmem⟩ := FilterList.mem_collectCosmetics hfound
  obtain ⟨hfilter, happlies, -⟩ := (hmem filter).1 hfilter
  exact ⟨list, hlist, hfilter, happlies⟩

/-- A lower-case host is answered with all wanted filters that apply to it. -/
theorem mem_collectCosmetics_of_isWanted {list : FilterList}
    (hlow : Text.lower query.hostname.toList = query.hostname.toList)
    (h : engine.collectCosmetics suffixes query = .ok filters) (hlist : list ∈ engine.lists)
    (hfilter : filter ∈ list.cosmetic) (hwell : filter.WellFormed)
    (happlies : filter.appliesTo suffixes query.hostname.toList = .ok true)
    (hwanted : filter.isWanted query = true) : filter ∈ filters := by
  obtain ⟨all, hall, -⟩ := ok_of_bind h
  obtain ⟨found, -, hfound⟩ := exists_mem_of_mapM hall hlist
  have hmem := FilterList.mem_collectCosmetics_of_isWanted hlow hwell hfound hfilter happlies hwanted
  exact (mem_collectCosmetics h).2 ⟨list, hlist, found, hfound, hmem⟩

/-- A filter of some list gives a page a call: it applies to the page, and of the matching filters none
takes the call away. -/
structure Gives (suffixes : Option Domain.PublicSuffixes) (query : CosmeticQuery)
    (candidates : List Candidate) (filters : List CosmeticFilter) (call : ScriptletCall)
    (filter : CosmeticFilter) : Prop where
  applies : filter.appliesTo suffixes query.hostname.toList = .ok true
  brings : CosmeticMatch.Brings query (.of candidates) (.of filters) call filter

/-- The scriptlets that a page is answered with are given by filters of the lists. A lower-case host is
answered with all of them, if the filters are what their texts are read as. -/
theorem mem_scriptlets {found : CosmeticMatch} (h : engine.matchCosmetics suffixes query = .ok found) :
    ∃ candidates filters, engine.collectNetwork (.page suffixes query.url) = .ok candidates ∧
      engine.collectCosmetics suffixes query = .ok filters ∧ ∀ call,
        (call ∈ found.scriptlets → ∃ list ∈ engine.lists, ∃ filter ∈ list.cosmetic,
          Gives suffixes query candidates filters call filter) ∧
        ((∀ list ∈ engine.lists, ∀ filter ∈ list.cosmetic, filter.IsRead) →
          Text.lower query.hostname.toList = query.hostname.toList →
          ∀ list ∈ engine.lists, ∀ filter ∈ list.cosmetic,
            Gives suffixes query candidates filters call filter → call ∈ found.scriptlets) := by
  obtain ⟨candidates, hcandidates, h⟩ := ok_of_bind h
  obtain ⟨filters, hfilters, h⟩ := ok_of_bind h
  cases h
  refine ⟨candidates, filters, hcandidates, hfilters, fun call => ⟨fun hcall => ?_, ?_⟩⟩
  · obtain ⟨filter, hfilter, hbrings⟩ := CosmeticMatch.exists_brings hcall
    obtain ⟨list, hlist, hfilter, happlies⟩ := exists_of_mem_collectCosmetics hfilters hfilter
    exact ⟨list, hlist, filter, hfilter, happlies, hbrings⟩
  · intro hread hlow list hlist filter hfilter hgives
    have hread' : ∀ filter ∈ filters, filter.IsRead := by
      intro filter hfilter
      obtain ⟨list, hlist, hfilter, -⟩ := exists_of_mem_collectCosmetics hfilters hfilter
      exact hread list hlist filter hfilter
    have hmem := mem_collectCosmetics_of_isWanted hlow hfilters hlist hfilter
      (hread list hlist filter hfilter).wellFormed hgives.applies
      (CosmeticFilter.isWanted_of_scriptlet hgives.brings.scriptlet)
    exact CosmeticMatch.mem_scriptlets_of_brings hread' hmem hgives.brings

end Engine

end ContentFilter

/-! The rules that a page is answered with, whatever form they take in the answer, and the filters that
they come from. -/

namespace ContentFilter

namespace CosmeticFilter

variable {filter : CosmeticFilter} {line : List Char}

/-- A selector, and the declarations of a kind that has them, can stand in a style sheet. -/
structure FitsSheet (kind : CosmeticKind) (selector : String) : Prop where
  selector : IsSheetText selector.toList
  css : ∀ css, kind = .style css → '\n' ∉ css.toList

theorem isSheetText_of_parseSelector {s : List Char} {selector : String} (hbreak : '\n' ∉ s)
    (h : parseSelector s = .ok selector) : IsSheetText selector.toList := by
  obtain ⟨rfl, -, hbrace⟩ := parseSelector_eq_ok.1 h
  rw [String.toList_ofList]
  refine ⟨fun hmem => hbreak ((Text.trim_infix s).subset hmem), fun hmem => ?_, fun hlast => ?_⟩
  · rw [hasBrace, List.any_eq_false] at hbrace
    exact hbrace '{' hmem rfl
  · exact absurd (Text.not_blank_of_getLast?_trim hlast) (by decide)

theorem IsBody.fitsSheet {unhide : Bool} {body : List Char} {kind : CosmeticKind} {selector : String}
    (hbreak : '\n' ∉ body) (h : IsBody unhide body kind selector) : FitsSheet kind selector := by
  cases h with
  | call hbody hnamed => exact ⟨⟨by simp, by simp, by simp⟩, by rintro css ⟨⟩⟩
  | html hbody hselector =>
    rw [hbody, List.mem_cons, not_or] at hbreak
    exact ⟨isSheetText_of_parseSelector hbreak.2 hselector, by rintro css ⟨⟩⟩
  | @style text css _ hmark hbody hselector hbrace hcss =>
    simp only [hbody, List.mem_append, not_or] at hbreak
    refine ⟨isSheetText_of_parseSelector hbreak.1.1.1 hselector, ?_⟩
    rintro _ ⟨⟩
    rw [String.toList_ofList]
    exact fun hmem => hbreak.1.2 ((Text.trim_infix css).subset hmem)
  | extended hmark hselector => exact ⟨isSheetText_of_parseSelector hbreak hselector, by rintro css ⟨⟩⟩
  | hide hmark hselector => exact ⟨isSheetText_of_parseSelector hbreak hselector, by rintro css ⟨⟩⟩

theorem fitsSheet_of_parseChars (hbreak : '\n' ∉ line) (h : parseChars line = .ok filter) :
    FitsSheet filter.kind filter.selector := by
  obtain ⟨hosts, sep, body, hsplit⟩ := exists_isSplit h
  have hcut := hsplit.cut
  rw [raw_of_parseChars h, String.toList_ofList] at hcut
  have hsuffix : body <:+ Text.trim line := by
    rw [(eq_append_of_cutSeparator? hcut).1]
    exact (List.suffix_append _ body).trans (List.suffix_append hosts _)
  have hbody : Text.trim body ⊆ line := fun c hc =>
    (Text.trim_infix line).subset (hsuffix.subset ((Text.trim_infix body).subset hc))
  exact hsplit.isBody.fitsSheet fun hmem => hbreak (hbody hmem)

/-- What a filter that is no exception does to a page. Filters on the body of the response do nothing
to it. -/
def rule? (filter : CosmeticFilter) : Option PageRule :=
  match filter.kind with
  | .hide => some (.hide filter.selector)
  | .style css => some (.style filter.selector css)
  | .extended => some (.extended filter.selector)
  | .scriptlet call => some (.scriptlet call)
  | .html => none

end CosmeticFilter

namespace FilterList

variable {list : FilterList}

/-- The cosmetic filters of a compiled list stand in lines. -/
theorem Compiled.exists_line (h : list.Compiled) : ∀ filter ∈ list.cosmetic,
    ∃ line, '\n' ∉ line ∧ Filter.parseChars line = .ok (some (.cosmetic filter)) := by
  induction h with
  | parse name text =>
    intro filter hfilter
    have hmem : filter ∈ (ParsedList.parse text).cosmetic := hfilter
    rw [ParsedList.mem_cosmetic_iff, ParsedList.mem_filters_parse] at hmem
    obtain ⟨piece, hpiece, hparse⟩ := hmem
    exact ⟨piece, Text.not_mem_of_mem_splitOn hpiece, hparse⟩
  | restore hlists hread hcontent ih =>
    obtain ⟨list, hlist, rfl⟩ :=
      exists_of_read (fun list hlist => (hlists list hlist).wellFormed.1) hread hcontent
    exact ih list hlist

end FilterList

/-- A filter that is read from a line and can stand in a style sheet. -/
structure CosmeticFilter.IsSound (filter : CosmeticFilter) : Prop where
  read : filter.IsRead
  fits : FitsSheet filter.kind filter.selector

theorem FilterList.Compiled.isSound {list : FilterList} (h : list.Compiled) :
    ∀ filter ∈ list.cosmetic, filter.IsSound := by
  intro filter hfilter
  obtain ⟨line, hbreak, hparse⟩ := h.exists_line filter hfilter
  have hcosmetic := Filter.cosmetic_of_parseChars hparse
  exact ⟨CosmeticFilter.isRead_of_parseChars hparse, CosmeticFilter.fitsSheet_of_parseChars hbreak hcosmetic⟩

namespace PageRule

def hidden? : PageRule → Option String
  | .hide selector => some selector
  | _ => none

def style? : PageRule → Option (String × String)
  | .style selector css => some (selector, css)
  | _ => none

def extended? : PageRule → Option String
  | .extended selector => some selector
  | _ => none

def call? : PageRule → Option ScriptletCall
  | .scriptlet call => some call
  | _ => none

variable {rule : PageRule}

@[simp] theorem hidden?_eq_some {selector : String} :
    rule.hidden? = some selector ↔ rule = .hide selector := by
  cases rule <;> simp [hidden?]

@[simp] theorem style?_eq_some {pair : String × String} :
    rule.style? = some pair ↔ rule = .style pair.1 pair.2 := by
  cases rule <;> simp [style?, Prod.ext_iff]

@[simp] theorem extended?_eq_some {selector : String} :
    rule.extended? = some selector ↔ rule = .extended selector := by
  cases rule <;> simp [extended?]

@[simp] theorem call?_eq_some {call : ScriptletCall} :
    rule.call? = some call ↔ rule = .scriptlet call := by
  cases rule <;> simp [call?]

/-- The selector of a rule on elements. -/
def selector? : PageRule → Option String
  | .hide selector | .style selector _ | .extended selector => some selector
  | .scriptlet _ => none

/-- The rule can stand in a style sheet, if that is where it stands. -/
def FitsSheet : PageRule → Prop
  | .hide selector => IsSheetText selector.toList
  | .style selector css => IsSheetText selector.toList ∧ '\n' ∉ css.toList
  | .extended _ | .scriptlet _ => True

end PageRule

/-- The filter is an exception from the rule: with its call or none, or, whatever its kind and that of the
rule, with its selector. -/
def CosmeticFilter.cancels (filter : CosmeticFilter) (rule : PageRule) : Bool :=
  filter.unhide && match rule with
    | .hide selector | .style selector _ | .extended selector =>
      filter.scriptlet?.isNone && filter.selector == selector
    | .scriptlet call => filter.scriptlet?.any fun other => other.name.isEmpty || other == call

theorem CosmeticFilter.IsSound.fitsSheet {filter : CosmeticFilter} {rule : PageRule}
    (h : filter.IsSound) (hmade : filter.rule? = some rule) : rule.FitsSheet := by
  unfold rule? at hmade
  split at hmade <;> cases hmade
  · exact h.fits.selector
  · next css hkind => exact ⟨h.fits.selector, h.fits.css css hkind⟩
  · trivial
  · trivial

namespace CosmeticMatch

/-- The rules of an answer: those of its style sheet and those beside it. -/
def rules (found : CosmeticMatch) : List PageRule :=
  PageRule.ofSheet found.styles ++ found.extended.map .extended ++ found.scriptlets.map .scriptlet

/-- Whether a query asks for rules of this form. -/
def asksFor (query : CosmeticQuery) : PageRule → Bool
  | .hide _ | .style _ _ => true
  | .extended _ => query.extended
  | .scriptlet _ => query.injection

/-- No exception and no switch takes the rule away. -/
def spares (switches : CosmeticSwitches) (exceptions : Exceptions) : PageRule → Bool
  | .hide selector | .style selector _ | .extended selector =>
    !switches.elemHide && !exceptions.selectors.contains selector
  | .scriptlet call => exceptions.spares call

/-- A filter puts a rule into an answer, if it is among the filters found for it. -/
structure Contributes (query : CosmeticQuery) (switches : CosmeticSwitches) (exceptions : Exceptions)
    (rule : PageRule) (filter : CosmeticFilter) : Prop where
  made : filter.rule? = some rule
  unhide : filter.unhide = false
  wanted : isWanted query switches filter = true
  asked : asksFor query rule = true
  spared : spares switches exceptions rule = true

variable {query : CosmeticQuery} {switches : CosmeticSwitches} {filters : List CosmeticFilter}
  {filter : CosmeticFilter} {rule : PageRule}

/-- The rules of the filters that are wanted, each text once, in the order of the filters. -/
def made (query : CosmeticQuery) (switches : CosmeticSwitches) (filters : List CosmeticFilter) :
    List PageRule :=
  let chosen := distinctBy (·.raw)
    (filters.filter fun filter => !filter.unhide && isWanted query switches filter)
  (chosen.filterMap (·.rule?)).filter (asksFor query)

/-- The answer with some rules, a hidden selector and a call once each. -/
def ofRules (enableGeneric : Bool) (rules : List PageRule) : CosmeticMatch where
  styles := styleSheet (distinct (rules.filterMap (·.hidden?))) (rules.filterMap (·.style?))
  scriptlets := distinct (rules.filterMap (·.call?))
  extended := rules.filterMap (·.extended?)
  enableGeneric

/-- What a view sees of the rule of a filter, if the rule is asked for and nothing takes it away. -/
def shown? {α : Type} (query : CosmeticQuery) (switches : CosmeticSwitches) (exceptions : Exceptions)
    (view : PageRule → Option α) (filter : CosmeticFilter) : Option α :=
  filter.rule?.bind fun rule =>
    if asksFor query rule && spares switches exceptions rule then view rule else none

/-- An answer has the rules that are made of the filters and that nothing takes away. -/
theorem resolve_eq_ofRules (query : CosmeticQuery) (switches : CosmeticSwitches)
    (filters : List CosmeticFilter) : resolve query switches filters = ofRules (!switches.genericHide)
      ((made query switches filters).filter (spares switches (.of filters))) := by
  unfold resolve made ofRules
  extract_lets exceptions chosen visible calls hidden styles extended
  have hview {α : Type} (view : PageRule → Option α) :
      (((chosen.filterMap (·.rule?)).filter (asksFor query)).filter
          (spares switches exceptions)).filterMap view =
        chosen.filterMap (shown? query switches exceptions view) := by
    rw [List.filter_filter, List.filterMap_filter, List.filterMap_filterMap]
    simp only [Bool.and_comm]
    rfl
  have hhidden : hidden = distinct (chosen.filterMap (shown? query switches exceptions (·.hidden?))) := by
    simp only [hidden, visible]
    rw [List.filter_filter, ← List.filterMap_eq_map, List.filterMap_filter]
    congr 1
    apply List.filterMap_congr
    intro filter _
    cases hkind : filter.kind <;>
      simp [shown?, CosmeticFilter.rule?, hkind, asksFor, PageRule.hidden?, spares]
  have hstyles : styles = chosen.filterMap (shown? query switches exceptions (·.style?)) := by
    simp only [styles, visible]
    rw [List.filterMap_filter]
    apply List.filterMap_congr
    intro filter _
    cases hkind : filter.kind <;>
      simp [shown?, CosmeticFilter.rule?, hkind, asksFor, PageRule.style?, spares]
  have hextended : extended.map (·.selector) =
      chosen.filterMap (shown? query switches exceptions (·.extended?)) := by
    simp only [extended, visible]
    rw [List.filter_filter, ← List.filterMap_eq_map, List.filterMap_filter]
    apply List.filterMap_congr
    intro filter _
    cases hkind : filter.kind <;>
      simp [shown?, CosmeticFilter.rule?, hkind, asksFor, PageRule.extended?, spares]
  have hcalls : calls = chosen.filterMap (shown? query switches exceptions (·.call?)) := by
    simp only [calls]
    rw [List.filter_filterMap]
    apply List.filterMap_congr
    intro filter _
    cases hkind : filter.kind <;>
      simp [shown?, CosmeticFilter.rule?, CosmeticFilter.scriptlet?, hkind, asksFor, PageRule.call?,
        spares, Exceptions.spares, Bool.and_assoc, Option.filter]
  rw [hview, hview, hview, hview, hhidden, hstyles, hextended, hcalls]

theorem rules_ofRules {enableGeneric : Bool} {rules : List PageRule}
    (hfits : ∀ rule ∈ rules, rule.FitsSheet) : (ofRules enableGeneric rules).rules =
      (distinct (rules.filterMap (·.hidden?))).map .hide ++
        (rules.filterMap (·.style?)).map (fun pair => .style pair.1 pair.2) ++
        (rules.filterMap (·.extended?)).map .extended ++
        (distinct (rules.filterMap (·.call?))).map .scriptlet := by
  have hhidden : ∀ selector ∈ distinct (rules.filterMap (·.hidden?)), IsSheetText selector.toList := by
    intro selector hselector
    obtain ⟨rule, hrule, hview⟩ := List.mem_filterMap.1 (mem_distinct.1 hselector)
    obtain rfl := PageRule.hidden?_eq_some.1 hview
    exact hfits _ hrule
  have hstyles : ∀ pair ∈ rules.filterMap (·.style?),
      IsSheetText pair.1.toList ∧ '\n' ∉ pair.2.toList := by
    intro pair hpair
    obtain ⟨rule, hrule, hview⟩ := List.mem_filterMap.1 hpair
    obtain rfl := PageRule.style?_eq_some.1 hview
    exact hfits _ hrule
  rw [CosmeticMatch.rules, ofRules, PageRule.ofSheet_styleSheet hhidden hstyles]

theorem mem_rules_ofRules {enableGeneric : Bool} {rules : List PageRule}
    (hfits : ∀ rule ∈ rules, rule.FitsSheet) :
    rule ∈ (ofRules enableGeneric rules).rules ↔ rule ∈ rules := by
  rw [rules_ofRules hfits]
  cases rule <;> simp [mem_distinct]

theorem mem_made (hread : ∀ filter ∈ filters, filter.IsRead) :
    rule ∈ made query switches filters ↔ (∃ filter ∈ filters, filter.rule? = some rule ∧
      filter.unhide = false ∧ isWanted query switches filter = true) ∧ asksFor query rule = true := by
  unfold made
  dsimp only
  rw [List.mem_filter, List.mem_filterMap]
  refine and_congr_left fun _ => exists_congr fun filter => ?_
  rw [mem_chosen hread]
  tauto

theorem fitsSheet_of_mem_made (hsound : ∀ filter ∈ filters, filter.IsSound)
    (h : rule ∈ made query switches filters) : rule.FitsSheet := by
  obtain ⟨⟨filter, hfilter, hmade, -⟩, -⟩ :=
    (mem_made fun filter hfilter => (hsound filter hfilter).read).1 h
  exact (hsound filter hfilter).fitsSheet hmade

/-- The rules of an answer are those that the filters found for it contribute. -/
theorem mem_rules_resolve (hsound : ∀ filter ∈ filters, filter.IsSound) :
    rule ∈ (resolve query switches filters).rules ↔
      ∃ filter ∈ filters, Contributes query switches (.of filters) rule filter := by
  have hfits : ∀ rule ∈ (made query switches filters).filter (spares switches (.of filters)),
      rule.FitsSheet :=
    fun rule hrule => fitsSheet_of_mem_made hsound (List.mem_filter.1 hrule).1
  rw [resolve_eq_ofRules, mem_rules_ofRules hfits, List.mem_filter,
    mem_made fun filter hfilter => (hsound filter hfilter).read]
  constructor
  · rintro ⟨⟨⟨filter, hfilter, hrule, hunhide, hwanted⟩, hasked⟩, hspared⟩
    exact ⟨filter, hfilter, hrule, hunhide, hwanted, hasked, hspared⟩
  · rintro ⟨filter, hfilter, hrule, hunhide, hwanted, hasked, hspared⟩
    exact ⟨⟨⟨filter, hfilter, hrule, hunhide, hwanted⟩, hasked⟩, hspared⟩

theorem contains_selectors_of (filters : List CosmeticFilter) (selector : String) :
    (Exceptions.of filters).selectors.contains selector = filters.any fun filter =>
      filter.unhide && (filter.scriptlet?.isNone && filter.selector == selector) := by
  rw [Bool.eq_iff_iff, List.contains_iff_mem, List.any_eq_true]
  simp [Exceptions.of, and_assoc, and_left_comm]

theorem spares_call_of (filters : List CosmeticFilter) (call : ScriptletCall) :
    (Exceptions.of filters).spares call = !filters.any fun filter =>
      filter.unhide && filter.scriptlet?.any fun other => other.name.isEmpty || other == call := by
  rw [Exceptions.spares, ← Bool.not_or, Bool.not_inj_iff, Bool.eq_iff_iff, Bool.or_eq_true,
    List.contains_iff_mem, List.any_eq_true]
  simp only [Exceptions.of, List.any_eq_true, List.mem_filter, List.mem_filterMap, Bool.and_eq_true,
    Bool.or_eq_true, Option.any_eq_true, beq_iff_eq]
  constructor
  · rintro (⟨other, ⟨filter, ⟨hfilter, hunhide⟩, hother⟩, hall⟩ |
      ⟨⟨filter, ⟨hfilter, hunhide⟩, hcall⟩, -⟩)
    · exact ⟨filter, hfilter, hunhide, other, hother, .inl hall⟩
    · exact ⟨filter, hfilter, hunhide, call, hcall, .inr rfl⟩
  · rintro ⟨filter, hfilter, hunhide, other, hother, hall | rfl⟩
    · exact .inl ⟨other, ⟨filter, ⟨hfilter, hunhide⟩, hother⟩, hall⟩
    · cases hname : other.name.isEmpty with
      | true => exact .inl ⟨other, ⟨filter, ⟨hfilter, hunhide⟩, hother⟩, hname⟩
      | false => exact .inr ⟨⟨filter, ⟨hfilter, hunhide⟩, hother⟩, rfl⟩

/-- Nothing else takes a rule away than the switch for its selector and the exceptions that cancel it. -/
theorem spares_of (switches : CosmeticSwitches) (filters : List CosmeticFilter) (rule : PageRule) :
    spares switches (.of filters) rule =
      (!(switches.elemHide && rule.selector?.isSome) && !filters.any (·.cancels rule)) := by
  cases rule with
  | hide selector =>
    rw [spares, contains_selectors_of]
    simp [PageRule.selector?, CosmeticFilter.cancels]
  | style selector css =>
    rw [spares, contains_selectors_of]
    simp [PageRule.selector?, CosmeticFilter.cancels]
  | extended selector =>
    rw [spares, contains_selectors_of]
    simp [PageRule.selector?, CosmeticFilter.cancels]
  | scriptlet call =>
    rw [spares, spares_call_of]
    simp [PageRule.selector?, CosmeticFilter.cancels]

/-- The same exceptions take the same rules away. -/
theorem spares_congr {others : List CosmeticFilter}
    (h : ∀ filter, filter.unhide = true → (filter ∈ others ↔ filter ∈ filters)) :
    spares switches (.of others) rule = spares switches (.of filters) rule := by
  have hany : others.any (·.cancels rule) = filters.any (·.cancels rule) := by
    rw [Bool.eq_iff_iff, List.any_eq_true, List.any_eq_true]
    refine exists_congr fun filter => and_congr_left fun hcancels => h filter ?_
    exact (Bool.and_eq_true_iff.1 hcancels).1
  rw [spares_of, spares_of, hany]

end CosmeticMatch

theorem Engine.isSound_of_collectCosmetics {engine : Engine} {suffixes : Option Domain.PublicSuffixes}
    {query : CosmeticQuery} {filters : List CosmeticFilter}
    (hlists : ∀ list ∈ engine.lists, list.Compiled)
    (h : engine.collectCosmetics suffixes query = .ok filters) : ∀ filter ∈ filters, filter.IsSound := by
  intro filter hfilter
  obtain ⟨list, hlist, hfilter, -⟩ := exists_of_mem_collectCosmetics h hfilter
  exact (hlists list hlist).isSound filter hfilter

end ContentFilter
