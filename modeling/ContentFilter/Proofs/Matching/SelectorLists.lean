import ContentFilter.Proofs.Domain.Hostname
import ContentFilter.Proofs.Matching.CosmeticOrder
import ContentFilter.Proofs.Matching.StyleBlocks
import ContentFilter.Proofs.Matching.TwoPasses

/-! Generic filters with a list of simple selectors. Such a filter stands under the first of them: the
document has to show that one, and the others are of no account. -/

namespace ContentFilter

open Domain (IsAscii)

/-- A selector of one class or of one id. -/
inductive SimpleSelector where
  | className (name : String)
  | id (name : String)
  deriving DecidableEq, Repr

namespace SimpleSelector

def mark : SimpleSelector → Char
  | .className _ => '.'
  | .id _ => '#'

def name : SimpleSelector → String
  | .className name | .id name => name

def text (simple : SimpleSelector) : List Char := simple.mark :: simple.name.toList

/-- The name has letters, digits, hyphens and underscores alone. -/
def IsPlain (simple : SimpleSelector) : Prop :=
  simple.name.toList ≠ [] ∧ ∀ c ∈ simple.name.toList, CosmeticFilter.isNameChar c = true

/-- A document with some classes and ids has an element for the selector. -/
def IsSeen (classes ids : List String) : SimpleSelector → Prop
  | .className name => name ∈ classes
  | .id name => name ∈ ids

def key : SimpleSelector → GenericKey
  | .className name => .className name
  | .id name => .id name

instance (simple : SimpleSelector) : Decidable simple.IsPlain :=
  decidable_of_iff (simple.name.toList ≠ [] ∧ simple.name.toList.all CosmeticFilter.isNameChar = true)
    (and_congr_right fun _ => List.all_eq_true)

instance (classes ids : List String) (simple : SimpleSelector) : Decidable (simple.IsSeen classes ids) :=
  match simple with
  | .className name => inferInstanceAs (Decidable (name ∈ classes))
  | .id name => inferInstanceAs (Decidable (name ∈ ids))

variable {simple other : SimpleSelector}

theorem isSeen_self (simple : SimpleSelector) : ∃ classes ids, simple.IsSeen classes ids ∧
    ∀ other : SimpleSelector, other.IsSeen classes ids → other = simple := by
  cases simple with
  | className name =>
    refine ⟨[name], [], List.mem_singleton_self name, fun other hother => ?_⟩
    cases other with
    | className other => exact congrArg _ (List.mem_singleton.1 hother)
    | id other => cases hother
  | id name =>
    refine ⟨[], [name], List.mem_singleton_self name, fun other hother => ?_⟩
    cases other with
    | className other => cases hother
    | id other => exact congrArg _ (List.mem_singleton.1 hother)

end SimpleSelector

namespace CosmeticFilter

variable {filter other : CosmeticFilter} {first : SimpleSelector} {rest : List SimpleSelector}

/-- A selector is the list of some simple ones, with commas between them, blanks aside. -/
structure IsListOf (selector : String) (simples : List SimpleSelector) : Prop where
  pieces : (Text.splitOn ',' selector.toList).map Text.trim = simples.map (·.text)
  plain : ∀ simple ∈ simples, simple.IsPlain

theorem isHostChar_of_isNameChar {c : Char} (h : isNameChar c = true) :
    NetworkFilter.isHostChar c = true := by
  unfold isNameChar at h
  unfold NetworkFilter.isHostChar
  grind

/-- The name of a selector ends where what follows it begins. -/
theorem keyOfSelector_append {simple : SimpleSelector} {back : List Char} (h : simple.IsPlain)
    (hback : ∀ c, back.head? = some c → isNameChar c = false) :
    keyOfSelector (simple.text ++ back) = simple.key := by
  have htake : (simple.name.toList ++ back).takeWhile isNameChar = simple.name.toList :=
    Text.takeWhile_append_of_head? h.2 hback
  have hsome : simple.name.toList.isEmpty = false := Bool.eq_false_iff.2 (mt List.isEmpty_iff.1 h.1)
  rw [keyOfSelector, SimpleSelector.text, List.cons_append, List.tail_cons, htake, hsome,
    if_neg Bool.false_ne_true]
  cases simple <;> simp [SimpleSelector.mark, SimpleSelector.name, SimpleSelector.key]

/-- A list begins with its first selector, behind which is a blank, a comma or nothing. -/
theorem IsListOf.exists_append {selector : String} (htrim : Text.trim selector.toList = selector.toList)
    (h : IsListOf selector (first :: rest)) : ∃ back, selector.toList = first.text ++ back ∧
      ∀ c, back.head? = some c → Text.isBlank c = true ∨ c = ',' := by
  obtain ⟨piece, pieces, hsplit⟩ :=
    List.exists_cons_of_ne_nil (List.splitOnP_ne_nil (· == ',') selector.toList)
  have hpieces := h.pieces
  change List.splitOn ',' selector.toList = _ at hsplit
  rw [Text.splitOn, hsplit, List.map_cons, List.map_cons] at hpieces
  have hpiece : Text.trim piece = first.text := (List.cons.inj hpieces).1
  have hne : piece ≠ [] := by
    rintro rfl
    cases hpiece
  obtain ⟨tail, htail, hcomma⟩ : ∃ tail, selector.toList = piece ++ tail ∧
      ∀ c, tail.head? = some c → c = ',' := by
    rw [← Text.intercalate_splitOn ',' selector.toList, Text.splitOn, hsplit]
    cases pieces with
    | nil => exact ⟨[], by simp, by simp⟩
    | cons other pieces =>
      refine ⟨',' :: [','].intercalate (other :: pieces), ?_, fun c hc => (Option.some.inj hc).symm⟩
      rw [List.intercalate_cons_cons, List.append_assoc, List.singleton_append]
  have hstart : Text.trimStart piece = piece := by
    apply Text.trimStart_eq_self
    intro c hc
    refine Text.not_blank_of_head?_trim (s := selector.toList) ?_
    rw [htrim, htail, List.head?_append_of_ne_nil _ hne, hc]
  obtain ⟨blanks, hblanks, hback⟩ := Text.exists_blanks piece
  rw [Text.trim, hstart] at hpiece
  rw [hpiece] at hback
  refine ⟨blanks ++ tail, by rw [htail, ← hback, List.append_assoc], fun c hc => ?_⟩
  cases blanks with
  | nil => exact .inr (hcomma c hc)
  | cons blank blanks => exact .inl (hblanks c (by rw [← Option.some.inj hc]; exact List.mem_cons_self))

/-- Under a list of selectors a filter has the key of the first one. -/
theorem IsListOf.genericKey (htrim : Text.trim filter.selector.toList = filter.selector.toList)
    (h : IsListOf filter.selector (first :: rest)) : filter.genericKey = first.key := by
  obtain ⟨back, hselector, hback⟩ := h.exists_append htrim
  rw [CosmeticFilter.genericKey, hselector]
  refine keyOfSelector_append (h.plain first List.mem_cons_self) fun c hc => ?_
  rw [← Bool.not_eq_true]
  intro hname
  obtain ⟨-, hplain, hcomma, -⟩ := NetworkFilter.isHostChar_plain (isHostChar_of_isNameChar hname)
  rcases hback c hc with hblank | rfl
  · rw [hblank] at hplain
    cases hplain
  · exact hcomma (by decide)

/-- A filter under the key of a simple selector stands where a query about a document looks when the
document has an element for the selector. -/
theorem asks_document_iff {url : String} {classes ids hrefs : List String} {keys : List (List Char)}
    (hkeyed : filter.isKeyed = true) (hunhide : filter.unhide = false) (hkey : filter.genericKey = first.key) :
    (∃ slot ∈ CosmeticIndex.slotsOf filter,
      CosmeticIndex.Asks (.document url classes ids hrefs) keys slot) ↔ first.IsSeen classes ids := by
  rw [isKeyed, Bool.and_eq_true, Bool.and_eq_true, beq_iff_eq] at hkeyed
  obtain ⟨hgeneric, hkind, -⟩ := hkeyed
  unfold CosmeticIndex.slotsOf
  rw [hgeneric, hunhide, hkind, hkey]
  cases first <;>
    simp [SimpleSelector.key, SimpleSelector.IsSeen, CosmeticIndex.Asks, CosmeticQuery.document]

theorem isKeyed_of_key (hgeneric : filter.isGeneric = true) (hkind : filter.kind = .hide)
    (hkey : filter.genericKey = first.key) : filter.isKeyed = true := by
  rw [isKeyed, hgeneric, hkind, hkey]
  cases first <;> rfl

end CosmeticFilter

namespace Engine

variable {engine : Engine} {suffixes : Option Domain.PublicSuffixes} {filter : CosmeticFilter} {url : String}

/-- A filter that hides elements applies to a page, and neither an exception nor a switch takes its rule away
there. -/
structure InForce (suffixes : Option Domain.PublicSuffixes) (engine : Engine) (url : String)
    (filter : CosmeticFilter) : Prop where
  applies : filter.appliesTo suffixes (Url.hostName url.toList) = .ok true
  unexcepted : ∀ list ∈ engine.lists, ∀ other ∈ list.cosmetic,
    other.appliesTo suffixes (Url.hostName url.toList) = .ok true →
      other.cancels (.hide filter.selector) = false
  unswitched : ∀ candidates, engine.collectNetwork (.page suffixes url) = .ok candidates →
    CosmeticSwitches.of candidates = ⟨false, false⟩

/-- What hides a selector in answer to a query about a document are keyed filters with that selector. -/
theorem isSeen_of_mem_rules (hlists : ∀ list ∈ engine.lists, list.Compiled)
    {classes ids hrefs : List String} {found : CosmeticMatch} {selector : String} {first : SimpleSelector}
    (hkey : CosmeticFilter.keyOfSelector selector.toList = first.key)
    (hfound : engine.matchCosmetics suffixes (.document url classes ids hrefs) = .ok found)
    (h : .hide selector ∈ found.rules) : first.IsSeen classes ids := by
  obtain ⟨other, hcontributes⟩ := (mem_rules_iff hlists hfound).1 h
  have hkeyed := (contributes_document_iff.1 hcontributes).2
  obtain ⟨candidates, filters, -, hfilters, hother, hcontributes⟩ := hcontributes
  obtain ⟨list, -, own, hown, hother⟩ := (mem_collectCosmetics hfilters).1 hother
  obtain ⟨keys, -, hmem⟩ := FilterList.mem_collectCosmetics hown
  obtain ⟨-, -, hasks⟩ := (hmem other).1 hother
  have hselector : other.selector = selector := by
    have hrule := CosmeticFilter.rule_of_isKeyed hkeyed hcontributes.made
    exact (PageRule.hide.inj hrule).symm
  refine (CosmeticFilter.asks_document_iff hkeyed hcontributes.unhide ?_).1 hasks
  rw [CosmeticFilter.genericKey, hselector, hkey]

/-- A keyed filter in force hides its elements when the document has one for the selector of its key. -/
theorem mem_rules_of_isSeen (hlists : ∀ list ∈ engine.lists, list.Compiled) {list : FilterList}
    (hlist : list ∈ engine.lists) (hfilter : filter ∈ list.cosmetic) (hkeyed : filter.isKeyed = true)
    (hunhide : filter.unhide = false) {first : SimpleSelector} (hkey : filter.genericKey = first.key)
    (hforce : engine.InForce suffixes url filter) {classes ids hrefs : List String} {found : CosmeticMatch}
    (hfound : engine.matchCosmetics suffixes (.document url classes ids hrefs) = .ok found)
    (hseen : first.IsSeen classes ids) : .hide filter.selector ∈ found.rules := by
  refine (mem_rules_iff hlists hfound).2 ⟨filter, ?_⟩
  obtain ⟨candidates, hcandidates, hfound⟩ := ok_of_bind hfound
  obtain ⟨filters, hfilters, -⟩ := ok_of_bind hfound
  have hhost : (CosmeticQuery.document url classes ids hrefs).hostname.toList = Url.hostName url.toList :=
    String.toList_ofList
  have hrule : filter.rule? = some (.hide filter.selector) := by
    rw [CosmeticFilter.isKeyed, Bool.and_eq_true, Bool.and_eq_true, beq_iff_eq] at hkeyed
    exact CosmeticFilter.rule?_eq_hide.2 ⟨hkeyed.2.1, rfl⟩
  have hmem : filter ∈ filters := by
    obtain ⟨own, hown⟩ := exists_collectCosmetics_iff.1 ⟨filters, hfilters⟩ list hlist
    obtain ⟨keys, -, hmem⟩ := FilterList.mem_collectCosmetics hown
    refine (mem_collectCosmetics hfilters).2 ⟨list, hlist, own, hown, (hmem filter).2 ⟨hfilter, ?_, ?_⟩⟩
    · rw [hhost]
      exact hforce.applies
    · exact (CosmeticFilter.asks_document_iff hkeyed hunhide hkey).2 hseen
  have hspared : filters.any (·.cancels (.hide filter.selector)) = false := by
    rw [List.any_eq_false]
    intro other hother
    obtain ⟨list, hlist, hother, happlies⟩ := exists_of_mem_collectCosmetics hfilters hother
    rw [hhost] at happlies
    rw [hforce.unexcepted list hlist other hother happlies]
    exact Bool.false_ne_true
  have hswitches := hforce.unswitched candidates hcandidates
  refine ⟨candidates, filters, hcandidates, hfilters, hmem, hrule, hunhide, ?_, rfl, ?_⟩
  · rw [CosmeticMatch.isWanted_document, hswitches, hkeyed, Bool.and_true, CosmeticMatch.isWanted]
    split
    · exact Bool.or_true _
    · rfl
  · rw [CosmeticMatch.spares_of, hswitches, hspared]
    rfl

/-- A generic filter with a list of simple selectors, in force on a page, hides its elements in answer to a
query about the document just when the document has an element for the first selector. So no such query
misses the filter if and only if the others are the first one again. -/
theorem hides_when_first_seen {engine : Engine} (hlists : ∀ list ∈ engine.lists, list.Compiled)
    {list : FilterList} (hlist : list ∈ engine.lists) {filter : CosmeticFilter}
    (hfilter : filter ∈ list.cosmetic) (hgeneric : filter.isGeneric = true) (hkind : filter.kind = .hide)
    (hunhide : filter.unhide = false) {first : SimpleSelector} {rest : List SimpleSelector}
    (hselectors : CosmeticFilter.IsListOf filter.selector (first :: rest))
    {suffixes : Option Domain.PublicSuffixes} {url : String} (hforce : engine.InForce suffixes url filter) :
    (∀ classes ids hrefs found,
      engine.matchCosmetics suffixes (.document url classes ids hrefs) = .ok found →
        (PageRule.hide filter.selector ∈ found.rules ↔ first.IsSeen classes ids)) ∧
    (IsAscii (Url.hostName url.toList) →
      (∀ classes ids hrefs, ∃ found,
        engine.matchCosmetics suffixes (.document url classes ids hrefs) = .ok found) ∧
      ((∀ classes ids hrefs found,
        engine.matchCosmetics suffixes (.document url classes ids hrefs) = .ok found →
          (∃ simple ∈ first :: rest, simple.IsSeen classes ids) →
            PageRule.hide filter.selector ∈ found.rules) ↔
        ∀ simple ∈ rest, simple = first)) := by
  have htrim : Text.trim filter.selector.toList = filter.selector.toList :=
    (((hlists list hlist).isSound filter hfilter).read.fitsBlock.hide hkind).trimmed
  have hkey := hselectors.genericKey htrim
  have hkeyed := CosmeticFilter.isKeyed_of_key hgeneric hkind hkey
  have hexact : ∀ classes ids hrefs found,
      engine.matchCosmetics suffixes (.document url classes ids hrefs) = .ok found →
        (PageRule.hide filter.selector ∈ found.rules ↔ first.IsSeen classes ids) :=
    fun classes ids hrefs found hfound => ⟨isSeen_of_mem_rules hlists hkey hfound,
      mem_rules_of_isSeen hlists hlist hfilter hkeyed hunhide hkey hforce hfound⟩
  refine ⟨hexact, fun hhost => ?_⟩
  have hanswer : ∀ classes ids hrefs, ∃ found,
      engine.matchCosmetics suffixes (.document url classes ids hrefs) = .ok found :=
    fun classes ids hrefs => exists_matchCosmetics_of_ascii rfl hhost
  refine ⟨hanswer, fun hall simple hsimple => ?_, fun hsame classes ids hrefs found hfound hseen => ?_⟩
  · -- a document that has an element for no other selector
    obtain ⟨classes, ids, hseen, honly⟩ := simple.isSeen_self
    obtain ⟨found, hfound⟩ := hanswer classes ids []
    have hhidden := hall classes ids [] found hfound ⟨simple, List.mem_cons_of_mem first hsimple, hseen⟩
    exact (honly first ((hexact classes ids [] found hfound).1 hhidden)).symm
  · obtain ⟨simple, hsimple, hseen⟩ := hseen
    rw [hexact classes ids hrefs found hfound]
    rcases List.mem_cons.1 hsimple with rfl | hsimple
    · exact hseen
    · exact hsame simple hsimple ▸ hseen

/-- A filter with two selectors, and an exception from it on another page. -/
def twoSelectors : Engine := (compile 0 "ads" "##.ad, #box\nshop.com#@#.ad, #box").1

theorem hides_when_first_seen_twoSelectors :
    (∀ classes ids hrefs found,
      twoSelectors.matchCosmetics none (.document "https://blog.com/" classes ids hrefs) = .ok found →
        (PageRule.hide ".ad, #box" ∈ found.rules ↔ "ad" ∈ classes)) ∧
    ∃ found, twoSelectors.matchCosmetics none (.document "https://blog.com/" ["x", "ad"] [] []) = .ok found ∧
      PageRule.hide ".ad, #box" ∈ found.rules := by
  have hlists : ∀ list ∈ twoSelectors.lists, list.Compiled := (Built.compile 0 "ads" _).compiled
  have hnetwork : twoSelectors.collectNetwork (.page none "https://blog.com/") = .ok [] :=
    collectNetwork_of_singleton rfl (by decide +kernel) _
  have hforce : twoSelectors.InForce none "https://blog.com/"
      ⟨"##.ad, #box", [], [], false, .hide, ".ad, #box"⟩ := by
    refine ⟨by decide +kernel, List.forall_mem_singleton.2 (by decide +kernel), ?_⟩
    intro candidates hcandidates
    cases hnetwork.symm.trans hcandidates
    rfl
  have hfilter : ⟨"##.ad, #box", [], [], false, .hide, ".ad, #box"⟩ ∈
      (FilterList.parse "ads" "##.ad, #box\nshop.com#@#.ad, #box").1.cosmetic := by decide +kernel
  have hselectors : CosmeticFilter.IsListOf ".ad, #box" [.className "ad", .id "box"] :=
    ⟨by decide +kernel, by decide +kernel⟩
  obtain ⟨hexact, hascii⟩ := hides_when_first_seen hlists (List.mem_singleton_self _) hfilter rfl rfl rfl
    hselectors hforce
  obtain ⟨found, hfound⟩ := (hascii (by decide +kernel)).1 ["x", "ad"] [] []
  exact ⟨hexact, found, hfound, (hexact _ _ _ found hfound).2 (by decide)⟩

/-- The filter of two classes, and nothing else. -/
def twoClasses : Engine := (compile 0 "ads" "##.a,.b").1

/-- The second class alone does not hide what the filter is for, on a page where it is in force. -/
theorem second_class_not_hidden : ∃ list ∈ twoClasses.lists, ∃ filter ∈ list.cosmetic,
    filter.isGeneric = true ∧ filter.kind = .hide ∧ filter.unhide = false ∧
    CosmeticFilter.IsListOf filter.selector [.className "a", .className "b"] ∧
    twoClasses.InForce none "https://x.com/" filter ∧
    SimpleSelector.IsSeen ["b"] [] (.className "b") ∧
    twoClasses.matchCosmetics none (.document "https://x.com/" ["b"] [] []) =
      .ok { enableGeneric := true } ∧
    PageRule.hide filter.selector ∉ CosmeticMatch.rules { enableGeneric := true } := by
  have hnone : (FilterList.parse "ads" "##.a,.b").1.network = [] := by decide +kernel
  have hnetwork : twoClasses.collectNetwork (.page none "https://x.com/") = .ok [] :=
    collectNetwork_of_singleton rfl hnone _
  have hfound : (FilterList.parse "ads" "##.a,.b").1.collectCosmetics none
      (.document "https://x.com/" ["b"] [] []) = .ok [] := by
    rw [FilterList.collectCosmetics_eq]
    decide +kernel
  refine ⟨_, List.mem_singleton_self _, ⟨"##.a,.b", [], [], false, .hide, ".a,.b"⟩, by decide +kernel, rfl, rfl,
    rfl, ⟨by decide +kernel, by decide +kernel⟩, ⟨by decide +kernel, ?_, ?_⟩, by decide, ?_, by decide +kernel⟩
  · exact List.forall_mem_singleton.2 (by decide +kernel)
  · intro candidates hcandidates
    cases hnetwork.symm.trans hcandidates
    rfl
  · rw [matchCosmetics_of_singleton rfl hnone hfound]
    rfl

end Engine

end ContentFilter
