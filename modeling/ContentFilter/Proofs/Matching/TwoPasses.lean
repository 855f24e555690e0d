import ContentFilter.Proofs.Engine.Restore
import ContentFilter.Proofs.Matching.Answers
import ContentFilter.Proofs.Matching.PageRules

/-! A page is asked about twice: on navigation, and once classes, ids and links of its document are
known. The two answers together have the rules of one answer to everything at once, and which filters an
answer can draw on is settled by the pass. -/

namespace ContentFilter

open Domain (IsAscii)

variable {suffixes : Option Domain.PublicSuffixes} {query : CosmeticQuery} {filter : CosmeticFilter}
  {filters : List CosmeticFilter} {rule : PageRule} {url : String} {classes ids hrefs : List String}

/-- Both passes in one. -/
def CosmeticQuery.whole (url : String) (classes ids hrefs : List String) : CosmeticQuery :=
  { bootstrap url with classes, ids, hrefs, fromDocument := true }

/-- A rule to hide elements on any page whose document shows some class, id or link. -/
def CosmeticFilter.isKeyed (filter : CosmeticFilter) : Bool :=
  filter.isGeneric && (filter.kind == .hide && filter.genericKey != .base)

/-- Before the document is known, all filters are looked at but for the keyed ones, of which only the
exceptions are. -/
theorem CosmeticIndex.asks_bootstrap_iff {keys : List (List Char)} :
    (∃ slot ∈ slotsOf filter, Asks (.bootstrap url) keys slot) ↔
      (∃ slot ∈ slotsOf filter, Asks (.document url classes ids hrefs) keys slot) ∧
        (filter.isKeyed = true → filter.unhide = true) := by
  unfold slotsOf CosmeticFilter.isKeyed
  cases filter.isGeneric with
  | false => simp [Asks]
  | true =>
    cases filter.unhide with
    | true => simp [Asks]
    | false =>
      cases hkind : filter.kind == .hide with
      | false => simp [Asks, bne, hkind]
      | true =>
        cases filter.genericKey <;> simp [Asks, bne, hkind, CosmeticQuery.bootstrap, CosmeticQuery.ofUrl]

namespace FilterList

variable {list : FilterList}

/-- Where the later pass finds filters, the first one finds those of them that are not keyed. -/
theorem collectCosmetics_bootstrap
    (h : list.collectCosmetics suffixes (.document url classes ids hrefs) = .ok filters) :
    ∃ found, list.collectCosmetics suffixes (.bootstrap url) = .ok found ∧ ∀ filter,
      filter ∈ found ↔ filter ∈ filters ∧ (filter.isKeyed = true → filter.unhide = true) := by
  have hhost : (CosmeticQuery.document url classes ids hrefs).hostname =
      (CosmeticQuery.bootstrap url).hostname := rfl
  obtain ⟨keys, hkeys, hanswer⟩ := exists_collectCosmetics_iff.1 ⟨filters, h⟩
  obtain ⟨keys', hkeys', hmem⟩ := mem_collectCosmetics h
  rw [hhost] at hkeys hkeys' hanswer hmem
  obtain rfl := Except.ok.inj (hkeys.symm.trans hkeys')
  have hfirst : ∃ found, list.collectCosmetics suffixes (.bootstrap url) = .ok found := by
    refine exists_collectCosmetics_iff.2 ⟨keys, hkeys, fun filter hfilter hasks => ?_⟩
    exact hanswer filter hfilter (CosmeticIndex.asks_bootstrap_iff.1 hasks).1
  obtain ⟨found, hfound⟩ := hfirst
  obtain ⟨keys', hkeys', hmem'⟩ := mem_collectCosmetics hfound
  obtain rfl := Except.ok.inj (hkeys.symm.trans hkeys')
  refine ⟨found, hfound, fun filter => ?_⟩
  rw [hmem, hmem', @CosmeticIndex.asks_bootstrap_iff _ _ classes ids hrefs,
    and_assoc, and_assoc]

end FilterList

theorem CosmeticFilter.rule_of_isKeyed (hkeyed : filter.isKeyed = true) (h : filter.rule? = some rule) :
    rule = .hide filter.selector := by
  rw [isKeyed, Bool.and_eq_true, Bool.and_eq_true, beq_iff_eq] at hkeyed
  rw [rule?, hkeyed.2.1] at h
  exact (Option.some.inj h).symm

namespace CosmeticMatch

variable {switches : CosmeticSwitches} {exceptions : Exceptions}

theorem isWanted_document : isWanted (.document url classes ids hrefs) switches filter =
    (isWanted (.whole url classes ids hrefs) switches filter && filter.isKeyed) := by
  unfold isWanted CosmeticFilter.isKeyed
  have hdocument : (CosmeticQuery.document url classes ids hrefs).base = false ∧
      (CosmeticQuery.document url classes ids hrefs).fromHostname = false := ⟨rfl, rfl⟩
  have hwhole : (CosmeticQuery.whole url classes ids hrefs).base = true ∧
      (CosmeticQuery.whole url classes ids hrefs).fromHostname = true := ⟨rfl, rfl⟩
  rw [hdocument.1, hdocument.2, hwhole.1, hwhole.2]
  cases filter.isGeneric <;> simp

/-- The later pass draws on the keyed filters, which only hide elements. -/
theorem contributes_document_iff :
    Contributes (.document url classes ids hrefs) switches exceptions rule filter ↔
      Contributes (.whole url classes ids hrefs) switches exceptions rule filter ∧
        filter.isKeyed = true := by
  constructor
  · rintro ⟨hmade, hunhide, hwanted, -, hspared⟩
    rw [isWanted_document, Bool.and_eq_true] at hwanted
    obtain rfl := CosmeticFilter.rule_of_isKeyed hwanted.2 hmade
    exact ⟨⟨hmade, hunhide, hwanted.1, rfl, hspared⟩, hwanted.2⟩
  · rintro ⟨⟨hmade, hunhide, hwanted, -, hspared⟩, hkeyed⟩
    obtain rfl := CosmeticFilter.rule_of_isKeyed hkeyed hmade
    refine ⟨hmade, hunhide, ?_, rfl, hspared⟩
    rw [isWanted_document, hwanted, hkeyed]
    rfl

/-- The first pass asks of a filter what both passes in one ask of it. -/
theorem contributes_bootstrap_iff {others : Exceptions}
    (h : spares switches others rule = spares switches exceptions rule) :
    Contributes (.bootstrap url) switches others rule filter ↔
      Contributes (.whole url classes ids hrefs) switches exceptions rule filter := by
  constructor
  · rintro ⟨hmade, hunhide, hwanted, hasked, hspared⟩
    exact ⟨hmade, hunhide, hwanted, hasked, h ▸ hspared⟩
  · rintro ⟨hmade, hunhide, hwanted, hasked, hspared⟩
    exact ⟨hmade, hunhide, hwanted, hasked, h ▸ hspared⟩

end CosmeticMatch

namespace Engine

variable {engine : Engine}

/-- An engine draws on a filter of its lists for a rule in its answer. -/
def Contributes (suffixes : Option Domain.PublicSuffixes) (engine : Engine) (query : CosmeticQuery)
    (rule : PageRule) (filter : CosmeticFilter) : Prop :=
  ∃ candidates filters, engine.collectNetwork (.page suffixes query.url) = .ok candidates ∧
    engine.collectCosmetics suffixes query = .ok filters ∧ filter ∈ filters ∧
    CosmeticMatch.Contributes query (.of candidates) (.of filters) rule filter

/-- The rules of an answer are those that some filter contributes. -/
theorem mem_rules_iff (hlists : ∀ list ∈ engine.lists, list.Compiled) {found : CosmeticMatch}
    (h : engine.matchCosmetics suffixes query = .ok found) :
    rule ∈ found.rules ↔ ∃ filter, engine.Contributes suffixes query rule filter := by
  obtain ⟨candidates, hcandidates, h⟩ := ok_of_bind h
  obtain ⟨filters, hfilters, h⟩ := ok_of_bind h
  cases h
  rw [CosmeticMatch.mem_rules_resolve (isSound_of_collectCosmetics hlists hfilters)]
  constructor
  · rintro ⟨filter, hfilter, hcontributes⟩
    exact ⟨filter, candidates, filters, hcandidates, hfilters, hfilter, hcontributes⟩
  · rintro ⟨filter, candidates', filters', hcandidates', hfilters', hfilter, hcontributes⟩
    obtain rfl := Except.ok.inj (hcandidates.symm.trans hcandidates')
    obtain rfl := Except.ok.inj (hfilters.symm.trans hfilters')
    exact ⟨filter, hfilter, hcontributes⟩

theorem collectCosmetics_bootstrap
    (h : engine.collectCosmetics suffixes (.document url classes ids hrefs) = .ok filters) :
    ∃ found, engine.collectCosmetics suffixes (.bootstrap url) = .ok found ∧ ∀ filter,
      filter ∈ found ↔ filter ∈ filters ∧ (filter.isKeyed = true → filter.unhide = true) := by
  have hlater := exists_collectCosmetics_iff.1 ⟨filters, h⟩
  have hfirst : ∃ found, engine.collectCosmetics suffixes (.bootstrap url) = .ok found := by
    refine exists_collectCosmetics_iff.2 fun list hlist => ?_
    obtain ⟨later, hlater⟩ := hlater list hlist
    obtain ⟨first, hfirst, -⟩ := FilterList.collectCosmetics_bootstrap hlater
    exact ⟨first, hfirst⟩
  obtain ⟨found, hfound⟩ := hfirst
  refine ⟨found, hfound, fun filter => ?_⟩
  rw [mem_collectCosmetics hfound, mem_collectCosmetics h]
  constructor
  · rintro ⟨list, hlist, first, hfirst, hmem⟩
    obtain ⟨later, hlater⟩ := hlater list hlist
    obtain ⟨first', hfirst', hiff⟩ := FilterList.collectCosmetics_bootstrap hlater
    obtain rfl := Except.ok.inj (hfirst.symm.trans hfirst')
    obtain ⟨hmem, hkeyed⟩ := (hiff filter).1 hmem
    exact ⟨⟨list, hlist, later, hlater, hmem⟩, hkeyed⟩
  · rintro ⟨⟨list, hlist, later, hlater, hmem⟩, hkeyed⟩
    obtain ⟨first, hfirst, hiff⟩ := FilterList.collectCosmetics_bootstrap hlater
    exact ⟨list, hlist, first, hfirst, (hiff filter).2 ⟨hmem, hkeyed⟩⟩

theorem collectCosmetics_whole :
    engine.collectCosmetics suffixes (.whole url classes ids hrefs) =
      engine.collectCosmetics suffixes (.document url classes ids hrefs) := rfl

/-- The later pass draws on the keyed filters that both passes in one would draw on. -/
theorem contributes_document_iff :
    engine.Contributes suffixes (.document url classes ids hrefs) rule filter ↔
      engine.Contributes suffixes (.whole url classes ids hrefs) rule filter ∧
        filter.isKeyed = true := by
  constructor
  · rintro ⟨candidates, filters, hcandidates, hfilters, hfilter, hcontributes⟩
    obtain ⟨hcontributes, hkeyed⟩ := CosmeticMatch.contributes_document_iff.1 hcontributes
    exact ⟨⟨candidates, filters, hcandidates, hfilters, hfilter, hcontributes⟩, hkeyed⟩
  · rintro ⟨⟨candidates, filters, hcandidates, hfilters, hfilter, hcontributes⟩, hkeyed⟩
    exact ⟨candidates, filters, hcandidates, hfilters, hfilter,
      CosmeticMatch.contributes_document_iff.2 ⟨hcontributes, hkeyed⟩⟩

/-- Where the later pass finds filters, the first one draws on the others that both passes in one would
draw on. -/
theorem contributes_bootstrap_iff
    (h : engine.collectCosmetics suffixes (.document url classes ids hrefs) = .ok filters) :
    engine.Contributes suffixes (.bootstrap url) rule filter ↔
      engine.Contributes suffixes (.whole url classes ids hrefs) rule filter ∧
        filter.isKeyed = false := by
  obtain ⟨base, hbase, hmem⟩ := collectCosmetics_bootstrap h
  have hspares {switches} : CosmeticMatch.spares switches (.of base) rule =
      CosmeticMatch.spares switches (.of filters) rule := by
    refine CosmeticMatch.spares_congr fun filter hunhide => ?_
    rw [hmem]
    exact and_iff_left fun _ => hunhide
  constructor
  · rintro ⟨candidates, found, hcandidates, hfound, hfilter, hcontributes⟩
    obtain rfl := Except.ok.inj (hbase.symm.trans hfound)
    obtain ⟨hfilter, hkeyed⟩ := (hmem filter).1 hfilter
    refine ⟨⟨candidates, filters, hcandidates, h, hfilter,
      (CosmeticMatch.contributes_bootstrap_iff hspares).1 hcontributes⟩, ?_⟩
    refine Bool.eq_false_iff.2 fun h => ?_
    exact absurd (hkeyed h) (by rw [hcontributes.unhide]; decide)
  · rintro ⟨⟨candidates, found, hcandidates, hfound, hfilter, hcontributes⟩, hkeyed⟩
    rw [collectCosmetics_whole] at hfound
    obtain rfl := Except.ok.inj (h.symm.trans hfound)
    refine ⟨candidates, base, hcandidates, hbase, (hmem filter).2 ⟨hfilter, ?_⟩,
      (CosmeticMatch.contributes_bootstrap_iff hspares).2 hcontributes⟩
    exact fun h => absurd h (by rw [hkeyed]; decide)

theorem exists_matchCosmetics_whole_iff :
    (∃ found, engine.matchCosmetics suffixes (.whole url classes ids hrefs) = .ok found) ↔
      (∃ first, engine.matchCosmetics suffixes (.bootstrap url) = .ok first) ∧
        ∃ later, engine.matchCosmetics suffixes (.document url classes ids hrefs) = .ok later := by
  rw [exists_matchCosmetics_iff, exists_matchCosmetics_iff, exists_matchCosmetics_iff,
    collectCosmetics_whole]
  constructor
  · rintro ⟨hcandidates, filters, hfilters⟩
    obtain ⟨found, hfound, -⟩ := collectCosmetics_bootstrap hfilters
    exact ⟨⟨hcandidates, found, hfound⟩, hcandidates, filters, hfilters⟩
  · rintro ⟨-, hlater⟩
    exact hlater

/-- The answers to a page that is asked about once, and of the two passes over it. -/
structure Divides (suffixes : Option Domain.PublicSuffixes) (engine : Engine) (url : String)
    (classes ids hrefs : List String) (found first later : CosmeticMatch) : Prop where
  union : ∀ rule, rule ∈ found.rules ↔ rule ∈ first.rules ∨ rule ∈ later.rules
  first : ∀ rule, rule ∈ first.rules ↔ ∃ filter, engine.Contributes suffixes (.bootstrap url) rule filter
  later : ∀ rule, rule ∈ later.rules ↔
    ∃ filter, engine.Contributes suffixes (.document url classes ids hrefs) rule filter
  first_keyed : ∀ rule filter, engine.Contributes suffixes (.bootstrap url) rule filter →
    filter.isKeyed = false
  later_keyed : ∀ rule filter,
    engine.Contributes suffixes (.document url classes ids hrefs) rule filter →
      filter.isKeyed = true ∧ rule = .hide filter.selector

/-- Both passes over a page answer just when one pass over everything does, which it does for a host of
single bytes. The rules of the one answer are those of the two. No rule of the first pass is keyed, and
all of the later one are: it hides elements by generic filters, with no scriptlet, extended selector,
style or rule for a host among them. -/
theorem divides_whole (suffixes : Option Domain.PublicSuffixes) {engine : Engine}
    (hlists : ∀ list ∈ engine.lists, list.Compiled) (url : String) (classes ids hrefs : List String) :
    ((∃ found, engine.matchCosmetics suffixes (.whole url classes ids hrefs) = .ok found) ↔
      (∃ first, engine.matchCosmetics suffixes (.bootstrap url) = .ok first) ∧
        ∃ later, engine.matchCosmetics suffixes (.document url classes ids hrefs) = .ok later) ∧
    (IsAscii (Url.hostName url.toList) →
      ∃ found, engine.matchCosmetics suffixes (.whole url classes ids hrefs) = .ok found) ∧
    ∀ found first later,
      engine.matchCosmetics suffixes (.whole url classes ids hrefs) = .ok found →
      engine.matchCosmetics suffixes (.bootstrap url) = .ok first →
      engine.matchCosmetics suffixes (.document url classes ids hrefs) = .ok later →
        engine.Divides suffixes url classes ids hrefs found first later := by
  refine ⟨exists_matchCosmetics_whole_iff, fun hhost => exists_matchCosmetics_of_ascii rfl hhost, ?_⟩
  intro found first later hfound hfirst hlater
  obtain ⟨-, filters, hfilters⟩ := exists_matchCosmetics_iff.1 ⟨later, hlater⟩
  refine ⟨fun rule => ?_, fun rule => mem_rules_iff hlists hfirst,
    fun rule => mem_rules_iff hlists hlater, fun rule filter hcontributes => ?_,
    fun rule filter hcontributes => ?_⟩
  · rw [mem_rules_iff hlists hfound, mem_rules_iff hlists hfirst, mem_rules_iff hlists hlater]
    simp only [contributes_bootstrap_iff hfilters, contributes_document_iff, ← exists_or, ← and_or_left]
    refine exists_congr fun filter => (and_iff_left ?_).symm
    cases filter.isKeyed <;> simp
  · exact ((contributes_bootstrap_iff hfilters).1 hcontributes).2
  · have hkeyed := (contributes_document_iff.1 hcontributes).2
    obtain ⟨_, _, -, -, -, hmade⟩ := hcontributes
    exact ⟨hkeyed, CosmeticFilter.rule_of_isKeyed hkeyed hmade.made⟩

/-- A keyed filter and its exception on a host, a filter for that host, a style and a scriptlet. -/
def shop : Engine :=
  (compile 0 "shop" "##.ad\n##.wide\nshop.com#@#.wide\nshop.com##.box\n##p:style(color: red)\nshop.com##+js(hello)").1

theorem divides_whole_shop : ∃ found first later,
    shop.matchCosmetics none (.whole "https://www.shop.com/" ["ad", "wide"] [] []) = .ok found ∧
    shop.matchCosmetics none (.bootstrap "https://www.shop.com/") = .ok first ∧
    shop.matchCosmetics none (.document "https://www.shop.com/" ["ad", "wide"] [] []) = .ok later ∧
    shop.Divides none "https://www.shop.com/" ["ad", "wide"] [] [] found first later := by
  have hlists : ∀ list ∈ shop.lists, list.Compiled := (Built.compile 0 "shop" _).compiled
  obtain ⟨hiff, hascii, hdivides⟩ :=
    divides_whole none hlists "https://www.shop.com/" ["ad", "wide"] [] []
  obtain ⟨found, hfound⟩ := hascii (by decide +kernel)
  obtain ⟨⟨first, hfirst⟩, later, hlater⟩ := hiff.1 ⟨found, hfound⟩
  exact ⟨found, first, later, hfound, hfirst, hlater,
    hdivides found first later hfound hfirst hlater⟩

end Engine

end ContentFilter
