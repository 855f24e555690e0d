import ContentFilter.Proofs.Data.Thinned
import ContentFilter.Proofs.Engine.Restore
import ContentFilter.Proofs.Filter.ScriptletLine
import ContentFilter.Proofs.Matching.Answers
import ContentFilter.Proofs.Matching.CosmeticOrder
import ContentFilter.Proofs.Matching.PageRules

/-! What the ending in the name of a scriptlet means for a page. Filters and exceptions are found whatever the
spelling of their calls; but an exception takes a call away in its own spelling only. -/

namespace ContentFilter

namespace CosmeticFilter.Respells

variable {filter other : CosmeticFilter}

theorem slotsOf (h : filter.Respells other) : CosmeticIndex.slotsOf other = CosmeticIndex.slotsOf filter := by
  cases h with
  | same => rfl
  | call raw hcall hcanonical hnamed => simp [CosmeticIndex.slotsOf, isGeneric, hcall]

theorem isWanted (h : filter.Respells other) (query : CosmeticQuery) (switches : CosmeticSwitches) :
    CosmeticMatch.isWanted query switches other = CosmeticMatch.isWanted query switches filter := by
  cases h with
  | same => rfl
  | call raw hcall hcanonical hnamed =>
    have hkind : ∀ call, (CosmeticKind.scriptlet call == .hide) = false := fun _ => rfl
    simp [CosmeticMatch.isWanted, isGeneric, hcall, hkind]

end CosmeticFilter.Respells

open CosmeticFilter (Respells)

theorem CosmeticIndex.firstFound_respells (glances : List Glance) {filters others : List CosmeticFilter}
    (h : List.Forall₂ Respells filters others) :
    List.Forall₂ Respells (firstFound glances filters) (firstFound glances others) := by
  induction glances generalizing filters others with
  | nil => exact .nil
  | cons glance rest ih =>
    have hshows : ∀ filter other, Respells filter other → glance.shows filter = glance.shows other := by
      intro filter other hother
      rw [Glance.shows, Glance.shows, hother.slotsOf]
    apply List.rel_append
    · refine List.rel_filter (fun filter other hother => ?_) h
      show glance.shows filter = true ↔ glance.shows other = true
      rw [hshows filter other hother]
    · refine ih (List.rel_filter (fun filter other hother => ?_) h)
      show (!glance.shows filter) = true ↔ (!glance.shows other) = true
      rw [hshows filter other hother]

namespace FilterList

/-- The lists are the same but for the spelling of calls. -/
structure Respells (list other : FilterList) : Prop where
  name : other.name = list.name
  network : other.network = list.network
  cosmetic : List.Forall₂ CosmeticFilter.Respells list.cosmetic other.cosmetic

variable {list other : FilterList}

theorem Respells.collectNetwork (h : list.Respells other) (request : Request) :
    other.collectNetwork request = list.collectNetwork request := by
  rw [FilterList.collectNetwork, FilterList.collectNetwork, other.networkIndex_eq, list.networkIndex_eq,
    h.network, h.name]

/-- The same filters are found, in the same order. -/
theorem Respells.collectCosmetics (h : list.Respells other) (suffixes : Option Domain.PublicSuffixes)
    (query : CosmeticQuery) : Alike (List.Forall₂ CosmeticFilter.Respells)
      (list.collectCosmetics suffixes query) (other.collectCosmetics suffixes query) := by
  rw [collectCosmetics_eq, collectCosmetics_eq]
  cases CosmeticIndex.hostKeys suffixes query.hostname.toList with
  | error fault => exact .error fault
  | ok keys =>
    apply Alike.filterM fun _ _ hother => hother.appliesTo suffixes _
    exact CosmeticIndex.firstFound_respells _ h.cosmetic

theorem respells_ofFilters (name : String) (digest respelled : UInt64) (network : List NetworkFilter)
    {cosmetic others : List CosmeticFilter} (h : List.Forall₂ CosmeticFilter.Respells cosmetic others) :
    Respells (ofFilters name digest network cosmetic) (ofFilters name respelled network others) :=
  ⟨rfl, rfl, h⟩

theorem respells_parse {name text respelled : String} (h : ParsedList.RespellsText text respelled) :
    Respells (parse name text).1 (parse name respelled).1 := by
  obtain ⟨hnetwork, hcosmetic⟩ := ParsedList.ofLines_respells h 1
  rw [parse, parse, ParsedList.parse, ParsedList.parse]
  dsimp only
  rw [hnetwork]
  exact respells_ofFilters name _ _ _ hcosmetic

end FilterList

namespace CosmeticMatch

variable {query : CosmeticQuery} {switches : CosmeticSwitches} {filters others : List CosmeticFilter}
  {pair : ScriptletCall}

/-- The calls of an answer, each without the ending of its name. -/
def canonicalCalls (found : CosmeticMatch) : List ScriptletCall := found.scriptlets.map (·.canonical)

/-- Among the filters found one brings a call to the page, and an exception from them is for that call in some
spelling; none is for all calls. -/
structure Contested (query : CosmeticQuery) (switches : CosmeticSwitches) (filters : List CosmeticFilter)
    (pair : ScriptletCall) : Prop where
  injection : query.injection = true
  brought : ∃ filter ∈ filters, filter.unhide = false ∧ isWanted query switches filter = true ∧
    filter.canonicalCall? = some pair
  excepted : ∃ filter ∈ filters, filter.unhide = true ∧ filter.canonicalCall? = some pair
  allowed : ∀ filter ∈ filters, filter.unhide = true → ∀ call, filter.scriptlet? = some call → call.name ≠ ""

theorem mem_canonicalCalls (hread : ∀ filter ∈ filters, filter.IsRead) :
    pair ∈ (resolve query switches filters).canonicalCalls ↔ ∃ filter ∈ filters, ∃ call,
      Brings query switches (.of filters) call filter ∧ call.canonical = pair := by
  rw [canonicalCalls, List.mem_map]
  constructor
  · rintro ⟨call, hcall, hpair⟩
    obtain ⟨filter, hfilter, hbrings⟩ := exists_brings hcall
    exact ⟨filter, hfilter, call, hbrings, hpair⟩
  · rintro ⟨filter, hfilter, call, hbrings, hpair⟩
    exact ⟨call, mem_scriptlets_of_brings hread hfilter hbrings, hpair⟩

theorem spares_call_iff {call : ScriptletCall} : (Exceptions.of filters).spares call = true ↔
    ∀ filter ∈ filters, filter.unhide = true → ∀ other, filter.scriptlet? = some other →
      other.name ≠ "" ∧ other ≠ call := by
  rw [spares_call_of, Bool.not_eq_true', List.any_eq_false]
  refine forall₂_congr fun filter _ => ?_
  cases filter.scriptlet? <;> simp

theorem Contested.respells (hcontested : Contested query switches filters pair)
    (h : List.Forall₂ Respells filters others) : Contested query switches others pair := by
  constructor
  case injection => exact hcontested.injection
  case brought =>
    obtain ⟨filter, hfilter, hunhide, hwanted, hpair⟩ := hcontested.brought
    obtain ⟨other, hother, hrespells⟩ := exists_mem_of_forall₂ h hfilter
    exact ⟨other, hother, hrespells.unhide.trans hunhide, (hrespells.isWanted query switches).trans hwanted,
      hrespells.canonicalCall?.trans hpair⟩
  case excepted =>
    obtain ⟨filter, hfilter, hunhide, hpair⟩ := hcontested.excepted
    obtain ⟨other, hother, hrespells⟩ := exists_mem_of_forall₂ h hfilter
    exact ⟨other, hother, hrespells.unhide.trans hunhide, hrespells.canonicalCall?.trans hpair⟩
  case allowed =>
    intro other hother hunhide call hcall hempty
    obtain ⟨filter, hfilter, hrespells⟩ := exists_mem_of_forall₂ h.flip hother
    exact hcontested.allowed filter hfilter (hrespells.unhide.symm.trans hunhide) call
      (hrespells.symm.scriptlet?_of_empty hcall hempty) hempty

theorem Brings.contested {filter exception : CosmeticFilter} {call : ScriptletCall}
    (h : Brings query switches (.of filters) call filter) (hfilter : filter ∈ filters)
    (hexception : exception ∈ filters) (hunhide : exception.unhide = true)
    (hexcepted : exception.canonicalCall? = some call.canonical) :
    Contested query switches filters call.canonical where
  injection := h.injection
  brought := ⟨filter, hfilter, h.unhide, h.wanted, CosmeticFilter.canonicalCall?_of_scriptlet? h.scriptlet⟩
  excepted := ⟨exception, hexception, hunhide, hexcepted⟩
  allowed := fun other hother hunhide taken htaken =>
    (spares_call_iff.1 h.spared other hother hunhide taken htaken).1

/-- A call stays, unless an exception is for it in a spelling that it could have too. -/
theorem mem_canonicalCalls_of_respells (hread : ∀ filter ∈ filters, filter.IsRead)
    (hother : ∀ other ∈ others, other.IsRead) (h : List.Forall₂ Respells filters others)
    (hone : Contested query switches filters pair → ¬ pair.HasSpellings)
    (hmem : pair ∈ (resolve query switches filters).canonicalCalls) :
    pair ∈ (resolve query switches others).canonicalCalls := by
  obtain ⟨filter, hfilter, call, hbrings, rfl⟩ := (mem_canonicalCalls hread).1 hmem
  have hspared := spares_call_iff.1 hbrings.spared
  have hpair := CosmeticFilter.canonicalCall?_of_scriptlet? hbrings.scriptlet
  obtain ⟨other, hmem, hrespells⟩ := exists_mem_of_forall₂ h hfilter
  obtain ⟨respelled, hrespelled, hcanonical⟩ := Option.map_eq_some_iff.1 (hrespells.canonicalCall?.trans hpair)
  refine (mem_canonicalCalls hother).2
    ⟨other, hmem, respelled, ⟨hrespelled, ?_, ?_, hbrings.injection, ?_⟩, hcanonical⟩
  · rw [hrespells.unhide, hbrings.unhide]
  · rw [hrespells.isWanted, hbrings.wanted]
  · rw [spares_call_iff]
    intro later hlater hlaterUnhide taken htaken
    obtain ⟨exception, hexception, hback⟩ := exists_mem_of_forall₂ h.flip hlater
    have hunhide : exception.unhide = true := hback.unhide.symm.trans hlaterUnhide
    constructor
    · intro hempty
      have hbefore := hback.symm.scriptlet?_of_empty htaken hempty
      exact (hspared exception hexception hunhide taken hbefore).1 hempty
    · rintro rfl
      have hexcepted : exception.canonicalCall? = some call.canonical := by
        rw [← hback.canonicalCall?, CosmeticFilter.canonicalCall?_of_scriptlet? htaken, hcanonical]
      have hsingle := hone (hbrings.contested hfilter hexception hunhide hexcepted)
      -- with one spelling only, both calls were the same before
      have hbrought := hrespells.scriptlet?_eq hpair hsingle
      have hbefore := hback.scriptlet?_eq hexcepted hsingle
      rw [hrespelled, hbrings.scriptlet] at hbrought
      rw [htaken] at hbefore
      exact (hspared exception hexception hunhide taken hbefore.symm).2 (Option.some.inj hbrought)

/-- With some endings for the calls of filters and for those of exceptions, a contested call stays when these
are not the same. -/
theorem Contested.mem_canonicalCalls_iff (hcontested : Contested query switches filters pair)
    (hread : ∀ filter ∈ filters, filter.IsRead) {ending : Bool → String}
    (hspelled : ∀ filter ∈ filters, filter.IsSpelled pair ending) :
    pair ∈ (resolve query switches filters).canonicalCalls ↔ ending false ≠ ending true := by
  rw [mem_canonicalCalls hread]
  constructor
  · rintro ⟨filter, hfilter, call, hbrings, hpair⟩ hsame
    obtain ⟨exception, hexception, hunhide, hexcepted⟩ := hcontested.excepted
    obtain ⟨other, hother, hcanonical⟩ := Option.map_eq_some_iff.1 hexcepted
    refine (spares_call_iff.1 hbrings.spared exception hexception hunhide other hother).2 ?_
    rw [hspelled filter hfilter call hbrings.scriptlet hpair, hbrings.unhide, hsame, ← hunhide]
    exact hspelled exception hexception other hother hcanonical
  · intro hne
    obtain ⟨filter, hfilter, hunhide, hwanted, hbrought⟩ := hcontested.brought
    obtain ⟨call, hcall, hpair⟩ := Option.map_eq_some_iff.1 hbrought
    refine ⟨filter, hfilter, call, ⟨hcall, hunhide, hwanted, hcontested.injection, spares_call_iff.2 ?_⟩, hpair⟩
    intro exception hexception hexcepted other hother
    refine ⟨hcontested.allowed exception hexception hexcepted other hother, ?_⟩
    rintro rfl
    have hbrings := hspelled filter hfilter other hcall hpair
    have htakes := hspelled exception hexception other hother hpair
    rw [hbrings, hunhide, hexcepted] at htakes
    exact hne (String.append_right_inj pair.name |>.1 (ScriptletCall.mk.inj htakes).1)

end CosmeticMatch

namespace Engine

variable {suffixes : Option Domain.PublicSuffixes} {query : CosmeticQuery} {pair : ScriptletCall}
  {texts respelled : List (String × String)}

/-- Some texts with their names, each compiled to a list. -/
def ofTexts (texts : List (String × String)) : Engine :=
  merge (texts.zipIdx.map fun (named, origin) => (compile origin named.1 named.2).1)

theorem built_ofTexts (texts : List (String × String)) : (ofTexts texts).Built := by
  apply Built.merge
  intro engine hengine
  obtain ⟨⟨named, origin⟩, -, rfl⟩ := List.mem_map.1 hengine
  exact .compile origin named.1 named.2

theorem lists_ofTexts (texts : List (String × String)) :
    (ofTexts texts).lists = texts.map fun named => (FilterList.parse named.1 named.2).1 := by
  have hmembers : (texts.zipIdx.map fun (named, origin) => (compile origin named.1 named.2).1).flatMap
      (·.members) = texts.zipIdx.map fun (named, origin) => ⟨origin, (FilterList.parse named.1 named.2).1⟩ := by
    rw [List.flatMap_map]
    exact List.map_eq_flatMap.symm
  have horigins : (texts.zipIdx.map fun (named, origin) =>
      (⟨origin, (FilterList.parse named.1 named.2).1⟩ : Member)).map (·.origin) =
        List.range' 0 texts.length := by
    rw [List.map_map]
    exact List.zipIdx_map_snd 0 texts
  rw [lists, ofTexts, merge, hmembers, distinctBy_eq_self (horigins ▸ List.nodup_range'), List.map_map]
  conv_rhs => rw [← List.zipIdx_map_fst 0 texts, List.map_map]
  rfl

theorem isRead_ofTexts {filters : List CosmeticFilter}
    (h : (ofTexts texts).collectCosmetics suffixes query = .ok filters) : ∀ filter ∈ filters, filter.IsRead :=
  fun filter hfilter => (isSound_of_collectCosmetics (built_ofTexts texts).compiled h filter hfilter).read

/-- The texts have the same names and lines, but for the spelling of calls. -/
def RespellsTexts (texts respelled : List (String × String)) : Prop :=
  List.Forall₂ (fun before after => after.1 = before.1 ∧ ParsedList.RespellsText before.2 after.2)
    texts respelled

theorem RespellsTexts.lists (h : RespellsTexts texts respelled) :
    List.Forall₂ FilterList.Respells (ofTexts texts).lists (ofTexts respelled).lists := by
  rw [lists_ofTexts, lists_ofTexts, List.forall₂_map_left_iff, List.forall₂_map_right_iff]
  refine h.imp ?_
  rintro ⟨name, text⟩ ⟨name', text'⟩ ⟨rfl, htext⟩
  exact FilterList.respells_parse htext

theorem RespellsTexts.collectNetwork (h : RespellsTexts texts respelled) (request : Request) :
    (ofTexts respelled).collectNetwork request = (ofTexts texts).collectNetwork request := by
  rw [Engine.collectNetwork, Engine.collectNetwork,
    mapM_eq_of_forall₂ (h.lists.imp fun _ _ hlist => hlist.collectNetwork request)]

theorem RespellsTexts.collectCosmetics (h : RespellsTexts texts respelled)
    (suffixes : Option Domain.PublicSuffixes) (query : CosmeticQuery) : Alike (List.Forall₂ Respells)
      ((ofTexts texts).collectCosmetics suffixes query) ((ofTexts respelled).collectCosmetics suffixes query) :=
  (Alike.mapM (h.lists.imp fun _ _ hlist => hlist.collectCosmetics suffixes query)).bind
    fun _ _ hfound => .ok (List.rel_flatten hfound)

/-- An exception that a page comes by is for a call that a filter brings to the page, in some spelling. -/
def Contested (suffixes : Option Domain.PublicSuffixes) (engine : Engine) (query : CosmeticQuery)
    (pair : ScriptletCall) : Prop :=
  ∃ candidates filters, engine.collectNetwork (.page suffixes query.url) = .ok candidates ∧
    engine.collectCosmetics suffixes query = .ok filters ∧
    CosmeticMatch.Contested query (.of candidates) filters pair

theorem RespellsTexts.matchCosmetics (h : RespellsTexts texts respelled)
    (suffixes : Option Domain.PublicSuffixes) (query : CosmeticQuery) : Alike (fun found answer => ∀ pair,
      ((ofTexts texts).Contested suffixes query pair → ¬ pair.HasSpellings) →
        (pair ∈ answer.canonicalCalls ↔ pair ∈ found.canonicalCalls))
      ((ofTexts texts).matchCosmetics suffixes query) ((ofTexts respelled).matchCosmetics suffixes query) := by
  rw [Engine.matchCosmetics, Engine.matchCosmetics, h.collectNetwork]
  cases hcandidates : (ofTexts texts).collectNetwork (.page suffixes query.url) with
  | error fault => exact .error fault
  | ok candidates =>
    have hcosmetics := h.collectCosmetics suffixes query
    generalize hbefore : (ofTexts texts).collectCosmetics suffixes query = before at hcosmetics
    generalize hafter : (ofTexts respelled).collectCosmetics suffixes query = after at hcosmetics
    cases hcosmetics with
    | error fault => exact .error fault
    | @ok filters others hfound =>
      refine .ok fun pair hone => ?_
      have hread := isRead_ofTexts hbefore
      have hreadOthers := isRead_ofTexts hafter
      have hone : CosmeticMatch.Contested query (.of candidates) filters pair → ¬ pair.HasSpellings :=
        fun hcontested => hone ⟨candidates, filters, hcandidates, hbefore, hcontested⟩
      have hback : List.Forall₂ Respells others filters := hfound.flip.imp fun _ _ hother => hother.symm
      constructor
      · exact CosmeticMatch.mem_canonicalCalls_of_respells hreadOthers hread hback
          fun hcontested => hone (hcontested.respells hback)
      · exact CosmeticMatch.mem_canonicalCalls_of_respells hread hreadOthers hfound hone

theorem exists_respellsTexts (hspellings : pair.HasSpellings) {ending : Bool → String}
    (hending : ∀ unhide, ending unhide = "" ∨ ending unhide = ".js") (texts : List (String × String)) :
    ∃ respelled, RespellsTexts texts respelled ∧
      ∀ list ∈ (ofTexts respelled).lists, ∀ filter ∈ list.cosmetic, filter.IsSpelled pair ending := by
  choose respell hrespells hspelled using ParsedList.exists_respellsText hspellings hending
  refine ⟨texts.map fun named => (named.1, respell named.2), ?_, ?_⟩
  · rw [RespellsTexts, List.forall₂_map_right_iff, List.forall₂_same]
    exact fun named _ => ⟨rfl, hrespells named.2⟩
  · rw [lists_ofTexts]
    intro list hlist
    obtain ⟨after, hafter, rfl⟩ := List.mem_map.1 hlist
    obtain ⟨named, -, rfl⟩ := List.mem_map.1 hafter
    exact hspelled named.2

/-- An ending, of which a name has one at most, makes no difference to the calls that a page is answered with,
but for those that the page has both from a filter and in an exception. Such a call that can be written with the
ending and without can be made to come and to go: the exception takes it away when it has the spelling of
the filter, and leaves it in the other one. -/
theorem endings_matter_to_contested (texts : List (String × String)) (suffixes : Option Domain.PublicSuffixes)
    (query : CosmeticQuery) :
    (∀ call : ScriptletCall, ScriptletCall.canonical ⟨call.name ++ ".js", call.args⟩ = call.canonical ↔
      ¬ call.HasEnding) ∧
    (∀ respelled, RespellsTexts texts respelled → Alike (fun found answer => ∀ pair,
      ((ofTexts texts).Contested suffixes query pair → ¬ pair.HasSpellings) →
        (pair ∈ answer.canonicalCalls ↔ pair ∈ found.canonicalCalls))
      ((ofTexts texts).matchCosmetics suffixes query) ((ofTexts respelled).matchCosmetics suffixes query)) ∧
    ∀ pair, (ofTexts texts).Contested suffixes query pair → pair.HasSpellings →
      ∀ ending : Bool → String, (∀ unhide, ending unhide = "" ∨ ending unhide = ".js") →
        ∃ respelled answer, RespellsTexts texts respelled ∧
          (∀ list ∈ (ofTexts respelled).lists, ∀ filter ∈ list.cosmetic, filter.IsSpelled pair ending) ∧
          (ofTexts respelled).matchCosmetics suffixes query = .ok answer ∧
          (pair ∈ answer.canonicalCalls ↔ ending false ≠ ending true) := by
  refine ⟨fun call => ScriptletCall.canonical_append_eq_iff,
    fun respelled h => h.matchCosmetics suffixes query, ?_⟩
  rintro pair ⟨candidates, filters, hcandidates, hfilters, hcontested⟩ hspellings ending hending
  obtain ⟨respelled, h, hspelled⟩ := exists_respellsTexts hspellings hending texts
  have hcosmetics := h.collectCosmetics suffixes query
  rw [hfilters] at hcosmetics
  generalize hafter : (ofTexts respelled).collectCosmetics suffixes query = after at hcosmetics
  cases hcosmetics with
  | @ok _ others hfound =>
    refine ⟨respelled, CosmeticMatch.resolve query (.of candidates) others, h, hspelled, ?_, ?_⟩
    · rw [Engine.matchCosmetics, h.collectNetwork, hcandidates, hafter]
      rfl
    · refine (hcontested.respells hfound).mem_canonicalCalls_iff (isRead_ofTexts hafter) fun other hother => ?_
      obtain ⟨list, hlist, hother, -⟩ := exists_of_mem_collectCosmetics hafter hother
      exact hspelled list hlist other hother

/-- A filter or an exception on one site, with a call that has no arguments. -/
def callOn (unhide : Bool) (raw name : String) : CosmeticFilter :=
  ⟨raw, ["a.com"], [], unhide, .scriptlet ⟨name, []⟩, ""⟩

/-- A filter and an exception for one call, spelled in two ways. -/
def twoSpellings : List (String × String) := [("ads", "a.com##+js(foo.js)\na.com#@#+js(foo)")]

theorem collectCosmetics_twoSpellings :
    (FilterList.parse "ads" "a.com##+js(foo.js)\na.com#@#+js(foo)").1.collectCosmetics none
      (.bootstrap "https://a.com/") =
        .ok [callOn false "a.com##+js(foo.js)" "foo.js", callOn true "a.com#@#+js(foo)" "foo"] := by
  rw [FilterList.collectCosmetics_eq]
  decide +kernel

theorem contested_twoSpellings :
    (ofTexts twoSpellings).Contested none (.bootstrap "https://a.com/") ⟨"foo", []⟩ := by
  refine ⟨[], _, collectNetwork_of_singleton (lists_ofTexts _) (by decide +kernel) _,
    collectCosmetics_of_singleton (lists_ofTexts _) collectCosmetics_twoSpellings, rfl, ?_, ?_, ?_⟩
  · exact ⟨_, List.mem_cons_self, rfl, by decide, by decide⟩
  · exact ⟨_, List.mem_cons_of_mem _ List.mem_cons_self, rfl, by decide⟩
  · simp [callOn, CosmeticFilter.scriptlet?]

theorem endings_matter_to_contested_foo : ∃ respelled answer, RespellsTexts twoSpellings respelled ∧
    (ofTexts respelled).matchCosmetics none (.bootstrap "https://a.com/") = .ok answer ∧
    ⟨"foo", []⟩ ∉ answer.canonicalCalls := by
  have hspellings : ScriptletCall.HasSpellings ⟨"foo", []⟩ :=
    ⟨by decide, by unfold ScriptletCall.HasEnding; decide⟩
  obtain ⟨-, -, hcontested⟩ := endings_matter_to_contested twoSpellings none (.bootstrap "https://a.com/")
  obtain ⟨respelled, answer, hrespells, -, hanswer, hmem⟩ :=
    hcontested _ contested_twoSpellings hspellings (fun _ => ".js") fun _ => .inr rfl
  exact ⟨respelled, answer, hrespells, hanswer, fun hcall => hmem.1 hcall rfl⟩

/-- The same filter and exception, spelled in one way. -/
def oneSpelling : List (String × String) := [("ads", "a.com##+js(foo.js)\na.com#@#+js(foo.js)")]

/-- An ending of the exception alone makes the difference between a page with the call and one without. -/
theorem ending_takes_call_away : RespellsTexts twoSpellings oneSpelling ∧
    (ofTexts twoSpellings).matchCosmetics none (.bootstrap "https://a.com/") =
      .ok { scriptlets := [⟨"foo.js", []⟩], enableGeneric := true } ∧
    (ofTexts oneSpelling).matchCosmetics none (.bootstrap "https://a.com/") =
      .ok { enableGeneric := true } ∧
    CosmeticMatch.canonicalCalls { scriptlets := [⟨"foo.js", []⟩], enableGeneric := true } = [⟨"foo", []⟩] ∧
    CosmeticMatch.canonicalCalls { enableGeneric := true } = [] := by
  have htwo : Text.lines "a.com##+js(foo.js)\na.com#@#+js(foo)".toList =
      ["a.com##+js(foo.js)".toList, "a.com#@#+js(foo)".toList] := by decide +kernel
  have hone : Text.lines "a.com##+js(foo.js)\na.com#@#+js(foo.js)".toList =
      ["a.com##+js(foo.js)".toList, "a.com#@#+js(foo.js)".toList] := by decide +kernel
  have hshort : Filter.parseChars "a.com#@#+js(foo)".toList =
      .ok (some (.cosmetic (callOn true "a.com#@#+js(foo)" "foo"))) := by decide +kernel
  have hlong : Filter.parseChars "a.com#@#+js(foo.js)".toList =
      .ok (some (.cosmetic (callOn true "a.com#@#+js(foo.js)" "foo.js"))) := by decide +kernel
  have hrespells : (callOn true "a.com#@#+js(foo)" "foo").Respells
      (callOn true "a.com#@#+js(foo.js)" "foo.js") :=
    .call "a.com#@#+js(foo.js)" rfl (by decide) (by decide)
  have hfound : (FilterList.parse "ads" "a.com##+js(foo.js)\na.com#@#+js(foo.js)").1.collectCosmetics none
      (.bootstrap "https://a.com/") = .ok [callOn false "a.com##+js(foo.js)" "foo.js",
        callOn true "a.com#@#+js(foo.js)" "foo.js"] := by
    rw [FilterList.collectCosmetics_eq]
    decide +kernel
  refine ⟨.cons ⟨rfl, ?_⟩ .nil, ?_, ?_, by decide, rfl⟩
  · rw [ParsedList.RespellsText, htwo, hone]
    exact .cons .same (.cons (.call hshort hlong hrespells) .nil)
  · rw [matchCosmetics_of_singleton (lists_ofTexts _) (by decide +kernel) collectCosmetics_twoSpellings]
    simp [callOn, CosmeticMatch.resolve, CosmeticMatch.isWanted, CosmeticMatch.Exceptions.of,
      CosmeticMatch.styleSheet, CosmeticSwitches.of, CosmeticFilter.isGeneric, CosmeticFilter.scriptlet?,
      CosmeticQuery.bootstrap, distinct, distinctBy, distinctFrom]
  · rw [matchCosmetics_of_singleton (lists_ofTexts _) (by decide +kernel) hfound]
    simp [callOn, CosmeticMatch.resolve, CosmeticMatch.isWanted, CosmeticMatch.Exceptions.of,
      CosmeticMatch.styleSheet, CosmeticSwitches.of, CosmeticFilter.isGeneric, CosmeticFilter.scriptlet?,
      CosmeticQuery.bootstrap, distinct, distinctBy, distinctFrom]

end Engine

end ContentFilter
