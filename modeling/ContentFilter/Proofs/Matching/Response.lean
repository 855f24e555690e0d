import ContentFilter.Proofs.Engine.Union
import ContentFilter.Proofs.Matching.Duplicates
import ContentFilter.Proofs.Matching.PageRules

/-! What is added to a response and removed from its body: the sets of what the matching filters say and no
exception takes away, wherever the filters and the exceptions stand. -/

namespace ContentFilter

open Domain (IsAscii)

/-- The hosts of a request are of single bytes. -/
structure Request.HasAsciiHosts (request : Request) : Prop where
  hostname : IsAscii request.hostname.toList
  source : IsAscii request.sourceHostname.toList

namespace ResponseMatch

variable {candidates : List Candidate} {filters : List CosmeticFilter}

theorem policies_nodup (candidates : List Candidate) : (policies candidates).Nodup := by
  unfold policies
  extract_lets excepted
  split
  · exact List.nodup_nil
  · exact (distinctBy_keys_nodup id _).of_map

/-- Policies of the candidates that block, without those of the exceptions among them. -/
theorem mem_policies {csp : String} : csp ∈ policies candidates ↔
    csp ≠ "" ∧ (∃ filter ∈ candidates.map (·.filter), filter.action = .block ∧ filter.csp = some csp) ∧
      ∀ filter ∈ candidates.map (·.filter), filter.action = .allow →
        filter.csp ≠ some csp ∧ filter.csp ≠ some "" := by
  rw [List.forall_mem_map]
  simp only [List.mem_map, exists_exists_and_eq_and]
  have hallow (filter : NetworkFilter) : filter.isException = true ↔ filter.action = .allow := by
    rw [NetworkFilter.isException, beq_iff_eq]
  have hblock (filter : NetworkFilter) : filter.isException = false ↔ filter.action = .block := by
    rw [NetworkFilter.isException]
    cases filter.action <;> decide
  unfold policies
  extract_lets excepted
  have hexcepted (value : String) : excepted.contains value = true ↔
      ∃ candidate ∈ candidates, candidate.filter.action = .allow ∧ candidate.filter.csp = some value := by
    simp [excepted, hallow, and_assoc]
  have hnone (value : String) : excepted.contains value = false ↔
      ∀ candidate ∈ candidates, candidate.filter.action = .allow → candidate.filter.csp ≠ some value := by
    rw [← Bool.not_eq_true, hexcepted]
    simp only [not_exists, not_and]
  split
  · next hbare =>
    obtain ⟨candidate, hcandidate, haction, hcsp⟩ := (hexcepted "").1 hbare
    exact iff_of_false List.not_mem_nil fun h => (h.2.2 candidate hcandidate haction).2 hcsp
  · next hbare =>
    rw [Bool.not_eq_true, hnone] at hbare
    rw [mem_distinct, List.mem_filter, List.mem_filterMap]
    simp only [List.mem_filter, Bool.not_eq_true', Bool.and_eq_true, hblock, hnone, and_assoc]
    have hempty : csp.isEmpty = false ↔ csp ≠ "" := by simp
    rw [hempty]
    constructor
    · rintro ⟨hblocking, hne, hspared⟩
      exact ⟨hne, hblocking, fun candidate hcandidate haction =>
        ⟨hspared candidate hcandidate haction, hbare candidate hcandidate haction⟩⟩
    · rintro ⟨hne, hblocking, hspared⟩
      exact ⟨hblocking, hne, fun candidate hcandidate haction => (hspared candidate hcandidate haction).1⟩

theorem selectors_nodup (filters : List CosmeticFilter) : (selectors filters).Nodup :=
  (distinctBy_keys_nodup id _).of_map

/-- Selectors of the filters on the body of some hosts, without those of the exceptions. -/
theorem mem_selectors {selector : String} : selector ∈ selectors filters ↔
    (∃ filter ∈ filters, filter.kind = .html ∧ filter.unhide = false ∧ filter.hostnames ≠ [] ∧
      filter.selector = selector) ∧
      ∀ filter ∈ filters, filter.kind = .html → filter.unhide = true → filter.selector ≠ selector := by
  unfold selectors
  extract_lets html excepted
  have hexcepted : excepted.contains selector = false ↔
      ∀ filter ∈ filters, filter.kind = .html → filter.unhide = true → filter.selector ≠ selector := by
    rw [← Bool.not_eq_true, List.contains_iff_mem]
    simp only [excepted, html, List.mem_map, List.mem_filter, beq_iff_eq, not_exists, not_and, and_imp, ne_eq]
  rw [mem_distinct, List.mem_filter, Bool.not_eq_true', hexcepted, List.mem_map]
  simp only [html, List.mem_filter, beq_iff_eq, Bool.and_eq_true, Bool.not_eq_true', CosmeticFilter.isGeneric,
    List.isEmpty_eq_false_iff, and_assoc]

end ResponseMatch

namespace FilterList

variable {list : FilterList} {request : Request}

/-- A compiled list answers a lower-case host of single bytes with all its filters that match. -/
theorem mem_collectNetwork {found : List Candidate} {candidate : Candidate} (hlist : list.Compiled)
    (hhost : IsAscii request.hostname.toList)
    (hlow : Text.lower request.hostname.toList = request.hostname.toList)
    (h : list.collectNetwork request = .ok found) : candidate ∈ found ↔ ∃ filter ∈ list.network,
      filter.accepts request filter.regex?.join = .ok true ∧ candidate = ⟨filter, list.name⟩ := by
  obtain ⟨kept, hkept, heq⟩ := ok_of_bind h
  cases heq
  have hlookup := NetworkIndex.lookup_build_perm list.network request.hostname.toList
  rw [← list.networkIndex_eq] at hlookup
  rw [List.mem_map]
  constructor
  · rintro ⟨compiled, hcompiled, rfl⟩
    obtain ⟨hfound, haccepts⟩ := (mem_of_filterM hkept).1 hcompiled
    obtain ⟨filter, hfilter, hcompiled⟩ :=
      List.mem_filterMap.1 (List.mem_filter.1 (hlookup.mem_iff.1 hfound)).1
    obtain rfl := NetworkFilter.eq_of_compiled? hcompiled
    exact ⟨filter, hfilter, haccepts, rfl⟩
  · rintro ⟨filter, hfilter, haccepts, rfl⟩
    refine ⟨⟨filter, filter.regex?.join⟩, (mem_of_filterM hkept).2 ⟨hlookup.mem_iff.2 ?_, haccepts⟩, rfl⟩
    refine List.mem_filter.2 ⟨?_, NetworkFilter.isReached_of_accepts (hlist.wellFormed.1 filter hfilter) hhost
      hlow haccepts⟩
    exact List.mem_filterMap.2 ⟨filter, hfilter, NetworkFilter.compiled?_of_accepts haccepts⟩

end FilterList

namespace Engine

variable {engine other : Engine} {request : Request} {suffixes : Option Domain.PublicSuffixes}

/-- The filter is in a list of the engine and matches the request. -/
def Matches (engine : Engine) (request : Request) (filter : NetworkFilter) : Prop :=
  ∃ list ∈ engine.lists, filter ∈ list.network ∧ filter.accepts request filter.regex?.join = .ok true

/-- The filter is in a list of the engine and applies to the pages of the host. -/
def Applies (engine : Engine) (suffixes : Option Domain.PublicSuffixes) (host : List Char)
    (filter : CosmeticFilter) : Prop :=
  ∃ list ∈ engine.lists, filter ∈ list.cosmetic ∧ filter.appliesTo suffixes host = .ok true

/-- A matching filter that blocks sets the policy, and no matching exception has the same one or none. -/
structure Sets (engine : Engine) (request : Request) (csp : String) : Prop where
  nonempty : csp ≠ ""
  blocked : ∃ filter, engine.Matches request filter ∧ filter.action = .block ∧ filter.csp = some csp
  spared : ∀ filter, engine.Matches request filter → filter.action = .allow →
    filter.csp ≠ some csp ∧ filter.csp ≠ some ""

/-- A filter on the body of some hosts applies and has the selector, and no exception on bodies that applies
has it. -/
structure Strips (engine : Engine) (suffixes : Option Domain.PublicSuffixes) (host : List Char)
    (selector : String) : Prop where
  stripped : ∃ filter, engine.Applies suffixes host filter ∧ filter.kind = .html ∧ filter.unhide = false ∧
    filter.hostnames ≠ [] ∧ filter.selector = selector
  spared : ∀ filter, engine.Applies suffixes host filter → filter.kind = .html → filter.unhide = true →
    filter.selector ≠ selector

theorem mem_filters_collectNetwork {candidates : List Candidate} {filter : NetworkFilter}
    (hlists : ∀ list ∈ engine.lists, list.Compiled) (hhost : IsAscii request.hostname.toList)
    (hlow : Text.lower request.hostname.toList = request.hostname.toList)
    (h : engine.collectNetwork request = .ok candidates) :
    filter ∈ candidates.map (·.filter) ↔ engine.Matches request filter := by
  rw [List.mem_map]
  constructor
  · rintro ⟨candidate, hcandidate, rfl⟩
    obtain ⟨list, hlist, found, hfound, hmem⟩ := (mem_collectNetwork h).1 hcandidate
    obtain ⟨filter, hfilter, haccepts, rfl⟩ :=
      (FilterList.mem_collectNetwork (hlists list hlist) hhost hlow hfound).1 hmem
    exact ⟨list, hlist, hfilter, haccepts⟩
  · rintro ⟨list, hlist, hfilter, haccepts⟩
    obtain ⟨all, hall, -⟩ := ok_of_bind h
    obtain ⟨found, -, hfound⟩ := exists_mem_of_mapM hall hlist
    have hmem : ⟨filter, list.name⟩ ∈ found :=
      (FilterList.mem_collectNetwork (hlists list hlist) hhost hlow hfound).2 ⟨filter, hfilter, haccepts, rfl⟩
    exact ⟨_, (mem_collectNetwork h).2 ⟨list, hlist, found, hfound, hmem⟩, rfl⟩

/-- A filter on bodies stands where every query looks. -/
theorem mem_collectCosmetics_html {query : CosmeticQuery} {filters : List CosmeticFilter}
    {filter : CosmeticFilter} (hlists : ∀ list ∈ engine.lists, list.Compiled)
    (hlow : Text.lower query.hostname.toList = query.hostname.toList)
    (h : engine.collectCosmetics suffixes query = .ok filters) (hkind : filter.kind = .html) :
    filter ∈ filters ↔ engine.Applies suffixes query.hostname.toList filter := by
  refine ⟨exists_of_mem_collectCosmetics h, ?_⟩
  rintro ⟨list, hlist, hfilter, happlies⟩
  have hwell := (hlists list hlist).wellFormed_cosmetic filter hfilter
  refine mem_collectCosmetics_of_isWanted hlow h hlist hfilter hwell happlies ?_
  simp [CosmeticFilter.isWanted, hkind]

/-- What an engine answers for a response. -/
theorem exists_matchResponse (hlists : ∀ list ∈ engine.lists, list.Compiled) (url : String)
    (source : Option String) (kind : Kind)
    (hascii : (Request.build suffixes url source kind).HasAsciiHosts) :
    ∃ found, engine.matchResponse suffixes (.build suffixes url source kind) = .ok found ∧
      found.csp.Nodup ∧ found.html.Nodup ∧
      (∀ csp, csp ∈ found.csp ↔ engine.Sets (.build suffixes url source kind) csp) ∧
      ∀ selector, selector ∈ found.html ↔ engine.Strips suffixes (Url.hostName url.toList) selector := by
  have hname : (Request.build suffixes url source kind).hostname.toList = Url.hostName url.toList := by
    rw [Request.build, String.toList_ofList]
  have hpage : (CosmeticQuery.bootstrap url).hostname.toList = Url.hostName url.toList := by
    rw [CosmeticQuery.bootstrap, CosmeticQuery.ofUrl, String.toList_ofList]
  have hlow : Text.lower (Url.hostName url.toList) = Url.hostName url.toList := Text.lower_lower _
  obtain ⟨hhost, hsource⟩ := hascii
  obtain ⟨candidates, hcandidates⟩ := exists_collectNetwork_of_ascii engine hhost hsource
  obtain ⟨filters, hfilters⟩ := exists_collectCosmetics_of_ascii suffixes engine hpage (hname ▸ hhost)
  have hnetwork (filter : NetworkFilter) : filter ∈ candidates.map (·.filter) ↔
      engine.Matches (.build suffixes url source kind) filter :=
    mem_filters_collectNetwork hlists hhost (hname ▸ hlow) hcandidates
  have hhtml {filter : CosmeticFilter} (hkind : filter.kind = .html) :
      filter ∈ filters ↔ engine.Applies suffixes (Url.hostName url.toList) filter := by
    rw [mem_collectCosmetics_html hlists (hpage ▸ hlow) hfilters hkind, hpage]
  refine ⟨⟨ResponseMatch.policies candidates, ResponseMatch.selectors filters⟩, ?_,
    ResponseMatch.policies_nodup candidates, ResponseMatch.selectors_nodup filters, fun csp => ?_,
    fun selector => ?_⟩
  · show (engine.collectNetwork _ >>= _) = _
    rw [hcandidates]
    show (engine.collectCosmetics suffixes (.bootstrap url) >>= _) = _
    rw [hfilters]
    rfl
  · rw [ResponseMatch.mem_policies]
    simp only [hnetwork]
    constructor
    · rintro ⟨hne, hblocked, hspared⟩
      exact ⟨hne, hblocked, hspared⟩
    · intro h
      exact ⟨h.nonempty, h.blocked, h.spared⟩
  · rw [ResponseMatch.mem_selectors]
    constructor
    · rintro ⟨⟨filter, hfilter, hkind, hrest⟩, hspared⟩
      exact ⟨⟨filter, (hhtml hkind).1 hfilter, hkind, hrest⟩, fun exception happlies hkind' =>
        hspared exception ((hhtml hkind').2 happlies) hkind'⟩
    · rintro ⟨⟨filter, happlies, hkind, hrest⟩, hspared⟩
      exact ⟨⟨filter, (hhtml hkind).2 happlies, hkind, hrest⟩, fun exception hexception hkind' =>
        hspared exception ((hhtml hkind').1 hexception) hkind'⟩

end Engine

/-- The texts have the same lines, in any order. -/
def ParsedList.SameLines (text other : String) : Prop :=
  ∀ line, line ∈ Text.lines text.toList ↔ line ∈ Text.lines other.toList

instance (text other : String) : Decidable (ParsedList.SameLines text other) :=
  decidable_of_iff (Text.lines text.toList ⊆ Text.lines other.toList ∧
      Text.lines other.toList ⊆ Text.lines text.toList)
    ⟨fun h _ => ⟨fun hline => h.1 hline, fun hline => h.2 hline⟩,
      fun h => ⟨fun line hline => (h line).1 hline, fun line hline => (h line).2 hline⟩⟩

namespace ParsedList

variable {text other : String}

theorem SameLines.symm (h : SameLines text other) : SameLines other text := fun line => (h line).symm

theorem SameLines.mem_filters (h : SameLines text other) {filter : Filter} :
    filter ∈ (parse text).filters ↔ filter ∈ (parse other).filters := by
  rw [parse, parse, mem_filters_ofLines, mem_filters_ofLines]
  simp only [h _]

theorem SameLines.mem_cosmetic (h : SameLines text other) {filter : CosmeticFilter} :
    filter ∈ (parse text).cosmetic ↔ filter ∈ (parse other).cosmetic := by
  rw [mem_cosmetic_iff, mem_cosmetic_iff, h.mem_filters]

theorem SameLines.mem_network (h : SameLines text other) {filter : NetworkFilter} :
    filter ∈ (parse text).network ↔ filter ∈ (parse other).network := by
  have hmem (parsed : ParsedList) : filter ∈ parsed.network ↔ .network filter ∈ parsed.filters := by
    simp [filters]
  rw [hmem, hmem, h.mem_filters]

end ParsedList

/-- A filter that is not taken out is kept, perhaps in other words. -/
theorem NetworkFilter.exists_rewords_of_mem_uncancelled {filters : List NetworkFilter} {filter : NetworkFilter}
    (h : filter ∈ uncancelled filters) : ∃ kept ∈ (optimize filters).1, filter.Rewords kept := by
  have hany := (thinned_optimize filters).any_eq (p := (·.body == filter.body)) fun _ other hsame => by
    obtain ⟨text, rfl⟩ := hsame
    rfl
  have hfound : (uncancelled filters).any (·.body == filter.body) = true :=
    List.any_eq_true.2 ⟨filter, h, beq_self_eq_true filter.body⟩
  obtain ⟨kept, hkept, hbody⟩ := List.any_eq_true.1 (hany.symm.trans hfound)
  have hlive := (mem_uncancelled.1 h).2.1
  exact ⟨kept, hkept, filter.raw,
    eq_of_body_eq hlive (not_isCancelled_of_mem_optimize hkept).1 (beq_iff_eq.1 hbody).symm⟩

/-- The filters of a list are in another one, perhaps in other words. -/
structure FilterList.Within (list other : FilterList) : Prop where
  network : ∀ filter ∈ list.network, ∃ reworded ∈ other.network, filter.Rewords reworded
  cosmetic : list.cosmetic ⊆ other.cosmetic

theorem FilterList.network_parse (name text : String) :
    (parse name text).1.network = (NetworkFilter.optimize (ParsedList.parse text).network).1 := by
  simp only [parse, ofFilters, toListContent_ofContent]

theorem FilterList.within_parse {name name' text text' : String} (h : ParsedList.SameLines text text') :
    Within (parse name text).1 (parse name' text').1 where
  network := by
    rw [network_parse, network_parse]
    intro filter hfilter
    obtain ⟨hlive, hkept⟩ := NetworkFilter.not_isCancelled_of_mem_optimize hfilter
    have hmem : filter ∈ (ParsedList.parse text).network := NetworkFilter.optimize_subset _ hfilter
    refine NetworkFilter.exists_rewords_of_mem_uncancelled (NetworkFilter.mem_uncancelled.2
      ⟨h.mem_network.1 hmem, hlive, fun ⟨bad, hbad, hrest⟩ => hkept ⟨bad, h.mem_network.2 hbad, hrest⟩⟩)
  cosmetic := fun _ hfilter => h.mem_cosmetic.1 hfilter

namespace Engine

variable {engine other : Engine} {request : Request} {suffixes : Option Domain.PublicSuffixes}

/-- The filters of each list are in a list of the other engine, perhaps in other words. -/
def Within (engine other : Engine) : Prop :=
  ∀ list ∈ engine.lists, ∃ list' ∈ other.lists, list.Within list'

theorem Within.matches (h : engine.Within other) {filter : NetworkFilter}
    (hfilter : engine.Matches request filter) :
    ∃ reworded, other.Matches request reworded ∧ filter.Rewords reworded := by
  obtain ⟨list, hlist, hmem, haccepts⟩ := hfilter
  obtain ⟨list', hlist', hwithin⟩ := h list hlist
  obtain ⟨reworded, hreworded, text, rfl⟩ := hwithin.network filter hmem
  exact ⟨reworded, ⟨list', hlist', hreworded, haccepts⟩, text, rfl⟩

theorem Within.applies (h : engine.Within other) {host : List Char} {filter : CosmeticFilter}
    (hfilter : engine.Applies suffixes host filter) : other.Applies suffixes host filter := by
  obtain ⟨list, hlist, hmem, happlies⟩ := hfilter
  obtain ⟨list', hlist', hwithin⟩ := h list hlist
  exact ⟨list', hlist', hwithin.cosmetic hmem, happlies⟩

theorem Sets.of_within {csp : String} (hout : engine.Within other) (hin : other.Within engine)
    (h : engine.Sets request csp) : other.Sets request csp where
  nonempty := h.nonempty
  blocked := by
    obtain ⟨filter, hfilter, haction, hcsp⟩ := h.blocked
    obtain ⟨reworded, hreworded, text, rfl⟩ := hout.matches hfilter
    exact ⟨reworded, hreworded, haction, hcsp⟩
  spared := by
    intro filter hfilter haction
    obtain ⟨reworded, hreworded, text, rfl⟩ := hin.matches hfilter
    exact h.spared reworded hreworded haction

theorem Strips.of_within {host : List Char} {selector : String} (hout : engine.Within other)
    (hin : other.Within engine) (h : engine.Strips suffixes host selector) :
    other.Strips suffixes host selector where
  stripped := by
    obtain ⟨filter, hfilter, hrest⟩ := h.stripped
    exact ⟨filter, hout.applies hfilter, hrest⟩
  spared := fun filter hfilter => h.spared filter (hin.applies hfilter)

/-- Two engines are compiled from texts of the same lines. -/
def Recompiles (engine other : Engine) : Prop :=
  ∃ origin name text origin' name' text', ParsedList.SameLines text text' ∧
    engine = (compile origin name text).1 ∧ other = (compile origin' name' text').1

theorem Recompiles.symm (h : engine.Recompiles other) : other.Recompiles engine := by
  obtain ⟨origin, name, text, origin', name', text', hlines, rfl, rfl⟩ := h
  exact ⟨origin', name', text', origin, name, text, hlines.symm, rfl, rfl⟩

theorem Recompiles.within (h : engine.Recompiles other) : engine.Within other := by
  obtain ⟨origin, name, text, origin', name', text', hlines, rfl, rfl⟩ := h
  intro list hlist
  obtain rfl := List.mem_singleton.1 hlist
  exact ⟨_, List.mem_singleton_self _, FilterList.within_parse hlines⟩

theorem MergedOf.within {made made' : Origins} {sources others : List Engine} (hengine : MergedOf sources engine)
    (hother : MergedOf others other) (hmade : ∀ source ∈ sources, made.Has source)
    (hmade' : ∀ source ∈ others, made'.Has source)
    (h : ∀ source ∈ sources, ∃ recompiled ∈ others, source.Recompiles recompiled) : engine.Within other := by
  intro list hlist
  obtain ⟨source, hsource, hlist⟩ := (hengine.mem_lists hmade list).1 hlist
  obtain ⟨recompiled, hrecompiled, hsame⟩ := h source hsource
  obtain ⟨list', hlist', hwithin⟩ := hsame.within list hlist
  exact ⟨list', (hother.mem_lists hmade' list').2 ⟨recompiled, hrecompiled, hlist'⟩, hwithin⟩

theorem MergedOf.compiled {made : Origins} {sources : List Engine} (hengine : MergedOf sources engine)
    (hmade : ∀ source ∈ sources, made.Has source)
    (h : ∀ source ∈ sources, ∃ recompiled, source.Recompiles recompiled) :
    ∀ list ∈ engine.lists, list.Compiled := by
  intro list hlist
  obtain ⟨source, hsource, hlist⟩ := (hengine.mem_lists hmade list).1 hlist
  obtain ⟨_, origin, name, text, -, -, -, -, rfl, -⟩ := h source hsource
  exact (Built.compile origin name text).compiled list hlist

/-- A response gets the policies of matching filters that block and that no matching exception takes away, none
of them if an exception has no policy of its own, and loses the elements that filters for its host select and
no exception does. So it does not matter in which order the lists are merged and the filters are written. -/
theorem matchResponse_sets :
    (∀ (engine : Engine), engine.Built → ∀ (suffixes : Option Domain.PublicSuffixes) (url : String)
      (source : Option String) (kind : Kind), (Request.build suffixes url source kind).HasAsciiHosts →
      ∃ found, engine.matchResponse suffixes (.build suffixes url source kind) = .ok found ∧
        found.csp.Nodup ∧ found.html.Nodup ∧
        (∀ csp, csp ∈ found.csp ↔ engine.Sets (.build suffixes url source kind) csp) ∧
        ((∃ filter, engine.Matches (.build suffixes url source kind) filter ∧ filter.action = .allow ∧
          filter.csp = some "") → found.csp = []) ∧
        ∀ selector, selector ∈ found.html ↔ engine.Strips suffixes (Url.hostName url.toList) selector) ∧
    ∀ (made made' : Origins) (sources others : List Engine) (engine other : Engine),
      (∀ source ∈ sources, made.Has source) → (∀ source ∈ others, made'.Has source) →
      (∀ source ∈ sources, ∃ recompiled ∈ others, source.Recompiles recompiled) →
      (∀ source ∈ others, ∃ recompiled ∈ sources, source.Recompiles recompiled) →
      MergedOf sources engine → MergedOf others other → ∀ (suffixes : Option Domain.PublicSuffixes)
        (url : String) (source : Option String) (kind : Kind),
        (Request.build suffixes url source kind).HasAsciiHosts →
        ∃ found found', engine.matchResponse suffixes (.build suffixes url source kind) = .ok found ∧
          other.matchResponse suffixes (.build suffixes url source kind) = .ok found' ∧
          (∀ csp, csp ∈ found.csp ↔ csp ∈ found'.csp) ∧
          ∀ selector, selector ∈ found.html ↔ selector ∈ found'.html := by
  constructor
  · intro engine hbuilt suffixes url source kind hascii
    obtain ⟨found, hfound, hcspNodup, hhtmlNodup, hcsp, hhtml⟩ :=
      exists_matchResponse hbuilt.compiled url source kind hascii
    refine ⟨found, hfound, hcspNodup, hhtmlNodup, hcsp, ?_, hhtml⟩
    rintro ⟨filter, hfilter, haction, hbare⟩
    rw [List.eq_nil_iff_forall_not_mem]
    exact fun csp hmem => (((hcsp csp).1 hmem).spared filter hfilter haction).2 hbare
  · intro made made' sources others engine other hmade hmade' hsources hothers hengine hother suffixes url source
      kind hascii
    have hout : engine.Within other := hengine.within hother hmade hmade' hsources
    have hin : other.Within engine := hother.within hengine hmade' hmade hothers
    have hlists : ∀ list ∈ engine.lists, list.Compiled := hengine.compiled hmade fun source hsource =>
      (hsources source hsource).imp fun _ h => h.2
    have hlists' : ∀ list ∈ other.lists, list.Compiled := hother.compiled hmade' fun source hsource =>
      (hothers source hsource).imp fun _ h => h.2
    obtain ⟨found, hfound, -, -, hcsp, hhtml⟩ := exists_matchResponse hlists url source kind hascii
    obtain ⟨found', hfound', -, -, hcsp', hhtml'⟩ := exists_matchResponse hlists' url source kind hascii
    refine ⟨found, found', hfound, hfound', fun csp => ?_, fun selector => ?_⟩
    · rw [hcsp, hcsp']
      exact ⟨.of_within hout hin, .of_within hin hout⟩
    · rw [hhtml, hhtml']
      exact ⟨.of_within hout hin, .of_within hin hout⟩

def policyText : String := "||site.com^$csp=img-src 'none'\n@@||site.com^$csp=font-src 'none'\nsite.com##^.ad"

def turnedText : String := "site.com##^.ad\n@@||site.com^$csp=font-src 'none'\n||site.com^$csp=img-src 'none'"

def setting : Engine := (compile 0 "own" policyText).1

def turned : Engine := (compile 0 "own" turnedText).1

theorem sets_setting : setting.Sets (.build none "http://site.com/" none .mainFrame) "img-src 'none'" where
  nonempty := by decide
  blocked := by
    have hline : ∃ filter ∈ NetworkFilter.uncancelled (ParsedList.parse policyText).network,
        filter.action = .block ∧ filter.csp = some "img-src 'none'" ∧
        filter.accepts (.build none "http://site.com/" none .mainFrame) filter.regex?.join = .ok true := by
      decide +kernel
    obtain ⟨filter, hfilter, haction, hcsp, haccepts⟩ := hline
    obtain ⟨kept, hkept, text, rfl⟩ := NetworkFilter.exists_rewords_of_mem_uncancelled hfilter
    exact ⟨kept, ⟨_, List.mem_singleton_self _, hkept, haccepts⟩, haction, hcsp⟩
  spared := by
    have hlines : ∀ filter ∈ (ParsedList.parse policyText).network, filter.action = .allow →
        filter.csp ≠ some "img-src 'none'" ∧ filter.csp ≠ some "" := by
      decide +kernel
    rintro filter ⟨list, hlist, hfilter, -⟩
    obtain rfl := List.mem_singleton.1 hlist
    exact hlines filter (NetworkFilter.optimize_subset _ hfilter)

theorem matchResponse_sets_turned :
    setting.Built ∧ (Request.build none "http://site.com/" none .mainFrame).HasAsciiHosts ∧
      setting.Recompiles turned ∧ MergedOf [setting] setting ∧
      MergedOf [turned, turned] (merge [turned, turned]) ∧
      ∃ found found', setting.matchResponse none (.build none "http://site.com/" none .mainFrame) = .ok found ∧
        (merge [turned, turned]).matchResponse none (.build none "http://site.com/" none .mainFrame) = .ok found' ∧
        "img-src 'none'" ∈ found.csp ∧ "img-src 'none'" ∈ found'.csp := by
  have hascii : (Request.build none "http://site.com/" none .mainFrame).HasAsciiHosts :=
    ⟨by decide +kernel, by decide +kernel⟩
  have hbuilt : setting.Built := .compile 0 "own" policyText
  have hsame : setting.Recompiles turned :=
    ⟨0, "own", policyText, 0, "own", turnedText, by decide +kernel, rfl, rfl⟩
  have htwice : MergedOf [turned, turned] (merge [turned, turned]) := by
    have hparts : ∀ part ∈ [([turned], turned), ([turned], turned)], MergedOf part.1 part.2 := by
      simp [MergedOf.alone]
    exact MergedOf.merge hparts
  have hmade : ∀ source ∈ [setting], Origins.Has ⟨[(FilterList.parse "own" policyText).1]⟩ source :=
    List.forall_mem_singleton.2 (List.forall_mem_singleton.2 rfl)
  have hmade' : ∀ source ∈ [turned, turned], Origins.Has ⟨[(FilterList.parse "own" turnedText).1]⟩ source := by
    intro source hsource
    obtain rfl : source = turned := by simpa using hsource
    exact List.forall_mem_singleton.2 rfl
  obtain ⟨found, hfound, -, -, hcsp, -⟩ :=
    matchResponse_sets.1 setting hbuilt none "http://site.com/" none .mainFrame hascii
  obtain ⟨again, found', hagain, hfound', hsets, -⟩ := matchResponse_sets.2 _ _ _ _ _ _ hmade hmade'
    (by simpa using hsame) (by simpa using hsame.symm) (.alone setting) htwice none "http://site.com/" none
    .mainFrame hascii
  obtain rfl : found = again := Except.ok.inj (hfound.symm.trans hagain)
  have hmem := (hcsp _).2 sets_setting
  exact ⟨hbuilt, hascii, hsame, .alone setting, htwice, found, found', hfound, hfound', hmem, (hsets _).1 hmem⟩

end Engine

end ContentFilter
