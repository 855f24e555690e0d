import ContentFilter.Engine.Basic
import ContentFilter.Proofs.Matching.CosmeticScan

/-! When an engine answers: each filter that its indexes lead to has to say whether it matches. -/

namespace ContentFilter

open Domain (IsAscii)

variable {suffixes : Option Domain.PublicSuffixes} {query : CosmeticQuery} {request : Request}

namespace FilterList

variable {list : FilterList}

/-- A list answers a request when each of its filters that the host of the request leads to answers. -/
theorem exists_collectNetwork_iff : (∃ found, list.collectNetwork request = .ok found) ↔
    ∀ filter ∈ list.network, ∀ compiled, filter.compiled? = some compiled →
      NetworkIndex.isReached request.hostname.toList compiled = true →
        ∃ found, compiled.filter.accepts request compiled.regex = .ok found := by
  have hlookup := NetworkIndex.lookup_build_perm list.network request.hostname.toList
  rw [← list.networkIndex_eq] at hlookup
  unfold collectNetwork
  rw [exists_bind_pure_iff, exists_filterM_iff]
  simp only [hlookup.mem_iff, List.mem_filter, List.mem_filterMap]
  constructor
  · intro h filter hfilter compiled hcompiled hreached
    exact h compiled ⟨⟨filter, hfilter, hcompiled⟩, hreached⟩
  · rintro h compiled ⟨⟨filter, hfilter, hcompiled⟩, hreached⟩
    exact h filter hfilter compiled hcompiled hreached

/-- A list without network filters finds none for a request. -/
theorem collectNetwork_of_nil (h : list.network = []) (request : Request) :
    list.collectNetwork request = .ok [] := by
  have hindex : list.networkIndex = {} := by
    rw [list.networkIndex_eq, h]
    rfl
  have hlookup : NetworkIndex.lookup {} request.hostname.toList = [] := by
    simp [NetworkIndex.lookup, List.flatMap_eq_nil_iff]
  rw [collectNetwork, hindex, hlookup]
  rfl

/-- A list answers a page when its host has keys and each filter that stands where the query looks
answers. -/
theorem exists_collectCosmetics_iff : (∃ found, list.collectCosmetics suffixes query = .ok found) ↔
    ∃ keys, CosmeticIndex.hostKeys suffixes query.hostname.toList = .ok keys ∧
      ∀ filter ∈ list.cosmetic, (∃ slot ∈ CosmeticIndex.slotsOf filter, CosmeticIndex.Asks query keys slot) →
        ∃ found, filter.appliesTo suffixes query.hostname.toList = .ok found := by
  constructor
  · rintro ⟨filters, h⟩
    obtain ⟨placed, hplaced, hfilters⟩ := ok_of_bind h
    obtain ⟨keys, hkeys, -⟩ := ok_of_bind hplaced
    rw [list.cosmeticIndex_eq] at hplaced
    obtain ⟨found, hfound, -, hmem⟩ := CosmeticIndex.lookup_build list.cosmetic hkeys
    cases hplaced.symm.trans hfound
    refine ⟨keys, hkeys, fun filter hfilter hasks => ?_⟩
    rw [← CosmeticIndex.map_filter_placedOf list.cosmetic] at hfilter
    obtain ⟨one, hone, rfl⟩ := List.mem_map.1 hfilter
    exact exists_filterM_iff.1 ⟨filters, hfilters⟩ one.filter
      (List.mem_map_of_mem ((hmem one).2 ⟨hone, hasks⟩))
  · rintro ⟨keys, hkeys, h⟩
    obtain ⟨placed, hplaced, -, hmem⟩ := CosmeticIndex.lookup_build list.cosmetic hkeys
    rw [← list.cosmeticIndex_eq] at hplaced
    have hanswer : ∀ filter ∈ placed.map (·.filter),
        ∃ found, filter.appliesTo suffixes query.hostname.toList = .ok found := by
      intro filter hfilter
      obtain ⟨one, hone, rfl⟩ := List.mem_map.1 hfilter
      obtain ⟨hplaced, hasks⟩ := (hmem one).1 hone
      refine h one.filter ?_ hasks
      rw [← CosmeticIndex.map_filter_placedOf list.cosmetic]
      exact List.mem_map_of_mem hplaced
    obtain ⟨filters, hfilters⟩ := exists_filterM_iff.2 hanswer
    exact ⟨filters, by rw [collectCosmetics, hplaced]; exact hfilters⟩

end FilterList

namespace Engine

variable {engine : Engine}

theorem exists_collectNetwork_iff : (∃ found, engine.collectNetwork request = .ok found) ↔
    ∀ list ∈ engine.lists, ∃ found, list.collectNetwork request = .ok found :=
  exists_bind_pure_iff.trans exists_mapM_iff

theorem exists_collectCosmetics_iff :
    (∃ found, engine.collectCosmetics suffixes query = .ok found) ↔
      ∀ list ∈ engine.lists, ∃ found, list.collectCosmetics suffixes query = .ok found :=
  exists_bind_pure_iff.trans exists_mapM_iff

theorem exists_matchRequest_iff : (∃ found, engine.matchRequest request = .ok found) ↔
    ∃ candidates, engine.collectNetwork request = .ok candidates :=
  exists_bind_pure_iff

theorem exists_matchCosmetics_iff : (∃ found, engine.matchCosmetics suffixes query = .ok found) ↔
    (∃ candidates, engine.collectNetwork (.page suffixes query.url) = .ok candidates) ∧
      ∃ filters, engine.collectCosmetics suffixes query = .ok filters := by
  unfold matchCosmetics
  rw [exists_bind_iff]
  simp only [exists_bind_pure_iff, exists_and_right]

theorem exists_matchResponse_iff : (∃ found, engine.matchResponse suffixes request = .ok found) ↔
    (∃ candidates, engine.collectNetwork request = .ok candidates) ∧
      ∃ filters, engine.collectCosmetics suffixes (.bootstrap request.url) = .ok filters := by
  unfold matchResponse
  rw [exists_bind_iff]
  simp only [exists_bind_pure_iff, exists_and_right]

theorem collectNetwork_of_singleton {list : FilterList} (hlists : engine.lists = [list])
    (hnone : list.network = []) (request : Request) : engine.collectNetwork request = .ok [] := by
  rw [collectNetwork, hlists, List.mapM_cons, FilterList.collectNetwork_of_nil hnone]
  rfl

theorem collectCosmetics_of_singleton {list : FilterList} {filters : List CosmeticFilter}
    (hlists : engine.lists = [list]) (hfilters : list.collectCosmetics suffixes query = .ok filters) :
    engine.collectCosmetics suffixes query = .ok filters := by
  rw [collectCosmetics, hlists, List.mapM_cons, hfilters]
  exact congrArg Except.ok (List.append_nil filters)

/-- A single list without network filters answers by its cosmetic filters alone. -/
theorem matchCosmetics_of_singleton {list : FilterList} {filters : List CosmeticFilter}
    (hlists : engine.lists = [list]) (hnone : list.network = [])
    (hfilters : list.collectCosmetics suffixes query = .ok filters) :
    engine.matchCosmetics suffixes query = .ok (.resolve query (.of []) filters) := by
  rw [matchCosmetics, collectNetwork_of_singleton hlists hnone, collectCosmetics_of_singleton hlists hfilters]
  rfl

/-- A request between hosts of single bytes has its candidates. -/
theorem exists_collectNetwork_of_ascii (engine : Engine) (hhost : IsAscii request.hostname.toList)
    (hsource : IsAscii request.sourceHostname.toList) :
    ∃ candidates, engine.collectNetwork request = .ok candidates := by
  refine exists_collectNetwork_iff.2 fun list _ => FilterList.exists_collectNetwork_iff.2 ?_
  intro filter _ compiled _ _
  exact NetworkFilter.accepts_answers hhost hsource compiled.filter compiled.regex

/-- So has a page whose host is of single bytes. -/
theorem exists_collectCosmetics_of_ascii (suffixes : Option Domain.PublicSuffixes) (engine : Engine)
    (hname : query.hostname.toList = Url.hostName query.url.toList)
    (hhost : IsAscii (Url.hostName query.url.toList)) :
    ∃ filters, engine.collectCosmetics suffixes query = .ok filters := by
  refine exists_collectCosmetics_iff.2 fun list _ => FilterList.exists_collectCosmetics_iff.2 ?_
  rw [hname]
  have hlow : Text.lower (Url.hostName query.url.toList) = Url.hostName query.url.toList :=
    Text.lower_lower _
  obtain ⟨keys, hkeys, -⟩ := CosmeticIndex.hostKeys_complete suffixes hhost hlow
  refine ⟨keys, hkeys, fun filter _ _ => ?_⟩
  obtain ⟨found, hfound, -⟩ := CosmeticFilter.appliesTo_answers suffixes hhost filter
  exact ⟨found, hfound⟩

/-- A page whose host is of single bytes is answered. -/
theorem exists_matchCosmetics_of_ascii
    (hquery : query.hostname = (CosmeticQuery.ofUrl query.url).hostname)
    (hhost : IsAscii (Url.hostName query.url.toList)) :
    ∃ found, engine.matchCosmetics suffixes query = .ok found := by
  have hname : query.hostname.toList = Url.hostName query.url.toList := by
    rw [hquery, CosmeticQuery.ofUrl, String.toList_ofList]
  have hpage : (Request.page suffixes query.url).hostname.toList = Url.hostName query.url.toList := by
    rw [Request.page, Request.build, String.toList_ofList]
  have hsource : (Request.page suffixes query.url).sourceHostname.toList =
      Url.hostName query.url.toList := by
    rw [Request.page, Request.build, String.toList_ofList]
    rfl
  exact exists_matchCosmetics_iff.2
    ⟨exists_collectNetwork_of_ascii engine (hpage.symm ▸ hhost) (hsource.symm ▸ hhost),
      exists_collectCosmetics_of_ascii suffixes engine hname hhost⟩

end Engine

end ContentFilter
