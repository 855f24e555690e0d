import ContentFilter.Proofs.Engine.Snapshot
import ContentFilter.Proofs.Matching.NetworkIndex

/-! A compiled list answers a request through its index as a scan of all its filters would. -/

namespace ContentFilter

/-- A list that stands in the compiled form of a text, or came out of a snapshot of such lists. -/
inductive FilterList.Compiled : FilterList → Prop
  | parse (name text : String) : Compiled (FilterList.parse name text).1
  | restore {lists : List FilterList} {contents : List ListContent} {content : ListContent}
      (hlists : ∀ list ∈ lists, Compiled list)
      (hread : Snapshot.decode (Snapshot.encode (lists.map (·.toListContent))) = .ok contents)
      (hcontent : content ∈ contents) : Compiled (FilterList.ofContent content)

namespace NetworkFilter

theorem optimize_subset (filters : List NetworkFilter) : (optimize filters).1 ⊆ filters := by
  intro filter hfilter
  have hvalid := (distinctBy_sublist body _).subset hfilter
  have hlive := (List.mem_filter.1 hvalid).1
  exact (List.mem_filter.1 hlive).1

theorem optimize_nodup (filters : List NetworkFilter) : (optimize filters).1.Nodup :=
  List.Nodup.of_map body (distinctBy_keys_nodup body _)

/-- Nothing is dropped where no filter cancels another and no two say the same. -/
theorem optimize_eq_self {filters : List NetworkFilter}
    (hlive : ∀ filter ∈ filters, filter.has .badFilter = false)
    (hnodup : (filters.map body).Nodup) : (optimize filters).1 = filters := by
  have hnone : filters.filter (·.has .badFilter) = [] :=
    List.filter_eq_nil_iff.2 fun filter hfilter => by rw [hlive filter hfilter]; decide
  have hall : filters.filter (!·.has .badFilter) = filters :=
    List.filter_eq_self.2 fun filter hfilter => by rw [hlive filter hfilter]; rfl
  rw [optimize, hnone, hall]
  dsimp only
  rw [List.filter_eq_self.2 fun filter _ => by simp, distinctBy_eq_self hnodup]

theorem eq_of_compiled? {filter : NetworkFilter} {compiled : CompiledFilter}
    (h : filter.compiled? = some compiled) : compiled = ⟨filter, filter.regex?.join⟩ := by
  unfold compiled? at h
  split at h
  · next hregex =>
    cases h
    rw [hregex]
    rfl
  · next regex hregex =>
    cases h
    rw [hregex]
    rfl
  · cases h

end NetworkFilter

namespace FilterList

variable {list : FilterList} {request : Request}

/-- The candidates among all filters of the list, each tested with its own expression. -/
def scanNetwork (list : FilterList) (request : Request) : Except Text.CutFault (List Candidate) := do
  let found ← list.network.filterM fun filter => filter.accepts request filter.regex?.join
  pure (found.map fun filter => ⟨filter, list.name⟩)

/-- What is read from a snapshot of some lists is the content of one of them. -/
theorem exists_of_read {lists : List FilterList} {contents : List ListContent} {content : ListContent}
    (hwell : ∀ list ∈ lists, list.toListContent.WellFormed)
    (hread : Snapshot.decode (Snapshot.encode (lists.map (·.toListContent))) = .ok contents)
    (hcontent : content ∈ contents) : ∃ list ∈ lists, list.toListContent = content := by
  have hfits : ∀ content ∈ lists.map (·.toListContent), content.Fits :=
    List.forall_mem_map.2 fun list hlist => (hwell list hlist).fits
  rw [Snapshot.eq_of_decode_encode hfits hread] at hcontent
  exact List.mem_map.1 hcontent

theorem Compiled.wellFormed (h : list.Compiled) :
    list.toListContent.WellFormed ∧ list.network.Nodup := by
  induction h with
  | parse name text =>
    refine ⟨fun filter hfilter => ?_, NetworkFilter.optimize_nodup _⟩
    exact ParsedList.wellFormed_ofLines _ _ filter (NetworkFilter.optimize_subset _ hfilter)
  | restore hlists hread hcontent ih =>
    obtain ⟨list, hlist, rfl⟩ := exists_of_read (fun list hlist => (ih list hlist).1) hread hcontent
    exact ih list hlist

end FilterList

namespace NetworkIndex

/-- The filters that a look-up comes by and that accept the request are those of all filters that
accept it. -/
theorem map_filter_reached {filters : List NetworkFilter} {host : List Char}
    {accepts : NetworkFilter → Bool}
    (h : ∀ filter ∈ filters, accepts filter = true →
      filter.compiled? = some ⟨filter, filter.regex?.join⟩ ∧
        isReached host ⟨filter, filter.regex?.join⟩ = true) :
    (((filters.filterMap (·.compiled?)).filter (isReached host)).filter (accepts ·.filter)).map
      (·.filter) = filters.filter accepts := by
  induction filters with
  | nil => rfl
  | cons filter filters ih =>
    have hrest := ih fun other hother => h other (List.mem_cons_of_mem filter hother)
    cases haccepts : accepts filter with
    | true =>
      obtain ⟨hcompiled, hreached⟩ := h filter (by simp) haccepts
      simp [-List.filter_filter, hcompiled, hreached, haccepts, hrest]
    | false =>
      rw [List.filterMap_cons]
      cases hcompiled : filter.compiled? with
      | none => simp [-List.filter_filter, haccepts, hrest]
      | some compiled =>
        have hsame : compiled.filter = filter := by
          rw [NetworkFilter.eq_of_compiled? hcompiled]
        cases hreached : isReached host compiled <;>
          simp [-List.filter_filter, hreached, hsame, haccepts, hrest]

end NetworkIndex

namespace FilterList

variable {list : FilterList} {request : Request}

/-- A look-up of a compiled list misses no filter that a scan of the whole list accepts, and repeats
none: for a request between hosts of single bytes both answer, with the same filters, each once. -/
theorem collectNetwork_perm_scan (suffixes : Option Domain.PublicSuffixes) (url : String)
    (source : Option String) (kind : String) (hlist : list.Compiled)
    (hhost : Domain.IsAscii (Request.ofBrowser suffixes url source kind).hostname.toList)
    (hsource : Domain.IsAscii (Request.ofBrowser suffixes url source kind).sourceHostname.toList) :
    ∃ found scanned,
      list.collectNetwork (Request.ofBrowser suffixes url source kind) = .ok found ∧
      list.scanNetwork (Request.ofBrowser suffixes url source kind) = .ok scanned ∧
      found.Perm scanned ∧ found.Nodup := by
  have hlow : Text.lower (Request.ofBrowser suffixes url source kind).hostname.toList =
      (Request.ofBrowser suffixes url source kind).hostname.toList := by
    simp only [Request.ofBrowser, Request.build, String.toList_ofList, Url.hostName]
    exact Text.lower_lower _
  generalize Request.ofBrowser suffixes url source kind = request at *
  obtain ⟨hwell, hnodup⟩ := hlist.wellFormed
  -- every filter answers, so both sides only pick the filters that answer yes
  choose accepts haccepts using fun filter : NetworkFilter =>
    NetworkFilter.accepts_answers hhost hsource filter filter.regex?.join
  have hlookup := NetworkIndex.lookup_build_perm list.network request.hostname.toList
  rw [← list.networkIndex_eq] at hlookup
  have hfound : (list.networkIndex.lookup request.hostname.toList).filterM (fun compiled =>
      compiled.filter.accepts request compiled.regex) =
      .ok ((list.networkIndex.lookup request.hostname.toList).filter (accepts ·.filter)) := by
    refine filterM_ok fun compiled hcompiled => ?_
    obtain ⟨filter, -, hfilter⟩ :=
      List.mem_filterMap.1 (List.mem_filter.1 (hlookup.mem_iff.1 hcompiled)).1
    rw [NetworkFilter.eq_of_compiled? hfilter]
    exact haccepts filter
  have hscanned : list.network.filterM (fun filter => filter.accepts request filter.regex?.join) =
      .ok (list.network.filter accepts) := filterM_ok fun filter _ => haccepts filter
  have hyes : ∀ filter ∈ list.network, accepts filter = true →
      filter.compiled? = some ⟨filter, filter.regex?.join⟩ ∧
        NetworkIndex.isReached request.hostname.toList ⟨filter, filter.regex?.join⟩ = true := by
    intro filter hfilter haccept
    have hok : filter.accepts request filter.regex?.join = .ok true := by rw [haccepts, haccept]
    exact ⟨NetworkFilter.compiled?_of_accepts hok,
      NetworkFilter.isReached_of_accepts (hwell filter hfilter) hhost hlow hok⟩
  have hperm := (hlookup.filter (accepts ·.filter)).map (·.filter)
  rw [NetworkIndex.map_filter_reached hyes] at hperm
  have hcandidates := hperm.map fun filter => (⟨filter, list.name⟩ : Candidate)
  rw [List.map_map] at hcandidates
  refine ⟨_, _, by rw [collectNetwork, hfound]; rfl, by rw [scanNetwork, hscanned]; rfl,
    hcandidates, ?_⟩
  refine hcandidates.nodup_iff.2 ((hnodup.filter accepts).map fun a b hab => ?_)
  exact (Candidate.mk.inj hab).1

theorem collectNetwork_perm_scan_subdomain :
    let list := (FilterList.parse "ads" "||ads.example^\n/banner/*$script\n||ads.example^").1
    let request := Request.ofBrowser none "https://cdn.Ads.Example:8080/banner/x.js"
      (some "https://news.example/") "script"
    list.Compiled ∧ Domain.IsAscii request.hostname.toList ∧
      Domain.IsAscii request.sourceHostname.toList ∧
      ∃ found scanned, list.collectNetwork request = .ok found ∧
        list.scanNetwork request = .ok scanned ∧ found.Perm scanned ∧ found.Nodup := by
  intro list request
  have hlist : list.Compiled := .parse _ _
  have hhost : Domain.IsAscii request.hostname.toList := by decide +kernel
  have hsource : Domain.IsAscii request.sourceHostname.toList := by decide +kernel
  exact ⟨hlist, hhost, hsource, collectNetwork_perm_scan _ _ _ _ hlist hhost hsource⟩

end FilterList

end ContentFilter
