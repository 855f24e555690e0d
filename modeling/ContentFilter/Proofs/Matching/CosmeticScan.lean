import ContentFilter.Proofs.Domain.Registrable
import ContentFilter.Proofs.Filter.Cosmetic
import ContentFilter.Proofs.Matching.CosmeticIndex
import ContentFilter.Proofs.Matching.FilterList

/-! A compiled list answers a page through its index as a scan of all its cosmetic filters would. -/

namespace ContentFilter

open Domain (IsAscii)

variable {suffixes : Option Domain.PublicSuffixes} {host : List Char}

namespace CosmeticFilter

theorem hostMatches_answers (suffixes : Option Domain.PublicSuffixes) (hhost : IsAscii host)
    (pattern : List Char) : ∃ found, hostMatches suffixes host pattern = .ok found := by
  unfold hostMatches
  split
  · split
    · exact Domain.isWithin_answers hhost _
    · exact ⟨false, rfl⟩
  · exact Domain.isWithin_answers hhost pattern

/-- No pattern matches a page without a host. -/
theorem not_hostMatches_nil {pattern : List Char} : hostMatches suffixes [] pattern ≠ .ok true := by
  have hwithin : ∀ name, Domain.isWithin [] name ≠ .ok true := by
    intro name h
    exact List.not_mem_nil (Domain.lower_mem_lineage rfl h)
  unfold hostMatches
  split
  · split
    · exact hwithin _
    · simp
  · exact hwithin pattern

/-- A filter for some hosts applies to a page because one of them matches. -/
theorem exists_hostMatches {filter : CosmeticFilter}
    (h : filter.appliesTo suffixes host = .ok true) (hspecific : filter.isGeneric = false) :
    ∃ pattern ∈ filter.hostnames, hostMatches suffixes host pattern.toList = .ok true := by
  obtain ⟨excluded, -, h⟩ := ok_of_bind h
  rw [isGeneric] at hspecific
  cases excluded with
  | true => cases h
  | false =>
    rw [if_neg Bool.false_ne_true, hspecific, if_neg Bool.false_ne_true] at h
    exact true_of_anyM h

/-- For a host of single bytes a filter always applies or does not. -/
theorem appliesTo_answers (suffixes : Option Domain.PublicSuffixes) (hhost : IsAscii host)
    (filter : CosmeticFilter) : ∃ found, filter.appliesTo suffixes host = .ok found ∧
      (found = true → filter.isGeneric = false → ∃ pattern ∈ filter.hostnames,
        hostMatches suffixes host pattern.toList = .ok true) := by
  choose isHost hisHost using fun pattern : String =>
    hostMatches_answers suffixes hhost pattern.toList
  have hany : ∀ patterns : List String,
      patterns.anyM (fun pattern => hostMatches suffixes host pattern.toList) =
        .ok (patterns.any isHost) :=
    fun patterns => anyM_ok fun pattern _ => hisHost pattern
  have happlies : filter.appliesTo suffixes host =
      .ok (!filter.notHostnames.any isHost &&
        (filter.hostnames.isEmpty || filter.hostnames.any isHost)) := by
    dsimp only [appliesTo]
    rw [hany, hany]
    cases filter.notHostnames.any isHost <;> cases filter.hostnames.isEmpty <;> rfl
  exact ⟨_, happlies, fun hfound => exists_hostMatches (happlies.trans (congrArg _ hfound))⟩

end CosmeticFilter

namespace CosmeticIndex

/-- Where a host has forms `name.*`, it has one for every name under its public suffix. -/
theorem mem_entityKeys {keys : List (List Char)} {label suffix entity : List Char}
    (hlow : Text.lower host = host) (hkeys : entityKeys suffixes host = .ok keys)
    (hcut : Text.cut? ['.'] (Domain.registrable suffixes host) = some (label, suffix)) (hentity : entity ≠ [])
    (hmem : entity ++ '.' :: suffix ∈ Domain.lineage host) : entity ++ ['.', '*'] ∈ keys := by
  rw [entityKeys, hcut] at hkeys
  dsimp only at hkeys
  have hpoint : ('.' : Char).utf8Size = 1 := by decide
  have hsize : Text.Utf8.size (entity ++ '.' :: suffix) =
      Text.Utf8.size entity + (Text.Utf8.size suffix + 1) := by
    rw [Text.Utf8.size_append, Text.Utf8.size_cons, hpoint]
    omega
  have hpositive : 0 < Text.Utf8.size entity := by
    obtain ⟨c, rest, rfl⟩ := List.exists_cons_of_ne_nil hentity
    have hc := c.utf8Size_pos
    rw [Text.Utf8.size_cons]
    omega
  have hlong : entity ++ '.' :: suffix ∈ (Domain.toRegistrable suffixes host).filter fun name =>
      Text.Utf8.size suffix + 1 < Text.Utf8.size name := by
    refine List.mem_filter.2 ⟨Domain.mem_toRegistrable hlow hcut hmem, ?_⟩
    rw [decide_eq_true_eq, hsize]
    omega
  obtain ⟨key, hkey, hfound⟩ := exists_mem_of_mapM hkeys hlong
  rw [hsize, Nat.add_sub_cancel, Text.cutAt_size_append] at hfound
  cases hfound
  exact hkey

/-- Among the keys of a lower-case host is every pattern that matches it. -/
theorem lower_mem_hostKeys {keys : List (List Char)} {pattern : List Char} (hlow : Text.lower host = host)
    (hkeys : hostKeys suffixes host = .ok keys) (hpattern : pattern ≠ ['.', '*'])
    (hmatch : CosmeticFilter.hostMatches suffixes host pattern = .ok true) : Text.lower pattern ∈ keys := by
  have hne : host.isEmpty = false := by
    rw [Bool.eq_false_iff]
    intro hempty
    rw [List.isEmpty_iff.1 hempty] at hmatch
    exact CosmeticFilter.not_hostMatches_nil hmatch
  rw [hostKeys, hne, if_neg Bool.false_ne_true] at hkeys
  obtain ⟨entities, hentities, rfl⟩ := ok_of_map hkeys
  unfold CosmeticFilter.hostMatches at hmatch
  split at hmatch
  · next entity hentity =>
    have hjoined : pattern = entity ++ ['.', '*'] := Text.dropEnd?_eq_some.1 hentity
    have hending : Text.lower ['.', '*'] = ['.', '*'] := by decide
    split at hmatch
    · next label suffix hcut =>
      have hsuffix : Text.lower ('.' :: suffix) = '.' :: suffix := by
        refine Domain.lower_of_suffix (Domain.lower_registrable suffixes host) ?_
        rw [(Text.cut?_eq_some.1 hcut).2]
        exact List.suffix_append label _
      have hmem := Domain.lower_mem_lineage hlow hmatch
      rw [Text.lower_append, hsuffix] at hmem
      rw [hjoined, Text.lower_append, hending]
      refine List.mem_append_right _ (mem_entityKeys hlow hentities hcut ?_ hmem)
      rintro hnone
      rw [Text.lower, List.map_eq_nil_iff] at hnone
      rw [hnone] at hjoined
      exact hpattern hjoined
    · cases hmatch
  · exact List.mem_append_left _ (Domain.lower_mem_lineage hlow hmatch)

theorem entityKeys_answers (suffixes : Option Domain.PublicSuffixes) (hhost : IsAscii host) :
    ∃ keys, entityKeys suffixes host = .ok keys := by
  unfold entityKeys
  split
  · exact ⟨[], rfl⟩
  · refine exists_mapM_iff.2 fun name hname => ?_
    have hmem := (Domain.prefix_upTo _ _).subset (List.mem_filter.1 hname).1
    have hascii : IsAscii name := fun c hc => hhost c ((Domain.suffix_of_mem_lineage hmem).subset hc)
    rw [hascii.size, hascii.cutAt (Nat.sub_le _ _)]
    exact ⟨_, rfl⟩

/-- The keys of a host are there, and one of them is every pattern that matches the host. -/
theorem hostKeys_complete (suffixes : Option Domain.PublicSuffixes) (hhost : IsAscii host)
    (hlow : Text.lower host = host) :
    ∃ keys, hostKeys suffixes host = .ok keys ∧ ∀ pattern, pattern ≠ ['.', '*'] →
      CosmeticFilter.hostMatches suffixes host pattern = .ok true → Text.lower pattern ∈ keys := by
  have hkeys : ∃ keys, hostKeys suffixes host = .ok keys := by
    obtain ⟨entities, hentities⟩ := entityKeys_answers suffixes hhost
    rw [hostKeys, hentities]
    split
    · exact ⟨[], rfl⟩
    · exact ⟨Domain.lineage host ++ entities, rfl⟩
  obtain ⟨keys, hkeys⟩ := hkeys
  exact ⟨keys, hkeys, fun pattern => lower_mem_hostKeys hlow hkeys⟩

end CosmeticIndex

/-- Whether a query is answered with a filter that applies to its page: one for the page's own host, a
generic one that needs no key, or one whose key the document showed. -/
def CosmeticFilter.isWanted (query : CosmeticQuery) (filter : CosmeticFilter) : Bool :=
  !filter.isGeneric || (filter.unhide || filter.kind != .hide) ||
    match filter.genericKey with
    | .className name => query.fromDocument && query.classes.contains name
    | .id name => query.fromDocument && query.ids.contains name
    | .href part => query.fromDocument && query.hrefs.any fun href => Text.contains part href.toList
    | .base => true

/-- A filter stands where a query looks when it is wanted and, if it has hosts, one of them is a key. -/
theorem CosmeticIndex.asks_iff_isWanted {query : CosmeticQuery} {keys : List (List Char)}
    {filter : CosmeticFilter} (hkeys : filter.isGeneric = false →
      ∃ pattern ∈ filter.hostnames, pattern.toList ∈ keys) :
    (∃ slot ∈ slotsOf filter, Asks query keys slot) ↔ filter.isWanted query = true := by
  unfold slotsOf CosmeticFilter.isWanted
  cases hgeneric : filter.isGeneric with
  | false =>
    obtain ⟨pattern, hpattern, hkey⟩ := hkeys hgeneric
    exact iff_of_true ⟨.host pattern, List.mem_map_of_mem hpattern, hkey⟩ (by simp)
  | true =>
    by_cases hplain : (filter.unhide || filter.kind != .hide) = true
    · rw [hplain]
      exact iff_of_true ⟨.generic, List.mem_singleton_self _, trivial⟩ (by simp)
    · rw [Bool.not_eq_true] at hplain
      rw [hplain]
      cases filter.genericKey <;> simp [Asks]

/-- Keys that miss no pattern that matches the host lead to every filter that applies to it. -/
theorem CosmeticFilter.WellFormed.asks_iff_isWanted {query : CosmeticQuery} {keys : List (List Char)}
    {filter : CosmeticFilter} (hwell : filter.WellFormed)
    (hcomplete : ∀ pattern, pattern ≠ ['.', '*'] →
      CosmeticFilter.hostMatches suffixes host pattern = .ok true → Text.lower pattern ∈ keys)
    (hmatch : filter.isGeneric = false → ∃ pattern ∈ filter.hostnames,
      CosmeticFilter.hostMatches suffixes host pattern.toList = .ok true) :
    (∃ slot ∈ CosmeticIndex.slotsOf filter, CosmeticIndex.Asks query keys slot) ↔
      filter.isWanted query = true := by
  apply CosmeticIndex.asks_iff_isWanted
  intro hhosts
  obtain ⟨pattern, hpattern, hmatches⟩ := hmatch hhosts
  have hshape := hwell pattern hpattern
  have hkey := hcomplete pattern.toList hshape.named hmatches
  rw [hshape.lower] at hkey
  exact ⟨pattern, hpattern, hkey⟩

namespace FilterList

variable {list : FilterList}

theorem Compiled.wellFormed_cosmetic (h : list.Compiled) :
    ∀ filter ∈ list.cosmetic, filter.WellFormed := by
  induction h with
  | parse name text => exact ParsedList.wellFormed_cosmetic_ofLines _ _
  | restore hlists hread hcontent ih =>
    obtain ⟨list, hlist, rfl⟩ :=
      exists_of_read (fun list hlist => (hlists list hlist).wellFormed.1) hread hcontent
    exact ih list hlist

/-- A list answers a lower-case host with each of its wanted filters that applies to the page. -/
theorem mem_collectCosmetics_of_isWanted {query : CosmeticQuery} {filter : CosmeticFilter}
    {filters : List CosmeticFilter} (hlow : Text.lower query.hostname.toList = query.hostname.toList)
    (hwell : filter.WellFormed) (h : list.collectCosmetics suffixes query = .ok filters)
    (hfilter : filter ∈ list.cosmetic) (happlies : filter.appliesTo suffixes query.hostname.toList = .ok true)
    (hwanted : filter.isWanted query = true) : filter ∈ filters := by
  obtain ⟨keys, hkeys, hmem⟩ := mem_collectCosmetics h
  refine (hmem filter).2 ⟨hfilter, happlies, ?_⟩
  exact (hwell.asks_iff_isWanted (fun pattern => CosmeticIndex.lower_mem_hostKeys hlow hkeys)
    (CosmeticFilter.exists_hostMatches happlies)).2 hwanted

/-- The wanted filters among all cosmetic filters of the list that apply to the page. -/
def scanCosmetics (suffixes : Option Domain.PublicSuffixes) (list : FilterList)
    (query : CosmeticQuery) : Except Text.CutFault (List CosmeticFilter) := do
  let applied ← list.cosmetic.filterM fun filter => filter.appliesTo suffixes query.hostname.toList
  pure (applied.filter (·.isWanted query))

/-- A compiled list answers a lower-case host of single bytes with the wanted filters among all of its
cosmetic filters, each as often as it stands in the list: the keys of the host, which are there, miss no
host name or entity that matches it. -/
theorem collectCosmetics_perm_scan (suffixes : Option Domain.PublicSuffixes) (query : CosmeticQuery)
    (hlist : list.Compiled) (hhost : IsAscii query.hostname.toList)
    (hlow : Text.lower query.hostname.toList = query.hostname.toList) :
    (∃ found scanned, list.collectCosmetics suffixes query = .ok found ∧
      list.scanCosmetics suffixes query = .ok scanned ∧ found.Perm scanned) ∧
    ∃ keys, CosmeticIndex.hostKeys suffixes query.hostname.toList = .ok keys ∧
      ∀ pattern, pattern ≠ ['.', '*'] →
        CosmeticFilter.hostMatches suffixes query.hostname.toList pattern = .ok true →
          Text.lower pattern ∈ keys := by
  obtain ⟨keys, hkeys, hcomplete⟩ := CosmeticIndex.hostKeys_complete suffixes hhost hlow
  refine ⟨?_, keys, hkeys, hcomplete⟩
  obtain ⟨placed, hplaced, hnodup, hmem⟩ := CosmeticIndex.lookup_build list.cosmetic hkeys
  rw [← list.cosmeticIndex_eq] at hplaced
  choose applies happlies hspecific using fun filter : CosmeticFilter =>
    CosmeticFilter.appliesTo_answers suffixes hhost filter
  have hfound : (placed.map (·.filter)).filterM (fun filter =>
      filter.appliesTo suffixes query.hostname.toList) = .ok ((placed.map (·.filter)).filter applies) :=
    filterM_ok fun filter _ => happlies filter
  have hscanned : list.cosmetic.filterM (fun filter =>
      filter.appliesTo suffixes query.hostname.toList) = .ok (list.cosmetic.filter applies) :=
    filterM_ok fun filter _ => happlies filter
  have hreached : ∀ one ∈ CosmeticIndex.placedOf list.cosmetic, applies one.filter = true →
      ((∃ slot ∈ CosmeticIndex.slotsOf one.filter, CosmeticIndex.Asks query keys slot) ↔
        one.filter.isWanted query = true) := by
    intro one hone happly
    have hfilter : one.filter ∈ list.cosmetic := by
      rw [← CosmeticIndex.map_filter_placedOf list.cosmetic]
      exact List.mem_map_of_mem hone
    have hwell := hlist.wellFormed_cosmetic one.filter hfilter
    exact hwell.asks_iff_isWanted hcomplete (hspecific one.filter happly)
  have hperm : (placed.filter (applies ·.filter)).Perm
      ((CosmeticIndex.placedOf list.cosmetic).filter fun one =>
        applies one.filter && one.filter.isWanted query) := by
    refine (List.perm_ext_iff_of_nodup (hnodup.filter _)
      ((CosmeticIndex.placedOf_nodup list.cosmetic).filter _)).2 fun one => ?_
    rw [List.mem_filter, List.mem_filter, hmem, Bool.and_eq_true]
    constructor
    · rintro ⟨⟨hone, hasked⟩, happly⟩
      exact ⟨hone, happly, (hreached one hone happly).1 hasked⟩
    · rintro ⟨hone, happly, hwanted⟩
      exact ⟨⟨hone, (hreached one hone happly).2 hwanted⟩, happly⟩
  refine ⟨(placed.map (·.filter)).filter applies,
    (list.cosmetic.filter applies).filter (·.isWanted query), ?_, ?_, ?_⟩
  · rw [collectCosmetics, hplaced]
    exact hfound
  · rw [scanCosmetics, hscanned]
    rfl
  · have hscan : (list.cosmetic.filter applies).filter (·.isWanted query) =
        ((CosmeticIndex.placedOf list.cosmetic).filter fun one =>
          applies one.filter && one.filter.isWanted query).map (·.filter) := by
      conv_lhs => rw [← CosmeticIndex.map_filter_placedOf list.cosmetic]
      rw [List.filter_filter, List.filter_map]
      refine congrArg _ (List.filter_congr fun one _ => ?_)
      rw [Function.comp_apply, Bool.and_comm]
    rw [hscan, List.filter_map]
    exact hperm.map _

/-- A page of a name under an entity, with a class that a generic filter is keyed by. -/
def shopQuery : CosmeticQuery where
  url := "https://www.shop.com/"
  hostname := "www.shop.com"
  classes := ["wide"]
  fromDocument := true

theorem collectCosmetics_perm_scan_entity :
    ∃ found scanned,
      (FilterList.parse "web" "shop.*##.ad\n##.wide\n##.tall\nother.com##.ad").1.collectCosmetics none
        shopQuery = .ok found ∧
      found.Perm scanned ∧ scanned.map (·.raw) = ["shop.*##.ad", "##.wide"] := by
  obtain ⟨⟨found, scanned, hfound, hscanned, hperm⟩, -⟩ := collectCosmetics_perm_scan none shopQuery
    (.parse "web" "shop.*##.ad\n##.wide\n##.tall\nother.com##.ad") (by decide +kernel) (by decide +kernel)
  have hraw : (FilterList.scanCosmetics none
      (FilterList.parse "web" "shop.*##.ad\n##.wide\n##.tall\nother.com##.ad").1 shopQuery).map
        (·.map (·.raw)) = .ok ["shop.*##.ad", "##.wide"] := by
    decide +kernel
  rw [hscanned] at hraw
  exact ⟨found, scanned, hfound, hperm, Except.ok.inj hraw⟩

end FilterList

end ContentFilter
