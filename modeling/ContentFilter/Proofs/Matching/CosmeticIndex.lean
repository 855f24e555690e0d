import ContentFilter.Matching.FilterList
import ContentFilter.Proofs.Data.Distinct
import ContentFilter.Proofs.Data.Traverse

/-! The index of cosmetic filters: a filter stands where its hosts or its key say and nowhere else, and a
look-up comes by exactly the filters that stand where the query asks. -/

namespace ContentFilter

namespace Buckets

variable {α : Type} {buckets : Buckets α} {a b : α} {key : String}

theorem mem_add {name : String} :
    b ∈ (buckets.add name a).get key ↔ b ∈ buckets.get key ∨ b = a ∧ key = name := by
  rw [get_add]
  split
  · next h => simp [h]
  · next h => simp [Ne.symm h]

theorem mem_foldl_add {keys : List String} :
    b ∈ (keys.foldl (fun buckets key => buckets.add key a) buckets).get key ↔
      b ∈ buckets.get key ∨ b = a ∧ key ∈ keys := by
  induction keys generalizing buckets with
  | nil => simp
  | cons first keys ih =>
    rw [List.foldl_cons, ih, mem_add, List.mem_cons]
    tauto

end Buckets

namespace CosmeticIndex

/-- A place in an index. -/
inductive Slot where
  | host (key : String)
  | className (name : String)
  | id (name : String)
  | href (part : String)
  /-- The place of generic filters that need nothing of a document. -/
  | generic
  deriving DecidableEq

/-- The filters that stand in a place. -/
def under (index : CosmeticIndex) : Slot → List PlacedFilter
  | .host key => index.byHost.get key
  | .className name => index.classes.get name
  | .id name => index.ids.get name
  | .href part => (index.hrefs.toList.filter (·.1 == part)).map (·.2)
  | .generic => index.generic.toList

/-- The places of a filter. -/
def slotsOf (filter : CosmeticFilter) : List Slot :=
  if !filter.isGeneric then filter.hostnames.map .host
  else if filter.unhide || filter.kind != .hide then [.generic]
  else match filter.genericKey with
    | .className name => [.className name]
    | .id name => [.id name]
    | .href part => [.href part]
    | .base => [.generic]

variable {index : CosmeticIndex} {placed other : PlacedFilter} {slot : Slot}

theorem mem_under_addGeneric : other ∈ (index.addGeneric placed).under slot ↔
    other ∈ index.under slot ∨ other = placed ∧ slot = .generic := by
  cases slot <;> simp [addGeneric, under]

/-- A filter comes to stand in its own places; the others stay as they are. -/
theorem mem_under_add : other ∈ (index.add placed).under slot ↔
    other ∈ index.under slot ∨ other = placed ∧ slot ∈ slotsOf placed.filter := by
  unfold add slotsOf
  dsimp only
  split
  · cases slot <;> simp [under, Buckets.mem_foldl_add]
  split
  · simp [mem_under_addGeneric]
  cases placed.filter.genericKey with
  | className name => cases slot <;> simp [under, Buckets.mem_add, -Buckets.get_add]
  | id name => cases slot <;> simp [under, Buckets.mem_add, -Buckets.get_add]
  | href part =>
    cases slot <;> simp [under]
    tauto
  | base => simp [mem_under_addGeneric]

/-- The filters of a list with their places in it. -/
def placedOf (filters : List CosmeticFilter) : List PlacedFilter :=
  filters.zipIdx.map fun (filter, place) => ⟨place, filter⟩

theorem eq_of_place_eq {filters : List CosmeticFilter} (hplaced : placed ∈ placedOf filters)
    (hother : other ∈ placedOf filters) (h : placed.place = other.place) : placed = other := by
  obtain ⟨⟨filter, place⟩, hmem, rfl⟩ := List.mem_map.1 hplaced
  obtain ⟨⟨filter', place'⟩, hmem', rfl⟩ := List.mem_map.1 hother
  rw [List.mk_mem_zipIdx_iff_getElem?] at hmem hmem'
  have hplace : place = place' := h
  rw [hplace, hmem'] at hmem
  rw [hplace, Option.some.inj hmem]

theorem map_place_placedOf (filters : List CosmeticFilter) :
    (placedOf filters).map (·.place) = List.range filters.length := by
  rw [placedOf, List.map_map]
  exact List.zipIdx_map_snd 0 filters |>.trans List.range_eq_range'.symm

theorem placedOf_nodup (filters : List CosmeticFilter) : (placedOf filters).Nodup :=
  List.Nodup.of_map (·.place) (map_place_placedOf filters ▸ List.nodup_range)

theorem map_filter_placedOf (filters : List CosmeticFilter) :
    (placedOf filters).map (·.filter) = filters := by
  rw [placedOf, List.map_map]
  exact List.zipIdx_map_fst 0 filters

theorem mem_under_foldl_add {all : List PlacedFilter} :
    placed ∈ (all.foldl add index).under slot ↔
      placed ∈ index.under slot ∨ placed ∈ all ∧ slot ∈ slotsOf placed.filter := by
  induction all generalizing index with
  | nil => simp
  | cons first all ih =>
    rw [List.foldl_cons, ih, mem_under_add, List.mem_cons]
    constructor
    · rintro ((h | ⟨rfl, h⟩) | ⟨hmem, h⟩)
      · exact .inl h
      · exact .inr ⟨.inl rfl, h⟩
      · exact .inr ⟨.inr hmem, h⟩
    · rintro (h | ⟨rfl | hmem, h⟩)
      · exact .inl (.inl h)
      · exact .inl (.inr ⟨rfl, h⟩)
      · exact .inr ⟨hmem, h⟩

theorem mem_under_build {filters : List CosmeticFilter} : placed ∈ (build filters).under slot ↔
    placed ∈ placedOf filters ∧ slot ∈ slotsOf placed.filter := by
  have hbuild : build filters = (placedOf filters).foldl add {} := by
    rw [placedOf, List.foldl_map]
    rfl
  have hempty : placed ∉ ({} : CosmeticIndex).under slot := by
    cases slot <;> simp [under]
  rw [hbuild, mem_under_foldl_add]
  simp [hempty]

variable {suffixes : Option Domain.PublicSuffixes} {query : CosmeticQuery} {keys : List (List Char)}

/-- Whether a query with some keys of its host looks into a place. -/
def Asks (query : CosmeticQuery) (keys : List (List Char)) : Slot → Prop
  | .host key => key.toList ∈ keys
  | .className name => query.fromDocument = true ∧ name ∈ query.classes
  | .id name => query.fromDocument = true ∧ name ∈ query.ids
  | .href part => query.fromDocument = true ∧
      ∃ href ∈ query.hrefs, Text.contains part href.toList = true
  | .generic => True

theorem mem_under_href {part : String} :
    placed ∈ index.under (.href part) ↔ (part, placed) ∈ index.hrefs.toList := by
  simp [under]

theorem mem_seen : placed ∈ index.seen query ↔
    (∃ name ∈ query.classes, placed ∈ index.under (.className name)) ∨
    (∃ name ∈ query.ids, placed ∈ index.under (.id name)) ∨
    ∃ part, (∃ href ∈ query.hrefs, Text.contains part href.toList = true) ∧
      placed ∈ index.under (.href part) := by
  rw [seen, List.mem_append, List.mem_append, List.mem_flatMap, List.mem_flatMap, or_assoc]
  refine or_congr_right (or_congr_right ?_)
  simp only [List.mem_map, List.mem_filter, List.any_eq_true, Prod.exists, mem_under_href]
  constructor
  · rintro ⟨part, found, ⟨hmem, hseen⟩, rfl⟩
    exact ⟨part, hseen, hmem⟩
  · rintro ⟨part, hseen, hmem⟩
    exact ⟨part, placed, ⟨hmem, hseen⟩, rfl⟩

/-- What a look-up gathers stands in places that the query looks into. -/
theorem mem_gathered : placed ∈ (keys.flatMap fun key => index.byHost.get (String.ofList key)) ++
      index.generic.toList ++ (if query.fromDocument then index.seen query else []) ↔
    ∃ slot, Asks query keys slot ∧ placed ∈ index.under slot := by
  rw [List.mem_append, List.mem_append, List.mem_flatMap]
  constructor
  · rintro ((⟨key, hkey, hmem⟩ | hmem) | hmem)
    · exact ⟨.host (String.ofList key), by rwa [Asks, String.toList_ofList], hmem⟩
    · exact ⟨.generic, trivial, hmem⟩
    · split at hmem
      · next hdocument =>
        rcases mem_seen.1 hmem with ⟨name, hname, hmem⟩ | ⟨name, hname, hmem⟩ | ⟨part, hpart, hmem⟩
        · exact ⟨.className name, ⟨hdocument, hname⟩, hmem⟩
        · exact ⟨.id name, ⟨hdocument, hname⟩, hmem⟩
        · exact ⟨.href part, ⟨hdocument, hpart⟩, hmem⟩
      · cases hmem
  · rintro ⟨slot, hasks, hmem⟩
    cases slot with
    | host key => exact .inl (.inl ⟨key.toList, hasks, by rwa [String.ofList_toList]⟩)
    | generic => exact .inl (.inr hmem)
    | className name =>
      rw [if_pos hasks.1]
      exact .inr (mem_seen.2 (.inl ⟨name, hasks.2, hmem⟩))
    | id name =>
      rw [if_pos hasks.1]
      exact .inr (mem_seen.2 (.inr (.inl ⟨name, hasks.2, hmem⟩)))
    | href part =>
      rw [if_pos hasks.1]
      exact .inr (mem_seen.2 (.inr (.inr ⟨part, hasks.2, hmem⟩)))

/-- A look-up comes by exactly the filters with a place that the query looks into, and by each once. -/
theorem lookup_build (filters : List CosmeticFilter)
    (hkeys : hostKeys suffixes query.hostname.toList = .ok keys) :
    ∃ found, lookup suffixes (build filters) query = .ok found ∧ found.Nodup ∧ ∀ placed,
      placed ∈ found ↔ placed ∈ placedOf filters ∧
        ∃ slot ∈ slotsOf placed.filter, Asks query keys slot := by
  have hgathered : ∀ placed, placed ∈
      (keys.flatMap fun key => (build filters).byHost.get (String.ofList key)) ++
        (build filters).generic.toList ++
        (if query.fromDocument then (build filters).seen query else []) ↔
      placed ∈ placedOf filters ∧ ∃ slot ∈ slotsOf placed.filter, Asks query keys slot := by
    intro placed
    rw [mem_gathered]
    constructor
    · rintro ⟨slot, hasks, hmem⟩
      obtain ⟨hplaced, hslot⟩ := mem_under_build.1 hmem
      exact ⟨hplaced, slot, hslot, hasks⟩
    · rintro ⟨hplaced, slot, hslot, hasks⟩
      exact ⟨slot, hasks, mem_under_build.2 ⟨hplaced, hslot⟩⟩
  refine ⟨_, by rw [lookup, hkeys]; rfl, ?_, fun placed => ?_⟩
  · exact List.Nodup.of_map (·.place) (distinctBy_keys_nodup _ _)
  · refine (mem_distinctBy fun a ha b hb h => ?_).trans (hgathered placed)
    exact eq_of_place_eq ((hgathered a).1 ha).1 ((hgathered b).1 hb).1 h

end CosmeticIndex

namespace FilterList

variable {list : FilterList} {suffixes : Option Domain.PublicSuffixes} {query : CosmeticQuery}
  {filters : List CosmeticFilter}

/-- A list answers a page with those of its filters that apply to it and stand where the query looks. -/
theorem mem_collectCosmetics (h : list.collectCosmetics suffixes query = .ok filters) :
    ∃ keys, CosmeticIndex.hostKeys suffixes query.hostname.toList = .ok keys ∧ ∀ filter,
      filter ∈ filters ↔ filter ∈ list.cosmetic ∧
        filter.appliesTo suffixes query.hostname.toList = .ok true ∧
        ∃ slot ∈ CosmeticIndex.slotsOf filter, CosmeticIndex.Asks query keys slot := by
  obtain ⟨placed, hplaced, hfilters⟩ := ok_of_bind h
  obtain ⟨keys, hkeys, -⟩ := ok_of_bind hplaced
  rw [list.cosmeticIndex_eq] at hplaced
  obtain ⟨found, hfound, -, hmem⟩ := CosmeticIndex.lookup_build list.cosmetic hkeys
  cases hplaced.symm.trans hfound
  refine ⟨keys, hkeys, fun filter => ?_⟩
  have hplaced : filter ∈ placed.map (·.filter) ↔ filter ∈ list.cosmetic ∧
      ∃ slot ∈ CosmeticIndex.slotsOf filter, CosmeticIndex.Asks query keys slot := by
    rw [← CosmeticIndex.map_filter_placedOf list.cosmetic, List.mem_map, List.mem_map]
    constructor
    · rintro ⟨one, hone, rfl⟩
      obtain ⟨hone, hasks⟩ := (hmem one).1 hone
      exact ⟨⟨one, hone, rfl⟩, hasks⟩
    · rintro ⟨⟨one, hone, rfl⟩, hasks⟩
      exact ⟨one, (hmem one).2 ⟨hone, hasks⟩, rfl⟩
  rw [mem_of_filterM hfilters, hplaced, and_assoc, and_congr_right_iff]
  exact fun _ => and_comm

/-- A list answers a page with filters of its own. -/
theorem collectCosmetics_subset (h : list.collectCosmetics suffixes query = .ok filters) :
    filters ⊆ list.cosmetic := by
  obtain ⟨keys, -, hmem⟩ := mem_collectCosmetics h
  exact fun filter hfilter => ((hmem filter).1 hfilter).1

end FilterList

end ContentFilter
