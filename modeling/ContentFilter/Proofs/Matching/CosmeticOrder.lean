import ContentFilter.Proofs.Matching.CosmeticIndex

/-! In which order a page is answered with the cosmetic filters of a list: place after place as the query
looks into them, and as they stand in the list under one place. Without some of its filters a list answers
with the others in the same order. -/

namespace ContentFilter

theorem Buckets.get_foldl_add {α : Type} (a : α) (keys : List String) (key : String)
    (buckets : Buckets α) : (keys.foldl (fun buckets key => buckets.add key a) buckets).get key =
      buckets.get key ++ List.replicate (keys.count key) a := by
  induction keys generalizing buckets with
  | nil => simp
  | cons first keys ih =>
    rw [List.foldl_cons, ih, get_add, List.count_cons]
    by_cases h : first = key
    · rw [if_pos h, if_pos (beq_iff_eq.2 h), Nat.add_comm, List.replicate_add, List.append_assoc]
      rfl
    · rw [if_neg h, if_neg (by simpa using h)]
      rfl

namespace CosmeticIndex

/-- The places that a query looks into at a time: one place, or those of the links that have a part of
theirs among some targets. -/
inductive Glance where
  | place (slot : Slot)
  | links (hrefs : List String)

def Glance.covers : Glance → Slot → Bool
  | .place slot, other => other == slot
  | .links hrefs, .href part => hrefs.any fun href => Text.contains part href.toList
  | .links _, _ => false

/-- The filters that are found at a glance. -/
def gather (index : CosmeticIndex) : Glance → List PlacedFilter
  | .place slot => index.under slot
  | .links hrefs => (index.hrefs.toList.filter fun (part, _) =>
      hrefs.any fun href => Text.contains part href.toList).map (·.2)

/-- The glances of a query with some keys of its host, in their order. -/
def glances (query : CosmeticQuery) (keys : List (List Char)) : List Glance :=
  keys.map (fun key => .place (.host (String.ofList key))) ++ [.place .generic] ++
    if query.fromDocument then
      query.classes.map (fun name => .place (.className name)) ++
        query.ids.map (fun name => .place (.id name)) ++ [.links query.hrefs]
    else []

variable {index : CosmeticIndex} {placed : PlacedFilter} {glance : Glance}

theorem gather_addGeneric : (index.addGeneric placed).gather glance =
    index.gather glance ++ List.replicate ([Slot.generic].countP glance.covers) placed := by
  cases glance with
  | place slot => cases slot <;> simp [gather, under, addGeneric, Glance.covers]
  | links hrefs => simp [gather, addGeneric, Glance.covers]

theorem gather_add : (index.add placed).gather glance =
    index.gather glance ++ List.replicate ((slotsOf placed.filter).countP glance.covers) placed := by
  unfold add slotsOf
  dsimp only
  split
  · have hcount (key : String) :
        placed.filter.hostnames.countP ((Glance.place (.host key)).covers ∘ Slot.host) =
          placed.filter.hostnames.count key := by
      rw [List.count]
      congr 1
      funext host
      rw [Bool.eq_iff_iff]
      simp [Glance.covers]
    cases glance with
    | place slot =>
      cases slot with
      | host key => simp [gather, under, Buckets.get_foldl_add, hcount]
      | _ => simp [gather, under, Glance.covers, List.countP_map, Function.comp_def]
    | links hrefs => simp [gather, Glance.covers, List.countP_map, Function.comp_def]
  split
  · exact gather_addGeneric
  cases placed.filter.genericKey with
  | className name =>
    cases glance with
    | place slot =>
      cases slot with
      | className other => by_cases h : name = other <;> simp [gather, under, Glance.covers, h]
      | _ => simp [gather, under, Glance.covers]
    | links hrefs => simp [gather, Glance.covers]
  | id name =>
    cases glance with
    | place slot =>
      cases slot with
      | id other => by_cases h : name = other <;> simp [gather, under, Glance.covers, h]
      | _ => simp [gather, under, Glance.covers]
    | links hrefs => simp [gather, Glance.covers]
  | href part =>
    cases glance with
    | place slot =>
      cases slot with
      | href other => by_cases h : part = other <;> simp [gather, under, Glance.covers, h]
      | _ => simp [gather, under, Glance.covers]
    | links hrefs =>
      cases h : hrefs.any fun href => Text.contains part href.toList <;>
        simp only [gather, Array.toList_push, List.filter_append, List.map_append, List.filter_cons,
          List.countP_singleton, Glance.covers, h, Bool.false_eq_true, if_false, if_true] <;> rfl
  | base => exact gather_addGeneric

/-- At a glance the filters are found as they stand in the list, each as often as it has a place there. -/
theorem gather_build (filters : List CosmeticFilter) : (build filters).gather glance =
    (placedOf filters).flatMap fun placed =>
      List.replicate ((slotsOf placed.filter).countP glance.covers) placed := by
  have hfold : ∀ (all : List PlacedFilter) (index : CosmeticIndex),
      (all.foldl add index).gather glance = index.gather glance ++ all.flatMap fun placed =>
        List.replicate ((slotsOf placed.filter).countP glance.covers) placed := by
    intro all
    induction all with
    | nil => simp
    | cons placed all ih =>
      intro index
      rw [List.foldl_cons, ih, gather_add, List.flatMap_cons, List.append_assoc]
  have hbuild : build filters = (placedOf filters).foldl add {} := by
    rw [placedOf, List.foldl_map]
    rfl
  have hempty : ({} : CosmeticIndex).gather glance = [] := by
    cases glance with
    | place slot => cases slot <;> simp [gather, under]
    | links hrefs => simp [gather]
  rw [hbuild, hfold, hempty, List.nil_append]

theorem gathered_eq (index : CosmeticIndex) (query : CosmeticQuery) (keys : List (List Char)) :
    (keys.flatMap fun key => index.byHost.get (String.ofList key)) ++ index.generic.toList ++
      (if query.fromDocument then index.seen query else []) =
    (glances query keys).flatMap index.gather := by
  rw [glances, List.flatMap_append, List.flatMap_append, List.flatMap_map]
  cases query.fromDocument with
  | false => simp [gather, under]
  | true => simp [gather, under, seen, List.flatMap_append, List.flatMap_map]

/-- The filter has a place among those looked into. -/
def Glance.shows (glance : Glance) (filter : CosmeticFilter) : Bool :=
  (slotsOf filter).any glance.covers

/-- The filters that are found at some glances, each where it is found first. -/
def firstFound : List Glance → List CosmeticFilter → List CosmeticFilter
  | [], _ => []
  | glance :: rest, filters =>
    filters.filter glance.shows ++ firstFound rest (filters.filter (!glance.shows ·))

theorem firstFound_filter (glances : List Glance) (filters : List CosmeticFilter)
    (keep : CosmeticFilter → Bool) :
    firstFound glances (filters.filter keep) = (firstFound glances filters).filter keep := by
  induction glances generalizing filters with
  | nil => rfl
  | cons glance rest ih =>
    rw [firstFound, firstFound, List.filter_append, ← ih, List.filter_filter, List.filter_filter,
      List.filter_filter, List.filter_filter]
    simp only [Bool.and_comm]

theorem distinctBy_gathered (glances : List Glance) {all : List PlacedFilter}
    (hnodup : (all.map (·.place)).Nodup) :
    (distinctBy (·.place) (glances.flatMap fun glance => all.flatMap fun placed =>
      List.replicate ((slotsOf placed.filter).countP glance.covers) placed)).map (·.filter) =
    firstFound glances (all.map (·.filter)) := by
  induction glances generalizing all with
  | nil => rfl
  | cons glance rest ih =>
    have hcount (placed : PlacedFilter) :
        0 < (slotsOf placed.filter).countP glance.covers ↔ glance.shows placed.filter = true := by
      rw [List.countP_pos_iff, Glance.shows, List.any_eq_true]
    have hfirst : distinctBy (·.place) (all.flatMap fun placed =>
        List.replicate ((slotsOf placed.filter).countP glance.covers) placed) =
        all.filter (glance.shows ·.filter) := by
      rw [distinctBy_flatMap_replicate _ hnodup]
      simp only [hcount, Bool.decide_eq_true]
    -- what is found at the other glances is new when this glance does not show it
    have hnew : ∀ placed ∈ all, (!(all.flatMap fun other =>
        List.replicate ((slotsOf other.filter).countP glance.covers) other).any
          (·.place == placed.place)) = !glance.shows placed.filter := by
      intro placed hplaced
      rw [Bool.not_inj_iff, Bool.eq_iff_iff, List.any_eq_true, ← hcount]
      constructor
      · rintro ⟨other, hother, hplace⟩
        obtain ⟨found, hfound, hother⟩ := List.mem_flatMap.1 hother
        obtain ⟨hpos, rfl⟩ := List.mem_replicate.1 hother
        have hsame : other = placed :=
          List.inj_on_of_nodup_map hnodup hfound hplaced (beq_iff_eq.1 hplace)
        rw [← hsame]
        exact Nat.pos_of_ne_zero hpos
      · intro hpos
        refine ⟨placed, List.mem_flatMap.2 ⟨placed, hplaced, ?_⟩, beq_self_eq_true _⟩
        exact List.mem_replicate.2 ⟨Nat.pos_iff_ne_zero.1 hpos, rfl⟩
    have hothers := ih (hnodup.sublist ((List.filter_sublist (p := fun placed =>
      !glance.shows placed.filter) (l := all)).map _))
    rw [List.flatMap_cons, distinctBy_append, hfirst, List.map_append, firstFound, List.filter_map,
      List.filter_map, List.filter_flatMap]
    simp only [filter_flatMap_replicate, List.filter_congr hnew]
    exact congrArg _ hothers

/-- A look-up comes by the filters glance after glance, as they stand in the list. -/
theorem lookup_eq_firstFound {suffixes : Option Domain.PublicSuffixes} {query : CosmeticQuery}
    {keys : List (List Char)} (filters : List CosmeticFilter)
    (hkeys : hostKeys suffixes query.hostname.toList = .ok keys) :
    ∃ found, lookup suffixes (build filters) query = .ok found ∧
      found.map (·.filter) = firstFound (glances query keys) filters := by
  refine ⟨_, by rw [lookup, hkeys]; rfl, ?_⟩
  have hnodup : ((placedOf filters).map (·.place)).Nodup := by
    rw [map_place_placedOf]
    exact List.nodup_range
  have hgather : (build filters).gather = fun glance => (placedOf filters).flatMap fun placed =>
      List.replicate ((slotsOf placed.filter).countP glance.covers) placed :=
    funext fun _ => gather_build filters
  rw [gathered_eq, hgather, distinctBy_gathered _ hnodup, map_filter_placedOf]

end CosmeticIndex

namespace FilterList

variable {list less : FilterList} {suffixes : Option Domain.PublicSuffixes} {query : CosmeticQuery}
  {filters : List CosmeticFilter}

theorem collectCosmetics_eq (list : FilterList) (suffixes : Option Domain.PublicSuffixes)
    (query : CosmeticQuery) : list.collectCosmetics suffixes query = (do
      let keys ← CosmeticIndex.hostKeys suffixes query.hostname.toList
      (CosmeticIndex.firstFound (CosmeticIndex.glances query keys) list.cosmetic).filterM fun filter =>
        filter.appliesTo suffixes query.hostname.toList) := by
  rw [collectCosmetics, list.cosmeticIndex_eq]
  cases hkeys : CosmeticIndex.hostKeys suffixes query.hostname.toList with
  | error fault =>
    rw [CosmeticIndex.lookup, hkeys]
    rfl
  | ok keys =>
    obtain ⟨found, hfound, hfilters⟩ := CosmeticIndex.lookup_eq_firstFound list.cosmetic hkeys
    rw [hfound]
    show (found.map (·.filter)).filterM (fun filter => filter.appliesTo suffixes query.hostname.toList) = _
    rw [hfilters]
    rfl

/-- The second list is the first one without the cosmetic filters to drop. -/
structure Drops (drop : CosmeticFilter → Bool) (list less : FilterList) : Prop where
  name : less.name = list.name
  network : less.network = list.network
  cosmetic : less.cosmetic = list.cosmetic.filter (!drop ·)

variable {drop : CosmeticFilter → Bool}

theorem Drops.collectNetwork (h : Drops drop list less) (request : Request) :
    less.collectNetwork request = list.collectNetwork request := by
  rw [FilterList.collectNetwork, FilterList.collectNetwork, less.networkIndex_eq, list.networkIndex_eq,
    h.network, h.name]

/-- A page is answered with the same filters in the same order, but for the dropped ones. -/
theorem Drops.collectCosmetics (h : Drops drop list less)
    (hfilters : list.collectCosmetics suffixes query = .ok filters) :
    less.collectCosmetics suffixes query = .ok (filters.filter (!drop ·)) := by
  rw [collectCosmetics_eq] at hfilters ⊢
  obtain ⟨keys, hkeys, hfilters⟩ := ok_of_bind hfilters
  rw [hkeys, h.cosmetic]
  show (CosmeticIndex.firstFound _ _).filterM
    (fun filter => filter.appliesTo suffixes query.hostname.toList) = _
  rw [CosmeticIndex.firstFound_filter]
  exact filterM_filter hfilters _

end FilterList

end ContentFilter
