import ContentFilter.Proofs.Data.Distinct
import ContentFilter.Proofs.Matching.FilterList

/-! An engine that is made of compiled lists comes back out of its snapshot: with its lists, so with all
of its answers, and with the same snapshot. -/

namespace ContentFilter

namespace FilterList

theorem ofContent_toListContent (list : FilterList) : ofContent list.toListContent = list := by
  obtain ⟨content, networkIndex, cosmeticIndex, hnetwork, hcosmetic⟩ := list
  subst hnetwork hcosmetic
  rfl

theorem map_ofContent_toListContent (lists : List FilterList) :
    (lists.map (·.toListContent)).map ofContent = lists := by
  have hfun : ofContent ∘ toListContent = id := funext ofContent_toListContent
  rw [List.map_map, hfun, List.map_id]

/-- A text without cancelled and repeated filters is compiled to all of its filters. -/
theorem parse_eq {text : String} {network : List NetworkFilter} {cosmetic : List CosmeticFilter}
    (name : String) (hnetwork : (ParsedList.parse text).network = network)
    (hcosmetic : (ParsedList.parse text).cosmetic = cosmetic)
    (hlive : ∀ filter ∈ network, filter.has .badFilter = false)
    (hnodup : (network.map NetworkFilter.body).Nodup) :
    (parse name text).1 = ofContent { name, digest := contentDigest text, network, cosmetic } := by
  subst hnetwork hcosmetic
  rw [parse, ofFilters, NetworkFilter.optimize_eq_self hlive hnodup]

end FilterList

namespace Engine

theorem lists_ofContents (origin : Nat) (contents : List ListContent) :
    (ofContents origin contents).lists = contents.map FilterList.ofContent := by
  rw [lists, ofContents, List.map_map]
  have hfun : ((·.list) ∘ fun entry : ListContent × Nat =>
      (⟨origin + entry.2, .ofContent entry.1⟩ : Member)) = FilterList.ofContent ∘ Prod.fst := rfl
  rw [hfun, ← List.map_map, List.zipIdx_map_fst]

theorem mem_lists_merge {engines : List Engine} {list : FilterList}
    (h : list ∈ (merge engines).lists) : ∃ engine ∈ engines, list ∈ engine.lists := by
  obtain ⟨member, hmember, rfl⟩ := List.mem_map.1 h
  have hmem := (distinctBy_sublist _ _).subset hmember
  obtain ⟨engine, hengine, hmem⟩ := List.mem_flatMap.1 hmem
  exact ⟨engine, hengine, List.mem_map_of_mem hmem⟩

/-- Engines that nobody can tell apart by what they say of themselves and answer. -/
structure Agree (engine other : Engine) : Prop where
  listNames : engine.listNames = other.listNames
  digest : engine.digest = other.digest
  stats : engine.stats = other.stats
  matchRequest : ∀ request, engine.matchRequest request = other.matchRequest request
  matchCosmetics : ∀ suffixes query,
    engine.matchCosmetics suffixes query = other.matchCosmetics suffixes query
  matchResponse : ∀ suffixes request,
    engine.matchResponse suffixes request = other.matchResponse suffixes request

/-- The origins of the lists have no part in what an engine answers. -/
theorem agree_of_lists_eq {engine other : Engine} (h : engine.lists = other.lists) :
    Agree engine other := by
  have hnetwork : ∀ request, engine.collectNetwork request = other.collectNetwork request := by
    intro request
    rw [collectNetwork, collectNetwork, h]
  have hcosmetics : ∀ suffixes query,
      engine.collectCosmetics suffixes query = other.collectCosmetics suffixes query := by
    intro suffixes query
    rw [collectCosmetics, collectCosmetics, h]
  constructor
  case listNames => rw [Engine.listNames, Engine.listNames, h]
  case digest => rw [Engine.digest, Engine.digest, h]
  case stats => rw [Engine.stats, Engine.stats, h]
  case matchRequest =>
    intro request
    rw [Engine.matchRequest, Engine.matchRequest, hnetwork]
  case matchCosmetics =>
    intro suffixes query
    rw [Engine.matchCosmetics, Engine.matchCosmetics, hnetwork, hcosmetics]
  case matchResponse =>
    intro suffixes request
    rw [Engine.matchResponse, Engine.matchResponse, hnetwork, hcosmetics]

/-- An engine that was compiled, or put together from such engines. -/
inductive Built : Engine → Prop
  | compile (origin : Nat) (name text : String) : Built (compile origin name text).1
  | merge {engines : List Engine} (hengines : ∀ engine ∈ engines, Built engine) :
      Built (merge engines)

theorem Built.compiled {engine : Engine} (h : engine.Built) :
    ∀ list ∈ engine.lists, list.Compiled := by
  induction h with
  | compile origin name text =>
    intro list hlist
    obtain rfl := List.mem_singleton.1 hlist
    exact .parse name text
  | merge hengines ih =>
    intro list hlist
    obtain ⟨engine, hengine, hmem⟩ := mem_lists_merge hlist
    exact ih engine hengine list hmem

/-- The sets of all network filters are no larger than their fields. -/
def Fits (engine : Engine) : Prop := ∀ list ∈ engine.lists, list.toListContent.Fits

theorem fits_compile (origin : Nat) (name text : String) : (compile origin name text).1.Fits := by
  intro list hlist
  obtain rfl := List.mem_singleton.1 hlist
  exact (FilterList.Compiled.parse name text).wellFormed.1.fits

theorem fits_merge {engines : List Engine} (h : ∀ engine ∈ engines, engine.Fits) :
    (merge engines).Fits := by
  intro list hlist
  obtain ⟨engine, hengine, hmem⟩ := mem_lists_merge hlist
  exact h engine hengine list hmem

theorem fits_deserialize {origin : Nat} {data : List UInt8} {engine : Engine}
    (h : deserialize origin data = .ok engine) : engine.Fits := by
  obtain ⟨contents, hcontents, rfl⟩ := ok_of_map h
  rw [Fits, lists_ofContents, List.forall_mem_map]
  exact Snapshot.fits_of_decode hcontents

/-- The snapshot of an engine whose payload fits its size field is read, and what it gives back has the
lists of the engine, its answers and its snapshot. -/
theorem deserialize_serialize (origin : Nat) {engine : Engine} (hengine : engine.Built)
    (hsize : Text.Utf8.size (Snapshot.payloadJson (engine.lists.map (·.toListContent))).chars <
      2 ^ 32) :
    ∃ restored, deserialize origin engine.serialize = .ok restored ∧
      restored.lists = engine.lists ∧ restored.Agree engine ∧
      restored.serialize = engine.serialize := by
  have hfits : ∀ content ∈ engine.lists.map (·.toListContent), content.Fits :=
    List.forall_mem_map.2 fun list hlist => (hengine.compiled list hlist).wellFormed.1.fits
  have hlists : (ofContents origin (engine.lists.map (·.toListContent))).lists = engine.lists := by
    rw [lists_ofContents, FilterList.map_ofContent_toListContent]
  refine ⟨ofContents origin (engine.lists.map (·.toListContent)), ?_, hlists,
    agree_of_lists_eq hlists, ?_⟩
  · rw [deserialize, serialize, Snapshot.decode_encode hfits hsize]
    rfl
  · rw [serialize, serialize, hlists]

def adsFilter : NetworkFilter where
  raw := "||ads.com^$script"
  action := .block
  flags := Flag.hostAnchor.set
  hostname := some "ads.com"
  pattern := "^"
  kinds := Kind.script.set
  parties := .empty
  domains := none
  redirect := none
  csp := none

def bannerFilter : CosmeticFilter where
  raw := "##.баннер"
  hostnames := []
  notHostnames := []
  unhide := false
  kind := .hide
  selector := ".баннер"

/-- Two compiled lists, with a filter of each kind and text beyond ASCII. -/
def twoLists : Engine :=
  merge [(compile 0 "ads" adsFilter.raw).1, (compile 1 "web" bannerFilter.raw).1]

theorem parse_adsFilter : (FilterList.parse "ads" adsFilter.raw).1 =
    .ofContent ⟨"ads", contentDigest adsFilter.raw, [adsFilter], []⟩ :=
  FilterList.parse_eq "ads" (by decide +kernel) (by decide +kernel) (by decide) (by decide)

theorem lists_twoLists : twoLists.lists =
    [.ofContent ⟨"ads", contentDigest adsFilter.raw, [adsFilter], []⟩,
      .ofContent ⟨"web", contentDigest bannerFilter.raw, [], [bannerFilter]⟩] := by
  have hweb : (FilterList.parse "web" bannerFilter.raw).1 =
      .ofContent ⟨"web", contentDigest bannerFilter.raw, [], [bannerFilter]⟩ :=
    FilterList.parse_eq "web" (by decide +kernel) (by decide +kernel) nofun (by decide)
  rw [twoLists, merge, lists, distinctBy_eq_self (by decide), ← parse_adsFilter, ← hweb]
  rfl

theorem size_twoLists : Text.Utf8.size
    (Snapshot.payloadJson (twoLists.lists.map (·.toListContent))).chars < 2 ^ 32 := by
  rw [lists_twoLists]
  decide +kernel

theorem deserialize_serialize_twoLists : ∃ restored, deserialize 7 twoLists.serialize = .ok restored ∧
    restored.listNames = ["ads", "web"] ∧ restored.stats = ⟨2, 1, 1⟩ ∧
    restored.serialize = twoLists.serialize := by
  have hbuilt : twoLists.Built := .merge fun engine hengine => by
    rcases List.mem_pair.1 hengine with rfl | rfl
    · exact .compile _ _ _
    · exact .compile _ _ _
  obtain ⟨restored, hread, -, hagree, hsame⟩ := deserialize_serialize 7 hbuilt size_twoLists
  refine ⟨restored, hread, ?_, ?_, hsame⟩
  · rw [hagree.listNames, listNames, lists_twoLists]
    rfl
  · rw [hagree.stats, stats, lists_twoLists]
    rfl

end Engine

end ContentFilter
