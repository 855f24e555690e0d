import ContentFilter.Proofs.Engine.Publication
import ContentFilter.Proofs.Matching.Answers
import ContentFilter.Proofs.Matching.Precedence

/-! Engines that are merged out of the same engines stop the same requests, however they are merged. -/

namespace ContentFilter

namespace Engine

variable {engine other : Engine} {sources others : List Engine} {request : Request}

/-- The engine is merged out of others, in any order and nesting. Each source stands in the list as
often as it was used. -/
inductive MergedOf : List Engine → Engine → Prop
  | alone (engine : Engine) : MergedOf [engine] engine
  | merge {parts : List (List Engine × Engine)} (h : ∀ part ∈ parts, MergedOf part.1 part.2) :
      MergedOf (parts.flatMap (·.1)) (Engine.merge (parts.map (·.2)))

theorem MergedOf.has {made : Origins} (h : MergedOf sources engine)
    (hmade : ∀ source ∈ sources, made.Has source) : made.Has engine := by
  induction h with
  | alone engine => exact hmade engine (List.mem_singleton_self engine)
  | @merge parts _ ih =>
    apply Origins.has_merge
    intro engine hengine
    obtain ⟨part, hpart, rfl⟩ := List.mem_map.1 hengine
    exact ih part hpart fun source hsource =>
      hmade source (List.mem_flatMap.2 ⟨part, hpart, hsource⟩)

/-- Its lists are those of its sources. -/
theorem MergedOf.mem_lists {made : Origins} (h : MergedOf sources engine)
    (hmade : ∀ source ∈ sources, made.Has source) (list : FilterList) :
    list ∈ engine.lists ↔ ∃ source ∈ sources, list ∈ source.lists := by
  induction h with
  | alone engine => simp
  | @merge parts hparts ih =>
    have hmade' (part : List Engine × Engine) (hpart : part ∈ parts) :
        ∀ source ∈ part.1, made.Has source := fun source hsource =>
      hmade source (List.mem_flatMap.2 ⟨part, hpart, hsource⟩)
    have hhas : ∀ engine ∈ parts.map (·.2), made.Has engine := by
      intro engine hengine
      obtain ⟨part, hpart, rfl⟩ := List.mem_map.1 hengine
      exact (hparts part hpart).has (hmade' part hpart)
    have hall : (Engine.merge (parts.map (·.2))).Assembles ((parts.map (·.2)).flatMap (·.lists)) :=
      assembles_merge hhas
    constructor
    · intro hlist
      obtain ⟨_, hengine, hlist⟩ := List.mem_flatMap.1 (hall.ordered.subset hlist)
      obtain ⟨part, hpart, rfl⟩ := List.mem_map.1 hengine
      obtain ⟨source, hsource, hlist⟩ := (ih part hpart (hmade' part hpart)).1 hlist
      exact ⟨source, List.mem_flatMap.2 ⟨part, hpart, hsource⟩, hlist⟩
    · rintro ⟨source, hsource, hlist⟩
      obtain ⟨part, hpart, hsource⟩ := List.mem_flatMap.1 hsource
      apply hall.complete
      refine List.mem_flatMap.2 ⟨part.2, List.mem_map_of_mem hpart, ?_⟩
      exact (ih part hpart (hmade' part hpart)).2 ⟨source, hsource, hlist⟩

theorem mem_collectNetwork {candidates : List Candidate} {candidate : Candidate}
    (h : engine.collectNetwork request = .ok candidates) : candidate ∈ candidates ↔
      ∃ list ∈ engine.lists, ∃ found, list.collectNetwork request = .ok found ∧ candidate ∈ found := by
  obtain ⟨all, hall, heq⟩ := ok_of_bind h
  cases heq
  exact mem_flatten_of_mapM hall

/-- The engine answers that the request is not to go through as it is. -/
def Stops (engine : Engine) (request : Request) : Prop :=
  ∃ result, engine.matchRequest request = .ok result ∧ Precedence.stops result

section SameLists

variable (hlists : ∀ list, list ∈ engine.lists ↔ list ∈ other.lists)
include hlists

theorem exists_collectNetwork_congr : (∃ found, engine.collectNetwork request = .ok found) ↔
    ∃ found, other.collectNetwork request = .ok found := by
  simp only [exists_collectNetwork_iff, hlists]

theorem exists_matchRequest_congr : (∃ result, engine.matchRequest request = .ok result) ↔
    ∃ result, other.matchRequest request = .ok result := by
  rw [exists_matchRequest_iff, exists_matchRequest_iff, exists_collectNetwork_congr hlists]

theorem Stops.congr (h : engine.Stops request) : other.Stops request := by
  obtain ⟨result, hmatch, hstops⟩ := h
  obtain ⟨candidates, hcandidates, rfl⟩ := ok_of_map hmatch
  obtain ⟨candidates', hcandidates'⟩ := (exists_collectNetwork_congr hlists).1 ⟨_, hcandidates⟩
  have hsame (candidate : Candidate) : candidate ∈ candidates' ↔ candidate ∈ candidates := by
    simp only [mem_collectNetwork hcandidates, mem_collectNetwork hcandidates', hlists]
  exact ⟨Precedence.decide candidates', by rw [matchRequest, hcandidates']; rfl,
    (Rank.stops_congr hsame).2 hstops⟩

end SameLists

/-- Whether a request is stopped depends on nothing but which ranks occur among the candidates, and a
candidate of the deciding rank is the one that is named. So engines that are merged out of the same
engines, whatever the order, nesting and repetition, answer the same requests and stop the same. -/
theorem stops_by_rank :
    (∀ candidates : List Candidate,
      (Precedence.stops (Precedence.decide candidates) ↔
        (Rank.importantBlock.Occurs candidates ∧ ¬Rank.importantAllow.Occurs candidates) ∨
          (Rank.block.Occurs candidates ∧ ¬Rank.importantBlock.Occurs candidates ∧
            ¬Rank.importantAllow.Occurs candidates ∧ ¬Rank.allow.Occurs candidates)) ∧
      (∀ rank : Rank, rank.Decides candidates → ∃ candidate ∈ candidates,
        rank.Includes candidate.filter ∧
          (Precedence.decide candidates).filter = some candidate.filter.raw ∧
          (Precedence.decide candidates).list = some candidate.list) ∧
      ((∀ rank : Rank, ¬rank.Occurs candidates) → Precedence.decide candidates = {})) ∧
    ∀ (made : Origins) (sources others : List Engine) (engine other : Engine),
      (∀ source ∈ sources, made.Has source) → (∀ source, source ∈ sources ↔ source ∈ others) →
        MergedOf sources engine → MergedOf others other → ∀ request : Request,
          ((∃ result, engine.matchRequest request = .ok result) ↔
            ∃ result, other.matchRequest request = .ok result) ∧
          (engine.Stops request ↔ other.Stops request) := by
  constructor
  · intro candidates
    exact ⟨Rank.stops_iff_occurs, fun rank h => h.reports, Rank.decide_of_no_rank⟩
  · intro made sources others engine other hmade hsame hengine hother request
    have hmade' : ∀ source ∈ others, made.Has source := fun source hsource =>
      hmade source ((hsame source).2 hsource)
    have hlists (list : FilterList) : list ∈ engine.lists ↔ list ∈ other.lists := by
      rw [hengine.mem_lists hmade, hother.mem_lists hmade']
      simp only [hsame]
    refine ⟨exists_matchRequest_congr hlists, fun h => h.congr hlists, fun h => h.congr fun list => ?_⟩
    exact (hlists list).symm

def blocking : Engine := (compile 0 "ads" "||ads.com^").1

def sparing : Engine := (compile 1 "own" "@@||ads.com/allowed^").1

def bothMade : Origins :=
  ⟨[(FilterList.parse "ads" "||ads.com^").1, (FilterList.parse "own" "@@||ads.com/allowed^").1]⟩

/-- Two engines at once, and the second beside a union that already has both. -/
theorem stops_by_rank_nested :
    (∀ source ∈ [blocking, sparing], bothMade.Has source) ∧
      MergedOf [blocking, sparing] (merge [blocking, sparing]) ∧
      MergedOf [sparing, blocking, sparing] (merge [sparing, merge [blocking, sparing]]) ∧
      Rank.allow.Decides (Precedence.candidatesOf ["||ads.com^", "@@||ads.com/allowed^"]) ∧
      (∃ candidate ∈ Precedence.candidatesOf ["||ads.com^", "@@||ads.com/allowed^"],
        Rank.allow.Includes candidate.filter) ∧
      ∀ request, (merge [blocking, sparing]).Stops request ↔
        (merge [sparing, merge [blocking, sparing]]).Stops request := by
  have hmade : ∀ source ∈ [blocking, sparing], bothMade.Has source := by
    intro source hsource
    rcases List.mem_pair.1 hsource with rfl | rfl
    · exact List.forall_mem_singleton.2 rfl
    · exact List.forall_mem_singleton.2 rfl
  have hboth : MergedOf [blocking, sparing] (merge [blocking, sparing]) := by
    have hparts : ∀ part ∈ [([blocking], blocking), ([sparing], sparing)],
        MergedOf part.1 part.2 := by simp [MergedOf.alone]
    exact MergedOf.merge hparts
  have hnested : MergedOf [sparing, blocking, sparing] (merge [sparing, merge [blocking, sparing]]) := by
    have hparts : ∀ part ∈ [([sparing], sparing), ([blocking, sparing], merge [blocking, sparing])],
        MergedOf part.1 part.2 := by simp [MergedOf.alone, hboth]
    exact MergedOf.merge hparts
  have hsame (source : Engine) :
      source ∈ [blocking, sparing] ↔ source ∈ [sparing, blocking, sparing] := by
    simp only [List.mem_cons]
    tauto
  have hdecides : Rank.allow.Decides
      (Precedence.candidatesOf ["||ads.com^", "@@||ads.com/allowed^"]) := by decide +kernel
  refine ⟨hmade, hboth, hnested, hdecides, ?_, fun request => ?_⟩
  · obtain ⟨candidate, hmem, hincludes, -⟩ := (stops_by_rank.1 _).2.1 Rank.allow hdecides
    exact ⟨candidate, hmem, hincludes⟩
  · exact (stops_by_rank.2 bothMade _ _ _ _ hmade hsame hboth hnested request).2

end Engine

end ContentFilter
