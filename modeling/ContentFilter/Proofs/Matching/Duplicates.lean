import ContentFilter.Engine.Basic
import ContentFilter.Proofs.Data.BitNames
import ContentFilter.Proofs.Data.Thinned
import ContentFilter.Proofs.Matching.FilterList

/-! Repeated filters: which ones stay in a list, and that no answer depends on the others. A filter and
its repetitions stand one after the other wherever they are looked up, so the first one is found first. -/

namespace ContentFilter

theorem BitSet.without_of_not_mem {s : BitSet} {i : Nat} (h : s.mem i = false) :
    s.without (.single i) = s := by
  apply BitNames.eq_of_mem
  intro j
  rw [BitSet.mem_without, BitSet.mem_single]
  by_cases hij : i = j
  · subst hij
    rw [h]
    rfl
  · simp [hij]

namespace NetworkFilter

/-- A filter of the list takes this one out. -/
def IsCancelled (filters : List NetworkFilter) (filter : NetworkFilter) : Prop :=
  ∃ bad ∈ filters, bad.has .badFilter = true ∧ bad.body = filter.body

instance (filters : List NetworkFilter) (filter : NetworkFilter) :
    Decidable (filter.IsCancelled filters) :=
  inferInstanceAs (Decidable (∃ bad ∈ filters, _ ∧ _))

/-- The filters that neither take others out nor are taken out. -/
def uncancelled (filters : List NetworkFilter) : List NetworkFilter :=
  filters.filter fun filter => !filter.has .badFilter && !decide (filter.IsCancelled filters)

/-- The filters say the same in other words. -/
def Rewords (filter other : NetworkFilter) : Prop := ∃ text, filter = { other with raw := text }

variable {filters : List NetworkFilter} {filter other : NetworkFilter}

/-- Live filters of one body differ in their text alone. -/
theorem eq_of_body_eq (hfilter : filter.has .badFilter = false)
    (hother : other.has .badFilter = false) (h : filter.body = other.body) :
    filter = { other with raw := filter.raw } := by
  have hflags : filter.flags = other.flags := by
    have hsame := congrArg NetworkFilter.flags h
    simp only [body, Flag.set] at hsame
    rwa [BitSet.without_of_not_mem hfilter, BitSet.without_of_not_mem hother] at hsame
  cases filter
  cases other
  simp only [body, NetworkFilter.mk.injEq] at h hflags ⊢
  tauto

theorem mem_uncancelled : filter ∈ uncancelled filters ↔
    filter ∈ filters ∧ filter.has .badFilter = false ∧ ¬filter.IsCancelled filters := by
  simp [uncancelled]

theorem optimize_eq (filters : List NetworkFilter) : optimize filters =
    (distinctBy body (uncancelled filters),
      { before := filters.length
        after := (distinctBy body (uncancelled filters)).length
        deduped := (uncancelled filters).length - (distinctBy body (uncancelled filters)).length
        badFiltered := (filters.filter (!·.has .badFilter)).length - (uncancelled filters).length }) := by
  have hvalid : uncancelled filters = (filters.filter (!·.has .badFilter)).filter fun filter =>
      !(Std.HashSet.ofList ((filters.filter (·.has .badFilter)).map body)).contains filter.body := by
    rw [uncancelled, List.filter_filter]
    refine List.filter_congr fun filter _ => ?_
    rw [Bool.and_comm]
    congr 2
    rw [Bool.eq_iff_iff, decide_eq_true_iff, Std.HashSet.contains_ofList, List.contains_iff_mem]
    simp [IsCancelled, and_assoc]
  rw [hvalid]
  rfl

/-- No kept filter is one that takes another out, or is taken out. -/
theorem not_isCancelled_of_mem_optimize (h : filter ∈ (optimize filters).1) :
    filter.has .badFilter = false ∧ ¬filter.IsCancelled filters := by
  rw [optimize_eq] at h
  exact (mem_uncancelled.1 ((distinctBy_sublist body _).subset h)).2

/-- Whether the filter at a place stays: it is live, and no earlier one says the same. -/
def isKept (filters : List NetworkFilter) (placed : NetworkFilter × Nat) : Bool :=
  (!placed.1.has .badFilter && !decide (placed.1.IsCancelled filters)) &&
    !(filters.take placed.2).any (·.body == placed.1.body)

theorem optimize_fst_eq (filters : List NetworkFilter) :
    (optimize filters).1 = (filters.zipIdx.filter (isKept filters)).map (·.1) := by
  rw [optimize_eq, uncancelled]
  refine distinctBy_filter_eq fun a ha b hb hbody hpass => ?_
  rw [Bool.and_eq_true, Bool.not_eq_true', Bool.not_eq_true', decide_eq_false_iff_not] at hpass ⊢
  obtain ⟨-, hkept⟩ := hpass
  constructor
  · rw [← Bool.not_eq_true]
    exact fun hbad => hkept ⟨b, hb, hbad, hbody.symm⟩
  · rwa [IsCancelled, ← hbody]

/-- Every filter is kept, repeated, taken out or one that takes others out. -/
theorem optimize_adds_up (filters : List NetworkFilter) :
    (optimize filters).2.before = filters.length ∧
    (optimize filters).2.after = (optimize filters).1.length ∧
    (optimize filters).2.before = (optimize filters).2.after + (optimize filters).2.deduped +
      (optimize filters).2.badFiltered + (filters.filter (·.has .badFilter)).length := by
  rw [optimize_eq]
  refine ⟨rfl, rfl, ?_⟩
  dsimp only
  have hkept := (distinctBy_sublist body (uncancelled filters)).length_le
  have hlive : (uncancelled filters).length ≤ (filters.filter (!·.has .badFilter)).length := by
    rw [uncancelled, ← List.countP_eq_length_filter, ← List.countP_eq_length_filter]
    exact List.countP_mono_left fun filter _ h => (Bool.and_eq_true_iff.1 h).1
  have hall := (List.filter_append_perm (·.has .badFilter) filters).length_eq
  rw [List.length_append] at hall
  omega

/-- Once is enough. -/
theorem optimize_optimize (filters : List NetworkFilter) :
    optimize (optimize filters).1 = ((optimize filters).1,
      ⟨(optimize filters).1.length, (optimize filters).1.length, 0, 0⟩) := by
  have hlive : ∀ filter ∈ (optimize filters).1, filter.has .badFilter = false :=
    fun filter hfilter => (not_isCancelled_of_mem_optimize hfilter).1
  have hnodup : ((optimize filters).1.map body).Nodup := distinctBy_keys_nodup body _
  generalize (optimize filters).1 = kept at hlive hnodup
  have huncancelled : uncancelled kept = kept := by
    refine List.filter_eq_self.2 fun filter hfilter => ?_
    have hnot : ¬filter.IsCancelled kept := by
      rintro ⟨bad, hbad, hflag, -⟩
      rw [hlive bad hbad] at hflag
      cases hflag
    simp [hlive filter hfilter, hnot]
  have hall : kept.filter (!·.has .badFilter) = kept :=
    List.filter_eq_self.2 fun filter hfilter => by rw [hlive filter hfilter]; rfl
  rw [optimize_eq, huncancelled, distinctBy_eq_self hnodup, hall, Nat.sub_self]

theorem thinned_optimize (filters : List NetworkFilter) :
    Thinned Rewords [] (uncancelled filters) (optimize filters).1 := by
  rw [optimize_eq]
  exact .distinctBy fun a ha b hb =>
    fun hbody => ⟨a.raw, eq_of_body_eq (mem_uncancelled.1 ha).2.1 (mem_uncancelled.1 hb).2.1 hbody⟩

end NetworkFilter

open NetworkFilter (Rewords)

/-- Compiled, the filters say the same in other words. -/
structure CompiledFilter.Rewords (compiled other : CompiledFilter) : Prop where
  filter : compiled.filter.Rewords other.filter
  regex : compiled.regex = other.regex

theorem NetworkFilter.Rewords.compiled? {filter other : NetworkFilter} (h : filter.Rewords other) :
    Option.Rel CompiledFilter.Rewords filter.compiled? other.compiled? := by
  obtain ⟨text, rfl⟩ := h
  have hregex : ({ other with raw := text } : NetworkFilter).regex? = other.regex? := rfl
  rw [NetworkFilter.compiled?, NetworkFilter.compiled?, hregex]
  rcases other.regex? with _ | _ | regex
  · exact .some ⟨⟨text, rfl⟩, rfl⟩
  · exact .none
  · exact .some ⟨⟨text, rfl⟩, rfl⟩

theorem CompiledFilter.Rewords.hostname {compiled other : CompiledFilter}
    (h : compiled.Rewords other) : compiled.filter.hostname = other.filter.hostname := by
  obtain ⟨text, hfilter⟩ := h.filter
  rw [hfilter]

theorem CompiledFilter.Rewords.accepts {compiled other : CompiledFilter} (h : compiled.Rewords other)
    (request : Request) : compiled.filter.accepts request compiled.regex =
      other.filter.accepts request other.regex := by
  obtain ⟨text, hfilter⟩ := h.filter
  rw [hfilter, h.regex]
  rfl

theorem NetworkIndex.thinned_lookup {filters kept : List NetworkFilter}
    (h : Thinned Rewords [] filters kept) (host : List Char) :
    Thinned CompiledFilter.Rewords [] ((build filters).lookup host) ((build kept).lookup host) := by
  have hcompiled : Thinned CompiledFilter.Rewords [] (filters.filterMap (·.compiled?))
      (kept.filterMap (·.compiled?)) := h.filterMap fun _ _ hsame => hsame.compiled?
  have hunder (key : Option String) := hcompiled.filter (p := (·.filter.hostname == key))
    fun _ _ hsame => by rw [hsame.hostname]
  rw [lookup_build_eq, lookup_build_eq]
  exact (Thinned.flatMap _ fun name => hunder _).append (hunder none)

/-- The candidates are filters that say the same in other words. -/
def Candidate.Rewords (candidate other : Candidate) : Prop := candidate.filter.Rewords other.filter

/-- The second list has the filters of the first one, less repetitions. -/
structure FilterList.Thins (list thin : FilterList) : Prop where
  name : thin.name = list.name
  network : Thinned Rewords [] list.network thin.network
  cosmetic : thin.cosmetic = list.cosmetic

namespace FilterList

variable {list thin : FilterList}

theorem Thins.refl (list : FilterList) : Thins list list := ⟨rfl, .refl _, rfl⟩

theorem Thins.collectNetwork (h : Thins list thin) (request : Request) :
    Alike (Thinned Candidate.Rewords []) (list.collectNetwork request)
      (thin.collectNetwork request) := by
  have hlookup := NetworkIndex.thinned_lookup h.network request.hostname.toList
  rw [← list.networkIndex_eq, ← thin.networkIndex_eq] at hlookup
  have hfound := hlookup.filterM (fun _ _ hsame => hsame.accepts request) (List.forall_mem_nil _)
  rw [FilterList.collectNetwork, FilterList.collectNetwork, h.name]
  refine hfound.bind fun found found' hsame => .ok ?_
  exact hsame.map fun _ _ hsame => hsame.filter

theorem Thins.collectCosmetics (h : Thins list thin) (suffixes : Option Domain.PublicSuffixes)
    (query : CosmeticQuery) :
    list.collectCosmetics suffixes query = thin.collectCosmetics suffixes query := by
  rw [FilterList.collectCosmetics, FilterList.collectCosmetics, list.cosmeticIndex_eq,
    thin.cosmeticIndex_eq, h.cosmetic]

end FilterList

/-- What is asked of a candidate besides its text and its list has the same answer. -/
theorem Candidate.Rewords.congr {α : Type} {candidate other : Candidate} (h : candidate.Rewords other)
    (ask : Candidate → α) (hask : ∀ (filter : NetworkFilter) (text list list' : String),
      ask ⟨{ filter with raw := text }, list⟩ = ask ⟨filter, list'⟩) :
    ask candidate = ask other := by
  obtain ⟨filter, list⟩ := candidate
  obtain ⟨text, rfl⟩ := h
  exact hask other.filter text list other.list

section Candidates

variable {candidates kept : List Candidate}

theorem Precedence.contains_cancelled (candidates : List Candidate) (name : String) :
    (cancelled candidates).contains name = candidates.any fun candidate =>
      candidate.isRedirectException && candidate.filter.redirect.getD "*" == name := by
  rw [cancelled, List.contains_eq_any_beq, List.any_map, List.any_filter]
  refine congrArg candidates.any (funext fun candidate => congrArg _ ?_)
  exact BEq.comm

theorem Precedence.redirectFor_thinned (h : Thinned Candidate.Rewords [] candidates kept)
    (block : Candidate) : redirectFor candidates block = redirectFor kept block := by
  have hoffer : candidates.find? (·.offersRedirect) = kept.find? (·.offersRedirect) :=
    h.find?_eq (fun _ _ hsame => hsame.congr (·.offersRedirect) fun _ _ _ _ => rfl)
      (List.forall_mem_nil _)
  have hcancelled (name : String) :
      (cancelled candidates).contains name = (cancelled kept).contains name := by
    rw [contains_cancelled, contains_cancelled]
    exact h.any_eq fun _ _ hsame => hsame.congr (fun candidate =>
      candidate.isRedirectException && candidate.filter.redirect.getD "*" == name)
      fun _ _ _ _ => rfl
  simp only [redirectFor, hoffer, hcancelled]

/-- The first candidate of a class is no repetition. -/
theorem Precedence.decide_thinned (h : Thinned Candidate.Rewords [] candidates kept) :
    decide candidates = decide kept := by
  have hallow (important : Bool) :
      candidates.find? (·.isAllow important) = kept.find? (·.isAllow important) :=
    h.find?_eq (fun _ _ hsame => hsame.congr (·.isAllow important) fun _ _ _ _ => rfl)
      (List.forall_mem_nil _)
  have hblock (important : Bool) :
      candidates.find? (·.isBlock important) = kept.find? (·.isBlock important) :=
    h.find?_eq (fun _ _ hsame => hsame.congr (·.isBlock important) fun _ _ _ _ => rfl)
      (List.forall_mem_nil _)
  have hblocked (block : Candidate) : blocked candidates block = blocked kept block := by
    rw [blocked, blocked, redirectFor_thinned h]
  simp only [decide, hallow, hblock, hblocked]

theorem CosmeticSwitches.of_thinned (h : Thinned Candidate.Rewords [] candidates kept) :
    of candidates = of kept := by
  have hany (flag : Flag) : (candidates.filter (·.filter.isException)).any (·.filter.has flag) =
      (kept.filter (·.filter.isException)).any (·.filter.has flag) := by
    rw [List.any_filter, List.any_filter]
    exact h.any_eq fun _ _ hsame => hsame.congr
      (fun candidate => candidate.filter.isException && candidate.filter.has flag) fun _ _ _ _ => rfl
  rw [of, of, hany, hany]

theorem ResponseMatch.policies_thinned (h : Thinned Candidate.Rewords [] candidates kept) :
    policies candidates = policies kept := by
  have hpolicies (isOf : Candidate → Bool)
      (hisOf : ∀ a b : Candidate, a.Rewords b → isOf a = isOf b) :
      Thinned Eq [] ((candidates.filter isOf).filterMap (·.filter.csp))
        ((kept.filter isOf).filterMap (·.filter.csp)) := by
    refine (h.filter hisOf).filterMap fun a b hsame => ?_
    have hcsp : a.filter.csp = b.filter.csp := hsame.congr (·.filter.csp) fun _ _ _ _ => rfl
    rw [hcsp]
    cases b.filter.csp with
    | none => exact .none
    | some csp => exact .some rfl
  have hexcepted := hpolicies (·.filter.isException) fun _ _ hsame =>
    hsame.congr (·.filter.isException) fun _ _ _ _ => rfl
  have hblocking := hpolicies (!·.filter.isException) fun _ _ hsame =>
    hsame.congr (!·.filter.isException) fun _ _ _ _ => rfl
  have hlisted := (hblocking.filter (p := fun csp => !csp.isEmpty &&
    !((kept.filter (·.filter.isException)).filterMap (·.filter.csp)).contains csp)
    fun _ _ hsame => by rw [hsame]).distinct_eq
  simp only [policies, hexcepted.contains_eq, hlisted]

end Candidates

namespace Engine

/-- The lists of the second engine have the filters of the first one's, less repetitions. -/
def Thins (engine thin : Engine) : Prop := List.Forall₂ FilterList.Thins engine.lists thin.lists

/-- No request, page or response is answered in another way, nor fails in another way. -/
structure AnswersAlike (engine other : Engine) : Prop where
  matchRequest : ∀ request, engine.matchRequest request = other.matchRequest request
  matchResponse : ∀ suffixes request,
    engine.matchResponse suffixes request = other.matchResponse suffixes request
  matchCosmetics : ∀ suffixes query,
    engine.matchCosmetics suffixes query = other.matchCosmetics suffixes query
  switches : ∀ request, (engine.collectNetwork request).map CosmeticSwitches.of =
    (other.collectNetwork request).map CosmeticSwitches.of

variable {engine thin : Engine}

theorem Thins.collectNetwork (h : Thins engine thin) (request : Request) :
    Alike (Thinned Candidate.Rewords []) (engine.collectNetwork request)
      (thin.collectNetwork request) :=
  (Alike.mapM (h.imp fun _ _ hlist => hlist.collectNetwork request)).bind
    fun _ _ hfound => .ok (.flatten hfound)

theorem Thins.collectCosmetics (h : Thins engine thin) (suffixes : Option Domain.PublicSuffixes)
    (query : CosmeticQuery) :
    engine.collectCosmetics suffixes query = thin.collectCosmetics suffixes query := by
  have hmap : engine.lists.map (·.collectCosmetics suffixes query) =
      thin.lists.map (·.collectCosmetics suffixes query) := by
    rw [← List.forall₂_eq_eq_eq, List.forall₂_map_left_iff, List.forall₂_map_right_iff]
    exact h.imp fun _ _ hlist => hlist.collectCosmetics suffixes query
  have hmapM (lists : List FilterList) : lists.mapM (·.collectCosmetics suffixes query) =
      (lists.map (·.collectCosmetics suffixes query)).mapM id := by
    rw [List.mapM_map]
    rfl
  rw [Engine.collectCosmetics, Engine.collectCosmetics, hmapM, hmapM, hmap]

theorem Thins.answersAlike (h : Thins engine thin) : AnswersAlike engine thin := by
  constructor
  case matchRequest =>
    exact fun request => (h.collectNetwork request).map_eq fun _ _ => Precedence.decide_thinned
  case matchResponse =>
    intro suffixes request
    rw [Engine.matchResponse, Engine.matchResponse, h.collectCosmetics]
    refine (h.collectNetwork request).bind_eq fun _ _ hfound => ?_
    rw [ResponseMatch.policies_thinned hfound]
  case matchCosmetics =>
    intro suffixes query
    rw [Engine.matchCosmetics, Engine.matchCosmetics, h.collectCosmetics]
    refine (h.collectNetwork (.page suffixes query.url)).bind_eq fun _ _ hfound => ?_
    rw [CosmeticSwitches.of_thinned hfound]
  case switches =>
    exact fun request => (h.collectNetwork request).map_eq fun _ _ => CosmeticSwitches.of_thinned

end Engine

namespace NetworkFilter

theorem thins_ofFilters (name : String) (digest : UInt64) (filters : List NetworkFilter)
    (cosmetic : List CosmeticFilter) :
    FilterList.Thins (.ofContent ⟨name, digest, uncancelled filters, cosmetic⟩)
      (.ofFilters name digest filters cosmetic) :=
  ⟨rfl, thinned_optimize filters, rfl⟩

/-- Of the filters that are not taken out the first of each stays, in the order of the list. The counts
add up, a second run finds nothing, and an engine answers with the rest in the list as without. -/
theorem optimize_keeps_answers (filters : List NetworkFilter) :
    (optimize filters).1 = (filters.zipIdx.filter (isKept filters)).map (·.1) ∧
    ((optimize filters).2.before = filters.length ∧
      (optimize filters).2.after = (optimize filters).1.length ∧
      (optimize filters).2.before = (optimize filters).2.after + (optimize filters).2.deduped +
        (optimize filters).2.badFiltered + (filters.filter (·.has .badFilter)).length) ∧
    optimize (optimize filters).1 = ((optimize filters).1,
      ⟨(optimize filters).1.length, (optimize filters).1.length, 0, 0⟩) ∧
    ∀ (name : String) (digest : UInt64) (cosmetic : List CosmeticFilter) (origin : Nat)
      (before after : List Member),
      Engine.AnswersAlike
        ⟨before ++ ⟨origin, .ofContent ⟨name, digest, uncancelled filters, cosmetic⟩⟩ :: after⟩
        ⟨before ++ ⟨origin, .ofFilters name digest filters cosmetic⟩ :: after⟩ := by
  refine ⟨optimize_fst_eq filters, optimize_adds_up filters, optimize_optimize filters, ?_⟩
  intro name digest cosmetic origin before after
  apply Engine.Thins.answersAlike
  have hsame (members : List Member) :
      List.Forall₂ FilterList.Thins (members.map (·.list)) (members.map (·.list)) :=
    List.forall₂_same.2 fun list _ => .refl list
  simp only [Engine.Thins, Engine.lists, List.map_append, List.map_cons]
  exact List.rel_append (hsame before) (.cons (thins_ofFilters name digest filters cosmetic) (hsame after))

end NetworkFilter

end ContentFilter
