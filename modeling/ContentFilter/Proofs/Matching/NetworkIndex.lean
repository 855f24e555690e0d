import ContentFilter.Matching.FilterList
import ContentFilter.Proofs.Data.Distinct
import ContentFilter.Proofs.Domain.Lineage
import ContentFilter.Proofs.Filter.Parsed

/-! The index of network filters: looking a host up along its parents and then among the filters
without a host gives the filters that a scan of the whole list accepts. -/

namespace ContentFilter

/-- A filter with its compiled expression, unless that does not compile. -/
def NetworkFilter.compiled? (filter : NetworkFilter) : Option CompiledFilter :=
  match filter.regex? with
  | none => some ⟨filter, none⟩
  | some (some regex) => some ⟨filter, some regex⟩
  | some none => none

namespace NetworkIndex

/-- Whether the filter stands where a look-up of the host comes by. -/
def isReached (host : List Char) (compiled : CompiledFilter) : Bool :=
  compiled.filter.hostname.all fun name => name.toList ∈ Domain.lineage host

theorem add_eq (index : NetworkIndex) (filter : NetworkFilter) :
    index.add filter = (filter.compiled?.map index.insert).getD index := by
  unfold add NetworkFilter.compiled?
  cases filter.regex? with
  | none => rfl
  | some regex => cases regex <;> rfl

theorem get_insert (index : NetworkIndex) (compiled : CompiledFilter) (key : String) :
    (index.insert compiled).byHost.get key =
      index.byHost.get key ++ [compiled].filter (·.filter.hostname == some key) := by
  unfold insert
  split
  · next host hhost =>
    simp only [Buckets.get_add, List.filter_cons, hhost]
    by_cases h : host = key <;> simp [h]
  · next hhost => simp [hhost]

theorem unindexed_insert (index : NetworkIndex) (compiled : CompiledFilter) :
    (index.insert compiled).unindexed.toList =
      index.unindexed.toList ++ [compiled].filter (·.filter.hostname == none) := by
  unfold insert
  split
  · next host hhost => simp [hhost]
  · next hhost => simp [hhost]

theorem get_foldl_add (filters : List NetworkFilter) (index : NetworkIndex) (key : String) :
    (filters.foldl add index).byHost.get key = index.byHost.get key ++
      (filters.filterMap (·.compiled?)).filter (·.filter.hostname == some key) := by
  induction filters generalizing index with
  | nil => simp
  | cons filter filters ih =>
    rw [List.foldl_cons, ih, add_eq, List.filterMap_cons]
    cases filter.compiled? with
    | none => rfl
    | some compiled =>
      simp only [Option.map_some, Option.getD_some, get_insert, List.append_assoc,
        ← List.filter_append, List.singleton_append]

theorem unindexed_foldl_add (filters : List NetworkFilter) (index : NetworkIndex) :
    (filters.foldl add index).unindexed.toList = index.unindexed.toList ++
      (filters.filterMap (·.compiled?)).filter (·.filter.hostname == none) := by
  induction filters generalizing index with
  | nil => simp
  | cons filter filters ih =>
    rw [List.foldl_cons, ih, add_eq, List.filterMap_cons]
    cases filter.compiled? with
    | none => rfl
    | some compiled =>
      simp only [Option.map_some, Option.getD_some, unindexed_insert, List.append_assoc,
        ← List.filter_append, List.singleton_append]

end NetworkIndex

section

variable {α : Type}

/-- Two tests that no member passes together select the same members one after the other as at
once. -/
theorem filter_append_filter_perm {p q : α → Bool} {as : List α}
    (h : ∀ a ∈ as, p a = true → q a = false) :
    (as.filter p ++ as.filter q).Perm (as.filter fun a => p a || q a) := by
  have hsplit := List.filter_append_perm p (as.filter fun a => p a || q a)
  rw [List.filter_filter, List.filter_filter] at hsplit
  have hp : as.filter (fun a => p a && (p a || q a)) = as.filter p :=
    List.filter_congr fun a _ => by cases p a <;> simp
  have hq : as.filter (fun a => !p a && (p a || q a)) = as.filter q := by
    refine List.filter_congr fun a ha => ?_
    cases hpa : p a with
    | true => simp [h a ha hpa]
    | false => simp
  rwa [hp, hq] at hsplit

/-- The buckets of different keys hold, together, each member with one of the keys once. -/
theorem flatMap_filter_key_perm {β : Type} [BEq β] [LawfulBEq β] {key : α → Option β}
    {keys : List β} (hkeys : keys.Nodup) (as : List α) :
    (keys.flatMap fun k => as.filter (key · == some k)).Perm
      (as.filter fun a => keys.any (key a == some ·)) := by
  induction keys with
  | nil => simp
  | cons k keys ih =>
    obtain ⟨hk, hkeys⟩ := List.nodup_cons.1 hkeys
    rw [List.flatMap_cons]
    refine ((ih hkeys).append_left _).trans ?_
    refine filter_append_filter_perm fun a _ ha => ?_
    rw [beq_iff_eq] at ha
    rw [List.any_eq_false]
    intro other hother
    rw [ha, beq_iff_eq, Option.some.injEq]
    rintro rfl
    exact hk hother

end

namespace NetworkIndex

/-- A look-up takes the filters of each host on the way up, and then those without one. -/
theorem lookup_build_eq (filters : List NetworkFilter) (host : List Char) :
    (build filters).lookup host =
      ((Domain.lineage host).flatMap fun name =>
        (filters.filterMap (·.compiled?)).filter (·.filter.hostname == some (String.ofList name))) ++
      (filters.filterMap (·.compiled?)).filter (·.filter.hostname == none) := by
  rw [lookup, build, unindexed_foldl_add]
  refine congrArg (· ++ _) (List.flatMap_congr fun name _ => ?_)
  rw [get_foldl_add, Buckets.get_empty, List.nil_append]

/-- A look-up comes by every filter that stands under the host or one of its parents, or under no
host, and by each once. -/
theorem lookup_build_perm (filters : List NetworkFilter) (host : List Char) :
    ((build filters).lookup host).Perm
      ((filters.filterMap (·.compiled?)).filter (isReached host)) := by
  have hbuckets : ((Domain.lineage host).flatMap fun name =>
      (filters.filterMap (·.compiled?)).filter (·.filter.hostname == some (String.ofList name))) =
      ((Domain.lineage host).map String.ofList).flatMap fun key =>
        (filters.filterMap (·.compiled?)).filter (·.filter.hostname == some key) := by
    rw [List.flatMap_map]
  have hnodup : ((Domain.lineage host).map String.ofList).Nodup :=
    (Domain.lineage_nodup host).map fun a b h => String.ofList_injective h
  rw [lookup_build_eq, hbuckets]
  refine ((flatMap_filter_key_perm hnodup _).append_right _).trans ?_
  refine (filter_append_filter_perm fun compiled _ hkey => ?_).trans ?_
  · cases hhost : compiled.filter.hostname with
    | none => simp [hhost] at hkey
    | some name => rfl
  · refine List.Perm.of_eq (List.filter_congr fun compiled _ => ?_)
    cases hhost : compiled.filter.hostname with
    | none => simp [isReached, hhost]
    | some name =>
      rw [Bool.eq_iff_iff]
      simp only [isReached, hhost, Option.all_some, List.any_map, Bool.or_eq_true,
        List.any_eq_true, Function.comp_apply, beq_iff_eq, Option.some.injEq, reduceCtorEq,
        or_false, decide_eq_true_eq]
      constructor
      · rintro ⟨found, hfound, rfl⟩
        rwa [String.toList_ofList]
      · intro hmem
        exact ⟨name.toList, hmem, String.ofList_toList.symm⟩

end NetworkIndex

namespace NetworkFilter

variable {request : Request}

theorem acceptsSource_answers (hsource : Domain.IsAscii request.sourceHostname.toList)
    (filter : NetworkFilter) : ∃ found, filter.acceptsSource request = .ok found := by
  unfold acceptsSource
  split
  · next domains _ =>
    obtain ⟨out, hout⟩ := Domain.isWithinAny_answers hsource (domains.excluded.map String.toList)
    rw [DomainConstraint.allows, hout]
    cases out with
    | true => exact ⟨false, rfl⟩
    | false =>
      by_cases hempty : domains.included.isEmpty
      · exact ⟨true, by simp [hempty, bind, Except.bind, pure, Except.pure]⟩
      · obtain ⟨found, hfound⟩ :=
          Domain.isWithinAny_answers hsource (domains.included.map String.toList)
        exact ⟨found, by simp [hempty, hfound, bind, Except.bind]⟩
  · exact ⟨true, rfl⟩

theorem acceptsUrl_answers {filter : NetworkFilter} (hname : ∀ name, filter.hostname = some name →
      ∃ found, Domain.isWithin request.hostname.toList name.toList = .ok found)
    (regex : Option Regex) : ∃ found, filter.acceptsUrl request regex = .ok found := by
  unfold acceptsUrl
  dsimp only
  split
  · exact ⟨_, rfl⟩
  split
  · next name hhostname =>
    obtain ⟨found, hfound⟩ := hname name hhostname
    rw [hfound]
    cases found with
    | true =>
      by_cases hempty : (Text.Utf8.encode filter.pattern.toList).isEmpty
      · exact ⟨true, by simp [hempty, bind, Except.bind, pure, Except.pure]⟩
      · exact ⟨_, by simp [hempty, bind, Except.bind, pure, Except.pure]; rfl⟩
    | false => exact ⟨false, rfl⟩
  · split
    · exact ⟨_, rfl⟩
    split
    · exact ⟨_, rfl⟩
    · exact ⟨_, rfl⟩

/-- Between hosts of single bytes a filter always accepts or refuses. -/
theorem accepts_answers (hhost : Domain.IsAscii request.hostname.toList)
    (hsource : Domain.IsAscii request.sourceHostname.toList) (filter : NetworkFilter)
    (regex : Option Regex) : ∃ found, filter.accepts request regex = .ok found := by
  unfold accepts
  split
  · obtain ⟨source, hsource⟩ := acceptsSource_answers hsource filter
    rw [hsource]
    cases source with
    | true => exact acceptsUrl_answers (fun name _ => Domain.isWithin_answers hhost name.toList) regex
    | false => exact ⟨false, rfl⟩
  · exact ⟨false, rfl⟩

theorem acceptsUrl_of_accepts {filter : NetworkFilter} {regex : Option Regex}
    (h : filter.accepts request regex = .ok true) : filter.acceptsUrl request regex = .ok true := by
  unfold accepts at h
  split at h
  · obtain ⟨source, -, h⟩ := ok_of_bind h
    split at h
    · exact h
    · cases h
  · cases h

/-- A filter that accepts a request has an expression that compiles, if it has one. -/
theorem compiled?_of_accepts {filter : NetworkFilter}
    (h : filter.accepts request filter.regex?.join = .ok true) :
    filter.compiled? = some ⟨filter, filter.regex?.join⟩ := by
  have hurl := acceptsUrl_of_accepts h
  unfold compiled?
  split
  · next hnone => simp [hnone]
  · next regex hsome => simp [hsome]
  · next hbroken =>
    have hregex : filter.isRegex = true := by
      unfold regex? at hbroken
      split at hbroken
      · assumption
      · cases hbroken
    simp [acceptsUrl, hregex, hbroken] at hurl

/-- A filter with a host accepts only requests to that host and its subdomains, which are those
whose look-up comes by. -/
theorem isReached_of_accepts {filter : NetworkFilter} {regex : Option Regex}
    (hfilter : filter.WellFormed) (hhost : Domain.IsAscii request.hostname.toList)
    (hlow : Text.lower request.hostname.toList = request.hostname.toList)
    (h : filter.accepts request regex = .ok true) :
    NetworkIndex.isReached request.hostname.toList ⟨filter, regex⟩ = true := by
  have hurl := acceptsUrl_of_accepts h
  unfold NetworkIndex.isReached
  cases hname : filter.hostname with
  | none => rfl
  | some name =>
    have hplain : filter.isRegex = false := by
      cases hregex : filter.isRegex with
      | false => rfl
      | true =>
        rw [hfilter.noHost hregex] at hname
        cases hname
    simp only [acceptsUrl, hplain, hname] at hurl
    rw [Domain.isWithin_of_ascii hhost hlow (hfilter.lower name hname)] at hurl
    by_contra hnot
    simp only [Option.all_some, Bool.not_eq_true] at hnot
    rw [hnot] at hurl
    cases hurl

end NetworkFilter

end ContentFilter
