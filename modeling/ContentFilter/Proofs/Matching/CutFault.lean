import ContentFilter.Proofs.Data.Traverse
import ContentFilter.Proofs.Domain.Registrable
import ContentFilter.Proofs.Engine.Restore
import ContentFilter.Proofs.Matching.Answers

/-! When an engine cuts a host inside a character, and so gives no answer: where the test that one name
lies within another would cut a character in two. -/

namespace ContentFilter

namespace Text

variable {s : List Char} {n : Nat}

/-- The byte offset stands between two characters, or at an end. -/
def IsBoundary (s : List Char) (n : Nat) : Prop :=
  ∃ before after, s = before ++ after ∧ Utf8.size before = n

theorem isBoundary_zero : IsBoundary s 0 := ⟨[], s, rfl, rfl⟩

theorem isBoundary_of_suffix {ending : List Char} (h : ending <:+ s) :
    IsBoundary s (Utf8.size s - Utf8.size ending) := by
  obtain ⟨before, rfl⟩ := h
  refine ⟨before, ending, rfl, ?_⟩
  rw [Utf8.size_append]
  omega

theorem exists_cutAt_iff : (∃ sides, cutAt s n = .ok sides) ↔ IsBoundary s n := by
  constructor
  · rintro ⟨⟨before, after⟩, h⟩
    obtain ⟨hsplit, hsize⟩ := eq_append_of_cutAt h
    exact ⟨before, after, hsplit, hsize⟩
  · rintro ⟨before, after, rfl, rfl⟩
    exact ⟨(before, after), cutAt_size_append before after⟩

end Text

namespace Domain

open Text (IsBoundary)

variable {host domain : List Char} {domains others : List (List Char)}

/-- The end of the host that is as long as the other name starts inside a character. -/
structure CutsInside (host domain : List Char) : Prop where
  nonempty : domain ≠ []
  fits : Text.Utf8.size domain ≤ Text.Utf8.size host
  inside : ¬ IsBoundary host (Text.Utf8.size host - Text.Utf8.size domain)

theorem exists_isWithin_iff : (∃ found, isWithin host domain = .ok found) ↔ ¬ CutsInside host domain := by
  unfold isWithin
  split
  · next hshort =>
    refine iff_of_true ⟨false, rfl⟩ fun hcuts => ?_
    have hempty : domain.isEmpty = false := by simpa using hcuts.nonempty
    rw [hempty, Bool.false_or, decide_eq_true_eq] at hshort
    exact absurd hcuts.fits (Nat.not_le.2 hshort)
  · next hlong =>
    rw [Bool.or_eq_true, not_or, List.isEmpty_iff, decide_eq_true_eq, Nat.not_lt] at hlong
    refine (exists_bind_iff.trans (exists_congr fun sides => and_iff_left ⟨_, rfl⟩)).trans ?_
    rw [Text.exists_cutAt_iff]
    constructor
    · exact fun hboundary hcuts => hcuts.inside hboundary
    · exact fun hnot => by_contra fun hboundary => hnot ⟨hlong.1, hlong.2, hboundary⟩

/-- Of names that are tried in turn, one cuts a character of the host in two, and the host lies within
none of those before it. -/
def CutsAmong (host : List Char) : List (List Char) → Prop
  | [] => False
  | domain :: domains => CutsInside host domain ∨ isWithin host domain = .ok false ∧ CutsAmong host domains

theorem exists_isWithinAny_iff :
    (∃ found, isWithinAny host domains = .ok found) ↔ ¬ CutsAmong host domains := by
  induction domains with
  | nil => exact iff_of_true ⟨false, rfl⟩ id
  | cons domain domains ih =>
    rw [isWithinAny, exists_bind_iff, CutsAmong, not_or, ← exists_isWithin_iff]
    constructor
    · rintro ⟨found, hfound, hrest⟩
      refine ⟨⟨found, hfound⟩, ?_⟩
      rintro ⟨hfalse, hcuts⟩
      obtain rfl := Except.ok.inj (hfalse.symm.trans hfound)
      exact ih.1 hrest hcuts
    · rintro ⟨⟨found, hfound⟩, hrest⟩
      refine ⟨found, hfound, ?_⟩
      cases found with
      | true => exact ⟨true, rfl⟩
      | false => exact ih.2 fun hcuts => hrest ⟨hfound, hcuts⟩

/-- Names after others are tried when the host lies within none of those. -/
theorem cutsAmong_append : CutsAmong host (domains ++ others) ↔
    CutsAmong host domains ∨ isWithinAny host domains = .ok false ∧ CutsAmong host others := by
  induction domains with
  | nil => simp [CutsAmong, isWithinAny, pure, Except.pure]
  | cons domain domains ih =>
    have hnone : isWithinAny host (domain :: domains) = .ok false ↔
        isWithin host domain = .ok false ∧ isWithinAny host domains = .ok false := by
      rw [isWithinAny]
      cases hfirst : isWithin host domain with
      | error fault => exact iff_of_false (by rintro ⟨⟩) (by rintro ⟨⟨⟩, -⟩)
      | ok found => cases found <;> simp [bind, Except.bind, pure, Except.pure]
    rw [List.cons_append, CutsAmong, CutsAmong, ih, hnone, and_or_left, or_assoc, and_assoc]

/-- A host may lie within one of some names unless there are none, and within none of those before. -/
theorem exists_allowed_iff {anywhere : Bool} (hnone : anywhere = true → others = []) :
    (∃ found, (do
      if ← isWithinAny host domains then pure false
      else if anywhere then pure true
      else isWithinAny host others) = .ok found) ↔ ¬ CutsAmong host (domains ++ others) := by
  have hothers : (∃ found, (if anywhere then pure true else isWithinAny host others) = .ok found) ↔
      ¬ CutsAmong host others := by
    cases anywhere with
    | true => exact iff_of_true ⟨true, rfl⟩ (by rw [hnone rfl]; exact id)
    | false => exact exists_isWithinAny_iff
  rw [cutsAmong_append, not_or, ← exists_isWithinAny_iff, exists_bind_iff]
  constructor
  · rintro ⟨found, hfound, hrest⟩
    refine ⟨⟨found, hfound⟩, ?_⟩
    rintro ⟨hfalse, hcuts⟩
    obtain rfl := Except.ok.inj (hfalse.symm.trans hfound)
    exact hothers.1 hrest hcuts
  · rintro ⟨⟨found, hfound⟩, hrest⟩
    refine ⟨found, hfound, ?_⟩
    cases found with
    | true => exact ⟨false, rfl⟩
    | false => exact hothers.2 fun hcuts => hrest ⟨hfound, hcuts⟩

/-- A host is not cut by itself or by its parents. -/
theorem not_cutsInside_of_mem_lineage (h : domain ∈ lineage host) : ¬ CutsInside host domain := by
  intro hcuts
  exact hcuts.inside (Text.isBoundary_of_suffix (suffix_of_mem_lineage h))

end Domain

open Domain (CutsInside CutsAmong)

variable {suffixes : Option Domain.PublicSuffixes} {host : List Char}

theorem DomainConstraint.exists_allows_iff {domains : DomainConstraint} :
    (∃ found, domains.allows host = .ok found) ↔
      ¬ CutsAmong host ((domains.excluded ++ domains.included).map String.toList) := by
  rw [List.map_append, allows]
  refine Domain.exists_allowed_iff fun hnone => ?_
  rw [List.isEmpty_iff.1 hnone, List.map_nil]

namespace NetworkFilter

variable {filter : NetworkFilter} {request : Request} {regex : Option Regex}

/-- A filter that the host of a request leads to cuts the source of the request inside a character. -/
structure CutsSource (request : Request) (filter : NetworkFilter) : Prop where
  compiles : filter.regex? ≠ some none
  reached : ∀ name, filter.hostname = some name → name.toList ∈ Domain.lineage request.hostname.toList
  kind : filter.acceptsKind request = true
  cuts : ∃ domains, filter.domains = some domains ∧
    CutsAmong request.sourceHostname.toList ((domains.excluded ++ domains.included).map String.toList)

theorem exists_acceptsSource_iff : (∃ found, filter.acceptsSource request = .ok found) ↔
    ¬ ∃ domains, filter.domains = some domains ∧ CutsAmong request.sourceHostname.toList
      ((domains.excluded ++ domains.included).map String.toList) := by
  unfold acceptsSource
  cases filter.domains with
  | none => exact iff_of_true ⟨true, rfl⟩ nofun
  | some domains =>
    refine DomainConstraint.exists_allows_iff.trans (not_congr ?_)
    constructor
    · exact fun hcuts => ⟨domains, rfl, hcuts⟩
    · rintro ⟨_, ⟨⟩, hcuts⟩
      exact hcuts

/-- The host of a request is not cut by a name that it leads to, so only the source can be. -/
theorem exists_accepts_iff (hreached : ∀ name, filter.hostname = some name →
      name.toList ∈ Domain.lineage request.hostname.toList) :
    (∃ found, filter.accepts request regex = .ok found) ↔
      ¬ (filter.acceptsKind request = true ∧ ∃ domains, filter.domains = some domains ∧
        CutsAmong request.sourceHostname.toList
          ((domains.excluded ++ domains.included).map String.toList)) := by
  have hurl : ∃ found, filter.acceptsUrl request regex = .ok found :=
    acceptsUrl_answers (fun name hname => Domain.exists_isWithin_iff.2
      (Domain.not_cutsInside_of_mem_lineage (hreached name hname))) regex
  unfold accepts
  split
  · next hkind =>
    rw [hkind, eq_self, true_and, ← exists_acceptsSource_iff, exists_bind_iff]
    constructor
    · rintro ⟨found, hfound, -⟩
      exact ⟨found, hfound⟩
    · rintro ⟨found, hfound⟩
      refine ⟨found, hfound, ?_⟩
      cases found with
      | true => exact hurl
      | false => exact ⟨false, rfl⟩
  · next hkind => exact iff_of_true ⟨false, rfl⟩ fun hcuts => hkind hcuts.1

end NetworkFilter

namespace CosmeticFilter

variable {filter : CosmeticFilter} {query : CosmeticQuery}

/-- The name that a pattern stands for on pages of a host; an entity ends like the host. -/
def nameOn? (suffixes : Option Domain.PublicSuffixes) (host pattern : List Char) :
    Option (List Char) :=
  match Text.dropEnd? ".*" pattern with
  | some entity =>
    (Text.cut? ['.'] (Domain.registrable suffixes host)).map fun (_, suffix) => entity ++ '.' :: suffix
  | none => some pattern

theorem hostMatches_eq (pattern : List Char) : hostMatches suffixes host pattern =
    match nameOn? suffixes host pattern with
    | some name => Domain.isWithin host name
    | none => .ok false := by
  unfold hostMatches nameOn?
  cases Text.dropEnd? ".*" pattern with
  | none => rfl
  | some entity => cases Text.cut? ['.'] (Domain.registrable suffixes host) <;> rfl

theorem anyM_hostMatches (patterns : List String) :
    patterns.anyM (fun pattern => hostMatches suffixes host pattern.toList) =
      Domain.isWithinAny host (patterns.filterMap fun pattern => nameOn? suffixes host pattern.toList) := by
  induction patterns with
  | nil => rfl
  | cons pattern patterns ih =>
    rw [List.anyM, hostMatches_eq, List.filterMap_cons, ih]
    cases nameOn? suffixes host pattern.toList with
    | none => rfl
    | some name =>
      dsimp only
      rw [Domain.isWithinAny]
      refine bind_congr fun found => ?_
      cases found <;> rfl

/-- The names that a filter compares the host of a page with, in turn. -/
def namesOn (suffixes : Option Domain.PublicSuffixes) (host : List Char) (filter : CosmeticFilter) :
    List (List Char) :=
  (filter.notHostnames ++ filter.hostnames).filterMap fun pattern => nameOn? suffixes host pattern.toList

theorem exists_appliesTo_iff : (∃ found, filter.appliesTo suffixes host = .ok found) ↔
    ¬ CutsAmong host (filter.namesOn suffixes host) := by
  unfold appliesTo
  dsimp only
  rw [namesOn, List.filterMap_append, anyM_hostMatches, anyM_hostMatches]
  refine Domain.exists_allowed_iff fun hnone => ?_
  rw [List.isEmpty_iff.1 hnone, List.filterMap_nil]

end CosmeticFilter

/-- Taking the suffix off the host or one of its parents, for the keys `name.*`, cuts a character in
two. -/
def Domain.CutsEntity (suffixes : Option Domain.PublicSuffixes) (host : List Char) : Prop :=
  ∃ label suffix, Text.cut? ['.'] (Domain.registrable suffixes host) = some (label, suffix) ∧
    ∃ name ∈ Domain.toRegistrable suffixes host, CutsInside name ('.' :: suffix)

namespace CosmeticIndex

theorem exists_entityKeys_iff : (∃ keys, entityKeys suffixes host = .ok keys) ↔
    ¬ Domain.CutsEntity suffixes host := by
  unfold entityKeys Domain.CutsEntity
  cases Text.cut? ['.'] (Domain.registrable suffixes host) with
  | none => exact iff_of_true ⟨[], rfl⟩ nofun
  | some found =>
    obtain ⟨label, suffix⟩ := found
    dsimp only
    have hpoint : Text.Utf8.size ('.' :: suffix) = Text.Utf8.size suffix + 1 := Nat.add_comm 1 _
    have hcuts : (∃ label' suffix', some (label, suffix) = some (label', suffix') ∧
        ∃ name ∈ Domain.toRegistrable suffixes host, CutsInside name ('.' :: suffix')) ↔
        ∃ name ∈ Domain.toRegistrable suffixes host, CutsInside name ('.' :: suffix) := by
      constructor
      · rintro ⟨_, _, ⟨⟩, hcuts⟩
        exact hcuts
      · exact fun hcuts => ⟨label, suffix, rfl, hcuts⟩
    rw [hcuts, exists_mapM_iff]
    constructor
    · rintro h ⟨name, hname, hcuts⟩
      obtain ⟨hne, hfits, hinside⟩ := hcuts
      rw [hpoint] at hfits hinside
      -- a name as short as the suffix is cut at its start
      have hlong : Text.Utf8.size suffix + 1 < Text.Utf8.size name := by
        refine lt_of_le_of_ne hfits fun heq => hinside ?_
        rw [heq, Nat.sub_self]
        exact Text.isBoundary_zero
      obtain ⟨key, hkey⟩ := h name (List.mem_filter.2 ⟨hname, decide_eq_true hlong⟩)
      obtain ⟨sides, hsides, -⟩ := ok_of_map hkey
      exact hinside (Text.exists_cutAt_iff.1 ⟨sides, hsides⟩)
    · intro h name hname
      obtain ⟨hname, hlong⟩ := List.mem_filter.1 hname
      have hlong := of_decide_eq_true hlong
      have hboundary : Text.IsBoundary name (Text.Utf8.size name - (Text.Utf8.size suffix + 1)) := by
        by_contra hinside
        rw [← hpoint] at hinside hlong
        exact h ⟨name, hname, List.cons_ne_nil _ _, hlong.le, hinside⟩
      obtain ⟨sides, hsides⟩ := Text.exists_cutAt_iff.2 hboundary
      exact ⟨_, by rw [hsides]; rfl⟩

theorem exists_hostKeys_iff : (∃ keys, hostKeys suffixes host = .ok keys) ↔
    ¬ Domain.CutsEntity suffixes host := by
  rw [← exists_entityKeys_iff, hostKeys]
  split
  · next hempty =>
    rw [List.isEmpty_iff.1 hempty]
    exact iff_of_true ⟨[], rfl⟩ ⟨[], rfl⟩
  · exact exists_bind_pure_iff

end CosmeticIndex

/-- A filter that a query for a page leads to cuts the host of the page inside a character. -/
structure CosmeticFilter.CutsHost (suffixes : Option Domain.PublicSuffixes) (query : CosmeticQuery)
    (filter : CosmeticFilter) : Prop where
  sought : ∃ keys, CosmeticIndex.hostKeys suffixes query.hostname.toList = .ok keys ∧
    ∃ slot ∈ CosmeticIndex.slotsOf filter, CosmeticIndex.Asks query keys slot
  cuts : CutsAmong query.hostname.toList (filter.namesOn suffixes query.hostname.toList)

/-- The search for the cosmetic filters of a page, or one that it finds, cuts the host of the page. -/
def FilterList.CutsHost (suffixes : Option Domain.PublicSuffixes) (list : FilterList)
    (query : CosmeticQuery) : Prop :=
  Domain.CutsEntity suffixes query.hostname.toList ∨
    ∃ filter ∈ list.cosmetic, filter.CutsHost suffixes query

theorem FilterList.exists_collectCosmetics_iff_cuts {list : FilterList} {query : CosmeticQuery} :
    (∃ found, list.collectCosmetics suffixes query = .ok found) ↔ ¬ list.CutsHost suffixes query := by
  rw [exists_collectCosmetics_iff, CutsHost, not_or, ← CosmeticIndex.exists_hostKeys_iff]
  constructor
  · rintro ⟨keys, hkeys, h⟩
    refine ⟨⟨keys, hkeys⟩, ?_⟩
    rintro ⟨filter, hfilter, ⟨keys', hkeys', hasks⟩, hcuts⟩
    obtain rfl := Except.ok.inj (hkeys.symm.trans hkeys')
    exact CosmeticFilter.exists_appliesTo_iff.1 (h filter hfilter hasks) hcuts
  · rintro ⟨⟨keys, hkeys⟩, h⟩
    refine ⟨keys, hkeys, fun filter hfilter hasks => CosmeticFilter.exists_appliesTo_iff.2 ?_⟩
    exact fun hcuts => h ⟨filter, hfilter, ⟨keys, hkeys, hasks⟩, hcuts⟩

/-- Some filter of the list cuts the source of the request. -/
def FilterList.CutsSource (list : FilterList) (request : Request) : Prop :=
  ∃ filter ∈ list.network, filter.CutsSource request

theorem NetworkFilter.compiled?_eq_some {filter : NetworkFilter} {compiled : CompiledFilter} :
    filter.compiled? = some compiled ↔
      filter.regex? ≠ some none ∧ compiled = ⟨filter, filter.regex?.join⟩ := by
  unfold compiled?
  cases filter.regex? with
  | none => simp [eq_comm]
  | some regex => cases regex <;> simp [eq_comm]

theorem NetworkIndex.isReached_iff {compiled : CompiledFilter} : isReached host compiled = true ↔
    ∀ name, compiled.filter.hostname = some name → name.toList ∈ Domain.lineage host := by
  rw [isReached, Option.all_eq_true]
  simp only [decide_eq_true_eq]

theorem FilterList.exists_collectNetwork_iff_cuts {list : FilterList} {request : Request} :
    (∃ found, list.collectNetwork request = .ok found) ↔ ¬ list.CutsSource request := by
  rw [exists_collectNetwork_iff]
  constructor
  · rintro h ⟨filter, hfilter, hcuts⟩
    have hanswer := h filter hfilter ⟨filter, filter.regex?.join⟩
      (NetworkFilter.compiled?_eq_some.2 ⟨hcuts.compiles, rfl⟩)
      (NetworkIndex.isReached_iff.2 hcuts.reached)
    exact (NetworkFilter.exists_accepts_iff hcuts.reached).1 hanswer ⟨hcuts.kind, hcuts.cuts⟩
  · intro h filter hfilter compiled hcompiled hreached
    obtain ⟨hcompiles, rfl⟩ := NetworkFilter.compiled?_eq_some.1 hcompiled
    have hreached := NetworkIndex.isReached_iff.1 hreached
    refine (NetworkFilter.exists_accepts_iff hreached).2 ?_
    rintro ⟨hkind, hcuts⟩
    exact h ⟨filter, hfilter, hcompiles, hreached, hkind, hcuts⟩

namespace Engine

variable {engine : Engine}

/-- An engine gives an answer unless a filter of a list cuts a host inside a character: for a request, the
host of its source by a domain that a filter is limited to; for a page and for a response, the host of
the page by a name of a cosmetic filter or by its own public suffix. -/
theorem answers_iff (suffixes : Option Domain.PublicSuffixes) (engine : Engine) :
    (∀ request, (∃ found, engine.matchRequest request = .ok found) ↔
      ∀ list ∈ engine.lists, ¬ list.CutsSource request) ∧
    (∀ query, (∃ found, engine.matchCosmetics suffixes query = .ok found) ↔
      ∀ list ∈ engine.lists,
        ¬ list.CutsSource (.page suffixes query.url) ∧ ¬ list.CutsHost suffixes query) ∧
    ∀ request, (∃ found, engine.matchResponse suffixes request = .ok found) ↔
      ∀ list ∈ engine.lists,
        ¬ list.CutsSource request ∧ ¬ list.CutsHost suffixes (.bootstrap request.url) := by
  have hnetwork (request : Request) : (∃ found, engine.collectNetwork request = .ok found) ↔
      ∀ list ∈ engine.lists, ¬ list.CutsSource request :=
    exists_collectNetwork_iff.trans
      (forall₂_congr fun _ _ => FilterList.exists_collectNetwork_iff_cuts)
  have hcosmetics (query : CosmeticQuery) :
      (∃ found, engine.collectCosmetics suffixes query = .ok found) ↔
        ∀ list ∈ engine.lists, ¬ list.CutsHost suffixes query :=
    exists_collectCosmetics_iff.trans
      (forall₂_congr fun _ _ => FilterList.exists_collectCosmetics_iff_cuts)
  refine ⟨fun request => ?_, fun query => ?_, fun request => ?_⟩
  · rw [exists_matchRequest_iff, hnetwork]
  · rw [exists_matchCosmetics_iff, hnetwork, hcosmetics, forall₂_and]
  · rw [exists_matchResponse_iff, hnetwork, hcosmetics, forall₂_and]

def limitedFilter : NetworkFilter where
  raw := "||x.com^$domain=a.com"
  action := .block
  flags := Flag.hostAnchor.set
  hostname := some "x.com"
  pattern := "^"
  kinds := .empty
  parties := .empty
  domains := some ⟨["a.com"], []⟩
  redirect := none
  csp := none

/-- A source of one character more than the domain, and of two bytes in its first one. -/
def oddRequest : Request := .ofBrowser none "https://x.com/" (some "https://é.com/") "script"

theorem matchRequest_cuts_source : (compile 0 "limited" "||x.com^$domain=a.com").1.Built ∧
    (compile 0 "limited" "||x.com^$domain=a.com").1.matchRequest oddRequest =
      .error .insideCharacter := by
  refine ⟨.compile _ _ _, ?_⟩
  have hlist : (FilterList.parse "limited" limitedFilter.raw).1 =
      .ofContent ⟨"limited", contentDigest limitedFilter.raw, [limitedFilter], []⟩ :=
    FilterList.parse_eq "limited" (by decide +kernel) (by decide +kernel) (by decide) (by decide)
  have hwithin : Domain.isWithin oddRequest.sourceHostname.toList "a.com".toList =
      .error .insideCharacter := by
    decide +kernel
  have hcuts : CutsInside oddRequest.sourceHostname.toList "a.com".toList := by
    by_contra hnot
    obtain ⟨found, hfound⟩ := Domain.exists_isWithin_iff.2 hnot
    cases hwithin.symm.trans hfound
  have hreached : ∀ name, limitedFilter.hostname = some name →
      name.toList ∈ Domain.lineage oddRequest.hostname.toList := by
    rintro name ⟨⟩
    decide +kernel
  have hplain : limitedFilter.regex? = none := rfl
  have hsource : limitedFilter.CutsSource oddRequest :=
    ⟨by rw [hplain]; exact nofun, hreached, by decide +kernel, _, rfl, .inl hcuts⟩
  have hmem : limitedFilter ∈ (FilterList.parse "limited" limitedFilter.raw).1.network := by
    rw [hlist]
    exact List.mem_singleton_self limitedFilter
  cases hmatch : (compile 0 "limited" "||x.com^$domain=a.com").1.matchRequest oddRequest with
  | error fault =>
    cases fault
    rfl
  | ok found =>
    obtain ⟨candidates, hcandidates⟩ := exists_matchRequest_iff.1 ⟨found, hmatch⟩
    exact absurd ⟨limitedFilter, hmem, hsource⟩ (FilterList.exists_collectNetwork_iff_cuts.1
      (exists_collectNetwork_iff.1 ⟨candidates, hcandidates⟩ _ (List.mem_singleton_self _)))

end Engine

end ContentFilter
