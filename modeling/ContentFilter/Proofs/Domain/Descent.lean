import ContentFilter.Proofs.Domain.Subdomains
import Mathlib.Data.List.Chain

/-! The way of a host over its parents down to the registrable domain. It always comes by the domain, and ends
there unless the host has a parent and a point at its end: lengths are compared with points on one side only. -/

namespace ContentFilter.Domain

variable {host name other : List Char} {names labels : List (List Char)}

/-- The host comes first, and each name is followed by its parent. -/
structure IsDescent (host : List Char) (names : List (List Char)) : Prop where
  first : names.head? = some host
  next : names.IsChain fun name parent => parent? name = some parent

/-- The last name is the domain, letter case and points at the end aside. -/
def EndsAt (domain : List Char) (names : List (List Char)) : Prop :=
  names.getLast?.map canonical = some (canonical domain)

instance : Decidable (EndsAt name names) := inferInstanceAs (Decidable (_ = _))

/-- A list of names that has the domain once ends there just when nothing follows. -/
theorem endsAt_iff {domain : List Char} {past : List (List Char)} (hname : canonical name = canonical domain)
    (hpast : ∀ other ∈ past, canonical other ≠ canonical domain) :
    EndsAt domain (names ++ name :: past) ↔ past = [] := by
  rw [EndsAt, List.getLast?_append_of_ne_nil names (List.cons_ne_nil name past)]
  rcases List.eq_nil_or_concat past with rfl | ⟨front, last, rfl⟩
  · simp [hname]
  · have hlast := hpast last (by simp)
    rw [List.getLast?_cons_of_ne_nil] <;> simp [hlast]

section Parents

theorem isChain_ancestors (host : List Char) :
    (host :: ancestors host).IsChain fun name parent => parent? name = some parent := by
  rw [ancestors_eq]
  cases h : parent? host with
  | none => simp
  | some parent =>
    have hmem : parent ∈ ancestors host := by simp [ancestors_eq host, h]
    have hshorter := length_lt_of_mem_ancestors hmem
    exact List.isChain_cons_cons.2 ⟨h, isChain_ancestors parent⟩
termination_by host.length

/-- Names cut off at a length are still the host and its parents. -/
theorem isDescent_upTo (hne : host ≠ []) (limit : Nat) : IsDescent host (upTo limit (lineage host)) where
  first := by simp [lineage_of_ne_nil hne, upTo]
  next := by
    rw [lineage_of_ne_nil hne]
    exact List.IsChain.prefix (isChain_ancestors host) (prefix_upTo limit _)

end Parents

section Canonical

theorem canonical_append_point (front : List Char) (h : canonical name ≠ []) :
    canonical (front ++ '.' :: name) = Text.lower front ++ '.' :: canonical name := by
  have hname : name.all (· == '.') = false := by
    rw [Bool.eq_false_iff]
    intro hall
    have hnil : canonical ([] ++ name) = [] := canonical_append nofun (by simpa using hall)
    exact h hnil
  have hpoint : ('.' : Char).toLower = '.' := by decide
  have happend : front ++ '.' :: name = (front ++ ['.']) ++ name := by simp
  rw [canonical, happend, Text.dropEndWhile_append, hname]
  simp [canonical, Text.lower, hpoint]

/-- Canonical forms are parents as the names are. -/
theorem mem_ancestors_canonical (h : name ∈ ancestors host) (hne : canonical name ≠ []) :
    canonical name ∈ ancestors (canonical host) := by
  obtain ⟨-, front, rfl⟩ := mem_ancestors.1 h
  rw [canonical_append_point front hne]
  exact mem_ancestors.2 ⟨hne, Text.lower front, rfl⟩

theorem canonical_ne_nil (h : ∃ c ∈ name, c ≠ '.') : canonical name ≠ [] := by
  obtain ⟨c, hc, hpoint⟩ := h
  obtain ⟨stem, points, rfl, hpoints, -, hcanonical⟩ := exists_points name
  have hmem : c ∈ stem := (List.mem_append.1 hc).resolve_right fun hc => hpoint (hpoints c hc)
  rw [hcanonical, Text.lower, ne_eq, List.map_eq_nil_iff]
  exact List.ne_nil_of_mem hmem

/-- A parent does not lie within the name, points at their ends aside. -/
theorem canonical_not_mem_lineage (h : other ∈ ancestors name) :
    canonical name ∉ lineage (canonical other) := by
  intro hmem
  have hne : canonical other ≠ [] := by
    intro hnil
    rw [hnil] at hmem
    cases hmem
  have hshorter := length_lt_of_mem_ancestors (mem_ancestors_canonical h hne)
  have hlonger := (suffix_of_mem_lineage hmem).length_le
  omega

/-- Every parent of a canonical form is the canonical form of a parent. -/
theorem exists_canonical (h : other ∈ lineage (canonical host)) :
    ∃ name ∈ lineage host, canonical name = other := by
  obtain ⟨stem, points, rfl, hpoints, hlast, hcanonical⟩ := exists_points host
  rw [hcanonical, lineage_lower, List.mem_map] at h
  obtain ⟨name, hname, rfl⟩ := h
  obtain ⟨hne, hshape⟩ := mem_lineage.1 hname
  have hend : name.getLast? ≠ some '.' := by rwa [getLast?_of_mem_lineage hname]
  refine ⟨name ++ points, mem_lineage.2 ⟨by simp [hne], ?_⟩, canonical_append hend hpoints⟩
  rcases hshape with rfl | ⟨front, rfl⟩
  · exact .inl rfl
  · exact .inr ⟨front, by simp⟩

theorem size_canonical_le (name : List Char) : Text.Utf8.size (canonical name) ≤ Text.Utf8.size name := by
  obtain ⟨stem, points, rfl, -, -, hcanonical⟩ := exists_points name
  rw [hcanonical, Text.size_lower, Text.Utf8.size_append]
  omega

/-- The canonical form is shorter just when there is a point at the end. -/
theorem size_canonical_lt :
    Text.Utf8.size (canonical name) < Text.Utf8.size name ↔ name.getLast? = some '.' := by
  constructor
  · intro hshort
    by_contra hlast
    rw [canonical_of_last hlast, Text.size_lower] at hshort
    exact Nat.lt_irrefl _ hshort
  · intro hlast
    obtain ⟨stem, points, rfl, -, hstem, hcanonical⟩ := exists_points name
    rw [hcanonical, Text.size_lower, Text.Utf8.size_append]
    cases points with
    | nil =>
      rw [List.append_nil] at hlast
      exact absurd hlast hstem
    | cons c points =>
      have hc := c.utf8Size_pos
      simp only [Text.Utf8.size_cons]
      omega

theorem point_not_mem_canonical (h : parent? name = none) : '.' ∉ canonical name := by
  intro hpoint
  obtain ⟨front, parent, heq⟩ := List.append_of_mem hpoint
  have hne : parent ≠ [] := by
    rintro rfl
    apply canonical_last name
    simp [heq]
  have hparent : parent ∈ ancestors (canonical name) := mem_ancestors.2 ⟨hne, front, heq⟩
  obtain ⟨same, hsame, rfl⟩ := exists_canonical (mem_lineage.2 ⟨hne, .inr ⟨front, heq⟩⟩)
  -- the name is alone in its lineage, and is not its own parent
  have hname : same = name := by
    obtain ⟨hne', rfl | hshape⟩ := mem_lineage.1 hsame
    · rfl
    · have hmem := mem_ancestors.2 ⟨hne', hshape⟩
      simp [ancestors_eq_nil.2 h] at hmem
  rw [hname] at hparent
  exact Nat.lt_irrefl _ (length_lt_of_mem_ancestors hparent)

end Canonical

section Labels

variable {tree : SuffixTree} {m n : Nat}

theorem SuffixTree.walk_pos (hm : 0 < m) (hn : 0 < n) (labels : List (List Char)) :
    0 < tree.walk m n labels := by
  induction labels generalizing tree m n with
  | nil => exact hm
  | cons label labels ih =>
    rw [walk]
    split
    · exact hm
    · split
      · exact hn
      · exact ih (Nat.succ_pos n) (Nat.succ_pos n)
      · exact ih hm (Nat.succ_pos n)

theorem SuffixTree.suffixLength_pos (h : labels ≠ []) : 0 < tree.suffixLength labels := by
  cases labels with
  | nil => exact absurd rfl h
  | cons top labels =>
    rw [suffixLength]
    split
    · exact Nat.one_pos
    · exact walk_pos Nat.one_pos Nat.one_pos labels

theorem point_mem_joinLabels (h : 2 ≤ labels.length) : '.' ∈ joinLabels labels := by
  match labels, h with
  | first :: second :: labels, _ => simp [joinLabels, List.intercalate_cons_cons]

theorem lastLabels_eq_or_point (hn : 2 ≤ n) (host : List Char) :
    joinLabels (lastLabels n (Text.splitOn '.' host)) = host ∨
      '.' ∈ joinLabels (lastLabels n (Text.splitOn '.' host)) := by
  by_cases hshort : (Text.splitOn '.' host).length ≤ n
  · left
    rw [lastLabels_of_length_le hshort, joinLabels_splitOn]
  · right
    apply point_mem_joinLabels
    rw [length_lastLabels]
    omega

/-- A host that is not its own registrable domain has one of at least two labels. -/
theorem registrable_eq_or_point (suffixes : Option PublicSuffixes) (host : List Char) :
    registrable suffixes host = canonical host ∨ '.' ∈ registrable suffixes host := by
  by_cases hliteral : isLiteral (canonical host) = true
  · exact .inl (registrable_of_literal suffixes hliteral)
  rw [Bool.not_eq_true] at hliteral
  cases suffixes with
  | none =>
    have hdepth : 2 ≤ depth (Text.splitOn '.' (canonical host)) := by
      unfold depth
      split <;> decide
    rw [registrable_none hliteral, commonRegistrable_eq]
    exact lastLabels_eq_or_point hdepth _
  | some suffixes =>
    have hpos : 0 < suffixes.tree.suffixLength (Text.splitOn '.' (canonical host)).reverse :=
      SuffixTree.suffixLength_pos (List.reverse_ne_nil_iff.2 (List.splitOn_ne_nil '.' _))
    simp only [registrable, hliteral, Bool.false_eq_true, if_false, PublicSuffixes.registrable]
    split
    · exact .inl rfl
    · exact lastLabels_eq_or_point (by omega) _

end Labels

section Descent

variable {suffixes : Option PublicSuffixes}

/-- Only the host itself can be without parents and have its registrable domain. -/
theorem parent?_eq_none_iff (hmem : name ∈ lineage host) (hne : canonical name ≠ [])
    (hname : canonical name = registrable suffixes host) : parent? name = none ↔ parent? host = none := by
  obtain ⟨hne', rfl | hshape⟩ := mem_lineage.1 hmem
  · exact Iff.rfl
  have hbelow : name ∈ ancestors host := mem_ancestors.2 ⟨hne', hshape⟩
  constructor
  · intro hnone
    -- a domain of one label is all of the host
    have hpoint := point_not_mem_canonical hnone
    rw [hname] at hpoint
    have hsame := (registrable_eq_or_point suffixes host).resolve_right hpoint
    have hparent := mem_ancestors_canonical hbelow hne
    rw [hname, hsame] at hparent
    exact absurd (length_lt_of_mem_ancestors hparent) (Nat.lt_irrefl _)
  · intro hnone
    simp [ancestors_eq_nil.2 hnone] at hbelow

/-- A host goes from parent to parent, over subdomains of its registrable domain, to that domain. It ends there if
and only if the host does not end in a point or has no parent; else it goes on to names that do not lie within the
domain. -/
theorem toRegistrable_ends_iff (suffixes : Option PublicSuffixes) (hhost : ∃ c ∈ host, c ≠ '.') :
    IsDescent host (toRegistrable suffixes host) ∧
    (EndsAt (registrable suffixes host) (toRegistrable suffixes host) ↔
      host.getLast? ≠ some '.' ∨ parent? host = none) ∧
    ∃ front name past, toRegistrable suffixes host = front ++ name :: past ∧
      (∀ other ∈ front, registrable suffixes host ∈ ancestors (canonical other)) ∧
      canonical name = registrable suffixes host ∧
      ∀ other ∈ past, registrable suffixes host ∉ lineage (canonical other) := by
  have hne : canonical host ≠ [] := canonical_ne_nil hhost
  have hdomain := registrable_mem_lineage suffixes hne
  -- among the parents the domain stands with the points of the host, which the limit does not count
  obtain ⟨name, hmem, hname⟩ := exists_canonical hdomain
  have hname_ne : canonical name ≠ [] := by
    rw [hname]
    exact (mem_lineage.1 hdomain).1
  have hlimit : Text.Utf8.size (registrable suffixes host) ≤ Text.Utf8.size name := by
    rw [← hname]
    exact size_canonical_le name
  obtain ⟨front, past, hcut, hfront, hpast, hlast⟩ := exists_upTo_lineage hmem hlimit
  have hstops : past = [] ↔ host.getLast? ≠ some '.' ∨ parent? host = none := by
    rw [hlast, ← hname, ← Nat.not_lt, size_canonical_lt, getLast?_of_mem_lineage hmem,
      parent?_eq_none_iff hmem hname_ne hname]
  have hunder : ∀ other ∈ front, registrable suffixes host ∈ ancestors (canonical other) := by
    intro other hother
    rw [← hname]
    exact mem_ancestors_canonical (hfront other hother) hname_ne
  have hbeyond : ∀ other ∈ past, registrable suffixes host ∉ lineage (canonical other) := by
    intro other hother
    rw [← hname]
    exact canonical_not_mem_lineage (hpast other hother)
  have hends : EndsAt (registrable suffixes host) (front ++ name :: past) ↔ past = [] := by
    apply endsAt_iff
    · rw [hname, canonical_registrable]
    · intro other hother hsame
      apply hbeyond other hother
      rw [hsame, canonical_registrable]
      exact mem_lineage.2 ⟨hname ▸ hname_ne, .inl rfl⟩
  refine ⟨isDescent_upTo ?_ _, ?_, front, name, past, hcut, hunder, hname, hbeyond⟩
  · rintro rfl
    exact hne rfl
  · rw [toRegistrable, hcut, hends, hstops]

/-- A list with one suffix of two labels. -/
def pagesSuffixes : PublicSuffixes := ⟨SuffixTree.empty.insert false ["io".toList, "github".toList]⟩

/-- Under a listed suffix the way ends in the right place without a point at the end, and not with two. -/
theorem toRegistrable_ends_iff_listed :
    (∃ c ∈ "a.User.github.IO".toList, c ≠ '.') ∧ (∃ c ∈ "a.User.github.IO..".toList, c ≠ '.') ∧
    EndsAt (registrable (some pagesSuffixes) "a.User.github.IO".toList)
      (toRegistrable (some pagesSuffixes) "a.User.github.IO".toList) ∧
    ¬ EndsAt (registrable (some pagesSuffixes) "a.User.github.IO..".toList)
      (toRegistrable (some pagesSuffixes) "a.User.github.IO..".toList) ∧
    registrable (some pagesSuffixes) "a.User.github.IO..".toList = "user.github.io".toList := by
  have hplain : ∃ c ∈ "a.User.github.IO".toList, c ≠ '.' := ⟨'a', by decide, by decide⟩
  have hpoints : ∃ c ∈ "a.User.github.IO..".toList, c ≠ '.' := ⟨'a', by decide, by decide⟩
  obtain ⟨-, hends, -⟩ := toRegistrable_ends_iff (some pagesSuffixes) hplain
  obtain ⟨-, hpasses, -⟩ := toRegistrable_ends_iff (some pagesSuffixes) hpoints
  have hcondition : ¬ ("a.User.github.IO..".toList.getLast? ≠ some '.' ∨
      parent? "a.User.github.IO..".toList = none) := by decide
  exact ⟨hplain, hpoints, hends.2 (.inl (by decide)), mt hpasses.1 hcondition, by decide +kernel⟩

/-- A point at the end leads past the registrable domain. -/
theorem toRegistrable_passes_domain :
    toRegistrable none "example.com.".toList = ["example.com.".toList, "com.".toList] ∧
    registrable none "example.com.".toList = "example.com".toList ∧
    ¬ EndsAt (registrable none "example.com.".toList) (toRegistrable none "example.com.".toList) := by
  decide +kernel

end Descent

end ContentFilter.Domain
