import ContentFilter.Domain.Host
import ContentFilter.Proofs.Domain.Lineage
import ContentFilter.Proofs.Filter.Parsed
import ContentFilter.Proofs.Text.Basic

/-! Host names as a user writes them are taken as they are, up to the case of their letters, and which
signs stand in no address. -/

namespace ContentFilter

namespace NetworkFilter

/-- No character of a host name is a blank or stands between the parts of an option. -/
theorem isHostChar_plain {c : Char} (h : isHostChar c = true) :
    c.toNat < 128 ∧ Text.isBlank c = false ∧ c ∉ ['|', ',', '/', '$', '~'] ∧
      isHostChar c.toLower = true := by
  have hcode : c.toNat < 128 := by
    delta isHostChar Char.isAlphanum Char.isAlpha Char.isUpper Char.isLower Char.isDigit at h
    simp only [Bool.or_eq_true, Bool.and_eq_true, decide_eq_true_eq, beq_iff_eq, ge_iff_le,
      UInt32.le_iff_toNat_le] at h
    change (((((65 ≤ c.toNat ∧ c.toNat ≤ 90) ∨ (97 ≤ c.toNat ∧ c.toNat ≤ 122)) ∨
      (48 ≤ c.toNat ∧ c.toNat ≤ 57)) ∨ c = '.') ∨ c = '-') ∨ c = '_' at h
    rcases h with (((hletter | hdigit) | rfl) | rfl) | rfl
    · omega
    · omega
    all_goals decide
  have hall : ∀ n < 128, isHostChar (Char.ofNat n) = true → Text.isBlank (Char.ofNat n) = false ∧
      Char.ofNat n ∉ ['|', ',', '/', '$', '~'] ∧ isHostChar (Char.ofNat n).toLower = true := by
    decide +kernel
  have hthis := hall c.toNat hcode
  rw [Char.ofNat_toNat] at hthis
  exact ⟨hcode, hthis h⟩

end NetworkFilter

namespace Domain

/-- A name of letters, digits, points, hyphens and underscores without a point at its ends. -/
structure IsHostname (name : List Char) : Prop where
  chars : ∀ c ∈ name, NetworkFilter.isHostChar c = true
  nonempty : name ≠ []
  first : name.head? ≠ some '.'
  last : name.getLast? ≠ some '.'

variable {name : List Char}

theorem IsHostname.lower (h : IsHostname name) : IsHostname (Text.lower name) where
  chars := by
    intro c hc
    obtain ⟨d, hd, rfl⟩ := List.mem_map.1 hc
    exact (NetworkFilter.isHostChar_plain (h.chars d hd)).2.2.2
  nonempty := by simpa [Text.lower] using h.nonempty
  first := by
    rw [Text.lower, List.head?_map, ne_eq, Option.map_eq_some_iff]
    rintro ⟨c, hc, hpoint⟩
    exact h.first (Text.toLower_eq_point.1 hpoint ▸ hc)
  last := by
    rw [Text.lower, List.getLast?_map, ne_eq, Option.map_eq_some_iff]
    rintro ⟨c, hc, hpoint⟩
    exact h.last (Text.toLower_eq_point.1 hpoint ▸ hc)

theorem IsHostname.not_blank (h : IsHostname name) : ∀ c ∈ name, Text.isBlank c = false :=
  fun c hc => (NetworkFilter.isHostChar_plain (h.chars c hc)).2.1

theorem IsHostname.not_mem (h : IsHostname name) {c : Char} (hc : NetworkFilter.isHostChar c = false) :
    c ∉ name := by
  intro hmem
  rw [h.chars c hmem] at hc
  cases hc

/-- Nothing is cut off a name without blanks and without points at its ends. -/
theorem tidy_eq_self (hblank : ∀ c ∈ name, Text.isBlank c = false) (hfirst : name.head? ≠ some '.')
    (hlast : name.getLast? ≠ some '.') :
    Text.dropEndWhile (· == '.') ((Text.trim name).dropWhile (· == '.')) = name := by
  have hstart : name.dropWhile (· == '.') = name := by
    cases hname : name with
    | nil => rfl
    | cons c rest =>
      have hc : c ≠ '.' := fun hpoint => hfirst (by rw [hname, hpoint]; rfl)
      simp [hc]
  rw [Text.trim_eq_self hblank, hstart, Text.dropEndWhile_eq_rdropWhile, List.rdropWhile_eq_self_iff]
  intro hne hpoint
  exact hlast (by rw [List.getLast?_eq_getLast_of_ne_nil hne, beq_iff_eq.1 hpoint])

theorem IsHostname.normalize? (h : IsHostname name) : normalize? name = some (Text.lower name) := by
  have hchars : name.all NetworkFilter.isHostChar = true := List.all_eq_true.2 h.chars
  unfold Domain.normalize?
  rw [tidy_eq_self h.not_blank h.first h.last]
  exact if_pos (by rw [Bool.and_eq_true]; exact ⟨by simp [h.nonempty], hchars⟩)

/-- A name that is accepted consists of the letters of host names and of blanks around them. -/
theorem isBlank_or_isHostChar {c : Char} (h : (Domain.normalize? name).isSome = true) (hc : c ∈ name) :
    Text.isBlank c = true ∨ NetworkFilter.isHostChar c = true := by
  unfold Domain.normalize? at h
  extract_lets tidy at h
  have hchars : ∀ c ∈ tidy, NetworkFilter.isHostChar c = true := by
    by_contra hnot
    rw [if_neg (by rw [Bool.and_eq_true, List.all_eq_true]; exact fun hboth => hnot hboth.2)] at h
    cases h
  by_cases hblank : Text.isBlank c = true
  · exact .inl hblank
  by_cases hpoint : (c == '.') = true
  · exact .inr (by rw [beq_iff_eq.1 hpoint]; decide)
  rw [Bool.not_eq_true] at hblank hpoint
  exact .inr (hchars c (Text.mem_dropEndWhile (Text.mem_dropWhile (Text.mem_trim hc hblank) hpoint) hpoint))

theorem isHostname_of_isSome (h : (Domain.normalize? name).isSome = true)
    (hblank : ∀ c ∈ name, Text.isBlank c = false) (hfirst : name.head? ≠ some '.')
    (hlast : name.getLast? ≠ some '.') : IsHostname name where
  chars := by
    intro c hc
    refine (isBlank_or_isHostChar h hc).resolve_left fun hc' => ?_
    rw [hblank c hc] at hc'
    cases hc'
  nonempty := by
    rintro rfl
    cases h
  first := hfirst
  last := hlast

/-- What is left of a name without the points around it is a host name, if it is accepted. -/
theorem isHostname_tidy (hne : Text.dropEndWhile (· == '.') ((Text.trim name).dropWhile (· == '.')) ≠ [])
    (hchars : ∀ c ∈ Text.dropEndWhile (· == '.') ((Text.trim name).dropWhile (· == '.')),
      NetworkFilter.isHostChar c = true) :
    IsHostname (Text.dropEndWhile (· == '.') ((Text.trim name).dropWhile (· == '.'))) where
  chars := hchars
  nonempty := hne
  first := by
    intro hpoint
    have hprefix : Text.dropEndWhile (· == '.') ((Text.trim name).dropWhile (· == '.')) <+:
        (Text.trim name).dropWhile (· == '.') := List.rdropWhile_prefix _ _
    obtain ⟨rest, hrest⟩ := hprefix
    have hfirst : ((Text.trim name).dropWhile (· == '.')).head? = some '.' := by
      rw [← hrest, List.head?_append_of_ne_nil _ hne, hpoint]
    have hnot := List.head?_dropWhile_not (· == '.') (Text.trim name)
    rw [hfirst] at hnot
    cases hnot
  last := by
    intro hpoint
    rw [List.getLast?_eq_getLast_of_ne_nil hne] at hpoint
    exact absurd (beq_iff_eq.2 (Option.some.inj hpoint)) (List.rdropWhile_last_not _ _ hne)

theorem isHostname_of_normalize? {host : List Char} (h : Domain.normalize? host = some name) :
    IsHostname name := by
  unfold Domain.normalize? at h
  extract_lets tidy at h
  obtain ⟨hvalid, rfl⟩ := Option.ite_some_none_eq_some.1 h
  obtain ⟨hne, hchars⟩ := Bool.and_eq_true_iff.1 hvalid
  exact (isHostname_tidy (by simpa using hne) (List.all_eq_true.1 hchars)).lower

/-- A host name is what stands for itself, up to the case of its letters. -/
theorem isHostname_iff : IsHostname name ↔ Domain.normalize? name = some (Text.lower name) := by
  constructor
  · exact IsHostname.normalize?
  · intro h
    unfold Domain.normalize? at h
    extract_lets tidy at h
    obtain ⟨hvalid, hlower⟩ := Option.ite_some_none_eq_some.1 h
    obtain ⟨hne, hchars⟩ := Bool.and_eq_true_iff.1 hvalid
    have hsublist : tidy.Sublist name :=
      ((List.rdropWhile_prefix (· == '.') _).sublist.trans
        (List.dropWhile_suffix (· == '.')).sublist).trans (Text.trim_infix name).sublist
    have htidy : tidy = name := by
      apply hsublist.eq_of_length
      rw [← Text.length_lower tidy, hlower, Text.length_lower]
    have hhost : IsHostname tidy := isHostname_tidy (by simpa using hne) (List.all_eq_true.1 hchars)
    rwa [htidy] at hhost

theorem isWithin_lower {host domain : List Char} (hhost : IsAscii host) :
    isWithin (Text.lower host) (Text.lower domain) =
      .ok (decide (Text.lower domain ∈ lineage (Text.lower host))) :=
  isWithin_of_ascii (isAscii_lower.2 hhost) (Text.lower_lower host) (Text.lower_lower domain)

section Address

variable {s : List Char} {c : Char}

/-- The sign stands in no address. -/
def IsForeign (c : Char) : Prop := c.isDigit = false ∧ Text.hexDigit? c = none ∧ c ≠ '.' ∧ c ≠ ':'

instance : Decidable (IsForeign c) := inferInstanceAs (Decidable (_ ∧ _))

theorem not_isOctet (h : c ∈ s) (hc : c.isDigit = false) : isOctet s = false := by
  have hdigits : s.all Text.isDigit = false := by
    rw [List.all_eq_false]
    exact ⟨c, h, by simp [Text.isDigit, hc]⟩
  simp [isOctet, Text.nat?, hdigits]

/-- An address in the dotted form has digits only in each of its parts. -/
theorem not_isDottedAddress {part : List Char} (hpart : part ∈ Text.splitOn '.' s) (h : c ∈ part)
    (hc : c.isDigit = false) : isDottedAddress s = false := by
  have hall : (Text.splitOn '.' s).all isOctet = false := by
    rw [List.all_eq_false]
    exact ⟨part, hpart, by rw [not_isOctet h hc]; decide⟩
  rw [isDottedAddress, hall, Bool.and_false]

variable (hc : IsForeign c) (h : c ∈ s)
include hc h

theorem IsForeign.not_isGroup : isGroup s = false := by
  have hdigits : (s.all fun c => (Text.hexDigit? c).isSome) = false := by
    rw [List.all_eq_false]
    exact ⟨c, h, by simp [hc.2.1]⟩
  rw [isGroup, hdigits, Bool.and_false]

omit hc in
theorem exists_mem_splitOn {sep : Char} (hsep : c ≠ sep) : ∃ piece ∈ Text.splitOn sep s, c ∈ piece := by
  rw [← Text.intercalate_splitOn sep s] at h
  exact Text.mem_of_mem_intercalate hsep h

theorem IsForeign.not_isDottedAddress : isDottedAddress s = false := by
  obtain ⟨part, hpart, hmem⟩ := exists_mem_splitOn h hc.2.2.1
  exact Domain.not_isDottedAddress hpart hmem hc.1

omit h in
theorem IsForeign.groupCount?_eq_none {part : List Char} {parts : List (List Char)} (hpart : part ∈ parts)
    (h : c ∈ part) : groupCount? parts = none := by
  induction parts with
  | nil => cases hpart
  | cons first parts ih =>
    cases parts with
    | nil =>
      rw [List.mem_singleton] at hpart
      subst hpart
      simp [groupCount?, hc.not_isGroup h, hc.not_isDottedAddress h]
    | cons second parts =>
      rw [groupCount?.eq_3 _ _ (List.cons_ne_nil second parts)]
      split
      · next hgroup =>
        rcases List.mem_cons.1 hpart with rfl | hpart
        · rw [hc.not_isGroup h] at hgroup
          cases hgroup
        · rw [ih hpart]
          rfl
      · rfl

theorem IsForeign.exists_mem_groupParts : ∃ part ∈ groupParts s, c ∈ part := by
  rw [groupParts, if_neg (by simp [List.ne_nil_of_mem h])]
  exact exists_mem_splitOn h hc.2.2.2

theorem IsForeign.not_isAddress : isAddress s = false := by
  rw [isAddress, hc.not_isDottedAddress h, Bool.false_or]
  dsimp only [isColonAddress]
  split
  · obtain ⟨part, hpart, hmem⟩ := hc.exists_mem_groupParts h
    rw [hc.groupCount?_eq_none hpart hmem]
    rfl
  · next before after hcut =>
    rw [Text.cut?_append hcut, List.mem_append, List.mem_append] at h
    rcases h with (h | h) | h
    · obtain ⟨part, hpart, hmem⟩ := hc.exists_mem_groupParts h
      have hall : (groupParts before).all isGroup = false := by
        rw [List.all_eq_false]
        exact ⟨part, hpart, by rw [hc.not_isGroup hmem]; decide⟩
      rw [hall, Bool.false_and]
    · simp [hc.2.2.2] at h
    · obtain ⟨part, hpart, hmem⟩ := hc.exists_mem_groupParts h
      rw [hc.groupCount?_eq_none hpart hmem, Bool.and_false]

end Address

end Domain

end ContentFilter
