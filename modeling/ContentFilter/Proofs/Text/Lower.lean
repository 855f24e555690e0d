import ContentFilter.Proofs.Domain.Lineage
import ContentFilter.Proofs.Text.Basic

/-! Texts in lower case. They are cut at the same places as before: at signs that are no letters, so that a name
has the same parents, and where a kind of characters ends that has both cases of a letter or none. -/

namespace ContentFilter.Text

theorem toLower_toLower (c : Char) : c.toLower.toLower = c.toLower := by
  unfold Char.toLower
  grind

theorem lower_lower (s : List Char) : lower (lower s) = lower s := by
  simp only [lower, List.map_map]
  exact List.map_congr_left fun c _ => toLower_toLower c

theorem equalFold_lower (s t : List Char) : equalFold (lower s) t = equalFold s t := by
  rw [equalFold, lower_lower, equalFold]

theorem isDigit_iff {c : Char} : c.isDigit = true ↔ 48 ≤ c.toNat ∧ c.toNat ≤ 57 := by
  delta Char.isDigit
  simp only [Bool.and_eq_true, decide_eq_true_eq, ge_iff_le, UInt32.le_iff_toNat_le]
  rfl

theorem isDigit_toLower (c : Char) : c.toLower.isDigit = c.isDigit := by
  rw [Bool.eq_iff_iff, isDigit_iff, isDigit_iff]
  rcases Domain.toLower_cases c with h | ⟨hlow, hhigh, hsum⟩
  · rw [h]
  · omega

section Kind

variable {p : Char → Bool} (hp : ∀ c, p c.toLower = p c)
include hp

theorem takeWhile_lower (s : List Char) : (lower s).takeWhile p = lower (s.takeWhile p) := by
  rw [lower, List.takeWhile_map, lower]
  exact congrArg (fun q => (List.takeWhile q s).map Char.toLower) (funext hp)

theorem dropWhile_lower (s : List Char) : (lower s).dropWhile p = lower (s.dropWhile p) := by
  rw [lower, List.dropWhile_map, lower]
  exact congrArg (fun q => (List.dropWhile q s).map Char.toLower) (funext hp)

end Kind

theorem trimEnd_lower (s : List Char) : trimEnd (lower s) = lower (trimEnd s) := by
  have hreverse : (lower s).reverse = lower s.reverse := by rw [lower, ← List.map_reverse, lower]
  rw [trimEnd, dropEndWhile, hreverse, dropWhile_lower isBlank_toLower, lower, ← List.map_reverse]
  rfl

theorem trim_lower (s : List Char) : trim (lower s) = lower (trim s) := by
  rw [trim, trimStart, dropWhile_lower isBlank_toLower, trimEnd_lower]
  rfl

theorem size_lower (s : List Char) : Utf8.size (lower s) = Utf8.size s := by
  induction s with
  | nil => rfl
  | cons c s ih =>
    have hcons : lower (c :: s) = c.toLower :: lower s := rfl
    have hc : c.toLower.utf8Size = c.utf8Size := by
      rcases Domain.toLower_cases c with h | ⟨hlow, hhigh, hsum⟩
      · rw [h]
      · rw [Domain.utf8Size_of_ascii (by omega), Domain.utf8Size_of_ascii (by omega)]
    simp [hcons, hc, ih]

theorem isEmpty_lower (s : List Char) : (lower s).isEmpty = s.isEmpty := by
  rw [lower, List.isEmpty_map]

/-- Signs that are no letters begin a text whatever the case of the letters. -/
theorem isPrefixOf?_lower {start : List Char} (hstart : ∀ c ∈ start, c.isAlpha = false) (s : List Char) :
    start.isPrefixOf? (lower s) = (start.isPrefixOf? s).map lower := by
  induction start generalizing s with
  | nil => rfl
  | cons c start ih =>
    obtain ⟨hc, hrest⟩ := List.forall_mem_cons.1 hstart
    cases s with
    | nil => rfl
    | cons d s =>
      have hcons : lower (d :: s) = d.toLower :: lower s := rfl
      have hsame : (c == d.toLower) = (c == d) := by
        rw [Bool.eq_iff_iff, beq_iff_eq, beq_iff_eq, eq_comm, toLower_eq_iff hc, eq_comm]
      rw [hcons, isPrefixOf?_cons, isPrefixOf?_cons, hsame, ih hrest]
      split <;> rfl

section Sign

variable {sign : Char} (hsign : sign.isAlpha = false)
include hsign

theorem beq_toLower (c : Char) : (c.toLower == sign) = (c == sign) := by
  rw [Bool.eq_iff_iff, beq_iff_eq, beq_iff_eq, toLower_eq_iff hsign]

theorem head?_lower_beq (s : List Char) : ((lower s).head? == some sign) = (s.head? == some sign) := by
  cases s with
  | nil => rfl
  | cons c s => exact beq_toLower hsign c

/-- A sign that is no letter stands at the same place whatever the case of the letters. -/
theorem cut?_lower (s : List Char) :
    cut? [sign] (lower s) = (cut? [sign] s).map fun (before, after) => (lower before, lower after) := by
  have hmem (s : List Char) : sign ∈ lower s ↔ sign ∈ s := by
    simp only [lower, List.mem_map, toLower_eq_iff hsign, exists_eq_right]
  cases hcut : cut? [sign] s with
  | none =>
    rw [cut?_eq_none] at hcut
    rw [cut?_eq_none.2 (mt (hmem s).1 hcut)]
    rfl
  | some sides =>
    obtain ⟨before, after⟩ := sides
    obtain ⟨hbefore, rfl⟩ := cut?_eq_some.1 hcut
    have hlower : sign.toLower = sign := (toLower_eq_iff hsign).2 rfl
    refine cut?_eq_some.2 ⟨mt (hmem before).1 hbefore, ?_⟩
    simp [lower, hlower]

theorem cutLast?_lower (s : List Char) : cutLast? [sign] (lower s) =
    (cutLast? [sign] s).map fun (before, after) => (lower before, lower after) := by
  induction s with
  | nil => rfl
  | cons c s ih =>
    have hcons : lower (c :: s) = c.toLower :: lower s := rfl
    rw [hcons, cutLast?, cutLast?, ih]
    cases cutLast? [sign] s with
    | some sides => rfl
    | none =>
      have hfirst := isPrefixOf?_lower (List.forall_mem_singleton.2 hsign) (c :: s)
      rw [← hcons, hfirst]
      simp only [Option.map_none, Option.map_map]
      rfl

/-- The pieces between signs that are no letters are the same whatever the case of the letters. -/
theorem splitOn_lower (s : List Char) : splitOn sign (lower s) = (splitOn sign s).map lower := by
  have hlower : lower [sign] = [sign] := congrArg (fun c => [c]) ((toLower_eq_iff hsign).2 rfl)
  conv_lhs => rw [← intercalate_splitOn sign s, lower_intercalate, hlower]
  refine List.splitOn_intercalate sign (List.forall_mem_map.2 fun piece hpiece hmem => ?_) ?_
  · obtain ⟨c, hc, hsame⟩ := List.mem_map.1 hmem
    rw [toLower_eq_iff hsign] at hsame
    exact not_mem_of_mem_splitOn hpiece (hsame ▸ hc)
  · rw [ne_eq, List.map_eq_nil_iff]
    exact List.splitOn_ne_nil sign s

end Sign

end ContentFilter.Text

namespace ContentFilter.Domain

open Text (lower)

theorem ancestors_lower (host : List Char) : ancestors (lower host) = (ancestors host).map lower := by
  induction host with
  | nil => rfl
  | cons c host ih =>
    have hcons : lower (c :: host) = c.toLower :: lower host := rfl
    simp only [hcons, ancestors, Text.toLower_eq_point, Text.isEmpty_lower, ih]
    split
    · split <;> rfl
    · rfl

theorem lineage_lower (host : List Char) : lineage (lower host) = (lineage host).map lower := by
  rw [lineage, lineage, Text.isEmpty_lower, ancestors_lower]
  split <;> rfl

end ContentFilter.Domain
