import ContentFilter.Domain.Host
import ContentFilter.Proofs.Data.Traverse
import Mathlib.Data.List.Basic

/-! The parents of a host name are exactly the names that it lies within, so a look-up along the
parents finds what a test of every name would. -/

namespace ContentFilter.Domain

open Text (CutFault cutAt equalFold lower)

/-- Every character has a code below 128. -/
def IsAscii (s : List Char) : Prop := ∀ c ∈ s, c.toNat < 128

instance (s : List Char) : Decidable (IsAscii s) := List.decidableBAll _ s

theorem utf8Size_of_ascii {c : Char} (h : c.toNat < 128) : c.utf8Size = 1 := by
  have hv : c.val ≤ 0x7F := by
    rw [UInt32.le_iff_toNat_le]
    exact Nat.lt_succ_iff.1 h
  simp [Char.utf8Size, hv]

theorem IsAscii.size {s : List Char} (h : IsAscii s) : Text.Utf8.size s = s.length := by
  induction s with
  | nil => rfl
  | cons c s ih =>
    have hc : c.utf8Size = 1 := utf8Size_of_ascii (h c (by simp))
    have hs := ih fun d hd => h d (by simp [hd])
    rw [Text.Utf8.size_cons, hc, hs, List.length_cons]
    omega

/-- A name of single bytes can be cut anywhere. -/
theorem IsAscii.cutAt {s : List Char} (h : IsAscii s) {n : Nat} (hn : n ≤ s.length) :
    cutAt s n = .ok (s.take n, s.drop n) := by
  have htake : IsAscii (s.take n) := fun c hc => h c (List.mem_of_mem_take hc)
  have hsize : Text.Utf8.size (s.take n) = n := by
    rw [htake.size, List.length_take]
    omega
  have hcut := Text.cutAt_size_append (s.take n) (s.drop n)
  rwa [List.take_append_drop, hsize] at hcut

theorem mem_ancestors {host name : List Char} :
    name ∈ ancestors host ↔ name ≠ [] ∧ ∃ labels, host = labels ++ '.' :: name := by
  induction host with
  | nil => simp [ancestors]
  | cons c s ih =>
    have hcons : (∃ labels, c :: s = labels ++ '.' :: name) ↔
        (c = '.' ∧ s = name) ∨ ∃ labels, s = labels ++ '.' :: name := by
      constructor
      · rintro ⟨labels, h⟩
        cases labels with
        | nil => simp_all
        | cons d labels => simp_all
      · rintro (⟨rfl, rfl⟩ | ⟨labels, rfl⟩)
        · exact ⟨[], rfl⟩
        · exact ⟨c :: labels, rfl⟩
    rw [hcons, ancestors]
    split
    · next hc =>
      cases s with
      | nil => simp_all
      | cons d s =>
        simp only [List.isEmpty_cons, Bool.false_eq_true, if_false, List.mem_cons, ih, hc]
        grind
    · next hc => simp [ih, hc]

theorem mem_lineage {host name : List Char} :
    name ∈ lineage host ↔
      name ≠ [] ∧ (host = name ∨ ∃ labels, host = labels ++ '.' :: name) := by
  cases host with
  | nil => simp [lineage]
  | cons c s =>
    simp only [lineage, List.isEmpty_cons, Bool.false_eq_true, if_false, List.mem_cons,
      mem_ancestors]
    grind

theorem suffix_of_mem_lineage {host name : List Char} (h : name ∈ lineage host) :
    name <:+ host := by
  obtain ⟨-, rfl | ⟨labels, rfl⟩⟩ := mem_lineage.1 h
  · exact List.suffix_rfl
  · exact (List.suffix_cons '.' name).trans (List.suffix_append labels _)

theorem getLast?_of_mem_lineage {host name : List Char} (h : name ∈ lineage host) :
    name.getLast? = host.getLast? := by
  obtain ⟨front, rfl⟩ := suffix_of_mem_lineage h
  exact (List.getLast?_append_of_ne_nil front (mem_lineage.1 h).1).symm

theorem length_lt_of_mem_ancestors {host name : List Char} (h : name ∈ ancestors host) :
    name.length < host.length := by
  obtain ⟨-, labels, rfl⟩ := mem_ancestors.1 h
  rw [List.length_append, List.length_cons]
  omega

theorem ancestors_nodup (host : List Char) : (ancestors host).Nodup := by
  induction host with
  | nil => exact List.nodup_nil
  | cons c s ih =>
    rw [ancestors]
    split
    · split
      · exact List.nodup_nil
      · refine List.nodup_cons.2 ⟨fun hmem => ?_, ih⟩
        exact Nat.lt_irrefl _ (length_lt_of_mem_ancestors hmem)
    · exact ih

theorem lineage_nodup (host : List Char) : (lineage host).Nodup := by
  rw [lineage]
  split
  · exact List.nodup_nil
  · refine List.nodup_cons.2 ⟨fun hmem => ?_, ancestors_nodup host⟩
    exact Nat.lt_irrefl _ (length_lt_of_mem_ancestors hmem)

theorem lower_drop {s : List Char} (h : lower s = s) (n : Nat) : lower (s.drop n) = s.drop n := by
  rw [lower, List.map_drop]
  exact congrArg (List.drop n) h

/-- The test on the ends of two names accepts exactly a name and its parents. -/
theorem isWithin_of_ascii {host domain : List Char} (hhost : IsAscii host)
    (hlow : lower host = host) (hdomain : lower domain = domain) :
    isWithin host domain = .ok (decide (domain ∈ lineage host)) := by
  unfold isWithin
  split
  · next hshort =>
    have hnot : domain ∉ lineage host := by
      intro hmem
      obtain ⟨hne, hshape⟩ := mem_lineage.1 hmem
      rcases hshape with rfl | ⟨labels, rfl⟩
      · simp_all
      · simp [hne] at hshort
        omega
    simp [hnot, pure, Except.pure]
  · next hlong =>
    obtain ⟨hne, hle⟩ : domain ≠ [] ∧ Text.Utf8.size domain ≤ host.length := by
      rw [hhost.size] at hlong
      simpa using hlong
    have hcut := hhost.cutAt (Nat.sub_le host.length (Text.Utf8.size domain))
    rw [hhost.size, hcut]
    have hend : equalFold (host.drop (host.length - Text.Utf8.size domain)) domain = true ↔
        host.drop (host.length - Text.Utf8.size domain) = domain := by
      rw [equalFold, lower_drop hlow, hdomain, beq_iff_eq]
    suffices h : (equalFold (host.drop (host.length - Text.Utf8.size domain)) domain &&
        ((host.take (host.length - Text.Utf8.size domain)).isEmpty ||
          (host.take (host.length - Text.Utf8.size domain)).getLast? == some '.')) =
        decide (domain ∈ lineage host) by
      exact congrArg Except.ok h
    rw [Bool.eq_iff_iff, Bool.and_eq_true, hend, decide_eq_true_eq, mem_lineage]
    constructor
    · rintro ⟨hdrop, hbefore⟩
      refine ⟨hne, ?_⟩
      have hsplit := List.take_append_drop (host.length - Text.Utf8.size domain) host
      rw [hdrop] at hsplit
      rcases Bool.or_eq_true_iff.1 hbefore with hempty | hlast
      · rw [List.isEmpty_iff.1 hempty] at hsplit
        exact .inl hsplit.symm
      · obtain ⟨labels, hlabels⟩ := List.getLast?_eq_some_iff.1 (beq_iff_eq.1 hlast)
        rw [hlabels, List.append_assoc] at hsplit
        exact .inr ⟨labels, hsplit.symm⟩
    · rintro ⟨-, rfl | ⟨labels, rfl⟩⟩
      · simp [hhost.size]
      · have hascii : IsAscii domain := fun c hc => hhost c (by simp [hc])
        have hlen : (labels ++ '.' :: domain).length - Text.Utf8.size domain =
            (labels ++ ['.']).length := by
          rw [hascii.size]
          simp only [List.length_append, List.length_cons, List.length_nil]
          omega
        rw [hlen, show labels ++ '.' :: domain = (labels ++ ['.']) ++ domain by simp]
        rw [List.drop_left, List.take_left]
        simp

/-- A lower-case name lies within its parents at most, letter case aside. -/
theorem lower_mem_lineage {host domain : List Char} (hlow : lower host = host)
    (h : isWithin host domain = .ok true) : lower domain ∈ lineage host := by
  unfold isWithin at h
  split at h
  · cases h
  · next hlong =>
    have hne : domain ≠ [] := by
      rintro rfl
      exact hlong rfl
    obtain ⟨⟨before, ending⟩, hcut, h⟩ := ok_of_bind h
    dsimp only at h
    obtain ⟨hfold, hbefore⟩ := Bool.and_eq_true_iff.1 (Except.ok.inj h)
    obtain ⟨rfl, -⟩ := Text.eq_append_of_cutAt hcut
    have hending : lower ending = ending := by
      rw [lower, List.map_append] at hlow
      exact (List.append_inj hlow (List.length_map _)).2
    have hdomain : lower domain = ending := (beq_iff_eq.1 hfold).symm.trans hending
    rw [hdomain]
    refine mem_lineage.2 ⟨fun hnil => hne ?_, ?_⟩
    · rw [hnil, lower, List.map_eq_nil_iff] at hdomain
      exact hdomain
    · rcases Bool.or_eq_true_iff.1 hbefore with hempty | hlast
      · rw [List.isEmpty_iff.1 hempty]
        exact .inl rfl
      · obtain ⟨labels, hlabels⟩ := List.getLast?_eq_some_iff.1 (beq_iff_eq.1 hlast)
        rw [hlabels, List.append_assoc]
        exact .inr ⟨labels, rfl⟩

/-- The test on a host that is cut where the other name would start. -/
theorem isWithin_append {domain before ending : List Char} (hne : domain ≠ [])
    (hsize : Text.Utf8.size ending = Text.Utf8.size domain) :
    isWithin (before ++ ending) domain = .ok (Text.equalFold ending domain &&
      (before.isEmpty || before.getLast? == some '.')) := by
  have hempty : domain.isEmpty = false := by simpa using hne
  have hlong : ¬ Text.Utf8.size (before ++ ending) < Text.Utf8.size domain := by
    rw [Text.Utf8.size_append, hsize]
    omega
  have hstart : Text.Utf8.size (before ++ ending) - Text.Utf8.size domain = Text.Utf8.size before := by
    rw [Text.Utf8.size_append, hsize]
    omega
  unfold isWithin
  simp only [hempty, hlong, decide_false, Bool.or_false, Bool.false_eq_true, if_false, hstart,
    Text.cutAt_size_append]
  rfl

/-- The test of a name of single bytes has an answer, whatever the other name is. -/
theorem isWithin_answers {host : List Char} (hhost : IsAscii host) (domain : List Char) :
    ∃ found, isWithin host domain = .ok found := by
  unfold isWithin
  split
  · exact ⟨false, rfl⟩
  · rw [hhost.size, hhost.cutAt (Nat.sub_le _ _)]
    exact ⟨_, rfl⟩

theorem isWithinAny_answers {host : List Char} (hhost : IsAscii host)
    (domains : List (List Char)) : ∃ found, isWithinAny host domains = .ok found := by
  induction domains with
  | nil => exact ⟨false, rfl⟩
  | cons domain domains ih =>
    obtain ⟨found, hfound⟩ := isWithin_answers hhost domain
    rw [isWithinAny, hfound]
    cases found with
    | true => exact ⟨true, rfl⟩
    | false => exact ih

theorem toLower_cases (c : Char) :
    c.toLower = c ∨ 65 ≤ c.toNat ∧ c.toNat ≤ 90 ∧ c.toLower.toNat = c.toNat + 32 := by
  by_cases hc : c.val ≥ 'A'.val ∧ c.val ≤ 'Z'.val
  · right
    have h65 : 65 ≤ c.toNat := UInt32.le_iff_toNat_le.1 hc.1
    have h90 : c.toNat ≤ 90 := UInt32.le_iff_toNat_le.1 hc.2
    have hsum : c.toLower.toNat = (c.val + ('a'.val - 'A'.val)).toNat := by
      unfold Char.toLower
      rw [dif_pos hc]
      rfl
    have h32 : ('a'.val - 'A'.val).toNat = 32 := by decide
    rw [UInt32.toNat_add, h32, Nat.mod_eq_of_lt (by change c.toNat + 32 < _; omega)] at hsum
    exact ⟨h65, h90, hsum⟩
  · left
    unfold Char.toLower
    rw [dif_neg hc]

theorem isAscii_lower {s : List Char} : IsAscii (lower s) ↔ IsAscii s := by
  simp only [IsAscii, lower, List.forall_mem_map]
  apply forall₂_congr
  intro c _
  rcases toLower_cases c with h | h
  · rw [h]
  · omega

/-- The test on the ends of two names, letter case aside. -/
theorem isWithin_iff {host domain : List Char} (hhost : IsAscii host) :
    isWithin host domain = .ok true ↔
      domain ≠ [] ∧ ∃ before ending, host = before ++ ending ∧ lower ending = lower domain ∧
        (before = [] ∨ before.getLast? = some '.') := by
  unfold isWithin
  split
  · next hshort =>
    constructor
    · intro h
      cases h
    · rintro ⟨hne, before, ending, rfl, hfold, -⟩
      have hascii : IsAscii domain := by
        rw [← isAscii_lower, ← hfold, isAscii_lower]
        exact fun c hc => hhost c (List.mem_append_right before hc)
      have hlength : ending.length = domain.length := by
        simpa using congrArg List.length hfold
      rw [hhost.size, hascii.size, List.length_append] at hshort
      simp [hne] at hshort
      omega
  · next hlong =>
    obtain ⟨hne, hle⟩ : domain ≠ [] ∧ Text.Utf8.size domain ≤ host.length := by
      rw [hhost.size] at hlong
      simpa using hlong
    rw [hhost.size, hhost.cutAt (Nat.sub_le _ _)]
    generalize hcut : host.length - Text.Utf8.size domain = n
    constructor
    · intro h
      obtain ⟨hend, hbefore⟩ := Bool.and_eq_true_iff.1 (Except.ok.inj h)
      refine ⟨hne, host.take n, host.drop n, (List.take_append_drop n host).symm, ?_, ?_⟩
      · exact beq_iff_eq.1 hend
      · simpa using hbefore
    · rintro ⟨-, before, ending, rfl, hfold, hbefore⟩
      have hascii : IsAscii domain := by
        rw [← isAscii_lower, ← hfold, isAscii_lower]
        exact fun c hc => hhost c (List.mem_append_right before hc)
      have hn : n = before.length := by
        have hlength : ending.length = domain.length := by
          simpa using congrArg List.length hfold
        rw [hascii.size, List.length_append] at hcut
        omega
      subst hn
      have hend : equalFold ending domain = true := beq_iff_eq.2 hfold
      rcases hbefore with rfl | hlast
      · simp [hend, pure, Except.pure, bind, Except.bind]
      · simp [hend, hlast, pure, Except.pure, bind, Except.bind]

/-- Only the letters of the other name count, not their case. -/
theorem isWithin_congr {host domain other : List Char} (hhost : IsAscii host)
    (h : lower domain = lower other) :
    isWithin host domain = .ok true ↔ isWithin host other = .ok true := by
  have hne : domain ≠ [] ↔ other ≠ [] := by
    rw [← List.length_pos_iff, ← List.length_pos_iff, ← Text.length_lower domain, h,
      Text.length_lower]
  rw [isWithin_iff hhost, isWithin_iff hhost, h, hne]

theorem isWithinAny_iff {host : List Char} (hhost : IsAscii host) (domains : List (List Char)) :
    isWithinAny host domains = .ok true ↔ ∃ domain ∈ domains, isWithin host domain = .ok true := by
  induction domains with
  | nil => simp [isWithinAny, pure, Except.pure]
  | cons domain domains ih =>
    obtain ⟨found, hfound⟩ := isWithin_answers hhost domain
    rw [isWithinAny, hfound]
    cases found with
    | true => simp [hfound, pure, Except.pure, bind, Except.bind]
    | false => simpa [hfound, bind, Except.bind] using ih

end ContentFilter.Domain

namespace ContentFilter.Text

theorem isAlpha_iff {c : Char} : c.isAlpha = true ↔
    65 ≤ c.toNat ∧ c.toNat ≤ 90 ∨ 97 ≤ c.toNat ∧ c.toNat ≤ 122 := by
  delta Char.isAlpha Char.isUpper Char.isLower
  simp only [Bool.or_eq_true, Bool.and_eq_true, decide_eq_true_eq, ge_iff_le,
    UInt32.le_iff_toNat_le]
  rfl

/-- Only letters change their case. -/
theorem toLower_eq_iff {c d : Char} (h : d.isAlpha = false) : c.toLower = d ↔ c = d := by
  rcases Domain.toLower_cases c with hc | ⟨hlow, hhigh, hsum⟩
  · rw [hc]
  · have hd : ¬ d.isAlpha = true := by simp [h]
    rw [isAlpha_iff] at hd
    constructor
    · rintro rfl
      omega
    · rintro rfl
      omega

theorem toLower_eq_point {c : Char} : c.toLower = '.' ↔ c = '.' := toLower_eq_iff (by decide)

theorem isBlank_toLower (c : Char) : isBlank c.toLower = isBlank c := by
  rcases Domain.toLower_cases c with h | ⟨hlow, hhigh, hsum⟩
  · rw [h]
  · have hc : isBlank c = false := by
      simp only [isBlank, Bool.or_eq_false_iff, Bool.and_eq_false_iff, decide_eq_false_iff_not,
        beq_eq_false_iff_ne]
      omega
    have hlower : isBlank c.toLower = false := by
      simp only [isBlank, Bool.or_eq_false_iff, Bool.and_eq_false_iff, decide_eq_false_iff_not,
        beq_eq_false_iff_ne]
      omega
    rw [hc, hlower]

end ContentFilter.Text
