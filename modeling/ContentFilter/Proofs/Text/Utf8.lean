import ContentFilter.Text.Utf8

/-! The bytes of a text read back as the text, and the first bytes of it as its first characters,
unless they end within one. -/

namespace ContentFilter.Text.Utf8

theorem toNat_cases (c : Char) : c.toNat < 0xD800 ∨ 0xDFFF < c.toNat ∧ c.toNat ≤ 0x10FFFF := by
  have h := c.valid
  simp only [UInt32.isValidChar, Nat.isValidChar] at h
  simp only [Char.toNat]
  omega

theorem toNat_ofNat_of_lt {n : Nat} (h : n < 256) : (UInt8.ofNat n).toNat = n := by
  rw [UInt8.toNat_ofNat', Nat.mod_eq_of_lt h]

theorem isContinuation_low (n : Nat) : isContinuation (UInt8.ofNat (n % 0x40 + 0x80)) = true := by
  have hn : (UInt8.ofNat (n % 0x40 + 0x80)).toNat = n % 0x40 + 0x80 := toNat_ofNat_of_lt (by omega)
  simp only [isContinuation, UInt8.le_iff_toNat_le, hn, Bool.and_eq_true, decide_eq_true_eq,
    UInt8.reduceToNat]
  omega

theorem payload_low (n : Nat) : payload (UInt8.ofNat (n % 0x40 + 0x80)) = n % 0x40 := by
  rw [payload, toNat_ofNat_of_lt (by omega)]
  omega

theorem beq_eq_decide (a b : UInt8) : (a == b) = decide (a.toNat = b.toNat) := by
  rw [Bool.eq_iff_iff, beq_iff_eq, decide_eq_true_eq, UInt8.toNat_inj]

/-- The second byte of a sequence of three rules out overlong forms and surrogates. -/
theorem isSecond_three {v : Nat} (hlow : 0x7FF < v) (hhigh : v ≤ 0xFFFF)
    (hv : v < 0xD800 ∨ 0xDFFF < v) :
    isSecond (UInt8.ofNat (v / 4096 % 0x10 + 0xE0)) (UInt8.ofNat (v / 64 % 0x40 + 0x80)) = true := by
  have ha : (UInt8.ofNat (v / 4096 % 0x10 + 0xE0)).toNat = v / 4096 % 0x10 + 0xE0 :=
    toNat_ofNat_of_lt (by omega)
  have hb : (UInt8.ofNat (v / 64 % 0x40 + 0x80)).toNat = v / 64 % 0x40 + 0x80 :=
    toNat_ofNat_of_lt (by omega)
  simp only [isSecond, isContinuation, beq_eq_decide, UInt8.le_iff_toNat_le, ha, hb,
    UInt8.reduceToNat, decide_eq_true_eq]
  split
  · simp only [Bool.and_eq_true, decide_eq_true_eq]; omega
  split
  · simp only [Bool.and_eq_true, decide_eq_true_eq]; omega
  rw [if_neg (by omega), if_neg (by omega)]
  simp only [Bool.and_eq_true, decide_eq_true_eq]
  omega

/-- The second byte of a sequence of four keeps it below the last plane's end. -/
theorem isSecond_four {v : Nat} (hlow : 0xFFFF < v) (hhigh : v ≤ 0x10FFFF) :
    isSecond (UInt8.ofNat (v / 262144 % 0x08 + 0xF0)) (UInt8.ofNat (v / 4096 % 0x40 + 0x80)) =
      true := by
  have ha : (UInt8.ofNat (v / 262144 % 0x08 + 0xF0)).toNat = v / 262144 % 0x08 + 0xF0 :=
    toNat_ofNat_of_lt (by omega)
  have hb : (UInt8.ofNat (v / 4096 % 0x40 + 0x80)).toNat = v / 4096 % 0x40 + 0x80 :=
    toNat_ofNat_of_lt (by omega)
  simp only [isSecond, isContinuation, beq_eq_decide, UInt8.le_iff_toNat_le, ha, hb,
    UInt8.reduceToNat, decide_eq_true_eq]
  rw [if_neg (by omega), if_neg (by omega)]
  split
  · simp only [Bool.and_eq_true, decide_eq_true_eq]; omega
  split
  · simp only [Bool.and_eq_true, decide_eq_true_eq]; omega
  simp only [Bool.and_eq_true, decide_eq_true_eq]
  omega

theorem encodeChar_eq (c : Char) : String.utf8EncodeChar c =
    let v := c.toNat
    if v ≤ 0x7F then [UInt8.ofNat v]
    else if v ≤ 0x7FF then
      [UInt8.ofNat (v / 64 % 0x20 + 0xC0), UInt8.ofNat (v % 0x40 + 0x80)]
    else if v ≤ 0xFFFF then
      [UInt8.ofNat (v / 4096 % 0x10 + 0xE0), UInt8.ofNat (v / 64 % 0x40 + 0x80),
        UInt8.ofNat (v % 0x40 + 0x80)]
    else
      [UInt8.ofNat (v / 262144 % 0x08 + 0xF0), UInt8.ofNat (v / 4096 % 0x40 + 0x80),
        UInt8.ofNat (v / 64 % 0x40 + 0x80), UInt8.ofNat (v % 0x40 + 0x80)] := rfl

theorem encodeChar_ascii {c : Char} (h : c.toNat ≤ 0x7F) :
    String.utf8EncodeChar c = [UInt8.ofNat c.toNat] := by
  simp only [encodeChar_eq, if_pos h]

theorem lt_of_mem_encodeChar {c : Char} (h : 0x7F < c.toNat) :
    ∀ b ∈ String.utf8EncodeChar c, 0x7F < b.toNat := by
  have hbyte {n : Nat} (hlow : 0x7F < n) (hn : n < 256) : 0x7F < (UInt8.ofNat n).toNat := by
    rwa [toNat_ofNat_of_lt hn]
  have hcontinued (n : Nat) : 0x7F < (UInt8.ofNat (n % 0x40 + 0x80)).toNat :=
    hbyte (by omega) (by omega)
  rw [encodeChar_eq]
  dsimp only
  rw [if_neg (Nat.not_le.2 h)]
  split
  case' isFalse => split
  all_goals
    simp only [List.forall_mem_cons, hcontinued, List.not_mem_nil, false_imp_iff, implies_true,
      and_true]
    exact hbyte (by omega) (by omega)

/-- A character with an ASCII byte is the character of that byte. -/
theorem eq_of_mem_encodeChar {c d : Char} (hd : d.toNat ≤ 0x7F)
    (h : UInt8.ofNat d.toNat ∈ String.utf8EncodeChar c) : c = d := by
  have hbyte {c : Char} (hc : c.toNat ≤ 0x7F) : (UInt8.ofNat c.toNat).toNat = c.toNat :=
    toNat_ofNat_of_lt (by omega)
  by_cases hc : c.toNat ≤ 0x7F
  · rw [encodeChar_ascii hc, List.mem_singleton] at h
    have hsame := congrArg UInt8.toNat h
    rw [hbyte hc, hbyte hd] at hsame
    rw [← c.ofNat_toNat, ← d.ofNat_toNat, hsame]
  · have hhigh := lt_of_mem_encodeChar (Nat.not_le.1 hc) _ h
    rw [hbyte hd] at hhigh
    omega

/-- The bytes of a character read as the character, and its first bytes alone are no text. -/
structure Reads (c : Char) : Prop where
  whole : ∀ i rest, decodeFrom i (String.utf8EncodeChar c ++ rest) =
    (decodeFrom (i + c.utf8Size) rest).map (c :: ·)
  cut : ∀ i n, 0 < n → n < c.utf8Size → ∃ fault,
    decodeFrom i ((String.utf8EncodeChar c).take n) = .error fault

theorem reads_one {c : Char} (h : c.toNat ≤ 0x7F) : Reads c := by
  have hbytes := encodeChar_ascii h
  have hsize : c.utf8Size = 1 := by rw [← String.length_utf8EncodeChar, hbytes]; rfl
  have ha : (UInt8.ofNat c.toNat).toNat = c.toNat := toNat_ofNat_of_lt (by omega)
  have hone : UInt8.ofNat c.toNat < 0x80 := by
    simp only [UInt8.lt_iff_toNat_lt, ha, UInt8.reduceToNat]
    omega
  refine ⟨fun i rest => ?_, fun i n hpos hlt => by omega⟩
  rw [hbytes, hsize, List.singleton_append, decodeFrom.eq_def]
  dsimp only
  rw [if_pos hone, ha, Char.ofNat_toNat]

theorem reads_two {c : Char} (hlow : 0x7F < c.toNat) (hhigh : c.toNat ≤ 0x7FF) : Reads c := by
  have hbytes : String.utf8EncodeChar c =
      [UInt8.ofNat (c.toNat / 64 % 0x20 + 0xC0), UInt8.ofNat (c.toNat % 0x40 + 0x80)] := by
    simp only [encodeChar_eq, if_neg (Nat.not_le.2 hlow), if_pos hhigh]
  have hsize : c.utf8Size = 2 := by rw [← String.length_utf8EncodeChar, hbytes]; rfl
  have hchar := c.ofNat_toNat
  generalize c.toNat = v at hlow hhigh hbytes hchar
  have ha : (UInt8.ofNat (v / 64 % 0x20 + 0xC0)).toNat = v / 64 % 0x20 + 0xC0 :=
    toNat_ofNat_of_lt (by omega)
  generalize UInt8.ofNat (v / 64 % 0x20 + 0xC0) = a at hbytes ha
  have hone : ¬ a < 0x80 := by
    simp only [UInt8.lt_iff_toNat_lt, ha, UInt8.reduceToNat]
    omega
  have htwo : (0xC2 ≤ a && a ≤ 0xDF) = true := by
    simp only [UInt8.le_iff_toNat_le, ha, UInt8.reduceToNat, Bool.and_eq_true, decide_eq_true_eq]
    omega
  refine ⟨fun i rest => ?_, fun i n hpos hlt => ?_⟩
  · rw [hbytes, hsize, List.cons_append, List.singleton_append, decodeFrom.eq_def]
    dsimp only
    rw [if_neg hone, if_pos htwo, if_pos (isContinuation_low v), ha, payload_low]
    have hback : (v / 64 % 0x20 + 0xC0) % 0x20 * 0x40 + v % 0x40 = v := by omega
    rw [hback, hchar]
  · obtain rfl : n = 1 := by omega
    refine ⟨⟨i, none⟩, ?_⟩
    rw [hbytes, decodeFrom.eq_def]
    dsimp only [List.take]
    rw [if_neg hone, if_pos htwo]

theorem reads_three {c : Char} (hlow : 0x7FF < c.toNat) (hhigh : c.toNat ≤ 0xFFFF) : Reads c := by
  have hbytes : String.utf8EncodeChar c =
      [UInt8.ofNat (c.toNat / 4096 % 0x10 + 0xE0), UInt8.ofNat (c.toNat / 64 % 0x40 + 0x80),
        UInt8.ofNat (c.toNat % 0x40 + 0x80)] := by
    have hnot : ¬ c.toNat ≤ 0x7F := by omega
    simp only [encodeChar_eq, if_neg hnot, if_neg (Nat.not_le.2 hlow), if_pos hhigh]
  have hsize : c.utf8Size = 3 := by rw [← String.length_utf8EncodeChar, hbytes]; rfl
  have hchar := c.ofNat_toNat
  have hvalid := toNat_cases c
  generalize c.toNat = v at hlow hhigh hbytes hchar hvalid
  have hb := isSecond_three hlow hhigh (by omega)
  have ha : (UInt8.ofNat (v / 4096 % 0x10 + 0xE0)).toNat = v / 4096 % 0x10 + 0xE0 :=
    toNat_ofNat_of_lt (by omega)
  generalize UInt8.ofNat (v / 4096 % 0x10 + 0xE0) = a at hbytes ha hb
  have hone : ¬ a < 0x80 := by
    simp only [UInt8.lt_iff_toNat_lt, ha, UInt8.reduceToNat]
    omega
  have htwo : ¬ (0xC2 ≤ a && a ≤ 0xDF) = true := by
    simp only [UInt8.le_iff_toNat_le, ha, UInt8.reduceToNat, Bool.and_eq_true, decide_eq_true_eq]
    omega
  have hthree : (0xE0 ≤ a && a ≤ 0xEF) = true := by
    simp only [UInt8.le_iff_toNat_le, ha, UInt8.reduceToNat, Bool.and_eq_true, decide_eq_true_eq]
    omega
  refine ⟨fun i rest => ?_, fun i n hpos hlt => ?_⟩
  · rw [hbytes, hsize, decodeFrom.eq_def]
    dsimp only [List.cons_append, List.nil_append]
    rw [if_neg hone, if_neg htwo, if_pos hthree, if_pos hb, if_pos (isContinuation_low v), ha,
      payload_low, payload_low]
    have hback : ((v / 4096 % 0x10 + 0xE0) % 0x10 * 0x40 + v / 64 % 0x40) * 0x40 + v % 0x40 = v := by
      omega
    rw [hback, hchar]
  · obtain rfl | rfl : n = 1 ∨ n = 2 := by omega
    all_goals
      refine ⟨⟨i, none⟩, ?_⟩
      rw [hbytes, decodeFrom.eq_def]
      dsimp only [List.take]
      rw [if_neg hone, if_neg htwo, if_pos hthree]
    rw [if_pos hb]

theorem reads_four {c : Char} (hlow : 0xFFFF < c.toNat) : Reads c := by
  have hbytes : String.utf8EncodeChar c =
      [UInt8.ofNat (c.toNat / 262144 % 0x08 + 0xF0), UInt8.ofNat (c.toNat / 4096 % 0x40 + 0x80),
        UInt8.ofNat (c.toNat / 64 % 0x40 + 0x80), UInt8.ofNat (c.toNat % 0x40 + 0x80)] := by
    have hnot : ¬ c.toNat ≤ 0x7F := by omega
    have hnot' : ¬ c.toNat ≤ 0x7FF := by omega
    simp only [encodeChar_eq, if_neg hnot, if_neg hnot', if_neg (Nat.not_le.2 hlow)]
  have hsize : c.utf8Size = 4 := by rw [← String.length_utf8EncodeChar, hbytes]; rfl
  have hchar := c.ofNat_toNat
  have hvalid := toNat_cases c
  generalize c.toNat = v at hlow hbytes hchar hvalid
  have hhigh : v ≤ 0x10FFFF := by omega
  have hb := isSecond_four hlow hhigh
  have ha : (UInt8.ofNat (v / 262144 % 0x08 + 0xF0)).toNat = v / 262144 % 0x08 + 0xF0 :=
    toNat_ofNat_of_lt (by omega)
  generalize UInt8.ofNat (v / 262144 % 0x08 + 0xF0) = a at hbytes ha hb
  have hone : ¬ a < 0x80 := by
    simp only [UInt8.lt_iff_toNat_lt, ha, UInt8.reduceToNat]
    omega
  have htwo : ¬ (0xC2 ≤ a && a ≤ 0xDF) = true := by
    simp only [UInt8.le_iff_toNat_le, ha, UInt8.reduceToNat, Bool.and_eq_true, decide_eq_true_eq]
    omega
  have hthree : ¬ (0xE0 ≤ a && a ≤ 0xEF) = true := by
    simp only [UInt8.le_iff_toNat_le, ha, UInt8.reduceToNat, Bool.and_eq_true, decide_eq_true_eq]
    omega
  have hfour : (0xF0 ≤ a && a ≤ 0xF4) = true := by
    simp only [UInt8.le_iff_toNat_le, ha, UInt8.reduceToNat, Bool.and_eq_true, decide_eq_true_eq]
    omega
  refine ⟨fun i rest => ?_, fun i n hpos hlt => ?_⟩
  · rw [hbytes, hsize, decodeFrom.eq_def]
    dsimp only [List.cons_append, List.nil_append]
    rw [if_neg hone, if_neg htwo, if_neg hthree, if_pos hfour, if_pos hb,
      if_pos (isContinuation_low (v / 64)), if_pos (isContinuation_low v), ha, payload_low,
      payload_low, payload_low]
    have hback : (((v / 262144 % 0x08 + 0xF0) % 0x08 * 0x40 + v / 4096 % 0x40) * 0x40 +
        v / 64 % 0x40) * 0x40 + v % 0x40 = v := by
      omega
    rw [hback, hchar]
  · obtain rfl | rfl | rfl : n = 1 ∨ n = 2 ∨ n = 3 := by omega
    all_goals
      refine ⟨⟨i, none⟩, ?_⟩
      rw [hbytes, decodeFrom.eq_def]
      dsimp only [List.take]
      rw [if_neg hone, if_neg htwo, if_neg hthree, if_pos hfour]
    · rw [if_pos hb]
    · rw [if_pos hb, if_pos (isContinuation_low (v / 64))]

theorem reads (c : Char) : Reads c := by
  by_cases hone : c.toNat ≤ 0x7F
  · exact reads_one hone
  by_cases htwo : c.toNat ≤ 0x7FF
  · exact reads_two (Nat.lt_of_not_le hone) htwo
  by_cases hthree : c.toNat ≤ 0xFFFF
  · exact reads_three (Nat.lt_of_not_le htwo) hthree
  · exact reads_four (Nat.lt_of_not_le hthree)

theorem decodeFrom_encode (s : List Char) (i : Nat) : decodeFrom i (encode s) = .ok s := by
  induction s generalizing i with
  | nil => rw [encode_nil, decodeFrom]
  | cons c s ih =>
    rw [encode_cons, (reads c).whole, ih]
    rfl

theorem decode_encode (s : List Char) : decode (encode s) = .ok s := decodeFrom_encode s 0

/-- Whatever the first bytes of a text read as stands at its start, and is no longer than they are. -/
theorem prefix_of_decodeFrom_take {s t : List Char} {i n : Nat}
    (h : decodeFrom i ((encode s).take n) = .ok t) : t <+: s ∧ size t ≤ n := by
  induction s generalizing i n t with
  | nil =>
    rw [encode_nil, List.take_nil, decodeFrom] at h
    cases h
    exact ⟨List.nil_prefix, Nat.zero_le n⟩
  | cons c s ih =>
    rw [encode_cons, List.take_append, String.length_utf8EncodeChar] at h
    by_cases hn : c.utf8Size ≤ n
    · rw [List.take_of_length_le (by simpa using hn), (reads c).whole] at h
      cases hrest : decodeFrom (i + c.utf8Size) ((encode s).take (n - c.utf8Size)) with
      | error fault =>
        rw [hrest] at h
        cases h
      | ok u =>
        rw [hrest] at h
        cases h
        obtain ⟨hstart, hsize⟩ := ih hrest
        exact ⟨List.cons_prefix_cons.2 ⟨rfl, hstart⟩, by rw [size_cons]; omega⟩
    · rw [Nat.sub_eq_zero_of_le (by omega), List.take_zero, List.append_nil] at h
      by_cases hzero : n = 0
      · rw [hzero, List.take_zero, decodeFrom] at h
        cases h
        exact ⟨List.nil_prefix, Nat.zero_le n⟩
      · obtain ⟨fault, hfault⟩ := (reads c).cut i n (by omega) (by omega)
        rw [hfault] at h
        cases h

theorem prefix_of_decode_take {s t : List Char} {n : Nat}
    (h : decode ((encode s).take n) = .ok t) : t <+: s := (prefix_of_decodeFrom_take h).1

theorem size_le_of_decode_take {s t : List Char} {n : Nat}
    (h : decode ((encode s).take n) = .ok t) : size t ≤ n := (prefix_of_decodeFrom_take h).2

theorem encode_eq_nil {s : List Char} : encode s = [] ↔ s = [] := by
  cases s with
  | nil => simp
  | cons c s =>
    have hsize := c.utf8Size_pos
    rw [← List.length_eq_zero_iff, length_encode, size_cons]
    simp only [List.cons_ne_nil, iff_false]
    omega

theorem encode_suffix {s t : List Char} (h : s <:+ t) : encode s <:+ encode t := by
  obtain ⟨front, rfl⟩ := h
  rw [encode_append]
  exact List.suffix_append (encode front) (encode s)

end ContentFilter.Text.Utf8
