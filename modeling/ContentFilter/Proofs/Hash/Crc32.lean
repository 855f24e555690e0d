import ContentFilter.Hash
import Mathlib.Data.Nat.Bitwise

/-! A changed byte changes the checksum: a step of the division is linear and only zero goes to zero, so
the state after a byte determines the state before it, and the byte. -/

namespace ContentFilter.Hash

theorem toNat_and_one (c : UInt32) : (c &&& 1).toNat = c.toNat % 2 := by
  rw [UInt32.toNat_and]
  exact Nat.and_one_is_mod _

theorem toNat_and_low (c : UInt32) : (c &&& 0xFF).toNat = c.toNat % 256 := by
  rw [UInt32.toNat_and]
  exact Nat.and_two_pow_sub_one_eq_mod _ 8

theorem and_one_cases (c : UInt32) : c &&& 1 = 0 ∨ c &&& 1 = 1 := by
  rw [← UInt32.toNat_inj, ← UInt32.toNat_inj, toNat_and_one]
  exact Nat.mod_two_eq_zero_or_one _

theorem xor_and (a b mask : UInt32) : (a ^^^ b) &&& mask = (a &&& mask) ^^^ (b &&& mask) := by
  rw [← UInt32.toNat_inj]
  simp only [UInt32.toNat_and, UInt32.toNat_xor, Nat.and_xor_distrib_right]

theorem toNat_shiftRight_one (c : UInt32) : (c >>> 1).toNat = c.toNat / 2 := by
  rw [UInt32.toNat_shiftRight]
  exact Nat.shiftRight_eq_div_pow _ 1

theorem toNat_shiftRight_byte (c : UInt32) : (c >>> 8).toNat = c.toNat / 256 := by
  rw [UInt32.toNat_shiftRight]
  exact Nat.shiftRight_eq_div_pow _ 8

theorem crc32Bit_of_even {c : UInt32} (h : c &&& 1 = 0) : crc32Bit c = c >>> 1 := by
  rw [crc32Bit, h]
  rfl

theorem crc32Bit_of_odd {c : UInt32} (h : c &&& 1 = 1) : crc32Bit c = (c >>> 1) ^^^ 0xEDB88320 := by
  rw [crc32Bit, h]
  rfl

theorem crc32Bit_xor (a b : UInt32) : crc32Bit (a ^^^ b) = crc32Bit a ^^^ crc32Bit b := by
  have hlow := xor_and a b 1
  have hshift : (a ^^^ b) >>> 1 = (a >>> 1) ^^^ (b >>> 1) := UInt32.shiftRight_xor
  rcases and_one_cases a with ha | ha <;> rcases and_one_cases b with hb | hb <;> rw [ha, hb] at hlow
  case inl.inl =>
    rw [crc32Bit_of_even ha, crc32Bit_of_even hb, crc32Bit_of_even hlow, hshift]
  case inl.inr =>
    rw [crc32Bit_of_even ha, crc32Bit_of_odd hb, crc32Bit_of_odd hlow, hshift]
    ac_rfl
  case inr.inl =>
    rw [crc32Bit_of_odd ha, crc32Bit_of_even hb, crc32Bit_of_odd hlow, hshift]
    ac_rfl
  case inr.inr =>
    have hcancel (x y z : UInt32) : (x ^^^ z) ^^^ (y ^^^ z) = x ^^^ y := by
      rw [UInt32.xor_comm y, ← UInt32.xor_assoc, UInt32.xor_assoc x, UInt32.xor_self, UInt32.xor_zero]
    rw [crc32Bit_of_odd ha, crc32Bit_of_odd hb, crc32Bit_of_even hlow, hshift, hcancel]

/-- The polynomial has the highest bit, which no shifted state has. -/
theorem eq_zero_of_crc32Bit {c : UInt32} (h : crc32Bit c = 0) : c = 0 := by
  have hshift := toNat_shiftRight_one c
  rcases and_one_cases c with hc | hc
  case inl =>
    rw [crc32Bit_of_even hc] at h
    have hzero : (c >>> 1).toNat = 0 := congrArg UInt32.toNat h
    have hlow : c.toNat % 2 = 0 := by rw [← toNat_and_one, hc]; rfl
    exact UInt32.toNat_inj.1 (show c.toNat = 0 by omega)
  case inr =>
    rw [crc32Bit_of_odd hc, UInt32.xor_eq_zero_iff] at h
    have hhigh : (c >>> 1).toNat = 0xEDB88320 := congrArg UInt32.toNat h
    have hbound := c.toNat_lt
    omega

theorem repeat_crc32Bit_xor (n : Nat) (a b : UInt32) : Nat.repeat crc32Bit n (a ^^^ b) =
    Nat.repeat crc32Bit n a ^^^ Nat.repeat crc32Bit n b := by
  induction n with
  | zero => rfl
  | succ n ih => rw [Nat.repeat, ih, crc32Bit_xor]; rfl

theorem eq_zero_of_repeat_crc32Bit {n : Nat} {c : UInt32} (h : Nat.repeat crc32Bit n c = 0) :
    c = 0 := by
  induction n with
  | zero => exact h
  | succ n ih => exact ih (eq_zero_of_crc32Bit h)

theorem crc32Steps_xor (a b : UInt32) : crc32Steps (a ^^^ b) = crc32Steps a ^^^ crc32Steps b :=
  repeat_crc32Bit_xor 8 a b

theorem crc32Steps_inj {a b : UInt32} : crc32Steps a = crc32Steps b ↔ a = b := by
  constructor
  · intro h
    rw [← UInt32.xor_eq_zero_iff, ← crc32Steps_xor] at h
    exact UInt32.xor_eq_zero_iff.1 (eq_zero_of_repeat_crc32Bit h)
  · exact congrArg crc32Steps

/-- While the low bits are clear, a step is a shift. -/
theorem toNat_repeat_crc32Bit {n : Nat} {c : UInt32} (h : c.toNat % 2 ^ n = 0) :
    (Nat.repeat crc32Bit n c).toNat = c.toNat / 2 ^ n := by
  induction n with
  | zero => rw [Nat.pow_zero, Nat.div_one]; rfl
  | succ n ih =>
    obtain ⟨q, hq⟩ := Nat.dvd_of_mod_eq_zero h
    have hsplit : c.toNat = 2 ^ n * (2 * q) := by rw [hq, Nat.pow_succ, Nat.mul_assoc]
    have ih := ih (by rw [hsplit, Nat.mul_mod_right])
    rw [hsplit, Nat.mul_div_cancel_left _ (Nat.two_pow_pos n)] at ih
    have heven : Nat.repeat crc32Bit n c &&& 1 = 0 := by
      rw [← UInt32.toNat_inj, toNat_and_one, ih, Nat.mul_mod_right]
      rfl
    rw [Nat.repeat, crc32Bit_of_even heven, toNat_shiftRight_one, ih, hq,
      Nat.mul_div_cancel_left _ (Nat.two_pow_pos _), Nat.mul_div_cancel_left _ Nat.two_pos]

theorem crc32Steps_of_low {c : UInt32} (h : c &&& 0xFF = 0) : crc32Steps c = c >>> 8 := by
  have hlow : c.toNat % 2 ^ 8 = 0 := by
    have := toNat_and_low c
    rw [h] at this
    exact this.symm
  rw [← UInt32.toNat_inj, toNat_shiftRight_byte]
  exact toNat_repeat_crc32Bit hlow

theorem shiftRight_low (c : UInt32) : (c &&& 0xFF) >>> 8 = 0 := by
  rw [← UInt32.toNat_inj, toNat_shiftRight_byte, toNat_and_low]
  exact Nat.div_eq_of_lt (Nat.mod_lt _ (by decide))

theorem shiftRight_toUInt32 (byte : UInt8) : byte.toUInt32 >>> 8 = 0 := by
  rw [← UInt32.toNat_inj, toNat_shiftRight_byte]
  exact Nat.div_eq_of_lt byte.toNat_lt

/-- What the table holds for the low byte, and the rest shifted, are eight steps of the whole state. -/
theorem crc32Byte_eq (crc : UInt32) (byte : UInt8) :
    crc32Byte crc byte = crc32Steps (crc ^^^ byte.toUInt32) := by
  generalize hstate : crc ^^^ byte.toUInt32 = state
  have hhigh : (state ^^^ (state &&& 0xFF)) &&& 0xFF = 0 := by
    rw [xor_and, UInt32.and_assoc, UInt32.and_self, UInt32.xor_self]
  have hcrc : crc >>> 8 = state >>> 8 := by
    rw [← hstate, UInt32.shiftRight_xor, shiftRight_toUInt32, UInt32.xor_zero]
  calc crc32Byte crc byte = crc32Steps (state &&& 0xFF) ^^^ (state >>> 8) := by
        rw [crc32Byte, hstate, hcrc]
    _ = crc32Steps (state &&& 0xFF) ^^^ crc32Steps (state ^^^ (state &&& 0xFF)) := by
        rw [crc32Steps_of_low hhigh, UInt32.shiftRight_xor, shiftRight_low, UInt32.xor_zero]
    _ = crc32Steps state := by
        rw [← crc32Steps_xor, UInt32.xor_comm state, ← UInt32.xor_assoc, UInt32.xor_self,
          UInt32.zero_xor]

theorem crc32Byte_state_inj {a b : UInt32} {byte : UInt8} :
    crc32Byte a byte = crc32Byte b byte ↔ a = b := by
  rw [crc32Byte_eq, crc32Byte_eq, crc32Steps_inj, UInt32.xor_left_inj]

theorem crc32Byte_byte_inj {crc : UInt32} {a b : UInt8} :
    crc32Byte crc a = crc32Byte crc b ↔ a = b := by
  rw [crc32Byte_eq, crc32Byte_eq, crc32Steps_inj, UInt32.xor_right_inj]
  constructor
  · intro h
    have := congrArg UInt32.toNat h
    exact UInt8.toNat_inj.1 this
  · exact congrArg UInt8.toUInt32

/-- The same bytes read from two states keep them apart. -/
theorem foldl_crc32Byte_inj {bytes : List UInt8} {a b : UInt32} :
    bytes.foldl crc32Byte a = bytes.foldl crc32Byte b ↔ a = b := by
  induction bytes generalizing a b with
  | nil => rfl
  | cons byte bytes ih => rw [List.foldl_cons, List.foldl_cons, ih, crc32Byte_state_inj]

theorem crc32_append_cons_inj {before after : List UInt8} {a b : UInt8} :
    crc32 (before ++ a :: after) = crc32 (before ++ b :: after) ↔ a = b := by
  rw [crc32, crc32, UInt32.xor_left_inj, List.foldl_append, List.foldl_append, List.foldl_cons,
    List.foldl_cons, foldl_crc32Byte_inj, crc32Byte_byte_inj]

/-- One byte that is changed, anywhere in a text, changes the checksum. -/
theorem crc32_set_ne {bytes : List UInt8} {i : Nat} {byte : UInt8} (hi : i < bytes.length)
    (hbyte : byte ≠ bytes[i]) : crc32 (bytes.set i byte) ≠ crc32 bytes := by
  have hbytes : bytes = bytes.take i ++ bytes[i] :: bytes.drop (i + 1) := by
    rw [← List.drop_eq_getElem_cons hi, List.take_append_drop]
  intro hsame
  rw [List.set_eq_take_append_cons_drop, if_pos hi, congrArg crc32 hbytes] at hsame
  exact hbyte (crc32_append_cons_inj.1 hsame)

end ContentFilter.Hash
