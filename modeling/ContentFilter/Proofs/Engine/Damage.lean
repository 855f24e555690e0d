import ContentFilter.Proofs.Engine.Restore
import ContentFilter.Proofs.Hash.Crc32

/-! A snapshot that was cut short, or in which one byte was changed, gives no engine: every part of it but
the flags is checked, and a size that was made smaller leaves no whole payload. -/

namespace ContentFilter

namespace Snapshot

theorem ofLittleEndian_inj {a b : List UInt8} (hlength : a.length = b.length) :
    ofLittleEndian a = ofLittleEndian b ↔ a = b := by
  refine ⟨fun h => ?_, congrArg ofLittleEndian⟩
  induction a generalizing b with
  | nil => exact (List.eq_nil_of_length_eq_zero hlength.symm).symm
  | cons byte rest ih =>
    obtain ⟨byte', rest', rfl⟩ := List.exists_cons_of_length_eq_add_one hlength.symm
    simp only [ofLittleEndian, List.foldr_cons] at h ih
    have hbyte := byte.toNat_lt
    have hbyte' := byte'.toNat_lt
    rw [UInt8.toNat_inj.1 (show byte.toNat = byte'.toNat by omega),
      ih (by simpa using hlength) (by omega)]

theorem field_take {data : List UInt8} {n offset count : Nat} (h : offset + count ≤ n) :
    field (data.take n) offset count = field data offset count := by
  rw [field, field, List.drop_take, List.take_take, Nat.min_eq_left (by omega)]

theorem field_set_of_outside {data : List UInt8} {i offset count : Nat} (byte : UInt8)
    (h : i < offset ∨ offset + count ≤ i) :
    field (data.set i byte) offset count = field data offset count := by
  rw [field, field]
  rcases h with h | h
  · rw [List.drop_set_of_lt h]
  · rw [List.drop_set, if_neg (by omega), List.take_set_of_le (by omega)]

theorem field_set_ne {data : List UInt8} {i offset count : Nat} {byte : UInt8}
    (hi : i < data.length) (hbyte : byte ≠ data[i]) (hlow : offset ≤ i)
    (hhigh : i < offset + count) :
    field (data.set i byte) offset count ≠ field data offset count := by
  intro hsame
  rw [field, field, ofLittleEndian_inj (by simp)] at hsame
  have hget := congrArg (·[i - offset]?) hsame
  simp [show i - offset < count by omega, show offset + (i - offset) = i by omega, hi] at hget
  exact hbyte hget

/-- The magic and the version are right, and the flags may be anything. -/
theorem inspect_of_version {data : List UInt8} (hlength : headerSize ≤ data.length)
    (hmagic : data.take 4 = magic) (hversion : field data 4 2 = version) :
    inspect data =
      let stored := field data 8 4
      let size := field data 12 4
      let computed := (Hash.crc32 ((data.drop headerSize).take size)).toNat
      if data.length < headerSize + size then .error .tooShort
      else if stored != computed then .error (.checksum stored computed)
      else .ok { version, flags := field data 6 2, checksum := stored, payloadSize := size } := by
  simp only [inspect, hmagic, hversion, if_neg (Nat.not_lt.2 hlength), bne_self_eq_false,
    Bool.false_eq_true, if_false]

theorem inspect_take {payload : List UInt8} (hsize : payload.length < 2 ^ 32) {n : Nat}
    (hn : n < (wrap payload).length) : inspect ((wrap payload).take n) = .error .tooShort := by
  have hlength := length_wrap payload
  by_cases hheader : n < headerSize
  · rw [inspect, if_pos (by simp only [List.length_take]; omega)]
  · have hkept : headerSize ≤ n := Nat.not_lt.1 hheader
    rw [headerSize] at hlength hkept
    have hmagic : ((wrap payload).take n).take 4 = magic := by
      rw [List.take_take, Nat.min_eq_left (by omega), take_wrap]
    have hversion : field ((wrap payload).take n) 4 2 = version := by
      rw [field_take (by omega), field_wrap_version]
    have hfield : field ((wrap payload).take n) 12 4 = payload.length := by
      rw [field_take (by omega), field_wrap_size, Nat.mod_eq_of_lt hsize]
    rw [inspect_of_version (by simp only [List.length_take, headerSize]; omega) hmagic hversion]
    dsimp only
    rw [hfield, if_pos (by simp only [List.length_take, headerSize]; omega)]

section Set

variable {payload : List UInt8} {i : Nat} {byte : UInt8}

theorem inspect_set_magic (hi : i < (wrap payload).length) (hbyte : byte ≠ (wrap payload)[i])
    (hmagic : i < 4) : inspect ((wrap payload).set i byte) = .error .invalidMagic := by
  have hlength := length_wrap payload
  have htake : ((wrap payload).set i byte).take 4 ≠ magic := by
    rw [← take_wrap payload]
    intro hsame
    have hget := congrArg (·[i]?) hsame
    simp only [List.getElem?_take_of_lt hmagic, List.getElem?_set_self hi,
      List.getElem?_eq_getElem hi, Option.some.injEq] at hget
    exact hbyte hget
  rw [inspect, if_neg (by rw [List.length_set]; omega), if_pos (by simpa using htake)]

/-- Behind the magic. -/
theorem take_set (h : 4 ≤ i) : ((wrap payload).set i byte).take 4 = magic := by
  rw [List.take_set_of_le h, take_wrap]

theorem inspect_set_version (hi : i < (wrap payload).length) (hbyte : byte ≠ (wrap payload)[i])
    (hlow : 4 ≤ i) (hhigh : i < 6) :
    ∃ found ≠ version, inspect ((wrap payload).set i byte) = .error (.unsupportedVersion found) := by
  have hlength := length_wrap payload
  have hfound := field_set_ne hi hbyte hlow (show i < 4 + 2 from hhigh)
  rw [field_wrap_version] at hfound
  refine ⟨_, hfound, ?_⟩
  rw [inspect, if_neg (by rw [List.length_set]; omega), if_neg (by simp [take_set hlow]),
    if_pos (by simpa using hfound)]

/-- Behind the version. -/
theorem inspect_set (h : 6 ≤ i) :
    inspect ((wrap payload).set i byte) =
      let data := (wrap payload).set i byte
      let stored := field data 8 4
      let size := field data 12 4
      let computed := (Hash.crc32 ((data.drop headerSize).take size)).toNat
      if headerSize + payload.length < headerSize + size then .error .tooShort
      else if stored != computed then .error (.checksum stored computed)
      else .ok { version, flags := field data 6 2, checksum := stored, payloadSize := size } := by
  have hlength := length_wrap payload
  have hversion : field ((wrap payload).set i byte) 4 2 = version := by
    rw [field_set_of_outside byte (.inr h), field_wrap_version]
  rw [inspect_of_version (by rw [List.length_set]; omega) (take_set (by omega)) hversion]
  simp only [List.length_set, hlength]

/-- A change of the header leaves the payload. -/
theorem drop_set_header (h : i < headerSize) :
    ((wrap payload).set i byte).drop headerSize = payload := by
  rw [List.drop_set_of_lt h, drop_wrap]

theorem inspect_set_checksum (hsize : payload.length < 2 ^ 32) (hi : i < (wrap payload).length)
    (hbyte : byte ≠ (wrap payload)[i]) (hlow : 8 ≤ i) (hhigh : i < 12) :
    ∃ stored ≠ (Hash.crc32 payload).toNat, inspect ((wrap payload).set i byte) =
      .error (.checksum stored (Hash.crc32 payload).toNat) := by
  have hstored := field_set_ne hi hbyte hlow (show i < 8 + 4 from hhigh)
  rw [field_wrap_checksum] at hstored
  have hfield : field ((wrap payload).set i byte) 12 4 = payload.length := by
    rw [field_set_of_outside byte (.inl hhigh), field_wrap_size, Nat.mod_eq_of_lt hsize]
  refine ⟨_, hstored, ?_⟩
  rw [inspect_set (by omega)]
  dsimp only
  rw [hfield, drop_set_header (show i < 16 by omega), List.take_length, if_neg (Nat.lt_irrefl _),
    if_pos (by simpa using hstored)]

theorem inspect_set_payload (hsize : payload.length < 2 ^ 32) (hi : i < (wrap payload).length)
    (hbyte : byte ≠ (wrap payload)[i]) (h : headerSize ≤ i) :
    let changed := payload.set (i - headerSize) byte
    inspect ((wrap payload).set i byte) =
      .error (.checksum (Hash.crc32 payload).toNat (Hash.crc32 changed).toNat) ∧
    (Hash.crc32 changed).toNat ≠ (Hash.crc32 payload).toNat := by
  have hlength := length_wrap payload
  have hposition : i - headerSize < payload.length := by omega
  have hget : payload[i - headerSize] = (wrap payload)[i] := by
    have hdrop := congrArg (·[i - headerSize]?) (drop_wrap payload)
    simp only [List.getElem?_drop, Nat.add_sub_cancel' h, List.getElem?_eq_getElem hi,
      List.getElem?_eq_getElem hposition, Option.some.injEq] at hdrop
    exact hdrop.symm
  have hchanged : (Hash.crc32 (payload.set (i - headerSize) byte)).toNat ≠
      (Hash.crc32 payload).toNat := by
    rw [Ne, UInt32.toNat_inj]
    exact Hash.crc32_set_ne hposition (hget ▸ hbyte)
  have hdrop : ((wrap payload).set i byte).drop headerSize = payload.set (i - headerSize) byte := by
    rw [List.drop_set, if_neg (Nat.not_lt.2 h), drop_wrap]
  rw [headerSize] at h
  have hstored : field ((wrap payload).set i byte) 8 4 = (Hash.crc32 payload).toNat := by
    rw [field_set_of_outside byte (.inr (by omega)), field_wrap_checksum]
  have hfield : field ((wrap payload).set i byte) 12 4 = payload.length := by
    rw [field_set_of_outside byte (.inr h), field_wrap_size, Nat.mod_eq_of_lt hsize]
  refine ⟨?_, hchanged⟩
  rw [inspect_set (by omega)]
  dsimp only
  rw [hfield, hstored, hdrop, if_neg (Nat.lt_irrefl _),
    List.take_of_length_le (by rw [List.length_set]),
    if_pos (by simpa using Ne.symm hchanged)]

end Set

/-- A text that was cut short is no payload, whatever its checksum. -/
theorem decode_of_size_lt {lists : List ListContent} {data : List UInt8} {info : Info}
    (hinspect : inspect data = .ok info)
    (hdrop : data.drop headerSize = Text.Utf8.encode (payloadJson lists).chars)
    (hshort : info.payloadSize < Text.Utf8.size (payloadJson lists).chars) :
    decode data = .error .payload := by
  rw [decode, hinspect]
  dsimp only [bind, Except.bind]
  rw [hdrop]
  split
  · rfl
  next text htext =>
    have hstart := Text.Utf8.prefix_of_decode_take htext
    have hne : text ≠ (payloadJson lists).chars := by
      rintro rfl
      exact Nat.not_lt.2 (Text.Utf8.size_le_of_decode_take htext) hshort
    rw [Json.parseChars_prefix (isPlain_payloadJson lists) hstart hne]
    rfl

theorem decode_of_inspect_error {data : List UInt8} {error : SnapshotError}
    (h : inspect data = .error error) : decode data = .error error := by
  rw [decode, h]
  rfl

theorem decode_set_size {lists : List ListContent} {i : Nat} {byte : UInt8}
    (hsize : Text.Utf8.size (payloadJson lists).chars < 2 ^ 32) (hi : i < (encode lists).length)
    (hbyte : byte ≠ (encode lists)[i]) (hlow : 12 ≤ i) (hhigh : i < headerSize) :
    ∃ error, decode ((encode lists).set i byte) = .error error := by
  rw [← Text.Utf8.length_encode] at hsize
  have hfield := field_set_ne hi hbyte hlow (show i < 12 + 4 from hhigh)
  have hinspect := @inspect_set (Text.Utf8.encode (payloadJson lists).chars) i byte (by omega)
  rw [encode] at hfield ⊢
  rw [field_wrap_size, Nat.mod_eq_of_lt hsize] at hfield
  dsimp only at hinspect
  split_ifs at hinspect with hlong hchecksum
  · exact ⟨_, decode_of_inspect_error hinspect⟩
  · exact ⟨_, decode_of_inspect_error hinspect⟩
  · refine ⟨_, decode_of_size_lt hinspect (drop_set_header hhigh) ?_⟩
    rw [← Text.Utf8.length_encode]
    dsimp only
    omega

theorem inspect_set_flags (payload : List UInt8) (byte : UInt8) {i : Nat} (hlow : 6 ≤ i)
    (hhigh : i < 8) : ∃ flags, inspect ((wrap payload).set i byte) =
      (inspect (wrap payload)).map ({ · with flags }) := by
  have hlength := length_wrap payload
  refine ⟨field ((wrap payload).set i byte) 6 2, ?_⟩
  rw [inspect_set hlow,
    inspect_of_version (by omega) (take_wrap payload) (field_wrap_version payload)]
  dsimp only
  rw [field_set_of_outside byte (.inl hhigh), field_set_of_outside byte (.inl (by omega)),
    drop_set_header (show i < 16 by omega), drop_wrap, hlength]
  split_ifs <;> rfl

/-- The flags are not read. -/
theorem decode_set_flags (payload : List UInt8) (byte : UInt8) {i : Nat} (hlow : 6 ≤ i)
    (hhigh : i < 8) : decode ((wrap payload).set i byte) = decode (wrap payload) := by
  obtain ⟨flags, hinspect⟩ := inspect_set_flags payload byte hlow hhigh
  rw [decode, decode, hinspect, drop_set_header (show i < 16 by omega), drop_wrap]
  cases inspect (wrap payload) <;> rfl

end Snapshot

namespace Engine

/-- Nothing is read of a snapshot that was cut short or in which a byte other than the flags was
changed, and the error tells which part of it the byte is in, but for the size. -/
theorem deserialize_damaged (origin : Nat) {engine : Engine}
    (hsize : Text.Utf8.size (Snapshot.payloadJson (engine.lists.map (·.toListContent))).chars <
      2 ^ 32) :
    (∀ data, data <+: engine.serialize → data ≠ engine.serialize →
      deserialize origin data = .error .tooShort) ∧
    ∀ (i : Nat) (byte : UInt8) (hi : i < engine.serialize.length), byte ≠ engine.serialize[i] →
      i ≠ 6 → i ≠ 7 →
      ∃ error, deserialize origin (engine.serialize.set i byte) = .error error ∧
        (i < 4 → error = .invalidMagic) ∧
        (4 ≤ i ∧ i < 6 → ∃ found ≠ Snapshot.version, error = .unsupportedVersion found) ∧
        (8 ≤ i ∧ i < 12 ∨ Snapshot.headerSize ≤ i →
          ∃ stored computed, stored ≠ computed ∧ error = .checksum stored computed) := by
  have hdeserialize {data : List UInt8} {error : SnapshotError}
      (h : Snapshot.decode data = .error error) : deserialize origin data = .error error := by
    rw [deserialize, h]
    rfl
  have hpayload := hsize
  rw [← Text.Utf8.length_encode] at hpayload
  constructor
  case left =>
    intro data hstart hne
    have hlength := hstart.length_le
    have hshort : data.length < engine.serialize.length :=
      Nat.lt_of_le_of_ne hlength fun hsame => hne (hstart.eq_of_length hsame)
    rw [List.prefix_iff_eq_take.1 hstart]
    exact hdeserialize (Snapshot.decode_of_inspect_error (Snapshot.inspect_take hpayload hshort))
  case right =>
    intro i byte hi hbyte hlow hhigh
    have hregion : i < 4 ∨ (4 ≤ i ∧ i < 6) ∨ (8 ≤ i ∧ i < 12) ∨
        (12 ≤ i ∧ i < Snapshot.headerSize) ∨ Snapshot.headerSize ≤ i := by
      rw [Snapshot.headerSize]
      omega
    rcases hregion with hi4 | ⟨h4, h6⟩ | ⟨h8, h12⟩ | ⟨h12, h16⟩ | h16
    · have hinspect := Snapshot.inspect_set_magic hi hbyte hi4
      exact ⟨_, hdeserialize (Snapshot.decode_of_inspect_error hinspect), fun _ => rfl, by omega,
        by rw [Snapshot.headerSize]; omega⟩
    · obtain ⟨found, hne, hinspect⟩ := Snapshot.inspect_set_version hi hbyte h4 h6
      exact ⟨_, hdeserialize (Snapshot.decode_of_inspect_error hinspect), by omega,
        fun _ => ⟨found, hne, rfl⟩, by rw [Snapshot.headerSize]; omega⟩
    · obtain ⟨stored, hne, hinspect⟩ := Snapshot.inspect_set_checksum hpayload hi hbyte h8 h12
      exact ⟨_, hdeserialize (Snapshot.decode_of_inspect_error hinspect), by omega, by omega,
        fun _ => ⟨_, _, hne, rfl⟩⟩
    · obtain ⟨error, hdecode⟩ := Snapshot.decode_set_size hsize hi hbyte h12 h16
      exact ⟨error, hdeserialize hdecode, by omega, by omega, by omega⟩
    · obtain ⟨hinspect, hne⟩ := Snapshot.inspect_set_payload hpayload hi hbyte h16
      rw [Snapshot.headerSize] at h16
      exact ⟨_, hdeserialize (Snapshot.decode_of_inspect_error hinspect), by omega, by omega,
        fun _ => ⟨_, _, hne.symm, rfl⟩⟩

theorem deserialize_damaged_twoLists :
    deserialize 7 (twoLists.serialize.take 20) = .error .tooShort ∧
    ∃ stored computed, stored ≠ computed ∧
      deserialize 7 (twoLists.serialize.set 16 0x5B) = .error (.checksum stored computed) := by
  obtain ⟨hcut, hset⟩ := deserialize_damaged 7 size_twoLists
  have hbrace : twoLists.serialize[16]? = some 0x7B := by
    rw [serialize, lists_twoLists]
    decide +kernel
  obtain ⟨hlength, hget⟩ := List.getElem?_eq_some_iff.1 hbrace
  constructor
  case left =>
    refine hcut _ (List.take_prefix 20 _) fun hwhole => ?_
    have hsize : 20 < twoLists.serialize.length := by
      rw [serialize, lists_twoLists]
      decide +kernel
    have := congrArg List.length hwhole
    rw [List.length_take] at this
    omega
  case right =>
    obtain ⟨error, herror, -, -, hkind⟩ :=
      hset 16 0x5B hlength (by rw [hget]; decide) (by decide) (by decide)
    obtain ⟨stored, computed, hne, rfl⟩ := hkind (.inr (Nat.le_refl 16))
    exact ⟨stored, computed, hne, herror⟩

end Engine

end ContentFilter
