import ContentFilter.Engine.Snapshot
import ContentFilter.Proofs.Filter.Record
import ContentFilter.Proofs.Json.RoundTrip
import ContentFilter.Proofs.Text.Utf8

/-! A snapshot gives back the lists that it was made of, or nothing. -/

namespace ContentFilter

namespace ListContent

/-- The network filters of a list are such as a line can be read as. -/
def WellFormed (content : ListContent) : Prop := ∀ filter ∈ content.network, filter.WellFormed

/-- The sets of the network filters are no larger than their fields. -/
def Fits (content : ListContent) : Prop := ∀ filter ∈ content.network, filter.Fits

theorem WellFormed.fits {content : ListContent} (h : content.WellFormed) : content.Fits :=
  fun filter hfilter => (h filter hfilter).fits

/-- A record whose fields can be read is read, whatever the fields are. -/
theorem decode_record {name : String} {n : Nat} {network : List NetworkFilter}
    {cosmetic : List CosmeticFilter} {digestJson networkJson cosmeticJson : Json}
    (hdigest : Json.Decode.word64 digestJson = some n)
    (hnetwork : Json.Decode.list NetworkFilter.decode networkJson = some network)
    (hcosmetic : Json.Decode.list CosmeticFilter.decode cosmeticJson = some cosmetic) :
    decode (.object [("name", .string name), ("digest", digestJson), ("network", networkJson),
      ("cosmetic", cosmeticJson)]) = some ⟨name, n.toUInt64, network, cosmetic⟩ := by
  have hnames : ["name", "digest", "network", "cosmetic"].Nodup := by decide
  have hrecord := @Json.Decode.record_object
    [("name", .string name), ("digest", digestJson), ("network", networkJson),
      ("cosmetic", cosmeticJson)] hnames
  simp only [List.map_cons, List.map_nil] at hrecord
  rw [decode, hrecord]
  simp [Json.Decode.Record.required, Json.Decode.Record.get?, List.lookup_cons, hdigest, hnetwork,
    hcosmetic, Json.Decode.string]

theorem decode_toJson {content : ListContent} (h : content.Fits) :
    decode content.toJson = some content := by
  have hdigest : Json.Decode.word64 (.nat content.digest.toNat) = some content.digest.toNat :=
    Json.Decode.natBelow_nat content.digest.toNat_lt
  have hnetwork : Json.Decode.list NetworkFilter.decode
      (.array (content.network.map (·.toJson))) = some content.network :=
    Json.Decode.list_map fun filter hfilter => NetworkFilter.decode_toJson (h filter hfilter)
  have hcosmetic : Json.Decode.list CosmeticFilter.decode
      (.array (content.cosmetic.map (·.toJson))) = some content.cosmetic :=
    Json.Decode.list_map fun filter _ => filter.decode_toJson
  rw [toJson, decode_record hdigest hnetwork hcosmetic, Nat.toUInt64, UInt64.ofNat_toNat]

theorem fits_of_decode {json : Json} {content : ListContent} (h : decode json = some content) :
    content.Fits := by
  simp only [decode, Json.Decode.Record.required, Option.bind_eq_bind, Option.bind_eq_some_iff] at h
  obtain ⟨r, -, name, -, digest, -, network, ⟨items, -, hnetwork⟩, cosmetic, -, h⟩ := h
  cases h
  intro filter hfilter
  obtain ⟨item, hitem⟩ := Json.Decode.exists_of_mem_list hnetwork hfilter
  exact NetworkFilter.fits_of_decode hitem

theorem isPlain_toJson (content : ListContent) : content.toJson.isPlain = true := by
  have hnetwork : (Json.array (content.network.map (·.toJson))).isPlain = true := by
    rw [Json.isPlain, Json.arePlain_iff]
    simp [NetworkFilter.isPlain_toJson]
  have hcosmetic : (Json.array (content.cosmetic.map (·.toJson))).isPlain = true := by
    rw [Json.isPlain, Json.arePlain_iff]
    simp [CosmeticFilter.isPlain_toJson]
  rw [toJson, Json.isPlain, Json.arePlainFields_iff]
  simp only [List.forall_mem_cons, hnetwork, hcosmetic, true_and]
  exact ⟨rfl, rfl, nofun⟩

end ListContent

namespace Snapshot

theorem isPlain_payloadJson (lists : List ListContent) : (payloadJson lists).isPlain = true := by
  have hlists : (Json.array (lists.map (·.toJson))).isPlain = true := by
    rw [Json.isPlain, Json.arePlain_iff]
    simp [ListContent.isPlain_toJson]
  rw [payloadJson, Json.isPlain, Json.arePlainFields_iff]
  simp [hlists]

theorem decodePayload_payloadJson {lists : List ListContent}
    (h : ∀ content ∈ lists, content.Fits) :
    decodePayload (payloadJson lists) = some lists := by
  have hnames : ["lists"].Nodup := by decide
  have hrecord := @Json.Decode.record_object
    [("lists", .array (lists.map (·.toJson)))] hnames
  have hlists : Json.Decode.list ListContent.decode (.array (lists.map (·.toJson))) = some lists :=
    Json.Decode.list_map fun content hcontent => ListContent.decode_toJson (h content hcontent)
  simp only [List.map_cons, List.map_nil] at hrecord
  rw [decodePayload, payloadJson, hrecord]
  simp [Json.Decode.Record.required, Json.Decode.Record.get?, hlists]

@[simp] theorem length_littleEndian (count n : Nat) : (littleEndian count n).length = count := by
  simp [littleEndian]

theorem ofLittleEndian_littleEndian (count n : Nat) :
    ofLittleEndian (littleEndian count n) = n % 256 ^ count := by
  induction count generalizing n with
  | zero => rw [Nat.pow_zero, Nat.mod_one]; rfl
  | succ count ih =>
    have hsplit : littleEndian (count + 1) n = n.toUInt8 :: littleEndian count (n >>> 8) := by
      rw [littleEndian, List.range_succ_eq_map, List.map_cons, List.map_map]
      refine congrArg _ (List.map_congr_left fun i _ => ?_)
      rw [Function.comp_apply, ← Nat.shiftRight_add, Nat.mul_succ, Nat.add_comm]
    have hlow : n.toUInt8.toNat = n % 256 := rfl
    rw [hsplit, ofLittleEndian, List.foldr_cons, hlow]
    have hrest := ih (n >>> 8)
    rw [ofLittleEndian] at hrest
    rw [hrest, Nat.shiftRight_eq_div_pow, Nat.pow_succ' (n := count), Nat.mod_mul, Nat.mul_comm,
      Nat.add_comm]

/-- A number of the header stands where the bytes before it end. -/
theorem field_append {before after : List UInt8} {offset count n : Nat}
    (h : before.length = offset) :
    field (before ++ littleEndian count n ++ after) offset count = n % 256 ^ count := by
  rw [field, ← h, List.append_assoc, List.drop_left, List.take_left' (length_littleEndian count n),
    ofLittleEndian_littleEndian]

theorem drop_wrap (payload : List UInt8) : (wrap payload).drop headerSize = payload := by
  rw [wrap, List.drop_left']
  simp [magic, header, headerSize]

theorem length_wrap (payload : List UInt8) : (wrap payload).length = headerSize + payload.length := by
  simp only [wrap, magic, header, headerSize, List.length_append, length_littleEndian,
    List.length_cons, List.length_nil]

theorem wrap_eq (payload : List UInt8) : wrap payload = magic ++ littleEndian 2 version ++
    littleEndian 2 0 ++ littleEndian 4 (Hash.crc32 payload).toNat ++
    littleEndian 4 payload.length ++ payload := by
  simp only [wrap, header, List.append_assoc]

theorem take_wrap (payload : List UInt8) : (wrap payload).take 4 = magic := rfl

theorem field_wrap_version (payload : List UInt8) : field (wrap payload) 4 2 = version := by
  rw [wrap_eq, List.append_assoc, List.append_assoc, List.append_assoc]
  exact field_append rfl

theorem field_wrap_flags (payload : List UInt8) : field (wrap payload) 6 2 = 0 := by
  rw [wrap_eq, List.append_assoc, List.append_assoc]
  exact field_append rfl

theorem field_wrap_checksum (payload : List UInt8) :
    field (wrap payload) 8 4 = (Hash.crc32 payload).toNat := by
  rw [wrap_eq, List.append_assoc, field_append (by simp [magic])]
  exact Nat.mod_eq_of_lt (Hash.crc32 payload).toNat_lt

theorem field_wrap_size (payload : List UInt8) :
    field (wrap payload) 12 4 = payload.length % 2 ^ 32 := by
  rw [wrap_eq]
  exact field_append (by simp [magic])

/-- What the checks find in a snapshot: the size stands modulo its field, and the checksum is taken
of as many bytes. -/
theorem inspect_wrap (payload : List UInt8) :
    inspect (wrap payload) =
      let stored := (Hash.crc32 payload).toNat
      let size := payload.length % 2 ^ 32
      let computed := (Hash.crc32 (payload.take size)).toNat
      if stored != computed then .error (.checksum stored computed)
      else .ok { version, flags := 0, checksum := stored, payloadSize := size } := by
  have hlength := length_wrap payload
  have hshort : ¬ (wrap payload).length < headerSize := by omega
  have hfull : ¬ (wrap payload).length < headerSize + payload.length % 2 ^ 32 := by
    have := Nat.mod_le payload.length (2 ^ 32)
    omega
  simp only [inspect, take_wrap, field_wrap_version, field_wrap_flags, field_wrap_checksum,
    field_wrap_size, drop_wrap, if_neg hshort, if_neg hfull, bne_self_eq_false, Bool.false_eq_true,
    if_false]

/-- The payload reads back as the lists. -/
theorem parse_payload {lists : List ListContent} (h : ∀ content ∈ lists, content.Fits) :
    (Json.parseChars (payloadJson lists).chars >>= decodePayload) = some lists := by
  rw [Json.parseChars_chars (isPlain_payloadJson lists)]
  exact decodePayload_payloadJson h

/-- A snapshot whose payload fits its size field passes every check and gives the lists back. -/
theorem decode_encode {lists : List ListContent} (h : ∀ content ∈ lists, content.Fits)
    (hsize : Text.Utf8.size (payloadJson lists).chars < 2 ^ 32) :
    decode (encode lists) = .ok lists := by
  have hparse := parse_payload h
  have hdecode := Text.Utf8.decode_encode (payloadJson lists).chars
  have hlength : (Text.Utf8.encode (payloadJson lists).chars).length % 2 ^ 32 =
      (Text.Utf8.encode (payloadJson lists).chars).length := by
    rw [Text.Utf8.length_encode, Nat.mod_eq_of_lt hsize]
  have hinspect := inspect_wrap (Text.Utf8.encode (payloadJson lists).chars)
  dsimp only at hinspect
  rw [hlength, List.take_length, bne_self_eq_false, if_neg (by simp)] at hinspect
  rw [decode, encode, hinspect, drop_wrap]
  simp only [bind, Except.bind, List.take_length, hdecode]
  rw [show ((Json.parseChars (payloadJson lists).chars).bind decodePayload) = some lists from hparse]
  rfl

/-- Of whatever bytes, the lists that are read can be written again. -/
theorem fits_of_decode {data : List UInt8} {contents : List ListContent}
    (h : decode data = .ok contents) : ∀ content ∈ contents, content.Fits := by
  obtain ⟨info, -, h⟩ := ok_of_bind h
  dsimp only at h
  split at h
  · cases h
  · split at h
    · next found hfound =>
      cases h
      obtain ⟨json, -, hpayload⟩ := Option.bind_eq_some_iff.1 hfound
      obtain ⟨r, -, hlists⟩ := Option.bind_eq_some_iff.1 hpayload
      obtain ⟨items, -, hitems⟩ := Option.bind_eq_some_iff.1 hlists
      intro content hcontent
      obtain ⟨item, hitem⟩ := Json.Decode.exists_of_mem_list hitems hcontent
      exact ListContent.fits_of_decode hitem
    · cases h

/-- Whatever a snapshot gives back are the lists that it was made of. A payload that is too long for
its size field is cut short, and then it is no object any more. -/
theorem eq_of_decode_encode {lists contents : List ListContent}
    (h : ∀ content ∈ lists, content.Fits) (hdecode : decode (encode lists) = .ok contents) :
    contents = lists := by
  obtain ⟨info, -, hdecode⟩ := ok_of_bind hdecode
  rw [encode, drop_wrap] at hdecode
  dsimp only at hdecode
  split at hdecode
  · cases hdecode
  next text htext =>
  split at hdecode
  · next found hfound =>
    cases hdecode
    by_cases hwhole : text = (payloadJson lists).chars
    · rw [hwhole, parse_payload h] at hfound
      exact (Option.some.inj hfound).symm
    · have hprefix := Text.Utf8.prefix_of_decode_take htext
      have hnone := Json.parseChars_prefix (isPlain_payloadJson lists) hprefix hwhole
      rw [hnone] at hfound
      cases hfound
  · cases hdecode

end Snapshot

end ContentFilter
