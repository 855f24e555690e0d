import ContentFilter.Filter.Record
import ContentFilter.Proofs.Data.BitNames
import ContentFilter.Proofs.Filter.Parsed
import ContentFilter.Proofs.Json.Decode

/-! A filter reads back from its record. -/

namespace ContentFilter

/-- What the names stand for is no larger than the sets. -/
structure BitNames.Bounded (names : BitNames) : Prop where
  flags : ∀ flag ∈ names.flags, flag.2 < names.width
  unions : ∀ union ∈ names.unions, union.2.bits < 2 ^ names.width

theorem Flag.names_proper : Flag.names.Proper where
  isName := by decide
  notNumber := by decide
  lookup := by decide

theorem Flag.names_bounded : Flag.names.Bounded where
  flags := by decide
  unions := by decide

theorem Kind.names_proper : Kind.names.Proper where
  isName := by decide
  notNumber := by decide
  lookup := by decide

theorem Kind.names_bounded : Kind.names.Bounded where
  flags := by decide
  unions := by decide

theorem Party.names_proper : Party.names.Proper where
  isName := by decide
  notNumber := by decide
  lookup := by decide

theorem Party.names_bounded : Party.names.Bounded where
  flags := by decide
  unions := by decide

theorem BitNames.decode_write {names : BitNames} (hnames : names.Proper) {s : BitSet}
    (hs : s.Below names.width) : names.decode (.string (names.write s)) = some s :=
  read_write hnames hs

theorem BitNames.below_of_readName {names : BitNames} (hnames : names.Bounded) {name : List Char}
    {s : BitSet} (h : names.readName name = some s) : s.Below names.width := by
  rw [readName] at h
  split at h
  · obtain ⟨n, -, h⟩ := Option.bind_eq_some_iff.1 h
    split at h
    · next hlt =>
      cases h
      exact BitSet.below_of_bits_lt (by rwa [Nat.one_shiftLeft] at hlt)
    · cases h
  · dsimp only at h
    rw [Option.orElse_eq_orElse, Option.orElse_eq_or, Option.or_eq_some_iff] at h
    rcases h with h | ⟨-, h⟩
    · obtain ⟨i, hi, rfl⟩ := Option.map_eq_some_iff.1 h
      obtain ⟨before, after, hflags, -⟩ := List.lookup_eq_some_iff.1 hi
      have hmem : (String.ofList name, i) ∈ names.flags := by simp [hflags]
      exact BitSet.below_single (hnames.flags _ hmem)
    · obtain ⟨before, after, hunions, -⟩ := List.lookup_eq_some_iff.1 h
      have hmem : (String.ofList name, s) ∈ names.unions := by simp [hunions]
      exact BitSet.below_of_bits_lt (hnames.unions _ hmem)

/-- Whatever is read as a set fits its field. -/
theorem BitNames.below_of_decode {names : BitNames} (hnames : names.Bounded) {json : Json} {s : BitSet}
    (h : names.decode json = some s) : s.Below names.width := by
  obtain ⟨text, -, h⟩ := Option.bind_eq_some_iff.1 h
  rw [read] at h
  split at h
  · cases h
    exact BitSet.below_empty _
  · obtain ⟨sets, hsets, h⟩ := Option.bind_eq_some_iff.1 h
    cases h
    apply BitSet.below_foldl_union _ (BitSet.below_empty _)
    intro set hset
    obtain ⟨piece, -, hpiece⟩ := some_of_mem_mapM hsets hset
    exact below_of_readName hnames hpiece

open Json.Decode (record_object strings_strings nullable_optional list_map)

theorem DomainConstraint.decode_toJson (domains : DomainConstraint) :
    decode domains.toJson = some domains := by
  have hnames : ["include", "exclude"].Nodup := by decide
  have hrecord := @record_object
    [("include", .strings domains.included), ("exclude", .strings domains.excluded)] hnames
  simp only [List.map_cons, List.map_nil] at hrecord
  rw [decode, toJson, hrecord]
  simp [Json.Decode.Record.required, Json.Decode.Record.get?, List.lookup_cons, strings_strings]

theorem DomainConstraint.isPlain_toJson (domains : DomainConstraint) :
    domains.toJson.isPlain = true := by
  rw [toJson, Json.isPlain, Json.arePlainFields_iff]
  simp [Json.isPlain_strings]

namespace NetworkFilter

/-- The sets of a filter are no larger than their fields. -/
structure Fits (filter : NetworkFilter) : Prop where
  flags : filter.flags.Below Flag.names.width
  kinds : filter.kinds.Below Kind.names.width
  parties : filter.parties.Below Party.names.width

theorem WellFormed.fits {filter : NetworkFilter} (h : filter.WellFormed) : filter.Fits where
  flags i hi := (h.flags i hi).trans (by decide)
  kinds i hi := (h.kinds i hi).trans (by decide)
  parties i hi := (h.parties i hi).trans (by decide)

theorem decode_toJson {filter : NetworkFilter} (h : filter.Fits) :
    decode filter.toJson = some filter := by
  have hnames : ["raw", "action", "flags", "hostname", "pattern", "type_mask", "party_mask",
    "domains", "redirect", "csp"].Nodup := by decide
  have hrecord := @record_object
    [("raw", .string filter.raw), ("action", filter.action.toJson),
      ("flags", .string (Flag.names.write filter.flags)),
      ("hostname", .optional .string filter.hostname), ("pattern", .string filter.pattern),
      ("type_mask", .string (Kind.names.write filter.kinds)),
      ("party_mask", .string (Party.names.write filter.parties)),
      ("domains", .optional DomainConstraint.toJson filter.domains),
      ("redirect", .optional .string filter.redirect), ("csp", .optional .string filter.csp)] hnames
  have haction : Json.Decode.name Action.names filter.action.toJson = some filter.action := by
    cases filter.action <;> rfl
  have hflags := BitNames.decode_write Flag.names_proper h.flags
  have hkinds := BitNames.decode_write Kind.names_proper h.kinds
  have hparties := BitNames.decode_write Party.names_proper h.parties
  have htext : ∀ value : Option String,
      Json.Decode.nullable Json.Decode.string (.optional .string value) = some value :=
    fun value => nullable_optional nofun fun _ _ => rfl
  have hdomains : Json.Decode.nullable DomainConstraint.decode
      (.optional DomainConstraint.toJson filter.domains) = some filter.domains :=
    nullable_optional nofun fun domains _ => domains.decode_toJson
  simp only [List.map_cons, List.map_nil] at hrecord
  rw [decode, toJson, hrecord]
  simp [Json.Decode.Record.required, Json.Decode.Record.optional, Json.Decode.Record.get?,
    List.lookup_cons, haction, hflags, hkinds, hparties, htext, hdomains, Json.Decode.string]

theorem fits_of_decode {json : Json} {filter : NetworkFilter} (h : decode json = some filter) :
    filter.Fits := by
  simp only [decode, Json.Decode.Record.required, Option.bind_eq_bind, Option.bind_eq_some_iff] at h
  obtain ⟨r, -, raw, -, action, -, flags, ⟨_, -, hflags⟩, hostname, -, pattern, -, kinds, ⟨_, -, hkinds⟩,
    parties, ⟨_, -, hparties⟩, domains, -, redirect, -, csp, -, h⟩ := h
  cases h
  exact ⟨BitNames.below_of_decode Flag.names_bounded hflags,
    BitNames.below_of_decode Kind.names_bounded hkinds,
    BitNames.below_of_decode Party.names_bounded hparties⟩

theorem isPlain_toJson (filter : NetworkFilter) : filter.toJson.isPlain = true := by
  have haction : filter.action.toJson.isPlain = true := by cases filter.action <;> rfl
  have htext : ∀ value : Option String, (Json.optional .string value).isPlain = true :=
    Json.isPlain_optional fun _ => rfl
  have hdomains := Json.isPlain_optional DomainConstraint.isPlain_toJson filter.domains
  rw [toJson, Json.isPlain, Json.arePlainFields_iff]
  simp [Json.isPlain, haction, htext, hdomains]

end NetworkFilter

theorem ScriptletCall.decode_toJson (call : ScriptletCall) : decode call.toJson = some call := by
  have hnames : ["name", "args"].Nodup := by decide
  have hrecord := @record_object [("name", .string call.name), ("args", .strings call.args)] hnames
  simp only [List.map_cons, List.map_nil] at hrecord
  rw [decode, toJson, hrecord]
  simp [Json.Decode.Record.required, Json.Decode.Record.get?, List.lookup_cons, strings_strings,
    Json.Decode.string]

theorem CosmeticKind.decode_toJson (kind : CosmeticKind) : decode kind.toJson = some kind := by
  cases kind with
  | scriptlet call =>
    rw [toJson, decode, Json.Decode.variant]
    exact congrArg (Option.map CosmeticKind.scriptlet) call.decode_toJson
  | hide | style | extended | html => rfl

theorem CosmeticKind.isPlain_toJson (kind : CosmeticKind) : kind.toJson.isPlain = true := by
  cases kind with
  | scriptlet call => simp [toJson, ScriptletCall.toJson, Json.isPlain, Json.arePlainFields, Json.isPlain_strings]
  | hide | style | extended | html => rfl

namespace CosmeticFilter

theorem decode_toJson (filter : CosmeticFilter) : decode filter.toJson = some filter := by
  have hnames : ["raw", "hostnames", "not_hostnames", "unhide", "kind", "selector"].Nodup := by
    decide
  have hrecord := @record_object
    [("raw", .string filter.raw), ("hostnames", .strings filter.hostnames),
      ("not_hostnames", .strings filter.notHostnames), ("unhide", .bool filter.unhide),
      ("kind", filter.kind.toJson), ("selector", .string filter.selector)] hnames
  simp only [List.map_cons, List.map_nil] at hrecord
  rw [decode, toJson, hrecord]
  simp [Json.Decode.Record.required, Json.Decode.Record.get?, List.lookup_cons, strings_strings,
    filter.kind.decode_toJson, Json.Decode.string, Json.Decode.bool]

theorem isPlain_toJson (filter : CosmeticFilter) : filter.toJson.isPlain = true := by
  rw [toJson, Json.isPlain, Json.arePlainFields_iff]
  simp [Json.isPlain, Json.isPlain_strings, filter.kind.isPlain_toJson]

end CosmeticFilter

end ContentFilter
