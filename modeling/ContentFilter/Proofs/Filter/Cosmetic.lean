import ContentFilter.Proofs.Domain.Hostname

/-! What every parsed cosmetic filter has: its own text, which is read as the filter again, and hosts in
lower case, of which none is a mere ending. -/

namespace ContentFilter

theorem Domain.isHostChar_of_normalize? {host name : List Char}
    (h : Domain.normalize? host = some name) :
    name ≠ [] ∧ ∀ c ∈ name, NetworkFilter.isHostChar c = true := by
  unfold Domain.normalize? at h
  extract_lets trimmed at h
  split at h
  · next hname =>
    cases h
    obtain ⟨hne, hall⟩ := Bool.and_eq_true_iff.1 hname
    refine ⟨by simpa [Text.lower] using hne, fun c hc => ?_⟩
    obtain ⟨d, hd, rfl⟩ := List.mem_map.1 hc
    exact (NetworkFilter.isHostChar_plain (List.all_eq_true.1 hall d hd)).2.2.2
  · cases h

namespace CosmeticFilter

/-- A host or a name with an ending for its public suffix, in lower case. -/
structure IsPattern (pattern : List Char) : Prop where
  lower : Text.lower pattern = pattern
  named : pattern ≠ ['.', '*']

/-- The hosts of a parsed filter are patterns. -/
def WellFormed (filter : CosmeticFilter) : Prop :=
  ∀ host ∈ filter.hostnames, IsPattern host.toList

theorem isPattern_of_parseHostname {host : List Char} {name : String}
    (h : parseHostname host = .ok name) : IsPattern name.toList := by
  dsimp only [parseHostname] at h
  split at h
  · next found hfound =>
    cases h
    rw [String.toList_ofList]
    split at hfound
    · obtain ⟨entity, hentity, rfl⟩ := Option.map_eq_some_iff.1 hfound
      have hending : Text.lower ['.', '*'] = ['.', '*'] := by decide
      refine ⟨?_, fun hmere => ?_⟩
      · rw [Text.lower_append, Domain.lower_of_normalize? hentity, hending]
      · exact (Domain.isHostChar_of_normalize? hentity).1 (List.append_left_eq_self.1 hmere)
    · refine ⟨Domain.lower_of_normalize? hfound, ?_⟩
      rintro rfl
      exact absurd ((Domain.isHostChar_of_normalize? hfound).2 '*' (by simp)) (by decide)
  · cases h

theorem isPattern_of_parseHostnames {text : List Char} {hosts : List (Bool × String)}
    (h : parseHostnames text = .ok hosts) : ∀ host ∈ hosts, IsPattern host.2.toList := by
  intro host hhost
  obtain ⟨part, -, hpart⟩ := exists_of_mem_mapM h hhost
  split at hpart
  · obtain ⟨name, hname, rfl⟩ := ok_of_map hpart
    exact isPattern_of_parseHostname hname
  · obtain ⟨name, hname, rfl⟩ := ok_of_map hpart
    exact isPattern_of_parseHostname hname

theorem parseChars_trim (line : List Char) : parseChars (Text.trim line) = parseChars line := by
  rw [parseChars, parseChars, Text.trim_trim]

/-- A filter has the text that it is read from. -/
theorem raw_of_parseChars {line : List Char} {filter : CosmeticFilter} (h : parseChars line = .ok filter) :
    filter.raw = String.ofList (Text.trim line) := by
  unfold parseChars at h
  extract_lets raw at h
  split at h
  · cases h
  · obtain ⟨hosts, -, h⟩ := ok_of_bind h
    obtain ⟨found, -, h⟩ := ok_of_bind h
    cases h
    rfl

theorem wellFormed_of_parseChars {line : List Char} {filter : CosmeticFilter}
    (h : parseChars line = .ok filter) : filter.WellFormed := by
  unfold parseChars at h
  extract_lets raw at h
  split at h
  · cases h
  · next hosts sep body _ =>
    obtain ⟨parsed, hparsed, h⟩ := ok_of_bind h
    obtain ⟨⟨kind, selector⟩, -, h⟩ := ok_of_bind h
    cases h
    intro host hhost
    obtain ⟨pair, hpair, rfl⟩ := List.mem_map.1 hhost
    exact isPattern_of_parseHostnames hparsed pair (List.mem_filter.1 hpair).1

end CosmeticFilter

namespace Filter

variable {line : List Char} {filter : CosmeticFilter}

theorem parseChars_trim (line : List Char) : parseChars (Text.trim line) = parseChars line := by
  rw [parseChars, parseChars, Text.trim_trim]

/-- A line has a cosmetic filter when it is no comment, has a separator and is read as one. -/
theorem parseChars_eq_cosmetic : parseChars line = .ok (some (.cosmetic filter)) ↔
    isComment (Text.trim line) = false ∧ typeOf (Text.trim line) = .cosmetic ∧
      CosmeticFilter.parseChars line = .ok filter := by
  unfold parseChars
  extract_lets trimmed
  cases hcomment : isComment trimmed with
  | true => simp
  | false =>
    rw [if_neg Bool.false_ne_true]
    constructor
    · intro h
      split at h
      · obtain ⟨found, -, heq⟩ := ok_of_map h
        cases heq
      · next htype =>
        obtain ⟨found, hfound, heq⟩ := ok_of_map h
        cases heq
        rw [CosmeticFilter.parseChars_trim] at hfound
        exact ⟨rfl, htype, hfound⟩
      · cases h
    · rintro ⟨-, htype, hfound⟩
      rw [htype]
      dsimp only
      rw [CosmeticFilter.parseChars_trim, hfound]
      rfl

theorem cosmetic_of_parseChars (h : parseChars line = .ok (some (.cosmetic filter))) :
    CosmeticFilter.parseChars line = .ok filter :=
  (parseChars_eq_cosmetic.1 h).2.2

theorem wellFormed_cosmetic_of_parseChars (h : parseChars line = .ok (some (.cosmetic filter))) :
    filter.WellFormed :=
  CosmeticFilter.wellFormed_of_parseChars (cosmetic_of_parseChars h)

end Filter

namespace CosmeticFilter

/-- A filter is what its own text is read as. -/
def IsRead (filter : CosmeticFilter) : Prop := Filter.parse filter.raw = .ok (some (.cosmetic filter))

theorem isRead_of_parseChars {line : List Char} {filter : CosmeticFilter}
    (h : Filter.parseChars line = .ok (some (.cosmetic filter))) : filter.IsRead := by
  rw [IsRead, Filter.parse, raw_of_parseChars (Filter.cosmetic_of_parseChars h), String.toList_ofList,
    Filter.parseChars_trim, h]

/-- Filters of one text are the same. -/
theorem IsRead.eq_of_raw_eq {filter other : CosmeticFilter} (h : filter.IsRead) (hother : other.IsRead)
    (hraw : filter.raw = other.raw) : filter = other := by
  rw [IsRead, hraw, hother] at h
  cases h
  rfl

theorem IsRead.wellFormed {filter : CosmeticFilter} (h : filter.IsRead) : filter.WellFormed :=
  Filter.wellFormed_cosmetic_of_parseChars h

end CosmeticFilter

/-- All filters of a list, without their places. -/
def ParsedList.filters (parsed : ParsedList) : List Filter :=
  parsed.network.map .network ++ parsed.cosmetic.map .cosmetic

namespace ParsedList

variable {filter : Filter}

theorem mem_filters_add {parsed : ParsedList} {number : Nat} {line : List Char} :
    filter ∈ (parsed.add number line).filters ↔
      Filter.parseChars line = .ok (some filter) ∨ filter ∈ parsed.filters := by
  rw [add]
  split
  · next found hfound => cases filter <;> simp [filters, hfound, eq_comm]
  · next found hfound => cases filter <;> simp [filters, hfound, eq_comm]
  · next hnone => simp [hnone]
  · next cause herror => simp [filters, herror]

theorem mem_filters_ofLines {number : Nat} {lines : List (List Char)} :
    filter ∈ (ofLines number lines).filters ↔
      ∃ line ∈ lines, Filter.parseChars line = .ok (some filter) := by
  induction lines generalizing number with
  | nil => simp [ofLines, filters]
  | cons line lines ih => rw [ofLines, mem_filters_add, ih, List.exists_mem_cons_iff]

theorem mem_cosmetic_iff {parsed : ParsedList} {filter : CosmeticFilter} :
    filter ∈ parsed.cosmetic ↔ .cosmetic filter ∈ parsed.filters := by
  simp [filters]

theorem isRead_ofLines (number : Nat) (lines : List (List Char)) :
    ∀ filter ∈ (ofLines number lines).cosmetic, filter.IsRead := by
  intro filter hfilter
  obtain ⟨line, -, hline⟩ := mem_filters_ofLines.1 (mem_cosmetic_iff.1 hfilter)
  exact CosmeticFilter.isRead_of_parseChars hline

theorem wellFormed_cosmetic_ofLines (number : Nat) (lines : List (List Char)) :
    ∀ filter ∈ (ofLines number lines).cosmetic, filter.WellFormed :=
  fun filter hfilter => (isRead_ofLines number lines filter hfilter).wellFormed

end ParsedList

end ContentFilter
