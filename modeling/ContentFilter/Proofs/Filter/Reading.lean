import ContentFilter.Proofs.Filter.Options

/-! A line of a list read in two parts: what stands before its options is a pattern or a line of a hosts
file, and both parts decide whether the filter is one at all. -/

namespace ContentFilter.NetworkFilter

open FilterOptions (pieces ofPieces ofPieces_pieces)

/-- The pattern of a text before options. A line of a hosts file stands for the pattern of its host. -/
def readPattern (text : List Char) : Except FilterError Pattern :=
  if text.any Text.isBlank then
    match hostsLine? text with
    | some host => .ok ⟨Flag.hostAnchor.set, some host, ""⟩
    | none => .error .invalidPattern
  else parsePattern text

/-- The flags of the options; those of an exception with a redirect have one more. -/
def optionFlags (action : Action) (options : FilterOptions) : BitSet :=
  if options.redirect.isSome && action == .allow then options.flags.union Flag.redirectRule.set
  else options.flags

/-- Options alone make no regular expression. -/
theorem notRegex_optionFlags {text : Option (List Char)} {options : FilterOptions}
    (h : ofPieces (pieces text) = .ok options) (action : Action) :
    (optionFlags action options).mem Flag.regex.index = false := by
  have hknown : options.Known := by
    rw [ofPieces_pieces] at h
    cases text with
    | none =>
      cases h
      exact FilterOptions.known_default
    | some text => exact FilterOptions.known_of_parse h
  unfold optionFlags
  split
  · rw [BitSet.mem_union, hknown.notRegex]
    decide
  · exact hknown.notRegex

/-- The filter of a pattern and options, unless nothing limits it. -/
def assemble (raw : List Char) (action : Action) (options : FilterOptions) (pattern : Pattern) :
    Except FilterError NetworkFilter :=
  let flags := (optionFlags action options).union pattern.flags
  if isUnrestricted pattern flags options then .error .invalidPattern
  else .ok (ofParts raw action flags options pattern.hostname pattern.text)

/-- The filter of a line without its at signs. -/
def ofLine (raw : List Char) (action : Action) (line : List Char) : Except FilterError NetworkFilter := do
  let options ← ofPieces (pieces (splitOptions line).2)
  let pattern ← readPattern (Text.trim (splitOptions line).1)
  assemble raw action options pattern

/-- What a line is read as, its at signs aside. -/
structure ReadsAs (line : List Char) (options : FilterOptions) (pattern : Pattern) : Prop where
  options : ofPieces (pieces (splitOptions line).2) = .ok options
  pattern : readPattern (Text.trim (splitOptions line).1) = .ok pattern

theorem ReadsAs.ofLine_eq {line : List Char} {options : FilterOptions} {pattern : Pattern}
    (h : ReadsAs line options pattern) (raw : List Char) (action : Action) :
    ofLine raw action line = assemble raw action options pattern := by
  rw [ofLine, h.options, h.pattern]
  rfl

theorem readsAs_of_ofLine {raw line : List Char} {action : Action} {filter : NetworkFilter}
    (h : ofLine raw action line = .ok filter) :
    ∃ options pattern, ReadsAs line options pattern ∧
      isUnrestricted pattern ((optionFlags action options).union pattern.flags) options = false ∧
      filter = ofParts raw action ((optionFlags action options).union pattern.flags) options
        pattern.hostname pattern.text := by
  obtain ⟨options, hoptions, h⟩ := ok_of_bind h
  obtain ⟨pattern, hpattern, h⟩ := ok_of_bind h
  refine ⟨options, pattern, ⟨hoptions, hpattern⟩, ?_⟩
  dsimp only [assemble] at h
  split at h
  · cases h
  · next hlimited =>
    cases h
    exact ⟨by simpa using hlimited, rfl⟩

/-- A line is an exception after two at signs and a blocking filter otherwise. -/
def actionAndLine (raw : List Char) : Action × List Char :=
  match raw with
  | '@' :: '@' :: rest => (.allow, Text.trimStart rest)
  | rest => (.block, rest)

theorem parseChars_eq (line : List Char) : parseChars line =
    if (Text.trim line).isEmpty then .error .empty
    else ofLine (Text.trim line) (actionAndLine (Text.trim line)).1
      (actionAndLine (Text.trim line)).2 := by
  unfold parseChars
  extract_lets raw rest
  simp -zeta only [rest]
  extract_lets part finish
  have hpart : Text.trim (splitOptions (actionAndLine raw).2).1 = part := rfl
  have hfinish : ∀ options, finish options =
      (readPattern part >>= assemble raw (actionAndLine raw).1 options) := by
    intro options
    unfold readPattern
    dsimp only [finish]
    by_cases hblank : part.any Text.isBlank = true
    · rw [if_pos hblank, if_pos hblank]
      cases hostsLine? part <;> rfl
    · rw [if_neg hblank, if_neg hblank]
      cases parsePattern part <;> rfl
  split
  · rfl
  · rw [ofLine, hpart, ofPieces_pieces]
    split
    · next text hoptions =>
      have hsome : (splitOptions (actionAndLine raw).2).2 = some text := hoptions
      rw [hsome]
      exact congrArg _ (funext hfinish)
    · next hoptions =>
      have hnone : (splitOptions (actionAndLine raw).2).2 = none := hoptions
      rw [hnone]
      exact hfinish {}

/-- A text of a regular expression is its source between slashes. -/
theorem readPattern_regex {text : List Char} {pattern : Pattern} (h : readPattern text = .ok pattern)
    (hregex : pattern.flags.mem Flag.regex.index = true) :
    text = '/' :: pattern.text.toList ++ ['/'] := by
  unfold readPattern at h
  split at h
  · split at h
    · cases h
      have hnot : Flag.hostAnchor.set.mem Flag.regex.index = false := by decide
      exact absurd (hnot.symm.trans hregex) nofun
    · cases h
  rcases parsePattern_cases h with ⟨hlength, hhead, hlast, rfl⟩ | ⟨-, hnot, -⟩
  · obtain ⟨before, hbefore, rfl⟩ := IsSlashed.split ⟨hhead, hlast, by omega⟩
    rw [List.head?_append_of_ne_nil _ hbefore] at hhead
    obtain ⟨source, rfl⟩ := List.head?_eq_some_iff.1 hhead
    simp
  · rw [hnot] at hregex
    cases hregex

/-- No line that begins with a sign that stands in no address is one of a hosts file. -/
theorem hostsLine?_cons {c : Char} (hblank : Text.isBlank c = false) (hc : Domain.IsForeign c)
    (rest : List Char) : hostsLine? (c :: rest) = none := by
  obtain ⟨first, pieces, hsplit⟩ :=
    List.exists_cons_of_ne_nil (List.splitOnP_ne_nil Text.isBlank rest)
  have hwords : Text.words (c :: rest) = (c :: first) :: pieces.filter (!·.isEmpty) := by
    rw [Text.words, List.splitOnP_cons_eq_if_modifyHead, hblank, hsplit]
    rfl
  have haddress : Domain.isAddress (c :: first) = false := hc.not_isAddress List.mem_cons_self
  unfold hostsLine?
  rw [hwords]
  cases pieces.filter (!·.isEmpty) with
  | nil => rfl
  | cons name names =>
    dsimp only
    rw [haddress]
    rfl

/-- A text between slashes that is read at all is read as a regular expression. -/
theorem readPattern_slashed {text : List Char} {pattern : Pattern} (hslashed : IsSlashed text)
    (hlength : 2 < text.length) (h : readPattern text = .ok pattern) :
    pattern = ⟨Flag.regex.set, none, String.ofList text.tail.dropLast⟩ := by
  obtain ⟨rest, rfl⟩ := List.head?_eq_some_iff.1 hslashed.1
  unfold readPattern at h
  split at h
  · rw [hostsLine?_cons (by decide) (by decide)] at h
    cases h
  unfold parsePattern at h
  rw [if_pos (by simp only [hslashed.1, hslashed.2.1, hlength]; decide)] at h
  dsimp only at h
  split at h
  · exact (Except.ok.inj h).symm
  · cases h

end ContentFilter.NetworkFilter
