import ContentFilter.Proofs.Data.Traverse
import ContentFilter.Proofs.Domain.Lineage
import ContentFilter.Proofs.Text.Basic
import ContentFilter.Proofs.Text.Utf8
import ContentFilter.Url.Absolute
import ContentFilter.Url.Path

/-! What is added to a path: a segment that starts with letters leads one step down. -/

namespace ContentFilter.Url

variable {s t path : List Char} {c d : Char}

/-- No step of the text is the one that leads up. -/
def StaysDown (s : List Char) : Prop := ∀ step ∈ Text.splitOn '/' s, isDoubleDot step = false

def startsWithLetters : List Char → Bool
  | c :: d :: _ => c.isAlpha && d.isAlpha
  | _ => false

theorem startsWithLetters_iff : startsWithLetters s = true ↔
    ∃ c d rest, s = c :: d :: rest ∧ c.isAlpha = true ∧ d.isAlpha = true := by
  constructor
  · intro h
    match s, h with
    | c :: d :: rest, h => exact ⟨c, d, rest, rfl, Bool.and_eq_true_iff.1 h⟩
  · rintro ⟨c, d, rest, rfl, hc, hd⟩
    exact Bool.and_eq_true_iff.2 ⟨hc, hd⟩

theorem ne_of_isAlpha (h : c.isAlpha = true) (hd : d.isAlpha = false) : c ≠ d := by
  rintro rfl
  rw [h] at hd
  cases hd

section Dots

theorem isDoubleDot_letter (h : c.isAlpha = true) : isDoubleDot (c :: s) = false := by
  have hmark : ∀ d : Char, d.isAlpha = false → c.toLower ≠ d := fun d hd heq =>
    ne_of_isAlpha h hd ((Text.toLower_eq_iff hd).1 heq)
  simp [isDoubleDot, Text.lower, hmark '.' (by decide), hmark '%' (by decide)]

theorem isSingleDot_letter (h : c.isAlpha = true) : isSingleDot (c :: s) = false := by
  have hpoint : c ≠ '.' := ne_of_isAlpha h (by decide)
  have hpercent : c.toLower ≠ '%' := fun heq =>
    ne_of_isAlpha h (by decide) ((Text.toLower_eq_iff (by decide)).1 heq)
  simp [isSingleDot, Text.lower, hpoint, hpercent]

theorem isDrive_letters (h : d.isAlpha = true) : isDrive (c :: d :: s) = false := by
  have hcolon : d ≠ ':' := ne_of_isAlpha h (by decide)
  have hbar : d ≠ '|' := ne_of_isAlpha h (by decide)
  cases s with
  | nil => simp [isDrive, hcolon, hbar]
  | cons _ _ => rfl

theorem exists_of_isWrittenDrive (h : isWrittenDrive s = true) :
    ∃ c, c.isAlpha = true ∧ s = [c, ':'] := by
  obtain ⟨hdrive, hlast⟩ := Bool.and_eq_true_iff.1 h
  match s, hdrive, hlast with
  | [c, d], hdrive, hlast =>
    obtain rfl : d = ':' := by simpa using hlast
    exact ⟨c, (Bool.and_eq_true_iff.1 hdrive).1, rfl⟩

theorem staysDown_step (h : '/' ∉ s) (hdots : isDoubleDot s = false) : StaysDown s := by
  intro step hstep
  rw [Text.splitOn, List.splitOn_eq_singleton h, List.mem_singleton] at hstep
  rw [hstep]
  exact hdots

/-- One step more before others. -/
theorem StaysDown.cons (hs : StaysDown s) (h : '/' ∉ t) (hdots : isDoubleDot t = false) :
    StaysDown (t ++ '/' :: s) := by
  intro step hstep
  rw [Text.splitOn, List.splitOn_append_cons_self_of_not_mem h, List.mem_cons] at hstep
  rcases hstep with rfl | hstep
  · exact hdots
  · exact hs step hstep

theorem StaysDown.cons_slash (hs : StaysDown s) : StaysDown ('/' :: s) :=
  hs.cons List.not_mem_nil (by decide)

/-- A slash that sets the text off from what is before it makes no difference. -/
theorem StaysDown.bridge {bridge : List Char} (hs : StaysDown s) (h : bridge ∈ [[], ['/']]) :
    StaysDown (bridge ++ s) := by
  simp only [List.mem_cons, List.not_mem_nil, or_false] at h
  rcases h with rfl | rfl
  · exact hs
  · exact hs.cons_slash

theorem StaysDown.dropWhile_slash (hs : StaysDown s) : StaysDown (s.dropWhile (· == '/')) := by
  induction s with
  | nil => exact hs
  | cons c s ih =>
    by_cases hc : c = '/'
    · subst hc
      rw [List.dropWhile_cons_of_pos rfl]
      apply ih
      intro step hstep
      apply hs
      rw [Text.splitOn]
      exact List.mem_cons_of_mem [] hstep
    · rw [List.dropWhile_cons_of_neg (by simpa using hc)]
      exact hs

end Dots

section Encoding

theorem percentEncode_append (others : String) (s t : List Char) :
    percentEncode others (s ++ t) = percentEncode others s ++ percentEncode others t := by
  simp [percentEncode]

theorem percentEncode_letter (h : c.isAlpha = true) : percentEncode pathSet [c] = [c] := by
  have hall : ∀ n < 128, (Char.ofNat n).isAlpha = true →
      percentEncode pathSet [Char.ofNat n] = [Char.ofNat n] := by decide +kernel
  have hlt : c.toNat < 128 := by
    rw [Text.isAlpha_iff] at h
    omega
  have hc := hall c.toNat hlt
  rw [Char.ofNat_toNat] at hc
  exact hc h

/-- The byte of a slash stands for nothing else. -/
theorem eq_slash_of_mem_encodeChar (h : (0x2F : UInt8) ∈ String.utf8EncodeChar c) : c = '/' :=
  Text.Utf8.eq_of_mem_encodeChar (d := '/') (by decide) h

theorem slash_not_mem_percentEncode (h : '/' ∉ s) : '/' ∉ percentEncode pathSet s := by
  intro hmem
  obtain ⟨b, hb, hslash⟩ := List.mem_flatMap.1 hmem
  obtain ⟨c, hc, hbyte⟩ := List.mem_flatMap.1 hb
  have hall : ∀ n < 256, '/' ∈ (if UInt8.ofNat n < 0x20 || 0x7F ≤ UInt8.ofNat n ||
      pathSet.toList.contains (Char.ofNat (UInt8.ofNat n).toNat) then percentByte (UInt8.ofNat n)
        else [Char.ofNat (UInt8.ofNat n).toNat]) → n = 0x2F := by decide +kernel
  have hb : b = 0x2F := by
    have hn := hall b.toNat b.toNat_lt
    rw [UInt8.ofNat_toNat] at hn
    exact UInt8.toNat_inj.1 (hn hslash)
  rw [hb] at hbyte
  rw [eq_slash_of_mem_encodeChar hbyte] at hc
  exact h hc

end Encoding

section Extend

variable {file : Bool}

/-- What a segment that starts with letters is written as. -/
theorem exists_percentEncode (h : startsWithLetters s = true) (hslash : '/' ∉ s) :
    '/' ∉ percentEncode pathSet s ∧ ∃ c rest, c.isAlpha = true ∧
      percentEncode pathSet s = c :: rest := by
  refine ⟨slash_not_mem_percentEncode hslash, ?_⟩
  obtain ⟨c, d, rest, rfl, hc, -⟩ := startsWithLetters_iff.1 h
  refine ⟨c, percentEncode pathSet (d :: rest), hc, ?_⟩
  rw [← List.singleton_append, percentEncode_append, percentEncode_letter hc]
  rfl

/-- Such a segment is added as it is, at most set off by a slash. -/
theorem addSegment_letters (h : startsWithLetters s = true) :
    ∃ bridge ∈ [[], ['/']], addSegment file path s false =
      path ++ (bridge ++ percentEncode pathSet s) := by
  obtain ⟨c, d, rest, rfl, hc, hd⟩ := startsWithLetters_iff.1 h
  unfold addSegment
  dsimp only
  rw [isDoubleDot_letter hc, isSingleDot_letter hc, isDrive_letters hd]
  simp only [Bool.and_false, Bool.false_eq_true, if_false, List.append_nil]
  split
  · exact ⟨['/'], by simp, List.append_assoc _ _ _⟩
  · exact ⟨[], by simp, rfl⟩

theorem extendPath_letters (scheme path : List Char) (h : startsWithLetters s = true)
    (hslash : ∀ c ∈ s, isSlash true c = false) :
    ∃ bridge ∈ [[], ['/']], extendPath scheme path s =
      path ++ (bridge ++ percentEncode pathSet s) := by
  have hnone : ∀ special, ∀ c ∈ s, isSlash special c = false := by
    intro special c hc
    have htrue := hslash c hc
    cases special with
    | true => exact htrue
    | false =>
      rw [isSlash, Bool.or_eq_false_iff] at htrue
      simp [isSlash, htrue.1]
  have hmap : (s.map fun c => if isSlash (isSpecial scheme) c then '/' else c) = s := by
    refine (List.map_congr_left fun c hc => ?_).trans (List.map_id s)
    rw [hnone _ c hc]
    rfl
  have hsplit : Text.splitOn '/' s = [s] :=
    List.splitOn_eq_singleton fun hmem => absurd (hnone true '/' hmem) (by decide)
  rw [extendPath, hmap, hsplit, addSegments]
  exact addSegment_letters h

end Extend

section Directory

theorem directory_prefix (path : List Char) : directory false path <+: path := by
  unfold directory
  split
  · next above last hcut =>
    rw [Text.eq_append_of_cutLast? hcut]
    exact List.prefix_append _ _
  · exact List.prefix_refl _

/-- In a path to a file, a drive at the end belongs to the directory. -/
theorem directory_true (path : List Char) : ∃ last, directory true path = directory false path ++ last ∧
    (last = [] ∨ isWrittenDrive last = true) := by
  unfold directory
  split
  · next above last hcut =>
    simp only [Bool.false_and, Bool.true_and, Bool.false_eq_true, if_false]
    split
    · next hdrive => exact ⟨last, Text.eq_append_of_cutLast? hcut, .inr hdrive⟩
    · exact ⟨[], (List.append_nil _).symm, .inl rfl⟩
  · exact ⟨[], (List.append_nil _).symm, .inl rfl⟩

/-- A path to a file keeps what another one starts with, and slashes after that are left out. -/
theorem exists_filePath_append {start rest q : List Char} (h : start <+: filePath q)
    (hrest : StaysDown rest) : ∃ more, filePath (start ++ rest) = start ++ more ∧ StaysDown more := by
  cases start with
  | nil => exact ⟨_, rfl, hrest.dropWhile_slash.cons_slash⟩
  | cons c start =>
    obtain ⟨rfl, htail⟩ := List.cons_prefix_cons.1 h
    rw [filePath, List.cons_append, List.dropWhile_cons_of_pos rfl]
    cases start with
    | nil => exact ⟨_, rfl, hrest.dropWhile_slash⟩
    | cons d start =>
      have hd : (d == '/') = false := by
        obtain ⟨last, hlast⟩ := htail
        have hnot := List.head?_dropWhile_not (· == '/') q
        rw [← hlast] at hnot
        simpa using hnot
      rw [List.cons_append, List.dropWhile_cons_of_neg (by simp [hd])]
      exact ⟨rest, rfl, hrest⟩

end Directory

end ContentFilter.Url

/-! References that lead to a place below the address that they are resolved against. -/

namespace ContentFilter.Url

def isSchemeChar (c : Char) : Bool := c.isAlphanum || c == '+' || c == '-' || c == '.'

/-- Tabs and line ends mean nothing wherever they stand in an address. -/
def isMeant (c : Char) : Bool := c != '\t' && c != '\n' && c != '\r'

/-- Whether a text, after a letter, begins with the rest of a scheme and its colon. -/
def GoesOnWithScheme (s : List Char) : Prop :=
  ((s.filter isMeant).dropWhile isSchemeChar).head? = some ':'

instance (s : List Char) : Decidable (GoesOnWithScheme s) := inferInstanceAs (Decidable (_ = _))

/-- Another address of the same place, in the directory of the first or further down. -/
structure AbsoluteUrl.IsBelow (base url : AbsoluteUrl) : Prop where
  scheme : url.scheme = base.scheme
  userInfo : url.userInfo = base.userInfo
  host : url.host = base.host
  port : url.port = base.port
  path : ∃ rest, url.path = directory false base.path ++ rest ∧ StaysDown rest

/-- A cleaned text that can only be read as the name of something beside the base. -/
structure IsPlainReference (s : List Char) : Prop where
  noScheme : splitScheme? s = none
  noSlash : ∀ c ∈ s, isSlash true c = false
  letters : startsWithLetters s = true

section Scheme

variable {s scheme rest : List Char}

theorem isSchemeChar_of_isAlpha {c : Char} (h : c.isAlpha = true) : isSchemeChar c = true := by
  rw [isSchemeChar, show c.isAlphanum = (c.isAlpha || c.isDigit) from rfl, h]
  rfl

theorem splitScheme?_eq_some (h : splitScheme? s = some (scheme, rest)) :
    ∃ before, s = before ++ ':' :: rest ∧ scheme = Text.lower before ∧ before ≠ [] ∧
      ∀ c ∈ before, isSchemeChar c = true := by
  rw [splitScheme?] at h
  split at h
  · next before after hcut =>
    split at h
    · next hscheme =>
      cases h
      rw [Bool.and_eq_true, List.all_eq_true] at hscheme
      refine ⟨before, (Text.cut?_eq_some.1 hcut).2, rfl, ?_, hscheme.2⟩
      rintro rfl
      cases hscheme.1
    · cases h
  · cases h

/-- A text that starts with a letter has a scheme when its first character that no scheme has is a
colon. -/
theorem splitScheme?_isSome_iff (h : s.head?.any Char.isAlpha = true) :
    (splitScheme? s).isSome = true ↔ (s.dropWhile isSchemeChar).head? = some ':' := by
  constructor
  · intro hsome
    obtain ⟨⟨scheme, rest⟩, hsplit⟩ := Option.isSome_iff_exists.1 hsome
    obtain ⟨before, rfl, -, -, hbefore⟩ := splitScheme?_eq_some hsplit
    rw [List.dropWhile_append_of_pos hbefore]
    rfl
  · intro hcolon
    obtain ⟨rest, hrest⟩ := List.head?_eq_some_iff.1 hcolon
    have hall : ∀ c ∈ s.takeWhile isSchemeChar, isSchemeChar c = true :=
      fun c hc => List.mem_takeWhile_imp hc
    have hcut : Text.cut? [':'] s = some (s.takeWhile isSchemeChar, rest) := by
      rw [Text.cut?_eq_some]
      constructor
      · intro hmem
        exact absurd (hall ':' hmem) (by decide)
      · rw [← hrest, List.takeWhile_append_dropWhile]
    have hletter : (s.takeWhile isSchemeChar).head?.any Char.isAlpha = true := by
      cases s with
      | nil => exact h
      | cons c s =>
        rw [List.takeWhile_cons_of_pos (isSchemeChar_of_isAlpha h)]
        exact h
    have hsplit : splitScheme? s = some (Text.lower (s.takeWhile isSchemeChar), rest) := by
      rw [splitScheme?, hcut]
      exact if_pos (Bool.and_eq_true_iff.2 ⟨hletter, List.all_eq_true.2 hall⟩)
    rw [hsplit]
    rfl

theorem isSpecial_eq_false {c : Char} (h : scheme.head? = some c)
    (hc : ∀ entry ∈ specialSchemes, entry.1.toList.head? ≠ some c) : isSpecial scheme = false := by
  rw [isSpecial, Option.isSome_eq_false_iff, Option.isNone_iff_eq_none, List.lookup_eq_none_iff]
  intro entry hentry
  rw [bne_iff_ne]
  intro heq
  apply hc entry hentry
  rw [← heq, String.toList_ofList, h]

end Scheme

section Tail

variable {s : List Char}

theorem path_ofChars (s : List Char) :
    (Tail.ofChars s).path = (s.takeWhile (· != '#')).takeWhile (· != '?') := by
  have hcut : ∀ (a : Char) (t : List Char),
      ((Text.cut? [a] t).map Prod.fst).getD t = t.takeWhile (· != a) := by
    intro a t
    cases h : Text.cut? [a] t with
    | none =>
      have hnot := Text.cut?_eq_none.1 h
      refine (List.takeWhile_eq_self_iff.2 fun c hc => ?_).symm
      exact bne_iff_ne.2 fun heq => hnot (heq ▸ hc)
    | some pair =>
      obtain ⟨hnot, heq⟩ := Text.cut?_eq_some.1 h
      rw [heq, Text.takeWhile_append_of_head?]
      · rfl
      · intro c hc
        exact bne_iff_ne.2 fun heq => hnot (heq ▸ hc)
      · intro c hc
        cases hc
        simp
  rw [← hcut '#', ← hcut '?', Tail.ofChars]
  cases h : Text.cut? ['#'] s with
  | none =>
    dsimp only [Option.map_none, Option.getD_none]
    cases Text.cut? ['?'] s with
    | none => rfl
    | some _ => rfl
  | some pair =>
    dsimp only [Option.map_some, Option.getD_some]
    cases Text.cut? ['?'] pair.1 with
    | none => rfl
    | some _ => rfl

theorem IsPlainReference.path_letters (h : IsPlainReference s) :
    startsWithLetters (Tail.ofChars s).path = true := by
  obtain ⟨c, d, rest, rfl, hc, hd⟩ := startsWithLetters_iff.1 h.letters
  have hhash : c ≠ '#' ∧ d ≠ '#' := ⟨ne_of_isAlpha hc (by decide), ne_of_isAlpha hd (by decide)⟩
  have hquery : c ≠ '?' ∧ d ≠ '?' := ⟨ne_of_isAlpha hc (by decide), ne_of_isAlpha hd (by decide)⟩
  rw [path_ofChars]
  simp [hhash, hquery, startsWithLetters, hc, hd]

theorem IsPlainReference.isEmpty_path (h : IsPlainReference s) :
    (Tail.ofChars s).path.isEmpty = false := by
  obtain ⟨c, d, rest, hpath, -⟩ := startsWithLetters_iff.1 h.path_letters
  rw [hpath]
  rfl

/-- What a plain reference adds to a path: a segment and perhaps a slash before it. -/
theorem IsPlainReference.extendPath (h : IsPlainReference s) (scheme path : List Char) :
    ∃ bridge ∈ [[], ['/']], ∃ c rest, c.isAlpha = true ∧ '/' ∉ c :: rest ∧
      extendPath scheme path (Tail.ofChars s).path = path ++ (bridge ++ c :: rest) := by
  have hslash : ∀ c ∈ (Tail.ofChars s).path, isSlash true c = false := by
    intro c hc
    rw [path_ofChars] at hc
    exact h.noSlash c ((List.takeWhile_sublist _).subset ((List.takeWhile_sublist _).subset hc))
  obtain ⟨bridge, hbridge, hextend⟩ := extendPath_letters scheme path h.path_letters hslash
  obtain ⟨hnot, c, rest, hc, hencode⟩ := exists_percentEncode h.path_letters fun hmem =>
    absurd (hslash '/' hmem) (by decide)
  rw [hencode] at hnot hextend
  exact ⟨bridge, hbridge, c, rest, hc, hnot, hextend⟩

theorem IsPlainReference.takeWhile_isSlash (h : IsPlainReference s) :
    s.takeWhile (isSlash true) = [] := by
  obtain ⟨c, d, rest, rfl, -⟩ := startsWithLetters_iff.1 h.letters
  exact List.takeWhile_cons_of_neg (by simp [h.noSlash c List.mem_cons_self])

theorem IsPlainReference.startsWithDrive (h : IsPlainReference s) :
    Url.startsWithDrive s = false := by
  obtain ⟨c, d, rest, rfl, -, hd⟩ := startsWithLetters_iff.1 h.letters
  rw [Url.startsWithDrive, List.take_succ_cons, List.take_succ_cons, isDrive_letters hd]
  rfl

theorem IsPlainReference.head?_ne (h : IsPlainReference s) : (s.head? == some '#') = false := by
  obtain ⟨c, d, rest, rfl, hc, -⟩ := startsWithLetters_iff.1 h.letters
  simpa using ne_of_isAlpha hc (by decide)

end Tail

section File

variable {url : AbsoluteUrl} {s rest scheme : List Char}

theorem exists_filePath_of_parseFileHost (h : parseFileHost rest = .ok url) :
    ∃ path, url.path = filePath path := by
  unfold parseFileHost at h
  dsimp only at h
  split at h
  · cases h
    exact ⟨_, rfl⟩
  · split at h
    · cases h
      exact ⟨_, rfl⟩
    · obtain ⟨host, -, h⟩ := ok_of_bind h
      cases h
      exact ⟨_, rfl⟩

theorem exists_filePath_of_parseFile (h : parseFile none s = .ok url) :
    ∃ path, url.path = filePath path := by
  unfold parseFile at h
  dsimp only at h
  split at h
  · exact exists_filePath_of_parseFileHost h
  · cases h
    exact ⟨_, rfl⟩
  · next hbase => cases hbase
  · cases h
    exact ⟨_, rfl⟩

theorem scheme_of_parseAuthority (h : parseAuthority scheme rest = .ok url) :
    url.scheme = scheme := by
  unfold parseAuthority at h
  dsimp only at h
  -- With user information or without: the scheme is not looked at again.
  split at h
  all_goals
    split at h
    · cases h
    · split at h
      · cases h
      · obtain ⟨host, -, h⟩ := ok_of_bind h
        obtain ⟨port, -, h⟩ := ok_of_bind h
        cases h
        rfl

/-- The path of an address of a file starts with one slash only. -/
theorem exists_filePath_of_parseUrl (h : parseUrl s = .ok url) (hscheme : url.scheme = fileScheme) :
    ∃ path, url.path = filePath path := by
  unfold parseUrl at h
  dsimp only at h
  split at h
  · next scheme rest _ =>
    unfold parseWithScheme at h
    dsimp only [Option.filter_none] at h
    split at h
    · exact exists_filePath_of_parseFile h
    · next hfile =>
      have hother : url.scheme = scheme := by
        split at h
        · exact scheme_of_parseAuthority h
        · split at h
          · exact scheme_of_parseAuthority h
          · cases h
            rfl
      rw [← hother, hscheme] at hfile
      exact absurd (beq_self_eq_true _) hfile
  · cases h

end File

namespace AbsoluteUrl

variable {base : AbsoluteUrl} {s : List Char}

theorem IsBelow.of_path {rest : List Char} {path : List Char} (tail : Tail)
    (h : path = directory false base.path ++ rest) (hrest : StaysDown rest) :
    base.IsBelow ({ base with path }.withTail tail) :=
  ⟨rfl, rfl, rfl, rfl, rest, h, hrest⟩

theorem exists_resolve (h : IsPlainReference s) :
    ∃ url, base.resolve s = .ok url ∧ base.IsBelow url := by
  obtain ⟨bridge, hbridge, c, rest, hc, hslash, hextend⟩ := h.extendPath base.scheme
    (if (directory false base.path).isEmpty then ['/'] else directory false base.path)
  have hadded : StaysDown (bridge ++ c :: rest) :=
    (staysDown_step hslash (isDoubleDot_letter hc)).bridge hbridge
  rw [resolve, h.takeWhile_isSlash]
  dsimp only
  rw [if_neg (by decide), h.isEmpty_path]
  refine ⟨_, rfl, ?_⟩
  rw [List.isEmpty_nil, if_pos rfl, hextend]
  by_cases hempty : (directory false base.path).isEmpty = true
  · rw [if_pos hempty]
    have hnil := List.isEmpty_iff.1 hempty
    exact IsBelow.of_path _ (by rw [hnil]; rfl) hadded.cons_slash
  · rw [if_neg hempty]
    exact IsBelow.of_path _ rfl hadded

/-- A reference to a file stays on the drive of the base, or in its directory. -/
theorem exists_parseFile (h : IsPlainReference s) (hbase : ∃ path, base.path = filePath path) :
    ∃ url, parseFile (some base) s = .ok url ∧ base.IsBelow url := by
  obtain ⟨path, hfile⟩ := hbase
  obtain ⟨bridge, hbridge, c, rest, hc, hslash, hextend⟩ :=
    h.extendPath fileScheme (directory true base.path)
  obtain ⟨last, hlast, hdrive⟩ := directory_true base.path
  have hstep : StaysDown (c :: rest) := staysDown_step hslash (isDoubleDot_letter hc)
  have hadded : StaysDown (last ++ (bridge ++ c :: rest)) := by
    rcases hdrive with rfl | hdrive
    · exact hstep.bridge hbridge
    · obtain ⟨d, hd, rfl⟩ := exists_of_isWrittenDrive hdrive
      have hne : d ≠ '/' := ne_of_isAlpha hd (by decide)
      simp only [List.mem_cons, List.not_mem_nil, or_false] at hbridge
      rcases hbridge with rfl | rfl
      · apply staysDown_step
        · simpa [Ne.symm hne] using hslash
        · exact isDoubleDot_letter hd
      · exact hstep.cons (by simpa using Ne.symm hne) (isDoubleDot_letter hd)
  have habove : directory false base.path <+: filePath path := by
    rw [← hfile]
    exact directory_prefix base.path
  obtain ⟨more, hmore, hdown⟩ := exists_filePath_append habove hadded
  unfold parseFile
  rw [h.takeWhile_isSlash]
  dsimp only
  rw [h.isEmpty_path, h.startsWithDrive]
  refine ⟨_, rfl, ?_⟩
  rw [hextend, hlast, List.append_assoc, hmore]
  exact IsBelow.of_path _ rfl hdown

variable {reference : List Char}

/-- A plain reference leads below every address that something can be resolved against. -/
theorem exists_join (h : IsPlainReference (clean reference))
    (hbase : base.scheme = fileScheme → ∃ path, base.path = filePath path)
    (hwhole : base.isWhole = false) :
    ∃ url, base.join reference = .ok url ∧ base.IsBelow url := by
  rw [join, h.noScheme]
  dsimp only
  rw [h.head?_ne, hwhole, if_neg Bool.false_ne_true, if_neg Bool.false_ne_true]
  split
  · next hfile => exact exists_parseFile h (hbase (beq_iff_eq.1 hfile))
  · exact exists_resolve h

theorem join_of_isWhole (h : IsPlainReference (clean reference)) (hwhole : base.isWhole = true) :
    base.join reference = .error .opaqueBase := by
  rw [join, h.noScheme]
  dsimp only
  rw [h.head?_ne, hwhole, if_neg Bool.false_ne_true, if_pos rfl]

theorem head?_chars (h : base.scheme ≠ []) : base.chars.head? = base.scheme.head? := by
  rw [chars]
  exact List.head?_append_of_ne_nil _ h

/-- A reference with a scheme of its own leads to an address of that scheme, whatever the base. -/
theorem exists_join_of_splitScheme? {scheme rest : List Char}
    (h : splitScheme? (clean reference) = some (scheme, rest)) (hspecial : isSpecial scheme = false)
    (hslash : '/' ∉ rest) : ∃ url, base.join reference = .ok url ∧ url.scheme = scheme := by
  have hfile : (scheme == fileScheme) = false := by
    rw [beq_eq_false_iff_ne]
    rintro rfl
    exact absurd hspecial (by decide)
  have hstart : Text.dropStart? "//" rest = none := by
    rw [Text.dropStart?, Text.isPrefixOf?_eq_none]
    exact fun hslashes => hslash (hslashes.subset (by decide))
  rw [join, h]
  dsimp only
  rw [parseWithScheme, hfile, hspecial, hstart]
  exact ⟨_, rfl, rfl⟩

end AbsoluteUrl

end ContentFilter.Url
