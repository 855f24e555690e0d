/-!
Text as lists of characters: blanks, cutting, splitting and letter case.
-/

namespace ContentFilter.Text

/-- The characters with the property White_Space. -/
def isBlank (c : Char) : Bool :=
  let n := c.toNat
  (0x09 ≤ n && n ≤ 0x0D) || n == 0x20 || n == 0x85 || n == 0xA0 || n == 0x1680 ||
    (0x2000 ≤ n && n ≤ 0x200A) || n == 0x2028 || n == 0x2029 || n == 0x202F || n == 0x205F ||
    n == 0x3000

theorem isBlank_of_isWhitespace {c : Char} (h : c.isWhitespace = true) : isBlank c = true := by
  simp only [Char.isWhitespace, Bool.or_eq_true, decide_eq_true_eq] at h
  rcases h with ((h | h) | h) | h <;> subst h <;> decide

def dropEndWhile (p : Char → Bool) (s : List Char) : List Char :=
  (s.reverse.dropWhile p).reverse

def trimStart (s : List Char) : List Char := s.dropWhile isBlank

def trimEnd (s : List Char) : List Char := dropEndWhile isBlank s

def trim (s : List Char) : List Char := trimEnd (trimStart s)

/-- Lower case of the ASCII letters; every other character stays. -/
def lower (s : List Char) : List Char := s.map Char.toLower

/-- Equality up to the case of ASCII letters. -/
def equalFold (s t : List Char) : Bool := lower s == lower t

@[simp] theorem length_lower (s : List Char) : (lower s).length = s.length := by
  simp [lower]

@[simp] theorem equalFold_refl (s : List Char) : equalFold s s = true := by
  simp [equalFold]

/-- What follows `start`, when `s` begins with it. -/
def dropStart? (start : String) (s : List Char) : Option (List Char) :=
  start.toList.isPrefixOf? s

/-- What comes before `ending`, when `s` ends with it. -/
def dropEnd? (ending : String) (s : List Char) : Option (List Char) :=
  ending.toList.isSuffixOf? s

def startsWith (start : String) (s : List Char) : Bool := start.toList.isPrefixOf s

def endsWith (ending : String) (s : List Char) : Bool := ending.toList.isSuffixOf s

/-- The two sides of the first occurrence of `sep`. -/
def cut? (sep : List Char) : List Char → Option (List Char × List Char)
  | [] => (sep.isPrefixOf? []).map ([], ·)
  | c :: s =>
    match sep.isPrefixOf? (c :: s) with
    | some rest => some ([], rest)
    | none => (cut? sep s).map fun (before, after) => (c :: before, after)

/-- The two sides of the last occurrence of `sep`. -/
def cutLast? (sep : List Char) : List Char → Option (List Char × List Char)
  | [] => (sep.isPrefixOf? []).map ([], ·)
  | c :: s =>
    match cutLast? sep s with
    | some (before, after) => some (c :: before, after)
    | none => (sep.isPrefixOf? (c :: s)).map ([], ·)

def contains (part : String) (s : List Char) : Bool := (cut? part.toList s).isSome

theorem isPrefixOf?_nil (s : List Char) : List.isPrefixOf? [] s = some s := rfl

theorem isPrefixOf?_cons (c d : Char) (s t : List Char) :
    (c :: s).isPrefixOf? (d :: t) = if c == d then s.isPrefixOf? t else none := rfl

theorem eq_append_of_isPrefixOf? {start s rest : List Char}
    (h : start.isPrefixOf? s = some rest) : s = start ++ rest := by
  induction start generalizing s with
  | nil => simpa using (Option.some.inj h)
  | cons c start ih =>
    cases s with
    | nil => cases h
    | cons d s =>
      rw [isPrefixOf?_cons] at h
      split at h
      · next hcd => rw [beq_iff_eq] at hcd; simp [hcd, ih h]
      · contradiction

theorem cut?_append {sep s before after : List Char} (h : cut? sep s = some (before, after)) :
    s = before ++ sep ++ after := by
  induction s generalizing before with
  | nil =>
    simp only [cut?, Option.map_eq_some_iff, Prod.mk.injEq] at h
    obtain ⟨rest, hrest, rfl, rfl⟩ := h
    simpa using eq_append_of_isPrefixOf? hrest
  | cons c s ih =>
    simp only [cut?] at h
    split at h
    · next rest hrest =>
      obtain ⟨rfl, rfl⟩ := by simpa using h
      simpa using eq_append_of_isPrefixOf? hrest
    · obtain ⟨⟨b, a⟩, hb, hc⟩ := Option.map_eq_some_iff.1 h
      obtain ⟨rfl, rfl⟩ := by simpa using hc
      simp [ih hb]

/-- The pieces of `s` between the characters `sep`; always at least one. -/
def splitOn (sep : Char) (s : List Char) : List (List Char) := List.splitOn sep s

/-- The non-empty pieces between blanks. -/
def words (s : List Char) : List (List Char) :=
  (List.splitOnP isBlank s).filter (!·.isEmpty)

def dropReturn (s : List Char) : List Char :=
  match dropEnd? "\r" s with
  | some line => line
  | none => s

/-- The lines of a text without their ends, which are a line feed or a carriage return and a line
feed. A last line without an end counts when it is not empty, and keeps a carriage return. -/
def lines (s : List Char) : List (List Char) :=
  let pieces := splitOn '\n' s
  let last := pieces.getLastD []
  pieces.dropLast.map dropReturn ++ if last.isEmpty then [] else [last]

def isDigit (c : Char) : Bool := c.isDigit

/-- The number written by decimal digits. -/
def nat? (s : List Char) : Option Nat :=
  if !s.isEmpty && s.all isDigit then
    some (s.foldl (fun n c => 10 * n + (c.toNat - '0'.toNat)) 0)
  else none

def hexDigit? (c : Char) : Option Nat :=
  if '0' ≤ c ∧ c ≤ '9' then some (c.toNat - '0'.toNat)
  else if 'a' ≤ c ∧ c ≤ 'f' then some (c.toNat - 'a'.toNat + 10)
  else if 'A' ≤ c ∧ c ≤ 'F' then some (c.toNat - 'A'.toNat + 10)
  else none

/-- The number written by hexadecimal digits of either case. -/
def hex? (s : List Char) : Option Nat :=
  if s.isEmpty then none
  else s.foldlM (fun n c => (hexDigit? c).map (16 * n + ·)) 0

/-- The bytes that pairs of hexadecimal digits stand for. -/
def bytesOfHex : List Char → List UInt8
  | a :: b :: rest =>
    match hex? [a, b] with
    | some byte => byte.toUInt8 :: bytesOfHex rest
    | none => bytesOfHex rest
  | _ => []

/-- Lower-case hexadecimal digits, padded with zeros to `width`. -/
def hex (width n : Nat) : String :=
  let digits := Nat.toDigits 16 n
  String.ofList (List.replicate (width - digits.length) '0' ++ digits)

end ContentFilter.Text
