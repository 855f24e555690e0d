import ContentFilter.Url.Location

/-!
Patterns over the bytes of an address: a star stands for any run of bytes, and a caret for one
separator or for the end of the address.
-/

namespace ContentFilter.Glob

def star : UInt8 := 0x2A

def caret : UInt8 := 0x5E

def lowerByte (b : UInt8) : UInt8 := if 0x41 ≤ b && b ≤ 0x5A then b + 0x20 else b

/-- How a pattern is compared with a text. -/
structure Mode where
  /-- The text ends where the pattern does. -/
  toEnd : Bool
  caseSensitive : Bool
  deriving DecidableEq, Repr

def Mode.sameByte (mode : Mode) (a b : UInt8) : Bool :=
  if mode.caseSensitive then a == b else lowerByte a == lowerByte b

/-- What comes of comparing a pattern up to its first star. -/
inductive Outcome where
  | matched
  | failed
  /-- The pattern after the star, and the text that is left for it. -/
  | starred (pattern text : List UInt8)
  deriving DecidableEq, Repr

def compare (mode : Mode) : List UInt8 → List UInt8 → Outcome
  | [], text => if !mode.toEnd || text.isEmpty then .matched else .failed
  | c :: pattern, text =>
    if c = star then .starred pattern text
    else if c = caret then
      match text with
      | [] => compare mode pattern []
      | b :: text => if Url.isSeparator b then compare mode pattern text else .failed
    else
      match text with
      | [] => .failed
      | b :: text => if mode.sameByte b c then compare mode pattern text else .failed

theorem length_lt_of_compare_starred {mode : Mode} {pattern text p t : List UInt8}
    (h : compare mode pattern text = .starred p t) : p.length < pattern.length := by
  induction pattern generalizing text with
  | nil => unfold compare at h; split at h <;> contradiction
  | cons c pattern ih =>
    unfold compare at h
    split at h
    · obtain ⟨rfl, -⟩ := by simpa using h
      simp
    · split at h <;> split at h
      · have := ih h; simp only [List.length_cons]; omega
      · split at h
        · have := ih h; simp only [List.length_cons]; omega
        · contradiction
      · contradiction
      · split at h
        · have := ih h; simp only [List.length_cons]; omega
        · contradiction

/-- Compare the pattern at each place of the text from the left. A later star takes the place of an
earlier one: what the earlier part of the pattern needs is settled at its first match. -/
def search (mode : Mode) (pattern text : List UInt8) : Bool :=
  match _h : compare mode pattern text with
  | .matched => true
  | .starred p t => search mode p t
  | .failed =>
    match text with
    | [] => false
    | _ :: text => search mode pattern text
termination_by (pattern.length, text.length)
decreasing_by
  · exact Prod.Lex.left _ _ (length_lt_of_compare_starred _h)
  · exact Prod.Lex.right _ (by simp)

/-- Whether the pattern matches from the start of the text on. -/
def isMatch (mode : Mode) (pattern text : List UInt8) : Bool :=
  match compare mode pattern text with
  | .matched => true
  | .starred p t => search mode p t
  | .failed => false

/-- Whether the pattern matches from some byte of the text on. -/
def isMatchInside (mode : Mode) (pattern : List UInt8) : List UInt8 → Bool
  | [] => false
  | b :: text => isMatch mode pattern (b :: text) || isMatchInside mode pattern text

end ContentFilter.Glob
