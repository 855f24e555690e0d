import ContentFilter.Domain.NameMapping
import ContentFilter.Text.Punycode
import ContentFilter.Unicode.Combining
import ContentFilter.Unicode.Direction

/-!
International domain names in ASCII. Characters are mapped and composed; each label then has to obey
the rules on joiners, and all labels those on direction if one is written from right to left.
-/

namespace ContentFilter.Domain

open Unicode

def isJoiner (n : Nat) : Bool := n == 0x200C || n == 0x200D

/-- Whether letters join across a place, given what is before it in reverse and what is after it. -/
def joinsAcross (before after : List Nat) : Bool :=
  (before.find? (!isTransparent ·)).any joinsNext &&
    (after.find? (!isTransparent ·)).any joinsPrevious

/-- Whether each joiner follows a virama, or is a non-joiner between letters that would join. -/
def joinersFit (before : List Nat) : List Nat → Bool
  | [] => true
  | n :: after =>
    (!isJoiner n || before.head?.any isVirama || (n == 0x200C && joinsAcross before after)) &&
      joinersFit (n :: before) after

/-- The most characters of a label that is not ASCII. -/
def labelLimit : Nat := 1000

def isLabel (label : List Nat) : Bool :=
  !label.head?.any isMark && joinersFit [] label &&
    (label.all (· < 0x80) || label.length ≤ labelLimit)

/-- A label of a name, and how it is written in ASCII. -/
structure Label where
  text : List Nat
  ascii : List Char

def charsOf (label : List Nat) : List Char := label.map Char.ofNat

def codesOf (s : List Char) : List Nat := s.map Char.toNat

/-- The most characters after the mark of an encoded label. -/
def encodedLimit : Nat := 2000

/-- A label that is encoded has to stand for one that mapping and composing leave as it is. -/
def decodeLabel? (s : List Char) : Option (List Nat) := do
  if s.isEmpty || s.getLast? == some '-' || encodedLimit < s.length then none
  else
    let text ← (Text.Punycode.decode s).map codesOf
    if text.all (fun n => mapNameChar? n == some [n]) && compose text == text then some text
    else none

def Label.read? (label : List Nat) : Option Label := do
  let s := charsOf label
  let text ← match Text.dropStart? "xn--" s with
    | some encoded => decodeLabel? encoded
    | none => some label
  let ascii := if label.all (· < 0x80) then s else "xn--".toList ++ Text.Punycode.encode s
  if isLabel text then some ⟨text, ascii⟩ else none

def isRightToLeft (n : Nat) : Bool :=
  [.right, .arabicLetter, .arabicNumber].contains (direction n)

/-- The directions that may stand anywhere in a label. -/
def neutralDirections : List Direction :=
  [.europeanNumber, .europeanSeparator, .commonSeparator, .europeanTerminator, .otherNeutral,
    .boundaryNeutral, .nonspacing]

def isLeftLabel (directions : List Direction) (last : Direction) : Bool :=
  directions.all (Direction.left :: neutralDirections).contains &&
    [.left, .europeanNumber].contains last

/-- A label from right to left has digits of one kind only. -/
def isRightLabel (directions : List Direction) (last : Direction) : Bool :=
  directions.all
      ([Direction.right, .arabicLetter, .arabicNumber] ++ neutralDirections).contains &&
    [.right, .arabicLetter, .europeanNumber, .arabicNumber].contains last &&
    !(directions.contains .europeanNumber && directions.contains .arabicNumber)

/-- Whether a label keeps its place beside others. Marks at its end count for nothing. -/
def isDirected (label : List Nat) : Bool :=
  match label.map direction with
  | [] => true
  | first :: rest =>
    let rest := (rest.reverse.dropWhile (· == .nonspacing)).reverse
    let last := rest.getLast?.getD first
    if first == .left then isLeftLabel rest last
    else if first == .right || first == .arabicLetter then isRightLabel rest last
    else false

/-- A name in ASCII, in lower case, unless it is no name or has a forbidden character. -/
def toAscii? (isForbidden : Char → Bool) (s : List Char) : Option (List Char) := do
  let mapped ← (codesOf s).mapM mapNameChar?
  let labels ← (compose mapped.flatten |>.splitOn '.'.toNat).mapM Label.read?
  if labels.any (fun label => label.text.any isRightToLeft) &&
      !labels.all (fun label => isDirected label.text) then none
  else if labels.any (fun label => (charsOf label.text).any isForbidden) then none
  else some (List.intercalate ['.'] (labels.map (·.ascii)))

end ContentFilter.Domain
