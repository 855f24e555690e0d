import ContentFilter.Unicode.Case
import ContentFilter.Unicode.Class

/-!
Regular expressions over characters. A search computes the set of places that an expression can
reach from a set of places; a set of places is a number whose bit `i` stands for the place before
character `i`.
-/

namespace ContentFilter.Regex

def isAsciiWord (c : Char) : Bool := c.isAlphanum || c == '_'

def isWord (c : Char) : Bool := if c.toNat < 0x80 then isAsciiWord c else Unicode.isWord c.toNat

def isDecimal (c : Char) : Bool :=
  if c.toNat < 0x80 then c.isDigit else Unicode.isDecimal c.toNat

inductive CharSet where
  | range (low high : Nat)
  | word
  | digit
  | blank
  | named (c : Unicode.Class)
  | union (a b : CharSet)
  | inter (a b : CharSet)
  | compl (a : CharSet)
  /-- The set with every character that differs from a member only in case. -/
  | folded (a : CharSet)
  deriving Repr

namespace CharSet

def empty : CharSet := .range 1 0

def single (c : Char) : CharSet := .range c.toNat c.toNat

def ofList (sets : List CharSet) : CharSet := sets.foldr .union empty

def memCode : CharSet → Nat → Bool
  | range low high, n => low ≤ n && n ≤ high
  | word, n => isWord (Char.ofNat n)
  | digit, n => isDecimal (Char.ofNat n)
  | blank, n => Text.isBlank (Char.ofNat n)
  | named c, n => c.contains n
  | union a b, n => a.memCode n || b.memCode n
  | inter a b, n => a.memCode n && b.memCode n
  | compl a, n => !a.memCode n
  | folded a, n => (n :: Unicode.foldClass n).any a.memCode

def mem (set : CharSet) (c : Char) : Bool := set.memCode c.toNat

end CharSet

/-- Places at the edge of a word, by whether a part of a word stands on their left and right. -/
inductive WordEdge where
  | boundary | noBoundary | start | stop | startHalf | stopHalf
  deriving DecidableEq, Repr

def WordEdge.holds (left right : Bool) : WordEdge → Bool
  | boundary => left != right
  | noBoundary => left == right
  | start => !left && right
  | stop => left && !right
  | startHalf => !left
  | stopHalf => !right

/-- Conditions on a place between characters. -/
inductive Assertion where
  | startText | endText
  /-- The ends of a line; with `returns` a carriage return ends a line too, and not twice when a
  newline follows. -/
  | startLine (returns : Bool)
  | endLine (returns : Bool)
  /-- An edge of a word, of letters of any script or of ASCII alone. -/
  | word (edge : WordEdge) (ascii : Bool)
  deriving DecidableEq, Repr

namespace Assertion

/-- Whether the condition holds between two characters; `none` is an end of the text. -/
def holds (before after : Option Char) : Assertion → Bool
  | startText => before.isNone
  | endText => after.isNone
  | startLine returns =>
    before.isNone || before == some '\n' || returns && before == some '\r' && after != some '\n'
  | endLine false => after.isNone || after == some '\n'
  | endLine true =>
    after.isNone || after == some '\r' || after == some '\n' && before != some '\r'
  | word edge ascii =>
    let isPart := if ascii then isAsciiWord else isWord
    edge.holds (before.any isPart) (after.any isPart)

end Assertion

inductive Node where
  | empty
  | char (set : CharSet)
  | assertion (assertion : Assertion)
  | seq (a b : Node)
  | alt (a b : Node)
  /-- At least `least` times, and at most `least + more` times when there is a bound. -/
  | rep (least : Nat) (more : Option Nat) (a : Node)
  deriving Repr

abbrev Places := Nat

namespace Places

/-- The places before a character of the set. -/
def before (set : CharSet) : List Char → Places
  | [] => 0
  | c :: s => (if set.mem c then 1 else 0) + 2 * before set s

/-- The places at which an assertion holds, `previous` being the character before the text. -/
def satisfying (assertion : Assertion) (previous : Option Char) : List Char → Places
  | [] => if assertion.holds previous none then 1 else 0
  | c :: s =>
    (if assertion.holds previous (some c) then 1 else 0) + 2 * satisfying assertion (some c) s

def all (n : Nat) : Places := (1 <<< (n + 1)) - 1

/-- Apply `step` exactly `n` times; nothing is reached from nowhere. -/
def times (step : Places → Places) : Nat → Places → Places
  | 0, places => places
  | n + 1, places => if places == 0 then 0 else times step n (step places)

/-- The places reached in at most `n` steps, found by stopping when a step adds none. -/
def within (step : Places → Places) : Nat → Places → Places
  | 0, places => places
  | n + 1, places =>
    let reached := places ||| step places
    if reached == places then places else within step n reached

end Places

/-- The places that the expression reaches in `text` from `places`. A text of `n` characters has
`n + 1` places, so an unbounded repetition has reached all it can after so many steps. -/
def Node.reach (text : List Char) : Node → Places → Places
  | .empty, places => places
  | .char set, places => (places &&& Places.before set text) <<< 1
  | .assertion condition, places => places &&& Places.satisfying condition none text
  | .seq a b, places => b.reach text (a.reach text places)
  | .alt a b, places => a.reach text places ||| b.reach text places
  | .rep least more a, places =>
    let due := Places.times (a.reach text) least places
    Places.within (a.reach text) (more.getD (text.length + 1)) due

end Regex

/-- A compiled regular expression. -/
structure Regex where
  root : Regex.Node
  deriving Repr

/-- Whether the expression matches somewhere in the text. -/
def Regex.isMatch (regex : Regex) (text : List Char) : Bool :=
  regex.root.reach text (Regex.Places.all text.length) != 0

end ContentFilter
