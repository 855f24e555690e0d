import ContentFilter.Text.Basic

/-!
Sorted tables of code points. A set is written in hexadecimal numbers: `A-F` stands for all from `A`
to `F` and `A-F/2` for every second of them. A map is written as such spans with values, or as names
with the lengths of their runs.
-/

namespace ContentFilter.Unicode

/-- The last place of a part of a sorted table whose key is at most `n`, or the first of the part. -/
def lastPlace {α : Type} (key : α → Nat) (table : Array α) (n low size : Nat) : Nat :=
  if size ≤ 1 then low
  else
    let half := size / 2
    if table[low + half]?.any fun entry => key entry ≤ n then
      lastPlace key table n (low + half) (size - half)
    else lastPlace key table n low half
termination_by size

/-- The last entry of a sorted table whose key is at most `n`. -/
def last? {α : Type} (key : α → Nat) (table : Array α) (n : Nat) : Option α :=
  table[lastPlace key table n 0 table.size]?.filter fun entry => key entry ≤ n

/-- The numbers from `low` to `high` in steps of `step`. -/
structure Span where
  low : Nat
  high : Nat
  step : Nat
  deriving Repr

namespace Span

def contains (span : Span) (n : Nat) : Bool :=
  span.low ≤ n && n ≤ span.high && (n - span.low) % span.step == 0

def ofWord (word : List Char) : Span :=
  let (range, step) := (Text.cut? ['/'] word).getD (word, ['1'])
  let (low, high) := (Text.cut? ['-'] range).getD (range, range)
  ⟨(Text.hex? low).getD 0, (Text.hex? high).getD 0, (Text.nat? step).getD 1⟩

end Span

/-- The words of a table's text. -/
def tableWords (text : List String) : List (List Char) := text.flatMap fun s => Text.words s.toList

def spans (text : List String) : Array Span := ((tableWords text).map Span.ofWord).toArray

def inSpans (table : Array Span) (n : Nat) : Bool := (last? Span.low table n).any (·.contains n)

/-- The entries of a text whose words are spans with values. -/
def entries {α : Type} (read : List Char → α) (text : List String) : Array (Span × α) :=
  ((tableWords text).map fun word =>
    let (span, value) := (Text.cut? ['='] word).getD (word, [])
    (Span.ofWord span, read value)).toArray

def valueAt? {α : Type} (table : Array (Span × α)) (n : Nat) : Option α :=
  ((last? (fun entry => entry.1.low) table n).filter fun entry => entry.1.contains n).map (·.2)

/-- A run of code points with one name, up to where the next run starts. -/
structure Run (α : Type) where
  start : Nat
  name : α

/-- The runs of a text, from zero on. A length is left out when it is one. -/
def runs {α : Type} (read : List Char → α) (text : List String) : Array (Run α) :=
  let step := fun (next : Nat × Array (Run α)) (word : List Char) =>
    let name := word.takeWhile Char.isAlpha
    (next.1 + (Text.nat? (word.drop name.length)).getD 1, next.2.push ⟨next.1, read name⟩)
  ((tableWords text).foldl step (0, #[])).2

def nameAt? {α : Type} (table : Array (Run α)) (n : Nat) : Option α :=
  (last? Run.start table n).map (·.name)

end ContentFilter.Unicode
