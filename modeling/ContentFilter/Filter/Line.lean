import ContentFilter.Filter.Cosmetic
import ContentFilter.Filter.Network

/-!
The lines of a filter list: comments, filters, and lines that cannot be used.
-/

namespace ContentFilter

inductive Filter where
  | network (filter : NetworkFilter)
  | cosmetic (filter : CosmeticFilter)
  deriving DecidableEq, Repr

inductive FilterType where
  | network | cosmetic | unsupported
  deriving DecidableEq, Repr

/-- A line that could not be used; lines count from one. -/
structure LineError where
  line : Nat
  filter : String
  error : FilterError
  deriving DecidableEq, Repr

structure ParsedList where
  network : List NetworkFilter := []
  cosmetic : List CosmeticFilter := []
  errors : List LineError := []
  deriving Repr

namespace Filter

def isComment (line : List Char) : Bool :=
  let line := Text.trim line
  line.isEmpty || line.head? == some '!' || line.head? == some '[' || line == ['#'] ||
    Text.startsWith "# " line || Text.startsWith "####" line

def typeOf (line : List Char) : FilterType :=
  if ["#$#", "#@$#", "#%#", "$$"].any fun mark => Text.contains mark line then .unsupported
  else if ["##", "#@#", "#?#", "#@?#"].any fun mark => Text.contains mark line then .cosmetic
  else .network

/-- The filter of a line, or `none` for a comment. -/
def parseChars (line : List Char) : Except FilterError (Option Filter) :=
  let line := Text.trim line
  if isComment line then .ok none
  else match typeOf line with
    | .network => (NetworkFilter.parseChars line).map fun filter => some (.network filter)
    | .cosmetic => (CosmeticFilter.parseChars line).map fun filter => some (.cosmetic filter)
    | .unsupported => .error .unsupported

def parse (line : String) : Except FilterError (Option Filter) := parseChars line.toList

end Filter

namespace ParsedList

/-- Take in the line with that number. -/
def add (parsed : ParsedList) (number : Nat) (line : List Char) : ParsedList :=
  match Filter.parseChars line with
  | .ok (some (.network filter)) => { parsed with network := filter :: parsed.network }
  | .ok (some (.cosmetic filter)) => { parsed with cosmetic := filter :: parsed.cosmetic }
  | .ok none => parsed
  | .error error =>
    let filter := String.ofList (Text.trim line)
    { parsed with errors := ⟨number, filter, error⟩ :: parsed.errors }

/-- The filters of some lines, of which the first has that number. -/
def ofLines : Nat → List (List Char) → ParsedList
  | _, [] => {}
  | number, line :: lines => (ofLines (number + 1) lines).add number line

/-- Every usable filter of a text, and the lines that have none. -/
def parse (text : String) : ParsedList := ofLines 1 (Text.lines text.toList)

end ParsedList

end ContentFilter
