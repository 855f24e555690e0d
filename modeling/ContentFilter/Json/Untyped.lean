import ContentFilter.Json.Decode
import ContentFilter.Json.Reader

/-!
Reading a JSON value without a type in mind: of two fields with one name the later counts, no
string may have an unpaired surrogate, and the size of numbers and the nesting are limited.
-/

namespace ContentFilter.Json

/-- The deepest nesting of containers. -/
def nestingLimit : Nat := 127

/-- Keep the last field of each name. -/
def lastFields : List (String × Json) → List (String × Json)
  | [] => []
  | field :: fields =>
    if fields.any (·.1 == field.1) then lastFields fields else field :: lastFields fields

/-- Whether a number is not too large. -/
def isInRange (text : String) : Bool :=
  let read := match text.toList with
    | '-' :: s => (Reader.number true).run ⟨s, {}⟩
    | s => (Reader.number false).run ⟨s, {}⟩
  read.isOk

mutual

/-- Read a value that may nest `limit` levels deep. -/
def untypedWithin (limit : Nat) : Json → Option Json
  | .unpaired => none
  | .integer n => if isInRange (toString n) then some (.integer n) else none
  | .decimal text => if isInRange text then some (.decimal text) else none
  | .array items =>
    match limit with
    | 0 => none
    | limit + 1 => (untypedItems limit items).map .array
  | .object fields =>
    match limit with
    | 0 => none
    | limit + 1 => (untypedFields limit fields).map fun fields => .object (lastFields fields)
  | json => some json

def untypedItems (limit : Nat) : List Json → Option (List Json)
  | [] => some []
  | item :: items => do
    let item ← untypedWithin limit item
    let items ← untypedItems limit items
    pure (item :: items)

def untypedFields (limit : Nat) : List (String × Json) → Option (List (String × Json))
  | [] => some []
  | (name, value) :: fields => do
    let value ← untypedWithin limit value
    let fields ← untypedFields limit fields
    pure ((name, value) :: fields)

end

def untyped? (json : Json) : Option Json := untypedWithin nestingLimit json

end ContentFilter.Json
