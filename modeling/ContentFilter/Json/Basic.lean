/-!
JSON values. Objects keep their fields in order, repeated names included, and a number that is not
an integer keeps its text.
-/

namespace ContentFilter

inductive Json where
  | null
  | bool (value : Bool)
  | integer (value : Int)
  | decimal (text : String)
  | string (value : String)
  /-- A string with an unpaired surrogate escape, or an object with such a name. It may be skipped but
  not read. -/
  | unpaired
  | array (items : List Json)
  | object (fields : List (String × Json))
  deriving BEq, Repr, Inhabited

namespace Json

def nat (n : Nat) : Json := .integer n

def optional {α : Type} (write : α → Json) : Option α → Json
  | some a => write a
  | none => .null

def strings (items : List String) : Json := .array (items.map .string)

/-- An object without its absent fields. -/
def present (fields : List (String × Option Json)) : Json :=
  .object (fields.filterMap fun (name, value) => value.map (name, ·))

/-- The form of a failure: its kind, with a text if there is one. -/
def failure (kind : String) (message : Option String) : Json :=
  present [("error", some (.string kind)), ("message", message.map .string)]

def fields : Json → List (String × Json)
  | .object fields => fields
  | _ => []

/-- The last field of that name. -/
def get? (json : Json) (name : String) : Option Json :=
  json.fields.reverse.lookup name

/-- Replace the field of that name where it stands, or append it. -/
def set (json : Json) (name : String) (value : Json) : Json :=
  let old := json.fields
  if old.any (·.1 == name) then
    .object (old.map fun (key, v) => if key == name then (key, value) else (key, v))
  else .object (old ++ [(name, value)])

def insertField (field : String × Json) : List (String × Json) → List (String × Json)
  | [] => [field]
  | other :: rest =>
    if field.1 < other.1 then field :: other :: rest
    else if field.1 == other.1 then field :: rest
    else other :: insertField field rest

mutual

/-- The same value with the fields of every object ordered by name. -/
def sorted : Json → Json
  | .array items => .array (sortedItems items)
  | .object fields => .object ((sortedFields fields).foldl (fun done f => insertField f done) [])
  | json => json

def sortedItems : List Json → List Json
  | [] => []
  | item :: items => sorted item :: sortedItems items

def sortedFields : List (String × Json) → List (String × Json)
  | [] => []
  | (name, value) :: fields => (name, sorted value) :: sortedFields fields

end

end Json

end ContentFilter
