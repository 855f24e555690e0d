import ContentFilter.Json.Decode

/-!
Reading fields leniently: a field that is missing or has another type counts as its default.
-/

namespace ContentFilter.Json

/-- The value of a field, null when there is none. -/
def field (json : Json) (name : String) : Json := (json.get? name).getD .null

/-- A field that is not null. -/
def field? (json : Json) (name : String) : Option Json :=
  match json.field name with
  | .null => none
  | value => some value

def text? (json : Json) (name : String) : Option String := Decode.string (json.field name)

def textOr (json : Json) (name : String) (default : String := "") : String :=
  (json.text? name).getD default

def flag (json : Json) (name : String) : Bool := (Decode.bool (json.field name)).getD false

def int? (json : Json) (name : String) : Option Int :=
  match json.field name with
  | .integer value => some value
  | _ => none

def nat? (json : Json) (name : String) : Option Nat := (json.int? name).map Int.toNat

def natOr (json : Json) (name : String) (default : Nat := 0) : Nat := (json.nat? name).getD default

/-- The items of an array, none when it is none. -/
def items (json : Json) (name : String) : List Json :=
  match json.field name with
  | .array items => items
  | _ => []

/-- The strings among the items of an array. -/
def texts (json : Json) (name : String) : List String := (json.items name).filterMap Decode.string

/-- The fields of an object, none when it is none. -/
def entries (json : Json) (name : String) : List (String × Json) := (json.field name).fields

end ContentFilter.Json
