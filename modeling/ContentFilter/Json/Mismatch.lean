import ContentFilter.Json.Reader

/-!
Why a JSON value is not of a type.
-/

namespace ContentFilter.Json

/-- What is wrong with a value, if anything is. -/
abbrev Check := Json → Option FaultCause

/-- What a value is, whole numbers that fit into no word being decimal. -/
def Found.ofJson : Json → Found
  | .null => .null
  | .bool value => .bool value
  | .integer n => ofNumber (toString n)
  | .decimal text => ofNumber text
  | .string value => .string value.toList
  | .unpaired => .string []
  | .array _ => .array
  | .object _ => .object
where
  ofNumber (text : String) : Found :=
    let (negative, digits) := match text.toList with
      | '-' :: digits => (true, digits)
      | digits => (false, digits)
    match (Reader.number negative).run ⟨digits, {}⟩ with
    | .ok (found, _) => found
    | .error _ => .null

namespace Check

def wrongType (expected : String) (json : Json) : Option FaultCause :=
  some (.wrongType (.ofJson json) expected)

def null : Check
  | .null => none
  | json => wrongType "unit" json

def bool : Check
  | .bool _ => none
  | json => wrongType "a boolean" json

def string : Check
  | .string _ => none
  | json => wrongType "a string" json

/-- A whole number of a named type. -/
def between (type : String) (low high : Int) : Check := fun json =>
  match Found.ofJson json with
  | .integer n => if low ≤ n ∧ n ≤ high then none else some (.wrongValue (.integer n) type)
  | found => some (.wrongType found type)

def word32 : Check := between "u32" 0 4294967295

def int32 : Check := between "i32" (-2147483648) 2147483647

def nullable (check : Check) : Check
  | .null => none
  | json => check json

def list (check : Check) : Check
  | .array items => items.findSome? check
  | json => wrongType "a sequence" json

structure Field where
  name : String
  check : Check
  needed : Bool

namespace Field

def free (name : String) (check : Check) : Field := ⟨name, check, false⟩

def required (name : String) (check : Check) : Field := ⟨name, check, true⟩

end Field

/-- Items in the place of fields, of which `count` came before. -/
def items (label : String) (count : Nat) : List Field → List Json → Option FaultCause
  | [], [] => none
  | [], more => some (.wrongLength (count + more.length) "fewer elements in array")
  | known, [] => (known.findIdx? (·.needed)).map fun i => .wrongLength (count + i) label
  | field :: known, json :: more => field.check json <|> items label (count + 1) known more

/-- A record: an object, whose fields are looked at in the order of their names, or an array of its
fields in order. -/
def record (type : String) (known : List Field) : Check
  | .object fields =>
    let wrong := (Json.sorted (.object fields)).fields.findSome? fun (name, json) =>
      (known.find? (·.name == name)).bind fun field => field.check json
    let isMissing (field : Field) := field.needed && !fields.any (·.1 == field.name)
    wrong <|> (known.find? isMissing).map fun field => .missingField field.name
  | .array all => items (recordLabel type known.length) 0 known all
  | json => wrongType ("struct " ++ type) json

/-- One of several names, alone or as the only field of an object. -/
def name (known : List String) : Check
  | .string name => if known.contains name then none else some (.unknownName name known)
  | .object [(name, payload)] =>
    if known.contains name then null payload else some (.unknownName name known)
  | .object _ => some (.wrongValue .object "map with a single key")
  | json => wrongType "string or map" json

end Check

end ContentFilter.Json
