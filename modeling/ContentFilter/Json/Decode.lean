import ContentFilter.Json.Basic

/-!
Reading typed values out of JSON values. A reader says only whether a value has its type.
-/

namespace ContentFilter.Json

abbrev Decoder (α : Type) := Json → Option α

namespace Decode

def bool : Decoder Bool
  | .bool value => some value
  | _ => none

def string : Decoder String
  | .string value => some value
  | _ => none

def intBetween (low high : Int) : Decoder Int
  | .integer n => if low ≤ n ∧ n ≤ high then some n else none
  | _ => none

def natBelow (bound : Nat) : Decoder Nat
  | .integer n => if 0 ≤ n ∧ n < bound then some n.toNat else none
  | _ => none

/-- The unsigned and the signed numbers of so many bits. -/
def word32 : Decoder Nat := natBelow 4294967296

def word64 : Decoder Nat := natBelow 18446744073709551616

def int32 : Decoder Int := intBetween (-2147483648) 2147483647

def list {α : Type} (decode : Decoder α) : Decoder (List α)
  | .array items => items.mapM decode
  | _ => none

def strings : Decoder (List String) := list string

def nullable {α : Type} (decode : Decoder α) : Decoder (Option α)
  | .null => some none
  | json => (decode json).map some

/-- The fields of an object used as a map, in order, repeated names included. -/
def entries {α : Type} (decode : Decoder α) : Decoder (List (String × α))
  | .object fields => fields.mapM fun (name, value) => (decode value).map (name, ·)
  | _ => none

/-- The known fields of a record: by name from an object, by place from an array. -/
structure Record where
  values : List (String × Option Json)
  byPlace : Bool

/-- The value of `name`, if it occurs; a repeated known name is an error. -/
def unique? (fields : List (String × Json)) (name : String) : Option (Option Json) :=
  match fields.filter (·.1 == name) with
  | [] => some none
  | [(_, value)] => some (some value)
  | _ => none

/-- A record with these fields. Unknown names of an object are skipped, and an array may leave out
its last items but not have more of them. -/
def record (names : List String) : Decoder Record
  | .object fields => do
    let values ← names.mapM fun name => (unique? fields name).map (name, ·)
    pure ⟨values, false⟩
  | .array items =>
    if items.length ≤ names.length then
      some ⟨names.zip (items.map some ++ List.replicate (names.length - items.length) none), true⟩
    else none
  | _ => none

namespace Record

def get? (record : Record) (name : String) : Option Json := (record.values.lookup name).join

def required {α : Type} (record : Record) (name : String) (decode : Decoder α) : Option α :=
  record.get? name >>= decode

/-- A field that an object may leave out or set to null; an array has to hold its place. -/
def optional {α : Type} (record : Record) (name : String) (decode : Decoder α) :
    Option (Option α) :=
  match record.get? name with
  | some json => nullable decode json
  | none => if record.byPlace then none else some none

/-- A field with a default for the case that it is missing. -/
def orDefault {α : Type} (record : Record) (name : String) (decode : Decoder α) (default : α) :
    Option α :=
  match record.get? name with
  | some json => decode json
  | none => some default

end Record

/-- One of several alternatives: its name, alone or as the only field of an object. -/
def variant : Decoder (String × Json)
  | .string name => some (name, .null)
  | .object [(name, payload)] => some (name, payload)
  | _ => none

/-- One of several names without a payload. -/
def name {α : Type} (names : List (String × α)) : Decoder α := fun json =>
  match variant json with
  | some (key, .null) => names.lookup key
  | _ => none

end Decode

end ContentFilter.Json
