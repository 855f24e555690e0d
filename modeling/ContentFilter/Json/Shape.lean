import ContentFilter.Json.Reader

/-!
Checking that a JSON text has the shape of a type, up to the first fault.
-/

namespace ContentFilter.Json

/-- A reader of a value whose type is known. -/
abbrev Shape := Reader Unit

namespace Shape

open Reader

/-- Fail because the value is of another type. -/
def wrongType (expected : String) : Shape := do fail (.wrongType (← found) expected)

/-- The next character of a value, which has to be there. -/
def start : Reader Char := do
  match ← skipBlanks with
  | some c => pure c
  | none => fail .endInValue

def null : Shape := do
  if (← start) == 'n' then
    advance
    word ['u', 'l', 'l']
  else wrongType "unit"

def bool : Shape := do
  match ← start with
  | 't' => do advance; word ['r', 'u', 'e']
  | 'f' => do advance; word ['a', 'l', 's', 'e']
  | _ => wrongType "a boolean"

def string : Shape := do
  if (← start) == '"' then
    advance
    let _ ← Reader.string
  else wrongType "a string"

/-- An unsigned number of 64 bits. -/
def word64 : Shape := do
  let c ← start
  if c == '-' || c.isDigit then
    match ← found with
    | .integer n => if n < 0 then fail (.wrongValue (.integer n) "u64")
    | other => fail (.wrongType other "u64")
  else wrongType "u64"

def nullable (shape : Shape) : Shape := do
  if (← skipBlanks) == some 'n' then
    advance
    word ['u', 'l', 'l']
  else shape

/-- Whether another item of an array follows; its closing bracket is left. -/
def anotherItem (first : Bool) : Reader Bool := do
  match ← skipBlanks with
  | none => fail .endInArray
  | some c =>
    if c == ']' then pure false
    else if first then pure true
    else if c == ',' then
      advance
      match ← skipBlanks with
      | none => fail .endInValue
      | some c => if c == ']' then failNext .trailingComma else pure true
    else failNext .expectedItemEnd

/-- Whether another field of an object follows; its quote or the closing brace is left. -/
def anotherField (first : Bool) : Reader Bool := do
  match ← skipBlanks with
  | none => fail .endInObject
  | some c =>
    if c == '}' then pure false
    else if first then
      if c == '"' then pure true else failNext .expectedName
    else if c == ',' then
      advance
      match ← skipBlanks with
      | none => fail .endInValue
      | some c =>
        if c == '"' then pure true
        else failNext (if c == '}' then .trailingComma else .expectedName)
    else failNext .expectedFieldEnd

def list (item : Shape) : Shape := do
  if (← start) == '[' then
    advance
    let _ ← loop (fun first => do
      if ← anotherItem first then
        item
        pure (.inr false)
      else pure (.inl ())) true
    advance
  else wrongType "a sequence"

def map (value : Shape) : Shape := do
  if (← start) == '{' then
    advance
    let _ ← loop (fun first => do
      if ← anotherField first then
        advance
        let _ ← Reader.string
        colon
        value
        pure (.inr false)
      else pure (.inl ())) true
    advance
  else wrongType "a map"

/-- When a field of a record may be missing: always, in an object only, or never. -/
inductive Presence where
  | free | optional | required
  deriving DecidableEq, Repr

structure Field where
  name : String
  shape : Shape
  presence : Presence

namespace Field

def free (name : String) (shape : Shape) : Field := ⟨name, shape, .free⟩

/-- A field that an object may leave out or set to null. -/
def optional (name : String) (shape : Shape) : Field := ⟨name, nullable shape, .optional⟩

def required (name : String) (shape : Shape) : Field := ⟨name, shape, .required⟩

end Field

/-- The end of an array that may hold no more items. -/
def endOfArray : Shape := do
  match ← skipBlanks with
  | none => fail .endInArray
  | some c =>
    if c == ']' then advance
    else if c == ',' then
      advance
      failNext (if (← skipBlanks) == some ']' then .trailingComma else .trailingText)
    else failNext .trailingText

/-- The fields of a record in their order, of which `count` have been read. -/
def items (label : String) (count : Nat) : List Field → Shape
  | [] => endOfArray
  | field :: more => do
    if ← anotherItem (count == 0) then
      field.shape
      items label (count + 1) more
    else
      advance
      if let some i := (field :: more).findIdx? (·.presence != .free) then
        fail (.wrongLength (count + i) label)

/-- Fail because of a field, after as much of the end of the object as stands there. -/
def failInObject (cause : FaultCause) : Shape := do
  if (← skipBlanks) == some '}' then advance
  fail cause

/-- The fields of an object up to its closing brace. Unknown ones are skipped. -/
def fields (known : List Field) : Shape := do
  let names ← loop (fun (seen : Option (List String)) => do
    if ← anotherField seen.isNone then
      advance
      let name := String.ofList (← Reader.string)
      let names := seen.getD []
      match known.find? (·.name == name) with
      | some field =>
        if names.contains name then failInObject (.repeatedField name)
        colon
        field.shape
        pure (.inr (some (name :: names)))
      | none =>
        colon
        skipValue
        pure (.inr (some names))
    else pure (.inl (seen.getD []))) none
  let isMissing (field : Field) := field.presence == .required && !(names.getD []).contains field.name
  match known.find? isMissing with
  | some field => failInObject (.missingField field.name)
  | none => advance

/-- A record of a named type: an object, or an array of its fields in order. -/
def record (type : String) (known : List Field) : Shape := do
  match ← start with
  | '{' => do advance; fields known
  | '[' => do advance; items (recordLabel type known.length) 0 known
  | _ => wrongType ("struct " ++ type)

/-- One of several alternatives: its name, alone or as the only field of an object. Those with a payload
have to be written as an object. -/
def variant (known : List (String × Option Shape)) : Shape := do
  let named : Reader (Option Shape) := do
    advance
    let name := String.ofList (← Reader.string)
    match known.lookup name with
    | some payload => pure payload
    | none => fail (.unknownName name (known.map (·.1)))
  match ← skipBlanks with
  | none => fail .endInValue
  | some '"' => do
    if (← named).isSome then failInObject (.wrongType .name "newtype variant")
  | some '{' => do
    advance
    if (← start) != '"' then wrongType "variant identifier"
    let payload ← named
    colon
    match payload with
    | some shape => shape
    | none => null
    match ← skipBlanks with
    | none => fail .endInObject
    | some c => if c == '}' then advance else fail .expectedValue
  | some _ => failNext .expectedValue

/-- What keeps a text from being a single value of the shape. -/
def fault? (shape : Shape) (text : List Char) : Option Fault :=
  let whole : Shape := do
    shape
    if (← skipBlanks).isSome then failNext .trailingText
  match whole.run ⟨text, {}⟩ with
  | .ok _ => none
  | .error fault => some fault

end Shape

end ContentFilter.Json
