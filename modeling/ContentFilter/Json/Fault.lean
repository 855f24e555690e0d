import ContentFilter.Text.Basic
import ContentFilter.Text.Decimal
import ContentFilter.Unicode.Property

/-!
What is wrong with a JSON text, and where. The messages quote text of it: what does not show is written
as an escape.
-/

namespace ContentFilter.Text.Quoted

def isShown (c : Char) : Bool :=
  c == ' ' ||
    !(Unicode.Category.others ++ Unicode.Category.separators).contains (Unicode.category c.toNat)

def escape (c : Char) : List Char :=
  if c == '\x00' then ['\\', '0']
  else if c == '\t' then ['\\', 't']
  else if c == '\n' then ['\\', 'n']
  else if c == '\r' then ['\\', 'r']
  else if c == '"' || c == '\\' then ['\\', c]
  else if Unicode.isGraphemeExtend c.toNat || !isShown c then
    "\\u\x7b".toList ++ Nat.toDigits 16 c.toNat ++ ['}']
  else [c]

def encode (s : List Char) : String := String.ofList ('"' :: s.flatMap escape ++ ['"'])

end ContentFilter.Text.Quoted

namespace ContentFilter.Json

/-- What a value was found to be. -/
inductive Found where
  | null
  | bool (value : Bool)
  | integer (value : Int)
  | decimal (value : Float)
  | string (value : List Char)
  | array
  | object
  /-- A name alone that stands for one of several alternatives. -/
  | name
  deriving Repr

def Found.describe : Found → String
  | null => "null"
  | bool value => "boolean `" ++ toString value ++ "`"
  | integer value => "integer `" ++ toString value ++ "`"
  | decimal value => "floating point `" ++ Text.Decimal.ofFloat value ++ "`"
  | string value => "string " ++ Text.Quoted.encode value
  | array => "sequence"
  | object => "map"
  | name => "unit variant"

inductive FaultCause where
  | endInValue
  | endInArray
  | endInObject
  | endInString
  | expectedColon
  | expectedItemEnd
  | expectedFieldEnd
  | expectedWord
  | expectedValue
  | expectedName
  | trailingComma
  | trailingText
  | badNumber
  | hugeNumber
  | badEscape
  | controlCharacter
  | unpairedSurrogate
  | endOfEscape
  | wrongType (found : Found) (expected : String)
  | wrongValue (found : Found) (expected : String)
  | repeatedField (name : String)
  | missingField (name : String)
  | wrongLength (count : Nat) (expected : String)
  | unknownName (name : String) (known : List String)
  | emptyFlag
  | unknownFlag
  | badFlagBits
  deriving Repr

/-- Names in a choice, as a message lists them. -/
def choice (names : List String) : String :=
  match names.map fun name => "`" ++ name ++ "`" with
  | [] => "there are no variants"
  | [a] => a
  | [a, b] => a ++ " or " ++ b
  | all => "one of " ++ ", ".intercalate all

def FaultCause.message : FaultCause → String
  | endInValue => "EOF while parsing a value"
  | endInArray => "EOF while parsing a list"
  | endInObject => "EOF while parsing an object"
  | endInString => "EOF while parsing a string"
  | expectedColon => "expected `:`"
  | expectedItemEnd => "expected `,` or `]`"
  | expectedFieldEnd => "expected `,` or `\x7d`"
  | expectedWord => "expected ident"
  | expectedValue => "expected value"
  | expectedName => "key must be a string"
  | trailingComma => "trailing comma"
  | trailingText => "trailing characters"
  | badNumber => "invalid number"
  | hugeNumber => "number out of range"
  | badEscape => "invalid escape"
  | controlCharacter => "control character (\\u0000-\\u001F) found while parsing a string"
  | unpairedSurrogate => "lone leading surrogate in hex escape"
  | endOfEscape => "unexpected end of hex escape"
  | wrongType found expected => "invalid type: " ++ found.describe ++ ", expected " ++ expected
  | wrongValue found expected => "invalid value: " ++ found.describe ++ ", expected " ++ expected
  | repeatedField name => "duplicate field `" ++ name ++ "`"
  | missingField name => "missing field `" ++ name ++ "`"
  | wrongLength count expected =>
    "invalid length " ++ toString count ++ ", expected " ++ expected
  | unknownName name known => "unknown variant `" ++ name ++ "`, expected " ++ choice known
  | emptyFlag => "encountered empty flag"
  | unknownFlag => "unrecognized named flag"
  | badFlagBits => "invalid hex flag"

/-- The record of a type as messages about arrays call it. -/
def recordLabel (type : String) (size : Nat) : String :=
  "struct " ++ type ++ " with " ++ toString size ++ (if size == 1 then " element" else " elements")

/-- A place in a text: its line, and the bytes before it on that line. -/
structure Place where
  line : Nat := 1
  column : Nat := 0
  deriving DecidableEq, Repr

namespace Place

def after (place : Place) (c : Char) : Place :=
  if c == '\n' then ⟨place.line + 1, 0⟩ else ⟨place.line, place.column + c.utf8Size⟩

/-- The place one byte further, which may be inside the character. -/
def inside (place : Place) (c : Char) : Place :=
  if c == '\n' then ⟨place.line + 1, 0⟩ else ⟨place.line, place.column + 1⟩

end Place

structure Fault where
  cause : FaultCause
  place : Place
  deriving Repr

def Fault.message (fault : Fault) : String :=
  fault.cause.message ++ " at line " ++ toString fault.place.line ++ " column " ++
    toString fault.place.column

end ContentFilter.Json
