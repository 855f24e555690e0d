import ContentFilter.Json.Basic
import ContentFilter.Text.Basic

/-!
Writing JSON, compact or indented by two spaces.
-/

namespace ContentFilter.Json

/-- Quotes, backslashes and control characters are escaped; everything else stands as it is. -/
def escape (c : Char) : List Char :=
  if c == '"' then ['\\', '"']
  else if c == '\\' then ['\\', '\\']
  else if c == '\x08' then ['\\', 'b']
  else if c == '\x0c' then ['\\', 'f']
  else if c == '\n' then ['\\', 'n']
  else if c == '\r' then ['\\', 'r']
  else if c == '\t' then ['\\', 't']
  else if c.toNat < 0x20 then '\\' :: 'u' :: (Text.hex 4 c.toNat).toList
  else [c]

def quoted (text : String) : List Char :=
  '"' :: (text.toList.flatMap escape ++ ['"'])

mutual

def chars : Json → List Char
  | .null => "null".toList
  | .bool true => "true".toList
  | .bool false => "false".toList
  | .integer n => (toString n).toList
  | .decimal text => text.toList
  | .string text => quoted text
  | .unpaired => quoted ""
  | .array [] => ['[', ']']
  | .array (item :: items) => '[' :: (chars item ++ itemChars items)
  | .object [] => ['{', '}']
  | .object ((name, value) :: fields) =>
    '{' :: (quoted name ++ ':' :: (chars value ++ fieldChars fields))

def itemChars : List Json → List Char
  | [] => [']']
  | item :: items => ',' :: (chars item ++ itemChars items)

def fieldChars : List (String × Json) → List Char
  | [] => ['}']
  | (name, value) :: fields =>
    ',' :: (quoted name ++ ':' :: (chars value ++ fieldChars fields))

end

/-- One line without blanks. -/
def compact (json : Json) : String := String.ofList json.chars

def newline (depth : Nat) : List Char := '\n' :: List.replicate (2 * depth) ' '

mutual

def indentedChars (depth : Nat) : Json → List Char
  | .array [] => ['[', ']']
  | .array (item :: items) =>
    '[' :: (newline (depth + 1) ++ indentedChars (depth + 1) item ++ indentedItems depth items)
  | .object [] => ['{', '}']
  | .object ((name, value) :: fields) =>
    '{' :: (newline (depth + 1) ++ quoted name ++ ':' :: ' ' ::
      (indentedChars (depth + 1) value ++ indentedFields depth fields))
  | json => chars json

def indentedItems (depth : Nat) : List Json → List Char
  | [] => newline depth ++ [']']
  | item :: items =>
    ',' :: (newline (depth + 1) ++ indentedChars (depth + 1) item ++ indentedItems depth items)

def indentedFields (depth : Nat) : List (String × Json) → List Char
  | [] => newline depth ++ ['}']
  | (name, value) :: fields =>
    ',' :: (newline (depth + 1) ++ quoted name ++ ':' :: ' ' ::
      (indentedChars (depth + 1) value ++ indentedFields depth fields))

end

/-- One value or field a line. -/
def pretty (json : Json) : String := String.ofList (indentedChars 0 json)

end ContentFilter.Json
