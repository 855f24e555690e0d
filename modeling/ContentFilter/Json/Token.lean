import ContentFilter.Json.Basic
import ContentFilter.Text.Basic

/-!
The tokens of a JSON text. The scanner is an automaton over characters: one step reads one
character and hands out the tokens that it completes.
-/

namespace ContentFilter.Json

inductive Token where
  | openArray
  | closeArray
  | openObject
  | closeObject
  | comma
  | colon
  | scalar (value : Json)
  deriving Repr

namespace Token

/-- What the scanner is inside of; text read so far stands in reverse. -/
inductive Scan where
  | between
  | word (read : List Char)
  | number (read : List Char)
  /-- Inside a string; `paired` is false once an unpaired surrogate has been seen. -/
  | text (read : List Char) (paired : Bool)
  | escape (read : List Char) (paired : Bool)
  /-- Inside a `\u` escape with `due` digits to come; `high` is the surrogate before it. -/
  | unicode (read : List Char) (paired : Bool) (high : Option Nat) (due value : Nat)
  /-- After a high surrogate. -/
  | surrogate (read : List Char) (paired : Bool) (high : Nat)
  /-- After a high surrogate and a backslash. -/
  | surrogateEscape (read : List Char) (paired : Bool) (high : Nat)
  deriving Repr

def isNumberChar (c : Char) : Bool :=
  c.isDigit || c == '-' || c == '+' || c == '.' || c == 'e' || c == 'E'

def digits (s : List Char) : List Char × List Char := (s.takeWhile Char.isDigit, s.dropWhile Char.isDigit)

def isExponent : List Char → Bool
  | [] => true
  | e :: rest =>
    (e == 'e' || e == 'E') &&
      let unsigned := match rest with
        | '+' :: r => r
        | '-' :: r => r
        | r => r
      !unsigned.isEmpty && unsigned.all Char.isDigit

/-- What may follow the digits before the point. -/
def isFraction : List Char → Bool
  | '.' :: rest =>
    let (places, rest) := digits rest
    !places.isEmpty && isExponent rest
  | rest => isExponent rest

/-- The number that a text spells. Minus zero is no integer. -/
def number? (s : List Char) : Option Json :=
  let (negative, unsigned) := match s with
    | '-' :: rest => (true, rest)
    | rest => (false, rest)
  let (whole, rest) := digits unsigned
  match whole with
  | [] => none
  | d :: more =>
    if d == '0' && !more.isEmpty then none
    else if rest.isEmpty then
      match Text.nat? whole with
      | some n =>
        if negative then
          if n == 0 then some (.decimal "-0") else some (.integer (-n))
        else some (.integer n)
      | none => none
    else if isFraction rest then some (.decimal (String.ofList s))
    else none

def word? (s : List Char) : Option Json :=
  if s == "true".toList then some (.bool true)
  else if s == "false".toList then some (.bool false)
  else if s == "null".toList then some .null
  else none

def scalars (json : Option Json) : Option (List Token) := json.map fun value => [.scalar value]

/-- A character outside strings, numbers and words. -/
def stepBetween (c : Char) : Option (List Token × Scan) :=
  if c == ' ' || c == '\n' || c == '\t' || c == '\r' then some ([], .between)
  else if c == '[' then some ([.openArray], .between)
  else if c == ']' then some ([.closeArray], .between)
  else if c == '{' then some ([.openObject], .between)
  else if c == '}' then some ([.closeObject], .between)
  else if c == ',' then some ([.comma], .between)
  else if c == ':' then some ([.colon], .between)
  else if c == '"' then some ([], .text [] true)
  else if c == '-' || c.isDigit then some ([], .number [c])
  else if c.isLower then some ([], .word [c])
  else none

/-- The character that a one-letter escape stands for. -/
def unescape? (c : Char) : Option Char :=
  if c == '"' || c == '\\' || c == '/' then some c
  else if c == 'b' then some '\x08'
  else if c == 'f' then some '\x0c'
  else if c == 'n' then some '\n'
  else if c == 'r' then some '\r'
  else if c == 't' then some '\t'
  else none

/-- A complete `\u` escape: surrogates pair up, or spoil the string. -/
def closeUnicode (read : List Char) (paired : Bool) (high : Option Nat) (value : Nat) : Scan :=
  match high with
  | some h =>
    if 0xDC00 ≤ value && value ≤ 0xDFFF then
      .text (Char.ofNat (0x10000 + (h - 0xD800) * 0x400 + (value - 0xDC00)) :: read) paired
    else if 0xD800 ≤ value && value ≤ 0xDBFF then .surrogate read false value
    else .text (Char.ofNat value :: read) false
  | none =>
    if 0xD800 ≤ value && value ≤ 0xDBFF then .surrogate read paired value
    else if 0xDC00 ≤ value && value ≤ 0xDFFF then .text read false
    else .text (Char.ofNat value :: read) paired

def stepText (read : List Char) (paired : Bool) (c : Char) : Option (List Token × Scan) :=
  if c == '"' then
    let value := if paired then .string (String.ofList read.reverse) else .unpaired
    some ([.scalar value], .between)
  else if c == '\\' then some ([], .escape read paired)
  else if c.toNat < 0x20 then none
  else some ([], .text (c :: read) paired)

def step : Scan → Char → Option (List Token × Scan)
  | .between, c => stepBetween c
  | .word read, c =>
    if c.isLower then some ([], .word (c :: read))
    else do
      let done ← scalars (word? read.reverse)
      let (tokens, scan) ← stepBetween c
      pure (done ++ tokens, scan)
  | .number read, c =>
    if isNumberChar c then some ([], .number (c :: read))
    else do
      let done ← scalars (number? read.reverse)
      let (tokens, scan) ← stepBetween c
      pure (done ++ tokens, scan)
  | .text read paired, c => stepText read paired c
  | .escape read paired, c =>
    if c == 'u' then some ([], .unicode read paired none 4 0)
    else (unescape? c).map fun d => ([], .text (d :: read) paired)
  | .unicode read paired high due value, c => do
    let d ← Text.hexDigit? c
    if due ≤ 1 then pure ([], closeUnicode read paired high (16 * value + d))
    else pure ([], .unicode read paired high (due - 1) (16 * value + d))
  | .surrogate read paired high, c =>
    if c == '\\' then some ([], .surrogateEscape read paired high)
    else stepText read false c
  | .surrogateEscape read paired high, c =>
    if c == 'u' then some ([], .unicode read paired (some high) 4 0)
    else (unescape? c).map fun d => ([], .text (d :: read) false)

/-- The end of the text completes a word or a number, and nothing else may be open. -/
def finish : Scan → Option (List Token)
  | .between => some []
  | .word read => scalars (word? read.reverse)
  | .number read => scalars (number? read.reverse)
  | _ => none

/-- The tokens from state `scan` on. -/
def scanFrom (scan : Scan) : List Char → Option (List Token)
  | [] => finish scan
  | c :: s => do
    let (tokens, next) ← step scan c
    let rest ← scanFrom next s
    pure (tokens ++ rest)

def scan (s : List Char) : Option (List Token) := scanFrom .between s

end Token

end ContentFilter.Json
