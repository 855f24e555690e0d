import ContentFilter.Json.Fault
import ContentFilter.Json.Token
import ContentFilter.Text.Utf8

/-!
Reading a JSON text from left to right up to the first fault.
-/

namespace ContentFilter.Json

/-- The text still to be read, and where it starts. -/
structure Cursor where
  rest : List Char
  place : Place := {}

def Cursor.advance (cursor : Cursor) : Cursor :=
  match cursor.rest with
  | [] => cursor
  | c :: rest => ⟨rest, cursor.place.after c⟩

def Cursor.advanceBy (cursor : Cursor) : Nat → Cursor
  | 0 => cursor
  | n + 1 => cursor.advance.advanceBy n

abbrev Reader := StateT Cursor (Except Fault)

namespace Reader

def peek : Reader (Option Char) := do pure (← get).rest.head?

def moveTo (cursor : Cursor) : Reader Unit := modify fun _ => cursor

def advance : Reader Unit := modify Cursor.advance

def fail {α : Type} (cause : FaultCause) : Reader α := do throw ⟨cause, (← get).place⟩

/-- Fail at the character that comes next. -/
def failNext {α : Type} (cause : FaultCause) : Reader α := do
  let cursor ← get
  throw ⟨cause, match cursor.rest with
    | [] => cursor.place
    | c :: _ => cursor.place.inside c⟩

/-- Repeat a step until it says what came out. A step that goes on has to read something. -/
def loop {σ α : Type} (step : σ → Reader (α ⊕ σ)) (state : σ) : Reader (Option α) := fun cursor =>
  match step state cursor with
  | .error fault => .error fault
  | .ok (.inl result, next) => .ok (some result, next)
  | .ok (.inr state, next) =>
    if next.rest.length < cursor.rest.length then loop step state next else .ok (none, next)
termination_by cursor => cursor.rest.length

/-- The next character that is no blank. -/
def skipBlanks : Reader (Option Char) := do
  let blank (c : Char) := c == ' ' || c == '\n' || c == '\t' || c == '\r'
  let found ← loop (fun _ => do
    match ← peek with
    | some c => if blank c then advance; pure (.inr ()) else pure (.inl (some c))
    | none => pure (.inl none)) ()
  pure found.join

def digits : Reader (List Char) := do
  let found ← loop (fun read => do
    match ← peek with
    | some c => if c.isDigit then advance; pure (.inr (c :: read)) else pure (.inl read)
    | none => pure (.inl read)) []
  pure (found.getD []).reverse

/-- The rest of a word whose first letter has been read. -/
def word : List Char → Reader Unit
  | [] => pure ()
  | c :: more => do
    match ← peek with
    | none => fail .endInValue
    | some d =>
      if c == d then
        advance
        word more
      else failNext .expectedWord

/-- Four digits of an escape, found wrong only after all of them. -/
def hexEscape : Reader Nat := do
  let cursor ← get
  let bytes := Text.Utf8.encode (cursor.rest.take 4)
  if bytes.length < 4 then
    moveTo (cursor.advanceBy 4)
    fail .endInString
  else
    match Text.hex? (cursor.rest.take 4) with
    | some n =>
      moveTo (cursor.advanceBy 4)
      pure n
    | none =>
      let chars := (bytes.take 4).map fun b => Char.ofNat b.toNat
      let place := chars.foldl Place.inside cursor.place
      throw ⟨.badEscape, place⟩

/-- The character of a `\u` escape. Surrogates come in pairs. -/
def unicodeEscape : Reader Char := do
  let n ← hexEscape
  if 0xDC00 ≤ n && n ≤ 0xDFFF then fail .unpairedSurrogate
  else if 0xD800 ≤ n && n ≤ 0xDBFF then
    for expected in ['\\', 'u'] do
      match ← peek with
      | none => fail .endInString
      | some c => if c == expected then advance else failNext .endOfEscape
    let low ← hexEscape
    if 0xDC00 ≤ low && low ≤ 0xDFFF then
      pure (Char.ofNat (0x10000 + (n - 0xD800) * 0x400 + (low - 0xDC00)))
    else fail .unpairedSurrogate
  else pure (Char.ofNat n)

/-- The character of an escape, after its backslash. -/
def escape (unicode : Reader Char) : Reader Char := do
  match ← peek with
  | none => fail .endInString
  | some c =>
    if c == 'u' then
      advance
      unicode
    else
      match Token.unescape? c with
      | some d =>
        advance
        pure d
      | none => failNext .badEscape

/-- A string after its opening quote. -/
def string : Reader (List Char) := do
  let found ← loop (fun read => do
    match ← peek with
    | none => fail .endInString
    | some c =>
      if c == '"' then
        advance
        pure (.inl read)
      else if c == '\\' then
        advance
        pure (.inr ((← escape unicodeEscape) :: read))
      else if c.toNat < 0x20 then failNext .controlCharacter
      else
        advance
        pure (.inr (c :: read))) []
  pure (found.getD []).reverse

/-- Skip a string after its opening quote. Its surrogates need not come in pairs. -/
def skipString : Reader Unit := do
  let _ ← loop (fun _ => do
    match ← peek with
    | none => fail .endInString
    | some c =>
      if c == '"' then
        advance
        pure (.inl ())
      else if c == '\\' then
        advance
        let _ ← escape (do let _ ← hexEscape; pure ' ')
        pure (.inr ())
      else if c.toNat < 0x20 then fail .controlCharacter
      else
        advance
        pure (.inr ())) ()

/-- The digits before the point, of which a first zero is the only one. -/
def wholeDigits : Reader (List Char) := do
  match ← peek with
  | none => fail .endInValue
  | some c =>
    if c == '0' then
      advance
      match ← peek with
      | some d => if d.isDigit then failNext .badNumber else pure ['0']
      | none => pure ['0']
    else if c.isDigit then digits
    else failNext .badNumber

/-- The number that digits spell as far as it stays below a bound, and the digits that are left. -/
def fit (bound start : Nat) (s : List Char) : Nat × List Char :=
  match s with
  | [] => (start, [])
  | c :: rest =>
    let n := 10 * start + (c.toNat - '0'.toNat)
    if n < bound then fit bound n rest else (start, c :: rest)

/-- One more than the largest word. -/
def wordBound : Nat := 18446744073709551616

/-- One more than the largest exponent. -/
def exponentBound : Nat := 2147483648

/-- A number with a decimal exponent, which may be too large. -/
def scaled (negative : Bool) (n : Nat) (exponent : Int) : Reader Float := do
  let x := (UInt64.ofNat n).toFloat
  let ten (k : Nat) := Float.ofScientific 1 false k
  let x :=
    match exponent with
    | .ofNat k => if k ≤ 308 then x * ten k else if n == 0 then x else x / 0
    | .negSucc k =>
      if k + 1 ≤ 308 then x / ten (k + 1)
      else if k + 1 ≤ 616 then x / ten 308 / ten (k + 1 - 308)
      else x / ten 308 / ten 308 / ten (min (k + 1 - 616) 308)
  if x.isInf then fail .hugeNumber
  pure (if negative then -x else x)

/-- The exponent of a number, after its letter. -/
def exponentPart (negative : Bool) (n : Nat) (start : Int) : Reader Float := do
  let sign ← peek
  if sign == some '+' || sign == some '-' then advance
  match ← peek with
  | none => fail .endInValue
  | some c => if !c.isDigit then failNext .badNumber
  let before ← get
  let s ← digits
  let (e, left) := fit exponentBound 0 s
  if left.isEmpty then scaled negative n (if sign == some '-' then start - e else start + e)
  else if n == 0 || sign == some '-' then pure (if negative then -0.0 else 0.0)
  else
    moveTo (before.advanceBy (s.length - left.length + 1))
    fail .hugeNumber

/-- What follows a point: digits, of which those that still fit count. -/
def fractionPart (negative : Bool) (n : Nat) (start : Int) : Reader Float := do
  let s ← digits
  if s.isEmpty then
    match ← peek with
    | some _ => failNext .badNumber
    | none => fail .endInValue
  let (n, left) := fit wordBound n s
  let exponent := start - ((s.length - left.length : Nat) : Int)
  match ← peek with
  | some c =>
    if c == 'e' || c == 'E' then
      advance
      exponentPart negative n exponent
    else scaled negative n exponent
  | none => scaled negative n exponent

/-- A number after its sign. Minus zero and numbers that do not fit into a word are no integers. -/
def number (negative : Bool) : Reader Found := do
  let s ← wholeDigits
  let (n, left) := fit wordBound 0 s
  let start : Int := (left.length : Nat)
  let c ← peek
  if c == some '.' then
    advance
    pure (.decimal (← fractionPart negative n start))
  else if c == some 'e' || c == some 'E' then
    advance
    pure (.decimal (← exponentPart negative n start))
  else if !left.isEmpty || (negative && (n == 0 || 9223372036854775808 < n)) then
    pure (.decimal (← scaled negative n start))
  else pure (.integer (if negative then -n else n))

/-- Skip a number after its sign. -/
def skipNumber : Reader Unit := do
  match ← peek with
  | none => fail .badNumber
  | some c => if c.isDigit then let _ ← wholeDigits else failNext .badNumber
  if (← peek) == some '.' then
    advance
    if (← digits).isEmpty then failNext .badNumber
  let c ← peek
  if c == some 'e' || c == some 'E' then
    advance
    let sign ← peek
    if sign == some '+' || sign == some '-' then advance
    if (← digits).isEmpty then failNext .badNumber

/-- What a value that has no business here is, read as far as that takes. -/
def found : Reader Found := do
  match ← peek with
  | some 'n' => do advance; word ['u', 'l', 'l']; pure .null
  | some 't' => do advance; word ['r', 'u', 'e']; pure (.bool true)
  | some 'f' => do advance; word ['a', 'l', 's', 'e']; pure (.bool false)
  | some '-' => do advance; number true
  | some '"' => do advance; pure (.string (← string))
  | some '[' => pure .array
  | some '{' => pure .object
  | some c => if c.isDigit then number false else failNext .expectedValue
  | none => failNext .expectedValue

def closing (opening : Char) : Char := if opening == '[' then ']' else '}'

/-- Close brackets after a value, the innermost of `stack` first, up to a comma or, right after an
opening bracket, up to its first item. -/
def closeBrackets (stack : List Char) (fresh : Bool) : Reader (List Char) := do
  let left ← loop (fun (stack, fresh) => do
    match stack with
    | [] => pure (.inl [])
    | opening :: outer =>
      match ← skipBlanks with
      | none => fail (if opening == '[' then .endInArray else .endInObject)
      | some c =>
        if c == ',' && !fresh then
          advance
          pure (.inl stack)
        else if c == closing opening then
          advance
          pure (.inr (outer, false))
        else if fresh then pure (.inl stack)
        else failNext (if opening == '[' then .expectedItemEnd else .expectedFieldEnd)) (stack, fresh)
  pure (left.getD [])

def colon : Reader Unit := do
  match ← skipBlanks with
  | none => fail .endInObject
  | some c => if c == ':' then advance else failNext .expectedColon

/-- Skip a value of any kind. -/
def skipValue : Reader Unit := do
  let _ ← loop (fun (stack : List Char) => do
    let opened ← do
      match ← skipBlanks with
      | none => fail .endInValue
      | some 'n' => do advance; word ['u', 'l', 'l']; pure none
      | some 't' => do advance; word ['r', 'u', 'e']; pure none
      | some 'f' => do advance; word ['a', 'l', 's', 'e']; pure none
      | some '-' => do advance; skipNumber; pure none
      | some '"' => do advance; skipString; pure none
      | some c =>
        if c == '[' || c == '{' then
          advance
          pure (some c)
        else if c.isDigit then
          skipNumber
          pure none
        else failNext .expectedValue
    let stack ← closeBrackets (opened.toList ++ stack) opened.isSome
    match stack with
    | [] => pure (.inl ())
    | opening :: _ =>
      if opening == '{' then
        match ← skipBlanks with
        | none => fail .endInObject
        | some c => if c == '"' then advance else failNext .expectedName
        skipString
        colon
      pure (.inr stack)) []

end Reader

end ContentFilter.Json
