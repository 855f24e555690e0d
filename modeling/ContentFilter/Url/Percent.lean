import ContentFilter.Text.Utf8

/-!
Percent encoding: a byte as a percent sign and two hexadecimal digits. Values of forms are written so
too.
-/

namespace ContentFilter.Url

/-- A percent sign and two upper-case hexadecimal digits. -/
def percentByte (b : UInt8) : List Char :=
  '%' :: (Text.hex 2 b.toNat).toList.map Char.toUpper

/-- Percent-encode control characters, characters outside ASCII and those in `others`. -/
def percentEncode (others : String) (s : List Char) : List Char :=
  (Text.Utf8.encode s).flatMap fun b =>
    let c := Char.ofNat b.toNat
    if b < 0x20 || 0x7F ≤ b || others.toList.contains c then percentByte b else [c]

def percentDecode : List UInt8 → List UInt8
  | [] => []
  | b :: rest =>
    if b == 0x25 then
      match rest with
      | x :: y :: more =>
        match Text.hexDigit? (Char.ofNat x.toNat), Text.hexDigit? (Char.ofNat y.toNat) with
        | some x, some y => (16 * x + y).toUInt8 :: percentDecode more
        | _, _ => b :: percentDecode (x :: y :: more)
      | short => b :: short
    else b :: percentDecode rest

/-- Letters, digits and four marks stand for themselves in a form value, and a space is a plus sign. -/
def formByte (b : UInt8) : List Char :=
  let c := Char.ofNat b.toNat
  if b < 0x80 && (c.isAlphanum || c == '*' || c == '-' || c == '.' || c == '_') then [c]
  else if c == ' ' then ['+']
  else percentByte b

def formEncode (s : List Char) : List Char := (Text.Utf8.encode s).flatMap formByte

end ContentFilter.Url
