/-!
Decimal text of floating point numbers: the fewest digits that no other number is nearer to.
-/

namespace ContentFilter.Text.Decimal

/-- Digits with a point before the last `places` of them; fewer than no places append zeros. -/
structure Digits where
  digits : Nat
  places : Int
  deriving DecidableEq, Repr

def pow10 (n : Nat) : Nat := Nat.pow 10 n

def digitCount (n : Nat) : Nat := (Nat.toDigits 10 n).length

/-- Without zeros at the end. -/
def trim : Nat → Digits → Digits
  | 0, d => d
  | n + 1, d => if d.digits % 10 == 0 then trim n ⟨d.digits / 10, d.places - 1⟩ else d

/-- A number with the middles between it and its neighbours, all of them multiples of one over `unit`.
The middles belong to it when `closed` holds. -/
structure Interval where
  low : Nat
  value : Nat
  high : Nat
  unit : Nat
  closed : Bool

namespace Interval

def ofFloat (x : Float) : Interval :=
  let bits := x.toBits.toNat % 0x8000000000000000
  let fraction := bits % 0x10000000000000
  let exponent := bits / 0x10000000000000
  let mantissa := if exponent == 0 then fraction else 0x10000000000000 + fraction
  let power := (max exponent 1 : Nat)
  let below := if fraction == 0 && 1 < exponent then 1 else 2
  let scale := 1 <<< (power - 1077)
  { low := (4 * mantissa - below) * scale, value := 4 * mantissa * scale
    high := (4 * mantissa + 2) * scale, unit := 1 <<< (1077 - power)
    closed := mantissa % 2 == 0 }

/-- Multiply by a power of ten. -/
def scale (places : Int) (i : Interval) : Interval :=
  match places with
  | .ofNat n =>
    { i with low := i.low * pow10 n, value := i.value * pow10 n, high := i.high * pow10 n }
  | .negSucc n => { i with unit := i.unit * pow10 (n + 1) }

def contains (i : Interval) (n : Nat) : Bool :=
  if i.closed then i.low ≤ n * i.unit && n * i.unit ≤ i.high
  else i.low < n * i.unit && n * i.unit < i.high

/-- The nearer of the two whole numbers around the value that lie in the interval. -/
def whole? (i : Interval) : Option Nat :=
  let n := i.value / i.unit
  let rest := 2 * (i.value % i.unit)
  let upper := i.unit < rest || (rest == i.unit && n % 2 == 1)
  match i.contains n, i.contains (n + 1) with
  | true, true => some (if upper then n + 1 else n)
  | true, false => some n
  | false, true => some (n + 1)
  | false, false => none

/-- How many digits stand before the point, negative for zeros behind it. -/
def magnitude (i : Interval) : Int :=
  if i.unit ≤ i.value then digitCount (i.value / i.unit)
  else
    let n := digitCount (i.unit / i.value)
    if i.unit ≤ i.value * pow10 (n - 1) then 2 - (n : Int) else 1 - n

end Interval

/-- The fewest digits of a positive number; seventeen are always enough. -/
def shortest (x : Float) : Digits :=
  let i := Interval.ofFloat x
  let found := (List.range 17).findSome? fun (n : Nat) =>
    let places := (n : Int) + 1 - i.magnitude
    ((i.scale places).whole?).map fun digits => trim 17 ⟨digits, places⟩
  found.getD ⟨0, 0⟩

def zeros (n : Nat) : String := String.ofList (List.replicate n '0')

/-- Numbers with up to sixteen digits before the point, or up to four zeros behind it, are written
without an exponent, whole ones with a zero behind the point. -/
def write (d : Digits) : String :=
  let text := Nat.toDigits 10 d.digits
  let before := (text.length : Int) - d.places
  let exponent := toString (before - 1)
  if d.places ≤ 0 && before ≤ 16 then String.ofList text ++ zeros (-d.places).toNat ++ ".0"
  else if 0 < before && before ≤ 16 then
    String.ofList (text.take before.toNat) ++ "." ++ String.ofList (text.drop before.toNat)
  else if -5 < before && before ≤ 0 then "0." ++ zeros (-before).toNat ++ String.ofList text
  else
    match text with
    | [digit] => String.ofList [digit] ++ "e" ++ exponent
    | text => String.ofList (text.take 1) ++ "." ++ String.ofList (text.drop 1) ++ "e" ++ exponent

def ofFloat (x : Float) : String :=
  let sign := if 0x8000000000000000 ≤ x.toBits.toNat then "-" else ""
  if x == 0 then sign ++ "0.0" else sign ++ write (shortest x)

end ContentFilter.Text.Decimal
