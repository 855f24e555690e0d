import ContentFilter.Text.Basic

/-!
Punycode: a text with characters outside ASCII as ASCII text, and back.
-/

namespace ContentFilter.Text.Punycode

/-- The digit of value `d`, lower-case letters first. -/
def digit (d : Nat) : Char :=
  if d < 26 then Char.ofNat ('a'.toNat + d) else Char.ofNat ('0'.toNat + (d - 26))

/-- The threshold of the digit at weight index `k` under `bias`. -/
def threshold (k bias : Nat) : Nat :=
  if k ≤ bias + 1 then 1 else if bias + 26 ≤ k then 26 else k - bias

theorem threshold_le (k bias : Nat) : threshold k bias ≤ 26 := by
  unfold threshold
  split
  · omega
  · split <;> omega

def scaleDown (delta k : Nat) : Nat :=
  if 455 < delta then scaleDown (delta / 35) (k + 36) else k + 36 * delta / (delta + 38)
termination_by delta

def adapt (delta points : Nat) (first : Bool) : Nat :=
  let delta := if first then delta / 700 else delta / 2
  scaleDown (delta + delta / points) 0

/-- A number in generalised variable-length digits. -/
def number (q k bias : Nat) : List Char :=
  let t := threshold k bias
  if q < t ∨ t = 0 then [digit q]
  else digit (t + (q - t) % (36 - t)) :: number ((q - t) / (36 - t)) (k + 36) bias
termination_by q
decreasing_by
  have := threshold_le k bias
  rename_i h
  calc (q - threshold k bias) / (36 - threshold k bias) ≤ q - threshold k bias := Nat.div_le_self _ _
    _ < q := by simp only [not_or] at h; omega

structure State where
  delta : Nat
  bias : Nat
  handled : Nat
  output : List Char

/-- One character of the input while the code point `n` is due. -/
def State.visit (basic n : Nat) (state : State) (c : Char) : State :=
  if c.toNat < n then { state with delta := state.delta + 1 }
  else if c.toNat = n then
    { delta := 0
      bias := adapt state.delta (state.handled + 1) (state.handled == basic)
      handled := state.handled + 1
      output := state.output ++ number state.delta 36 state.bias }
  else state

/-- The code points of `points` in increasing order, `last` being the one before them. -/
def State.advance (basic : Nat) (input : List Char) : Nat → State → List Nat → State
  | _, state, [] => state
  | last, state, n :: points =>
    let jump := (n - last) * (state.handled + 1)
    let after := input.foldl (State.visit basic n) { state with delta := state.delta + jump }
    State.advance basic input (n + 1) { after with delta := after.delta + 1 } points

def encode (input : List Char) : List Char :=
  let basic := input.filter fun c => c.toNat < 0x80
  let points := ((input.filter fun c => 0x80 ≤ c.toNat).map Char.toNat).mergeSort.eraseDups
  let start := if basic.isEmpty then [] else basic ++ ['-']
  (State.advance basic.length input 0x80 ⟨0, 72, basic.length, start⟩ points).output

/-- The value of a digit. -/
def digit? (c : Char) : Option Nat :=
  if c.isAlpha then some (c.toLower.toNat - 'a'.toNat)
  else if c.isDigit then some (26 + (c.toNat - '0'.toNat))
  else none

/-- Numbers are below this one, and so are the weights of their digits. -/
def numberLimit : Nat := 4294967296

/-- The sum of `i` and a number whose first digit has weight `w`, and what follows the number. -/
def readNumber (bias : Nat) : List Char → Nat → Nat → Nat → Option (Nat × List Char)
  | [], _, _, _ => none
  | c :: rest, k, w, i => do
    let d ← digit? c
    let t := threshold k bias
    let i := i + d * w
    if numberLimit ≤ i then none
    else if d < t then some (i, rest)
    else if numberLimit ≤ w * (36 - t) then none
    else readNumber bias rest (k + 36) (w * (36 - t)) i

/-- Insert the characters that the rest of a text stands for, the last one having been `n`. -/
def insertFrom (bias n i : Nat) (output s : List Char) : Option (List Char) :=
  if s.isEmpty then some output
  else
    match readNumber bias s 36 1 i with
    | none => none
    | some (j, rest) =>
      let count := output.length + 1
      let n := n + j / count
      if !n.isValidChar then none
      else if rest.length < s.length then
        insertFrom (adapt (j - i) count (i == 0)) n (j % count + 1)
          (output.insertIdx (j % count) (Char.ofNat n)) rest
      else none
termination_by s.length

/-- The text that another stands for. The ASCII characters come before the last hyphen, unless that
is all there is before it. -/
def decode (s : List Char) : Option (List Char) :=
  match cutLast? ['-'] s with
  | some (c :: basic, rest) =>
    if (c :: basic).all (·.toNat < 0x80) then insertFrom 72 0x80 0 (c :: basic) rest else none
  | _ => insertFrom 72 0x80 0 [] s

end ContentFilter.Text.Punycode
