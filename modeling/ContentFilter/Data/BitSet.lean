import ContentFilter.Text.Basic

/-!
Sets of numbered flags, and their text: names joined by bars, other bits in hexadecimal.
-/

namespace ContentFilter

structure BitSet where
  bits : Nat
  deriving DecidableEq, Hashable, Repr, Inhabited

namespace BitSet

def empty : BitSet := ⟨0⟩

def single (i : Nat) : BitSet := ⟨1 <<< i⟩

def isEmpty (s : BitSet) : Bool := s.bits == 0

def mem (s : BitSet) (i : Nat) : Bool := s.bits.testBit i

def union (s t : BitSet) : BitSet := ⟨s.bits ||| t.bits⟩

def inter (s t : BitSet) : BitSet := ⟨s.bits &&& t.bits⟩

/-- The flags of `s` that are not in `t`. -/
def without (s t : BitSet) : BitSet := ⟨s.bits ^^^ (s.bits &&& t.bits)⟩

def includes (s t : BitSet) : Bool := (s.inter t) == t

def meets (s t : BitSet) : Bool := !(s.inter t).isEmpty

def ofList (flags : List Nat) : BitSet := flags.foldl (fun s i => s.union (single i)) empty

@[simp] theorem mem_empty (i : Nat) : empty.mem i = false := by simp [mem, empty]

@[simp] theorem mem_union (s t : BitSet) (i : Nat) : (s.union t).mem i = (s.mem i || t.mem i) := by
  simp [mem, union]

@[simp] theorem mem_inter (s t : BitSet) (i : Nat) : (s.inter t).mem i = (s.mem i && t.mem i) := by
  simp [mem, inter]

@[simp] theorem mem_without (s t : BitSet) (i : Nat) :
    (s.without t).mem i = (s.mem i && !t.mem i) := by
  simp only [mem, without, Nat.testBit_xor, Nat.testBit_and]
  cases s.bits.testBit i <;> cases t.bits.testBit i <;> rfl

@[simp] theorem mem_single (i j : Nat) : (single i).mem j = decide (i = j) := by
  simp [mem, single, Nat.one_shiftLeft, Nat.testBit_two_pow]

end BitSet

/-- The names that the text of a set may use: single flags in order, then names of several flags,
which are read but never written. Sets have at most `width` flags. -/
structure BitNames where
  width : Nat
  flags : List (String × Nat)
  unions : List (String × BitSet) := []

namespace BitNames

def all (names : BitNames) : BitSet := .ofList (names.flags.map (·.2))

/-- The text of a set. -/
def write (names : BitNames) (s : BitSet) : String :=
  let known := (names.flags.filter fun (_, i) => s.mem i).map (·.1)
  let rest := s.without names.all
  let rest := if rest.isEmpty then [] else ["0x" ++ Text.hex 0 rest.bits]
  " | ".intercalate (known ++ rest)

def readName (names : BitNames) (name : List Char) : Option BitSet :=
  match Text.dropStart? "0x" name with
  | some digits => do
    let n ← Text.hex? ((Text.dropStart? "+" digits).getD digits)
    if n < 1 <<< names.width then some ⟨n⟩ else none
  | none =>
    let name := String.ofList name
    ((names.flags.lookup name).map .single) <|> names.unions.lookup name

/-- Read a set back; a blank text is the empty set. -/
def read (names : BitNames) (text : String) : Option BitSet := do
  let text := Text.trim text.toList
  if text.isEmpty then pure .empty
  else
    let sets ← (Text.splitOn '|' text).mapM fun piece => names.readName (Text.trim piece)
    pure (sets.foldl .union .empty)

end BitNames

end ContentFilter
