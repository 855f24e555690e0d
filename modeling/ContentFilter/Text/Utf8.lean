import ContentFilter.Text.Basic

/-!
UTF-8: the bytes of a text, reading bytes back, and cutting a text at a byte offset.
-/

namespace ContentFilter.Text.Utf8

def encode (s : List Char) : List UInt8 := s.flatMap String.utf8EncodeChar

/-- The number of bytes of a text. -/
def size (s : List Char) : Nat := s.foldr (fun c n => c.utf8Size + n) 0

@[simp] theorem encode_nil : encode [] = [] := rfl

@[simp] theorem encode_cons (c : Char) (s : List Char) :
    encode (c :: s) = String.utf8EncodeChar c ++ encode s := by
  simp [encode]

@[simp] theorem encode_append (s t : List Char) : encode (s ++ t) = encode s ++ encode t := by
  simp [encode]

@[simp] theorem size_nil : size [] = 0 := rfl

@[simp] theorem size_cons (c : Char) (s : List Char) : size (c :: s) = c.utf8Size + size s := rfl

@[simp] theorem size_append (s t : List Char) : size (s ++ t) = size s + size t := by
  induction s with
  | nil => simp
  | cons c s ih => simp [ih, Nat.add_assoc]

@[simp] theorem length_encode (s : List Char) : (encode s).length = size s := by
  induction s with
  | nil => rfl
  | cons c s ih => simp [ih]

/-- Why bytes are no UTF-8: where the first bad sequence starts and how many bytes it spans, or
`none` when the bytes end within it. -/
structure Fault where
  index : Nat
  span : Option Nat
  deriving DecidableEq, Repr

def Fault.message (fault : Fault) : String :=
  match fault.span with
  | some n => "invalid utf-8 sequence of " ++ toString n ++ " bytes from index " ++
      toString fault.index
  | none => "incomplete utf-8 byte sequence from index " ++ toString fault.index

def isContinuation (b : UInt8) : Bool := 0x80 ≤ b && b ≤ 0xBF

/-- The second bytes that may follow the lead byte of a sequence of three or four. -/
def isSecond (lead b : UInt8) : Bool :=
  if lead == 0xE0 then 0xA0 ≤ b && b ≤ 0xBF
  else if lead == 0xED then 0x80 ≤ b && b ≤ 0x9F
  else if lead == 0xF0 then 0x90 ≤ b && b ≤ 0xBF
  else if lead == 0xF4 then 0x80 ≤ b && b ≤ 0x8F
  else isContinuation b

def payload (b : UInt8) : Nat := b.toNat % 0x40

/-- Read the bytes that stand at offset `i`. -/
def decodeFrom (i : Nat) : List UInt8 → Except Fault (List Char)
  | [] => .ok []
  | a :: rest =>
    if a < 0x80 then
      (decodeFrom (i + 1) rest).map (Char.ofNat a.toNat :: ·)
    else if 0xC2 ≤ a && a ≤ 0xDF then
      match rest with
      | [] => .error ⟨i, none⟩
      | b :: rest =>
        if isContinuation b then
          (decodeFrom (i + 2) rest).map (Char.ofNat (a.toNat % 0x20 * 0x40 + payload b) :: ·)
        else .error ⟨i, some 1⟩
    else if 0xE0 ≤ a && a ≤ 0xEF then
      match rest with
      | [] => .error ⟨i, none⟩
      | b :: rest =>
        if isSecond a b then
          match rest with
          | [] => .error ⟨i, none⟩
          | c :: rest =>
            if isContinuation c then
              (decodeFrom (i + 3) rest).map
                (Char.ofNat ((a.toNat % 0x10 * 0x40 + payload b) * 0x40 + payload c) :: ·)
            else .error ⟨i, some 2⟩
        else .error ⟨i, some 1⟩
    else if 0xF0 ≤ a && a ≤ 0xF4 then
      match rest with
      | [] => .error ⟨i, none⟩
      | b :: rest =>
        if isSecond a b then
          match rest with
          | [] => .error ⟨i, none⟩
          | c :: rest =>
            if isContinuation c then
              match rest with
              | [] => .error ⟨i, none⟩
              | d :: rest =>
                if isContinuation d then
                  (decodeFrom (i + 4) rest).map
                    (Char.ofNat (((a.toNat % 0x08 * 0x40 + payload b) * 0x40 + payload c) * 0x40 +
                      payload d) :: ·)
                else .error ⟨i, some 3⟩
            else .error ⟨i, some 2⟩
        else .error ⟨i, some 1⟩
    else .error ⟨i, some 1⟩

def decode (bytes : List UInt8) : Except Fault (List Char) := decodeFrom 0 bytes

end Utf8

/-- A text can be cut only between two characters. -/
inductive CutFault where
  | insideCharacter
  deriving DecidableEq, Repr

/-- The two sides of the byte offset `n`. -/
def cutAt : List Char → Nat → Except CutFault (List Char × List Char)
  | s, 0 => .ok ([], s)
  | [], _ + 1 => .error .insideCharacter
  | c :: s, n + 1 =>
    if c.utf8Size ≤ n + 1 then
      (cutAt s (n + 1 - c.utf8Size)).map fun (before, after) => (c :: before, after)
    else .error .insideCharacter

theorem eq_append_of_cutAt {s before after : List Char} {n : Nat}
    (h : cutAt s n = .ok (before, after)) : s = before ++ after ∧ Utf8.size before = n := by
  induction s generalizing n before with
  | nil =>
    cases n with
    | zero => simp_all [cutAt]
    | succ n => simp [cutAt] at h
  | cons c s ih =>
    cases n with
    | zero => simp only [cutAt, Except.ok.injEq, Prod.mk.injEq] at h; simp [← h.1, h.2]
    | succ n =>
      simp only [cutAt] at h
      split at h
      · next hc =>
        cases hcut : cutAt s (n + 1 - c.utf8Size) with
        | error e => simp [hcut, Except.map] at h
        | ok r =>
          obtain ⟨b, a⟩ := r
          simp only [hcut, Except.map, Except.ok.injEq, Prod.mk.injEq] at h
          obtain ⟨rfl, rfl⟩ := h
          obtain ⟨h1, h2⟩ := ih hcut
          refine ⟨by simp [← h1], ?_⟩
          rw [Utf8.size_cons, h2]
          omega
      · contradiction

theorem cutAt_size_append (s t : List Char) : cutAt (s ++ t) (Utf8.size s) = .ok (s, t) := by
  induction s with
  | nil => cases t <;> simp [cutAt]
  | cons c s ih =>
    have hc := c.utf8Size_pos
    obtain ⟨n, hn⟩ : ∃ n, c.utf8Size + Utf8.size s = n + 1 :=
      ⟨c.utf8Size + Utf8.size s - 1, by omega⟩
    rw [Utf8.size_cons, hn, List.cons_append, cutAt, if_pos (by omega),
      show n + 1 - c.utf8Size = Utf8.size s by omega, ih]
    rfl

end ContentFilter.Text
