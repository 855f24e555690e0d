import ContentFilter.Json.Printer
import ContentFilter.Json.Token
import ContentFilter.Proofs.Text.Basic
import Mathlib.Data.List.TakeWhile

/-! The tokens of a written value: the scanner takes back the digits of a number, the escapes of a
string and the marks of arrays and objects. -/

namespace ContentFilter

theorem Text.nat?_toDigits (n : Nat) : Text.nat? (Nat.toDigits 10 n) = some n := by
  have hall : (Nat.toDigits 10 n).all Text.isDigit = true := by
    rw [List.all_eq_true]
    intro c hc
    exact Nat.isDigit_of_mem_toDigits (by omega) (by omega) hc
  have hne : (Nat.toDigits 10 n).isEmpty = false := by
    rw [List.isEmpty_eq_false_iff]
    exact Nat.toDigits_ne_nil
  rw [Text.nat?, hall, hne]
  simp only [Bool.not_false, Bool.true_and, if_true, Option.some.injEq]
  rw [← Nat.ofDigitChars_eq_foldl, Nat.ofDigitChars_ten_toDigits]

/-- Only zero begins with a zero. -/
theorem Text.eq_zero_of_toDigits {n : Nat} {more : List Char}
    (h : Nat.toDigits 10 n = '0' :: more) : n = 0 := by
  induction n using Nat.strongRecOn generalizing more with
  | ind n ih =>
    by_cases hn : n < 10
    · rw [Nat.toDigits_of_lt_base hn, List.cons.injEq] at h
      have hdigits : ∀ d < 10, d.digitChar = '0' → d = 0 := by decide
      exact hdigits n hn h.1
    · rw [Nat.toDigits_of_base_le (by omega) (by omega)] at h
      cases hfirst : Nat.toDigits 10 (n / 10) with
      | nil => exact absurd hfirst Nat.toDigits_ne_nil
      | cons c rest =>
        rw [hfirst, List.cons_append, List.cons.injEq] at h
        rw [h.1] at hfirst
        have := ih (n / 10) (by omega) hfirst
        omega

namespace Json

namespace Token

/-- The tokens handed out over a text, and the state after it. -/
def run (scan : Scan) : List Char → Option (List Token × Scan)
  | [] => some ([], scan)
  | c :: s => do
    let (tokens, next) ← step scan c
    let (rest, last) ← run next s
    pure (tokens ++ rest, last)

theorem step_between (c : Char) : step .between c = stepBetween c := rfl

theorem step_text (read : List Char) (paired : Bool) (c : Char) :
    step (.text read paired) c = stepText read paired c := rfl

theorem step_unicode (read : List Char) (paired : Bool) (high : Option Nat) (due value : Nat)
    (c : Char) : step (.unicode read paired high due value) c =
      (Text.hexDigit? c).bind fun d =>
        if due ≤ 1 then some ([], closeUnicode read paired high (16 * value + d))
        else some ([], .unicode read paired high (due - 1) (16 * value + d)) := rfl

/-- A word or a number goes on, or it is handed out before what the next character completes. -/
def endOr (goesOn : Bool) (next : Scan) (done : Option (List Token)) (c : Char) :
    Option (List Token × Scan) :=
  if goesOn then some ([], next)
  else do
    let done ← done
    let (tokens, scan) ← stepBetween c
    pure (done ++ tokens, scan)

theorem step_word (read : List Char) (c : Char) : step (.word read) c =
    endOr c.isLower (.word (c :: read)) (scalars (word? read.reverse)) c := rfl

theorem step_number (read : List Char) (c : Char) : step (.number read) c =
    endOr (isNumberChar c) (.number (c :: read)) (scalars (number? read.reverse)) c := rfl

theorem endOr_true (next : Scan) (done : Option (List Token)) (c : Char) :
    endOr true next done c = some ([], next) := rfl

theorem endOr_false (next : Scan) (done : List Token) (c : Char) :
    endOr false next (some done) c =
      (stepBetween c).map fun (tokens, scan) => (done ++ tokens, scan) := by
  cases h : stepBetween c <;> simp [endOr, h]

theorem run_append {scan next last : Scan} {s t : List Char} {tokens rest : List Token}
    (hs : run scan s = some (tokens, next)) (ht : run next t = some (rest, last)) :
    run scan (s ++ t) = some (tokens ++ rest, last) := by
  induction s generalizing scan tokens with
  | nil =>
    cases hs
    exact ht
  | cons c s ih =>
    obtain ⟨⟨first, middle⟩, hstep, hs⟩ := Option.bind_eq_some_iff.1 hs
    obtain ⟨⟨more, end'⟩, hrun, hs⟩ := Option.bind_eq_some_iff.1 hs
    cases hs
    rw [List.cons_append, run, hstep, List.append_assoc]
    have := ih hrun
    simp [this]

theorem run_cons {scan next last : Scan} {c : Char} {s : List Char} {tokens rest : List Token}
    (hc : step scan c = some (tokens, next)) (hs : run next s = some (rest, last)) :
    run scan (c :: s) = some (tokens ++ rest, last) := by
  simp [run, hc, hs]

theorem scanFrom_eq_run (scan : Scan) (s : List Char) :
    scanFrom scan s = (run scan s).bind fun (tokens, last) => (finish last).map (tokens ++ ·) := by
  induction s generalizing scan with
  | nil => simp [scanFrom, run]
  | cons c s ih =>
    rw [scanFrom, run]
    cases step scan c with
    | none => rfl
    | some found =>
      obtain ⟨tokens, next⟩ := found
      simp only [Option.bind_eq_bind, Option.bind_some, ih]
      cases run next s with
      | none => rfl
      | some found =>
        obtain ⟨rest, last⟩ := found
        simp only [Option.bind_some, Option.pure_def]
        cases finish last <;> simp

/-- The digits of a `\u` escape. -/
theorem run_digits {read : List Char} {high : Option Nat} {value : Nat} {digits : List Nat}
    (hne : digits ≠ []) (hdigits : ∀ d ∈ digits, d < 16) :
    run (.unicode read true high digits.length value) (digits.map Nat.digitChar) =
      some ([], closeUnicode read true high (digits.foldl (16 * · + ·) value)) := by
  induction digits generalizing value with
  | nil => exact absurd rfl hne
  | cons d digits ih =>
    have hd := Text.hexDigit?_digitChar d (hdigits d (by simp))
    cases digits with
    | nil => simp [run, step_unicode, hd]
    | cons next digits =>
      have hstep : step (.unicode read true high (d :: next :: digits).length value)
          (Nat.digitChar d) =
          some ([], .unicode read true high (next :: digits).length (16 * value + d)) := by
        rw [step_unicode, hd]
        simp
      exact run_cons hstep (ih (by simp) fun e he => hdigits e (List.mem_cons_of_mem d he))

theorem run_escape (read : List Char) (c : Char) :
    run (.text read true) (escape c) = some ([], .text (c :: read) true) := by
  by_cases hsign : c ∈ ['"', '\\', '\x08', '\x0c', '\n', '\r', '\t']
  · simp only [List.mem_cons, List.not_mem_nil, or_false] at hsign
    rcases hsign with rfl | rfl | rfl | rfl | rfl | rfl | rfl <;> rfl
  simp only [List.mem_cons, List.not_mem_nil, or_false, not_or] at hsign
  obtain ⟨hquote, hslash, hbackspace, hfeed, hnewline, hreturn, htab⟩ := hsign
  by_cases hcontrol : c.toNat < 0x20
  · have hescape : escape c = '\\' :: 'u' :: (Text.hex 4 c.toNat).toList := by
      simp [escape, *]
    have hhex : ∀ n < 0x20,
        (Text.hex 4 n).toList = [0, 0, n / 16, n % 16].map Nat.digitChar := by decide
    have hvalue : [0, 0, c.toNat / 16, c.toNat % 16].foldl (16 * · + ·) 0 = c.toNat := by
      simp only [List.foldl_cons, List.foldl_nil]
      omega
    have hclose : closeUnicode read true none c.toNat = .text (c :: read) true := by
      have hhigh : ¬ (0xD800 ≤ c.toNat ∧ c.toNat ≤ 0xDBFF) := by omega
      have hlow : ¬ (0xDC00 ≤ c.toNat ∧ c.toNat ≤ 0xDFFF) := by omega
      simp [closeUnicode, hhigh, hlow, Char.ofNat_toNat]
    have hdigits : run (.unicode read true none 4 0) (Text.hex 4 c.toNat).toList =
        some ([], .text (c :: read) true) := by
      have hrun := @run_digits read none 0 [0, 0, c.toNat / 16, c.toNat % 16] (by simp)
        (by simp; omega)
      rwa [hvalue, hclose, ← hhex c.toNat hcontrol] at hrun
    have hstart : step (.text read true) '\\' = some ([], .escape read true) := rfl
    have hu : step (.escape read true) 'u' = some ([], .unicode read true none 4 0) := rfl
    rw [hescape]
    exact run_cons hstart (run_cons hu hdigits)
  · simp [escape, run, step_text, stepText, *]

theorem run_escapes (read text : List Char) :
    run (.text read true) (text.flatMap escape) = some ([], .text (text.reverse ++ read) true) := by
  induction text generalizing read with
  | nil => rfl
  | cons c text ih =>
    rw [List.flatMap_cons, List.reverse_cons, List.append_assoc, List.singleton_append]
    exact run_append (run_escape read c) (ih (c :: read))

theorem run_quoted (text : String) :
    run .between (quoted text) = some ([.scalar (.string text)], .between) := by
  have hopen : step .between '"' = some ([], .text [] true) := rfl
  have hend : run (.text (text.toList.reverse ++ []) true) ['"'] =
      some ([.scalar (.string text)], .between) := by
    simp [run, step_text, stepText, String.ofList_toList]
  exact run_cons hopen (run_append (run_escapes [] text.toList) hend)

/-- The tokens that a state owes once its word or number ends. -/
structure Owes (scan : Scan) (tokens : List Token) : Prop where
  finish : Token.finish scan = some tokens
  next : ∀ c, isNumberChar c = false → c.isLower = false →
    step scan c = (stepBetween c).map fun (more, next) => (tokens ++ more, next)

theorem owes_between : Owes .between [] where
  finish := rfl
  next := by
    intro c _ _
    simp [step_between]

theorem Owes.step {scan : Scan} {owed tokens : List Token} {c : Char} (h : Owes scan owed)
    (hnumber : isNumberChar c = false) (hword : c.isLower = false)
    (hc : stepBetween c = some (tokens, .between)) :
    step scan c = some (owed ++ tokens, .between) := by
  rw [h.next c hnumber hword, hc]
  rfl

/-- A text that stands for some tokens, the last of which it may leave owing. -/
def Spells (s : List Char) (tokens : List Token) : Prop :=
  ∃ given scan owed, run .between s = some (given, scan) ∧ Owes scan owed ∧ given ++ owed = tokens

theorem spells_of_run {s : List Char} {tokens : List Token}
    (h : run .between s = some (tokens, .between)) : Spells s tokens :=
  ⟨tokens, .between, [], h, owes_between, List.append_nil tokens⟩

theorem scan_of_spells {s : List Char} {tokens : List Token} (h : Spells s tokens) :
    scan s = some tokens := by
  obtain ⟨given, last, owed, hrun, howes, rfl⟩ := h
  rw [scan, scanFrom_eq_run, hrun, Option.bind_some]
  simp only [howes.finish, Option.map_some]

theorem owes_number {read : List Char} {value : Json} (h : number? read.reverse = some value) :
    Owes (.number read) [.scalar value] where
  finish := by rw [finish, h]; rfl
  next := by
    intro c hnumber _
    rw [step_number, hnumber, h]
    exact endOr_false _ [.scalar value] c

theorem owes_word {read : List Char} {value : Json} (h : word? read.reverse = some value) :
    Owes (.word read) [.scalar value] where
  finish := by rw [finish, h]; rfl
  next := by
    intro c _ hword
    rw [step_word, hword, h]
    exact endOr_false _ [.scalar value] c

theorem run_number {read digits : List Char} (h : ∀ c ∈ digits, isNumberChar c = true) :
    run (.number read) digits = some ([], .number (digits.reverse ++ read)) := by
  induction digits generalizing read with
  | nil => rfl
  | cons c digits ih =>
    have hstep : step (.number read) c = some ([], .number (c :: read)) := by
      rw [step_number, h c (by simp), endOr_true]
    rw [List.reverse_cons, List.append_assoc, List.singleton_append]
    exact run_cons hstep (ih fun d hd => h d (by simp [hd]))

theorem isNumberChar_of_isDigit {c : Char} (h : c.isDigit = true) : isNumberChar c = true := by
  simp [isNumberChar, h]

theorem stepBetween_digit {d : Char} (h : d.isDigit = true) :
    stepBetween d = some ([], .number [d]) := by
  have hne : ∀ c : Char, c.isDigit = false → (d == c) = false := by
    intro c hc
    rw [beq_eq_false_iff_ne]
    rintro rfl
    rw [h] at hc
    cases hc
  simp [stepBetween, hne ' ' rfl, hne '\n' rfl, hne '\t' rfl, hne '\r' rfl, hne '[' rfl,
    hne ']' rfl, hne '\x7b' rfl, hne '\x7d' rfl, hne ',' rfl, hne ':' rfl, hne '"' rfl, h]

/-- The digits of a number, the first of which is no zero unless it is the only one. -/
theorem digits_eq (n : Nat) : ∃ d more, Nat.toDigits 10 n = d :: more ∧
    (∀ c ∈ d :: more, c.isDigit = true) ∧ (d == '0' && !more.isEmpty) = false := by
  have hall : ∀ c ∈ Nat.toDigits 10 n, c.isDigit = true := fun c hc =>
    Nat.isDigit_of_mem_toDigits (by omega) (by omega) hc
  cases hdigits : Nat.toDigits 10 n with
  | nil => exact absurd hdigits Nat.toDigits_ne_nil
  | cons d more =>
    refine ⟨d, more, rfl, hdigits ▸ hall, ?_⟩
    by_cases hd : d = '0'
    · subst hd
      obtain rfl := Text.eq_zero_of_toDigits hdigits
      cases hdigits
      rfl
    · simp [hd]

theorem digits_of_isDigit {s : List Char} (h : ∀ c ∈ s, c.isDigit = true) :
    digits s = (s, []) := by
  rw [digits, List.takeWhile_eq_self_iff.2 h, List.dropWhile_eq_nil_iff.2 h]

theorem number?_nat (n : Nat) : number? (Nat.toDigits 10 n) = some (.integer n) := by
  obtain ⟨d, more, hdigits, hall, hzero⟩ := digits_eq n
  have hvalue := Text.nat?_toDigits n
  have hd : d ≠ '-' := by
    rintro rfl
    exact absurd (hall '-' (by simp)) (by decide)
  rw [hdigits] at hvalue ⊢
  unfold number?
  split
  next negative unsigned hsign =>
  obtain ⟨rfl, rfl⟩ : false = negative ∧ d :: more = unsigned := by
    simpa [hd] using hsign
  simp only [digits_of_isDigit hall, hzero, hvalue, List.isEmpty_nil, if_true, if_false,
    Bool.false_eq_true]

theorem number?_neg {n : Nat} (hn : n ≠ 0) :
    number? ('-' :: Nat.toDigits 10 n) = some (.integer (-n)) := by
  obtain ⟨d, more, hdigits, hall, hzero⟩ := digits_eq n
  have hvalue := Text.nat?_toDigits n
  rw [hdigits] at hvalue ⊢
  simp only [number?, digits_of_isDigit hall, hzero, hvalue, List.isEmpty_nil, if_true, if_false,
    Bool.false_eq_true, beq_eq_false_iff_ne.2 hn]

theorem spells_integer (n : Int) : Spells (toString n).toList [.scalar (.integer n)] := by
  have hdigits : ∀ n : Nat, ∀ c ∈ Nat.toDigits 10 n, isNumberChar c = true := fun n c hc =>
    isNumberChar_of_isDigit (Nat.isDigit_of_mem_toDigits (by omega) (by omega) hc)
  -- the first character decides that a number begins, and the rest only goes on with it
  have hrest : ∀ first rest, stepBetween first = some ([], .number [first]) →
      (∀ c ∈ rest, isNumberChar c = true) → number? (first :: rest) = some (.integer n) →
      Spells (first :: rest) [.scalar (.integer n)] := by
    intro first rest hfirst hall hvalue
    have hstep : step .between first = some ([], .number [first]) := hfirst
    refine ⟨[], .number (rest.reverse ++ [first]), [.scalar (.integer n)],
      run_cons hstep (run_number hall), owes_number ?_, rfl⟩
    simpa using hvalue
  cases n with
  | ofNat n =>
    obtain ⟨d, more, hn, hall, -⟩ := digits_eq n
    have hvalue := number?_nat n
    have htext : (toString (Int.ofNat n)).toList = d :: more := by
      have hpos : 0 ≤ Int.ofNat n := Int.natCast_nonneg n
      rw [← hn, Int.toString_eq_repr, Int.repr_eq_if, if_pos hpos]
      exact Nat.toList_repr
    rw [htext]
    rw [hn] at hvalue
    exact hrest d more (stepBetween_digit (hall d (by simp)))
      (fun c hc => isNumberChar_of_isDigit (hall c (by simp [hc]))) hvalue
  | negSucc n =>
    have htext : (toString (Int.negSucc n)).toList = '-' :: Nat.toDigits 10 (n + 1) := by
      rw [Int.toString_eq_repr, Int.repr_eq_if, if_neg (by omega), String.toList_append,
        Nat.toList_repr]
      rfl
    rw [htext]
    exact hrest '-' _ rfl (hdigits (n + 1)) (number?_neg (Nat.succ_ne_zero n))

theorem run_word {read word : List Char} (h : ∀ c ∈ word, c.isLower = true) :
    run (.word read) word = some ([], .word (word.reverse ++ read)) := by
  induction word generalizing read with
  | nil => rfl
  | cons c word ih =>
    have hstep : step (.word read) c = some ([], .word (c :: read)) := by
      rw [step_word, h c (by simp), endOr_true]
    rw [List.reverse_cons, List.append_assoc, List.singleton_append]
    exact run_cons hstep (ih fun d hd => h d (by simp [hd]))

theorem spells_word {s : List Char} {value : Json} (h : word? s = some value) :
    Spells s [.scalar value] := by
  have hsome : s = "true".toList ∨ s = "false".toList ∨ s = "null".toList := by
    unfold word? at h
    split at h
    · next hs => exact .inl (eq_of_beq hs)
    split at h
    · next hs => exact .inr (.inl (eq_of_beq hs))
    split at h
    · next hs => exact .inr (.inr (eq_of_beq hs))
    · cases h
  have hrun : ∃ c rest, s = c :: rest ∧ step .between c = some ([], .word [c]) ∧
      ∀ d ∈ rest, d.isLower = true := by
    rcases hsome with rfl | rfl | rfl
    · exact ⟨'t', ['r', 'u', 'e'], rfl, rfl, List.all_eq_true.1 rfl⟩
    · exact ⟨'f', ['a', 'l', 's', 'e'], rfl, rfl, List.all_eq_true.1 rfl⟩
    · exact ⟨'n', ['u', 'l', 'l'], rfl, rfl, List.all_eq_true.1 rfl⟩
  obtain ⟨c, rest, rfl, hc, hrest⟩ := hrun
  refine ⟨[], .word (rest.reverse ++ [c]), [.scalar value], run_cons hc (run_word hrest),
    owes_word ?_, rfl⟩
  simpa using h

end Token

mutual

/-- The tokens of a written value. -/
def tokens : Json → List Token
  | .array [] => [.openArray, .closeArray]
  | .array (item :: items) => .openArray :: (tokens item ++ itemTokens items)
  | .object [] => [.openObject, .closeObject]
  | .object ((name, value) :: fields) =>
    .openObject :: .scalar (.string name) :: .colon :: (tokens value ++ fieldTokens fields)
  | json => [.scalar json]

def itemTokens : List Json → List Token
  | [] => [.closeArray]
  | item :: items => .comma :: (tokens item ++ itemTokens items)

def fieldTokens : List (String × Json) → List Token
  | [] => [.closeObject]
  | (name, value) :: fields =>
    .comma :: .scalar (.string name) :: .colon :: (tokens value ++ fieldTokens fields)

end

mutual

/-- Whether a value is written without loss: it has no number with a point and no unpaired
surrogate. -/
def isPlain : Json → Bool
  | .decimal _ => false
  | .unpaired => false
  | .array items => arePlain items
  | .object fields => arePlainFields fields
  | _ => true

def arePlain : List Json → Bool
  | [] => true
  | item :: items => isPlain item && arePlain items

def arePlainFields : List (String × Json) → Bool
  | [] => true
  | (_, value) :: fields => isPlain value && arePlainFields fields

end

namespace Token

mutual

theorem spells_chars (json : Json) (h : isPlain json = true) : Spells (chars json) (tokens json) := by
  match json with
  | .null => exact spells_word rfl
  | .bool true => exact spells_word rfl
  | .bool false => exact spells_word rfl
  | .integer n => exact spells_integer n
  | .string text => exact spells_of_run (run_quoted text)
  | .array [] => exact spells_of_run rfl
  | .array (item :: items) =>
    rw [isPlain, arePlain, Bool.and_eq_true] at h
    obtain ⟨given, scan, owed, hrun, howes, htokens⟩ := spells_chars item h.1
    have hitems := run_items items h.2 howes
    have hopen : step .between '[' = some ([.openArray], .between) := rfl
    rw [chars, tokens, ← htokens, List.append_assoc]
    exact spells_of_run (run_cons hopen (run_append hrun hitems))
  | .object [] => exact spells_of_run rfl
  | .object ((name, value) :: fields) =>
    rw [isPlain, arePlainFields, Bool.and_eq_true] at h
    obtain ⟨given, scan, owed, hrun, howes, htokens⟩ := spells_chars value h.1
    have hfields := run_fields fields h.2 howes
    have hopen : step .between '\x7b' = some ([.openObject], .between) := rfl
    have hcolon : step .between ':' = some ([.colon], .between) := rfl
    rw [chars, tokens, ← htokens, List.append_assoc]
    exact spells_of_run (run_cons hopen
      (run_append (run_quoted name) (run_cons hcolon (run_append hrun hfields))))

theorem run_items (items : List Json) (h : arePlain items = true) {scan : Scan}
    {owed : List Token} (howes : Owes scan owed) :
    run scan (itemChars items) = some (owed ++ itemTokens items, .between) := by
  match items with
  | [] =>
    have hclose : step scan ']' = some (owed ++ [.closeArray], .between) := howes.step rfl rfl rfl
    rw [itemChars, itemTokens, run_cons hclose rfl, List.append_nil]
  | item :: items =>
    rw [arePlain, Bool.and_eq_true] at h
    obtain ⟨given, next, owed', hrun, hnext, htokens⟩ := spells_chars item h.1
    have hitems := run_items items h.2 hnext
    have hcomma : step scan ',' = some (owed ++ [.comma], .between) := howes.step rfl rfl rfl
    rw [itemChars, itemTokens, ← htokens, List.append_assoc,
      run_cons hcomma (run_append hrun hitems), List.append_assoc]
    rfl

theorem run_fields (fields : List (String × Json)) (h : arePlainFields fields = true) {scan : Scan}
    {owed : List Token} (howes : Owes scan owed) :
    run scan (fieldChars fields) = some (owed ++ fieldTokens fields, .between) := by
  match fields with
  | [] =>
    have hclose : step scan '\x7d' = some (owed ++ [.closeObject], .between) :=
      howes.step rfl rfl rfl
    rw [fieldChars, fieldTokens, run_cons hclose rfl, List.append_nil]
  | (name, value) :: fields =>
    rw [arePlainFields, Bool.and_eq_true] at h
    obtain ⟨given, next, owed', hrun, hnext, htokens⟩ := spells_chars value h.1
    have hfields := run_fields fields h.2 hnext
    have hcomma : step scan ',' = some (owed ++ [.comma], .between) := howes.step rfl rfl rfl
    have hcolon : step .between ':' = some ([.colon], .between) := rfl
    rw [fieldChars, fieldTokens, ← htokens, List.append_assoc,
      run_cons hcomma (run_append (run_quoted name) (run_cons hcolon (run_append hrun hfields))),
      List.append_assoc]
    rfl

end

/-- The scanner takes a written value back to its tokens. -/
theorem scan_chars {json : Json} (h : isPlain json = true) : scan (chars json) = some (tokens json) :=
  scan_of_spells (spells_chars json h)

end Token

end Json

end ContentFilter
