import ContentFilter.Proofs.Filter.Arguments

/-! A call is read back from the text that it is written as, and any text has one more item than it has
commas that no backslash keeps. -/

namespace ContentFilter

namespace ScriptletCall

/-- The name and the arguments. -/
def items (call : ScriptletCall) : List String := call.name :: call.args

/-- An item with a backslash before each of its commas. -/
def escape (item : List Char) : List Char := item.flatMap fun c => if c = ',' then ['\\', c] else [c]

def text (call : ScriptletCall) : List Char :=
  ", ".toList.intercalate ((call.items.map String.toList).map escape)

/-- The item stands between two equal quotes. -/
def IsQuoted (item : List Char) : Prop :=
  ∃ quote ∈ ['"', '\''], 1 < item.length ∧ item.head? = some quote ∧ item.getLast? = some quote

instance (item : List Char) : Decidable (IsQuoted item) := List.decidableBEx _ _

/-- An item of which nothing is left out when it is read. -/
structure IsItem (item : List Char) : Prop where
  plain : '\\' ∉ item
  first : item.head?.any Text.isBlank = false
  last : item.getLast?.any Text.isBlank = false
  unquoted : ¬ IsQuoted item

instance (item : List Char) : Decidable (IsItem item) :=
  decidable_of_iff ('\\' ∉ item ∧ item.head?.any Text.isBlank = false ∧
    item.getLast?.any Text.isBlank = false ∧ ¬ IsQuoted item)
    ⟨fun ⟨plain, first, last, unquoted⟩ => ⟨plain, first, last, unquoted⟩,
      fun ⟨plain, first, last, unquoted⟩ => ⟨plain, first, last, unquoted⟩⟩

end ScriptletCall

namespace CosmeticFilter

open ScriptletCall (escape IsQuoted IsItem)

section Written

variable {item current rest : List Char} {items : List (List Char)} {c : Char}

theorem escape_cons (c : Char) (item : List Char) :
    escape (c :: item) = (if c = ',' then ['\\', c] else [c]) ++ escape item := List.flatMap_cons

/-- A written item is read as the item. -/
theorem splitArgs_escape (h : '\\' ∉ item) :
    splitArgs current (escape item ++ rest) = splitArgs (item.reverse ++ current) rest := by
  induction item generalizing current with
  | nil => rfl
  | cons c item ih =>
    obtain ⟨hc, hitem⟩ := List.ne_and_not_mem_of_not_mem_cons h
    rw [escape_cons, List.append_assoc, List.reverse_cons, List.append_assoc]
    split
    · next hcomma =>
      subst hcomma
      exact ih hitem
    · next hcomma => exact (splitArgs_cons hcomma hc.symm).trans (ih hitem)

/-- The blank behind a comma is read with the next item. -/
theorem splitArgs_joined (h : ∀ part ∈ item :: items, '\\' ∉ part) :
    splitArgs current (", ".toList.intercalate ((item :: items).map escape)) =
      (current.reverse ++ item) :: items.map (' ' :: ·) := by
  induction items generalizing current item with
  | nil =>
    have hitem : splitArgs current (escape item ++ []) = splitArgs (item.reverse ++ current) [] :=
      splitArgs_escape (h item List.mem_cons_self)
    rw [List.map_singleton, List.intercalate_singleton, ← List.append_nil (escape item), hitem, splitArgs]
    simp
  | cons next items ih =>
    obtain ⟨hitem, hitems⟩ := List.forall_mem_cons.1 h
    have hcomma (current rest : List Char) : splitArgs current (", ".toList ++ rest) =
        current.reverse :: splitArgs [' '] rest := by
      change splitArgs current (',' :: ' ' :: rest) = _
      rw [splitArgs.eq_def]
      exact congrArg _ (splitArgs_cons (by decide) (by decide))
    rw [List.map_cons, List.map_cons, List.intercalate_cons_cons, List.append_assoc,
      splitArgs_escape hitem, hcomma, ← List.map_cons, ih hitems]
    simp

theorem unquote_eq_self (h : ¬ IsQuoted item) : unquote item = item := by
  unfold unquote
  split
  · next c rest =>
    refine if_neg fun hquoted => h ?_
    rw [Bool.and_eq_true, Bool.and_eq_true, Bool.or_eq_true, beq_iff_eq, beq_iff_eq, beq_iff_eq] at hquoted
    obtain ⟨⟨hquote, hrest⟩, hlast⟩ := hquoted
    obtain ⟨d, rest, rfl⟩ := List.exists_cons_of_ne_nil (by simpa using hrest)
    exact ⟨c, by simpa using hquote, by simp, rfl, by rwa [List.getLast?_cons_cons]⟩
  · rfl

theorem readArg_item (h : IsItem item) : readArg item = String.ofList item := by
  have hfirst := (Option.any_eq_false _ _).1 h.first
  have hlast := (Option.any_eq_false _ _).1 h.last
  rw [readArg, Text.trim_of_ends hfirst hlast, unquote_eq_self h.unquoted]

theorem readArg_blank (item : List Char) : readArg (' ' :: item) = readArg item := rfl

/-- A call of items that are read as they stand is read back from its text. -/
theorem parseCall_text {call : ScriptletCall} (h : ∀ item ∈ call.items, IsItem item.toList) :
    parseCall call.text = call := by
  obtain ⟨hname, hargs⟩ := List.forall_mem_cons.1 h
  have hplain : ∀ part ∈ call.name.toList :: call.args.map String.toList, '\\' ∉ part := by
    refine List.forall_mem_cons.2 ⟨hname.plain, List.forall_mem_map.2 fun arg harg => ?_⟩
    exact (hargs arg harg).plain
  have hread : (((call.args.map String.toList).map (' ' :: ·)).map readArg) = call.args := by
    rw [List.map_map, List.map_map]
    refine (List.map_congr_left fun arg harg => ?_).trans (List.map_id call.args)
    exact (readArg_blank arg.toList).trans ((readArg_item (hargs arg harg)).trans String.ofList_toList)
  have hsplit : splitArgs [] call.text =
      call.name.toList :: (call.args.map String.toList).map (' ' :: ·) := splitArgs_joined hplain
  rw [parseCall_eq hsplit, hread, readArg_item hname, String.ofList_toList]

end Written

section Commas

variable {before current s : List Char} {c : Char}

/-- How many backslashes the text ends in. -/
def backslashes (s : List Char) : Nat := (s.reverse.takeWhile (· == '\\')).length

/-- The comma that stands there keeps its meaning: the backslashes before it are pairs. -/
def IsFreeComma (s : List Char) (i : Nat) : Prop := s[i]? = some ',' ∧ backslashes (s.take i) % 2 = 0

instance (s : List Char) (i : Nat) : Decidable (IsFreeComma s i) := inferInstanceAs (Decidable (_ ∧ _))

/-- How many free commas there are behind the start of a text. -/
def freeCommas (before s : List Char) : Nat :=
  (List.range s.length).countP fun i => IsFreeComma (before ++ s) (before.length + i)

theorem freeCommas_cons (before : List Char) (c : Char) (s : List Char) :
    freeCommas before (c :: s) =
      freeCommas (before ++ [c]) s + if c = ',' ∧ backslashes before % 2 = 0 then 1 else 0 := by
  rw [freeCommas, List.length_cons, List.range_succ_eq_map, List.countP_cons, List.countP_map, freeCommas]
  congr 1
  · refine congrArg (List.countP · _) (funext fun i => ?_)
    have hindex : before.length + (i + 1) = (before ++ [c]).length + i := by
      rw [List.length_append, List.length_singleton]
      omega
    simp [hindex, List.append_assoc]
  · simp [IsFreeComma]

theorem freeCommas_comma (h : backslashes before % 2 = 0) :
    freeCommas before (',' :: s) = freeCommas (before ++ [',']) s + 1 := by
  rw [freeCommas_cons, if_pos ⟨rfl, h⟩]

theorem freeCommas_skip (h : c ≠ ',' ∨ backslashes before % 2 = 1) :
    freeCommas before (c :: s) = freeCommas (before ++ [c]) s := by
  rw [freeCommas_cons, if_neg, Nat.add_zero]
  rintro ⟨hc, hpairs⟩
  rcases h with hc' | hodd
  · exact hc' hc
  · omega

theorem backslashes_plain (h : c ≠ '\\') : backslashes (before ++ [c]) = 0 := by
  simp [backslashes, h]

theorem backslashes_backslash (before : List Char) : backslashes (before ++ ['\\']) = backslashes before + 1 := by
  simp [backslashes]

/-- Behind pairs of backslashes an item ends at each free comma and nowhere else. -/
theorem length_splitArgs (h : backslashes before % 2 = 0) :
    (splitArgs current s).length = freeCommas before s + 1 := by
  fun_induction splitArgs current s generalizing before with
  | case1 current => rfl
  | case2 current s ih =>
    have hodd : backslashes (before ++ ['\\']) % 2 = 1 := by
      rw [backslashes_backslash]
      omega
    have hpairs : backslashes (before ++ ['\\'] ++ [',']) % 2 = 0 := by rw [backslashes_plain (by decide)]
    rw [freeCommas_skip (.inl (by decide)), freeCommas_skip (.inr hodd), ih hpairs]
  | case3 current c s hc ih =>
    have hpairs : backslashes (before ++ ['\\'] ++ [c]) % 2 = 0 := by
      by_cases hlast : c = '\\'
      · rw [hlast, backslashes_backslash, backslashes_backslash]
        omega
      · rw [backslashes_plain hlast]
    rw [freeCommas_skip (.inl (by decide)), freeCommas_skip (.inl hc), ih hpairs]
  | case4 current =>
    rw [freeCommas_skip (.inl (by decide))]
    rfl
  | case5 current s _ _ _ ih =>
    have hpairs : backslashes (before ++ [',']) % 2 = 0 := by rw [backslashes_plain (by decide)]
    rw [freeCommas_comma h, List.length_cons, ih hpairs]
  | case6 current c s _ hpair hlast hc ih =>
    have hplain : c ≠ '\\' := by
      rintro rfl
      cases s with
      | nil => exact hlast rfl rfl
      | cons d s => exact hpair d s rfl rfl
    have hpairs : backslashes (before ++ [c]) % 2 = 0 := by rw [backslashes_plain hplain]
    rw [freeCommas_skip (.inl hc), ih hpairs]

theorem length_items_parseCall (args : List Char) :
    (parseCall args).items.length = freeCommas [] args + 1 := by
  have hlength : (splitArgs [] args).length = freeCommas [] args + 1 := length_splitArgs rfl
  cases hsplit : splitArgs [] args with
  | nil =>
    rw [hsplit] at hlength
    cases hlength
  | cons first more =>
    rw [hsplit, List.length_cons] at hlength
    rw [parseCall_eq hsplit, ScriptletCall.items, List.length_cons, List.length_map, hlength]

end Commas

/-- A name and arguments that are read as they stand come back from the text that they are written as, those
that are empty included; and what any text is read as has one item more than the text has free commas. -/
theorem call_comes_back :
    (∀ call : ScriptletCall, (∀ item ∈ call.items, IsItem item.toList) → parseCall call.text = call) ∧
    ∀ args, (parseCall args).items.length =
      (List.range args.length).countP (fun i => IsFreeComma args i) + 1 := by
  refine ⟨fun call => parseCall_text, fun args => ?_⟩
  rw [length_items_parseCall, freeCommas]
  simp

/-- Arguments that are empty, a comma, a lone quote, and begun with a quote that is not the last sign. -/
def oddCall : ScriptletCall := ⟨"a,b.js", ["", ",", "\"", "'x\"", "it's, \"é\"!"]⟩

theorem call_comes_back_odd :
    (∀ item ∈ oddCall.items, IsItem item.toList) ∧
    oddCall.text = "a\\,b.js, , \\,, \", 'x\", it's\\, \"é\"!".toList ∧ parseCall oddCall.text = oddCall := by
  have hitems : ∀ item ∈ oddCall.items, IsItem item.toList := by decide
  exact ⟨hitems, by decide, call_comes_back.1 oddCall hitems⟩

-- a pair of backslashes keeps no comma
example : (parseCall "a\\\\,b\\,c".toList).items = ["a\\\\", "b,c"] := by decide

end CosmeticFilter

end ContentFilter
