import ContentFilter.Filter.Cosmetic
import ContentFilter.Proofs.Text.Basic

/-! The arguments of a call. A source in quotes is read as a name, and the other arguments stay what they are
behind it. -/

namespace ContentFilter.CosmeticFilter

variable {source text current rest : List Char} {c : Char}

/-- A source that is read as a text of one argument. A backslash keeps the character behind it as it is, and
goes away before a comma; at the end of the source it stays. -/
inductive Spells : List Char → List Char → Prop
  | nil : Spells [] []
  | comma {source text : List Char} (h : Spells source text) : Spells ('\\' :: ',' :: source) (',' :: text)
  | pair {source text : List Char} {c : Char} (hc : c ≠ ',') (h : Spells source text) :
      Spells ('\\' :: c :: source) ('\\' :: c :: text)
  | last : Spells ['\\'] ['\\']
  | char {source text : List Char} {c : Char} (hc : c ≠ ',') (hc' : c ≠ '\\') (h : Spells source text) :
      Spells (c :: source) (c :: text)

theorem splitArgs_cons (hc : c ≠ ',') (hc' : c ≠ '\\') :
    splitArgs current (c :: rest) = splitArgs (c :: current) rest := by
  rw [splitArgs]
  · rw [if_neg hc]
  · rintro s rfl
    exact absurd rfl hc'
  · rintro d s rfl
    exact absurd rfl hc'
  · rintro rfl
    exact absurd rfl hc'

theorem splitArgs_pair (hc : c ≠ ',') :
    splitArgs current ('\\' :: c :: rest) = splitArgs (c :: '\\' :: current) rest := by
  rw [splitArgs]
  rintro rfl
  exact hc rfl

/-- What is read of a source ends before the next plain character. -/
theorem Spells.splitArgs_append (h : Spells source text) (hc : c ≠ ',') (hc' : c ≠ '\\') :
    splitArgs current (source ++ c :: rest) = splitArgs (c :: (text.reverse ++ current)) rest := by
  induction h generalizing current with
  | nil => exact splitArgs_cons hc hc'
  | comma h ih =>
    rw [List.cons_append, List.cons_append, splitArgs, ih]
    simp
  | pair hd h ih =>
    rw [List.cons_append, List.cons_append, splitArgs_pair hd, ih]
    simp
  | last => exact splitArgs_pair hc
  | char hd hd' h ih =>
    rw [List.cons_append, splitArgs_cons hd hd', ih]
    simp

/-- The first argument is what a start of the source is read as; the others come after a comma. -/
theorem exists_spells (current args : List Char) : ∃ source tail text, args = source ++ tail ∧
    (tail = [] ∨ tail.head? = some ',') ∧ Spells source text ∧
    splitArgs current args = (current.reverse ++ text) :: (splitArgs [] tail).tail := by
  fun_induction splitArgs current args with
  | case1 current => exact ⟨[], [], [], rfl, .inl rfl, .nil, by simp [splitArgs]⟩
  | case2 current s ih =>
    obtain ⟨source, tail, text, rfl, htail, hspells, hsplit⟩ := ih
    exact ⟨'\\' :: ',' :: source, tail, ',' :: text, rfl, htail, .comma hspells, by simp [hsplit]⟩
  | case3 current c s hc ih =>
    obtain ⟨source, tail, text, rfl, htail, hspells, hsplit⟩ := ih
    exact ⟨'\\' :: c :: source, tail, '\\' :: c :: text, rfl, htail, .pair hc hspells, by simp [hsplit]⟩
  | case4 current => exact ⟨['\\'], [], ['\\'], rfl, .inl rfl, .last, by simp [splitArgs]⟩
  | case5 current s ih => exact ⟨[], ',' :: s, [], rfl, .inr rfl, .nil, by simp [splitArgs]⟩
  | case6 current c s hcomma hpair hlast hc ih =>
    have hplain : c ≠ '\\' := by
      rintro rfl
      cases s with
      | nil => exact hlast rfl rfl
      | cons d s => exact hpair d s rfl rfl
    obtain ⟨source, tail, text, rfl, htail, hspells, hsplit⟩ := ih
    exact ⟨c :: source, tail, c :: text, rfl, htail, .char hc hplain hspells, by simp [hsplit]⟩

/-- The start of a text is what a start of its source is read as. -/
theorem Spells.exists_take {front back : List Char} (h : Spells source (front ++ back)) :
    ∃ start, start <+: source ∧ Spells start front := by
  generalize htext : front ++ back = text at h
  induction h generalizing front with
  | nil =>
    rw [(List.append_eq_nil_iff.1 htext).1]
    exact ⟨[], List.nil_prefix, .nil⟩
  | last =>
    cases front with
    | nil => exact ⟨[], List.nil_prefix, .nil⟩
    | cons d front =>
      obtain ⟨rfl, hnil⟩ := List.cons.inj htext
      rw [(List.append_eq_nil_iff.1 hnil).1]
      exact ⟨['\\'], List.prefix_rfl, .last⟩
  | comma h ih =>
    cases front with
    | nil => exact ⟨[], List.nil_prefix, .nil⟩
    | cons d front =>
      obtain ⟨rfl, hrest⟩ := List.cons.inj htext
      obtain ⟨start, hstart, hspells⟩ := ih hrest
      exact ⟨_, (List.prefix_append_right_inj ['\\', ',']).2 hstart, .comma hspells⟩
  | @pair source text c hc h ih =>
    match front with
    | [] => exact ⟨[], List.nil_prefix, .nil⟩
    | [d] =>
      obtain ⟨rfl, -⟩ := List.cons.inj htext
      exact ⟨['\\'], List.prefix_append ['\\'] (c :: source), .last⟩
    | d :: e :: front =>
      obtain ⟨rfl, hbehind⟩ := List.cons.inj htext
      obtain ⟨rfl, hrest⟩ := List.cons.inj hbehind
      obtain ⟨start, hstart, hspells⟩ := ih hrest
      exact ⟨_, (List.prefix_append_right_inj ['\\', e]).2 hstart, .pair hc hspells⟩
  | @char source text c hc hc' h ih =>
    cases front with
    | nil => exact ⟨[], List.nil_prefix, .nil⟩
    | cons d front =>
      obtain ⟨rfl, hrest⟩ := List.cons.inj htext
      obtain ⟨start, hstart, hspells⟩ := ih hrest
      exact ⟨_, (List.prefix_append_right_inj [d]).2 hstart, .char hc hc' hspells⟩

/-- A character that stands for itself in every argument. -/
def IsPlainChar (c : Char) : Prop := c ≠ ',' ∧ c ≠ '\\'

theorem Spells.exists_drop {front back : List Char} (hfront : ∀ c ∈ front, IsPlainChar c)
    (h : Spells source (front ++ back)) : ∃ rest, source = front ++ rest ∧ Spells rest back := by
  induction front generalizing source with
  | nil => exact ⟨source, rfl, h⟩
  | cons c front ih =>
    obtain ⟨hc, hfront⟩ := List.forall_mem_cons.1 hfront
    generalize htext : c :: front ++ back = text at h
    cases h with
    | nil => cases htext
    | comma h => exact absurd (List.cons.inj htext).1 hc.1
    | pair hd h => exact absurd (List.cons.inj htext).1 hc.2
    | last => exact absurd (List.cons.inj htext).1 hc.2
    | char hd hd' h =>
      obtain ⟨rfl, rfl⟩ := List.cons.inj htext
      obtain ⟨rest, rfl, hrest⟩ := ih hfront h
      exact ⟨rest, rfl, hrest⟩

theorem splitArgs_plain {word : List Char} (h : ∀ c ∈ word, IsPlainChar c) :
    splitArgs current (word ++ rest) = splitArgs (word.reverse ++ current) rest := by
  induction word generalizing current with
  | nil => rfl
  | cons c word ih =>
    obtain ⟨hc, hword⟩ := List.forall_mem_cons.1 h
    rw [List.cons_append, splitArgs_cons hc.1 hc.2, ih hword]
    simp

theorem Spells.splitArgs_word {word : List Char} (h : Spells source text) (hne : word ≠ [])
    (hword : ∀ c ∈ word, IsPlainChar c) : splitArgs current (source ++ (word ++ rest)) =
      splitArgs ((text ++ word).reverse ++ current) rest := by
  obtain ⟨c, word, rfl⟩ := List.exists_cons_of_ne_nil hne
  obtain ⟨hc, hword⟩ := List.forall_mem_cons.1 hword
  rw [List.cons_append, h.splitArgs_append hc.1 hc.2, splitArgs_plain hword]
  simp

/-- An argument ends at a comma or with the source. -/
theorem splitArgs_tail {tail : List Char} (h : tail = [] ∨ tail.head? = some ',') :
    splitArgs current tail = current.reverse :: (splitArgs [] tail).tail := by
  obtain rfl | hcomma := h
  · simp [splitArgs]
  · obtain ⟨rest, rfl⟩ := List.head?_eq_some_iff.1 hcomma
    simp [splitArgs]

/-- What an argument is without the blanks and the quotes around it. -/
def readArg (part : List Char) : String := String.ofList (unquote (Text.trim part))

theorem parseCall_eq {args first : List Char} {more : List (List Char)}
    (h : splitArgs [] args = first :: more) : parseCall args = ⟨readArg first, more.map readArg⟩ := by
  rw [parseCall, h]
  rfl

/-- Only one quote goes away before a text, and one behind it. -/
theorem exists_unquote (s : List Char) : ∃ front back, s = front ++ unquote s ++ back ∧
    ∀ c ∈ front, c = '"' ∨ c = '\'' := by
  unfold unquote
  split
  · next c rest =>
    split
    · next h =>
      rw [Bool.and_eq_true, Bool.and_eq_true, beq_iff_eq] at h
      obtain ⟨⟨hquote, -⟩, hlast⟩ := h
      obtain ⟨back, hback⟩ := List.getLast?_eq_some_iff.1 hlast
      refine ⟨[c], [c], ?_, List.forall_mem_singleton.2 (by simpa using hquote)⟩
      simp [hback]
    · exact ⟨[], [], by simp, List.forall_mem_nil _⟩
  · exact ⟨[], [], rfl, List.forall_mem_nil _⟩

theorem exists_readArg (part : List Char) : ∃ front back, part = front ++ (readArg part).toList ++ back ∧
    ∀ c ∈ front, IsPlainChar c := by
  have hplain : ∀ c, Text.isBlank c = true ∨ c = '"' ∨ c = '\'' → IsPlainChar c := by
    rintro c hc
    constructor
    · rintro rfl
      revert hc
      decide
    · rintro rfl
      revert hc
      decide
  obtain ⟨front, back, hquotes, hfront⟩ := exists_unquote (Text.trim part)
  obtain ⟨blanks, -, hblanks⟩ := Text.exists_blanks (Text.trimStart part)
  refine ⟨part.takeWhile Text.isBlank ++ front, back ++ blanks, ?_, fun c hc => ?_⟩
  · rw [readArg, String.toList_ofList]
    conv_lhs => rw [← List.takeWhile_append_dropWhile (p := Text.isBlank) (l := part)]
    change _ ++ Text.trimStart part = _
    rw [← hblanks]
    change _ ++ (Text.trim part ++ blanks) = _
    conv_lhs => rw [hquotes]
    simp
  · rcases List.mem_append.1 hc with hc | hc
    · exact hplain c (.inl (List.mem_takeWhile_imp hc))
    · exact hplain c (.inr (hfront c hc))

/-- The start of a name has a source of its own in the first argument; the other arguments come behind it. -/
theorem exists_source_of_name {args base back : List Char} (h : (parseCall args).name.toList = base ++ back) :
    ∃ source tail, source <:+: args ∧ tail <:+ args ∧ Spells source base ∧
      (tail = [] ∨ tail.head? = some ',') ∧ (parseCall args).args = (splitArgs [] tail).tail.map readArg := by
  obtain ⟨source, tail, text, rfl, htail, hspells, hsplit⟩ := exists_spells [] args
  rw [parseCall_eq hsplit] at h ⊢
  rw [List.reverse_nil, List.nil_append] at h
  obtain ⟨front, rest, htext, hfront⟩ := exists_readArg text
  dsimp only at h
  rw [h, List.append_assoc, List.append_assoc] at htext
  rw [htext] at hspells
  obtain ⟨behind, rfl, hbehind⟩ := hspells.exists_drop hfront
  obtain ⟨start, hstart, hspells⟩ := hbehind.exists_take
  refine ⟨start, tail, ?_, List.suffix_append _ tail, hspells, htail, rfl⟩
  exact hstart.isInfix.trans ((List.suffix_append front behind).isInfix.trans
    (List.prefix_append _ tail).isInfix)

/-- A source in quotes, with a word behind it, is a name. -/
theorem parseCall_quoted {word tail : List Char} (h : Spells source text) (hword : ∀ c ∈ word, IsPlainChar c)
    (htail : tail = [] ∨ tail.head? = some ',') :
    parseCall ('"' :: source ++ (word ++ '"' :: tail)) =
      ⟨String.ofList (text ++ word), (splitArgs [] tail).tail.map readArg⟩ := by
  have hquote : ∀ c ∈ word ++ ['"'], IsPlainChar c := by
    refine List.forall_mem_append.2 ⟨hword, List.forall_mem_singleton.2 ?_⟩
    exact ⟨by decide, by decide⟩
  have hsplit : splitArgs [] ('"' :: source ++ (word ++ '"' :: tail)) =
      ('"' :: (text ++ word) ++ ['"']) :: (splitArgs [] tail).tail := by
    have happend : word ++ '"' :: tail = (word ++ ['"']) ++ tail := by simp
    rw [List.cons_append, splitArgs_cons (by decide) (by decide), happend,
      h.splitArgs_word (by simp) hquote, splitArgs_tail htail]
    simp
  have htrim : Text.trim ('"' :: (text ++ word) ++ ['"']) = '"' :: (text ++ word) ++ ['"'] := by
    apply Text.trim_of_ends
    · intro c hc
      rw [← Option.some.inj hc]
      decide
    · intro c hc
      rw [List.getLast?_concat] at hc
      rw [← Option.some.inj hc]
      decide
  rw [parseCall_eq hsplit, readArg, htrim]
  simp [unquote]

end ContentFilter.CosmeticFilter
