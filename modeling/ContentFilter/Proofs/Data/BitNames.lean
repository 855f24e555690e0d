import ContentFilter.Data.BitSet
import ContentFilter.Proofs.Data.Traverse
import ContentFilter.Proofs.Text.Basic
import Mathlib.Algebra.Group.Nat.Defs

/-! The text of a set of flags reads back as the set. -/

namespace ContentFilter

namespace BitNames

/-- A name that a text of names separated by bars can hold. -/
def IsName (name : List Char) : Prop :=
  name ≠ [] ∧ ∀ c ∈ name, Text.isBlank c = false ∧ c ≠ '|'

instance (name : List Char) : Decidable (IsName name) :=
  have : Decidable (∀ c ∈ name, Text.isBlank c = false ∧ c ≠ '|') := List.decidableBAll _ name
  inferInstanceAs (Decidable (_ ∧ _))

theorem IsName.trim {before name after : List Char} (h : IsName name)
    (hbefore : ∀ c ∈ before, Text.isBlank c = true) (hafter : ∀ c ∈ after, Text.isBlank c = true) :
    Text.trim (before ++ name ++ after) = name :=
  Text.trim_append hbefore hafter
    (fun c hc => (h.2 c (List.mem_of_mem_head? hc)).1)
    (fun c hc => (h.2 c (List.mem_of_getLast? hc)).1) h.1

theorem IsName.not_mem {before name : List Char} (h : IsName name) (hbefore : '|' ∉ before) :
    '|' ∉ before ++ name := by
  rw [List.mem_append]
  rintro (hmem | hmem)
  · exact hbefore hmem
  · exact (h.2 _ hmem).2 rfl

/-- The names come back from between the bars, without the blanks around the bars. -/
theorem splitOn_bars {before name : List Char} {names : List (List Char)}
    (hbefore : ∀ c ∈ before, Text.isBlank c = true) (hbars : '|' ∉ before)
    (h : ∀ n ∈ name :: names, IsName n) :
    (Text.splitOn '|' (before ++ " | ".toList.intercalate (name :: names))).map Text.trim =
      name :: names := by
  have hnil : ∀ c ∈ ([] : List Char), Text.isBlank c = true := nofun
  have hblank : ∀ c ∈ [' '], Text.isBlank c = true := List.all_eq_true.1 rfl
  induction names generalizing before name with
  | nil =>
    have hname := h name (by simp)
    have htrim := hname.trim hbefore hnil
    rw [List.append_nil] at htrim
    rw [List.intercalate_singleton, Text.splitOn,
      List.splitOn_eq_singleton (hname.not_mem hbars), List.map_singleton, htrim]
  | cons other names ih =>
    have hname := h name (by simp)
    have htext : before ++ " | ".toList.intercalate (name :: other :: names) =
        before ++ name ++ [' '] ++
          '|' :: ([' '] ++ " | ".toList.intercalate (other :: names)) := by
      rw [List.intercalate_cons_cons]
      simp
    have hbar : '|' ∉ before ++ name ++ [' '] := by
      rw [List.mem_append]
      rintro (hmem | hmem)
      · exact hname.not_mem hbars hmem
      · exact absurd hmem (by decide)
    have hrest := ih hblank (by decide) fun n hn => h n (List.mem_cons_of_mem name hn)
    rw [htext, Text.splitOn, List.splitOn_append_cons_self_of_not_mem hbar, List.map_cons,
      hname.trim hbefore hblank]
    exact congrArg _ hrest

theorem trim_bars {name : List Char} {names : List (List Char)}
    (h : ∀ n ∈ name :: names, IsName n) :
    " | ".toList.intercalate (name :: names) ≠ [] ∧
      Text.trim (" | ".toList.intercalate (name :: names)) =
        " | ".toList.intercalate (name :: names) := by
  have hne : ∀ {name names}, (∀ n ∈ name :: names, IsName n) →
      " | ".toList.intercalate (name :: names) ≠ [] := by
    intro name names h hnil
    cases names with
    | nil => exact (h name (by simp)).1 (by simpa using hnil)
    | cons other names =>
      rw [List.intercalate_cons_cons] at hnil
      simp at hnil
  have hlast : ∀ c, (" | ".toList.intercalate (name :: names)).getLast? = some c →
      Text.isBlank c = false := by
    intro c hc
    induction names generalizing name with
    | nil =>
      rw [List.intercalate_singleton] at hc
      exact ((h name (by simp)).2 c (List.mem_of_getLast? hc)).1
    | cons other names ih =>
      have hother : ∀ n ∈ other :: names, IsName n := fun n hn => h n (by simp_all)
      rw [List.intercalate_cons_cons, List.getLast?_append] at hc
      cases hend : (" | ".toList.intercalate (other :: names)).getLast? with
      | none => exact absurd (List.getLast?_eq_none_iff.1 hend) (hne hother)
      | some d =>
        rw [hend] at hc
        cases hc
        exact ih hother hend
  have hhead : ∀ c, (" | ".toList.intercalate (name :: names)).head? = some c →
      Text.isBlank c = false := by
    intro c hc
    have hname := h name (by simp)
    obtain ⟨d, rest, rfl⟩ := List.exists_cons_of_ne_nil hname.1
    obtain rfl : d = c := by
      cases names with
      | nil => simpa using hc
      | cons other names =>
        rw [List.intercalate_cons_cons] at hc
        simpa using hc
    exact (hname.2 d (by simp)).1
  have htrim := @Text.trim_append [] _ [] nofun nofun hhead hlast (hne h)
  rw [List.nil_append, List.append_nil] at htrim
  exact ⟨hne h, htrim⟩

/-- A table whose names can be told apart in a text. -/
structure Proper (names : BitNames) : Prop where
  isName : ∀ flag ∈ names.flags, IsName flag.1.toList
  notNumber : ∀ flag ∈ names.flags, Text.dropStart? "0x" flag.1.toList = none
  lookup : ∀ flag ∈ names.flags, names.flags.lookup flag.1 = some flag.2

theorem mem_foldl_union {α : Type} (f : α → BitSet) (as : List α) (s : BitSet) (i : Nat) :
    ((as.map f).foldl .union s).mem i = (s.mem i || as.any fun a => (f a).mem i) := by
  induction as generalizing s with
  | nil => simp
  | cons a as ih =>
    rw [List.map_cons, List.foldl_cons, ih, BitSet.mem_union, List.any_cons, Bool.or_assoc]

theorem eq_of_mem {s t : BitSet} (h : ∀ i, s.mem i = t.mem i) : s = t := by
  cases s
  cases t
  exact congrArg BitSet.mk (Nat.eq_of_testBit_eq h)

/-- Sets without a common flag do not meet. -/
theorem meets_eq_false {s t : BitSet} (h : ∀ i, t.mem i = true → s.mem i = false) :
    s.meets t = false := by
  have hinter : s.inter t = .empty := by
    refine eq_of_mem fun i => ?_
    rw [BitSet.mem_inter, BitSet.mem_empty]
    cases ht : t.mem i with
    | false => exact Bool.and_false _
    | true => rw [h i ht, Bool.false_and]
  rw [BitSet.meets, hinter]
  rfl

theorem mem_all (names : BitNames) (i : Nat) :
    names.all.mem i = names.flags.any fun flag => flag.2 == i := by
  have hall : names.all = (names.flags.map fun flag => BitSet.single flag.2).foldl .union .empty := by
    rw [all, BitSet.ofList, List.foldl_map, List.foldl_map]
  rw [hall, mem_foldl_union]
  simp [BEq.beq]

theorem readName_flag {names : BitNames} (hnames : names.Proper) {flag : String × Nat}
    (hflag : flag ∈ names.flags) :
    names.readName flag.1.toList = some (.single flag.2) := by
  simp only [readName, hnames.notNumber flag hflag, String.ofList_toList, hnames.lookup flag hflag,
    Option.map_some]
  rfl

/-- The pieces of the text of a set: its named flags, and one number for the others. -/
def parts (names : BitNames) (s : BitSet) : List (List Char × BitSet) :=
  (names.flags.filter fun flag => s.mem flag.2).map (fun flag => (flag.1.toList, .single flag.2)) ++
    if (s.without names.all).isEmpty then []
    else [("0x".toList ++ Nat.toDigits 16 (s.without names.all).bits, s.without names.all)]

theorem toList_write (names : BitNames) (s : BitSet) :
    (names.write s).toList = " | ".toList.intercalate ((names.parts s).map (·.1)) := by
  rw [write, parts]
  dsimp only
  rw [String.toList_intercalate, List.map_append, List.map_append, List.map_map, List.map_map]
  cases (s.without names.all).isEmpty with
  | true => rfl
  | false => simp [Text.hex, Function.comp_def]

/-- The pieces make up the set. -/
theorem union_parts (names : BitNames) (s : BitSet) :
    ((names.parts s).map (·.2)).foldl .union .empty = s := by
  apply eq_of_mem
  intro i
  rw [mem_foldl_union, BitSet.mem_empty, Bool.false_or, parts, List.any_append, List.any_map]
  have hknown : ((names.flags.filter fun flag => s.mem flag.2).any fun flag =>
      (BitSet.single flag.2).mem i) = (s.mem i && names.all.mem i) := by
    rw [mem_all, Bool.eq_iff_iff, List.any_eq_true, Bool.and_eq_true, List.any_eq_true]
    constructor
    · rintro ⟨flag, hflag, hi⟩
      obtain rfl : flag.2 = i := by simpa using hi
      exact ⟨(List.mem_filter.1 hflag).2, flag, (List.mem_filter.1 hflag).1, by simp⟩
    · rintro ⟨hi, flag, hflag, heq⟩
      obtain rfl : flag.2 = i := by simpa using heq
      exact ⟨flag, List.mem_filter.2 ⟨hflag, hi⟩, by simp⟩
  have hrest : ((if (s.without names.all).isEmpty then []
      else [("0x".toList ++ Nat.toDigits 16 (s.without names.all).bits, s.without names.all)]).any
        fun part => part.2.mem i) = (s.mem i && !names.all.mem i) := by
    rw [← BitSet.mem_without]
    split
    · next hempty =>
      have hnone : s.without names.all = .empty := congrArg BitSet.mk (beq_iff_eq.1 hempty)
      rw [hnone, BitSet.mem_empty]
      rfl
    · simp
  rw [hrest]
  show (((names.flags.filter fun flag => s.mem flag.2).any fun flag => (BitSet.single flag.2).mem i) ||
    (s.mem i && !names.all.mem i)) = s.mem i
  rw [hknown]
  cases s.mem i <;> cases names.all.mem i <;> rfl

theorem isName_number (n : Nat) : IsName ("0x".toList ++ Nat.toDigits 16 n) := by
  have hplain : ∀ d < 16, Text.isBlank (Nat.digitChar d) = false ∧ Nat.digitChar d ≠ '|' := by decide
  have hmark : IsName "0x".toList := by decide
  constructor
  · simp
  · intro c hc
    rcases List.mem_append.1 hc with hc | hc
    · exact hmark.2 c hc
    · obtain ⟨d, hd, rfl⟩ := Text.exists_digit_of_mem_toDigits hc
      exact hplain d hd

theorem readName_number {names : BitNames} {n : Nat} (h : n < 2 ^ names.width) :
    names.readName ("0x".toList ++ Nat.toDigits 16 n) = some ⟨n⟩ := by
  have hplus : Text.dropStart? "+" (Nat.toDigits 16 n) = none := by
    rw [Text.dropStart?, Text.isPrefixOf?_eq_none]
    rintro ⟨rest, hrest⟩
    have hmem : '+' ∈ Nat.toDigits 16 n := hrest ▸ List.mem_cons_self
    obtain ⟨d, hd, heq⟩ := Text.exists_digit_of_mem_toDigits hmem
    have hother : ∀ d < 16, '+' ≠ Nat.digitChar d := by decide
    exact hother d hd heq
  unfold readName
  rw [Text.dropStart?_append]
  dsimp only
  rw [hplus, Option.getD_none, Text.hex?_toDigits, Nat.one_shiftLeft]
  exact if_pos h

/-- Each piece is a name that is read back. -/
theorem readName_parts {names : BitNames} (hnames : names.Proper) {s : BitSet}
    (h : ∀ i, s.mem i = true → i < names.width) :
    ∀ part ∈ names.parts s, IsName part.1 ∧ names.readName part.1 = some part.2 := by
  intro part hpart
  rcases List.mem_append.1 hpart with hpart | hpart
  · obtain ⟨flag, hflag, rfl⟩ := List.mem_map.1 hpart
    have hmem := (List.mem_filter.1 hflag).1
    exact ⟨hnames.isName flag hmem, readName_flag hnames hmem⟩
  · split at hpart
    · cases hpart
    · obtain rfl := List.mem_singleton.1 hpart
      refine ⟨isName_number _, readName_number ?_⟩
      apply Nat.lt_pow_two_of_testBit
      intro i hi
      by_contra hbit
      have hmem : (s.without names.all).mem i = true := by
        rw [BitSet.mem]
        simpa using hbit
      rw [BitSet.mem_without, Bool.and_eq_true] at hmem
      have := h i hmem.1
      omega

/-- A text of names that can be read is read as the union of what they stand for. -/
theorem read_of_readName {names : BitNames} {text : String} {parts : List (List Char × BitSet)}
    (htext : text.toList = " | ".toList.intercalate (parts.map (·.1)))
    (h : ∀ part ∈ parts, IsName part.1 ∧ names.readName part.1 = some part.2) :
    names.read text = some ((parts.map (·.2)).foldl .union .empty) := by
  rw [read]
  simp only [htext]
  cases parts with
  | nil => rfl
  | cons part parts =>
    have hisName : ∀ n ∈ part.1 :: parts.map (·.1), IsName n := by
      intro n hn
      have hmem : n ∈ (part :: parts).map (·.1) := hn
      obtain ⟨other, hother, rfl⟩ := List.mem_map.1 hmem
      exact (h other hother).1
    obtain ⟨hne, htrim⟩ := trim_bars hisName
    have hsplit := @splitOn_bars [] _ _ (by simp) (by simp) hisName
    rw [List.nil_append] at hsplit
    have hread := mapM_eq_pure_map fun part hpart => (h part hpart).2
    have hpieces : (Text.splitOn '|' (" | ".toList.intercalate (part.1 :: parts.map (·.1)))).mapM
        (fun piece => names.readName (Text.trim piece)) = some ((part :: parts).map (·.2)) := by
      have hmap : ∀ pieces : List (List Char), (pieces.map Text.trim).mapM names.readName =
          pieces.mapM fun piece => names.readName (Text.trim piece) := fun pieces => List.mapM_map
      have hnames : ((part :: parts).map (·.1)).mapM names.readName =
          (part :: parts).mapM fun part => names.readName part.1 := List.mapM_map
      rw [List.map_cons] at hnames
      rw [← hmap, hsplit, hnames, hread]
      rfl
    rw [List.map_cons, htrim, if_neg (by simpa using hne), hpieces]
    rfl

/-- A set is read back as it was written, flags without a name included. -/
theorem read_write {names : BitNames} (hnames : names.Proper) {s : BitSet}
    (h : ∀ i, s.mem i = true → i < names.width) : names.read (names.write s) = some s := by
  rw [read_of_readName (names.toList_write s) (readName_parts hnames h), union_parts]

end BitNames

end ContentFilter
