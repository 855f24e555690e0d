import ContentFilter.Text.Basic
import Mathlib.Data.List.DropRight
import Mathlib.Data.List.Infix

/-! What is left of a text without the blanks around it, or without its ending. -/

namespace ContentFilter.Text

theorem dropEndWhile_eq_rdropWhile (p : Char → Bool) (s : List Char) :
    dropEndWhile p s = s.rdropWhile p := rfl

theorem dropEndWhile_append (p : Char → Bool) (s t : List Char) :
    dropEndWhile p (s ++ t) = if t.all p then dropEndWhile p s else s ++ dropEndWhile p t := by
  have hall : (t.reverse.dropWhile p).isEmpty = t.all p := by
    rw [Bool.eq_iff_iff, List.isEmpty_iff, List.dropWhile_eq_nil_iff, List.all_eq_true]
    simp
  rw [dropEndWhile, List.reverse_append, List.dropWhile_append, hall]
  split
  · rfl
  · simp [dropEndWhile]

/-- Blanks around a text are cut off, when it has none at its ends. -/
theorem trim_append {before s after : List Char} (hbefore : ∀ c ∈ before, isBlank c = true)
    (hafter : ∀ c ∈ after, isBlank c = true) (hhead : ∀ c, s.head? = some c → isBlank c = false)
    (hlast : ∀ c, s.getLast? = some c → isBlank c = false) (hne : s ≠ []) :
    trim (before ++ s ++ after) = s := by
  obtain ⟨c, rest, rfl⟩ := List.exists_cons_of_ne_nil hne
  have hstart : trimStart (before ++ (c :: rest) ++ after) = c :: rest ++ after := by
    rw [trimStart, List.append_assoc, List.dropWhile_append_of_pos hbefore, List.cons_append,
      List.dropWhile_cons_of_neg (by simp [hhead c rfl])]
  rw [trim, hstart, trimEnd, dropEndWhile, List.reverse_append,
    List.dropWhile_append_of_pos (by simpa using hafter)]
  cases hreverse : (c :: rest).reverse with
  | nil => simp at hreverse
  | cons d front =>
    have hd : isBlank d = false := by
      refine hlast d ?_
      rw [← List.head?_reverse, hreverse]
      rfl
    rw [List.dropWhile_cons_of_neg (by simp [hd]), ← hreverse, List.reverse_reverse]

theorem not_blank_of_head?_trim {s : List Char} {c : Char} (h : (trim s).head? = some c) :
    isBlank c = false := by
  have hstart : (trimStart s).head? = some c := by
    obtain ⟨rest, hrest⟩ := List.rdropWhile_prefix isBlank (trimStart s)
    rw [← hrest, List.head?_append]
    rw [trim, trimEnd, dropEndWhile_eq_rdropWhile] at h
    rw [h]
    rfl
  have hnot := List.head?_dropWhile_not isBlank s
  rw [trimStart] at hstart
  rw [hstart] at hnot
  simpa using hnot

theorem not_blank_of_getLast?_trim {s : List Char} {c : Char} (h : (trim s).getLast? = some c) :
    isBlank c = false := by
  rw [trim, trimEnd, dropEndWhile_eq_rdropWhile] at h
  obtain ⟨hne, rfl⟩ := List.mem_getLast?_eq_getLast h
  exact Bool.eq_false_iff.2 (List.rdropWhile_last_not isBlank _ hne)

theorem trimStart_eq_self {s : List Char} (h : ∀ c, s.head? = some c → isBlank c = false) :
    trimStart s = s := by
  cases s with
  | nil => rfl
  | cons c s => exact List.dropWhile_cons_of_neg (by simp [h c rfl])

/-- A text without blanks at its ends stays as it is. -/
theorem trim_of_ends {s : List Char} (hhead : ∀ c, s.head? = some c → isBlank c = false)
    (hlast : ∀ c, s.getLast? = some c → isBlank c = false) : trim s = s := by
  cases s with
  | nil => rfl
  | cons c s =>
    have htrim := @trim_append [] (c :: s) [] nofun nofun hhead hlast (List.cons_ne_nil c s)
    simpa using htrim

theorem trim_eq_self {s : List Char} (h : ∀ c ∈ s, isBlank c = false) : trim s = s :=
  trim_of_ends (fun c hc => h c (List.mem_of_mem_head? hc)) fun c hc => h c (List.mem_of_getLast? hc)

@[simp] theorem trim_trim (s : List Char) : trim (trim s) = trim s :=
  trim_of_ends (fun _ => not_blank_of_head?_trim) fun _ => not_blank_of_getLast?_trim

/-- Blanks at the end of a text are of no account. -/
theorem trim_append_blanks {s t : List Char} (h : ∀ c ∈ t, isBlank c = true) :
    trim (s ++ t) = trim s := by
  have hall : t.all isBlank = true := List.all_eq_true.2 h
  rw [trim, trimStart, List.dropWhile_append]
  split
  · next hnil =>
    rw [List.isEmpty_iff] at hnil
    rw [trim, trimStart, hnil, List.dropWhile_eq_nil_iff.2 h]
  · rw [trimEnd, dropEndWhile_append, if_pos hall]
    rfl

theorem exists_dropped (p : Char → Bool) (s : List Char) :
    ∃ dropped, (∀ c ∈ dropped, p c = true) ∧ dropEndWhile p s ++ dropped = s := by
  refine ⟨(s.reverse.takeWhile p).reverse, fun c hc => ?_, ?_⟩
  · exact List.mem_takeWhile_imp (List.mem_reverse.1 hc)
  · rw [dropEndWhile, ← List.reverse_append, List.takeWhile_append_dropWhile, List.reverse_reverse]

theorem exists_blanks (s : List Char) :
    ∃ blanks, (∀ c ∈ blanks, isBlank c = true) ∧ trimEnd s ++ blanks = s :=
  exists_dropped isBlank s

@[simp] theorem trim_trimEnd (s : List Char) : trim (trimEnd s) = trim s := by
  obtain ⟨blanks, hblanks, happend⟩ := exists_blanks s
  rw [← trim_append_blanks hblanks, happend]

/-- A text is trimmed behind a start that has no blanks at its ends. -/
theorem trim_append_left {front back : List Char} (hhead : ∀ c, front.head? = some c → isBlank c = false)
    (hlast : ∀ c, front.getLast? = some c → isBlank c = false) (hne : front ≠ []) :
    trim (front ++ back) = front ++ trimEnd back := by
  obtain ⟨c, rest, rfl⟩ := List.exists_cons_of_ne_nil hne
  have hstart : trimStart (c :: rest ++ back) = c :: rest ++ back := by
    rw [trimStart, List.cons_append, List.dropWhile_cons_of_neg (by simp [hhead c rfl])]
  rw [trim, hstart, trimEnd, dropEndWhile_append]
  split
  · next hall =>
    have hfront : dropEndWhile isBlank (c :: rest) = c :: rest := by
      rw [dropEndWhile_eq_rdropWhile, List.rdropWhile_eq_self_iff]
      intro hne hblank
      rw [hlast _ (List.getLast?_eq_getLast_of_ne_nil hne)] at hblank
      cases hblank
    have hback : trimEnd back = [] := by
      rw [trimEnd, dropEndWhile_eq_rdropWhile, List.rdropWhile_eq_nil_iff]
      exact List.all_eq_true.1 hall
    rw [hfront, hback, List.append_nil]
  · rfl

theorem trim_infix (s : List Char) : trim s <:+: s :=
  (List.rdropWhile_prefix isBlank _).isInfix.trans (List.dropWhile_suffix isBlank).isInfix

theorem mem_dropWhile {p : Char → Bool} {s : List Char} {c : Char} (h : c ∈ s) (hc : p c = false) :
    c ∈ s.dropWhile p := by
  rw [← List.takeWhile_append_dropWhile (p := p) (l := s), List.mem_append] at h
  refine h.resolve_left fun htake => ?_
  rw [List.mem_takeWhile_imp htake] at hc
  cases hc

theorem mem_dropEndWhile {p : Char → Bool} {s : List Char} {c : Char} (h : c ∈ s) (hc : p c = false) :
    c ∈ dropEndWhile p s :=
  List.mem_reverse.2 (mem_dropWhile (List.mem_reverse.2 h) hc)

theorem mem_trim {s : List Char} {c : Char} (h : c ∈ s) (hc : isBlank c = false) : c ∈ trim s :=
  mem_dropEndWhile (mem_dropWhile h hc) hc

theorem dropEnd?_eq_some {ending : String} {s t : List Char} :
    dropEnd? ending s = some t ↔ s = t ++ ending.toList := by
  rw [dropEnd?, List.isSuffixOf?, Option.map_eq_some_iff]
  constructor
  · rintro ⟨rest, hrest, rfl⟩
    have happend := congrArg List.reverse (eq_append_of_isPrefixOf? hrest)
    simpa using happend
  · rintro rfl
    exact ⟨t.reverse, by simp, t.reverse_reverse⟩

end ContentFilter.Text

/-! Where a text is cut, at the first or at the last place where a separator stands, and what pieces
joined by one contain. -/

namespace ContentFilter.Text

variable {a b : Char} {s before after : List Char}

/-- A run of characters ends before the first one of another kind. -/
theorem takeWhile_append_of_head? {p : Char → Bool} {t : List Char} (h : ∀ c ∈ s, p c = true)
    (ht : ∀ c, t.head? = some c → p c = false) : (s ++ t).takeWhile p = s := by
  rw [List.takeWhile_append_of_pos h]
  cases t with
  | nil => simp
  | cons c t => simp [ht c rfl]

theorem dropWhile_append_of_head? {p : Char → Bool} {t : List Char} (h : ∀ c ∈ s, p c = true)
    (ht : ∀ c, t.head? = some c → p c = false) : (s ++ t).dropWhile p = t := by
  rw [List.dropWhile_append_of_pos h]
  cases t with
  | nil => rfl
  | cons c t => simp [ht c rfl]

theorem cut?_eq_none : cut? [a] s = none ↔ a ∉ s := by
  induction s with
  | nil => simp [cut?, List.isPrefixOf?]
  | cons c s ih =>
    rw [cut?, isPrefixOf?_cons, isPrefixOf?_nil]
    by_cases h : a = c <;> simp [h, ih]

/-- A single character is cut at where it stands first. -/
theorem cut?_eq_some : cut? [a] s = some (before, after) ↔ a ∉ before ∧ s = before ++ a :: after := by
  induction s generalizing before with
  | nil => simp [cut?, List.isPrefixOf?]
  | cons c s ih =>
    rw [cut?, isPrefixOf?_cons, isPrefixOf?_nil]
    by_cases h : a = c
    · subst h
      cases before with
      | nil => simp
      | cons d before => simp; grind
    · simp only [beq_iff_eq, h, if_false, Option.map_eq_some_iff]
      cases before with
      | nil => simp; grind
      | cons d before => simp [ih]; grind

theorem isPrefixOf?_eq_none {start : List Char} : start.isPrefixOf? s = none ↔ ¬ start <+: s := by
  rw [← Option.not_isSome_iff_eq_none, Option.isSome_iff_exists]
  simp only [List.isPrefixOf?_eq_some_iff_append_eq, List.IsPrefix]

theorem contains_iff {part : String} : contains part s = true ↔ part.toList <:+: s := by
  rw [contains]
  induction s with
  | nil => rw [cut?, Option.isSome_map, List.isSome_isPrefixOf?_eq_isPrefixOf, List.isPrefixOf_iff_prefix,
      List.prefix_nil, List.infix_nil]
  | cons c s ih =>
    rw [cut?, List.infix_cons_iff, ← ih]
    cases hstart : part.toList.isPrefixOf? (c :: s) with
    | some rest => simp [eq_append_of_isPrefixOf? hstart]
    | none => simp [isPrefixOf?_eq_none.1 hstart]

theorem cutLast?_eq_none {sep : List Char} : cutLast? sep s = none ↔ ¬ sep <:+: s := by
  induction s with
  | nil => rw [cutLast?, Option.map_eq_none_iff, isPrefixOf?_eq_none, List.prefix_nil, List.infix_nil]
  | cons c s ih =>
    rw [cutLast?, List.infix_cons_iff]
    cases hrest : cutLast? sep s with
    | some found =>
      have hmem : sep <:+: s := by
        by_contra hnot
        rw [ih.2 hnot] at hrest
        cases hrest
      simp [hmem]
    | none => simp [ih.1 hrest, isPrefixOf?_eq_none]

theorem eq_append_of_cutLast? {sep : List Char} (h : cutLast? sep s = some (before, after)) :
    s = before ++ sep ++ after := by
  induction s generalizing before with
  | nil =>
    rw [cutLast?, Option.map_eq_some_iff] at h
    obtain ⟨rest, hrest, heq⟩ := h
    cases heq
    exact eq_append_of_isPrefixOf? hrest
  | cons c s ih =>
    rw [cutLast?] at h
    split at h
    · next found after' hfound =>
      cases h
      exact congrArg (c :: ·) (ih hfound)
    · obtain ⟨rest, hrest, heq⟩ := Option.map_eq_some_iff.1 h
      cases heq
      exact eq_append_of_isPrefixOf? hrest

/-- Two different characters are cut at where they stand together last. -/
theorem cutLast?_eq_some (hab : a ≠ b) : cutLast? [a, b] s = some (before, after) ↔
    s = before ++ a :: b :: after ∧ ¬ [a, b] <:+: after := by
  induction s generalizing before with
  | nil => simp [cutLast?, List.isPrefixOf?]
  | cons c s ih =>
    rw [cutLast?]
    constructor
    · intro h
      split at h
      · next found after' hfound =>
        cases h
        obtain ⟨rfl, hafter⟩ := ih.1 hfound
        exact ⟨rfl, hafter⟩
      · next hrest =>
        obtain ⟨rest, hstart, heq⟩ := Option.map_eq_some_iff.1 h
        cases heq
        have happend := eq_append_of_isPrefixOf? hstart
        refine ⟨happend, fun hpart => cutLast?_eq_none.1 hrest ?_⟩
        rw [(List.cons.inj happend).2]
        exact hpart.trans (List.suffix_append _ _).isInfix
    · rintro ⟨happend, hafter⟩
      cases before with
      | nil =>
        obtain ⟨rfl, rfl⟩ := List.cons.inj happend
        have hrest : ¬ [c, b] <:+: b :: after := by
          rw [List.infix_cons_iff, List.cons_prefix_cons]
          tauto
        rw [cutLast?_eq_none.2 hrest]
        simp [List.isPrefixOf?]
      | cons d before =>
        obtain ⟨rfl, rfl⟩ := List.cons.inj happend
        rw [ih.2 ⟨rfl, hafter⟩]

/-- A single character is cut at where it stands last. -/
theorem cutLast?_append (h : a ∉ after) : cutLast? [a] (before ++ a :: after) = some (before, after) := by
  induction before with
  | nil =>
    have hnone : cutLast? [a] after = none := by
      rw [cutLast?_eq_none, List.singleton_infix_iff]
      exact h
    rw [List.nil_append, cutLast?, hnone, isPrefixOf?_cons, isPrefixOf?_nil, if_pos (beq_self_eq_true a)]
    rfl
  | cons c before ih =>
    rw [List.cons_append, cutLast?, ih]

theorem dropStart?_append (start : String) (rest : List Char) :
    dropStart? start (start.toList ++ rest) = some rest :=
  List.isPrefixOf?_eq_some_iff_append_eq.2 rfl

@[simp] theorem lower_append (s t : List Char) : lower (s ++ t) = lower s ++ lower t :=
  List.map_append

theorem lower_intercalate (sep : List Char) (pieces : List (List Char)) :
    lower (sep.intercalate pieces) = (lower sep).intercalate (pieces.map lower) := by
  induction pieces with
  | nil => rfl
  | cons piece pieces ih =>
    cases pieces with
    | nil => simp
    | cons other pieces =>
      rw [List.intercalate_cons_cons, List.map_cons, List.map_cons, List.intercalate_cons_cons,
        ← List.map_cons, ← ih]
      simp

theorem not_mem_of_mem_splitOn {sep : Char} {piece : List Char} (h : piece ∈ splitOn sep s) :
    sep ∉ piece := by
  rw [splitOn, List.splitOn] at h
  induction s generalizing piece with
  | nil =>
    rw [List.splitOnP_nil, List.mem_singleton] at h
    rw [h]
    exact List.not_mem_nil
  | cons c s ih =>
    rw [List.splitOnP_cons_eq_if_modifyHead] at h
    split at h
    · rcases List.mem_cons.1 h with rfl | h
      · exact List.not_mem_nil
      · exact ih h
    · next hne =>
      obtain ⟨first, rest, hsplit⟩ := List.exists_cons_of_ne_nil (List.splitOnP_ne_nil (· == sep) s)
      rw [hsplit, List.modifyHead_cons] at h
      rw [hsplit] at ih
      rcases List.mem_cons.1 h with rfl | h
      · rintro (_ | ⟨_, hmem⟩)
        · exact hne (beq_self_eq_true _)
        · exact ih List.mem_cons_self hmem
      · exact ih (List.mem_cons_of_mem first h)

theorem splitOn_append (sep : Char) (s t : List Char) :
    splitOn sep (s ++ sep :: t) = splitOn sep s ++ splitOn sep t := by
  rw [splitOn, splitOn, splitOn, List.splitOn, List.splitOn, List.splitOn]
  induction s with
  | nil => simp [List.splitOnP_cons_eq_if_modifyHead]
  | cons c s ih =>
    rw [List.cons_append, List.splitOnP_cons_eq_if_modifyHead, List.splitOnP_cons_eq_if_modifyHead, ih]
    split
    · rfl
    · obtain ⟨first, rest, hsplit⟩ := List.exists_cons_of_ne_nil (List.splitOnP_ne_nil (· == sep) s)
      rw [hsplit]
      rfl

/-- There is one more piece than there are separators. -/
theorem length_splitOn (sep : Char) (s : List Char) : (splitOn sep s).length = s.count sep + 1 := by
  rw [splitOn, List.splitOn]
  induction s with
  | nil => simp
  | cons c s ih =>
    rw [List.splitOnP_cons_eq_if_modifyHead, List.count_cons]
    split
    · rw [List.length_cons, ih]
    · rw [List.length_modifyHead, ih]

theorem intercalate_splitOn (sep : Char) (s : List Char) : [sep].intercalate (splitOn sep s) = s :=
  List.intercalate_splitOn sep

/-- The lines of a text are its pieces between line feeds, as far as neither a carriage return at the end
nor an empty last piece matters. -/
theorem exists_mem_lines {P : List Char → Prop} (hreturn : ∀ line, P (line ++ ['\r']) ↔ P line)
    (hempty : ¬P []) (s : List Char) :
    (∃ line ∈ lines s, P line) ↔ ∃ piece ∈ splitOn '\n' s, P piece := by
  have hne : splitOn '\n' s ≠ [] := List.splitOn_ne_nil '\n' s
  have hdrop : ∀ piece, P (dropReturn piece) ↔ P piece := by
    intro piece
    rw [dropReturn]
    split
    · next line hline => rw [dropEnd?_eq_some.1 hline]; exact (hreturn line).symm
    · rfl
  rw [lines, List.getLastD_eq_getLast?, List.getLast?_eq_getLast_of_ne_nil hne, Option.getD_some]
  conv_rhs => rw [← List.dropLast_append_getLast hne]
  simp only [List.mem_append, List.mem_map, or_and_right, exists_or, exists_exists_and_eq_and, hdrop]
  refine or_congr_right ?_
  split
  · next hlast =>
    rw [List.isEmpty_iff] at hlast
    simp [hlast, hempty]
  · rfl

theorem dropReturn_append (line : List Char) : dropReturn (line ++ ['\r']) = line := by
  have hend : dropEnd? "\r" (line ++ ['\r']) = some line := dropEnd?_eq_some.2 rfl
  rw [dropReturn, hend]

theorem not_mem_of_mem_lines {s line : List Char} (h : line ∈ lines s) : '\n' ∉ line := by
  intro hmem
  obtain ⟨piece, hpiece, hmem⟩ := (exists_mem_lines (P := ('\n' ∈ ·)) (by simp) (by simp) s).1 ⟨line, h, hmem⟩
  exact not_mem_of_mem_splitOn hpiece hmem

/-- Lines with their ends make a text with these lines. -/
theorem lines_flatMap {pieces : List (List Char)} (h : ∀ piece ∈ pieces, '\n' ∉ piece) :
    lines (pieces.flatMap (· ++ ['\r', '\n'])) = pieces := by
  have hjoined : pieces.flatMap (· ++ ['\r', '\n']) =
      ['\n'].intercalate (pieces.map (· ++ ['\r']) ++ [[]]) := by
    clear h
    induction pieces with
    | nil => rfl
    | cons piece pieces ih =>
      rw [List.flatMap_cons, ih, List.map_cons, List.cons_append, List.intercalate_cons_of_ne_nil (by simp)]
      simp
  have hsplit : splitOn '\n' (pieces.flatMap (· ++ ['\r', '\n'])) = pieces.map (· ++ ['\r']) ++ [[]] := by
    rw [hjoined, splitOn, List.splitOn_intercalate]
    · refine List.forall_mem_append.2 ⟨List.forall_mem_map.2 fun piece hpiece => ?_, by simp⟩
      simpa using h piece hpiece
    · simp
  rw [lines, hsplit]
  simp [dropReturn_append, Function.comp_def]

theorem infix_intercalate {sep piece : List Char} {pieces : List (List Char)} (h : piece ∈ pieces) :
    piece <:+: sep.intercalate pieces := by
  induction pieces with
  | nil => cases h
  | cons first pieces ih =>
    cases pieces with
    | nil =>
      rw [List.mem_singleton.1 h, List.intercalate_singleton]
    | cons other pieces =>
      rw [List.intercalate_cons_cons]
      rcases List.mem_cons.1 h with rfl | h
      · rw [List.append_assoc]
        exact (List.prefix_append _ _).isInfix
      · exact (ih h).trans (List.suffix_append _ _).isInfix

theorem intercalate_concat {pieces : List (List Char)} (hne : pieces ≠ []) (sep last : List Char) :
    sep.intercalate (pieces ++ [last]) = sep.intercalate pieces ++ (sep ++ last) := by
  induction pieces with
  | nil => exact absurd rfl hne
  | cons piece pieces ih =>
    rcases eq_or_ne pieces [] with rfl | hpieces
    · simp [List.intercalate_cons_cons]
    · rw [List.cons_append, List.intercalate_cons_of_ne_nil (List.append_ne_nil_of_left_ne_nil hpieces _),
        List.intercalate_cons_of_ne_nil hpieces, ih hpieces, List.append_assoc _ _ (sep ++ last)]

theorem suffix_intercalate (sep : List Char) (pieces : List (List Char)) (last : List Char) :
    last <:+ sep.intercalate (pieces ++ [last]) := by
  rcases eq_or_ne pieces [] with rfl | hne
  · rw [List.nil_append, List.intercalate_singleton]
  · rw [intercalate_concat hne]
    exact (List.suffix_append sep last).trans (List.suffix_append _ _)

/-- What stands in joined pieces and reaches over no separator stands in one of them. -/
theorem infix_of_infix_intercalate {sep : Char} {part : List Char} {pieces : List (List Char)}
    (hne : part ≠ []) (hsep : sep ∉ part) (h : part <:+: [sep].intercalate pieces) :
    ∃ piece ∈ pieces, part <:+: piece := by
  have hstart : ∀ {front rest : List Char}, front ⊆ part → front <+: sep :: rest → front = [] := by
    intro front rest hsub hprefix
    rcases List.prefix_cons_iff.1 hprefix with rfl | ⟨tail, rfl, -⟩
    · rfl
    · exact absurd (hsub List.mem_cons_self) hsep
  induction pieces with
  | nil => exact absurd (List.infix_nil.1 h) hne
  | cons piece pieces ih =>
    cases pieces with
    | nil =>
      rw [List.intercalate_singleton] at h
      exact ⟨piece, List.mem_singleton_self piece, h⟩
    | cons other pieces =>
      rw [List.intercalate_cons_cons, List.append_assoc, List.singleton_append, List.infix_append_iff,
        List.infix_cons_iff] at h
      rcases h with h | (h | h) | ⟨front, back, rfl, hfront, hback⟩
      · exact ⟨piece, List.mem_cons_self, h⟩
      · exact absurd (hstart (List.Subset.refl part) h) hne
      · obtain ⟨found, hfound, h⟩ := ih h
        exact ⟨found, List.mem_cons_of_mem piece hfound, h⟩
      · rw [hstart (List.subset_append_right front back) hback, List.append_nil]
        exact ⟨piece, List.mem_cons_self, hfront.isInfix⟩

/-- What stands in joined pieces stands in one of them or between them. -/
theorem mem_intercalate {c : Char} {sep : List Char} {pieces : List (List Char)}
    (h : c ∈ sep.intercalate pieces) : c ∈ sep ∨ ∃ piece ∈ pieces, c ∈ piece := by
  induction pieces with
  | nil => cases h
  | cons piece pieces ih =>
    cases pieces with
    | nil =>
      rw [List.intercalate_singleton] at h
      exact .inr ⟨piece, List.mem_singleton_self piece, h⟩
    | cons other pieces =>
      rw [List.intercalate_cons_cons, List.append_assoc, List.mem_append, List.mem_append] at h
      rcases h with h | h | h
      · exact .inr ⟨piece, List.mem_cons_self, h⟩
      · exact .inl h
      · exact (ih h).imp_right fun ⟨found, hfound, hc⟩ => ⟨found, List.mem_cons_of_mem piece hfound, hc⟩

theorem mem_of_mem_intercalate {sep c : Char} {pieces : List (List Char)} (hne : c ≠ sep)
    (h : c ∈ [sep].intercalate pieces) : ∃ piece ∈ pieces, c ∈ piece :=
  (mem_intercalate h).resolve_left fun hsep => hne (List.mem_singleton.1 hsep)

end ContentFilter.Text

/-! Hexadecimal digits are read back as the number that they were written for. -/

namespace ContentFilter.Text

theorem hexDigit?_digitChar : ∀ d < 16, hexDigit? (Nat.digitChar d) = some d := by decide

theorem hex?_toDigits (n : Nat) : hex? (Nat.toDigits 16 n) = some n := by
  have hne (n : Nat) : (Nat.toDigits 16 n).isEmpty = false := by
    rw [List.isEmpty_eq_false_iff]
    exact Nat.toDigits_ne_nil
  induction n using Nat.strongRecOn with
  | ind n ih =>
    rw [hex?, hne]
    by_cases hn : n < 16
    · rw [Nat.toDigits_of_lt_base hn]
      simp [hexDigit?_digitChar n hn]
    · have hrest := ih (n / 16) (by omega)
      rw [hex?, hne] at hrest
      have hlast : n % 16 < 16 := Nat.mod_lt n (by omega)
      rw [Nat.toDigits_of_base_le (by omega) (by omega)]
      simp only [Bool.false_eq_true, if_false, List.foldlM_append] at hrest ⊢
      rw [hrest]
      simp only [List.foldlM_cons, hexDigit?_digitChar _ hlast]
      show some (16 * (n / 16) + n % 16) = some n
      rw [Nat.div_add_mod]

/-- The characters that a number is written with. -/
theorem exists_digit_of_mem_toDigits {n : Nat} {c : Char} (h : c ∈ Nat.toDigits 16 n) :
    ∃ d < 16, c = Nat.digitChar d := by
  induction n using Nat.strongRecOn with
  | ind n ih =>
    by_cases hn : n < 16
    · rw [Nat.toDigits_of_lt_base hn, List.mem_singleton] at h
      exact ⟨n, hn, h⟩
    · rw [Nat.toDigits_of_base_le (by omega) (by omega), List.mem_append] at h
      rcases h with h | h
      · exact ih (n / 16) (by omega) h
      · exact ⟨n % 16, Nat.mod_lt n (by omega), List.mem_singleton.1 h⟩

end ContentFilter.Text
