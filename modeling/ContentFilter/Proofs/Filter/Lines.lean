import ContentFilter.Proofs.Filter.Cosmetic

/-! A text is read line by line: what a line gives is settled by the line alone, and the number of one
that cannot be used by how many stand before it. -/

namespace ContentFilter

namespace Text

theorem trim_dropReturn (line : List Char) : trim (dropReturn line) = trim line := by
  rw [dropReturn]
  split
  · next rest hrest =>
    rw [dropEnd?_eq_some.1 hrest]
    exact (trim_append_blanks (List.forall_mem_singleton.2 (by decide))).symm
  · rfl

end Text

namespace Filter

@[simp] theorem isComment_trim (line : List Char) : isComment (Text.trim line) = isComment line := by
  rw [isComment, isComment, Text.trim_trim]

theorem parseChars_eq_none {line : List Char} : parseChars line = .ok none ↔ isComment line = true := by
  unfold parseChars
  extract_lets trimmed
  rw [isComment_trim]
  cases isComment line with
  | true => simp
  | false =>
    rw [if_neg Bool.false_ne_true]
    cases typeOf trimmed with
    | network => cases NetworkFilter.parseChars trimmed <;> simp [Except.map]
    | cosmetic => cases CosmeticFilter.parseChars trimmed <;> simp [Except.map]
    | unsupported => simp

end Filter

namespace ParsedList

/-- What is read from a text and from the one that follows it. -/
instance : Append ParsedList where
  append first second :=
    ⟨first.network ++ second.network, first.cosmetic ++ second.cosmetic, first.errors ++ second.errors⟩

@[simp] theorem network_append (first second : ParsedList) :
    (first ++ second).network = first.network ++ second.network := rfl

@[simp] theorem cosmetic_append (first second : ParsedList) :
    (first ++ second).cosmetic = first.cosmetic ++ second.cosmetic := rfl

@[simp] theorem errors_append (first second : ParsedList) :
    (first ++ second).errors = first.errors ++ second.errors := rfl

theorem append_assoc (first second third : ParsedList) :
    first ++ second ++ third = first ++ (second ++ third) := by
  show ParsedList.mk _ _ _ = ParsedList.mk _ _ _
  simp only [network_append, cosmetic_append, errors_append, List.append_assoc]

/-- The same, that many lines further down. -/
def below (parsed : ParsedList) (lines : Nat) : ParsedList :=
  { parsed with errors := parsed.errors.map fun error => { error with line := error.line + lines } }

theorem below_append (first second : ParsedList) (lines : Nat) :
    (first ++ second).below lines = first.below lines ++ second.below lines := by
  show ParsedList.mk _ _ _ = ParsedList.mk _ _ _
  rw [errors_append, List.map_append]
  rfl

/-- What is read from the line with that number. -/
def ofLine (number : Nat) (line : List Char) : ParsedList := add {} number line

theorem ofLines_cons (number : Nat) (line : List Char) (lines : List (List Char)) :
    ofLines number (line :: lines) = ofLine number line ++ ofLines (number + 1) lines := by
  rw [ofLines, ofLine, add, add]
  split <;> rfl

theorem ofLine_below (number more : Nat) (line : List Char) :
    ofLine (number + more) line = (ofLine number line).below more := by
  rw [ofLine, ofLine, add, add]
  split <;> rfl

/-- Blanks around a line are of no account. -/
theorem ofLine_congr {line other : List Char} (h : Text.trim line = Text.trim other) (number : Nat) :
    ofLine number line = ofLine number other := by
  rw [ofLine, ofLine, add, add, ← Filter.parseChars_trim line, ← Filter.parseChars_trim other, h]

theorem ofLines_append (number : Nat) (lines more : List (List Char)) :
    ofLines number (lines ++ more) = ofLines number lines ++ ofLines (number + lines.length) more := by
  induction lines generalizing number with
  | nil => rfl
  | cons line lines ih =>
    rw [List.cons_append, ofLines_cons, ih, ofLines_cons, append_assoc, List.length_cons, Nat.add_assoc,
      Nat.add_comm 1]

theorem ofLines_below (number more : Nat) (lines : List (List Char)) :
    ofLines (number + more) lines = (ofLines number lines).below more := by
  induction lines generalizing number with
  | nil => rfl
  | cons line lines ih =>
    rw [ofLines_cons, ofLines_cons, below_append, ofLine_below, Nat.add_right_comm, ih]

theorem ofLines_congr {P : List Char → List Char} (h : ∀ line, Text.trim (P line) = Text.trim line)
    (number : Nat) (lines : List (List Char)) : ofLines number (lines.map P) = ofLines number lines := by
  induction lines generalizing number with
  | nil => rfl
  | cons line lines ih => rw [List.map_cons, ofLines_cons, ofLines_cons, ih, ofLine_congr (h line)]

/-- Neither a carriage return at the end of a line nor an empty last piece makes a difference. -/
theorem parse_eq (text : String) : parse text = ofLines 1 (Text.splitOn '\n' text.toList) := by
  have hne : Text.splitOn '\n' text.toList ≠ [] := List.splitOn_ne_nil '\n' text.toList
  have hlast (number : Nat) (piece : List Char) :
      ofLines number (if piece.isEmpty then [] else [piece]) = ofLines number [piece] := by
    cases piece <;> rfl
  rw [parse, Text.lines, List.getLastD_eq_getLast?, List.getLast?_eq_getLast_of_ne_nil hne, Option.getD_some]
  conv_rhs => rw [← List.dropLast_append_getLast hne]
  rw [ofLines_append, ofLines_append, ofLines_congr Text.trim_dropReturn, hlast, List.length_map]

/-- What follows a line feed is read as if it stood alone. -/
theorem parse_newline (a b : String) :
    parse (a ++ "\n" ++ b) = parse a ++ (parse b).below (1 + a.toList.count '\n') := by
  have hlist : (a ++ "\n" ++ b).toList = a.toList ++ '\n' :: b.toList := by simp
  rw [parse_eq, parse_eq a, parse_eq b, hlist, Text.splitOn_append, ofLines_append, ofLines_below,
    Text.length_splitOn, Nat.add_comm 1]

theorem parse_line {line : String} (h : '\n' ∉ line.toList) : parse line = ofLine 1 line.toList := by
  rw [parse_eq, Text.splitOn, List.splitOn_eq_singleton h]
  rfl

/-- What a line alone can give: nothing as a comment, else one filter, or one error that has its text. -/
inductive IsOutcome (line : List Char) : ParsedList → Prop
  | comment (h : Filter.isComment line = true) : IsOutcome line {}
  | network (h : Filter.isComment line = false) (filter : NetworkFilter) :
    IsOutcome line { network := [filter] }
  | cosmetic (h : Filter.isComment line = false) (filter : CosmeticFilter) :
    IsOutcome line { cosmetic := [filter] }
  | error (h : Filter.isComment line = false) (error : FilterError) :
    IsOutcome line { errors := [⟨1, String.ofList (Text.trim line), error⟩] }

theorem isOutcome_ofLine (line : List Char) : IsOutcome line (ofLine 1 line) := by
  cases hcomment : Filter.isComment line with
  | true =>
    rw [ofLine, add, Filter.parseChars_eq_none.2 hcomment]
    exact .comment hcomment
  | false =>
    rw [ofLine, add]
    split
    · next filter _ => exact .network hcomment filter
    · next filter _ => exact .cosmetic hcomment filter
    · next hnone =>
      rw [Filter.parseChars_eq_none, hcomment] at hnone
      cases hnone
    · next error _ => exact .error hcomment error

/-- Lists are read line by line. Two texts with a line feed between them give what each of them gives, with the
errors of the second further down by the lines of the first. So a line that cannot be used adds its error and
leaves the others as they are, and each line is a comment, one filter or one error. -/
theorem parse_lineLocal (a b : String) :
    (parse (a ++ "\n" ++ b)).network = (parse a).network ++ (parse b).network ∧
    (parse (a ++ "\n" ++ b)).cosmetic = (parse a).cosmetic ++ (parse b).cosmetic ∧
    (parse (a ++ "\n" ++ b)).errors = (parse a).errors ++
      (parse b).errors.map (fun error => { error with line := error.line + (1 + a.toList.count '\n') }) ∧
    (∀ (bad : String) (cause : FilterError), '\n' ∉ bad.toList → Filter.parse bad = .error cause →
      (parse (a ++ "\n" ++ bad ++ "\n" ++ b)).network = (parse (a ++ "\n" ++ b)).network ∧
      (parse (a ++ "\n" ++ bad ++ "\n" ++ b)).cosmetic = (parse (a ++ "\n" ++ b)).cosmetic ∧
      (parse (a ++ "\n" ++ bad ++ "\n" ++ b)).errors = (parse a).errors ++
        ⟨a.toList.count '\n' + 2, String.ofList (Text.trim bad.toList), cause⟩ ::
          (parse b).errors.map fun error => { error with line := error.line + (a.toList.count '\n' + 2) }) ∧
    ∀ line : String, '\n' ∉ line.toList → IsOutcome line.toList (parse line) := by
  have hjoin := parse_newline a b
  refine ⟨by rw [hjoin]; rfl, by rw [hjoin]; rfl, by rw [hjoin]; rfl, fun bad cause hbad hcause => ?_,
    fun line hline => ?_⟩
  · have hline : parse bad = { errors := [⟨1, String.ofList (Text.trim bad.toList), cause⟩] } := by
      rw [parse_line hbad, ofLine, add, ← Filter.parse, hcause]
    have hcount : (a ++ "\n" ++ bad).toList.count '\n' = a.toList.count '\n' + 1 := by
      simp [List.count_eq_zero.2 hbad]
    rw [hjoin, parse_newline, parse_newline, hline, hcount]
    refine ⟨by simp [below], by simp [below], ?_⟩
    have hnumber : 1 + (1 + a.toList.count '\n') = a.toList.count '\n' + 2 := by omega
    have hshift : 1 + (a.toList.count '\n' + 1) = a.toList.count '\n' + 2 := by omega
    simp [below, hnumber, hshift]
  · rw [parse_line hline]
    exact isOutcome_ofLine line.toList

theorem parse_lineLocal_badLine :
    '\n' ∉ "a$$b".toList ∧ Filter.parse "a$$b" = .error .unsupported ∧
    (parse ("! note\n||ads.example^" ++ "\n" ++ "a$$b" ++ "\n" ++ "##.ad\r\n##")).errors =
      [⟨3, "a$$b", .unsupported⟩, ⟨5, "##", .invalidSelector ""⟩] := by
  have hbad : Filter.parse "a$$b" = .error .unsupported := by decide +kernel
  obtain ⟨-, -, -, hlocal, -⟩ := parse_lineLocal "! note\n||ads.example^" "##.ad\r\n##"
  obtain ⟨-, -, herrors⟩ := hlocal "a$$b" .unsupported (by decide) hbad
  refine ⟨by decide, hbad, ?_⟩
  rw [herrors]
  decide +kernel

end ParsedList

end ContentFilter
