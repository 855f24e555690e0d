import ContentFilter.Matching.Precedence
import ContentFilter.Proofs.Text.Basic

/-! The style sheet of a page read back: a rule to hide or to restyle for every selector that was put into
it, in their order. -/

namespace ContentFilter

/-- What a page is told to do with the elements of a selector, or to run. -/
inductive PageRule where
  | hide (selector : String)
  | style (selector css : String)
  | extended (selector : String)
  | scriptlet (call : ScriptletCall)
  deriving DecidableEq, Repr

namespace PageRule

/-- The rule in a line of a style sheet. A hidden selector has a comma after it or, as the last one, the
declarations for all; a blank before the brace makes a rule with declarations of its own. -/
def ofLine (line : List Char) : PageRule :=
  match Text.cut? ['{'] line with
  | none => .hide (String.ofList line.dropLast)
  | some (start, declarations) =>
    match Text.dropEnd? " " start with
    | none => .hide (String.ofList start)
    | some selector =>
      .style (String.ofList selector) (String.ofList declarations.tail.dropLast.dropLast)

/-- The rules of a style sheet. -/
def ofSheet (sheet : String) : List PageRule :=
  if sheet.isEmpty then [] else (Text.splitOn '\n' sheet.toList).map ofLine

end PageRule

/-- A text that stands in one line of a style sheet, outside of the braces. -/
structure IsSheetText (text : List Char) : Prop where
  noBreak : '\n' ∉ text
  noBrace : '{' ∉ text
  noBlank : text.getLast? ≠ some ' '

namespace CosmeticMatch

/-- The declarations of the hidden selectors. -/
def hideAll : String := "\x7bdisplay:none !important;\x7d"

/-- The lines of the hidden selectors. -/
def hideLines : List String → List String
  | [] => []
  | [selector] => [selector ++ hideAll]
  | selector :: rest => (selector ++ ",") :: hideLines rest

def styleLine (rule : String × String) : String := rule.1 ++ " \x7b " ++ rule.2 ++ " \x7d"

theorem hideLines_cons {rest : List String} (selector : String) (h : rest ≠ []) :
    hideLines (selector :: rest) = (selector ++ ",") :: hideLines rest := by
  rw [hideLines]
  exact h

theorem hideLines_ne_nil {hidden : List String} (h : hidden ≠ []) : hideLines hidden ≠ [] := by
  cases hidden with
  | nil => exact absurd rfl h
  | cons selector rest =>
    cases rest with
    | nil => exact List.cons_ne_nil _ _
    | cons other rest => exact List.cons_ne_nil _ _

theorem intercalate_hideLines {hidden : List String} (h : hidden ≠ []) :
    "\n".intercalate (hideLines hidden) = ",\n".intercalate hidden ++ hideAll := by
  induction hidden with
  | nil => exact absurd rfl h
  | cons selector rest ih =>
    by_cases hrest : rest = []
    · subst hrest
      simp [hideLines]
    · rw [hideLines_cons selector hrest, String.intercalate_cons_of_ne_nil (hideLines_ne_nil hrest),
        ih hrest, String.intercalate_cons_of_ne_nil hrest]
      simp only [String.append_assoc]
      rfl

/-- A style sheet is made of lines of its own. -/
theorem styleSheet_eq (hidden : List String) (styles : List (String × String)) :
    styleSheet hidden styles = "\n".intercalate (hideLines hidden ++ styles.map styleLine) := by
  by_cases hnone : hidden = []
  · subst hnone
    rfl
  · have hsome : hidden.isEmpty = false := by simpa using hnone
    unfold styleSheet
    rw [hsome, if_neg Bool.false_ne_true]
    change "\n".intercalate ([",\n".intercalate hidden ++ hideAll] ++ styles.map styleLine) = _
    rw [← intercalate_hideLines hnone]
    by_cases hstyles : styles.map styleLine = []
    · rw [hstyles, List.append_nil, List.append_nil, String.intercalate_singleton]
    · rw [String.intercalate_append_of_ne_nil (List.cons_ne_nil _ _) hstyles,
        String.intercalate_append_of_ne_nil (hideLines_ne_nil hnone) hstyles,
        String.intercalate_singleton]

end CosmeticMatch

namespace PageRule

open CosmeticMatch

variable {selector css : String}

theorem ofLine_hide (h : IsSheetText selector.toList) : ofLine (selector ++ ",").toList = .hide selector := by
  have hnone : Text.cut? ['{'] (selector ++ ",").toList = none := by
    rw [Text.cut?_eq_none, String.toList_append, List.mem_append, not_or]
    exact ⟨h.noBrace, by decide⟩
  rw [ofLine, hnone]
  simp

theorem ofLine_hideAll (h : IsSheetText selector.toList) :
    ofLine (selector ++ hideAll).toList = .hide selector := by
  have hcut : Text.cut? ['{'] (selector ++ hideAll).toList =
      some (selector.toList, "display:none !important;\x7d".toList) := by
    rw [Text.cut?_eq_some, String.toList_append]
    exact ⟨h.noBrace, rfl⟩
  have hblank : Text.dropEnd? " " selector.toList = none := by
    rw [Option.eq_none_iff_forall_ne_some]
    intro start hstart
    refine h.noBlank ?_
    rw [Text.dropEnd?_eq_some.1 hstart]
    exact List.getLast?_concat
  rw [ofLine, hcut]
  dsimp only
  rw [hblank, String.ofList_toList]

theorem ofLine_style (h : IsSheetText selector.toList) :
    ofLine (styleLine (selector, css)).toList = .style selector css := by
  have hcut : Text.cut? ['{'] (styleLine (selector, css)).toList =
      some (selector.toList ++ [' '], ' ' :: (css.toList ++ [' ', '}'])) := by
    rw [Text.cut?_eq_some, List.mem_append, not_or]
    exact ⟨⟨h.noBrace, by decide⟩, by simp [styleLine]⟩
  have hblank : Text.dropEnd? " " (selector.toList ++ [' ']) = some selector.toList :=
    Text.dropEnd?_eq_some.2 rfl
  have hcss : (css.toList ++ [' ', '}']).dropLast.dropLast = css.toList := by
    simp
  rw [ofLine, hcut]
  dsimp only
  rw [hblank, List.tail_cons, hcss]
  dsimp only
  rw [String.ofList_toList, String.ofList_toList]

theorem map_ofLine_hideLines {hidden : List String} (h : ∀ selector ∈ hidden, IsSheetText selector.toList) :
    (hideLines hidden).map (fun line => ofLine line.toList) = hidden.map .hide := by
  induction hidden with
  | nil => rfl
  | cons selector rest ih =>
    obtain ⟨hselector, hrest⟩ := List.forall_mem_cons.1 h
    by_cases hnil : rest = []
    · subst hnil
      exact congrArg (fun rule => [rule]) (ofLine_hideAll hselector)
    · rw [hideLines_cons selector hnil, List.map_cons, List.map_cons, ofLine_hide hselector, ih hrest]

/-- A text that makes one line of a style sheet. -/
def IsSheetLine (line : String) : Prop := line.toList ≠ [] ∧ '\n' ∉ line.toList

theorem IsSheetLine.append {start rest : String} (h : '\n' ∉ start.toList) (hrest : IsSheetLine rest) :
    IsSheetLine (start ++ rest) := by
  rw [IsSheetLine, String.toList_append, List.mem_append, not_or]
  exact ⟨List.append_ne_nil_of_right_ne_nil _ hrest.1, h, hrest.2⟩

theorem isSheetLine_of_mem_hideLines {hidden : List String}
    (h : ∀ selector ∈ hidden, IsSheetText selector.toList) : ∀ line ∈ hideLines hidden, IsSheetLine line := by
  induction hidden with
  | nil => exact List.forall_mem_nil _
  | cons selector rest ih =>
    obtain ⟨hselector, hrest⟩ := List.forall_mem_cons.1 h
    by_cases hnil : rest = []
    · subst hnil
      rw [hideLines, List.forall_mem_singleton]
      exact .append hselector.noBreak ⟨by decide, by decide⟩
    · rw [hideLines_cons selector hnil, List.forall_mem_cons]
      exact ⟨.append hselector.noBreak ⟨by decide, by decide⟩, ih hrest⟩

/-- What was put into a style sheet is read back from it. -/
theorem ofSheet_styleSheet {hidden : List String} {styles : List (String × String)}
    (hhidden : ∀ selector ∈ hidden, IsSheetText selector.toList)
    (hstyles : ∀ rule ∈ styles, IsSheetText rule.1.toList ∧ '\n' ∉ rule.2.toList) :
    ofSheet (styleSheet hidden styles) =
      hidden.map .hide ++ styles.map fun rule => .style rule.1 rule.2 := by
  have hlines : ∀ line ∈ hideLines hidden ++ styles.map styleLine, IsSheetLine line := by
    rw [List.forall_mem_append]
    refine ⟨isSheetLine_of_mem_hideLines hhidden, fun line hline => ?_⟩
    obtain ⟨rule, hrule, rfl⟩ := List.mem_map.1 hline
    obtain ⟨hselector, hcss⟩ := hstyles rule hrule
    refine .append ?_ ⟨by decide, by decide⟩
    simp [hselector.noBreak, hcss]
  have hread : (hideLines hidden ++ styles.map styleLine).map (fun line => ofLine line.toList) =
      hidden.map .hide ++ styles.map fun rule => .style rule.1 rule.2 := by
    rw [List.map_append, map_ofLine_hideLines hhidden, List.map_map]
    refine congrArg _ (List.map_congr_left fun rule hrule => ?_)
    exact ofLine_style (hstyles rule hrule).1
  rw [← hread, styleSheet_eq]
  generalize hideLines hidden ++ styles.map styleLine = lines at hlines
  by_cases hnone : lines = []
  · subst hnone
    rfl
  have hsplit : Text.splitOn '\n' ("\n".intercalate lines).toList = lines.map String.toList := by
    rw [String.toList_intercalate]
    refine List.splitOn_intercalate '\n' (fun line hline => ?_) (by simpa using hnone)
    obtain ⟨text, htext, rfl⟩ := List.mem_map.1 hline
    exact (hlines text htext).2
  have hsome : ("\n".intercalate lines).isEmpty = false := by
    rw [Bool.eq_false_iff]
    intro hempty
    rw [String.isEmpty_iff.1 hempty] at hsplit
    obtain ⟨line, hline, hnil⟩ : ∃ line ∈ lines, line.toList = [] := by
      rw [← List.mem_map, ← hsplit]
      exact List.mem_singleton_self []
    exact (hlines line hline).1 hnil
  rw [ofSheet, hsome, if_neg Bool.false_ne_true, hsplit, List.map_map]
  rfl

end PageRule

end ContentFilter
