import ContentFilter.Allow.Exceptions
import ContentFilter.Proofs.Text.Basic

/-! Where the options of a line begin. A pattern that a line was cut into keeps its place before other
options. -/

namespace ContentFilter

namespace NetworkFilter

/-- The text stands between two slashes. -/
def IsSlashed (s : List Char) : Prop := s.head? = some '/' ∧ s.getLast? = some '/' ∧ 1 < s.length

/-- A regular expression ends in the text, and options follow it. -/
def EndsRegex (s : List Char) : Prop := ['/', '$'] <:+: s

/-- A dollar sign after the pattern starts options. -/
def TakesOptions (pattern : List Char) : Prop := '$' ∉ pattern ∨ IsSlashed pattern

/-- A pattern with the text of its options. -/
def withOptions (pattern : List Char) : Option (List Char) → List Char
  | none => pattern
  | some options => pattern ++ '$' :: options

/-- A line in two parts, of which the first takes options. -/
structure Parts (line pattern : List Char) (options : Option (List Char)) : Prop where
  joined : line = withOptions pattern options
  takes : TakesOptions pattern
  rest : pattern.head? = some '/' → ∀ text, options = some text → ¬ EndsRegex text

/-- The two sides of the first dollar sign. -/
def cutDollar (line : List Char) : List Char × Option (List Char) :=
  match Text.cut? ['$'] line with
  | some (pattern, options) => (pattern, some options)
  | none => (line, none)

/-- The two sides of the last place where a regular expression can end. -/
def cutRegex? (line : List Char) : Option (List Char × List Char) :=
  (Text.cutLast? ['/', '$'] line).filter fun (before, _) => !before.isEmpty

variable {line pattern before after : List Char} {options : Option (List Char)}

theorem cutRegex?_eq_some : cutRegex? line = some (before, after) ↔
    line = before ++ '/' :: '$' :: after ∧ ¬ EndsRegex after ∧ before ≠ [] := by
  have hne : ('/' : Char) ≠ '$' := by decide
  rw [cutRegex?, Option.filter_eq_some_iff, Text.cutLast?_eq_some hne, and_assoc]
  simp [EndsRegex]

theorem splitOptions_eq (line : List Char) : splitOptions line =
    if line.head? = some '/' ∧ 1 < line.length then
      if line.getLast? = some '/' then (line, none)
      else match cutRegex? line with
        | some (before, after) => (before ++ ['/'], some after)
        | none => cutDollar line
    else cutDollar line := by
  unfold splitOptions cutRegex?
  cases Text.cutLast? ['/', '$'] line with
  | none => simp; rfl
  | some found =>
    obtain ⟨before, after⟩ := found
    cases before <;> simp [Option.filter] <;> rfl

theorem cutDollar_of_not_mem (h : '$' ∉ line) : cutDollar line = (line, none) := by
  rw [cutDollar, Text.cut?_eq_none.2 h]

theorem cutDollar_append {text : List Char} (h : '$' ∉ pattern) :
    cutDollar (pattern ++ '$' :: text) = (pattern, some text) := by
  rw [cutDollar, Text.cut?_eq_some.2 ⟨h, rfl⟩]

theorem IsSlashed.split (h : IsSlashed line) : ∃ before, before ≠ [] ∧ line = before ++ ['/'] := by
  obtain ⟨-, hlast, hlength⟩ := h
  obtain ⟨before, rfl⟩ := List.getLast?_eq_some_iff.1 hlast
  refine ⟨before, ?_, rfl⟩
  rintro rfl
  simp at hlength

theorem isSlashed_append (hne : before ≠ []) (hhead : before.head? = some '/') :
    IsSlashed (before ++ ['/']) := by
  refine ⟨by simp [hhead], by simp, ?_⟩
  rw [List.length_append, List.length_singleton]
  have := List.length_pos_iff.2 hne
  omega

theorem parts_whole (h : TakesOptions line) : Parts line line none := ⟨rfl, h, fun _ _ => nofun⟩

theorem parts_cutRegex (h : cutRegex? line = some (before, after)) (hhead : line.head? = some '/') :
    Parts line (before ++ ['/']) (some after) := by
  obtain ⟨rfl, hafter, hne⟩ := cutRegex?_eq_some.1 h
  refine ⟨by simp [withOptions], .inr (isSlashed_append hne ?_), fun _ text htext => ?_⟩
  · rwa [List.head?_append_of_ne_nil _ hne] at hhead
  · cases htext
    exact hafter

theorem parts_cutDollar (h : line.head? = some '/' → 1 < line.length → cutRegex? line = none) :
    Parts line (cutDollar line).1 (cutDollar line).2 := by
  by_cases hmem : '$' ∈ line
  · obtain ⟨pattern, text, rfl, hpattern⟩ := List.eq_append_cons_of_mem hmem
    rw [cutDollar_append hpattern]
    refine ⟨rfl, .inl hpattern, fun hhead text' htext hends => ?_⟩
    cases htext
    obtain ⟨front, rfl⟩ := List.head?_eq_some_iff.1 hhead
    -- an expression that ends in the options would have been cut off there
    cases hlast : Text.cutLast? ['/', '$'] text with
    | none => exact Text.cutLast?_eq_none.1 hlast hends
    | some found =>
      obtain ⟨before, after⟩ := found
      obtain ⟨rfl, hafter⟩ := (Text.cutLast?_eq_some (by decide)).1 hlast
      have hfound : cutRegex? ('/' :: front ++ '$' :: (before ++ '/' :: '$' :: after)) =
          some ('/' :: front ++ '$' :: before, after) :=
        cutRegex?_eq_some.2 ⟨by simp, hafter, by simp⟩
      rw [h (by simp) (by simp only [List.length_append, List.length_cons]; omega)] at hfound
      cases hfound
  · rw [cutDollar_of_not_mem hmem]
    exact parts_whole (.inl hmem)

theorem parts_splitOptions (line : List Char) :
    Parts line (splitOptions line).1 (splitOptions line).2 := by
  rw [splitOptions_eq]
  split
  · next hhead =>
    split
    · next hlast => exact parts_whole (.inr ⟨hhead.1, hlast, hhead.2⟩)
    split
    · next before after hregex => exact parts_cutRegex hregex hhead.1
    · next hregex => exact parts_cutDollar fun _ _ => hregex
  · next hhead => exact parts_cutDollar fun hslash hlength => absurd ⟨hslash, hlength⟩ hhead

/-- In a pattern that stands not between slashes no regular expression ends. -/
theorem cutRegex?_append_of_not_mem {text : List Char} (hdollar : '$' ∉ pattern)
    (hslashed : ¬ IsSlashed pattern) (hhead : pattern.head? = some '/') (hends : ¬ EndsRegex text) :
    cutRegex? (pattern ++ '$' :: text) = none := by
  cases hregex : cutRegex? (pattern ++ '$' :: text) with
  | none => rfl
  | some found =>
    obtain ⟨before, after⟩ := found
    obtain ⟨hjoined, -, hbefore⟩ := cutRegex?_eq_some.1 hregex
    rcases List.append_eq_append_iff.1 hjoined with ⟨middle, -, hmiddle⟩ | ⟨middle, rfl, hmiddle⟩
    · cases middle with
      | nil => cases hmiddle
      | cons c middle => exact absurd ⟨middle, after, by simp [(List.cons.inj hmiddle).2]⟩ hends
    · cases middle with
      | nil => cases hmiddle
      | cons c middle =>
        obtain ⟨rfl, htail⟩ := List.cons.inj hmiddle
        cases middle with
        | nil =>
          rw [List.head?_append_of_ne_nil _ hbefore] at hhead
          exact absurd (isSlashed_append hbefore hhead) hslashed
        | cons d middle =>
          obtain ⟨rfl, -⟩ := List.cons.inj htail
          simp at hdollar

/-- A pattern keeps its place before other options, if those do not look like a part of it. -/
theorem splitOptions_withOptions (htakes : TakesOptions pattern)
    (hrest : pattern.head? = some '/' → ∀ text, options = some text →
      ¬ EndsRegex text ∧ text.getLast? ≠ some '/') :
    splitOptions (withOptions pattern options) = (pattern, options) := by
  rw [splitOptions_eq]
  cases options with
  | none =>
    rw [withOptions]
    by_cases hslashed : IsSlashed pattern
    · rw [if_pos ⟨hslashed.1, hslashed.2.2⟩, if_pos hslashed.2.1]
    · have hdollar := htakes.resolve_right hslashed
      have hregex : cutRegex? pattern = none := by
        rw [cutRegex?, Text.cutLast?_eq_none.2 fun hends => hdollar (hends.subset (by simp))]
        rfl
      rw [hregex, cutDollar_of_not_mem hdollar]
      grind
  | some text =>
    rw [withOptions]
    by_cases hhead : pattern.head? = some '/'
    · obtain ⟨hends, hlast⟩ := hrest hhead text rfl
      obtain ⟨front, rfl⟩ := List.head?_eq_some_iff.1 hhead
      have hopen : ('/' :: front ++ '$' :: text).getLast? ≠ some '/' := by
        rw [List.getLast?_append_of_ne_nil _ (by simp)]
        cases text with
        | nil => simp
        | cons c text => rwa [List.getLast?_cons_cons]
      rw [if_pos ⟨by simp, by simp only [List.length_append, List.length_cons]; omega⟩, if_neg hopen]
      by_cases hslashed : IsSlashed ('/' :: front)
      · obtain ⟨before, hbefore, heq⟩ := hslashed.split
        have hregex : cutRegex? (before ++ ['/'] ++ '$' :: text) = some (before, text) :=
          cutRegex?_eq_some.2 ⟨by simp, hends, hbefore⟩
        rw [heq, hregex]
      · have hdollar := htakes.resolve_right hslashed
        rw [cutRegex?_append_of_not_mem hdollar hslashed hhead hends]
        exact cutDollar_append hdollar
    · have hdollar := htakes.resolve_right fun hslashed => hhead hslashed.1
      have hplain : ¬ ((pattern ++ '$' :: text).head? = some '/' ∧
          1 < (pattern ++ '$' :: text).length) := by
        rintro ⟨hslash, -⟩
        cases pattern with
        | nil => simp at hslash
        | cons c pattern => exact hhead hslash
      rw [if_neg hplain, cutDollar_append hdollar]

/-- A line without a dollar sign has no options. -/
theorem splitOptions_of_not_mem (h : '$' ∉ line) : splitOptions line = (line, none) := by
  have hwhole : splitOptions (withOptions line none) = (line, none) :=
    splitOptions_withOptions (.inl h) fun _ _ => nofun
  rwa [withOptions] at hwhole

end NetworkFilter

namespace Exceptions

open NetworkFilter

theorem splitOptions_eq (line : List Char) : splitOptions line =
    if line.head? = some '/' then
      match cutRegex? line with
      | some (before, after) => (before ++ ['/'], some after)
      | none => if line.getLast? = some '/' then (line, none) else cutDollar line
    else cutDollar line := by
  unfold splitOptions cutRegex?
  cases Text.cutLast? ['/', '$'] line with
  | none => simp; rfl
  | some found =>
    obtain ⟨before, after⟩ := found
    cases before <;> simp [Option.filter] <;> rfl

theorem parts_splitOptions (line : List Char) :
    Parts line (splitOptions line).1 (splitOptions line).2 := by
  rw [splitOptions_eq]
  split
  · next hhead =>
    split
    · next before after hregex => exact parts_cutRegex hregex hhead
    · next hregex =>
      split
      · next hlast =>
        refine parts_whole (Classical.or_iff_not_imp_right.2 fun hslashed => ?_)
        obtain ⟨rest, rfl⟩ := List.head?_eq_some_iff.1 hhead
        cases rest with
        | nil => decide
        | cons c rest => exact absurd ⟨hhead, hlast, by simp⟩ hslashed
      · exact parts_cutDollar fun _ _ => hregex
  · next hhead => exact parts_cutDollar fun hslash => absurd hslash hhead

/-- Where the two readings of a line differ, the line stands between slashes and would be cut inside. -/
theorem cut_of_splitOptions_ne (h : splitOptions line ≠ NetworkFilter.splitOptions line) :
    IsSlashed line ∧ ∃ before after, cutRegex? line = some (before, after) ∧
      splitOptions line = (before ++ ['/'], some after) ∧
      NetworkFilter.splitOptions line = (line, none) := by
  by_cases hhead : line.head? = some '/'
  · cases hregex : cutRegex? line with
    | none =>
      have hshort : ¬ 1 < line.length → cutDollar line = (line, none) := by
        intro hlength
        apply cutDollar_of_not_mem
        obtain ⟨rest, rfl⟩ := List.head?_eq_some_iff.1 hhead
        cases rest with
        | nil => decide
        | cons c rest => simp at hlength
      rw [splitOptions_eq, NetworkFilter.splitOptions_eq, hregex] at h
      grind
    | some found =>
      have hparser := NetworkFilter.splitOptions_eq line
      rw [splitOptions_eq, if_pos hhead, hregex] at h ⊢
      rw [hregex] at hparser
      obtain ⟨hjoined, -, hbefore⟩ := cutRegex?_eq_some.1 hregex
      have hlength : 1 < line.length := by
        rw [hjoined]
        simp
        omega
      rw [if_pos ⟨hhead, hlength⟩] at hparser
      by_cases hlast : line.getLast? = some '/'
      · rw [if_pos hlast] at hparser
        exact ⟨⟨hhead, hlast, hlength⟩, found.1, found.2, rfl, rfl, hparser⟩
      · rw [if_neg hlast] at hparser
        exact absurd hparser.symm h
  · rw [splitOptions_eq, NetworkFilter.splitOptions_eq, if_neg hhead,
      if_neg fun h => hhead h.1] at h
    exact absurd rfl h

end Exceptions

end ContentFilter
