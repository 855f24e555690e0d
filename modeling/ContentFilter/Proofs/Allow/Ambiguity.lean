import ContentFilter.Proofs.Allow.Negation

/-! Lines that the reader of lists and the compiler of exceptions cut in two ways, and what becomes of their
exceptions. -/

namespace ContentFilter

namespace NetworkFilter

variable {line pattern : List Char} {options others : Option (List Char)}

/-- A line is cut at the end of a regular expression just if one ends behind its first place. -/
theorem exists_cutRegex?_iff :
    (∃ before after, cutRegex? line = some (before, after)) ↔ EndsRegex line.tail := by
  constructor
  · rintro ⟨before, after, h⟩
    obtain ⟨rfl, -, hbefore⟩ := cutRegex?_eq_some.1 h
    exact ⟨before.tail, after, by rw [List.tail_append_of_ne_nil hbefore]; simp⟩
  · intro h
    obtain ⟨c, rest, rfl⟩ : ∃ c rest, line = c :: rest :=
      List.exists_cons_of_ne_nil fun hnil => by simp [EndsRegex, hnil] at h
    cases hlast : Text.cutLast? ['/', '$'] rest with
    | none => exact absurd h (Text.cutLast?_eq_none.1 hlast)
    | some found =>
      obtain ⟨before, after⟩ := found
      obtain ⟨rfl, hafter⟩ := (Text.cutLast?_eq_some (by decide)).1 hlast
      exact ⟨c :: before, after, cutRegex?_eq_some.2 ⟨rfl, hafter, List.cons_ne_nil c before⟩⟩

theorem withOptions_right_inj : withOptions pattern options = withOptions pattern others ↔
    options = others := by
  refine ⟨fun h => ?_, congrArg _⟩
  cases options <;> cases others <;> simp_all [withOptions]

/-- The line stands between two slashes, and a regular expression also ends inside it. -/
def IsAmbiguous (line : List Char) : Prop := IsSlashed line ∧ EndsRegex line.tail

instance : Decidable (IsAmbiguous line) :=
  inferInstanceAs (Decidable ((_ ∧ _ ∧ _) ∧ _ <:+: _))

end NetworkFilter

namespace Exceptions

open NetworkFilter FilterOptions

variable {line before after : List Char} {scope : Option (List String)}

/-- An ambiguous line is an expression to the reader of lists, and for an exception it is cut where the last
one ends inside it. -/
theorem splitOptions_of_isAmbiguous (h : IsAmbiguous line) : ∃ before after,
    line = before ++ '/' :: '$' :: after ∧ before ≠ [] ∧ ¬ EndsRegex after ∧
    splitOptions line = (before ++ ['/'], some after) ∧
    NetworkFilter.splitOptions line = (line, none) := by
  obtain ⟨⟨hhead, hlast, hlength⟩, hends⟩ := h
  obtain ⟨before, after, hregex⟩ := exists_cutRegex?_iff.2 hends
  obtain ⟨hline, hafter, hbefore⟩ := cutRegex?_eq_some.1 hregex
  refine ⟨before, after, hline, hbefore, hafter, ?_, ?_⟩
  · rw [splitOptions_eq, if_pos hhead, hregex]
  · rw [NetworkFilter.splitOptions_eq, if_pos ⟨hhead, hlength⟩, if_pos hlast]

theorem splitOptions_eq_iff :
    splitOptions line = NetworkFilter.splitOptions line ↔ ¬ IsAmbiguous line := by
  constructor
  · intro hsame h
    obtain ⟨before, after, -, -, -, hcut, hwhole⟩ := splitOptions_of_isAmbiguous h
    rw [hcut, hwhole] at hsame
    cases hsame
  · intro h
    by_contra hcut
    obtain ⟨hslashed, before, after, hregex, -⟩ := cut_of_splitOptions_ne hcut
    exact h ⟨hslashed, exists_cutRegex?_iff.1 ⟨before, after, hregex⟩⟩

/-- The pattern with the options that an exception takes over, and its own limit to pages. -/
def edited (parts : List Char × Option (List Char)) (scope : Option (List String)) : List Char :=
  withOptions parts.1 (join (others (pieces parts.2) ++ limits (pagesOf scope)))

/-- An exception takes all of the options over, in the words of the line. -/
def KeepsOptions (options : Option (List Char)) : Prop := others (pieces options) = pieces options

theorem join_others_eq_some_iff :
    join (others (pieces (some after))) = some after ↔ KeepsOptions (some after) := by
  constructor
  · intro h
    have hkept : pieces (join (others (pieces (some after)) ++ limits [])) =
        others (pieces (some after)) ++ limits [] := pieces_join_others (List.forall_mem_nil _) (some after)
    rw [limits, List.isEmpty_nil, if_pos rfl, List.append_nil, h] at hkept
    exact hkept.symm
  · intro h
    rw [KeepsOptions] at h
    have hne : Text.splitOn ',' after ≠ [] := List.splitOn_ne_nil ',' after
    rw [h, pieces, join_of_ne_nil hne, Text.intercalate_splitOn]

/-- A limit to pages stands behind a comma or alone, and never behind a dollar sign. -/
theorem join_limitTo_ne (texts : List (List Char)) (pages : List (List Char)) :
    join (texts ++ [limitTo pages]) ≠ some (after ++ '$' :: limitTo pages) := by
  intro h
  obtain ⟨-, htext⟩ := join_eq_some h
  rcases eq_or_ne texts [] with rfl | hne
  · have hlength := congrArg List.length htext
    simp at hlength
    omega
  · rw [Text.intercalate_concat hne] at htext
    have hlast : '$' :: limitTo pages = ',' :: limitTo pages := (List.append_inj' htext rfl).2
    exact absurd (List.head_eq_of_cons_eq hlast) (by decide)

/-- The exception to an ambiguous line is what it would be for the whole expression just where it applies to
all pages and the supposed options come out as they are. -/
theorem edited_eq_iff (h : IsAmbiguous line) :
    edited (splitOptions line) scope = edited (NetworkFilter.splitOptions line) scope ↔
    pagesOf scope = [] ∧ KeepsOptions (splitOptions line).2 := by
  obtain ⟨before, after, hline, -, -, hcut, hwhole⟩ := splitOptions_of_isAmbiguous h
  have hparts : line = withOptions (before ++ ['/']) (some after) := by simp [hline, withOptions]
  rw [hcut, hwhole, edited, edited]
  dsimp only
  by_cases hpages : pagesOf scope = []
  · have hrest : withOptions line (join (others (pieces none) ++ limits [])) = line := rfl
    rw [hpages, hrest, limits, List.isEmpty_nil, if_pos rfl, List.append_nil, hparts,
      withOptions_right_inj, join_others_eq_some_iff]
    simp
  · have hlimits : limits (pagesOf scope) = [limitTo (pagesOf scope)] := if_neg (by simpa using hpages)
    have hjoin : join (others (pieces none) ++ [limitTo (pagesOf scope)]) =
        some (limitTo (pagesOf scope)) := congrArg some (List.intercalate_singleton ..)
    have hrest : withOptions line (some (limitTo (pagesOf scope))) =
        withOptions (before ++ ['/']) (some (after ++ '$' :: limitTo (pagesOf scope))) := by
      simp [hparts, withOptions]
    rw [hlimits, hjoin, hrest, withOptions_right_inj]
    simp [join_limitTo_ne, hpages]

/-- The two readings of a line differ just where it is ambiguous. The exception is then made from another
filter than the line is, unless it is for all pages and keeps what it takes for options. -/
theorem cuts_agree_iff (line : List Char) :
    (splitOptions line = NetworkFilter.splitOptions line ↔ ¬ IsAmbiguous line) ∧
    (IsAmbiguous line → ∃ before after, line = before ++ '/' :: '$' :: after ∧ before ≠ [] ∧
      ¬ EndsRegex after ∧ splitOptions line = (before ++ ['/'], some after) ∧
      NetworkFilter.splitOptions line = (line, none)) ∧
    ∀ text scope, Text.trim text.toList = line → Text.dropStart? "@@" line = none →
      ((negate text scope).toList = '@' :: '@' :: edited (NetworkFilter.splitOptions line) scope ↔
        (IsAmbiguous line → pagesOf scope = [] ∧ KeepsOptions (splitOptions line).2)) := by
  refine ⟨splitOptions_eq_iff, splitOptions_of_isAmbiguous, fun text scope htext hats => ?_⟩
  subst htext
  have hnegate : (negate text scope).toList =
      '@' :: '@' :: edited (splitOptions (Text.trim text.toList)) scope := toList_negate hats scope
  rw [hnegate, List.cons_inj_right, List.cons_inj_right]
  by_cases hambiguous : IsAmbiguous (Text.trim text.toList)
  · rw [edited_eq_iff hambiguous]
    simp [hambiguous]
  · rw [splitOptions_eq_iff.2 hambiguous]
    simp [hambiguous]

theorem cuts_agree_iff_twice :
    (¬ IsAmbiguous "||t.com^$script,domain=x.com".toList ∧
      (negate "||t.com^$script,domain=x.com" (some ["a.com"])).toList = '@' :: '@' ::
        edited (NetworkFilter.splitOptions "||t.com^$script,domain=x.com".toList) (some ["a.com"])) ∧
    IsAmbiguous "/a/$b/".toList ∧ ∃ before after, "/a/$b/".toList = before ++ '/' :: '$' :: after ∧
      before ≠ [] ∧ ¬ EndsRegex after ∧ splitOptions "/a/$b/".toList = (before ++ ['/'], some after) ∧
      NetworkFilter.splitOptions "/a/$b/".toList = ("/a/$b/".toList, none) := by
  have hplain : ¬ IsAmbiguous "||t.com^$script,domain=x.com".toList := by decide
  have hambiguous : IsAmbiguous "/a/$b/".toList := by decide
  obtain ⟨-, -, hnegate⟩ := cuts_agree_iff "||t.com^$script,domain=x.com".toList
  obtain ⟨-, hcuts, -⟩ := cuts_agree_iff "/a/$b/".toList
  exact ⟨⟨hplain, (hnegate _ _ (by decide) (by decide)).2 fun h => absurd h hplain⟩,
    hambiguous, hcuts hambiguous⟩

/-- What ends an expression that is a whole line starts options in its exception, of which `/` is none. -/
theorem cuts_differ :
    Text.dropStart? "@@" "/ads/$/".toList = none ∧
    splitOptions "/ads/$/".toList = ("/ads/".toList, some ['/']) ∧
    NetworkFilter.splitOptions "/ads/$/".toList = ("/ads/$/".toList, none) ∧
    (ruleOf? "/ads/$/").isSome = true ∧
    negate "/ads/$/" (some ["a.com"]) = "@@/ads/$/,domain=a.com" ∧
    NetworkFilter.parse (negate "/ads/$/" (some ["a.com"])) = .error (.unsupportedOption "/") := by
  refine ⟨by decide, by decide, by decide, by decide +kernel, by decide, by decide +kernel⟩

end Exceptions

end ContentFilter
