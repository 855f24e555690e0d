import ContentFilter.Proofs.Data.BitNames
import ContentFilter.Proofs.Filter.Reading
import ContentFilter.Proofs.Rule.Convert

/-! A user's exception to a filter reads as the same filter with another action, for other pages. -/

namespace ContentFilter

namespace Text

theorem trim_ats {rest : List Char} (h : ∀ c, rest.head? = some c → isBlank c = false) :
    trim ('@' :: '@' :: rest) = '@' :: '@' :: trim rest := by
  have hstart : trimStart ('@' :: '@' :: rest) = ['@', '@'] ++ rest := trimStart_eq_self (by simp; decide)
  rw [trim, hstart, trim, trimStart_eq_self h, trimEnd, dropEndWhile_append]
  split
  · next hblank =>
    have hnone : dropEndWhile isBlank rest = [] := by
      rw [dropEndWhile_eq_rdropWhile, List.rdropWhile_eq_nil_iff]
      simpa using hblank
    rw [trimEnd, hnone]
    decide
  · rfl

end Text

namespace NetworkFilter

variable {line rest : List Char} {text : String}

theorem actionAndLine_of_block (h : (actionAndLine line).1 = .block) :
    Text.dropStart? "@@" line = none ∧ (actionAndLine line).2 = line := by
  unfold actionAndLine at h ⊢
  split at h
  · cases h
  · next hline =>
    refine ⟨?_, rfl⟩
    cases hats : Text.dropStart? "@@" line with
    | none => rfl
    | some rest => exact absurd (Text.eq_append_of_isPrefixOf? hats) (hline rest)

theorem IsSlashed.trim_eq (h : IsSlashed line) : Text.trim line = line := by
  have hslash : Text.isBlank '/' = false := by decide
  refine Text.trim_of_ends (fun c hc => ?_) fun c hc => ?_
  · rw [h.1] at hc
    rwa [← Option.some.inj hc]
  · rw [h.2.1] at hc
    rwa [← Option.some.inj hc]

theorem TakesOptions.trim (h : TakesOptions line) : TakesOptions (Text.trim line) := by
  rcases h with hdollar | hslashed
  · exact .inl fun hmem => hdollar ((Text.trim_infix line).subset hmem)
  · rw [hslashed.trim_eq]
    exact .inr hslashed

theorem parse_ats (htext : text.toList = '@' :: '@' :: rest)
    (hhead : ∀ c, rest.head? = some c → Text.isBlank c = false) :
    parse text = ofLine ('@' :: '@' :: Text.trim rest) .allow (Text.trim rest) := by
  have hstart : Text.trimStart (Text.trim rest) = Text.trim rest :=
    Text.trimStart_eq_self fun c hc => Text.not_blank_of_head?_trim hc
  rw [parse, htext, parseChars_eq, Text.trim_ats hhead, actionAndLine, hstart]
  rfl

end NetworkFilter

namespace Exceptions

open NetworkFilter FilterOptions

/-- The pages of a scope. -/
def pagesOf (scope : Option (List String)) : List (List Char) := (scope.getD []).map String.toList

/-- The options of a line that an exception takes over, and its own limit to pages. -/
def negatedOptions (line : List Char) (scope : Option (List String)) : Option (List Char) :=
  join (others (pieces (Exceptions.splitOptions line).2) ++ limits (pagesOf scope))

/-- An exception without its at signs. -/
def negatedLine (line : List Char) (scope : Option (List String)) : List Char :=
  withOptions (Exceptions.splitOptions line).1 (negatedOptions line scope)

variable {text : String} {scope : Option (List String)}

theorem toList_ats (pattern : List Char) (options : List String) :
    (if options.isEmpty then "@@" ++ String.ofList pattern
      else "@@" ++ String.ofList pattern ++ "$" ++ ",".intercalate options).toList =
    '@' :: '@' :: withOptions pattern (join (options.map String.toList)) := by
  cases options with
  | nil => simp [join, withOptions]
  | cons option options =>
    rw [if_neg (by simp)]
    simp [join, withOptions, String.toList_intercalate]

theorem toList_limits (scope : Option (List String)) :
    (match scope with
      | some hosts => if hosts.isEmpty then [] else ["domain=" ++ "|".intercalate hosts]
      | none => []).map String.toList = limits (pagesOf scope) := by
  unfold limits pagesOf
  cases scope with
  | none => rfl
  | some hosts =>
    cases hosts with
    | nil => rfl
    | cons host hosts =>
      have hbar : "|".toList = ['|'] := by decide
      change [("domain=" ++ "|".intercalate (host :: hosts)).toList] = [limitTo _]
      rw [String.toList_append, String.toList_intercalate, hbar]
      rfl

theorem toList_negate (hats : Text.dropStart? "@@" (Text.trim text.toList) = none)
    (scope : Option (List String)) :
    (negate text scope).toList = '@' :: '@' :: negatedLine (Text.trim text.toList) scope := by
  dsimp only [negate]
  rw [hats]
  refine (toList_ats _ _).trans ?_
  have hsame : String.toList ∘ String.ofList = id := funext fun _ => String.toList_ofList
  rw [List.map_append, List.map_map, hsame, List.map_id]
  refine congrArg (fun options => '@' :: '@' :: withOptions _ (join options))
    (congrArg₂ (· ++ ·) ?_ (toList_limits scope))
  rw [Option.getD_none]
  cases (Exceptions.splitOptions (Text.trim text.toList)).2 with
  | none => rfl
  | some options => rfl

variable {line : List Char} {options : FilterOptions}

theorem head?_negatedLine (htrim : Text.trim line = line) {c : Char}
    (h : (negatedLine line scope).head? = some c) : Text.isBlank c = false := by
  have hparts := Exceptions.parts_splitOptions line
  unfold negatedLine at h
  cases hpattern : (Exceptions.splitOptions line).1 with
  | nil =>
    rw [hpattern] at h
    cases hoptions : negatedOptions line scope with
    | none =>
      rw [hoptions] at h
      cases h
    | some text =>
      rw [hoptions] at h
      cases h
      decide
  | cons d pattern =>
    have hline : line.head? = some d := by
      rw [hparts.joined, hpattern]
      cases (Exceptions.splitOptions line).2 <;> rfl
    rw [hpattern] at h
    have hcd : c = d := by
      cases hoptions : negatedOptions line scope <;> rw [hoptions] at h <;> exact (Option.some.inj h).symm
    rw [hcd]
    rw [← htrim] at hline
    exact Text.not_blank_of_head?_trim hline

theorem trim_negatedLine (htrim : Text.trim line = line)
    (hpages : ∀ page ∈ pagesOf scope, Domain.IsHostname page)
    (hne : negatedOptions line scope ≠ none) :
    Text.trim (negatedLine line scope) = negatedLine line scope := by
  refine Text.trim_of_ends (fun _ => head?_negatedLine htrim) fun c hc => ?_
  cases hoptions : negatedOptions line scope with
  | none => exact absurd hoptions hne
  | some text =>
    obtain ⟨last, hlast, hblank⟩ := last_join hpages hoptions
    have hend : negatedLine line scope = ((Exceptions.splitOptions line).1 ++ ['$']) ++ text := by
      rw [negatedLine, hoptions]
      simp [withOptions]
    rw [hend, List.getLast?_append, hlast] at hc
    rwa [← Option.some.inj hc]

/-- The pattern of a negated line, as the reader of lists cuts it off. -/
theorem splitOptions_negatedLine (htrim : Text.trim line = line)
    (hpages : ∀ page ∈ pagesOf scope, Domain.IsHostname page)
    (hparse : ofPieces (pieces (Exceptions.splitOptions line).2) = .ok options)
    (hslash : ¬ options.TakesSlash) : ∃ pattern,
      NetworkFilter.splitOptions (Text.trim (negatedLine line scope)) =
        (pattern, negatedOptions line scope) ∧
      Text.trim pattern = Text.trim (Exceptions.splitOptions line).1 := by
  have hparts := Exceptions.parts_splitOptions line
  cases hoptions : negatedOptions line scope with
  | none =>
    refine ⟨Text.trim (Exceptions.splitOptions line).1, ?_, Text.trim_trim _⟩
    have htext : Text.trim (negatedLine line scope) =
        withOptions (Text.trim (Exceptions.splitOptions line).1) none := by
      rw [negatedLine, hoptions]
      rfl
    rw [htext]
    exact splitOptions_withOptions hparts.takes.trim fun _ _ => nofun
  | some text =>
    refine ⟨(Exceptions.splitOptions line).1, ?_, rfl⟩
    rw [trim_negatedLine htrim hpages (by simp [hoptions]), negatedLine, hoptions]
    refine splitOptions_withOptions hparts.takes fun hhead text' htext' => ?_
    cases htext'
    exact ⟨not_endsRegex_join hpages (hparts.rest hhead) hoptions,
      last_join_ne_slash hpages hparse hslash hoptions⟩

variable {pattern : Pattern}

/-- What the pages of a scope limit an exception to. -/
def limited (options : FilterOptions) (scope : Option (List String)) : FilterOptions :=
  { options with domains := constraint? (pagesOf scope) }

/-- Where negation cuts a line as the reader of lists does, both read the same pattern and options. -/
theorem readsAs_negatedLine (htrim : Text.trim line = line)
    (hpages : ∀ page ∈ pagesOf scope, Domain.IsHostname page) (hreads : ReadsAs line options pattern)
    (hslash : ¬ options.TakesSlash)
    (hsame : Exceptions.splitOptions line = NetworkFilter.splitOptions line) :
    ReadsAs (Text.trim (negatedLine line scope)) (limited options scope) pattern := by
  have hparse := hreads.options
  rw [← hsame] at hparse
  obtain ⟨part, hsplit, hpart⟩ := splitOptions_negatedLine htrim hpages hparse hslash
  constructor
  · rw [hsplit, negatedOptions, pieces_join_others hpages]
    exact ofPieces_limits hpages hparse
  · rw [hsplit, hpart, hsame]
    exact hreads.pattern

section Cut

variable {before after : List Char}

/-- A line between slashes that negation would cut inside is a regular expression without options. -/
theorem readsAs_slashed (hreads : ReadsAs line options pattern)
    (hcut : Exceptions.splitOptions line ≠ NetworkFilter.splitOptions line) :
    options = {} ∧ pattern = ⟨Flag.regex.set, none, String.ofList line.tail.dropLast⟩ ∧
      line = '/' :: pattern.text.toList ++ ['/'] ∧ pattern.text ≠ "" := by
  obtain ⟨hslashed, before, after, hregex, -, hwhole⟩ := cut_of_splitOptions_ne hcut
  obtain ⟨hline, -, hbefore⟩ := cutRegex?_eq_some.1 hregex
  obtain ⟨hoptions, hpattern⟩ := hreads
  rw [hwhole] at hoptions hpattern
  rw [hslashed.trim_eq] at hpattern
  have hlength : 2 < line.length := by
    rw [hline]
    have := List.length_pos_iff.2 hbefore
    simp
    omega
  have hfound := readPattern_slashed hslashed hlength hpattern
  have hregexFlag : Flag.regex.set.mem Flag.regex.index = true := by decide
  have htext := readPattern_regex hpattern (by rw [hfound]; exact hregexFlag)
  refine ⟨(Except.ok.inj hoptions).symm, hfound, htext, fun hempty => ?_⟩
  rw [htext, hempty] at hlength
  exact absurd hlength (by decide)

/-- An exception that is the same expression as a line cut inside is the whole line again. -/
theorem negatedLine_eq_of_readPattern (hpages : ∀ page ∈ pagesOf scope, Domain.IsHostname page)
    (hcut : Exceptions.splitOptions line ≠ NetworkFilter.splitOptions line)
    (hpart : Text.trim (NetworkFilter.splitOptions (Text.trim (negatedLine line scope))).1 = line) :
    negatedLine line scope = line := by
  obtain ⟨hslashed, before, after, hregex, hhalves, -⟩ := cut_of_splitOptions_ne hcut
  obtain ⟨hline, hafter, hbefore⟩ := cutRegex?_eq_some.1 hregex
  have hnegated : negatedLine line scope = withOptions (before ++ ['/']) (negatedOptions line scope) := by
    rw [negatedLine, hhalves]
  have hafter' : ∃ front, after = front ++ ['/'] := by
    have hlast := hslashed.2.1
    rw [hline, List.getLast?_append_of_ne_nil _ (List.cons_ne_nil _ _), List.getLast?_cons_cons] at hlast
    obtain ⟨front, hfront⟩ := List.getLast?_eq_some_iff.1 hlast
    cases front with
    | nil => cases hfront
    | cons c front => exact ⟨front, (List.cons.inj hfront).2⟩
  have htrim : Text.trim (negatedLine line scope) = negatedLine line scope := by
    by_cases hnone : negatedOptions line scope = none
    · rw [hnegated, hnone]
      refine (isSlashed_append hbefore ?_).trim_eq
      have hfirst := hslashed.1
      rwa [hline, List.head?_append_of_ne_nil _ hbefore] at hfirst
    · exact trim_negatedLine hslashed.trim_eq hpages hnone
  rw [htrim] at hpart
  have hparts := NetworkFilter.parts_splitOptions (negatedLine line scope)
  cases hoptions : (NetworkFilter.splitOptions (negatedLine line scope)).2 with
  | none =>
    have hjoined := hparts.joined
    rw [hoptions, withOptions] at hjoined
    rw [← htrim, hjoined, hpart]
  | some text =>
    -- a part of a line that has a dollar sign itself takes options only when it is an expression
    have hwhole : (NetworkFilter.splitOptions (negatedLine line scope)).1 = line := by
      rcases hparts.takes with hdollar | hpart'
      · refine absurd ?_ hdollar
        refine (Text.trim_infix _).subset ?_
        rw [hpart, hline]
        simp
      · rwa [hpart'.trim_eq] at hpart
    have hjoined := hparts.joined
    rw [hwhole, hoptions, hnegated] at hjoined
    obtain ⟨front, rfl⟩ := hafter'
    cases hnone : negatedOptions line scope with
    | none =>
      rw [hnone, hline] at hjoined
      have hlength := congrArg List.length hjoined
      simp [withOptions] at hlength
    | some joined =>
      rw [hnone, hline] at hjoined
      have hrest : joined = front ++ '/' :: '$' :: text := by simpa [withOptions] using hjoined
      have hends : EndsRegex joined := ⟨front, text, by simp [hrest]⟩
      rw [negatedOptions, hhalves] at hnone
      exact absurd hends (not_endsRegex_join hpages (fun _ h => Option.some.inj h ▸ hafter) hnone)

/-- A line cut inside that is whole again is no exception for some pages only. -/
theorem pagesOf_eq_nil (hpages : ∀ page ∈ pagesOf scope, Domain.IsHostname page)
    (hcut : Exceptions.splitOptions line ≠ NetworkFilter.splitOptions line)
    (hwhole : negatedLine line scope = line) : pagesOf scope = [] := by
  by_contra hne
  obtain ⟨hslashed, -, -, -, -, -⟩ := cut_of_splitOptions_ne hcut
  have hlimits : limits (pagesOf scope) = [limitTo (pagesOf scope)] := if_neg (by simpa using hne)
  cases hoptions : negatedOptions line scope with
  | none =>
    rw [negatedOptions, hlimits] at hoptions
    cases hothers : others (pieces (Exceptions.splitOptions line).2) <;>
      simp [hothers, join] at hoptions
  | some joined =>
    obtain ⟨c, hlast, -⟩ := last_join hpages hoptions
    have hend := hslashed.2.1
    rw [← hwhole, negatedLine, hoptions, withOptions,
      List.getLast?_append_of_ne_nil _ (List.cons_ne_nil _ _), List.getLast?_cons, hlast] at hend
    refine last_limits_ne_slash hpages hne hoptions ?_
    rw [hlast]
    exact hend

/-- A line cut inside that is whole again reads as before. -/
theorem readsAs_of_whole (hpages : ∀ page ∈ pagesOf scope, Domain.IsHostname page)
    (hreads : ReadsAs line options pattern)
    (hcut : Exceptions.splitOptions line ≠ NetworkFilter.splitOptions line)
    (hwhole : negatedLine line scope = line) :
    ReadsAs (Text.trim (negatedLine line scope)) (limited options scope) pattern := by
  obtain ⟨hslashed, -, -, -, -, -⟩ := cut_of_splitOptions_ne hcut
  obtain ⟨hoptions, -⟩ := readsAs_slashed hreads hcut
  have hlimited : limited options scope = options := by
    rw [limited, pagesOf_eq_nil hpages hcut hwhole, hoptions]
    rfl
  rw [hwhole, hslashed.trim_eq, hlimited]
  exact hreads

end Cut

theorem isAscii_negatedLine (hline : Domain.IsAscii line)
    (hpages : ∀ page ∈ pagesOf scope, Domain.IsHostname page) :
    Domain.IsAscii (negatedLine line scope) := by
  have hjoined := (Exceptions.parts_splitOptions line).joined
  have hpart : ∀ c ∈ (Exceptions.splitOptions line).1, c.toNat < 128 := by
    intro c hc
    apply hline
    rw [hjoined]
    cases (Exceptions.splitOptions line).2 <;> simp [withOptions, hc]
  have hrest : ∀ text, (Exceptions.splitOptions line).2 = some text → ∀ c ∈ text, c.toNat < 128 := by
    intro text htext c hc
    apply hline
    rw [hjoined, htext]
    simp [withOptions, hc]
  have hoption : ∀ option ∈ others (pieces (Exceptions.splitOptions line).2) ++ limits (pagesOf scope),
      ∀ c ∈ option, c.toNat < 128 := by
    intro option hmem c hc
    rcases List.mem_append.1 hmem with hmem | hmem
    · obtain ⟨text, htext, hpart⟩ := infix_of_mem_others hmem
      exact hrest text htext c (hpart.subset hc)
    · rw [mem_limits hmem] at hc
      rcases mem_limitTo hpages hc with hc | rfl | rfl
      · exact (isHostChar_plain hc).1
      · decide
      · decide
  intro c hc
  cases hoptions : negatedOptions line scope with
  | none =>
    rw [negatedLine, hoptions] at hc
    exact hpart c hc
  | some text =>
    rw [negatedLine, hoptions, withOptions] at hc
    rcases List.mem_append.1 hc with hc | hc
    · exact hpart c hc
    rcases List.mem_cons.1 hc with rfl | hc
    · decide
    obtain ⟨-, rfl⟩ := join_eq_some hoptions
    by_cases hcomma : c = ','
    · rw [hcomma]
      decide
    · obtain ⟨option, hmem, hc⟩ := Text.mem_of_mem_intercalate hcomma hc
      exact hoption option hmem c hc

end Exceptions

end ContentFilter
