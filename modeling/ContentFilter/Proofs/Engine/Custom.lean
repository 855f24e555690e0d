import ContentFilter.Engine.MainEngine
import ContentFilter.Proofs.Filter.Cosmetic
import ContentFilter.Proofs.Matching.CosmeticIndex
import ContentFilter.Proofs.Matching.FilterList
import ContentFilter.Proofs.Text.Basic

/-! What a text of the user is compiled to. Without trust it answers no page with a scriptlet that only
trusted text may run. -/

namespace ContentFilter

namespace CustomFilters

open Text

/-- What the name of a restricted scriptlet is without blanks and ending. -/
def IsRestrictedBase (base : List Char) : Prop :=
  "trusted-".toList <+: base ∨ base = "replace-node-text".toList ∨ base = "rpnt".toList

theorem isRestricted_iff (name : String) : isRestricted name = true ↔
    IsRestrictedBase ((dropEnd? ".js" (trim name.toList)).getD (trim name.toList)) := by
  simp [isRestricted, IsRestrictedBase, startsWith, or_assoc]

/-- A restricted name stays so when an ending is taken off once more. -/
theorem IsRestrictedBase.dropEnd {base rest : List Char} (h : IsRestrictedBase base)
    (hend : base = rest ++ ".js".toList) : IsRestrictedBase rest := by
  subst hend
  rcases h with ⟨tail, htail⟩ | h | h
  · rcases List.append_eq_append_iff.1 htail with ⟨more, rfl, -⟩ | ⟨more, hstart, hend⟩
    · exact .inl (List.prefix_append _ more)
    · -- the ending does not reach into the start, whose last character it has not
      rcases List.eq_nil_or_concat more with rfl | ⟨before, c, rfl⟩
      · rw [List.append_nil] at hstart
        exact .inl (hstart ▸ List.prefix_rfl)
      · have hmark : c = '-' := by
          have hlast := congrArg List.getLast? hstart
          simpa [← List.append_assoc] using hlast.symm
        have hmem : c ∈ ".js".toList := by simp [hend]
        rw [hmark] at hmem
        exact absurd hmem (by decide)
  · have hlast := congrArg List.getLast? h
    simp at hlast
  · have hlast := congrArg List.getLast? h
    simp at hlast

theorem trim_append_ending (s : List Char) :
    trim (s ++ ".js".toList) = trimStart s ++ ".js".toList := by
  have hstart : trimStart (s ++ ".js".toList) = trimStart s ++ ".js".toList := by
    rw [trimStart, List.dropWhile_append]
    split
    · next hnil =>
      rw [List.isEmpty_iff] at hnil
      rw [trimStart, hnil]
      decide
    · rfl
  have hnot : (".js".toList.all isBlank) = false := by decide
  have hend : dropEndWhile isBlank ".js".toList = ".js".toList := by decide
  rw [trim, hstart, trimEnd, dropEndWhile_append, hnot, if_neg Bool.false_ne_true, hend]

/-- No blank ends the start of a restricted name. -/
theorem IsRestrictedBase.trimEnd {base : List Char} (h : IsRestrictedBase base) :
    IsRestrictedBase (trimEnd base) := by
  rcases h with ⟨tail, rfl⟩ | rfl | rfl
  · refine .inl ?_
    rw [Text.trimEnd, dropEndWhile_append]
    split
    · decide
    · exact List.prefix_append _ _
  · exact .inr (.inl (by decide))
  · exact .inr (.inr (by decide))

/-- Taking the ending off a restricted name leaves a restricted one. -/
theorem isRestricted_canonicalName {call : ScriptletCall} (h : isRestricted call.name = true) :
    isRestricted call.canonicalName = true := by
  rw [ScriptletCall.canonicalName]
  split
  · next name hname =>
    rw [isRestricted_iff, dropEnd?_eq_some.1 hname, trim_append_ending,
      dropEnd?_eq_some.2 rfl, Option.getD_some] at h
    rw [isRestricted_iff, String.toList_ofList]
    have htrim : IsRestrictedBase (trim name) := h.trimEnd
    cases hend : dropEnd? ".js" (trim name) with
    | none => exact htrim
    | some rest => exact htrim.dropEnd (dropEnd?_eq_some.1 hend)
  · exact h

theorem wellFormed_add {trusted : Bool} {parsed : Parsed} {number : Nat} {line : List Char}
    (h : ∀ filter ∈ parsed.network, filter.WellFormed) :
    ∀ filter ∈ (parsed.add trusted number line).network, filter.WellFormed := by
  rw [Parsed.add]
  split
  · next filter hfilter =>
    exact List.forall_mem_cons.2 ⟨Filter.wellFormed_of_parseChars hfilter, h⟩
  · split
    · exact h
    · exact h
  · exact h
  · exact h

theorem wellFormed_parseLines (trusted : Bool) (number : Nat) (lines : List (List Char)) :
    ∀ filter ∈ (parseLines trusted number lines).network, filter.WellFormed := by
  induction lines generalizing number with
  | nil => exact List.forall_mem_nil _
  | cons line lines ih => exact wellFormed_add (ih (number + 1))

/-- The list that a text of the user is compiled to. -/
def listOf (text : String) (trusted : Bool) : FilterList :=
  .ofFilters ListName.custom (digestOf text trusted) (parse text trusted).network
    (parse text trusted).cosmetic

/-- Trusted and untrusted, a text has different digests. -/
theorem digestOf_true_ne (text : String) : digestOf text true ≠ digestOf text false := by
  rw [digestOf, digestOf, if_pos rfl, if_neg Bool.false_ne_true]
  intro h
  have hsalt : contentDigest text ^^^ (contentDigest text ^^^ trustedSalt) =
      contentDigest text ^^^ contentDigest text := congrArg (contentDigest text ^^^ ·) h
  rw [← UInt64.xor_assoc, UInt64.xor_self, UInt64.zero_xor] at hsalt
  exact absurd hsalt (by decide)

/-- Cosmetic filters are taken up from the lines unless they are refused. -/
theorem exists_of_mem_parseLines {trusted : Bool} {number : Nat} {lines : List (List Char)} :
    ∀ filter ∈ (parseLines trusted number lines).cosmetic, refused? trusted filter = none ∧
      ∃ line ∈ lines, Filter.parseChars line = .ok (some (.cosmetic filter)) := by
  induction lines generalizing number with
  | nil => exact List.forall_mem_nil _
  | cons line lines ih =>
    have hrest : ∀ filter ∈ (parseLines trusted (number + 1) lines).cosmetic,
        refused? trusted filter = none ∧
          ∃ line' ∈ line :: lines, Filter.parseChars line' = .ok (some (.cosmetic filter)) :=
      fun filter hfilter => (ih filter hfilter).imp_right fun ⟨line', hline', h⟩ =>
        ⟨line', List.mem_cons_of_mem line hline', h⟩
    rw [parseLines, Parsed.add]
    split
    · exact hrest
    · next filter hfilter =>
      split
      · exact hrest
      · next hrefused =>
        exact List.forall_mem_cons.2 ⟨⟨hrefused, line, List.mem_cons_self, hfilter⟩, hrest⟩
    · exact hrest
    · exact hrest

end CustomFilters

namespace FilterList

theorem wellFormed_ofFilters {name : String} {digest : UInt64} {network : List NetworkFilter}
    {cosmetic : List CosmeticFilter} (h : ∀ filter ∈ network, filter.WellFormed) :
    (ofFilters name digest network cosmetic).toListContent.WellFormed :=
  fun filter hfilter => h filter (NetworkFilter.optimize_subset network hfilter)

theorem wellFormed_parse (name text : String) : (parse name text).1.toListContent.WellFormed :=
  wellFormed_ofFilters (ParsedList.wellFormed_ofLines _ _)

theorem wellFormed_listOf (text : String) (trusted : Bool) :
    (CustomFilters.listOf text trusted).toListContent.WellFormed :=
  wellFormed_ofFilters (CustomFilters.wellFormed_parseLines _ _ _)

end FilterList

/-- The list that a text of the configuration's own is compiled to. -/
def MainEngine.ownList (config : Config) (name text : String) : FilterList :=
  if name == ListName.custom then CustomFilters.listOf text config.customFilters.trustedScriptlets
  else (FilterList.parse name text).1

theorem MainEngine.compileOwn_eq (config : Config) (origin : Nat) (name text : String) :
    compileOwn config origin name text = .ofList origin (ownList config name text) := by
  rw [compileOwn, ownList]
  split <;> rfl

theorem MainEngine.wellFormed_ownList (config : Config) (name text : String) :
    (ownList config name text).toListContent.WellFormed := by
  rw [ownList]
  split
  · exact FilterList.wellFormed_listOf _ _
  · exact FilterList.wellFormed_parse _ _

theorem MainEngine.isRead_ownList (config : Config) (name text : String) :
    ∀ filter ∈ (ownList config name text).cosmetic, filter.IsRead := by
  rw [ownList]
  split
  · intro filter hfilter
    obtain ⟨-, line, -, hline⟩ := CustomFilters.exists_of_mem_parseLines filter hfilter
    exact CosmeticFilter.isRead_of_parseChars hline
  · exact ParsedList.isRead_ofLines _ _

/-- No page is answered with a scriptlet that only trusted text may run. -/
def FilterList.IsHarmless (list : FilterList) : Prop :=
  ∀ suffixes query filters, list.collectCosmetics suffixes query = .ok filters →
    ∀ filter ∈ filters, ∀ call, filter.scriptlet? = some call →
      CustomFilters.isRestricted call.name = false ∧
        CustomFilters.isRestricted call.canonicalName = false

/-- Without trust no filter of the list has a call that only trusted text may have. -/
theorem CustomFilters.not_restricted_of_mem {text : String} {filter : CosmeticFilter} {call : ScriptletCall}
    (h : filter ∈ (listOf text false).cosmetic) (hcall : filter.scriptlet? = some call) :
    isRestricted call.name = false ∧ isRestricted call.canonicalName = false := by
  have hrefused := (exists_of_mem_parseLines filter h).1
  have hcanonical : isRestricted call.canonicalName = false := by
    rw [refused?, hcall, Option.filter_some_eq_none] at hrefused
    simpa using hrefused
  refine ⟨?_, hcanonical⟩
  cases hname : isRestricted call.name with
  | false => rfl
  | true => rw [← hcanonical, isRestricted_canonicalName hname]

theorem CustomFilters.isHarmless_listOf (text : String) : (listOf text false).IsHarmless :=
  fun _ _ _ hfilters _ hfilter _ =>
    not_restricted_of_mem (FilterList.collectCosmetics_subset hfilters hfilter)

end ContentFilter

/-! The text of the user read line by line, with trust and without. Trusted text is read as the text of any
list is; what untrusted text loses are the calls that only trusted text may have, each of which is
reported with the number of its line. -/

namespace ContentFilter

/-- The filter calls a scriptlet that only trusted text may call. -/
def CosmeticFilter.isRestricted (filter : CosmeticFilter) : Bool :=
  filter.scriptlet?.any fun call => CustomFilters.isRestricted call.canonicalName

/-- The number of a line, its text without blanks and why it was left out. -/
def LineError.entry (error : LineError) : Nat × String × String :=
  (error.line, error.filter, error.error.message)

def CustomError.entry (error : CustomError) : Nat × String × String :=
  (error.line, error.filter, error.cause.reason)

namespace CustomFilters

variable {trusted : Bool} {number : Nat} {filter : CosmeticFilter}

/-- What is reported of a line that has a restricted call. -/
def refusal? (number : Nat) (line : List Char) : Option CustomError :=
  match Filter.parseChars line with
  | .ok (some (.cosmetic filter)) =>
    if filter.isRestricted then
      filter.scriptlet?.map fun call =>
        ⟨number, String.ofList (Text.trim line), .untrustedScriptlet call.name⟩
    else none
  | _ => none

/-- The reports of the restricted calls among some lines, of which the first has that number. -/
def refusalsOf (number : Nat) (lines : List (List Char)) : List CustomError :=
  (lines.zipIdx number).filterMap fun (line, number) => refusal? number line

/-- One report for each line of a text that has a restricted call, lines counted from one. -/
def refusals (text : String) : List CustomError := refusalsOf 1 (Text.lines text.toList)

theorem refused?_trusted (filter : CosmeticFilter) : refused? true filter = none := by
  simp [refused?]

theorem refused?_untrusted (filter : CosmeticFilter) :
    refused? false filter = if filter.isRestricted then filter.scriptlet? else none := by
  rw [refused?, CosmeticFilter.isRestricted]
  cases hcall : filter.scriptlet? with
  | none => simp
  | some call =>
    cases hrestricted : isRestricted call.canonicalName <;> simp [Option.filter, hrestricted]

theorem refusalsOf_cons (number : Nat) (line : List Char) (lines : List (List Char)) :
    refusalsOf number (line :: lines) =
      (refusal? number line).toList ++ refusalsOf (number + 1) lines := by
  simp only [refusalsOf, List.zipIdx_cons, List.filterMap_cons]
  cases refusal? number line <;> simp

/-- No error of some lines has a smaller number than the first of them. -/
theorem le_line_of_mem (trusted : Bool) (number : Nat) (lines : List (List Char)) :
    ∀ error ∈ (parseLines trusted number lines).errors, number ≤ error.line := by
  induction lines generalizing number with
  | nil => simp [parseLines]
  | cons line lines ih =>
    have hrest : ∀ error ∈ (parseLines trusted (number + 1) lines).errors, number ≤ error.line := by
      intro error herror
      have := ih (number + 1) error herror
      omega
    rw [parseLines, Parsed.add]
    dsimp only
    split
    · exact hrest
    · split
      · simpa using hrest
      · exact hrest
    · exact hrest
    · simpa using hrest

/-- The errors stand in the order of their lines, and no line has two. -/
theorem pairwise_line_lt (trusted : Bool) (number : Nat) (lines : List (List Char)) :
    (parseLines trusted number lines).errors.Pairwise (·.line < ·.line) := by
  induction lines generalizing number with
  | nil => simp [parseLines]
  | cons line lines ih =>
    have hrest := ih (number + 1)
    have hfirst : ∀ error ∈ (parseLines trusted (number + 1) lines).errors, number < error.line :=
      le_line_of_mem trusted (number + 1) lines
    rw [parseLines, Parsed.add]
    dsimp only
    split
    · exact hrest
    · split
      · exact List.pairwise_cons.2 ⟨hfirst, hrest⟩
      · exact hrest
    · exact hrest
    · exact List.pairwise_cons.2 ⟨hfirst, hrest⟩

/-- Trusted lines are read as those of any list. -/
theorem parseLines_trusted (number : Nat) (lines : List (List Char)) :
    (parseLines true number lines).network = (ParsedList.ofLines number lines).network ∧
      (parseLines true number lines).cosmetic = (ParsedList.ofLines number lines).cosmetic ∧
      (parseLines true number lines).errors.map (·.entry) =
        (ParsedList.ofLines number lines).errors.map (·.entry) := by
  induction lines generalizing number with
  | nil => simp [parseLines, ParsedList.ofLines]
  | cons line lines ih =>
    obtain ⟨hnetwork, hcosmetic, herrors⟩ := ih (number + 1)
    rw [parseLines, Parsed.add, ParsedList.ofLines, ParsedList.add]
    cases hline : Filter.parseChars line with
    | error cause =>
      simp only [hnetwork, hcosmetic, List.map_cons, herrors, true_and]
      rfl
    | ok found =>
      cases found with
      | none => simp [hnetwork, hcosmetic, herrors]
      | some found =>
        cases found with
        | network filter => simp [hnetwork, hcosmetic, herrors]
        | cosmetic filter => simp [refused?_trusted, hnetwork, hcosmetic, herrors]

/-- What a line without trust adds: a restricted call goes from the filters to the errors. -/
theorem parseLines_untrusted (number : Nat) (lines : List (List Char)) :
    (parseLines false number lines).network = (parseLines true number lines).network ∧
      (parseLines false number lines).cosmetic =
        (parseLines true number lines).cosmetic.filter (!·.isRestricted) ∧
      (parseLines false number lines).errors.Perm
        ((parseLines true number lines).errors ++ refusalsOf number lines) ∧
      (refusalsOf number lines).length =
        (parseLines true number lines).cosmetic.countP (·.isRestricted) := by
  induction lines generalizing number with
  | nil => simp [parseLines, refusalsOf]
  | cons line lines ih =>
    obtain ⟨hnetwork, hcosmetic, herrors, hcount⟩ := ih (number + 1)
    rw [parseLines, Parsed.add, parseLines, Parsed.add, refusalsOf_cons, refusal?]
    cases hline : Filter.parseChars line with
    | error cause => simp [hnetwork, hcosmetic, herrors, hcount]
    | ok found =>
      cases found with
      | none => simp [hnetwork, hcosmetic, herrors, hcount]
      | some found =>
        cases found with
        | network filter => simp [hnetwork, hcosmetic, herrors, hcount]
        | cosmetic filter =>
          cases hrestricted : filter.isRestricted with
          | false =>
            simp [refused?_trusted, refused?_untrusted, hrestricted, hnetwork, hcosmetic, herrors,
              hcount]
          | true =>
            obtain ⟨call, hcall, -⟩ := (Option.any_eq_true _ _).1 hrestricted
            simp only [refused?_trusted, refused?_untrusted, hrestricted, hcall, if_true,
              Option.map_some, Option.toList_some, List.singleton_append, List.length_cons, hcount]
            refine ⟨hnetwork, by simp [hrestricted, hcosmetic], ?_, by simp [hrestricted]⟩
            exact (herrors.cons _).trans List.perm_middle.symm

/-- With trust the text of the user is read as the text of any list. Without trust it has the same network
filters and those of its cosmetic filters that are not restricted; its errors stand in the strict order
of their lines, and they are those that it has with trust and one for each line with a restricted call.
No call that stays is restricted by its name with the ending or without. -/
theorem untrusted_accounts (text : String) :
    (parse text true).network = (ParsedList.parse text).network ∧
    (parse text true).cosmetic = (ParsedList.parse text).cosmetic ∧
    (parse text true).errors.map (·.entry) = (ParsedList.parse text).errors.map (·.entry) ∧
    (parse text false).network = (ParsedList.parse text).network ∧
    (parse text false).cosmetic = (ParsedList.parse text).cosmetic.filter (!·.isRestricted) ∧
    (∀ filter ∈ (parse text false).cosmetic, ∀ call, filter.scriptlet? = some call →
      isRestricted call.name = false ∧ isRestricted call.canonicalName = false) ∧
    (parse text false).errors.Pairwise (·.line < ·.line) ∧
    (parse text false).errors.Perm ((parse text true).errors ++ refusals text) ∧
    (refusals text).length = (ParsedList.parse text).cosmetic.countP (·.isRestricted) := by
  obtain ⟨hnetwork, hcosmetic, herrors⟩ := parseLines_trusted 1 (Text.lines text.toList)
  obtain ⟨hkept, hunrestricted, hperm, hcount⟩ := parseLines_untrusted 1 (Text.lines text.toList)
  refine ⟨hnetwork, hcosmetic, herrors, hkept.trans hnetwork, ?_, ?_,
    pairwise_line_lt false 1 _, hperm, ?_⟩
  · exact hcosmetic ▸ hunrestricted
  · exact fun filter hfilter call hcall => not_restricted_of_mem hfilter hcall
  · exact hcosmetic ▸ hcount

/-- A comment, a restricted call under another spelling, a line that is no filter, and a rule. -/
example : (parse "! a\nb.com##+js('rpnt.js', x)\r\n||c.com^$nonsense\nd.com##.ad" false).errors.map (·.line) =
    [2, 3] := by decide +kernel

end CustomFilters

end ContentFilter
