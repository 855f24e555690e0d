import ContentFilter.Filter.Glob
import Mathlib.Data.List.Infix

/-! What a pattern means, and that the search finds every match although it goes back to the last star
only: a later start never leaves more of the text. -/

namespace ContentFilter.Glob

variable {mode : Mode} {pattern text : List UInt8} {c b : UInt8}

/-- What one byte of a pattern can stand for, before what comes after it in the text. A star stands for
any run of bytes, a caret for one separator or for nothing at the end of the text, and any other byte
for itself. -/
def StandsFor (mode : Mode) (c : UInt8) (run after : List UInt8) : Prop :=
  if c = star then True
  else if c = caret then (∃ b, Url.isSeparator b = true ∧ run = [b]) ∨ (run = [] ∧ after = [])
  else ∃ b, mode.sameByte b c = true ∧ run = [b]

/-- A text splits along a pattern, up to what is left of it. -/
inductive Splits (mode : Mode) : List UInt8 → List UInt8 → List UInt8 → Prop
  | done (left : List UInt8) : Splits mode [] left left
  | more {c : UInt8} {pattern run after left : List UInt8} (hrun : StandsFor mode c run after)
      (h : Splits mode pattern after left) : Splits mode (c :: pattern) (run ++ after) left

/-- A prefix of the text splits along the pattern, or the whole text where the pattern ends with it. -/
def Fits (mode : Mode) (pattern text : List UInt8) : Prop :=
  ∃ left, Splits mode pattern text left ∧ (mode.toEnd = true → left = [])

theorem fits_nil : Fits mode [] text ↔ (mode.toEnd = true → text = []) := by
  constructor
  · rintro ⟨left, hsplits, hend⟩
    cases hsplits
    exact hend
  · intro hend
    exact ⟨text, .done text, hend⟩

theorem fits_cons : Fits mode (c :: pattern) text ↔
    ∃ run after, text = run ++ after ∧ StandsFor mode c run after ∧ Fits mode pattern after := by
  constructor
  · rintro ⟨left, hsplits, hend⟩
    cases hsplits with
    | @more _ _ run after _ hrun hafter => exact ⟨run, after, rfl, hrun, left, hafter, hend⟩
  · rintro ⟨run, after, rfl, hrun, left, hafter, hend⟩
    exact ⟨left, .more hrun hafter, hend⟩

theorem fits_star :
    Fits mode (star :: pattern) text ↔ ∃ after, after <:+ text ∧ Fits mode pattern after := by
  rw [fits_cons]
  constructor
  · rintro ⟨run, after, rfl, -, hfits⟩
    exact ⟨after, List.suffix_append run after, hfits⟩
  · rintro ⟨after, ⟨run, rfl⟩, hfits⟩
    exact ⟨run, after, rfl, by simp [StandsFor], hfits⟩

/-- Whether a byte of the text can stand where the pattern has a byte other than a star. -/
def accepts (mode : Mode) (c b : UInt8) : Bool :=
  if c = caret then Url.isSeparator b else mode.sameByte b c

section Single

variable (hstar : c ≠ star)
include hstar

theorem standsFor_iff {run after : List UInt8} : StandsFor mode c run after ↔
    (∃ b, accepts mode c b = true ∧ run = [b]) ∨ (c = caret ∧ run = [] ∧ after = []) := by
  rw [StandsFor, if_neg hstar]
  unfold accepts
  by_cases hcaret : c = caret
  · simp [hcaret]
  · simp [hcaret]

theorem fits_single_cons : Fits mode (c :: pattern) (b :: text) ↔
    accepts mode c b = true ∧ Fits mode pattern text := by
  simp only [fits_cons, standsFor_iff hstar]
  constructor
  · rintro ⟨run, after, htext, ⟨b', hb, rfl⟩ | ⟨-, rfl, rfl⟩, hfits⟩
    · obtain ⟨rfl, rfl⟩ := List.cons.inj htext
      exact ⟨hb, hfits⟩
    · cases htext
  · rintro ⟨hb, hfits⟩
    exact ⟨[b], text, rfl, .inl ⟨b, hb, rfl⟩, hfits⟩

theorem fits_single_nil : Fits mode (c :: pattern) [] ↔ c = caret ∧ Fits mode pattern [] := by
  simp only [fits_cons, standsFor_iff hstar]
  constructor
  · rintro ⟨run, after, htext, ⟨b, -, rfl⟩ | ⟨hcaret, rfl, rfl⟩, hfits⟩
    · cases htext
    · exact ⟨hcaret, hfits⟩
  · rintro ⟨hcaret, hfits⟩
    exact ⟨[], [], rfl, .inr ⟨hcaret, rfl, rfl⟩, hfits⟩

theorem compare_single_cons : compare mode (c :: pattern) (b :: text) =
    if accepts mode c b then compare mode pattern text else .failed := by
  simp only [compare, accepts, if_neg hstar]
  split <;> rfl

theorem compare_single_nil : compare mode (c :: pattern) [] =
    if c = caret then compare mode pattern [] else .failed := by
  simp only [compare, if_neg hstar]

end Single

/-- At the end of a text a pattern fits that needs no byte. -/
theorem fits_end_iff : Fits mode pattern [] ↔ ∀ b ∈ pattern, b = star ∨ b = caret := by
  induction pattern with
  | nil => simp [fits_nil]
  | cons c pattern ih =>
    rw [List.forall_mem_cons, ← ih]
    by_cases hstar : c = star
    · rw [hstar, fits_star]
      simp [List.suffix_nil]
    · rw [fits_single_nil hstar]
      simp [hstar]

theorem accepts_self (mode : Mode) (b : UInt8) : accepts mode b b = true := by
  unfold accepts
  split
  · next hcaret =>
    rw [hcaret]
    decide
  · unfold Mode.sameByte
    split <;> exact beq_self_eq_true _

/-- A pattern fits its own text. -/
theorem fits_self (h : mode.toEnd = false) (pattern : List UInt8) : Fits mode pattern pattern := by
  induction pattern with
  | nil => simp [fits_nil, h]
  | cons c pattern ih =>
    by_cases hstar : c = star
    · rw [hstar, fits_star]
      exact ⟨pattern, List.suffix_cons star pattern, ih⟩
    · rw [fits_single_cons hstar]
      exact ⟨accepts_self mode c, ih⟩

theorem compare_nil : compare mode [] text =
    if !mode.toEnd || text.isEmpty then .matched else .failed := by
  unfold compare
  rfl

theorem compare_star : compare mode (star :: pattern) text = .starred pattern text := by
  unfold compare
  exact if_pos rfl

/-- The comparison up to a star settles the match, or leaves it to what comes after the star. -/
def Outcome.Holds (mode : Mode) : Outcome → Prop
  | .matched => True
  | .failed => False
  | .starred pattern text => ∃ after, after <:+ text ∧ Fits mode pattern after

/-- Up to the first star there is only one way to go along the text. -/
theorem fits_iff_compare (mode : Mode) (pattern text : List UInt8) :
    Fits mode pattern text ↔ (compare mode pattern text).Holds mode := by
  induction pattern generalizing text with
  | nil =>
    rw [fits_nil, compare_nil]
    cases mode.toEnd <;> cases text <;> simp [Outcome.Holds]
  | cons c pattern ih =>
    by_cases hstar : c = star
    · rw [hstar, fits_star, compare_star]
      rfl
    · cases text with
      | nil =>
        rw [fits_single_nil hstar, compare_single_nil hstar, ih]
        split <;> simp [*, Outcome.Holds]
      | cons b text =>
        rw [fits_single_cons hstar, compare_single_cons hstar, ih]
        split <;> simp [*, Outcome.Holds]

/-- What comes before a star takes a byte of the text for each of its own, as long as there are any. -/
theorem exists_lead {p t : List UInt8} (h : compare mode pattern text = .starred p t) :
    ∃ lead, star ∉ lead ∧ pattern = lead ++ star :: p ∧ t = text.drop lead.length := by
  induction pattern generalizing text with
  | nil =>
    rw [compare_nil] at h
    split at h <;> cases h
  | cons c pattern ih =>
    by_cases hstar : c = star
    · rw [hstar, compare_star] at h
      obtain ⟨rfl, rfl⟩ := by simpa using h
      exact ⟨[], by simp, by simp [hstar], rfl⟩
    · have hrest : compare mode pattern text.tail = .starred p t := by
        cases text with
        | nil =>
          rw [compare_single_nil hstar] at h
          split at h
          · exact h
          · cases h
        | cons b text =>
          rw [compare_single_cons hstar] at h
          split at h
          · exact h
          · cases h
      obtain ⟨lead, hlead, rfl, rfl⟩ := ih hrest
      refine ⟨c :: lead, ?_, rfl, ?_⟩
      · simp [hlead, Ne.symm hstar]
      · cases text <;> simp

theorem compare_lead {lead : List UInt8} (hlead : star ∉ lead) (pattern text : List UInt8) :
    compare mode (lead ++ star :: pattern) text = .failed ∨
      compare mode (lead ++ star :: pattern) text = .starred pattern (text.drop lead.length) := by
  induction lead generalizing text with
  | nil =>
    right
    exact compare_star
  | cons c lead ih =>
    have hstar : c ≠ star := by
      rintro rfl
      exact hlead List.mem_cons_self
    have ih := ih fun hmem => hlead (List.mem_cons_of_mem c hmem)
    rw [List.cons_append]
    cases text with
    | nil =>
      rw [compare_single_nil hstar]
      split
      · simpa using ih []
      · exact .inl rfl
    | cons b text =>
      rw [compare_single_cons hstar]
      split
      · simpa using ih text
      · exact .inl rfl

theorem drop_suffix_drop {s : List UInt8} (h : s <:+ text) (n : ℕ) : s.drop n <:+ text.drop n := by
  have hlength := h.length_le
  apply List.suffix_of_suffix_length_le ((List.drop_suffix n s).trans h) (List.drop_suffix n text)
  simp only [List.length_drop]
  omega

/-- A match that starts later leaves no more of the text to the rest of the pattern, so nothing is lost
by keeping to the first one. -/
theorem fits_after_star {p t s : List UInt8} (h : compare mode pattern text = .starred p t)
    (hs : s <:+ text) (hfits : Fits mode pattern s) : ∃ after, after <:+ t ∧ Fits mode p after := by
  obtain ⟨lead, hlead, rfl, rfl⟩ := exists_lead h
  rw [fits_iff_compare] at hfits
  rcases compare_lead hlead p s with hfailed | hstarred
  · rw [hfailed] at hfits
    exact absurd hfits id
  · rw [hstarred] at hfits
    obtain ⟨after, hafter, hfits⟩ := hfits
    exact ⟨after, hafter.trans (drop_suffix_drop hs _), hfits⟩

theorem fits_iff_holds {outcome : Outcome} (h : compare mode pattern text = outcome) :
    Fits mode pattern text ↔ outcome.Holds mode := h ▸ fits_iff_compare mode pattern text

theorem search_iff (mode : Mode) (pattern text : List UInt8) :
    search mode pattern text = true ↔ ∃ after, after <:+ text ∧ Fits mode pattern after := by
  fun_induction search mode pattern text with
  | case1 pattern text h =>
    rw [eq_self, true_iff]
    exact ⟨text, List.suffix_rfl, (fits_iff_holds h).2 trivial⟩
  | case2 pattern text p t h ih =>
    rw [ih]
    constructor
    · intro hafter
      exact ⟨text, List.suffix_rfl, (fits_iff_holds h).2 hafter⟩
    · rintro ⟨s, hs, hfits⟩
      exact fits_after_star h hs hfits
  | case3 pattern h =>
    have hnot : ¬Fits mode pattern [] := (fits_iff_holds h).1
    simp [hnot]
  | case4 pattern b text h ih =>
    have hnot : ¬Fits mode pattern (b :: text) := (fits_iff_holds h).1
    rw [ih]
    constructor
    · rintro ⟨s, hs, hfits⟩
      exact ⟨s, hs.trans (List.suffix_cons b text), hfits⟩
    · rintro ⟨s, hs, hfits⟩
      rcases List.suffix_cons_iff.1 hs with rfl | hs
      · exact absurd hfits hnot
      · exact ⟨s, hs, hfits⟩

theorem isMatch_iff (mode : Mode) (pattern text : List UInt8) :
    isMatch mode pattern text = true ↔ Fits mode pattern text := by
  rw [fits_iff_compare, isMatch]
  cases compare mode pattern text with
  | matched => simp [Outcome.Holds]
  | failed => simp [Outcome.Holds]
  | starred p t => exact search_iff mode p t

theorem isMatchInside_iff (mode : Mode) (pattern text : List UInt8) :
    isMatchInside mode pattern text = true ↔ ∃ s, s <:+ text ∧ s ≠ [] ∧ Fits mode pattern s := by
  induction text with
  | nil => simp [isMatchInside]
  | cons b text ih =>
    rw [isMatchInside, Bool.or_eq_true, isMatch_iff, ih]
    constructor
    · rintro (hfits | ⟨s, hs, hne, hfits⟩)
      · exact ⟨b :: text, List.suffix_rfl, List.cons_ne_nil b text, hfits⟩
      · exact ⟨s, hs.trans (List.suffix_cons b text), hne, hfits⟩
    · rintro ⟨s, hs, hne, hfits⟩
      rcases List.suffix_cons_iff.1 hs with rfl | hs
      · exact .inl hfits
      · exact .inr ⟨s, hs, hne, hfits⟩

/-- A comparison that goes on byte by byte: what is left of the pattern and of the text, and where to go
on after a mismatch, which is the pattern after the last star with the text that was left for it. -/
structure Scan where
  pattern : List UInt8
  text : List UInt8
  retry : Option (List UInt8 × List UInt8) := none

namespace Scan

inductive Turn where
  | next (scan : Scan)
  | ended (found : Bool)

/-- Let the last star stand for one byte more. -/
def goBack : Option (List UInt8 × List UInt8) → Turn
  | some (pattern, _ :: text) => .next ⟨pattern, text, some (pattern, text)⟩
  | _ => .ended false

def turn (mode : Mode) (scan : Scan) : Turn :=
  match scan.pattern, scan.text with
  | [], text => if !mode.toEnd || text.isEmpty then .ended true else goBack scan.retry
  | c :: pattern, text =>
    if c = star then .next ⟨pattern, text, some (pattern, text)⟩
    else
      match text with
      | [] => if c = caret then .next ⟨pattern, [], scan.retry⟩ else goBack scan.retry
      | b :: text =>
        if accepts mode c b then .next ⟨pattern, text, scan.retry⟩ else goBack scan.retry

/-- The turns from here on come to an end, with that answer. -/
inductive Ends (mode : Mode) : Turn → Bool → Prop
  | here (found : Bool) : Ends mode (.ended found) found
  | after {scan : Scan} {found : Bool} (h : Ends mode (scan.turn mode) found) :
      Ends mode (.next scan) found

variable {retry : Option (List UInt8 × List UInt8)} {found : Bool}

/-- How the turns go on after those up to a star. -/
def goOn (retry : Option (List UInt8 × List UInt8)) : Outcome → Turn
  | .matched => .ended true
  | .failed => goBack retry
  | .starred pattern text => .next ⟨pattern, text, some (pattern, text)⟩

/-- The turns up to a star take one byte of the pattern each. -/
theorem ends_of_compare (h : Ends mode (goOn retry (compare mode pattern text)) found) :
    Ends mode (.next ⟨pattern, text, retry⟩) found := by
  induction pattern generalizing text with
  | nil =>
    apply Ends.after
    rw [compare_nil] at h
    unfold turn
    split at h
    · next hend => simpa [hend, goOn] using h
    · next hend => simpa [hend, goOn] using h
  | cons c pattern ih =>
    apply Ends.after
    by_cases hstar : c = star
    · rw [hstar, compare_star] at h
      simpa [turn, hstar, goOn] using h
    · cases text with
      | nil =>
        rw [compare_single_nil hstar] at h
        simp only [turn, if_neg hstar]
        split
        · next hcaret =>
          rw [if_pos hcaret] at h
          exact ih h
        · next hcaret =>
          rw [if_neg hcaret] at h
          exact h
      | cons b text =>
        rw [compare_single_cons hstar] at h
        simp only [turn, if_neg hstar]
        split
        · next hb =>
          rw [if_pos hb] at h
          exact ih h
        · next hb =>
          rw [if_neg hb] at h
          exact h

theorem ends_search (mode : Mode) (pattern text : List UInt8) :
    Ends mode (.next ⟨pattern, text, some (pattern, text)⟩) (search mode pattern text) := by
  fun_induction search mode pattern text with
  | case1 pattern text h =>
    apply ends_of_compare
    rw [h]
    exact .here true
  | case2 pattern text p t h ih =>
    apply ends_of_compare
    rw [h]
    exact ih
  | case3 pattern h =>
    apply ends_of_compare
    rw [h]
    exact .here false
  | case4 pattern b text h ih =>
    apply ends_of_compare
    rw [h]
    exact ih

theorem ends_isMatch (mode : Mode) (pattern text : List UInt8) :
    Ends mode (.next { pattern, text }) (isMatch mode pattern text) := by
  apply ends_of_compare
  unfold isMatch
  cases compare mode pattern text with
  | matched => exact .here true
  | failed => exact .here false
  | starred p t => exact ends_search mode p t

end Scan

/-- A pattern matches just when the text, or a prefix of it unless the pattern is bound to the end,
splits along the pattern; and the comparison byte by byte that keeps nothing but the last star comes to
an end with this answer on every pattern and text. -/
theorem isMatch_decides_fits (mode : Mode) (pattern text : List UInt8) :
    (isMatch mode pattern text = true ↔ Fits mode pattern text) ∧
      Scan.Ends mode (.next { pattern, text }) (isMatch mode pattern text) :=
  ⟨isMatch_iff mode pattern text, Scan.ends_isMatch mode pattern text⟩

end ContentFilter.Glob
