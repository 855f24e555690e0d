import ContentFilter.Proofs.Filter.Options
import ContentFilter.Proofs.Matching.Redirect
import ContentFilter.Proofs.Text.Lower

/-! The names of redirects. A redirect goes by the resource that its name stands for, an exception by the
text of the name: under another name of the same resource it takes nothing away. -/

namespace ContentFilter

namespace Resource

theorem baseName_lower (name : List Char) : baseName (Text.lower name) = Text.lower (baseName name) := by
  have hpriority (rest : List Char) : ((Text.lower rest).all fun c => c.isDigit || c == '-') =
      rest.all fun c => c.isDigit || c == '-' := by
    rw [Text.lower, List.all_map]
    congr 1
    funext c
    rw [Bool.eq_iff_iff]
    simp [Text.isDigit_toLower, Text.toLower_eq_iff]
  have hcolon : Text.cut? [':'] (Text.lower (Text.trim name)) = _ :=
    Text.cut?_lower (by decide) (Text.trim name)
  simp only [baseName, Text.trim_lower, hcolon]
  cases Text.cut? [':'] (Text.trim name) with
  | none => rfl
  | some sides =>
    simp only [Option.map_some, hpriority]
    split <;> rfl

/-- What a filter keeps of the name in an option. -/
def keptName (name : String) : String := String.ofList (Text.lower (Text.trimEnd name.toList))

/-- The kept name stands for the same resource. -/
theorem find?_keptName (name : String) : find? (keptName name) = find? name := by
  have hanswers (resource : Resource) (name : List Char) :
      resource.answersTo (Text.lower name) = resource.answersTo name := by
    simp only [answersTo, Text.equalFold, Text.lower_lower]
  have hbase : baseName (Text.trimEnd name.toList) = baseName name.toList := by
    rw [baseName, Text.trim_trimEnd]
    rfl
  simp only [find?, keptName, String.toList_ofList, baseName_lower, hanswers, hbase]

end Resource

namespace FilterOptions.Draft

theorem add_of_redirectRule {option value : List Char}
    (h : Text.lower (Text.trim option) = "redirect-rule=".toList ++ value) (hvalue : value ≠ [])
    (draft : Draft) : draft.add option = .ok ((draft.withRedirect value).withFlag .redirectRule) := by
  have hequals : '=' ∈ Text.lower (Text.trim option) := by
    rw [h]
    exact List.mem_append_left _ (by decide)
  have hne : (Text.trim option).isEmpty = false := by
    cases htrim : Text.trim option with
    | nil => rw [htrim] at hequals; cases hequals
    | cons => rfl
  have hcsp : Text.dropStart? "csp=" (Text.trim option) = none := by
    cases hdrop : Text.dropStart? "csp=" (Text.trim option) with
    | none => rfl
    | some rest =>
      rw [Text.eq_append_of_isPrefixOf? hdrop] at h
      cases h
  have hname : (Text.lower (Text.trim option) == "csp".toList) = false := by
    rw [beq_eq_false_iff_ne]
    intro heq
    rw [heq] at hequals
    exact absurd hequals (by decide)
  have hlimit : (Text.dropStart? "domain=" ("redirect-rule=".toList ++ value) <|>
      Text.dropStart? "from=" ("redirect-rule=".toList ++ value)) = none := rfl
  have hplain : Text.dropStart? "redirect=" ("redirect-rule=".toList ++ value) = none := rfl
  dsimp only [add]
  rw [hne, hcsp, flag?_eq_none hequals (.inr rfl), hname, h, hlimit, hplain, Text.dropStart?_append]
  simp only [List.isEmpty_iff, hvalue]
  rfl

/-- An option that names a resource leaves the kept name with its filter. -/
theorem add_redirectRule {name : String} (h : (Resource.find? name).isSome = true) (draft : Draft) :
    draft.add ("redirect-rule=".toList ++ name.toList) =
      .ok ({ draft with options.redirect := some (Resource.keptName name) }.withFlag .redirectRule) := by
  have hne : Text.lower (Text.trimEnd name.toList) ≠ [] := by
    intro hnil
    rw [← Resource.find?_keptName, Resource.keptName, hnil] at h
    revert h
    decide
  have hoption : Text.trim ("redirect-rule=".toList ++ name.toList) =
      "redirect-rule=".toList ++ Text.trimEnd name.toList :=
    Text.trim_append_left (by rintro c ⟨⟩; decide) (by rintro c ⟨⟩; decide) (by decide)
  have hlower : Text.lower (Text.trim ("redirect-rule=".toList ++ name.toList)) =
      "redirect-rule=".toList ++ Text.lower (Text.trimEnd name.toList) := by
    rw [hoption, Text.lower_append]
    rfl
  rw [add_of_redirectRule hlower hne, withRedirect, if_neg (by simpa using hne)]
  rfl

end FilterOptions.Draft

namespace Candidate

variable {candidate : Candidate} {name text : String}

/-- The candidate takes away the redirects that an option names. -/
structure Excepts (candidate : Candidate) (name : String) : Prop where
  isException : candidate.isRedirectException = true
  names : candidate.filter.redirect = some (Resource.keptName name)

theorem plain_of_isRedirectException (h : candidate.isRedirectException = true) :
    candidate.offersRedirect = false ∧
      ∀ important, candidate.isAllow important = false ∧ candidate.isBlock important = false := by
  simp only [isRedirectException, Bool.and_eq_true, beq_iff_eq] at h
  obtain ⟨⟨-, haction⟩, hrule⟩ := h
  simp [offersRedirect, isAllow, isBlock, haction, hrule]

end Candidate

namespace Precedence

variable {before after candidates : List Candidate} {one other block : Candidate} {a b name text : String}

/-- The request is redirected by a candidate that names the redirect so. -/
def RedirectsBy (candidates : List Candidate) (text : String) : Prop :=
  (decide candidates).decision = .redirect ∧
    ∃ source, source? candidates = some source ∧ source.filter.redirect = some text

theorem RedirectsBy.unique {text' : String} (h : RedirectsBy candidates text)
    (h' : RedirectsBy candidates text') : text = text' := by
  obtain ⟨-, source, hsource, htext⟩ := h
  obtain ⟨-, source', hsource', htext'⟩ := h'
  cases hsource.symm.trans hsource'
  exact Option.some.inj (htext.symm.trans htext')

/-- What a block says, with the redirect that is had. -/
def stoppedBy (block : Candidate) : Option Redirect → MatchResult
  | some redirect => { MatchResult.decidedBy block .redirect with redirect := some redirect }
  | none => .decidedBy block .block

theorem decide_eq_stoppedBy (h : stops (decide candidates)) : ∃ block, blocker? candidates = some block ∧
    decide candidates = stoppedBy block ((source? candidates).bind (redirectOf candidates)) := by
  obtain ⟨block, hblock, -, hdecide⟩ := exists_blocker h
  refine ⟨block, hblock, ?_⟩
  rw [hdecide, source?, hblock, Option.bind_some, ← redirectFor_eq]
  rfl

/-- The exception that lets a request pass, if there is one. -/
def permit? (candidates : List Candidate) : Option Candidate :=
  (candidates.find? (·.isAllow true)).or (candidates.find? (·.isAllow false))

theorem decide_of_passes (h : ¬stops (decide candidates)) :
    decide candidates = (permit? candidates).elim {} (.decidedBy · .allow) := by
  have hnot (block : Candidate) : decide candidates ≠ blocked candidates block := by
    intro hblocked
    rw [hblocked] at h
    exact h (blocked_stops candidates block)
  cases hfirst : candidates.find? (·.isAllow true) with
  | some allow => simp [decide, permit?, hfirst]
  | none =>
    cases himportant : candidates.find? (·.isBlock true) with
    | some block => exact absurd (by simp [decide, hfirst, himportant]) (hnot block)
    | none =>
      cases hallow : candidates.find? (·.isAllow false) with
      | some allow => simp [decide, permit?, hfirst, himportant, hallow]
      | none =>
        cases hblock : candidates.find? (·.isBlock false) with
        | some block =>
          exact absurd (by simp [decide, hfirst, himportant, hallow, hblock]) (hnot block)
        | none => simp [decide, permit?, hfirst, himportant, hallow, hblock]

theorem redirectOf_eq_some {source : Candidate} {redirect : Redirect}
    (h : redirectOf candidates source = some redirect) :
    ∃ text, source.filter.redirect = some text ∧ Resource.find? text = some redirect := by
  obtain ⟨text, htext, h⟩ := Option.bind_eq_some_iff.1 h
  dsimp only at h
  split at h
  · cases h
  · exact ⟨text, htext, h⟩

/-- A redirect goes by the resource that its name stands for. -/
theorem redirect_eq_some_iff {redirect : Redirect} : (decide candidates).redirect = some redirect ↔
    ∃ text, RedirectsBy candidates text ∧ Resource.find? text = some redirect := by
  by_cases hstops : stops (decide candidates)
  · obtain ⟨block, -, hdecide⟩ := decide_eq_stoppedBy hstops
    constructor
    · intro hredirect
      have hhad : (source? candidates).bind (redirectOf candidates) = some redirect := by
        rw [hdecide] at hredirect
        cases hopt : (source? candidates).bind (redirectOf candidates) with
        | none => rw [hopt] at hredirect; cases hredirect
        | some other => rw [hopt] at hredirect; exact hredirect
      obtain ⟨source, hsource, hof⟩ := Option.bind_eq_some_iff.1 hhad
      obtain ⟨text, htext, hfind⟩ := redirectOf_eq_some hof
      exact ⟨text, ⟨by rw [hdecide, hhad]; rfl, source, hsource, htext⟩, hfind⟩
    · rintro ⟨text, ⟨hdecision, source, hsource, htext⟩, hfind⟩
      rw [hdecide] at hdecision ⊢
      rw [hsource, Option.bind_some] at hdecision ⊢
      cases hof : redirectOf candidates source with
      | none => rw [hof] at hdecision; cases hdecision
      | some other =>
        obtain ⟨text', htext', hfind'⟩ := redirectOf_eq_some hof
        cases htext.symm.trans htext'
        exact hfind'.symm.trans hfind
  · have hallow := not_stops_iff.1 hstops
    constructor
    · intro hredirect
      rw [decide_of_passes hstops] at hredirect
      cases hpermit : permit? candidates <;> rw [hpermit] at hredirect <;> cases hredirect
    · rintro ⟨text, ⟨hdecision, -⟩, -⟩
      rw [hallow] at hdecision
      cases hdecision

/-- What is left of a redirect that is taken away. -/
def withoutRedirect (result : MatchResult) : MatchResult :=
  { result with decision := .block, redirect := none }

theorem withoutRedirect_stoppedBy (block : Candidate) (redirect : Option Redirect) :
    withoutRedirect (stoppedBy block redirect) = stoppedBy block none := by
  cases redirect <;> rfl

theorem find?_beside {isOf : Candidate → Bool} (h : isOf one = false) :
    (before ++ one :: after).find? isOf = (before ++ after).find? isOf := by
  simp [List.find?_append, h]

section Exception

variable (hone : one.isRedirectException = true)
include hone

theorem permit?_beside : permit? (before ++ one :: after) = permit? (before ++ after) := by
  have hplain := (Candidate.plain_of_isRedirectException hone).2
  simp only [permit?, find?_beside (hplain _).1]

theorem blocker?_beside : blocker? (before ++ one :: after) = blocker? (before ++ after) := by
  have hplain := (Candidate.plain_of_isRedirectException hone).2
  simp only [blocker?, find?_beside (hplain _).2]

theorem source?_beside : source? (before ++ one :: after) = source? (before ++ after) := by
  have hsourceFor : sourceFor (before ++ one :: after) = sourceFor (before ++ after) := by
    funext block
    rw [sourceFor, find?_beside (Candidate.plain_of_isRedirectException hone).1]
    rfl
  rw [source?, blocker?_beside hone, hsourceFor]
  rfl

theorem stops_beside : stops (decide (before ++ one :: after)) ↔ stops (decide (before ++ after)) := by
  have hplain := (Candidate.plain_of_isRedirectException hone).2
  have hhas {isOf : Candidate → Bool} (h : isOf one = false) :
      Has (before ++ one :: after) isOf ↔ Has (before ++ after) isOf := by
    simp [Has, h, or_and_right, exists_or]
  simp only [stops_decide_iff, hhas (hplain _).1, hhas (hplain _).2]

end Exception

section Named

variable (hone : one.Excepts a) (ha : (Resource.find? a).isSome = true)
include hone ha

/-- Beside an exception the redirect of its name is not to be had, and every other one as before. -/
theorem redirectOf_beside (source : Candidate) : redirectOf (before ++ one :: after) source =
    if source.filter.redirect = some (Resource.keptName a) then none
    else redirectOf (before ++ after) source := by
  have hstar : Resource.keptName a ≠ "*" := by
    intro hstar
    rw [← Resource.find?_keptName, hstar] at ha
    revert ha
    decide
  have hmem (text : String) : text ∈ cancelled (before ++ one :: after) ↔
      text = Resource.keptName a ∨ text ∈ cancelled (before ++ after) := by
    simp [cancelled, hone.isException, hone.names, or_left_comm]
  cases htext : source.filter.redirect with
  | none => simp [redirectOf, htext]
  | some text =>
    by_cases hsame : text = Resource.keptName a
    · simp [redirectOf, htext, hmem, hsame]
    · simp [redirectOf, htext, hmem, hstar.symm, hsame]

theorem decide_beside_of_redirectsBy (h : RedirectsBy (before ++ after) (Resource.keptName a)) :
    decide (before ++ one :: after) = withoutRedirect (decide (before ++ after)) := by
  obtain ⟨hdecision, source, hsource, htext⟩ := h
  have hstops : stops (decide (before ++ after)) := .inr hdecision
  obtain ⟨block, hblock, hdecide⟩ := decide_eq_stoppedBy hstops
  obtain ⟨block', hblock', hdecide'⟩ := decide_eq_stoppedBy ((stops_beside hone.isException).2 hstops)
  rw [blocker?_beside hone.isException] at hblock'
  cases hblock.symm.trans hblock'
  rw [source?_beside hone.isException, hsource, Option.bind_some, redirectOf_beside hone ha,
    if_pos htext] at hdecide'
  rw [hdecide', hdecide, withoutRedirect_stoppedBy]

theorem decide_beside_of_not (h : ¬RedirectsBy (before ++ after) (Resource.keptName a)) :
    decide (before ++ one :: after) = decide (before ++ after) := by
  by_cases hstops : stops (decide (before ++ after))
  · obtain ⟨block, hblock, hdecide⟩ := decide_eq_stoppedBy hstops
    obtain ⟨block', hblock', hdecide'⟩ := decide_eq_stoppedBy ((stops_beside hone.isException).2 hstops)
    rw [blocker?_beside hone.isException] at hblock'
    cases hblock.symm.trans hblock'
    rw [hdecide', source?_beside hone.isException]
    cases hsource : source? (before ++ after) with
    | none => rw [hdecide, hsource]; rfl
    | some source =>
      rw [Option.bind_some, redirectOf_beside hone ha]
      split
      · next htext =>
        rw [hdecide, hsource, Option.bind_some]
        cases hof : redirectOf (before ++ after) source with
        | none => rfl
        | some redirect =>
          refine absurd ⟨?_, source, hsource, htext⟩ h
          rw [hdecide, hsource, Option.bind_some, hof]
          rfl
      · rw [hdecide, hsource, Option.bind_some]
  · rw [decide_of_passes hstops, decide_of_passes (mt (stops_beside hone.isException).1 hstops),
      permit?_beside hone.isException]

end Named

theorem same_effect_iff (ha : (Resource.find? a).isSome = true) (hb : (Resource.find? b).isSome = true)
    (hone : one.Excepts a) (hother : other.Excepts b) :
    decide (before ++ one :: after) = decide (before ++ other :: after) ↔
      Resource.keptName a = Resource.keptName b ∨ ∀ text, RedirectsBy (before ++ after) text →
        text ≠ Resource.keptName a ∧ text ≠ Resource.keptName b := by
  have hchanges {result : MatchResult} (h : result.decision = .redirect) :
      withoutRedirect result ≠ result := by
    intro heq
    rw [← heq] at h
    cases h
  constructor
  · intro hsame
    by_cases hbya : RedirectsBy (before ++ after) (Resource.keptName a)
    · left
      by_contra hne
      have hbyb : ¬RedirectsBy (before ++ after) (Resource.keptName b) :=
        fun hbyb => hne (hbya.unique hbyb)
      rw [decide_beside_of_redirectsBy hone ha hbya, decide_beside_of_not hother hb hbyb] at hsame
      exact hchanges hbya.1 hsame
    · by_cases hbyb : RedirectsBy (before ++ after) (Resource.keptName b)
      · rw [decide_beside_of_not hone ha hbya, decide_beside_of_redirectsBy hother hb hbyb] at hsame
        exact absurd hsame.symm (hchanges hbyb.1)
      · right
        rintro text hby
        exact ⟨fun heq => hbya (heq ▸ hby), fun heq => hbyb (heq ▸ hby)⟩
  · intro hapart
    by_cases hbya : RedirectsBy (before ++ after) (Resource.keptName a)
    · have hkept := hapart.resolve_right fun hnone => (hnone _ hbya).1 rfl
      rw [decide_beside_of_redirectsBy hone ha hbya,
        decide_beside_of_redirectsBy hother hb (hkept ▸ hbya)]
    · have hbyb : ¬RedirectsBy (before ++ after) (Resource.keptName b) := by
        intro hbyb
        rcases hapart with hkept | hnone
        · exact hbya (hkept ▸ hbyb)
        · exact (hnone _ hbyb).2 rfl
      rw [decide_beside_of_not hone ha hbya, decide_beside_of_not hother hb hbyb]

/-- Beside an exception the redirects to a resource are left that name it in another way. -/
theorem redirect_beside_iff {resource : Redirect} (ha : (Resource.find? a).isSome = true)
    (hone : one.Excepts a) : (decide (before ++ one :: after)).redirect = some resource ↔
      ∃ text, text ≠ Resource.keptName a ∧ RedirectsBy (before ++ after) text ∧
        Resource.find? text = some resource := by
  by_cases hby : RedirectsBy (before ++ after) (Resource.keptName a)
  · rw [decide_beside_of_redirectsBy hone ha hby]
    refine iff_of_false nofun ?_
    rintro ⟨text, hne, hby', -⟩
    exact hne (hby'.unique hby)
  · rw [decide_beside_of_not hone ha hby, redirect_eq_some_iff]
    refine exists_congr fun text => (and_iff_right_of_imp ?_).symm
    rintro ⟨hby', -⟩ rfl
    exact hby hby'

/-- A block that offers a redirect of that name. -/
def offer (text : String) : Candidate := ⟨.ofParts [] .block .empty { redirect := some text } none "", ""⟩

/-- An exception that takes redirects of that name away. -/
def exception (text : String) : Candidate :=
  ⟨.ofParts [] .allow Flag.redirectRule.set { redirect := some text } none "", ""⟩

theorem class_offer (text : String) (important : Bool) : (offer text).isBlock important = !important ∧
    (offer text).isAllow important = false ∧ (offer text).isRedirectException = false := by
  cases important <;> simp [offer, Candidate.isBlock, Candidate.isAllow, Candidate.isRedirectException,
    Candidate.decides, NetworkFilter.ofParts, NetworkFilter.isImportant, NetworkFilter.isCsp,
    NetworkFilter.isCosmeticException, NetworkFilter.has]

theorem redirectsBy_offer (h : (Resource.find? text).isSome = true) : RedirectsBy [offer text] text := by
  have hclass := class_offer text
  have hstops : stops (decide [offer text]) := by
    simp [stops_decide_iff, Has, hclass]
  have hsource : source? [offer text] = some (offer text) := by
    have hblocker : blocker? [offer text] = some (offer text) := by simp [blocker?, hclass]
    rw [source?, hblocker]
    rfl
  have hredirect : redirectOf [offer text] (offer text) = Resource.find? text := by
    have hcancelled : cancelled [offer text] = [] := by simp [cancelled, (hclass false).2.2]
    rw [redirectOf, hcancelled]
    rfl
  obtain ⟨block, -, hdecide⟩ := decide_eq_stoppedBy hstops
  obtain ⟨redirect, hfind⟩ := Option.isSome_iff_exists.1 h
  rw [hsource, Option.bind_some, hredirect, hfind] at hdecide
  refine ⟨?_, offer text, hsource, rfl⟩
  rw [hdecide]
  rfl

theorem excepts_exception (name : String) : (exception (Resource.keptName name)).Excepts name := by
  constructor
  · simp [exception, Candidate.isRedirectException, Candidate.decides, NetworkFilter.ofParts,
      NetworkFilter.isCsp, NetworkFilter.isCosmeticException, NetworkFilter.has, Flag.set, Flag.index]
  · rfl

/-- Two names of one resource in exceptions. An option leaves the kept name with its filter. Exceptions of
both names act alike among all candidates just when the kept names are the same text; among given ones
they do when neither is the name that the redirect has there; and a redirect to the resource is left
beside an exception just when it has another name. -/
theorem names_act_alike_iff {resource : Redirect} (ha : Resource.find? a = some resource)
    (hb : Resource.find? b = some resource) :
    (∀ draft : FilterOptions.Draft, draft.add ("redirect-rule=".toList ++ a.toList) =
      .ok ({ draft with options.redirect := some (Resource.keptName a) }.withFlag .redirectRule)) ∧
    ((∀ (before after : List Candidate) (one other : Candidate), one.Excepts a → other.Excepts b →
        decide (before ++ one :: after) = decide (before ++ other :: after)) ↔
      Resource.keptName a = Resource.keptName b) ∧
    (∀ (before after : List Candidate) (one other : Candidate), one.Excepts a → other.Excepts b →
      (decide (before ++ one :: after) = decide (before ++ other :: after) ↔
        Resource.keptName a = Resource.keptName b ∨ ∀ text, RedirectsBy (before ++ after) text →
          text ≠ Resource.keptName a ∧ text ≠ Resource.keptName b)) ∧
    ∀ (before after : List Candidate) (one : Candidate), one.Excepts a →
      ((decide (before ++ one :: after)).redirect = some resource ↔
        ∃ text, text ≠ Resource.keptName a ∧ RedirectsBy (before ++ after) text ∧
          Resource.find? text = some resource) := by
  have ha : (Resource.find? a).isSome = true := by rw [ha]; rfl
  have hb : (Resource.find? b).isSome = true := by rw [hb]; rfl
  refine ⟨FilterOptions.Draft.add_redirectRule ha, ⟨fun hlaw => ?_, fun hkept before after one other => ?_⟩,
    fun _ _ _ _ => same_effect_iff ha hb, fun _ _ _ => redirect_beside_iff ha⟩
  · have hby : RedirectsBy ([offer (Resource.keptName a)] ++ []) (Resource.keptName a) :=
      redirectsBy_offer ((Resource.find?_keptName a).symm ▸ ha)
    have hsame := hlaw [offer (Resource.keptName a)] [] _ _ (excepts_exception a) (excepts_exception b)
    rw [same_effect_iff ha hb (excepts_exception a) (excepts_exception b)] at hsame
    exact hsame.resolve_right fun hnone => (hnone _ hby).1 rfl
  · exact fun hone hother => (same_effect_iff ha hb hone hother).2 (.inl hkept)

theorem names_act_alike_iff_upper_case : Resource.find? "NOOP.JS " = Resource.find? "noop.js" ∧
    ∀ (before after : List Candidate) (one other : Candidate), one.Excepts "NOOP.JS " →
      other.Excepts "noop.js" →
      decide (before ++ one :: after) = decide (before ++ other :: after) := by
  have hfind : Resource.find? "noop.js" =
      some ⟨"noop.js", "/redirects/noop.js", "data:application/javascript,"⟩ := by
    decide
  have hsame : Resource.find? "NOOP.JS " = Resource.find? "noop.js" := by decide
  exact ⟨hsame, (names_act_alike_iff (hsame.trans hfind) hfind).2.1.2 (by decide)⟩

/-- An exception under an alias leaves the redirect as it is. -/
theorem alias_excepts_nothing : Resource.find? "noopjs" = Resource.find? "noop.js" ∧
    (decide (candidatesOf ["||ads.com^$redirect=noop.js", "@@||ads.com^$redirect-rule=noop.js"])).decision =
      .block ∧
    (decide (candidatesOf ["||ads.com^$redirect=noop.js", "@@||ads.com^$redirect-rule=noopjs"])).decision =
      .redirect := by
  decide +kernel

end Precedence

end ContentFilter
