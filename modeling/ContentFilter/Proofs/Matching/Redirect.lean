import ContentFilter.Proofs.Matching.Precedence
import Mathlib.Data.List.Perm.Basic

/-! Which redirect a stopped request gets. Of all that the candidates offer only one is looked at: that of
the deciding block, or the first. If this one is not to be had, the others do not take its place. -/

namespace ContentFilter

namespace NetworkFilter

/-- A block that names a redirect, whether or not it blocks by itself. -/
structure Offers (filter : NetworkFilter) (name : String) : Prop extends filter.IsAboutRequests where
  action : filter.action = .block
  redirect : filter.redirect = some name

/-- An exception that takes redirects of the name away. Without a name, or with a star, it takes all. -/
structure Cancels (filter : NetworkFilter) (name : String) : Prop extends filter.IsAboutRequests where
  action : filter.action = .allow
  redirectRule : filter.has .redirectRule = true
  names : filter.redirect = none ∨ filter.redirect = some "*" ∨ filter.redirect = some name

end NetworkFilter

namespace Precedence

variable {candidate : Candidate} {candidates order rest : List Candidate}

/-- The candidate offers a redirect that there is, and no candidate takes it away. -/
def Usable (candidates : List Candidate) (candidate : Candidate) : Prop :=
  ∃ name, candidate.filter.Offers name ∧ (Resource.find? name).isSome = true ∧
    ∀ other ∈ candidates, ¬other.filter.Cancels name

def HasUsable (candidates : List Candidate) : Prop :=
  ∃ candidate ∈ candidates, Usable candidates candidate

theorem offersRedirect_iff :
    candidate.offersRedirect = true ↔ ∃ name, candidate.filter.Offers name := by
  simp only [Candidate.offersRedirect, Bool.and_eq_true, beq_iff_eq, Candidate.decides_iff,
    Option.isSome_iff_exists]
  constructor
  · rintro ⟨⟨hrequests, haction⟩, name, hname⟩
    exact ⟨name, hrequests, haction, hname⟩
  · rintro ⟨name, hrequests, haction, hname⟩
    exact ⟨⟨hrequests, haction⟩, name, hname⟩

theorem cancels_iff {name : String} : candidate.filter.Cancels name ↔
    candidate.isRedirectException = true ∧
      (candidate.filter.redirect.getD "*" = "*" ∨ candidate.filter.redirect.getD "*" = name) := by
  have hexception : candidate.isRedirectException = true ↔ candidate.filter.IsAboutRequests ∧
      candidate.filter.action = .allow ∧ candidate.filter.has .redirectRule = true := by
    simp [Candidate.isRedirectException, Candidate.decides_iff, and_assoc]
  have hnames : (candidate.filter.redirect = none ∨ candidate.filter.redirect = some "*" ∨
      candidate.filter.redirect = some name) ↔
      candidate.filter.redirect.getD "*" = "*" ∨ candidate.filter.redirect.getD "*" = name := by
    cases candidate.filter.redirect <;> simp
  rw [hexception, ← hnames]
  constructor
  · rintro ⟨hrequests, haction, hrule, hname⟩
    exact ⟨⟨hrequests, haction, hrule⟩, hname⟩
  · rintro ⟨⟨hrequests, haction, hrule⟩, hname⟩
    exact ⟨hrequests, haction, hrule, hname⟩

theorem exists_cancels_iff (name : String) : (∃ other ∈ candidates, other.filter.Cancels name) ↔
    "*" ∈ cancelled candidates ∨ name ∈ cancelled candidates := by
  have hmem (name : String) : name ∈ cancelled candidates ↔ ∃ other ∈ candidates,
      other.isRedirectException = true ∧ other.filter.redirect.getD "*" = name := by
    simp [cancelled, and_assoc]
  simp only [hmem, cancels_iff, and_or_left, exists_or]

/-- The redirect of one candidate, if there is such a thing and nobody takes it away. -/
def redirectOf (candidates : List Candidate) (source : Candidate) : Option Redirect := do
  let name ← source.filter.redirect
  let cancelled := cancelled candidates
  if cancelled.contains "*" || cancelled.contains name then none else Resource.find? name

/-- The one candidate whose redirect is looked at when a block decides. -/
def sourceFor (candidates : List Candidate) (block : Candidate) : Option Candidate :=
  if block.filter.redirect.isSome then some block else candidates.find? (·.offersRedirect)

theorem redirectFor_eq (candidates : List Candidate) (block : Candidate) :
    redirectFor candidates block = (sourceFor candidates block).bind (redirectOf candidates) := by
  unfold redirectFor sourceFor
  split <;> rfl

theorem redirectOf_isSome_iff (h : candidate.offersRedirect = true) :
    (redirectOf candidates candidate).isSome = true ↔ Usable candidates candidate := by
  obtain ⟨name, hoffers⟩ := offersRedirect_iff.1 h
  have hnone : (∀ other ∈ candidates, ¬other.filter.Cancels name) ↔
      ¬("*" ∈ cancelled candidates ∨ name ∈ cancelled candidates) := by
    rw [← exists_cancels_iff]
    simp
  have husable : Usable candidates candidate ↔ (Resource.find? name).isSome = true ∧
      ¬("*" ∈ cancelled candidates ∨ name ∈ cancelled candidates) := by
    rw [← hnone]
    constructor
    · rintro ⟨other, hother, hfind, hcancels⟩
      cases hoffers.redirect.symm.trans hother.redirect
      exact ⟨hfind, hcancels⟩
    · rintro ⟨hfind, hcancels⟩
      exact ⟨name, hoffers, hfind, hcancels⟩
  rw [husable]
  simp only [redirectOf, hoffers.redirect, Option.bind_eq_bind, Option.bind_some, Bool.or_eq_true,
    List.contains_iff_mem]
  split <;> simp [*]

/-- The blocking candidates that are of the deciding rank. -/
def IsBlocker (candidates : List Candidate) (candidate : Candidate) : Prop :=
  candidate ∈ candidates ∧
    ∃ rank : Rank, rank.Decides candidates ∧ rank.action = .block ∧ rank.Includes candidate.filter

/-- The block that decides, if none of the exceptions does. -/
def blocker? (candidates : List Candidate) : Option Candidate :=
  (candidates.find? (·.isBlock true)).or (candidates.find? (·.isBlock false))

theorem blocker?_eq {rank : Rank} (hdecides : rank.Decides candidates) (haction : rank.action = .block) :
    blocker? candidates = candidates.find? rank.isOf := by
  unfold blocker?
  cases rank with
  | importantAllow => cases haction
  | allow => cases haction
  | importantBlock =>
    obtain ⟨block, hblock⟩ := Rank.exists_find? hdecides.occurs
    simp only [Rank.isOf] at hblock ⊢
    simp [hblock]
  | block =>
    have hnone := Rank.find?_eq_none (hdecides.first .importantBlock (by simp [Rank.ahead]))
    simp only [Rank.isOf] at hnone ⊢
    simp [hnone]

theorem exists_blocker (h : stops (decide candidates)) : ∃ block, blocker? candidates = some block ∧
    IsBlocker candidates block ∧ decide candidates = blocked candidates block := by
  obtain ⟨rank, hdecides, haction⟩ := Rank.exists_decides_of_stops h
  obtain ⟨block, hfind, hdecide⟩ := hdecides.exists_decide_eq
  have hincludes := Rank.isOf_iff.1 (List.find?_some hfind)
  refine ⟨block, by rw [blocker?_eq hdecides haction, hfind],
    ⟨List.mem_of_find?_eq_some hfind, rank, hdecides, haction, hincludes⟩, ?_⟩
  rw [hdecide]
  cases rank with
  | importantAllow => cases haction
  | allow => cases haction
  | importantBlock => rfl
  | block => rfl

/-- The one candidate whose redirect decides how a request is stopped. -/
def source? (candidates : List Candidate) : Option Candidate :=
  (blocker? candidates).bind (sourceFor candidates)

theorem isBlocker_offers (h : IsBlocker candidates candidate) (hredirect : candidate.filter.redirect.isSome) :
    candidate.offersRedirect = true := by
  obtain ⟨-, rank, -, haction, hincludes⟩ := h
  obtain ⟨name, hname⟩ := Option.isSome_iff_exists.1 hredirect
  exact offersRedirect_iff.2
    ⟨name, hincludes.toIsAboutRequests, hincludes.action.trans haction, hname⟩

/-- A candidate that may be the one, in some order: a block that may decide, or any candidate where a
block without a redirect may decide. -/
def MaySupply (candidates : List Candidate) (candidate : Candidate) : Prop :=
  candidate ∈ candidates ∧ candidate.offersRedirect = true ∧
    (IsBlocker candidates candidate ∨
      ∃ block, IsBlocker candidates block ∧ block.filter.redirect = none)

theorem maySupply_of_source? (h : stops (decide candidates))
    (hsource : source? candidates = some candidate) : MaySupply candidates candidate := by
  obtain ⟨block, hblock, hisBlocker, -⟩ := exists_blocker h
  rw [source?, hblock, Option.bind_some, sourceFor] at hsource
  split at hsource
  · next hredirect =>
    cases hsource
    exact ⟨hisBlocker.1, isBlocker_offers hisBlocker hredirect, .inl hisBlocker⟩
  · next hredirect =>
    exact ⟨List.mem_of_find?_eq_some hsource, List.find?_some hsource,
      .inr ⟨block, hisBlocker, by simpa using hredirect⟩⟩

/-- Where there is none to look at, no candidate offers anything. -/
theorem not_offersRedirect_of_source? (h : stops (decide candidates))
    (hsource : source? candidates = none) : ∀ candidate ∈ candidates, candidate.offersRedirect = false := by
  obtain ⟨block, hblock, -, -⟩ := exists_blocker h
  rw [source?, hblock, Option.bind_some, sourceFor] at hsource
  split at hsource
  · cases hsource
  · simpa using hsource

/-- A request is redirected just when the redirect of this one candidate is to be had. -/
theorem decision_redirect_iff (h : stops (decide candidates)) :
    (decide candidates).decision = .redirect ↔
      ∃ source, source? candidates = some source ∧ Usable candidates source := by
  obtain ⟨block, hblock, -, hdecide⟩ := exists_blocker h
  have hredirect : (decide candidates).decision = .redirect ↔
      ((source? candidates).bind (redirectOf candidates)).isSome = true := by
    rw [hdecide, source?, hblock, Option.bind_some, ← redirectFor_eq, blocked]
    cases redirectFor candidates block <;> simp [MatchResult.decidedBy]
  rw [hredirect]
  cases hsource : source? candidates with
  | none => simp
  | some source =>
    simpa using redirectOf_isSome_iff (maySupply_of_source? h hsource).2.1

section Order

variable (horder : order.Perm candidates)
include horder

theorem isBlocker_perm : IsBlocker order candidate ↔ IsBlocker candidates candidate := by
  simp only [IsBlocker, horder.mem_iff, Rank.decides_congr fun _ => horder.mem_iff]

theorem usable_perm : Usable order candidate ↔ Usable candidates candidate := by
  simp only [Usable, horder.mem_iff]

theorem hasUsable_perm : HasUsable order ↔ HasUsable candidates := by
  simp only [HasUsable, horder.mem_iff, usable_perm horder]

theorem maySupply_perm : MaySupply order candidate ↔ MaySupply candidates candidate := by
  simp only [MaySupply, horder.mem_iff, isBlocker_perm horder]

theorem stops_perm : stops (decide order) ↔ stops (decide candidates) :=
  Rank.stops_congr fun _ => horder.mem_iff

end Order

theorem blocker?_head (h : IsBlocker (candidate :: rest) candidate) :
    blocker? (candidate :: rest) = some candidate := by
  obtain ⟨-, rank, hdecides, haction, hincludes⟩ := h
  rw [blocker?_eq hdecides haction, List.find?_cons_of_pos (Rank.isOf_iff.2 hincludes)]

/-- Each of them is the one that is looked at when it comes first, after the block that lets it. -/
theorem exists_order (h : MaySupply candidates candidate) :
    ∃ order, order.Perm candidates ∧ source? order = some candidate := by
  obtain ⟨hmem, hoffers, hblocker | ⟨block, hblocker, hnone⟩⟩ := h
  · have horder : (candidate :: candidates.erase candidate).Perm candidates :=
      (List.perm_cons_erase hmem).symm
    refine ⟨_, horder, ?_⟩
    obtain ⟨name, hname⟩ := offersRedirect_iff.1 hoffers
    rw [source?, blocker?_head ((isBlocker_perm horder).2 hblocker), Option.bind_some, sourceFor,
      if_pos (by simp [hname.redirect])]
  · have hquiet : block.offersRedirect = false := by simp [Candidate.offersRedirect, hnone]
    have hne : candidate ≠ block := by
      rintro rfl
      rw [hoffers] at hquiet
      cases hquiet
    have hrest : candidate ∈ candidates.erase block := (List.mem_erase_of_ne hne).2 hmem
    have horder : (block :: candidate :: (candidates.erase block).erase candidate).Perm candidates :=
      ((List.perm_cons_erase hrest).symm.cons block).trans (List.perm_cons_erase hblocker.1).symm
    refine ⟨_, horder, ?_⟩
    rw [source?, blocker?_head ((isBlocker_perm horder).2 hblocker), Option.bind_some, sourceFor,
      if_neg (by simp [hnone]), List.find?_cons_of_neg (by simp [hquiet]),
      List.find?_cons_of_pos hoffers]

/-- In some order the request is redirected just when some candidate that may be looked at is usable. -/
theorem decision_of_order (h : stops (decide candidates)) (hmay : MaySupply candidates candidate) :
    ∃ order, order.Perm candidates ∧
      ((decide order).decision = .redirect ↔ Usable candidates candidate) := by
  obtain ⟨order, horder, hsource⟩ := exists_order hmay
  refine ⟨order, horder, ?_⟩
  rw [decision_redirect_iff ((stops_perm horder).2 h), hsource, ← usable_perm horder]
  simp

/-- A redirect that is to be had is looked at in some order, or another one is. -/
theorem exists_source_of_hasUsable (h : stops (decide candidates)) (husable : HasUsable candidates) :
    ∃ source, source? candidates = some source := by
  obtain ⟨candidate, hmem, name, hoffers, -⟩ := husable
  rw [← Option.isSome_iff_exists, Option.isSome_iff_ne_none]
  intro hnone
  have hquiet := not_offersRedirect_of_source? h hnone candidate hmem
  rw [offersRedirect_iff.2 ⟨name, hoffers⟩] at hquiet
  cases hquiet

section Orders

variable (h : stops (decide candidates))
include h

theorem order_redirect_iff (horder : order.Perm candidates) : (decide order).decision = .redirect ↔
    ∃ source, source? order = some source ∧ MaySupply candidates source ∧
      Usable candidates source := by
  have h := (stops_perm horder).2 h
  rw [decision_redirect_iff h]
  refine exists_congr fun source => and_congr_right fun hsource => ?_
  rw [usable_perm horder, ← maySupply_perm horder]
  exact (and_iff_right (maySupply_of_source? h hsource)).symm

theorem every_order_redirects_iff : (∀ order : List Candidate, order.Perm candidates →
      ((decide order).decision = .redirect ↔ HasUsable candidates)) ↔
    (HasUsable candidates → ∀ candidate, MaySupply candidates candidate →
      Usable candidates candidate) := by
  constructor
  · intro hall husable candidate hmay
    obtain ⟨order, horder, hdecision⟩ := decision_of_order h hmay
    exact hdecision.1 ((hall order horder).2 husable)
  · intro hall order horder
    rw [order_redirect_iff h horder]
    constructor
    · rintro ⟨source, -, hmay, husable⟩
      exact ⟨source, hmay.1, husable⟩
    · intro husable
      have h := (stops_perm horder).2 h
      obtain ⟨source, hsource⟩ := exists_source_of_hasUsable h ((hasUsable_perm horder).2 husable)
      have hmay := (maySupply_perm horder).1 (maySupply_of_source? h hsource)
      exact ⟨source, hsource, hmay, hall husable source hmay⟩

theorem every_order_agrees_iff : (∀ order : List Candidate, order.Perm candidates →
      (decide order).decision = (decide candidates).decision) ↔
    (∀ candidate, MaySupply candidates candidate → Usable candidates candidate) ∨
      ∀ candidate, MaySupply candidates candidate → ¬Usable candidates candidate := by
  constructor
  · intro hall
    by_cases hredirect : (decide candidates).decision = .redirect
    · left
      intro candidate hmay
      obtain ⟨order, horder, hdecision⟩ := decision_of_order h hmay
      exact hdecision.1 ((hall order horder).trans hredirect)
    · right
      intro candidate hmay husable
      obtain ⟨order, horder, hdecision⟩ := decision_of_order h hmay
      exact hredirect ((hall order horder).symm.trans (hdecision.2 husable))
  · intro hmay order horder
    -- two requests that are stopped are stopped alike if both are redirected or neither is
    have hsame : (decide order).decision = .redirect ↔ (decide candidates).decision = .redirect := by
      rcases hmay with hall | hnone
      · have hevery := (every_order_redirects_iff h).2 fun _ => hall
        rw [hevery order horder, hevery candidates (.refl candidates)]
      · rw [order_redirect_iff h horder, order_redirect_iff h (.refl candidates)]
        constructor
        · rintro ⟨source, -, hmay, husable⟩
          exact absurd husable (hnone source hmay)
        · rintro ⟨source, -, hmay, husable⟩
          exact absurd husable (hnone source hmay)
    rcases (stops_perm horder).2 h with hblock | hredirect
    · rcases h with hblock' | hredirect
      · rw [hblock, hblock']
      · rw [hsame.2 hredirect, hredirect]
    · rw [hredirect, hsame.1 hredirect]

end Orders

/-- A stopped request is redirected when the one candidate that is looked at is usable, and only then. So
in every order of the candidates it is redirected just when one of them is usable, if no other one may be
looked at in its place; and all orders give the same answer just when those that may be looked at are all
usable or none is. -/
theorem redirects_iff (h : stops (decide candidates)) :
    ((decide candidates).decision = .redirect ↔
      ∃ source, source? candidates = some source ∧ Usable candidates source) ∧
    ((∀ order : List Candidate, order.Perm candidates →
        ((decide order).decision = .redirect ↔ HasUsable candidates)) ↔
      (HasUsable candidates → ∀ candidate, MaySupply candidates candidate →
        Usable candidates candidate)) ∧
    ((∀ order : List Candidate, order.Perm candidates →
        (decide order).decision = (decide candidates).decision) ↔
      (∀ candidate, MaySupply candidates candidate → Usable candidates candidate) ∨
        ∀ candidate, MaySupply candidates candidate → ¬Usable candidates candidate) :=
  ⟨decision_redirect_iff h, every_order_redirects_iff h, every_order_agrees_iff h⟩

instance : Decidable (Usable candidates candidate) :=
  decidable_of_iff
    (candidate.offersRedirect = true ∧ (redirectOf candidates candidate).isSome = true) <| by
    constructor
    · rintro ⟨hoffers, hredirect⟩
      exact (redirectOf_isSome_iff hoffers).1 hredirect
    · rintro ⟨name, hoffers, hrest⟩
      have hoffers' := offersRedirect_iff.2 ⟨name, hoffers⟩
      exact ⟨hoffers', (redirectOf_isSome_iff hoffers').2 ⟨name, hoffers, hrest⟩⟩

instance : Decidable (HasUsable candidates) :=
  inferInstanceAs (Decidable (∃ candidate ∈ candidates, Usable candidates candidate))

instance (result : MatchResult) : Decidable (stops result) :=
  inferInstanceAs (Decidable (result.decision = .block ∨ result.decision = .redirect))

def twoOffers : List Candidate :=
  candidatesOf ["||ads.com^$redirect-rule=1x1.gif", "||ads.com^$redirect=noopjs", "||ads.com^"]

/-- Where all redirects on offer are usable the order does not matter. -/
theorem redirects_iff_two_offers : stops (decide twoOffers) ∧ HasUsable twoOffers ∧
    ∀ order : List Candidate, order.Perm twoOffers →
      ((decide order).decision = .redirect ↔ HasUsable twoOffers) := by
  have hstops : stops (decide twoOffers) := by decide +kernel
  have husable : ∀ candidate ∈ twoOffers, candidate.offersRedirect = true →
      Usable twoOffers candidate := by decide +kernel
  refine ⟨hstops, by decide +kernel, (redirects_iff hstops).2.1.2 fun _ candidate hmay => ?_⟩
  exact husable candidate hmay.1 hmay.2.1

def missingFirst : List Candidate :=
  candidatesOf ["||ads.com^$redirect-rule=missing.js", "||ads.com^$redirect-rule=noopjs", "||ads.com^"]

/-- A redirect that does not exist hides the one after it, but not the one before it. -/
theorem missing_hides_usable : stops (decide missingFirst) ∧ HasUsable missingFirst ∧
    (decide missingFirst).decision = .block ∧
    (decide missingFirst.reverse).decision = .redirect := by
  decide +kernel

end Precedence

end ContentFilter
