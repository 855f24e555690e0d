import ContentFilter.Proofs.Data.Distinct
import ContentFilter.Proofs.Data.Traverse

/-! Lists without members that repeat an earlier one. What treats a member and its repetitions alike
cannot tell such a list from the whole one. -/

namespace ContentFilter

/-- The second list is the first one without some members, each of which repeats one that stays before
it or was seen before the list. -/
inductive Thinned {α : Type} (repeated : α → α → Prop) : List α → List α → List α → Prop
  | nil {seen : List α} : Thinned repeated seen [] []
  | keep {seen as bs : List α} (a : α) (hrest : Thinned repeated (a :: seen) as bs) :
      Thinned repeated seen (a :: as) (a :: bs)
  | drop {seen as bs : List α} {a b : α} (hseen : b ∈ seen) (hrepeated : repeated b a)
      (hrest : Thinned repeated seen as bs) : Thinned repeated seen (a :: as) bs

namespace Thinned

variable {α β : Type} {repeated : α → α → Prop} {seen more as bs cs ds : List α}

theorem refl (as : List α) : Thinned repeated seen as as := by
  induction as generalizing seen with
  | nil => exact nil
  | cons a as ih => exact keep a ih

theorem mono (h : Thinned repeated seen as bs) (hmore : seen ⊆ more) :
    Thinned repeated more as bs := by
  induction h generalizing more with
  | nil => exact nil
  | keep a _ ih => exact keep a (ih (List.cons_subset_cons a hmore))
  | drop hseen hrepeated _ ih => exact drop (hmore hseen) hrepeated (ih hmore)

theorem append (h : Thinned repeated seen as bs) (hrest : Thinned repeated [] cs ds) :
    Thinned repeated seen (as ++ cs) (bs ++ ds) := by
  induction h with
  | nil => exact hrest.mono (List.nil_subset _)
  | keep a _ ih => exact keep a ih
  | drop hseen hrepeated _ ih => exact drop hseen hrepeated ih

theorem flatten {xs ys : List (List α)} (h : List.Forall₂ (Thinned repeated []) xs ys) :
    Thinned repeated [] xs.flatten ys.flatten := by
  induction h with
  | nil => exact nil
  | cons hfirst _ ih => exact hfirst.append ih

theorem flatMap {f g : β → List α} (xs : List β) (h : ∀ x, Thinned repeated [] (f x) (g x)) :
    Thinned repeated [] (xs.flatMap f) (xs.flatMap g) := by
  induction xs with
  | nil => exact nil
  | cons x xs ih => exact (h x).append ih

/-- Repetitions have the same image or none. -/
theorem filterMap {repeated' : β → β → Prop} {f : α → Option β}
    (hf : ∀ a b, repeated a b → Option.Rel repeated' (f a) (f b)) (h : Thinned repeated seen as bs) :
    Thinned repeated' (seen.filterMap f) (as.filterMap f) (bs.filterMap f) := by
  induction h with
  | nil => exact nil
  | keep a _ ih =>
    rw [List.filterMap_cons] at ih
    rw [List.filterMap_cons, List.filterMap_cons]
    cases hfa : f a with
    | none => simpa only [hfa] using ih
    | some c => exact keep c (by simpa only [hfa] using ih)
  | @drop seen _ _ a b hseen hrepeated _ ih =>
    have hrel := hf b a hrepeated
    rw [List.filterMap_cons]
    cases hfa : f a with
    | none => exact ih
    | some c =>
      rw [hfa] at hrel
      obtain ⟨d, hfb⟩ : ∃ d, f b = some d := by
        cases hfb : f b with
        | none => rw [hfb] at hrel; cases hrel
        | some d => exact ⟨d, rfl⟩
      rw [hfb] at hrel
      cases hrel with
      | some hsame => exact drop (List.mem_filterMap.2 ⟨b, hseen, hfb⟩) hsame ih

theorem map {repeated' : β → β → Prop} {f : α → β}
    (hf : ∀ a b, repeated a b → repeated' (f a) (f b)) (h : Thinned repeated seen as bs) :
    Thinned repeated' (seen.map f) (as.map f) (bs.map f) := by
  simp only [← List.filterMap_eq_map]
  exact h.filterMap fun a b hab => .some (hf a b hab)

theorem filter {p : α → Bool} (hp : ∀ a b, repeated a b → p a = p b)
    (h : Thinned repeated seen as bs) :
    Thinned repeated (seen.filter p) (as.filter p) (bs.filter p) := by
  rw [← List.filterMap_eq_filter]
  refine h.filterMap fun a b hab => ?_
  rw [Option.guard, Option.guard, hp a b hab]
  split
  · exact .some hab
  · exact .none

theorem find?_eq {p : α → Bool} (hp : ∀ a b, repeated a b → p a = p b)
    (h : Thinned repeated seen as bs) (hseen : ∀ b ∈ seen, p b = false) :
    as.find? p = bs.find? p := by
  induction h with
  | nil => rfl
  | keep a _ ih =>
    rw [List.find?_cons, List.find?_cons]
    cases ha : p a with
    | true => rfl
    | false => exact ih (List.forall_mem_cons.2 ⟨ha, hseen⟩)
  | drop hmem hrepeated _ ih =>
    rw [List.find?_cons, ← hp _ _ hrepeated, hseen _ hmem]
    exact ih hseen

theorem any_eq {p : α → Bool} (hp : ∀ a b, repeated a b → p a = p b)
    (h : Thinned repeated [] as bs) : as.any p = bs.any p := by
  rw [Bool.eq_iff_iff, List.any_eq_true, List.any_eq_true, ← List.find?_isSome, ← List.find?_isSome,
    h.find?_eq hp (List.forall_mem_nil _)]

theorem contains_eq [BEq α] (h : Thinned Eq [] as bs) (a : α) : as.contains a = bs.contains a := by
  rw [List.contains_eq_any_beq, List.contains_eq_any_beq]
  exact h.any_eq fun b c hbc => by rw [hbc]

theorem distinctFrom_eq [BEq α] [Hashable α] [LawfulBEq α] {found : Std.HashSet α}
    (h : Thinned Eq seen as bs) (hfound : ∀ a ∈ seen, a ∈ found) :
    distinctFrom id found as = distinctFrom id found bs := by
  induction h generalizing found with
  | nil => rfl
  | keep a _ ih =>
    rw [distinctFrom, distinctFrom]
    split
    · next hmem => exact ih (List.forall_mem_cons.2 ⟨hmem, hfound⟩)
    · refine congrArg _ (ih (List.forall_mem_cons.2 ⟨?_, fun b hb => ?_⟩))
      · exact Std.HashSet.mem_insert_self
      · exact Std.HashSet.mem_insert.2 (.inr (hfound b hb))
  | drop hmem hrepeated _ ih =>
    subst hrepeated
    have hcontains : found.contains _ = true := hfound _ hmem
    rw [distinctFrom, id, if_pos hcontains]
    exact ih hfound

theorem distinct_eq [BEq α] [Hashable α] [LawfulBEq α] (h : Thinned Eq [] as bs) :
    distinct as = distinct bs := h.distinctFrom_eq (List.forall_mem_nil _)

/-- First occurrences, of members whose equal keys make them repetitions. -/
theorem of_distinctFrom [BEq β] [Hashable β] [LawfulBEq β] [LawfulHashable β] {key : α → β}
    {found : Std.HashSet β} {P : α → Prop} (hkey : ∀ a b, P a → P b → key a = key b → repeated a b)
    (has : ∀ a ∈ as, P a) (hseen : ∀ a ∈ seen, P a)
    (hfound : ∀ k ∈ found, ∃ b ∈ seen, key b = k) :
    Thinned repeated seen as (distinctFrom key found as) := by
  induction as generalizing seen found with
  | nil => exact nil
  | cons a as ih =>
    obtain ⟨ha, has⟩ := List.forall_mem_cons.1 has
    rw [distinctFrom]
    split
    · next hmem =>
      obtain ⟨b, hb, hsame⟩ := hfound (key a) hmem
      exact drop hb (hkey b a (hseen b hb) ha hsame) (ih has hseen hfound)
    · refine keep a (ih has (List.forall_mem_cons.2 ⟨ha, hseen⟩) fun k hk => ?_)
      rcases Std.HashSet.mem_insert.1 hk with hk | hk
      · exact ⟨a, List.mem_cons_self, beq_iff_eq.1 hk⟩
      · obtain ⟨b, hb, hsame⟩ := hfound k hk
        exact ⟨b, List.mem_cons_of_mem a hb, hsame⟩

theorem distinctBy [BEq β] [Hashable β] [LawfulBEq β] [LawfulHashable β] {key : α → β}
    (hkey : ∀ a ∈ as, ∀ b ∈ as, key a = key b → repeated a b) :
    Thinned repeated [] as (distinctBy key as) :=
  of_distinctFrom (P := (· ∈ as)) (fun a b ha hb => hkey a ha b hb) (fun _ => id)
    (List.forall_mem_nil _) fun _ hk => absurd hk Std.HashSet.not_mem_empty

end Thinned

/-- Both computations fail with the same error, or their results are so related. -/
inductive Alike {ε α β : Type} (related : α → β → Prop) : Except ε α → Except ε β → Prop
  | error (e : ε) : Alike related (.error e) (.error e)
  | ok {a : α} {b : β} (h : related a b) : Alike related (.ok a) (.ok b)

namespace Alike

variable {ε α β γ δ : Type} {related : α → β → Prop} {x : Except ε α} {y : Except ε β}

theorem bind {related' : γ → δ → Prop} {f : α → Except ε γ} {g : β → Except ε δ}
    (h : Alike related x y) (hrest : ∀ a b, related a b → Alike related' (f a) (g b)) :
    Alike related' (x >>= f) (y >>= g) := by
  cases h with
  | error e => exact error e
  | ok h => exact hrest _ _ h

theorem bind_eq {f : α → Except ε γ} {g : β → Except ε γ} (h : Alike related x y)
    (hsame : ∀ a b, related a b → f a = g b) : x >>= f = y >>= g := by
  cases h with
  | error e => rfl
  | ok h => exact hsame _ _ h

theorem map {related' : γ → δ → Prop} {f : α → γ} {g : β → δ} (h : Alike related x y)
    (hsame : ∀ a b, related a b → related' (f a) (g b)) : Alike related' (x.map f) (y.map g) := by
  cases h with
  | error e => exact error e
  | ok h => exact ok (hsame _ _ h)

theorem map_left {related' : γ → β → Prop} {f : α → γ} (h : Alike related x y)
    (hsame : ∀ a b, related a b → related' (f a) b) : Alike related' (x.map f) y := by
  cases h with
  | error e => exact error e
  | ok h => exact ok (hsame _ _ h)

theorem map_eq {f : α → γ} {g : β → γ} (h : Alike related x y)
    (hsame : ∀ a b, related a b → f a = g b) : x.map f = y.map g := by
  cases h with
  | error e => rfl
  | ok h => exact congrArg Except.ok (hsame _ _ h)

theorem mapM {f : γ → Except ε α} {g : δ → Except ε β} {cs : List γ} {ds : List δ}
    (h : List.Forall₂ (fun c d => Alike related (f c) (g d)) cs ds) :
    Alike (List.Forall₂ related) (cs.mapM f) (ds.mapM g) := by
  induction h with
  | nil => exact ok .nil
  | cons hfirst _ ih =>
    rw [List.mapM_cons, List.mapM_cons]
    exact hfirst.bind fun a b hab => ih.bind fun as bs hrest => ok (.cons hab hrest)

/-- Tests that answer alike keep the same members of two lists. -/
theorem filterM {p : α → Except ε Bool} {q : β → Except ε Bool} {as : List α} {bs : List β}
    (hp : ∀ a b, related a b → q b = p a) (h : List.Forall₂ related as bs) :
    Alike (List.Forall₂ related) (as.filterM p) (bs.filterM q) := by
  induction h with
  | nil => exact .ok .nil
  | @cons a b as bs hab _ ih =>
    rw [filterM_cons, filterM_cons, hp a b hab]
    cases p a with
    | error fault => exact .error fault
    | ok passes =>
      cases passes with
      | false => exact ih.map fun _ _ => id
      | true => exact ih.map fun _ _ => .cons hab

end Alike

/-- A test that answers the same of repetitions fails on the first member it fails on, which stays. -/
theorem Thinned.filterM {ε α : Type} {repeated : α → α → Prop} {p : α → Except ε Bool}
    {seen as bs : List α} (hp : ∀ a b, repeated a b → p a = p b) (h : Thinned repeated seen as bs)
    (hseen : ∀ b ∈ seen, ∃ passes, p b = .ok passes) :
    Alike (Thinned repeated (seen.filter fun b => (p b).toOption == some true))
      (as.filterM p) (bs.filterM p) := by
  induction h with
  | nil => exact .ok .nil
  | keep a _ ih =>
    rw [filterM_cons, filterM_cons]
    cases ha : p a with
    | error e => exact .error e
    | ok passes =>
      have hrest := ih (List.forall_mem_cons.2 ⟨⟨passes, ha⟩, hseen⟩)
      rw [List.filter_cons, ha] at hrest
      cases passes with
      | false => exact hrest.map fun _ _ => id
      | true => exact hrest.map fun _ _ => keep a
  | @drop earlier _ _ a b hmem hrepeated _ ih =>
    obtain ⟨passes, hb⟩ := hseen b hmem
    rw [filterM_cons, ← hp b a hrepeated, hb]
    cases passes with
    | false => exact (ih hseen).map_left fun _ _ => id
    | true =>
      have hpassed : b ∈ earlier.filter fun b => (p b).toOption == some true :=
        List.mem_filter.2 ⟨hmem, by rw [hb]; rfl⟩
      exact (ih hseen).map_left fun _ _ => drop hpassed hrepeated

end ContentFilter
