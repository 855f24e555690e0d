import Mathlib.Data.List.Forall2

/-! Computations that may fail, one after the other and along a list. -/

namespace ContentFilter

theorem ok_of_bind {ε α β : Type} {x : Except ε α} {f : α → Except ε β} {b : β}
    (h : x >>= f = .ok b) : ∃ a, x = .ok a ∧ f a = .ok b := by
  cases x with
  | error e => cases h
  | ok a => exact ⟨a, rfl, h⟩

theorem ok_of_map {ε α β : Type} {x : Except ε α} {f : α → β} {b : β}
    (h : x.map f = .ok b) : ∃ a, x = .ok a ∧ f a = b := by
  cases x with
  | error e => cases h
  | ok a => exact ⟨a, rfl, Except.ok.inj h⟩

theorem exists_bind_iff {ε α β : Type} {x : Except ε α} {f : α → Except ε β} :
    (∃ b, x >>= f = .ok b) ↔ ∃ a, x = .ok a ∧ ∃ b, f a = .ok b := by
  constructor
  · rintro ⟨b, h⟩
    obtain ⟨a, ha, hb⟩ := ok_of_bind h
    exact ⟨a, ha, b, hb⟩
  · rintro ⟨a, rfl, hb⟩
    exact hb

/-- What is made of a result without failing is there when the result is. -/
theorem exists_bind_pure_iff {ε α β : Type} {x : Except ε α} {f : α → β} :
    (∃ b, (x >>= fun a => pure (f a)) = .ok b) ↔ ∃ a, x = .ok a :=
  exists_bind_iff.trans (exists_congr fun a => and_iff_left ⟨f a, rfl⟩)

theorem ok_of_toOption {ε α : Type} {result : Except ε α} {a : α} (h : result.toOption = some a) :
    result = .ok a := by
  cases result with
  | ok found => exact congrArg _ (Option.some.inj h)
  | error cause => cases h

/-- What every step of a fold keeps, the fold keeps. -/
theorem foldlM_keeps {ε α β : Type} {f : β → α → Except ε β} {P : β → Prop}
    (hf : ∀ b a c, P b → f b a = .ok c → P c) {as : List α} {b c : β} (hb : P b)
    (h : as.foldlM f b = .ok c) : P c := by
  induction as generalizing b with
  | nil =>
    cases h
    exact hb
  | cons a as ih =>
    obtain ⟨d, hd, hrest⟩ := ok_of_bind h
    exact ih (hf b a d hb hd) hrest

theorem mapM_eq_pure_map {m : Type → Type} [Monad m] [LawfulMonad m] {α β : Type} {f : α → m β}
    {g : α → β} {as : List α} (h : ∀ a ∈ as, f a = pure (g a)) : as.mapM f = pure (as.map g) := by
  induction as with
  | nil => rfl
  | cons a as ih =>
    rw [List.mapM_cons, h a (by simp), ih fun b hb => h b (by simp [hb])]
    simp

/-- What comes out of a traversal comes from one of the members. -/
theorem exists_of_mem_mapM {ε α β : Type} {f : α → Except ε β} {as : List α} {bs : List β} {b : β}
    (h : as.mapM f = .ok bs) (hb : b ∈ bs) : ∃ a ∈ as, f a = .ok b := by
  induction as generalizing bs with
  | nil =>
    cases h
    cases hb
  | cons a as ih =>
    rw [List.mapM_cons] at h
    obtain ⟨first, hfirst, h⟩ := ok_of_bind h
    obtain ⟨rest, hrest, h⟩ := ok_of_bind h
    cases h
    rcases List.mem_cons.1 hb with rfl | hb
    · exact ⟨a, List.mem_cons_self, hfirst⟩
    · obtain ⟨a', ha', hfound⟩ := ih hrest hb
      exact ⟨a', List.mem_cons_of_mem a ha', hfound⟩

theorem some_of_mem_mapM {α β : Type} {f : α → Option β} {as : List α} {bs : List β} {b : β}
    (h : as.mapM f = some bs) (hb : b ∈ bs) : ∃ a ∈ as, f a = some b := by
  induction as generalizing bs with
  | nil =>
    cases h
    cases hb
  | cons a as ih =>
    rw [List.mapM_cons] at h
    obtain ⟨first, hfirst, h⟩ := Option.bind_eq_some_iff.1 h
    obtain ⟨rest, hrest, h⟩ := Option.bind_eq_some_iff.1 h
    cases h
    rcases List.mem_cons.1 hb with rfl | hb
    · exact ⟨a, List.mem_cons_self, hfirst⟩
    · obtain ⟨a', ha', hfound⟩ := ih hrest hb
      exact ⟨a', List.mem_cons_of_mem a ha', hfound⟩

/-- Every member of a traversal has its result. -/
theorem exists_mem_of_mapM {ε α β : Type} {f : α → Except ε β} {as : List α} {bs : List β} {a : α}
    (h : as.mapM f = .ok bs) (ha : a ∈ as) : ∃ b ∈ bs, f a = .ok b := by
  induction as generalizing bs with
  | nil => cases ha
  | cons other as ih =>
    rw [List.mapM_cons] at h
    obtain ⟨first, hfirst, h⟩ := ok_of_bind h
    obtain ⟨rest, hrest, h⟩ := ok_of_bind h
    cases h
    rcases List.mem_cons.1 ha with rfl | ha
    · exact ⟨first, List.mem_cons_self, hfirst⟩
    · obtain ⟨b, hb, hfound⟩ := ih hrest ha
      exact ⟨b, List.mem_cons_of_mem first hb, hfound⟩

theorem mapM_eq_of_forall₂ {ε α β γ : Type} {f : α → Except ε γ} {g : β → Except ε γ} {as : List α}
    {bs : List β} (h : List.Forall₂ (fun a b => g b = f a) as bs) : bs.mapM g = as.mapM f := by
  induction h with
  | nil => rfl
  | cons hfirst _ ih => rw [List.mapM_cons, List.mapM_cons, hfirst, ih]

theorem exists_mem_of_forall₂ {α β : Type} {related : α → β → Prop} {as : List α} {bs : List β} {a : α}
    (h : List.Forall₂ related as bs) (ha : a ∈ as) : ∃ b ∈ bs, related a b := by
  induction h with
  | nil => cases ha
  | @cons c d as bs hfirst _ ih =>
    rcases List.mem_cons.1 ha with rfl | ha
    · exact ⟨d, List.mem_cons_self, hfirst⟩
    · obtain ⟨b, hb, hab⟩ := ih ha
      exact ⟨b, List.mem_cons_of_mem d hb, hab⟩

/-- Where the members of another list have images of the results, so has the traversal. -/
theorem mapM_of_forall₂ {ε α β γ δ : Type} {f : α → Except ε γ} {g : β → Except ε δ} {image : γ → δ}
    {as : List α} {bs : List β} {found : List γ} (h : as.mapM f = .ok found)
    (hall : List.Forall₂ (fun a b => ∀ c, f a = .ok c → g b = .ok (image c)) as bs) :
    bs.mapM g = .ok (found.map image) := by
  induction hall generalizing found with
  | nil =>
    cases h
    rfl
  | cons hfirst _ ih =>
    rw [List.mapM_cons] at h
    obtain ⟨c, hc, h⟩ := ok_of_bind h
    obtain ⟨rest, hrest, h⟩ := ok_of_bind h
    cases h
    rw [List.mapM_cons, hfirst c hc, ih hrest]
    rfl

/-- What comes out of a traversal put together comes out for one of the members. -/
theorem mem_flatten_of_mapM {ε α β : Type} {f : α → Except ε (List β)} {as : List α}
    {bs : List (List β)} {b : β} (h : as.mapM f = .ok bs) :
    b ∈ bs.flatten ↔ ∃ a ∈ as, ∃ found, f a = .ok found ∧ b ∈ found := by
  rw [List.mem_flatten]
  constructor
  · rintro ⟨found, hfound, hb⟩
    obtain ⟨a, ha, hresult⟩ := exists_of_mem_mapM h hfound
    exact ⟨a, ha, found, hresult, hb⟩
  · rintro ⟨a, ha, found, hfound, hb⟩
    obtain ⟨found', hmem, hresult⟩ := exists_mem_of_mapM h ha
    cases hfound.symm.trans hresult
    exact ⟨found, hmem, hb⟩

theorem anyM_ok {ε α : Type} {p : α → Except ε Bool} {q : α → Bool} {as : List α}
    (h : ∀ a ∈ as, p a = .ok (q a)) : as.anyM p = .ok (as.any q) := by
  induction as with
  | nil => rfl
  | cons a as ih =>
    rw [List.anyM, h a List.mem_cons_self, List.any_cons]
    cases q a with
    | true => rfl
    | false => exact ih fun b hb => h b (List.mem_cons_of_mem a hb)

/-- A test that none of the members passes has failed each of them. -/
theorem false_of_anyM {ε α : Type} {p : α → Except ε Bool} {as : List α} {a : α}
    (h : as.anyM p = .ok false) (ha : a ∈ as) : p a = .ok false := by
  induction as with
  | nil => cases ha
  | cons first as ih =>
    rw [List.anyM] at h
    obtain ⟨found, hfound, hrest⟩ := ok_of_bind h
    cases found with
    | true => cases hrest
    | false =>
      rcases List.mem_cons.1 ha with rfl | ha
      · exact hfound
      · exact ih hrest ha

/-- A test of some members that is passed has been passed by one of them. -/
theorem true_of_anyM {ε α : Type} {p : α → Except ε Bool} {as : List α} (h : as.anyM p = .ok true) :
    ∃ a ∈ as, p a = .ok true := by
  induction as with
  | nil => cases h
  | cons first as ih =>
    rw [List.anyM] at h
    obtain ⟨found, hfound, hrest⟩ := ok_of_bind h
    cases found with
    | true => exact ⟨first, List.mem_cons_self, hfound⟩
    | false =>
      obtain ⟨a, ha, hpass⟩ := ih hrest
      exact ⟨a, List.mem_cons_of_mem first ha, hpass⟩

/-- A test that always answers whether a property holds tells whether it holds of some member. -/
theorem anyM_answers {ε α : Type} {p : α → Except ε Bool} {P : α → Prop} {as : List α}
    (h : ∀ a ∈ as, ∃ found, p a = .ok found ∧ (found = true ↔ P a)) :
    ∃ found, as.anyM p = .ok found ∧ (found = true ↔ ∃ a ∈ as, P a) := by
  induction as with
  | nil => exact ⟨false, rfl, by simp⟩
  | cons a as ih =>
    obtain ⟨first, hfirst, hiff⟩ := h a List.mem_cons_self
    obtain ⟨rest, hrest, hany⟩ := ih fun b hb => h b (List.mem_cons_of_mem a hb)
    rw [List.anyM, hfirst]
    cases first with
    | true => exact ⟨true, rfl, by simp [← hiff]⟩
    | false =>
      exact ⟨rest, hrest, by simp [hany, ← hiff]⟩

/-- What a filtering kept before stays behind what it keeps. -/
theorem filterAuxM_append {ε α : Type} (p : α → Except ε Bool) (as kept : List α) :
    as.filterAuxM p kept = (as.filterAuxM p []).map (· ++ kept) := by
  induction as generalizing kept with
  | nil => rfl
  | cons a as ih =>
    rw [List.filterAuxM, List.filterAuxM]
    cases p a with
    | error e => rfl
    | ok keep =>
      change as.filterAuxM p (cond keep (a :: kept) kept) =
        (as.filterAuxM p (cond keep [a] [])).map (· ++ kept)
      rw [ih, ih (cond keep [a] [])]
      cases as.filterAuxM p [] with
      | error e => rfl
      | ok rest => cases keep <;> simp [Except.map]

theorem filterM_eq {ε α : Type} (p : α → Except ε Bool) (as : List α) :
    as.filterM p = (as.filterAuxM p []).map List.reverse := by
  rw [List.filterM]
  cases as.filterAuxM p [] <;> rfl

theorem filterM_cons {ε α : Type} (p : α → Except ε Bool) (a : α) (as : List α) :
    (a :: as).filterM p =
      p a >>= fun keep => (as.filterM p).map fun rest => cond keep (a :: rest) rest := by
  rw [filterM_eq, List.filterAuxM]
  cases p a with
  | error e => rfl
  | ok keep =>
    change (as.filterAuxM p (cond keep [a] [])).map List.reverse = (as.filterM p).map _
    rw [filterAuxM_append, filterM_eq]
    cases as.filterAuxM p [] with
    | error e => rfl
    | ok rest => cases keep <;> simp [Except.map]

theorem filterM_congr {ε α : Type} {p q : α → Except ε Bool} {as : List α} (h : ∀ a ∈ as, p a = q a) :
    as.filterM p = as.filterM q := by
  induction as with
  | nil => rfl
  | cons a as ih =>
    obtain ⟨ha, hrest⟩ := List.forall_mem_cons.1 h
    rw [filterM_cons, filterM_cons, ha, ih hrest]

/-- Members that are left out before are left out of what passes. -/
theorem filterM_filter {ε α : Type} {p : α → Except ε Bool} {as bs : List α}
    (h : as.filterM p = .ok bs) (keep : α → Bool) :
    (as.filter keep).filterM p = .ok (bs.filter keep) := by
  induction as generalizing bs with
  | nil =>
    cases h
    rfl
  | cons a as ih =>
    rw [filterM_cons] at h
    obtain ⟨pass, hpass, h⟩ := ok_of_bind h
    obtain ⟨rest, hrest, rfl⟩ := ok_of_map h
    cases hkeep : keep a with
    | false =>
      rw [List.filter_cons_of_neg (by simp [hkeep]), ih hrest]
      cases pass <;> simp [hkeep]
    | true =>
      rw [List.filter_cons_of_pos hkeep, filterM_cons, hpass, ih hrest]
      cases pass <;> simp [hkeep, Except.map, bind, Except.bind]

theorem filterM_ok {ε α : Type} {p : α → Except ε Bool} {q : α → Bool} {as : List α}
    (h : ∀ a ∈ as, p a = .ok (q a)) : as.filterM p = .ok (as.filter q) := by
  have haux : ∀ (as kept : List α), (∀ a ∈ as, p a = .ok (q a)) →
      as.filterAuxM p kept = .ok ((as.filter q).reverse ++ kept) := by
    intro as
    induction as with
    | nil => exact fun kept _ => rfl
    | cons a as ih =>
      intro kept h
      have hrest := ih (cond (q a) (a :: kept) kept) fun b hb => h b (by simp [hb])
      rw [List.filterAuxM, h a (by simp)]
      refine hrest.trans ?_
      cases hq : q a <;> simp [hq]
  rw [List.filterM, haux as [] h]
  simp [bind, Except.bind, pure, Except.pure]

/-- A filtering succeeds when the test answers for every member. -/
theorem exists_filterM_iff {ε α : Type} {p : α → Except ε Bool} {as : List α} :
    (∃ bs, as.filterM p = .ok bs) ↔ ∀ a ∈ as, ∃ found, p a = .ok found := by
  constructor
  · have haux : ∀ (as kept : List α) {bs : List α}, as.filterAuxM p kept = .ok bs →
        ∀ a ∈ as, ∃ found, p a = .ok found := by
      intro as
      induction as with
      | nil => exact fun _ _ _ => List.forall_mem_nil _
      | cons a as ih =>
        intro kept bs h
        rw [List.filterAuxM] at h
        obtain ⟨keep, hkeep, hrest⟩ := ok_of_bind h
        exact List.forall_mem_cons.2 ⟨⟨keep, hkeep⟩, ih _ hrest⟩
    rintro ⟨bs, h⟩
    rw [List.filterM] at h
    obtain ⟨kept, hkept, -⟩ := ok_of_bind h
    exact haux as [] hkept
  · intro h
    have hanswer : ∀ a ∈ as, p a = .ok ((p a).toOption.getD false) := by
      intro a ha
      obtain ⟨found, hfound⟩ := h a ha
      rw [hfound]
      rfl
    exact ⟨_, filterM_ok hanswer⟩

/-- A traversal succeeds when every member has a result. -/
theorem exists_mapM_iff {ε α β : Type} {f : α → Except ε β} {as : List α} :
    (∃ bs, as.mapM f = .ok bs) ↔ ∀ a ∈ as, ∃ b, f a = .ok b := by
  constructor
  · rintro ⟨bs, h⟩ a ha
    obtain ⟨b, -, hb⟩ := exists_mem_of_mapM h ha
    exact ⟨b, hb⟩
  · intro h
    induction as with
    | nil => exact ⟨[], rfl⟩
    | cons a as ih =>
      obtain ⟨⟨b, hb⟩, hrest⟩ := List.forall_mem_cons.1 h
      obtain ⟨bs, hbs⟩ := ih hrest
      exact ⟨b :: bs, by rw [List.mapM_cons, hb, hbs]; rfl⟩

/-- A filtering that succeeds keeps just the members that pass. -/
theorem mem_of_filterM {ε α : Type} {p : α → Except ε Bool} {as bs : List α} {b : α}
    (h : as.filterM p = .ok bs) : b ∈ bs ↔ b ∈ as ∧ p b = .ok true := by
  have haux : ∀ (as kept : List α) {bs : List α}, as.filterAuxM p kept = .ok bs →
      (b ∈ bs ↔ b ∈ as ∧ p b = .ok true ∨ b ∈ kept) := by
    intro as
    induction as with
    | nil =>
      intro kept bs h
      cases h
      simp
    | cons a as ih =>
      intro kept bs h
      rw [List.filterAuxM] at h
      obtain ⟨keep, hkeep, hrest⟩ := ok_of_bind h
      rw [ih _ hrest, List.mem_cons]
      have hpass : b = a → (p b = .ok true ↔ keep = true) := by
        rintro rfl
        rw [hkeep, Except.ok.injEq]
      cases keep with
      | false => grind
      | true => grind
  rw [List.filterM] at h
  obtain ⟨kept, hkept, hrest⟩ := ok_of_bind h
  cases hrest
  rw [List.mem_reverse, haux as [] hkept]
  simp

end ContentFilter
