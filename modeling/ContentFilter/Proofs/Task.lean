import ContentFilter.Task

/-! What a task that runs alone comes to, put together from what its parts come to. -/

namespace ContentFilter

namespace Task

variable {σ τ α β ε : Type}

/-- Run alone from that state, the task comes to an end with such a result and state. -/
def Ends (task : Task σ α) (s : σ) (post : α → σ → Prop) : Prop :=
  ∃ a t, task.run? s = (some a, t) ∧ post a t

theorem run?_step_of_ready {ready : σ → Bool} {run abandon : σ → σ} {next : σ → Task σ α} {s : σ}
    (h : ready s = true) : (step ready run abandon next).run? s = (next s).run? (run s) := by
  rw [run?, advance, if_pos h, run?]

theorem run?_step_of_not_ready {ready : σ → Bool} {run abandon : σ → σ} {next : σ → Task σ α}
    {s : σ} (h : ready s = false) : (step ready run abandon next).run? s = (none, s) := by
  rw [run?, advance, h]
  rfl

theorem run?_bind {task : Task σ α} {s t : σ} {a : α} (h : task.run? s = (some a, t))
    (f : α → Task σ β) : (task >>= f).run? s = (f a).run? t := by
  induction task generalizing s with
  | done b =>
    cases h
    rfl
  | step ready run abandon next ih =>
    cases hready : ready s with
    | true =>
      rw [run?_step_of_ready hready] at h
      exact (run?_step_of_ready hready).trans (ih s h)
    | false =>
      rw [run?_step_of_not_ready hready] at h
      cases h

/-- The states that a task comes through when it runs alone, the first one first. -/
def path : Task σ α → σ → List σ
  | done _, s => [s]
  | step ready run _ next, s => if ready s then s :: path (next s) (run s) else [s]

theorem head?_path (task : Task σ α) (s : σ) : (task.path s).head? = some s := by
  cases task with
  | done a => rfl
  | step ready run abandon next =>
    rw [path]
    split <;> rfl

theorem getLast?_path (task : Task σ α) (s : σ) : (task.path s).getLast? = some (task.run? s).2 := by
  induction task generalizing s with
  | done a => rfl
  | step ready run abandon next ih =>
    cases hready : ready s with
    | true => rw [path, if_pos hready, List.getLast?_cons, ih, run?_step_of_ready hready]; rfl
    | false => rw [path, hready, run?_step_of_not_ready hready]; rfl

theorem Ends.mono {task : Task σ α} {s : σ} {post post' : α → σ → Prop} (h : task.Ends s post)
    (himp : ∀ a t, post a t → post' a t) : task.Ends s post' := by
  obtain ⟨a, t, hrun, hpost⟩ := h
  exact ⟨a, t, hrun, himp a t hpost⟩

/-- A task that runs alone has one end, which is all that is known of it. -/
theorem Ends.and {task : Task σ α} {s : σ} {post post' : α → σ → Prop} (h : task.Ends s post)
    (h' : task.Ends s post') : task.Ends s fun a t => post a t ∧ post' a t := by
  obtain ⟨a, t, hrun, hpost⟩ := h
  obtain ⟨b, u, hrun', hpost'⟩ := h'
  rw [hrun] at hrun'
  cases hrun'
  exact ⟨a, t, hrun, hpost, hpost'⟩

theorem Ends.of_run? {task : Task σ α} {s t : σ} {a : α} {post : α → σ → Prop}
    (h : task.Ends s post) (hrun : task.run? s = (some a, t)) : post a t := by
  obtain ⟨b, u, hrun', hpost⟩ := h
  rw [hrun] at hrun'
  cases hrun'
  exact hpost

theorem ends_pure {a : α} {s : σ} {post : α → σ → Prop} (h : post a s) :
    (pure a : Task σ α).Ends s post := ⟨a, s, rfl, h⟩

theorem ends_bind {task : Task σ α} {f : α → Task σ β} {s : σ} {post : β → σ → Prop}
    (h : task.Ends s fun a t => (f a).Ends t post) : (task >>= f).Ends s post := by
  obtain ⟨a, t, hrun, b, u, hrest, hpost⟩ := h
  exact ⟨b, u, (run?_bind hrun f).trans hrest, hpost⟩

/-- The first part of a sequence that comes to its end comes to one, from which the rest goes on. -/
theorem Ends.of_bind {task : Task σ α} {f : α → Task σ β} {s : σ} {post : β → σ → Prop}
    (h : (task >>= f).Ends s post) : task.Ends s fun a t => (f a).Ends t post := by
  induction task generalizing s with
  | done a => exact ends_pure h
  | step ready run abandon next ih =>
    obtain ⟨b, u, hrun, hpost⟩ := h
    change (step ready run abandon fun s => next s >>= f).run? s = _ at hrun
    cases hready : ready s with
    | true =>
      rw [run?_step_of_ready hready] at hrun
      obtain ⟨a, t, hfirst, hrest⟩ := ih s ⟨b, u, hrun, hpost⟩
      exact ⟨a, t, (run?_step_of_ready hready).trans hfirst, hrest⟩
    | false =>
      rw [run?_step_of_not_ready hready] at hrun
      cases hrun

theorem ends_when {ready : σ → Bool} {f : σ → α × σ} {s : σ} {post : α → σ → Prop}
    (hready : ready s = true) (h : post (f s).1 (f s).2) : (when ready f).Ends s post :=
  ⟨(f s).1, (f s).2, run?_step_of_ready hready, h⟩

theorem ends_act {f : σ → α × σ} {s : σ} {post : α → σ → Prop} (h : post (f s).1 (f s).2) :
    (act f).Ends s post := ⟨(f s).1, (f s).2, rfl, h⟩

theorem ends_read {f : σ → α} {s : σ} {post : α → σ → Prop} (h : post (f s) s) :
    (read f).Ends s post := ends_act h

theorem ends_change {f : σ → σ} {s : σ} {post : Unit → σ → Prop} (h : post () (f s)) :
    (change f).Ends s post := ends_act h

theorem run?_guarded (cleanup : σ → σ) (task : Task σ α) (s : σ) :
    (guarded cleanup task).run? s = task.run? s := by
  induction task generalizing s with
  | done a => rfl
  | step ready run abandon next ih =>
    cases hready : ready s with
    | true =>
      rw [guarded, run?_step_of_ready hready, run?_step_of_ready hready]
      exact ih s (run s)
    | false => rw [guarded, run?_step_of_not_ready hready, run?_step_of_not_ready hready]

/-- A guard is for tasks that are given up. -/
theorem ends_guarded {cleanup : σ → σ} {task : Task σ α} {s : σ} {post : α → σ → Prop}
    (h : task.Ends s post) : (guarded cleanup task).Ends s post := by
  rw [Ends, run?_guarded]
  exact h

theorem ends_withCleanup {cleanup : σ → σ} {task : Task σ α} {s : σ} {post : α → σ → Prop}
    (h : task.Ends s fun a t => post a (cleanup t)) : (withCleanup cleanup task).Ends s post :=
  ends_bind ((ends_guarded h).mono fun _ _ hpost => ends_bind (ends_change (ends_pure hpost)))

/-- A task over a part of the state changes only that part. -/
theorem ends_within {get : τ → σ} {set : σ → τ → τ} (hget : ∀ s t, get (set s t) = s)
    (hset : ∀ s s' t, set s (set s' t) = set s t) {task : Task σ α} {t : τ}
    (hself : set (get t) t = t) {post : α → τ → Prop}
    (h : task.Ends (get t) fun a s => post a (set s t)) : (task.within get set).Ends t post := by
  obtain ⟨a, s, hrun, hpost⟩ := h
  refine ⟨a, set s t, ?_, hpost⟩
  clear hpost
  induction task generalizing t with
  | done b =>
    cases hrun
    rw [hself]
    rfl
  | step ready run abandon next ih =>
    cases hready : ready (get t) with
    | true =>
      rw [run?_step_of_ready hready] at hrun
      have hnext := @ih (get t) (set (run (get t)) t) (by rw [hget, hset])
      rw [hget, hset] at hnext
      rw [within, @run?_step_of_ready _ _ (fun t => ready (get t)) _ _ _ t hready]
      exact hnext hrun
    | false =>
      rw [run?_step_of_not_ready hready] at hrun
      cases hrun

/-- What holds at the start and is kept by each part holds at the end of a sequence; it may depend on
which members are done. -/
theorem ends_foldlM {f : β → α → Task σ β} {as : List α} {holds : List α → β → σ → Prop} {b : β}
    {s : σ} (hstart : holds [] b s)
    (hstep : ∀ before a after b s, as = before ++ a :: after → holds before b s →
      (f b a).Ends s (holds (before ++ [a]))) : (as.foldlM f b).Ends s (holds as) := by
  have hrest : ∀ (rest before : List α) (b : β) (s : σ), as = before ++ rest → holds before b s →
      (rest.foldlM f b).Ends s (holds as) := by
    intro rest
    induction rest with
    | nil =>
      intro before b s has hbefore
      rw [List.append_nil] at has
      exact ends_pure (has ▸ hbefore)
    | cons a rest ih =>
      intro before b s has hbefore
      rw [List.foldlM_cons]
      refine ends_bind ((hstep before a rest b s has hbefore).mono fun c t hc => ?_)
      exact ih (before ++ [a]) c t (by simp [has]) hc
  exact hrest as [] b s rfl hstart

/-- What the task for each member keeps is kept by all of them in turn. -/
theorem ends_forM {f : α → Task σ PUnit} {as : List α} {holds : σ → Prop} {s : σ} (hstart : holds s)
    (hstep : ∀ a ∈ as, ∀ s, holds s → (f a).Ends s fun _ t => holds t) :
    (as.forM f).Ends s fun _ t => holds t := by
  induction as generalizing s with
  | nil => exact ends_pure hstart
  | cons a as ih =>
    refine ends_bind ((hstep a List.mem_cons_self s hstart).mono fun _ t ht => ?_)
    exact ih ht fun other hother => hstep other (List.mem_cons_of_mem a hother)

theorem bind_done (task : Task σ α) : task.bind done = task := by
  induction task with
  | done a => rfl
  | step ready run abandon next ih => exact congrArg (step ready run abandon) (funext ih)

instance : LawfulMonad (Task σ) :=
  LawfulMonad.mk' (Task σ) bind_done (fun _ _ => rfl) fun task f g => bind_assoc task f g

/-- What is kept by the task for each member is kept by all of them in turn, and the results are as
expected of the members. -/
theorem ends_mapM {γ : Type} {f : α → Task σ β} {as : List α} {holds : σ → Prop} {view : β → γ}
    {expected : α → γ} {s : σ} (hstart : holds s)
    (hstep : ∀ a ∈ as, ∀ s, holds s → (f a).Ends s fun b t => holds t ∧ view b = expected a) :
    (as.mapM f).Ends s fun bs t => holds t ∧ bs.map view = as.map expected := by
  induction as generalizing s with
  | nil => exact ends_pure ⟨hstart, rfl⟩
  | cons a as ih =>
    rw [List.mapM_cons]
    refine ends_bind ((hstep a List.mem_cons_self s hstart).mono fun b t hb => ?_)
    have hrest := ih hb.1 fun other hmem => hstep other (List.mem_cons_of_mem a hmem)
    refine ends_bind (hrest.mono fun bs u hbs => ends_pure ⟨hbs.1, ?_⟩)
    rw [List.map_cons, List.map_cons, hb.2, hbs.2]

/-- After a part that may fail comes the rest, unless it failed. -/
theorem ends_except_bind {task : ExceptT ε (Task σ) α} {f : α → ExceptT ε (Task σ) β} {s : σ}
    {post : Except ε β → σ → Prop}
    (h : task.run.Ends s fun result t => match result with
      | .ok a => (f a).run.Ends t post
      | .error e => post (.error e) t) : (task >>= f).run.Ends s post := by
  refine ends_bind (h.mono fun result t hresult => ?_)
  cases result with
  | ok a => exact hresult
  | error e => exact ends_pure hresult

/-- A loop whose rounds fail for some members: it fails when there is such a member, and else it comes to its
end with what every round keeps, which may depend on the members that are done. -/
theorem ends_forIn {f : α → PUnit → ExceptT ε (Task σ) (ForInStep PUnit)} {as : List α}
    {bad : α → Prop} {holds : List α → σ → Prop} {s : σ} (hstart : holds [] s)
    (hgood : ∀ before a s, ¬bad a → holds before s → (f a PUnit.unit).run.Ends s fun result t =>
      result = .ok (.yield PUnit.unit) ∧ holds (before ++ [a]) t)
    (hbad : ∀ before a s, bad a → holds before s → (f a PUnit.unit).run.Ends s fun result _ =>
      ∃ e, result = .error e) :
    (forIn as PUnit.unit f).run.Ends s fun result t =>
      (∀ a ∈ as, ¬bad a) ∧ result = .ok PUnit.unit ∧ holds as t ∨
      (∃ a ∈ as, bad a) ∧ ∃ e, result = .error e := by
  have hrest : ∀ (rest before : List α) (s : σ), holds before s →
      (forIn rest PUnit.unit f).run.Ends s fun result t =>
        (∀ a ∈ rest, ¬bad a) ∧ result = .ok PUnit.unit ∧ holds (before ++ rest) t ∨
        (∃ a ∈ rest, bad a) ∧ ∃ e, result = .error e := by
    intro rest
    induction rest with
    | nil =>
      intro before s hbefore
      apply ends_pure
      exact .inl ⟨List.forall_mem_nil _, rfl, by rwa [List.append_nil]⟩
    | cons a rest ih =>
      intro before s hbefore
      rw [List.forIn_cons]
      apply ends_except_bind
      by_cases ha : bad a
      · apply (hbad before a s ha hbefore).mono
        rintro result t ⟨e, rfl⟩
        exact .inr ⟨⟨a, List.mem_cons_self, ha⟩, e, rfl⟩
      · apply (hgood before a s ha hbefore).mono
        rintro result t ⟨rfl, ht⟩
        apply (ih (before ++ [a]) t ht).mono
        rintro result u (⟨hnone, hresult, hu⟩ | ⟨⟨b, hb, hfails⟩, herror⟩)
        · rw [List.append_assoc] at hu
          exact .inl ⟨List.forall_mem_cons.2 ⟨ha, hnone⟩, hresult, hu⟩
        · exact .inr ⟨⟨b, List.mem_cons_of_mem a hb, hfails⟩, herror⟩
  exact hrest as [] s hstart

/-- Run alone from two states, two tasks come to ends with such results and states. -/
def Both (task : Task σ α) (task' : Task τ β) (s : σ) (t : τ) (post : α → σ → β → τ → Prop) : Prop :=
  task.Ends s fun a s' => task'.Ends t fun b t' => post a s' b t'

section Both

variable {γ δ : Type} {task : Task σ α} {task' : Task τ β} {s : σ} {t : τ}
  {post post' : α → σ → β → τ → Prop}

theorem Both.mono (h : task.Both task' s t post)
    (himp : ∀ a s' b t', post a s' b t' → post' a s' b t') : task.Both task' s t post' :=
  Ends.mono h fun a s' hrest => hrest.mono fun b t' hpost => himp a s' b t' hpost

theorem Both.and_left {known : α → σ → Prop} (h : task.Both task' s t post)
    (hknown : task.Ends s known) :
    task.Both task' s t fun a s' b t' => known a s' ∧ post a s' b t' := by
  refine (hknown.and h).mono fun a s' hboth => ?_
  exact hboth.2.mono fun b t' hpost => ⟨hboth.1, hpost⟩

theorem Both.and_right {known : β → τ → Prop} (h : task.Both task' s t post)
    (hknown : task'.Ends t known) :
    task.Both task' s t fun a s' b t' => known b t' ∧ post a s' b t' :=
  Ends.mono h fun _ _ hrest => hknown.and hrest

theorem both_pure {a : α} {b : β} (h : post a s b t) :
    (pure a : Task σ α).Both (pure b : Task τ β) s t post := ends_pure (ends_pure h)

theorem both_act {f : σ → α × σ} {g : τ → β × τ} (h : post (f s).1 (f s).2 (g t).1 (g t).2) :
    (act f).Both (act g) s t post := ends_act (ends_act h)

theorem both_bind {f : α → Task σ γ} {g : β → Task τ δ} {last : γ → σ → δ → τ → Prop}
    (h : task.Both task' s t fun a s' b t' => (f a).Both (g b) s' t' last) :
    (task >>= f).Both (task' >>= g) s t last := by
  obtain ⟨a, s', hrun, b, t', hrun', c, s'', hrest, d, t'', hrest', hpost⟩ := h
  exact ⟨c, s'', (run?_bind hrun f).trans hrest, d, t'', (run?_bind hrun' g).trans hrest', hpost⟩

theorem both_except_bind {task : ExceptT ε (Task σ) α} {task' : ExceptT ε (Task τ) β}
    {f : α → ExceptT ε (Task σ) γ} {g : β → ExceptT ε (Task τ) δ}
    {last : Except ε γ → σ → Except ε δ → τ → Prop}
    (h : task.run.Both task'.run s t fun result s' result' t' => match result, result' with
      | .ok a, .ok b => (f a).run.Both (g b).run s' t' last
      | .error e, .error e' => last (.error e) s' (.error e') t'
      | _, _ => False) : (task >>= f).run.Both (task' >>= g).run s t last := by
  refine both_bind (h.mono fun result s' result' t' hresult => ?_)
  cases result with
  | ok a =>
    cases result' with
    | ok b => exact hresult
    | error e => exact hresult.elim
  | error e =>
    cases result' with
    | ok b => exact hresult.elim
    | error e' => exact both_pure hresult

end Both

end Task

end ContentFilter
