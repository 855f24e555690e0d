import ContentFilter.Proofs.Task
import Mathlib.Data.List.Chain
import Mathlib.Order.Defs.PartialOrder

/-! What a task does in any interleaving: which values it can end with, what it keeps of the state, and
which moves it makes from stage to stage while other tasks change the state between its steps. -/

namespace ContentFilter

namespace Task

variable {σ τ α β Φ Ψ Ω : Type}

/-- Every value that the task can end with is such, whatever happens between its steps. -/
def Yields (post : α → Prop) : Task σ α → Prop
  | done a => post a
  | step ready _ _ next => ∀ s, ready s = true → Yields post (next s)

theorem Yields.mono {post post' : α → Prop} {task : Task σ α} (h : task.Yields post)
    (himp : ∀ a, post a → post' a) : task.Yields post' := by
  induction task with
  | done a => exact himp a h
  | step ready run abandon next ih => exact fun s hready => ih s (h s hready)

theorem Yields.bind {post : α → Prop} {post' : β → Prop} {task : Task σ α} {f : α → Task σ β}
    (h : task.Yields post) (hf : ∀ a, post a → (f a).Yields post') : (task >>= f).Yields post' := by
  induction task with
  | done a => exact hf a h
  | step ready run abandon next ih => exact fun s hready => ih s (h s hready)

theorem yields_pure {post : α → Prop} {a : α} (h : post a) : (pure a : Task σ α).Yields post := h

theorem yields_any (task : Task σ α) : task.Yields fun _ => True := by
  induction task with
  | done a => trivial
  | step ready run abandon next ih => exact fun s _ => ih s

theorem Yields.guarded {post : α → Prop} {cleanup : σ → σ} {task : Task σ α} (h : task.Yields post) :
    (Task.guarded cleanup task).Yields post := by
  induction task with
  | done a => exact h
  | step ready run abandon next ih => exact fun s hready => ih s (h s hready)

theorem Yields.withCleanup {post : α → Prop} {cleanup : σ → σ} {task : Task σ α}
    (h : task.Yields post) : (Task.withCleanup cleanup task).Yields post :=
  h.guarded.bind fun _ ha _ _ => ha

/-- The step that a task takes in a state, unless it is over or has to wait. -/
def turn? : Task σ α → σ → Option (Task σ α × σ)
  | done _, _ => none
  | step ready run _ next, s => if ready s then some (next s, run s) else none

/-- So many steps of a task at a stretch, as far as it can take them. -/
def turns : Nat → Task σ α → σ → Task σ α × σ
  | 0, task, s => (task, s)
  | n + 1, task, s =>
    match task.turn? s with
    | some (rest, t) => turns n rest t
    | none => (task, s)

/-- Each step of the task keeps what holds of the state and of what is known, giving the task up does
too, and every value that it can end with goes with what is known then. Other tasks change the state
between its steps, but nobody forgets anything: what is known only grows. -/
def Keeps [Preorder Ω] (holds : Ω → σ → Prop) (post : Ω → α → Prop) : Task σ α → Ω → Prop
  | done a, ω => post ω a
  | step ready run abandon next, ω => ∀ ω', ω ≤ ω' → ∀ s, holds ω' s →
    holds ω' (abandon s) ∧
      (ready s = true → ∃ ω'', ω' ≤ ω'' ∧ holds ω'' (run s) ∧ Keeps holds post (next s) ω'')

section Keeps

variable [Preorder Ω] {holds : Ω → σ → Prop} {post : Ω → α → Prop} {ω ω' : Ω}

/-- What is kept is kept when more is known, if that leaves the values as good. -/
theorem Keeps.grow {task : Task σ α} (h : task.Keeps holds post ω)
    (hpost : ∀ a, post ω a → post ω' a) (hle : ω ≤ ω') : task.Keeps holds post ω' := by
  cases task with
  | done a => exact hpost a h
  | step ready run abandon next => exact fun ω'' hle' => h ω'' (le_trans hle hle')

theorem Keeps.mono {post' : Ω → α → Prop} {task : Task σ α} (h : task.Keeps holds post ω)
    (himp : ∀ ω a, post ω a → post' ω a) : task.Keeps holds post' ω := by
  induction task generalizing ω with
  | done a => exact himp ω a h
  | step ready run abandon next ih =>
    intro ω' hle s hs
    obtain ⟨habandon, hrun⟩ := h ω' hle s hs
    refine ⟨habandon, fun hready => ?_⟩
    obtain ⟨ω'', hle', hs', hnext⟩ := hrun hready
    exact ⟨ω'', hle', hs', ih s hnext⟩

theorem Keeps.bind {final : Ω → β → Prop} {task : Task σ α} {f : α → Task σ β}
    (h : task.Keeps holds post ω)
    (hf : ∀ a ω', ω ≤ ω' → post ω' a → (f a).Keeps holds final ω') :
    (task >>= f).Keeps holds final ω := by
  induction task generalizing ω with
  | done a => exact hf a ω le_rfl h
  | step ready run abandon next ih =>
    intro ω' hle s hs
    obtain ⟨habandon, hrun⟩ := h ω' hle s hs
    refine ⟨habandon, fun hready => ?_⟩
    obtain ⟨ω'', hle', hs', hnext⟩ := hrun hready
    refine ⟨ω'', hle', hs', ih s hnext fun a ω₃ hle₃ => ?_⟩
    exact hf a ω₃ (le_trans (le_trans hle hle') hle₃)

theorem keeps_pure {a : α} (h : post ω a) : (pure a : Task σ α).Keeps holds post ω := h

theorem keeps_when {ready : σ → Bool} {f : σ → α × σ}
    (h : ∀ ω', ω ≤ ω' → ∀ s, holds ω' s → ∃ ω'', ω' ≤ ω'' ∧ holds ω'' (f s).2 ∧ post ω'' (f s).1) :
    (Task.when ready f).Keeps holds post ω := fun ω' hle s hs => ⟨hs, fun _ => h ω' hle s hs⟩

theorem keeps_act {f : σ → α × σ}
    (h : ∀ ω', ω ≤ ω' → ∀ s, holds ω' s → ∃ ω'', ω' ≤ ω'' ∧ holds ω'' (f s).2 ∧ post ω'' (f s).1) :
    (Task.act f).Keeps holds post ω := keeps_when h

theorem keeps_read {f : σ → α} (h : ∀ ω', ω ≤ ω' → ∀ s, holds ω' s → post ω' (f s)) :
    (Task.read f).Keeps holds post ω :=
  keeps_act fun ω' hle s hs => ⟨ω', le_rfl, hs, h ω' hle s hs⟩

theorem keeps_change {f : σ → σ} (h : ∀ ω', ω ≤ ω' → ∀ s, holds ω' s → holds ω' (f s)) :
    (Task.change f).Keeps holds (fun _ _ => True) ω :=
  keeps_act fun ω' hle s hs => ⟨ω', le_rfl, h ω' hle s hs, trivial⟩

theorem Keeps.guarded {cleanup : σ → σ} {task : Task σ α} (h : task.Keeps holds post ω)
    (hcleanup : ∀ ω s, holds ω s → holds ω (cleanup s)) :
    (Task.guarded cleanup task).Keeps holds post ω := by
  induction task generalizing ω with
  | done a => exact h
  | step ready run abandon next ih =>
    intro ω' hle s hs
    obtain ⟨habandon, hrun⟩ := h ω' hle s hs
    refine ⟨hcleanup ω' _ habandon, fun hready => ?_⟩
    obtain ⟨ω'', hle', hs', hnext⟩ := hrun hready
    exact ⟨ω'', hle', hs', ih s hnext⟩

theorem Keeps.withCleanup {cleanup : σ → σ} {task : Task σ α} (h : task.Keeps holds post ω)
    (hcleanup : ∀ ω s, holds ω s → holds ω (cleanup s))
    (hpost : ∀ a ω ω', ω ≤ ω' → post ω a → post ω' a) :
    (Task.withCleanup cleanup task).Keeps holds post ω := by
  refine (h.guarded hcleanup).bind fun a ω' _ ha => ?_
  refine (keeps_change fun ω _ => hcleanup ω).bind fun _ ω'' hle _ => keeps_pure ?_
  exact hpost a ω' ω'' hle ha

theorem keeps_mapM {f : α → Task σ β} {as : List α} {post : Ω → β → Prop}
    (h : ∀ a ∈ as, ∀ ω', ω ≤ ω' → (f a).Keeps holds post ω')
    (hpost : ∀ b ω ω', ω ≤ ω' → post ω b → post ω' b) :
    (as.mapM f).Keeps holds (fun ω bs => ∀ b ∈ bs, post ω b) ω := by
  induction as generalizing ω with
  | nil => exact keeps_pure (List.forall_mem_nil _)
  | cons a as ih =>
    rw [List.mapM_cons]
    refine (h a List.mem_cons_self ω le_rfl).bind fun b ω' hle hb => ?_
    have hrest := @ih ω' fun other hmem ω'' hle' =>
      h other (List.mem_cons_of_mem a hmem) ω'' (le_trans hle hle')
    refine hrest.bind fun bs ω'' hle' hbs => keeps_pure ?_
    exact List.forall_mem_cons.2 ⟨hpost b ω' ω'' hle' hb, hbs⟩

/-- A task that runs alone keeps what it keeps in any interleaving. -/
theorem Ends.and_keeps {task : Task σ α} {s : σ} {known : α → σ → Prop} (h : task.Ends s known)
    (hkeeps : task.Keeps holds post ω) (hs : holds ω s) :
    task.Ends s fun a t => known a t ∧ ∃ ω', ω ≤ ω' ∧ holds ω' t ∧ post ω' a := by
  obtain ⟨a, t, hrun, hknown⟩ := h
  refine ⟨a, t, hrun, hknown, ?_⟩
  clear hknown
  induction task generalizing ω s with
  | done b =>
    cases hrun
    exact ⟨ω, le_rfl, hs, hkeeps⟩
  | step ready run abandon next ih =>
    cases hready : ready s with
    | true =>
      rw [run?_step_of_ready hready] at hrun
      obtain ⟨ω', hle, hs', hnext⟩ := (hkeeps ω le_rfl s hs).2 hready
      obtain ⟨ω'', hle', hend⟩ := ih s hnext hs' hrun
      exact ⟨ω'', le_trans hle hle', hend⟩
    | false =>
      rw [run?_step_of_not_ready hready] at hrun
      cases hrun

/-- The states that some tasks bring a state to, with what is left of the tasks: at any time one is
started, takes a step or is given up. -/
inductive Interleaves (starts : Task σ Unit → Prop) (s₀ : σ) : List (Task σ Unit) → σ → Prop
  | start : Interleaves starts s₀ [] s₀
  | join {tasks : List (Task σ Unit)} {task : Task σ Unit} {s : σ}
      (h : Interleaves starts s₀ tasks s) (hstarts : starts task) :
      Interleaves starts s₀ (task :: tasks) s
  | step {before after : List (Task σ Unit)} {ready : σ → Bool} {run abandon : σ → σ}
      {next : σ → Task σ Unit} {s : σ}
      (h : Interleaves starts s₀ (before ++ .step ready run abandon next :: after) s)
      (hready : ready s = true) : Interleaves starts s₀ (before ++ next s :: after) (run s)
  | giveUp {before after : List (Task σ Unit)} {task : Task σ Unit} {s : σ}
      (h : Interleaves starts s₀ (before ++ task :: after) s) :
      Interleaves starts s₀ (before ++ after) (task.giveUp s)

/-- A task may take all its steps before another takes one. -/
theorem Interleaves.run {starts : Task σ Unit → Prop} {tasks : List (Task σ Unit)}
    {task : Task σ Unit} {s₀ s t : σ} (h : Interleaves starts s₀ (task :: tasks) s)
    (hrun : task.run? s = (some (), t)) : Interleaves starts s₀ (.done () :: tasks) t := by
  induction task generalizing s with
  | done a =>
    cases hrun
    exact h
  | step ready run abandon next ih =>
    cases hready : ready s with
    | true =>
      rw [run?_step_of_ready hready] at hrun
      exact ih s (@Interleaves.step _ _ _ [] tasks ready run abandon next s h hready) hrun
    | false =>
      rw [run?_step_of_not_ready hready] at hrun
      cases hrun

/-- What every task keeps holds all along. -/
theorem Interleaves.keeps {starts : Task σ Unit → Prop} {tasks : List (Task σ Unit)} {s₀ s : σ}
    (h : Interleaves starts s₀ tasks s)
    (hstarts : ∀ task, starts task → ∀ ω, task.Keeps holds (fun _ _ => True) ω) (h₀ : holds ω s₀) :
    ∃ ω', ω ≤ ω' ∧ holds ω' s ∧ ∀ task ∈ tasks, task.Keeps holds (fun _ _ => True) ω' := by
  induction h with
  | start => exact ⟨ω, le_rfl, h₀, List.forall_mem_nil _⟩
  | join h hstart ih =>
    obtain ⟨ω', hle, hs, htasks⟩ := ih
    exact ⟨ω', hle, hs, List.forall_mem_cons.2 ⟨hstarts _ hstart ω', htasks⟩⟩
  | @step before after ready run abandon next s h hready ih =>
    obtain ⟨ω', hle, hs, htasks⟩ := ih
    rw [List.forall_mem_append, List.forall_mem_cons] at htasks
    obtain ⟨hbefore, htask, hafter⟩ := htasks
    obtain ⟨ω'', hle', hrun, hnext⟩ := (htask ω' le_rfl s hs).2 hready
    -- the others go on with what this one has added
    have hgrow : ∀ task : Task σ Unit, task.Keeps holds (fun _ _ => True) ω' →
        task.Keeps holds (fun _ _ => True) ω'' := fun _ h => h.grow (fun _ => id) hle'
    refine ⟨ω'', le_trans hle hle', hrun, List.forall_mem_append.2 ⟨?_, ?_⟩⟩
    · exact fun task hmem => hgrow task (hbefore task hmem)
    · exact List.forall_mem_cons.2 ⟨hnext, fun task hmem => hgrow task (hafter task hmem)⟩
  | @giveUp before after task s h ih =>
    obtain ⟨ω', hle, hs, htasks⟩ := ih
    rw [List.forall_mem_append, List.forall_mem_cons] at htasks
    refine ⟨ω', hle, ?_, List.forall_mem_append.2 ⟨htasks.1, htasks.2.2⟩⟩
    cases task with
    | done a => exact hs
    | step ready run abandon next => exact (htasks.2.1 ω' le_rfl s hs).1

end Keeps

/-- A discipline of the tasks over a shared state: what a task may assume of the state at a stage, and
the moves that take it from stage to stage. -/
structure Discipline (Φ σ : Type) where
  may : Φ → σ → Prop
  move : Φ → σ → Φ → σ → Prop

/-- Each step of the task is a move from the stage it is at, up to a stage that goes with its value. -/
def Follows (d : Discipline Φ σ) (ends : α → Φ → Prop) : Task σ α → Φ → Prop
  | done a, φ => ends a φ
  | step ready run _ next, φ => ∀ s, d.may φ s → ready s = true →
    ∃ φ', d.move φ s φ' (run s) ∧ Follows d ends (next s) φ'

variable {d : Discipline Φ σ} {ends ends' : α → Φ → Prop} {φ : Φ}

theorem Follows.mono {task : Task σ α} (h : task.Follows d ends φ)
    (himp : ∀ a φ, ends a φ → ends' a φ) : task.Follows d ends' φ := by
  induction task generalizing φ with
  | done a => exact himp a φ h
  | step ready run abandon next ih =>
    intro s hmay hready
    obtain ⟨φ', hmove, hnext⟩ := h s hmay hready
    exact ⟨φ', hmove, ih s hnext⟩

theorem Follows.bind {final : β → Φ → Prop} {task : Task σ α} {f : α → Task σ β}
    (h : task.Follows d ends φ) (hf : ∀ a φ, ends a φ → (f a).Follows d final φ) :
    (task >>= f).Follows d final φ := by
  induction task generalizing φ with
  | done a => exact hf a φ h
  | step ready run abandon next ih =>
    intro s hmay hready
    obtain ⟨φ', hmove, hnext⟩ := h s hmay hready
    exact ⟨φ', hmove, ih s hnext⟩

theorem Follows.guarded {cleanup : σ → σ} {task : Task σ α} (h : task.Follows d ends φ) :
    (Task.guarded cleanup task).Follows d ends φ := by
  induction task generalizing φ with
  | done a => exact h
  | step ready run abandon next ih =>
    intro s hmay hready
    obtain ⟨φ', hmove, hnext⟩ := h s hmay hready
    exact ⟨φ', hmove, ih s hnext⟩

/-- A turn of a task is a move from the stage it is at. -/
theorem Follows.turn? {task rest : Task σ α} {s t : σ} (h : task.Follows d ends φ) (hmay : d.may φ s)
    (hturn : task.turn? s = some (rest, t)) : ∃ φ', d.move φ s φ' t ∧ rest.Follows d ends φ' := by
  cases task with
  | done a => cases hturn
  | step ready run abandon next =>
    rw [Task.turn?] at hturn
    split at hturn
    · next hready =>
      cases hturn
      exact h s hmay hready
    · cases hturn

/-- A task that follows one discipline follows another that has its stages and moves. -/
theorem Follows.embed {e : Discipline Ψ σ} {f : Φ → Ψ} {final : α → Ψ → Prop} {task : Task σ α}
    (h : task.Follows d ends φ) (hmay : ∀ φ s, e.may (f φ) s → d.may φ s)
    (hmove : ∀ φ s φ' s', d.move φ s φ' s' → e.move (f φ) s (f φ') s')
    (hends : ∀ a φ, ends a φ → final a (f φ)) : task.Follows e final (f φ) := by
  induction task generalizing φ with
  | done a => exact hends a φ h
  | step ready run abandon next ih =>
    intro s hs hready
    obtain ⟨φ', hm, hnext⟩ := h s (hmay φ s hs) hready
    exact ⟨f φ', hmove _ _ _ _ hm, ih s hnext⟩

section Within

variable {get : τ → σ} {set : σ → τ → τ}

/-- A task over a part of the state follows a discipline that has its stages and moves there. -/
theorem Follows.within {e : Discipline Ψ τ} {f : Φ → Ψ} {final : α → Ψ → Prop} {task : Task σ α}
    (h : task.Follows d ends φ) (hmay : ∀ φ t, e.may (f φ) t → d.may φ (get t))
    (hmove : ∀ φ t φ' s, e.may (f φ) t → d.move φ (get t) φ' s → e.move (f φ) t (f φ') (set s t))
    (hends : ∀ a φ, ends a φ → final a (f φ)) : (task.within get set).Follows e final (f φ) := by
  induction task generalizing φ with
  | done a => exact hends a φ h
  | step ready run abandon next ih =>
    intro t ht hready
    obtain ⟨φ', hm, hnext⟩ := h (get t) (hmay φ t ht) hready
    exact ⟨f φ', hmove φ t φ' _ ht hm, ih (get t) hnext⟩

/-- A task over a part of the state that no stage cares about stays at its stage. -/
theorem follows_within {e : Discipline Φ τ} {task : Task σ α} {post : α → Prop} {φ : Φ}
    (hset : ∀ s t, e.may φ t → e.move φ t φ (set s t)) (hpost : task.Yields post) :
    (task.within get set).Follows e (fun a φ' => φ' = φ ∧ post a) φ := by
  induction task with
  | done a => exact ⟨rfl, hpost⟩
  | step ready run abandon next ih =>
    exact fun t hmay hready => ⟨φ, hset _ t hmay, ih (get t) (hpost (get t) hready)⟩

end Within

/-- Each step of the task is a move from the stage it is at, and to give the task up at a stage does to the
state what is in order there. -/
def Leaves (d : Discipline Φ σ) (quits : Φ → σ → σ → Prop) (ends : α → Φ → Prop) :
    Task σ α → Φ → Prop
  | done a, φ => ends a φ
  | step ready run abandon next, φ => ∀ s, d.may φ s → quits φ s (abandon s) ∧
    (ready s = true → ∃ φ', d.move φ s φ' (run s) ∧ Leaves d quits ends (next s) φ')

section Leaves

variable {quits quits' : Φ → σ → σ → Prop}

theorem Leaves.bind {final : β → Φ → Prop} {task : Task σ α} {f : α → Task σ β}
    (h : task.Leaves d quits ends φ) (hf : ∀ a φ, ends a φ → (f a).Leaves d quits final φ) :
    (task >>= f).Leaves d quits final φ := by
  induction task generalizing φ with
  | done a => exact hf a φ h
  | step ready run abandon next ih =>
    intro s hmay
    obtain ⟨hquits, hrun⟩ := h s hmay
    refine ⟨hquits, fun hready => ?_⟩
    obtain ⟨φ', hmove, hnext⟩ := hrun hready
    exact ⟨φ', hmove, ih s hnext⟩

theorem Leaves.guarded {cleanup : σ → σ} {task : Task σ α} (h : task.Leaves d quits ends φ)
    (hcleanup : ∀ φ s t, quits φ s t → quits' φ s (cleanup t)) :
    (Task.guarded cleanup task).Leaves d quits' ends φ := by
  induction task generalizing φ with
  | done a => exact h
  | step ready run abandon next ih =>
    intro s hmay
    obtain ⟨hquits, hrun⟩ := h s hmay
    refine ⟨hcleanup φ s _ hquits, fun hready => ?_⟩
    obtain ⟨φ', hmove, hnext⟩ := hrun hready
    exact ⟨φ', hmove, ih s hnext⟩

theorem leaves_act {f : σ → α × σ}
    (h : ∀ s, d.may φ s → quits φ s s ∧ ∃ φ', d.move φ s φ' (f s).2 ∧ ends (f s).1 φ') :
    (act f).Leaves d quits ends φ := by
  intro s hmay
  obtain ⟨hquits, φ', hmove, hend⟩ := h s hmay
  exact ⟨hquits, fun _ => ⟨φ', hmove, hend⟩⟩

/-- A task over a part of the state that no stage cares about stays at its stage, and may be given up. -/
theorem leaves_within {get : τ → σ} {set : σ → τ → τ} {e : Discipline Φ τ} {quits : Φ → τ → τ → Prop}
    {task : Task σ α} {φ : Φ} (hset : ∀ s t, e.may φ t → e.move φ t φ (set s t))
    (hquits : ∀ s t, e.may φ t → quits φ t (set s t)) :
    (task.within get set).Leaves e quits (fun _ φ' => φ' = φ) φ := by
  induction task with
  | done a => rfl
  | step ready run abandon next ih =>
    exact fun t hmay => ⟨hquits _ t hmay, fun _ => ⟨φ, hset _ t hmay, ih (get t)⟩⟩

end Leaves

end Task

section Stages

variable {J Φ : Type*} {stages : List (J × Φ)} {before after : List J} {job : J}

/-- Where a job stands among the others, there is its stage among theirs. -/
theorem exists_stage (h : stages.map (·.1) = before ++ job :: after) : ∃ front stage back,
    stages = front ++ (job, stage) :: back ∧ front.map (·.1) = before ∧ back.map (·.1) = after := by
  obtain ⟨front, rest, rfl, hbefore, hrest⟩ := List.map_eq_append_iff.1 h
  obtain ⟨⟨own, stage⟩, back, rfl, rfl, hafter⟩ := List.map_eq_cons_iff.1 hrest
  exact ⟨front, stage, back, rfl, hbefore, hafter⟩

/-- The stage of one job is brought to the front. -/
theorem perm_stages (front back : List (J × Φ)) (job : J) (stage : Φ) :
    ((front ++ (job, stage) :: back).map (·.2)).Perm (stage :: (front ++ back).map (·.2)) := by
  rw [List.map_append, List.map_cons, List.map_append]
  exact List.perm_middle

end Stages

end ContentFilter

/-! Two tasks that take their steps in any order. What both keep as they go from stage to stage holds all
along, and either may take all its steps at a stretch. -/

namespace ContentFilter

namespace Task

variable {σ α β ε Φ : Type}

/-- What is left of two tasks that started together, and the state that they have come to. At any time either of
them takes its next step. -/
inductive Race (left : Task σ α) (right : Task σ β) (s : σ) : Task σ α → Task σ β → σ → Prop
  | start : Race left right s left right s
  | left {ready : σ → Bool} {run abandon : σ → σ} {next : σ → Task σ α} {other : Task σ β} {t : σ}
      (h : Race left right s (.step ready run abandon next) other t) (hready : ready t = true) :
      Race left right s (next t) other (run t)
  | right {ready : σ → Bool} {run abandon : σ → σ} {next : σ → Task σ β} {other : Task σ α} {t : σ}
      (h : Race left right s other (.step ready run abandon next) t) (hready : ready t = true) :
      Race left right s other (next t) (run t)

section Race

variable {left task : Task σ α} {right other : Task σ β} {s t u : σ}

theorem Race.run_left {a : α} (h : Race left right s task other t)
    (hrun : task.run? t = (some a, u)) : Race left right s (.done a) other u := by
  induction task generalizing t with
  | done b =>
    cases hrun
    exact h
  | step ready run abandon next ih =>
    cases hready : ready t with
    | true =>
      rw [run?_step_of_ready hready] at hrun
      exact ih t (h.left hready) hrun
    | false =>
      rw [run?_step_of_not_ready hready] at hrun
      cases hrun

theorem Race.run_right {b : β} (h : Race left right s task other t)
    (hrun : other.run? t = (some b, u)) : Race left right s task (.done b) u := by
  induction other generalizing t with
  | done a =>
    cases hrun
    exact h
  | step ready run abandon next ih =>
    cases hready : ready t with
    | true =>
      rw [run?_step_of_ready hready] at hrun
      exact ih t (h.right hready) hrun
    | false =>
      rw [run?_step_of_not_ready hready] at hrun
      cases hrun

theorem Race.ends_right (h : Race left right s task other t) (post : β → σ → Prop)
    (hends : other.Ends t post) : ∃ b u, Race left right s task (.done b) u ∧ post b u := by
  obtain ⟨b, u, hrun, hpost⟩ := hends
  exact ⟨b, u, h.run_right hrun, hpost⟩

/-- A task that reads something goes on with what it read. -/
theorem Race.read_right {γ : Type} {f : σ → γ} {rest : γ → Task σ β}
    (h : Race left right s task (Task.read f >>= rest) t) :
    Race left right s task (rest (f t)) t := h.right rfl

end Race

section Follows

variable {d : Discipline Φ σ}

/-- What the moves of either task keep holds wherever the two have come. -/
theorem Race.follows {left : Task σ α} {right : Task σ β} {s : σ} {ends : α → Φ → Prop}
    {ends' : β → Φ → Prop} {inv : Φ → Φ → σ → Prop} {φ ψ : Φ}
    (hmay : ∀ φ ψ s, inv φ ψ s → d.may φ s ∧ d.may ψ s)
    (hleft : ∀ φ ψ s φ' s', inv φ ψ s → d.move φ s φ' s' → inv φ' ψ s')
    (hright : ∀ φ ψ s ψ' s', inv φ ψ s → d.move ψ s ψ' s' → inv φ ψ' s')
    (hl : left.Follows d ends φ) (hr : right.Follows d ends' ψ) (hstart : inv φ ψ s)
    {task : Task σ α} {other : Task σ β} {t : σ} (h : Race left right s task other t) :
    ∃ φ' ψ', task.Follows d ends φ' ∧ other.Follows d ends' ψ' ∧ inv φ' ψ' t := by
  induction h with
  | start => exact ⟨φ, ψ, hl, hr, hstart⟩
  | @left ready run abandon next other t h hready ih =>
    obtain ⟨φ', ψ', htask, hother, hinv⟩ := ih
    obtain ⟨φ'', hmove, hnext⟩ := htask t (hmay φ' ψ' t hinv).1 hready
    exact ⟨φ'', ψ', hnext, hother, hleft φ' ψ' t φ'' _ hinv hmove⟩
  | @right ready run abandon next other t h hready ih =>
    obtain ⟨φ', ψ', htask, hother, hinv⟩ := ih
    obtain ⟨ψ'', hmove, hnext⟩ := hother t (hmay φ' ψ' t hinv).2 hready
    exact ⟨φ', ψ'', htask, hnext, hright φ' ψ' t ψ'' _ hinv hmove⟩

/-- What the moves of a task keep is kept when it runs alone. -/
theorem Follows.keeps {task : Task σ α} {ends : α → Φ → Prop} {inv : Φ → σ → Prop} {φ : Φ} {s t : σ}
    {a : α} (h : task.Follows d ends φ) (hmay : ∀ φ s, inv φ s → d.may φ s)
    (hmove : ∀ φ s φ' s', inv φ s → d.move φ s φ' s' → inv φ' s') (hstart : inv φ s)
    (hrun : task.run? s = (some a, t)) : ∃ φ', ends a φ' ∧ inv φ' t := by
  induction task generalizing φ s with
  | done b =>
    cases hrun
    exact ⟨φ, h, hstart⟩
  | step ready run abandon next ih =>
    cases hready : ready s with
    | true =>
      rw [run?_step_of_ready hready] at hrun
      obtain ⟨φ', hm, hnext⟩ := h s (hmay φ s hstart) hready
      exact ih s hnext (hmove φ s φ' _ hstart hm) hrun
    | false =>
      rw [run?_step_of_not_ready hready] at hrun
      cases hrun

/-- The end that a task comes to when it runs alone goes with what its moves keep. -/
theorem Ends.and_follows {task : Task σ α} {known : α → σ → Prop} {ends : α → Φ → Prop}
    {inv : Φ → σ → Prop} {φ : Φ} {s : σ} (h : task.Ends s known) (hfollows : task.Follows d ends φ)
    (hmay : ∀ φ s, inv φ s → d.may φ s)
    (hmove : ∀ φ s φ' s', inv φ s → d.move φ s φ' s' → inv φ' s') (hstart : inv φ s) :
    task.Ends s fun a t => known a t ∧ ∃ φ', ends a φ' ∧ inv φ' t := by
  obtain ⟨a, t, hrun, hknown⟩ := h
  exact ⟨a, t, hrun, hknown, hfollows.keeps hmay hmove hstart hrun⟩

/-- The states that a task comes through when it runs alone are one move apart. -/
theorem Follows.isChain_path {task : Task σ α} {ends : α → Φ → Prop} {φ : Φ} {s : σ}
    (h : task.Follows d ends φ)
    (hmay : ∀ φ s φ' s', d.may φ s → d.move φ s φ' s' → d.may φ' s') (hs : d.may φ s) :
    (task.path s).IsChain fun s s' => ∃ φ φ', d.move φ s φ' s' := by
  induction task generalizing φ s with
  | done a => exact List.isChain_singleton s
  | step ready run abandon next ih =>
    rw [path]
    split
    · next hready =>
      obtain ⟨φ', hmove, hnext⟩ := h s hs hready
      refine List.isChain_cons.2 ⟨fun t ht => ?_, ih s hnext (hmay φ s φ' _ hs hmove)⟩
      rw [head?_path, Option.mem_some_iff] at ht
      exact ht ▸ ⟨φ, φ', hmove⟩
    · exact List.isChain_singleton s

theorem follows_pure {ends : α → Φ → Prop} {φ : Φ} {a : α} (h : ends a φ) :
    (pure a : Task σ α).Follows d ends φ := h

theorem follows_act {f : σ → α × σ} {ends : α → Φ → Prop} {φ : Φ}
    (h : ∀ s, d.may φ s → ∃ φ', d.move φ s φ' (f s).2 ∧ ends (f s).1 φ') :
    (act f).Follows d ends φ := fun s hmay _ => h s hmay

/-- After a part that may fail comes the rest, unless it failed. -/
theorem Follows.except_bind {ends : Except ε α → Φ → Prop} {final : Except ε β → Φ → Prop} {φ : Φ}
    {task : ExceptT ε (Task σ) α} {f : α → ExceptT ε (Task σ) β} (h : task.run.Follows d ends φ)
    (hok : ∀ a φ, ends (.ok a) φ → (f a).run.Follows d final φ)
    (herror : ∀ e φ, ends (.error e) φ → final (.error e) φ) :
    (task >>= f).run.Follows d final φ := by
  refine Follows.bind h fun result φ' hresult => ?_
  cases result with
  | ok a => exact hok a φ' hresult
  | error e => exact follows_pure (herror e φ' hresult)

/-- The task, which may fail, is at the same stage all along. -/
def Remains (d : Discipline Φ σ) (φ : Φ) (task : ExceptT ε (Task σ) α) : Prop :=
  task.run.Follows d (fun _ φ' => φ' = φ) φ

theorem remains_pure {φ : Φ} (a : α) : Remains d φ (pure a : ExceptT ε (Task σ) α) := rfl

theorem remains_act {φ : Φ} {f : σ → Except ε α × σ} (h : ∀ s, d.may φ s → d.move φ s φ (f s).2) :
    Remains d φ (ExceptT.mk (act f)) := fun s hmay _ => ⟨φ, h s hmay, rfl⟩

theorem Remains.bind {φ : Φ} {task : ExceptT ε (Task σ) α} {f : α → ExceptT ε (Task σ) β}
    (h : Remains d φ task) (hf : ∀ a, Remains d φ (f a)) : Remains d φ (task >>= f) := by
  refine Follows.except_bind h (fun a φ' hφ => ?_) fun _ _ hφ => hφ
  cases hφ
  exact hf a

theorem remains_forIn {φ : Φ} (as : List α)
    {f : α → PUnit → ExceptT ε (Task σ) (ForInStep PUnit)} (hf : ∀ a u, Remains d φ (f a u)) :
    Remains d φ (forIn as PUnit.unit f) := by
  induction as with
  | nil => exact remains_pure _
  | cons a as ih =>
    rw [List.forIn_cons]
    refine (hf a PUnit.unit).bind fun result => ?_
    cases result with
    | done u => exact remains_pure u
    | yield u => exact ih

end Follows

end Task

end ContentFilter
