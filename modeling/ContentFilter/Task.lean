/-!
Cooperative tasks over a shared state. A task is a sequence of atomic steps; between two of them
other tasks may run, and a step may have to wait until the state allows it.
-/

namespace ContentFilter

inductive Task (σ : Type) (α : Type) where
  | done (value : α)
  /-- One atomic step: it can be taken in a state that is `ready`, and what follows may depend on
  the state before it. A task that is given up before the step leaves the state to `abandon`. -/
  | step (ready : σ → Bool) (run abandon : σ → σ) (next : σ → Task σ α)

namespace Task

variable {σ τ α β : Type}

def bind : Task σ α → (α → Task σ β) → Task σ β
  | done a, f => f a
  | step ready run abandon next, f => step ready run abandon fun s => bind (next s) f

instance : Monad (Task σ) where
  pure := done
  bind := bind

/-- One step that waits until the state is ready. -/
def when (ready : σ → Bool) (f : σ → α × σ) : Task σ α :=
  step ready (fun s => (f s).2) id fun s => done (f s).1

/-- One step that never waits. -/
def act (f : σ → α × σ) : Task σ α := when (fun _ => true) f

def read (f : σ → α) : Task σ α := act fun s => (f s, s)

def change (f : σ → σ) : Task σ Unit := act fun s => ((), f s)

/-- The same steps; a task that is given up in the middle is cleaned up after. -/
def guarded (cleanup : σ → σ) : Task σ α → Task σ α
  | done a => done a
  | step ready run abandon next =>
    step ready run (cleanup ∘ abandon) fun s => guarded cleanup (next s)

/-- Clean up after a task, whether it comes to its end or is given up. -/
def withCleanup (cleanup : σ → σ) (task : Task σ α) : Task σ α := do
  let a ← guarded cleanup task
  change cleanup
  pure a

/-- Take steps until the task is done or has to wait. -/
def advance : Task σ α → σ → Task σ α × σ
  | done a, s => (done a, s)
  | step ready run abandon next, s =>
    if ready s then advance (next s) (run s) else (step ready run abandon next, s)

/-- Give a task up where it waits. -/
def giveUp : Task σ α → σ → σ
  | done _, s => s
  | step _ _ abandon _, s => abandon s

/-- Run a task alone; `none` when it has to wait for another. -/
def run? (task : Task σ α) (s : σ) : Option α × σ :=
  match task.advance s with
  | (done a, s) => (some a, s)
  | (step _ _ _ _, s) => (none, s)

/-- A task over a part of a larger state. -/
def within (get : τ → σ) (set : σ → τ → τ) : Task σ α → Task τ α
  | done a => done a
  | step ready run abandon next =>
    step (fun t => ready (get t)) (fun t => set (run (get t)) t) (fun t => set (abandon (get t)) t)
      fun t => within get set (next (get t))

@[simp] theorem done_bind (a : α) (f : α → Task σ β) : (done a).bind f = f a := rfl

theorem bind_assoc {γ : Type} (t : Task σ α) (f : α → Task σ β) (g : β → Task σ γ) :
    (t.bind f).bind g = t.bind fun a => (f a).bind g := by
  induction t with
  | done a => rfl
  | step ready run abandon next ih => simp [bind, ih]

end Task

end ContentFilter
