import ContentFilter.Proofs.Engine.ReloadRun

/-! Jobs on a main engine that are given up between two of their steps. A reload that is given up takes
the mark with it that it was triggered again, so a trigger that it was to take care of is forgotten unless
it had published for it already. -/

namespace ContentFilter

namespace MainEngine

/-- Nothing that the reload works on is changed. -/
structure SameReload (m m' : MainEngine) : Prop where
  published : m'.published = m.published
  generation : m'.generation = m.generation
  bus : m'.bus = m.bus
  running : m'.running = m.running
  dirty : m'.dirty = m.dirty

theorem sameReload_stopUpdate (m : MainEngine) : SameReload m (stopUpdate m) := ⟨rfl, rfl, rfl, rfl, rfl⟩

/-- What a job leaves behind that is given up: with its reload loop goes the mark that a reload runs, and
the mark that it was triggered again. -/
structure Quits (looping : Bool) (m m' : MainEngine) : Prop where
  published : m'.published = m.published
  generation : m'.generation = m.generation
  bus : m'.bus = m.bus
  running : m'.running = (m.running && !looping)
  dirty : m'.dirty = (m.dirty && !looping)

/-- Whether a task runs the reload loop, step by step. -/
def holding : Task.Discipline Bool MainEngine where
  may looping m := looping = true → m.running = true
  move looping m looping' m' := looping' = (m'.running && (looping || !m.running))

variable {α : Type} {looping : Bool} {m m' : MainEngine}

theorem quits_self (m : MainEngine) : Quits false m m where
  published := rfl
  generation := rfl
  bus := rfl
  running := by simp
  dirty := by simp

theorem Quits.trans {m'' : MainEngine} (h : Quits looping m m') (hsame : SameReload m' m'') :
    Quits looping m m'' where
  published := hsame.published.trans h.published
  generation := hsame.generation.trans h.generation
  bus := hsame.bus.trans h.bus
  running := hsame.running.trans h.running
  dirty := hsame.dirty.trans h.dirty

/-- A loop goes on while the reload is marked as running, and without one none begins by itself. -/
theorem holding_move (hmay : holding.may looping m) (hrunning : m'.running = m.running) :
    holding.move looping m looping m' := by
  change looping = (m'.running && (looping || !m.running))
  rw [hrunning]
  cases looping with
  | true => simp [hmay rfl]
  | false => simp

/-- How a job with a reload in it ends: it is over, or its loop goes on and is left in order later. -/
def LeavesEnds : Reloading α → Bool → Prop
  | .ended _, looping => looping = false
  | .again abandon rest, looping => looping = true ∧ (∀ m, SameReload m (abandon m)) ∧
    ∀ reload, (rest reload).Leaves holding Quits (fun _ looping => looping = false) false

/-- What a round leaves behind is still to be cleaned up. -/
def QuitsRound (looping : Bool) (m m' : MainEngine) : Prop := looping = true ∧ SameReload m m'

/-- A step of a loop that does not end it. -/
theorem leaves_inRound {f : MainEngine → α × MainEngine} (hrunning : ∀ m, (f m).2.running = m.running) :
    (Task.act f).Leaves holding QuitsRound (fun _ looping => looping = true) true :=
  Task.leaves_act fun m hmay =>
    ⟨⟨rfl, rfl, rfl, rfl, rfl, rfl⟩, true, holding_move hmay (hrunning m), rfl⟩

theorem leaves_reloadRound : reloadRound.Leaves holding QuitsRound
    (fun result looping => looping = result.isNone) true := by
  refine (leaves_inRound fun _ => rfl).bind fun bus _ htrue => ?_
  subst htrue
  refine (leaves_inRound fun _ => rfl).bind fun generation _ htrue => ?_
  subst htrue
  have hbuild : (onRegistry (build bus.config (ListName.enabled bus.config))).Leaves holding QuitsRound
      (fun _ looping => looping = true) true :=
    Task.leaves_within (fun _ m hmay => holding_move hmay rfl) fun _ m _ => ⟨rfl, rfl, rfl, rfl, rfl, rfl⟩
  refine hbuild.bind fun built _ htrue => ?_
  subst htrue
  have hpublish : ∀ (new : Published) (m : MainEngine), (publish new m).running = m.running := by
    intro new m
    rw [publish]
    split <;> rfl
  refine (leaves_inRound (hpublish _)).bind fun _ _ htrue => ?_
  subst htrue
  refine Task.leaves_act fun m hmay => ⟨⟨rfl, rfl, rfl, rfl, rfl, rfl⟩, ?_⟩
  have hrunning : m.running = true := hmay rfl
  cases hdirty : m.dirty with
  | true => exact ⟨true, by simp [holding, hrunning], rfl⟩
  | false => exact ⟨false, by simp [holding], rfl⟩

variable {abandon : MainEngine → MainEngine} {rest : Reload → Task MainEngine α}

/-- The guard of a round takes both marks away. -/
theorem leaves_reloadThen (habandon : ∀ m, SameReload m (abandon m))
    (hrest : ∀ reload, (rest reload).Leaves holding Quits (fun _ looping => looping = false) false) :
    (reloadThen abandon rest).Leaves holding Quits LeavesEnds true := by
  have hround : (Task.guarded stopReload reloadRound).Leaves holding Quits
      (fun result looping => looping = result.isNone) true := by
    refine leaves_reloadRound.guarded fun looping m m' hquits => ?_
    obtain ⟨rfl, hsame⟩ := hquits
    exact ⟨hsame.published, hsame.generation, hsame.bus, by simp [stopReload], by simp [stopReload]⟩
  refine Task.Leaves.guarded (hround.bind fun result looping hlooping => ?_)
    fun looping m m' hquits => hquits.trans (habandon m')
  subst hlooping
  cases result with
  | none => exact ⟨rfl, habandon, hrest⟩
  | some reload => exact (hrest reload).bind fun _ _ hfalse => hfalse

theorem leaves_triggerThen (habandon : ∀ m, SameReload m (abandon m))
    (hrest : ∀ reload, (rest reload).Leaves holding Quits (fun _ looping => looping = false) false) :
    (triggerThen abandon rest).Leaves holding Quits LeavesEnds false := by
  refine fun m _ => ⟨quits_self m, fun _ => ?_⟩
  dsimp only
  by_cases hrunning : m.running = true
  · rw [if_pos hrunning]
    refine ⟨false, by simp [holding, hrunning], ?_⟩
    have hguarded := (hrest .coalesced).guarded fun looping m m' hquits => hquits.trans (habandon m')
    exact hguarded.bind fun _ _ hfalse => hfalse
  · rw [if_neg hrunning]
    exact ⟨true, by simp [holding, hrunning], leaves_reloadThen habandon hrest⟩

/-- A step of a job that is nothing to the reload. -/
theorem leaves_aside {f : MainEngine → α × MainEngine} (hrunning : ∀ m, (f m).2.running = m.running) :
    (Task.act f).Leaves holding Quits (fun _ looping => looping = false) false :=
  Task.leaves_act fun m hmay => ⟨quits_self m, false, holding_move hmay (hrunning m), rfl⟩

theorem leaves_finishUpdate (now : Nat) (outcome : UpdateOutcome) :
    (finishUpdate now outcome).Leaves holding Quits (fun _ looping => looping = false) false := by
  refine (leaves_aside fun _ => rfl).bind fun _ _ hfalse => ?_
  subst hfalse
  refine (leaves_aside fun _ => rfl).bind fun _ _ hfalse => ?_
  subst hfalse
  exact rfl

theorem leaves_update (now : Nat) : (update now).Leaves holding Quits LeavesEnds false := by
  refine (leaves_aside fun _ => rfl).bind fun updating _ hfalse => ?_
  subst hfalse
  split
  · exact rfl
  have hstop : ∀ (looping : Bool) (m m' : MainEngine), Quits looping m m' →
      Quits looping m (stopUpdate m') := fun _ _ m' hquits => hquits.trans (sameReload_stopUpdate m')
  have hlists : (Task.guarded stopUpdate do
      let config ← Task.read fun m => m.bus.config
      onRegistry (updateLists (ListName.enabled config)) : Task MainEngine Bool).Leaves holding Quits
      (fun _ looping => looping = false) false := by
    refine Task.Leaves.guarded ((leaves_aside fun _ => rfl).bind fun config _ hfalse => ?_) hstop
    subst hfalse
    exact Task.leaves_within (fun _ m hmay => holding_move hmay rfl) fun _ m _ =>
      (quits_self m).trans ⟨rfl, rfl, rfl, rfl, rfl⟩
  refine hlists.bind fun changed _ hfalse => ?_
  subst hfalse
  split
  · exact leaves_triggerThen sameReload_stopUpdate fun _ => leaves_finishUpdate now .reloaded
  · exact ((leaves_finishUpdate now .unchanged).guarded hstop).bind fun _ _ hfalse => hfalse

variable {configs : Nat → Config} {needed : Nat} {hold : Hold} {holds : List Hold}

/-- A task without the reload can be left out. -/
theorem Serial.of_cons_free (h : Serial configs needed m (.free :: holds)) :
    Serial configs needed m holds where
  alone := (List.pairwise_cons.1 h.alone).2
  running := by
    refine h.running.trans ⟨fun ⟨hold, hmem, hne⟩ => ?_, fun ⟨hold, hmem, hne⟩ =>
      ⟨hold, List.mem_cons_of_mem _ hmem, hne⟩⟩
    exact ⟨hold, (List.mem_cons.1 hmem).resolve_left hne, hne⟩
  dirty := h.dirty
  generation := h.generation
  version := h.version
  bound := h.bound
  current := h.current
  knows hold hmem := h.knows hold (List.mem_cons_of_mem _ hmem)
  covered := h.covered.imp_right <| Or.imp_right fun ⟨hold, hmem, hcovers⟩ =>
    (List.mem_cons.1 hmem).elim (fun heq => (heq ▸ hcovers : Hold.free.Covers needed).elim)
      fun hmem => ⟨hold, hmem, hcovers⟩

/-- When the owner of the reload is given up, no reload is running and nothing is needed of one. -/
theorem Serial.quit (h : Serial configs needed m (hold :: holds)) (howner : hold ≠ .free)
    (hquits : Quits true m m') : Serial (record configs m'.bus) 0 m' holds := by
  have hfree := h.others_free (.inl howner)
  have hrunning : m'.running = false := by simpa using hquits.running
  have hdirty : m'.dirty = false := by simpa using hquits.dirty
  rw [hquits.bus, record_of_current h.current]
  refine ⟨(List.pairwise_cons.1 h.alone).2, ?_, ?_, ?_, ?_, Nat.zero_le _, ?_, ?_, .inl (Nat.zero_le _)⟩
  · rw [hrunning]
    refine ⟨nofun, fun ⟨other, hmem, hne⟩ => absurd (hfree other hmem) hne⟩
  · rw [hdirty]
    nofun
  · rw [hquits.published, hquits.generation]
    exact h.generation
  · rw [hquits.published, hquits.bus]
    exact h.version
  · rw [hquits.bus]
    exact h.current
  · intro other hmem
    rw [hfree other hmem]
    trivial

end MainEngine

namespace ReloadJob

variable {m m' : MainEngine} {job job' : ReloadJob}

/-- The job leaves the reload in order whenever it is given up. -/
def Leaves (job : ReloadJob) : Prop :=
  job.task.Leaves MainEngine.holding MainEngine.Quits MainEngine.LeavesEnds job.looping

theorem Begins.leaves (h : job.Begins) : job.Leaves := by
  cases h with
  | reload => exact MainEngine.leaves_triggerThen (fun _ => ⟨rfl, rfl, rfl, rfl, rfl⟩) fun _ => rfl
  | update now => exact MainEngine.leaves_update now

theorem Leaves.goes (h : job.Leaves) (hmay : job.looping = true → m.running = true)
    (hgoes : job.Goes m job' m') : job'.Leaves := by
  cases hgoes with
  | step hready =>
    obtain ⟨-, hrun⟩ := h _ hmay
    obtain ⟨looping, hmove, hnext⟩ := hrun hready
    obtain rfl : looping = _ := hmove
    exact hnext
  | again =>
    obtain ⟨hlooping, habandon, hrest⟩ := h
    obtain rfl : _ = true := hlooping
    exact MainEngine.leaves_reloadThen habandon hrest

/-- Between its rounds a reload does not stop, so there it is not given up. -/
theorem Leaves.giveUp (h : job.Leaves) (hmay : job.looping = true → m.running = true)
    (hround : ¬job.GoesRound) : MainEngine.Quits job.looping m (job.task.giveUp m) := by
  obtain ⟨α, task, looping⟩ := job
  cases task with
  | step ready run abandon next => exact (h m hmay).1
  | done result =>
    cases result with
    | ended value =>
      obtain rfl : looping = false := h
      exact MainEngine.quits_self m
    | again abandon rest => exact absurd ⟨abandon, rest, rfl⟩ hround

end ReloadJob

/-- A run of jobs of which some are given up, and what was seen of it. -/
structure InterruptedRun where
  /-- Its latest trigger is one since a reload loop was given up the last time. -/
  now : ReloadRun
  /-- The versions of the configuration at triggers that were answered as coalesced. -/
  coalesced : List Nat := []

namespace InterruptedRun

/-- What there is when a job was given up. -/
def without (run : ReloadRun) (before : List ReloadJob) (job : ReloadJob) (after : List ReloadJob) :
    ReloadRun :=
  { run.reach (job.task.giveUp run.main) with
    jobs := before ++ after
    triggered := if job.looping then none else run.triggered }

/-- Jobs go on as they like, a trigger may find a reload running, and any job may be given up. -/
inductive Step : InterruptedRun → InterruptedRun → Prop where
  | go {run : InterruptedRun} {now : ReloadRun} (hstep : ReloadRun.Step run.now now) :
      Step run { run with now }
  | coalesce {run : InterruptedRun} {before after : List ReloadJob} {job job' : ReloadJob}
      {m : MainEngine} (hjobs : run.now.jobs = before ++ job :: after) (htrigger : job.IsTrigger)
      (hrunning : run.now.main.running = true) (hgoes : job.Goes run.now.main job' m) :
      Step run
        { now := { run.now.reach m with
            jobs := before ++ job' :: after
            triggered := some run.now.main.bus.version }
          coalesced := run.now.main.bus.version :: run.coalesced }
  | giveUp {run : InterruptedRun} {before after : List ReloadJob} {job : ReloadJob}
      (hjobs : run.now.jobs = before ++ job :: after) (hround : ¬job.GoesRound) :
      Step run { run with now := without run.now before job after }

inductive Reachable (m : MainEngine) : InterruptedRun → Prop where
  | start : Reachable m { now := .start m }
  | step {run run' : InterruptedRun} (h : Reachable m run) (hstep : Step run run') : Reachable m run'

/-- What a run knows of its jobs and its triggers. -/
structure Sound (m : MainEngine) (run : InterruptedRun) (stages : List (ReloadJob × Hold)) : Prop where
  consistent : run.now.Consistent stages
  leaves : ∀ job ∈ run.now.jobs, job.Leaves
  made : MainEngine.Made m.published run.now.configs run.now.main.published
  coalesced : ∀ version ∈ run.coalesced, version ≤ run.now.main.bus.version
  triggered : ∀ latest, run.now.triggered = some latest → ∀ version ∈ run.coalesced, version ≤ latest

variable {m m' : MainEngine} {run run' : InterruptedRun} {stages : List (ReloadJob × Hold)}
  {before after : List ReloadJob} {job job' : ReloadJob}

theorem sound_start (hrest : m.AtRest) : Sound m { now := .start m } [] where
  consistent := ReloadRun.consistent_start hrest
  leaves := List.forall_mem_nil _
  made := .inl rfl
  coalesced := List.forall_mem_nil _
  triggered _ _ := List.forall_mem_nil _

/-- A job runs its loop only while the reload is marked as running. -/
theorem Sound.may (h : Sound m run stages) (hjob : job ∈ run.now.jobs) (hlooping : job.looping = true) :
    run.now.main.running = true := by
  rw [h.consistent.serial.running, ← h.consistent.isActive_iff]
  exact ⟨job, hjob, hlooping⟩

/-- What is left when a job has gone on. -/
theorem Sound.goes (h : Sound m run stages) (hjobs : run.now.jobs = before ++ job :: after)
    (hgoes : job.Goes run.now.main job' m') :
    (∀ other ∈ before ++ job' :: after, other.Leaves) ∧
      MainEngine.Made m.published (MainEngine.record run.now.configs m'.bus) m'.published ∧
      run.now.main.bus.version ≤ m'.bus.version := by
  obtain ⟨hold, hold', holds, -, -, hmove, hbefore, -⟩ := h.consistent.goes hjobs hgoes
  have hserial := h.consistent.serial.perm hbefore
  refine ⟨?_, hserial.made hmove h.made, hmove.bus.grows.version_le⟩
  have hleaves := h.leaves
  have hjob : job ∈ run.now.jobs := by simp [hjobs]
  have hmay := h.may hjob
  rw [hjobs, List.forall_mem_append, List.forall_mem_cons] at hleaves
  rw [List.forall_mem_append, List.forall_mem_cons]
  exact ⟨hleaves.1, hleaves.2.1.goes hmay hgoes, hleaves.2.2⟩

/-- What is nothing to the reload keeps what is known. -/
theorem Sound.aside (h : Sound m run stages) {stages' : List (ReloadJob × Hold)}
    (hconsistent : (run.now.reach m').Consistent stages')
    (hpublished : m'.published = run.now.main.published) (hgrows : run.now.main.bus.Grows m'.bus) :
    Sound m { run with now := run.now.reach m' } stages' where
  consistent := hconsistent
  leaves := h.leaves
  made := h.made.aside h.consistent.serial hpublished hgrows
  coalesced version hmem := Nat.le_trans (h.coalesced version hmem) hgrows.version_le
  triggered := h.triggered

/-- With a job that is given up goes its stage. -/
theorem without_consistent {run : ReloadRun} {front back : List (ReloadJob × Hold)} {hold : Hold}
    (h : run.Consistent (front ++ (job, hold) :: back))
    (hquits : MainEngine.Quits job.looping run.main (job.task.giveUp run.main)) :
    (without run (front.map (·.1)) job (back.map (·.1))).Consistent (front ++ back) := by
  have hat := h.at_stage
  rw [List.forall_mem_append, List.forall_mem_cons] at hat
  obtain ⟨hfront, hown, hback⟩ := hat
  have hat : ∀ stage ∈ front ++ back, stage.1.At stage.2 := List.forall_mem_append.2 ⟨hfront, hback⟩
  have hbefore := perm_stages front back job hold
  have hserial := h.serial.perm hbefore
  cases hlooping : job.looping with
  | true =>
    rw [hlooping] at hquits
    have hquit := hserial.quit (hown.looping.1 hlooping) hquits
    refine ⟨List.map_append.symm, hat, ?_, fun htriggered => ?_⟩
    · simp only [without, hlooping, if_true]
      exact hquit
    · simp [without, hlooping] at htriggered
  | false =>
    rw [hlooping] at hquits
    have hfree : hold = .free := Classical.byContradiction fun hne => by
      rw [hown.looping.2 hne] at hlooping
      cases hlooping
    subst hfree
    have hrest : ReloadRun.Consistent { run with jobs := front.map (·.1) ++ back.map (·.1) }
        (front ++ back) := by
      refine ⟨List.map_append.symm, hat, hserial.of_cons_free, fun htriggered => ?_⟩
      refine ((h.renewed htriggered).subset hbefore.subset).imp_right (Or.imp_right ?_)
      intro ⟨other, hmem, hcovers⟩
      rcases List.mem_cons.1 hmem with rfl | hmem
      · exact hcovers.elim
      · exact ⟨other, hmem, hcovers⟩
    have haside := hrest.aside hquits.published hquits.generation (by simpa using hquits.running)
      (by simpa using hquits.dirty) (.inl ⟨congrArg Bus.version hquits.bus, congrArg Bus.config hquits.bus⟩)
    simp only [without, hlooping]
    exact haside

theorem Sound.giveUp (h : Sound m run stages) (hjobs : run.now.jobs = before ++ job :: after)
    (hround : ¬job.GoesRound) :
    ∃ stages', Sound m { run with now := without run.now before job after } stages' := by
  obtain ⟨front, hold, back, rfl, rfl, rfl⟩ := exists_stage (h.consistent.jobs.symm.trans hjobs)
  have hleaves := h.leaves
  have hjob : job ∈ run.now.jobs := by simp [hjobs]
  have hmay := h.may hjob
  rw [hjobs, List.forall_mem_append, List.forall_mem_cons] at hleaves
  have hquits := hleaves.2.1.giveUp hmay hround
  refine ⟨front ++ back, without_consistent h.consistent hquits, ?_, ?_, ?_, ?_⟩
  · exact List.forall_mem_append.2 ⟨hleaves.1, hleaves.2.2⟩
  · refine h.made.aside h.consistent.serial hquits.published (.inl ⟨?_, ?_⟩)
    · exact congrArg Bus.version hquits.bus
    · exact congrArg Bus.config hquits.bus
  · intro version hmem
    exact Nat.le_trans (h.coalesced version hmem) (Nat.le_of_eq (congrArg Bus.version hquits.bus).symm)
  · intro latest hlatest
    cases hlooping : job.looping with
    | true => simp [without, hlooping] at hlatest
    | false =>
      simp only [without, hlooping] at hlatest
      exact h.triggered latest hlatest

theorem Sound.step (h : Sound m run stages) (hstep : Step run run') :
    ∃ stages', Sound m run' stages' := by
  cases hstep with
  | go hstep =>
    obtain ⟨stages', hconsistent⟩ := h.consistent.step hstep
    cases hstep with
    | begin _ hbegins =>
      refine ⟨stages', hconsistent, ?_, h.made, h.coalesced, h.triggered⟩
      exact List.forall_mem_cons.2 ⟨hbegins.leaves, h.leaves⟩
    | trigger hjobs htrigger hgoes =>
      obtain ⟨hleaves, hmade, hversion⟩ := h.goes hjobs hgoes
      refine ⟨stages', hconsistent, hleaves, hmade, fun version hmem => ?_, fun latest hlatest => ?_⟩
      · exact Nat.le_trans (h.coalesced version hmem) hversion
      · cases hlatest
        exact h.coalesced
    | other hjobs htrigger hgoes =>
      obtain ⟨hleaves, hmade, hversion⟩ := h.goes hjobs hgoes
      refine ⟨stages', hconsistent, hleaves, hmade, fun version hmem => ?_, h.triggered⟩
      exact Nat.le_trans (h.coalesced version hmem) hversion
    | configure _ f =>
      have haside : Bus.Aside 0 run.now.main.bus (Bus.update f run.now.main.bus).2 := Bus.aside_update f _
      exact ⟨stages', h.aside hconsistent rfl haside.grows⟩
    | lists => exact ⟨stages', h.aside hconsistent rfl (.inl ⟨rfl, rfl⟩)⟩
  | coalesce hjobs htrigger hrunning hgoes =>
    obtain ⟨stages', hconsistent⟩ := h.consistent.step (.trigger hjobs htrigger hgoes)
    obtain ⟨hleaves, hmade, hversion⟩ := h.goes hjobs hgoes
    refine ⟨stages', hconsistent, hleaves, hmade, ?_, fun latest hlatest => ?_⟩
    · refine List.forall_mem_cons.2 ⟨hversion, fun version hmem => ?_⟩
      exact Nat.le_trans (h.coalesced version hmem) hversion
    · cases hlatest
      exact List.forall_mem_cons.2 ⟨Nat.le_refl _, h.coalesced⟩
  | giveUp hjobs hround => exact h.giveUp hjobs hround

theorem Reachable.sound (hrest : m.AtRest) (h : Reachable m run) : ∃ stages, Sound m run stages := by
  induction h with
  | start => exact ⟨[], sound_start hrest⟩
  | step h hstep ih =>
    obtain ⟨stages, hsound⟩ := ih
    exact hsound.step hstep

/-- Wherever a running reload is given up, it takes both marks with it, so of the triggers that were
answered as coalesced those are kept for whose configuration it had published already. The engine in use is
that of the start or was built for the configuration of its version. Those that were lost are made good by
the next trigger: when no loop runs after it, an engine is published for all of them. -/
theorem Reachable.coalesced_kept_iff (hrest : m.AtRest) (h : Reachable m run) :
    (∀ job ∈ run.now.jobs, job.looping = true → ¬job.GoesRound →
      let left := job.task.giveUp run.now.main
      left.running = false ∧ left.published = run.now.main.published ∧
        ∀ version ∈ run.coalesced, left.dirty = true ∨ version ≤ left.published.version ↔
          version ≤ run.now.main.published.version) ∧
    (run.now.main.published = m.published ∨
      run.now.main.published.Reflects (run.now.configs run.now.main.published.version)) ∧
    (¬run.now.IsActive → run.now.triggered.isSome = true → ∀ version ∈ run.coalesced,
      version ≤ run.now.main.published.version ∧
        run.now.main.published.Reflects (run.now.configs run.now.main.published.version)) := by
  obtain ⟨stages, hsound⟩ := h.sound hrest
  refine ⟨fun job hjob hlooping hround => ?_, hsound.made, fun hidle htriggered version hmem => ?_⟩
  · have hquits := (hsound.leaves job hjob).giveUp (hsound.may hjob) hround
    rw [hlooping] at hquits
    have hdirty : (job.task.giveUp run.now.main).dirty = false := by simpa using hquits.dirty
    refine ⟨by simpa using hquits.running, hquits.published, fun version _ => ?_⟩
    rw [hdirty, hquits.published]
    simp
  · obtain ⟨latest, hlatest⟩ := Option.isSome_iff_exists.1 htriggered
    obtain ⟨hversion, hreflects⟩ := hsound.consistent.renewed_of_idle hidle hlatest
    exact ⟨Nat.le_trans (hsound.triggered latest hlatest version hmem) hversion, hreflects⟩

/-- Without a job that is given up. -/
theorem reachable_of_reloadRun {now : ReloadRun} (h : ReloadRun.Reachable m now) :
    Reachable m { now } := by
  induction h with
  | start => exact .start
  | step h hstep ih => exact ih.step (.go hstep)

/-- A trigger finds a reload running. -/
theorem Reachable.coalesce (h : Reachable m run) (hjobs : run.now.jobs = before ++ job :: after)
    (htrigger : job.IsTrigger) (hrunning : run.now.main.running = true) :
    Reachable m
      { now := run.now.trigger before job after
        coalesced := run.now.main.bus.version :: run.coalesced } := by
  obtain ⟨job', m', hnext⟩ : ∃ job' m', job.next? run.now.main = some (job', m') := by
    obtain ⟨abandon, rest, htask⟩ := htrigger
    obtain ⟨α, task, looping⟩ := job
    dsimp only at rest htask
    subst htask
    exact ⟨_, _, rfl⟩
  rw [ReloadRun.trigger, hnext]
  exact h.step (.coalesce hjobs htrigger hrunning (ReloadJob.goes_of_next? hnext))

open ReloadRun in
/-- A reload has read the configuration, and then it changes and is triggered again for the change. -/
def triggeredAgain : InterruptedRun where
  now := changed.trigger (changed.jobs.take 1) reloadJob []
  coalesced := [2]

theorem reachable_triggeredAgain : Reachable ReloadRun.idleMain triggeredAgain := by
  obtain ⟨hchanged, job, hboth, -⟩ := ReloadRun.reachable_changed
  have hfront : ReloadRun.changed.jobs.take 1 = [job] := by rw [hboth]; rfl
  rw [triggeredAgain, hfront]
  exact (reachable_of_reloadRun hchanged).coalesce hboth ReloadRun.isTrigger_reloadJob
    (by with_unfolding_all rfl)

theorem coalesced_kept_iff_triggeredAgain : ReloadRun.idleMain.AtRest ∧
    Reachable ReloadRun.idleMain triggeredAgain ∧ ∀ job ∈ triggeredAgain.now.jobs, job.looping = true →
      ¬job.GoesRound →
      let left := job.task.giveUp triggeredAgain.now.main
      left.running = false ∧ (left.dirty = true ∨ 2 ≤ left.published.version ↔
        2 ≤ triggeredAgain.now.main.published.version) := by
  have hrest : ReloadRun.idleMain.AtRest := ⟨rfl, rfl, Nat.le_refl 0, Nat.zero_le 1⟩
  obtain ⟨hleft, -⟩ := Reachable.coalesced_kept_iff hrest reachable_triggeredAgain
  refine ⟨hrest, reachable_triggeredAgain, fun job hjob hlooping hround => ?_⟩
  obtain ⟨hrunning, -, hkept⟩ := hleft job hjob hlooping hround
  exact ⟨hrunning, hkept 2 List.mem_cons_self⟩

/-- The reload is given up before it has published anything, and the change is forgotten. -/
theorem coalesced_not_kept : Reachable ReloadRun.idleMain triggeredAgain ∧
    2 ∈ triggeredAgain.coalesced ∧ ∃ job ∈ triggeredAgain.now.jobs, job.looping = true ∧ ¬job.GoesRound ∧
      let left := job.task.giveUp triggeredAgain.now.main
      left.dirty = false ∧ left.published.version = 0 := by
  have hfirst : triggeredAgain.now.jobs.head?.map (fun job =>
      (job.looping, match job.task with | .done _ => true | .step _ _ _ _ => false,
        (job.task.giveUp triggeredAgain.now.main).dirty,
        (job.task.giveUp triggeredAgain.now.main).published.version)) = some (true, false, false, 0) := by
    decide +kernel
  obtain ⟨job, hjob, hview⟩ := Option.map_eq_some_iff.1 hfirst
  simp only [Prod.mk.injEq] at hview
  obtain ⟨hlooping, hstep, hleft⟩ := hview
  refine ⟨reachable_triggeredAgain, List.mem_cons_self, job, List.mem_of_mem_head? hjob, hlooping, ?_,
    hleft⟩
  rintro ⟨abandon, rest, htask⟩
  rw [htask] at hstep
  cases hstep

end InterruptedRun

end ContentFilter
