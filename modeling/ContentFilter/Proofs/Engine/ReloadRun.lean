import ContentFilter.Proofs.Engine.Reload

/-! Any number of jobs that trigger the reload of a main engine, in every order of their steps, while the
configuration changes: one reload loop at a time, engines that only get newer, and no trigger forgotten. -/

namespace ContentFilter

/-- A job on a main engine, of which a reload may have to go round again. -/
structure ReloadJob where
  Result : Type
  task : Task MainEngine (Reloading Result)
  /-- A reload loop of this job is running. -/
  looping : Bool := false

namespace ReloadJob

/-- The jobs that trigger a reload. -/
inductive Begins : ReloadJob → Prop where
  | reload : Begins ⟨Reload, MainEngine.reload, false⟩
  | update (now : Nat) : Begins ⟨UpdateOutcome, MainEngine.update now, false⟩

/-- What the job does next is to trigger a reload. -/
def IsTrigger (job : ReloadJob) : Prop :=
  ∃ abandon rest, job.task = MainEngine.triggerThen abandon rest

def IsOver (job : ReloadJob) : Prop := ∃ value, job.task = .done (.ended value)

/-- The reload of the job has published and has to go round again. -/
def GoesRound (job : ReloadJob) : Prop := ∃ abandon rest, job.task = .done (.again abandon rest)

/-- One step of a job, or another round of its reload. Its loop runs from the step that marks a reload as
running to the step that takes the mark away. -/
inductive Goes : ReloadJob → MainEngine → ReloadJob → MainEngine → Prop where
  | step {α : Type} {ready : MainEngine → Bool} {run abandon : MainEngine → MainEngine}
      {next : MainEngine → Task MainEngine (Reloading α)} {looping : Bool} {m : MainEngine}
      (hready : ready m = true) :
      Goes ⟨α, .step ready run abandon next, looping⟩ m
        ⟨α, next m, (run m).running && (looping || !m.running)⟩ (run m)
  | again {α : Type} {abandon : MainEngine → MainEngine} {rest : Reload → Task MainEngine α}
      {looping : Bool} {m : MainEngine} :
      Goes ⟨α, .done (.again abandon rest), looping⟩ m
        ⟨α, Reloading.resume (.again abandon rest), looping⟩ m

end ReloadJob

/-- A main engine with its jobs, and what was seen of it. -/
structure ReloadRun where
  main : MainEngine
  jobs : List ReloadJob := []
  /-- The configuration of each version. -/
  configs : Nat → Config
  /-- The version of the configuration at the latest trigger. -/
  triggered : Option Nat := none

namespace ReloadRun

def start (m : MainEngine) : ReloadRun := { main := m, configs := fun _ => m.bus.config }

/-- The main engine came to another state. -/
def reach (run : ReloadRun) (m : MainEngine) : ReloadRun :=
  { run with main := m, configs := MainEngine.record run.configs m.bus }

/-- Some reload loop is running. -/
def IsActive (run : ReloadRun) : Prop := ∃ job ∈ run.jobs, job.looping = true

/-- Any job may begin or take its next step at any time, and the configuration and the lists may change
between the steps. No job is given up. -/
inductive Step : ReloadRun → ReloadRun → Prop where
  | begin {job : ReloadJob} (run : ReloadRun) (hbegins : job.Begins) :
      Step run { run with jobs := job :: run.jobs }
  | trigger {run : ReloadRun} {before after : List ReloadJob} {job job' : ReloadJob} {m : MainEngine}
      (hjobs : run.jobs = before ++ job :: after) (htrigger : job.IsTrigger)
      (hgoes : job.Goes run.main job' m) :
      Step run { run.reach m with
        jobs := before ++ job' :: after
        triggered := some run.main.bus.version }
  | other {run : ReloadRun} {before after : List ReloadJob} {job job' : ReloadJob} {m : MainEngine}
      (hjobs : run.jobs = before ++ job :: after) (htrigger : ¬ job.IsTrigger)
      (hgoes : job.Goes run.main job' m) :
      Step run { run.reach m with jobs := before ++ job' :: after }
  | configure (run : ReloadRun) (f : Config → Config) :
      Step run (run.reach { run.main with bus := (Bus.update f run.main.bus).2 })
  | lists (run : ReloadRun) (registry : Registry) : Step run (run.reach { run.main with registry })

inductive Reachable (m : MainEngine) : ReloadRun → Prop where
  | start : Reachable m (.start m)
  | step {run run' : ReloadRun} (h : Reachable m run) (hstep : Step run run') : Reachable m run'

end ReloadRun

namespace MainEngine

/-- A main engine on which no reload is running. -/
structure AtRest (m : MainEngine) : Prop where
  running : m.running = false
  dirty : m.dirty = false
  generation : m.published.generation ≤ m.generation
  version : m.published.version ≤ m.bus.version

/-- An engine was put together for a configuration that there was, or a running reload will do so. -/
def Renewed (configs : Nat → Config) (m : MainEngine) (holds : List Hold) : Prop :=
  m.published.Reflects (configs m.published.version) ∨ m.dirty = true ∨ ∃ hold ∈ holds, hold.Covers 0

variable {configs : Nat → Config} {needed subscriber : Nat} {m m' : MainEngine} {hold hold' : Hold}
  {holds : List Hold}

theorem Renewed.subset {holds' : List Hold} (h : Renewed configs m holds) (hsub : holds ⊆ holds') :
    Renewed configs m holds' :=
  h.imp_right (Or.imp_right fun ⟨hold, hmem, hcovers⟩ => ⟨hold, hsub hmem, hcovers⟩)

theorem Renewed.aside (h : Renewed configs m holds) (hserial : Serial configs needed m holds)
    (hpublished : m'.published = m.published) (hdirty : m'.dirty = m.dirty)
    (hgrows : m.bus.Grows m'.bus) : Renewed (record configs m'.bus) m' holds := by
  rw [Renewed, hpublished, hdirty, record_of_le hserial.current hgrows hserial.version]
  exact h

/-- Whatever a task does, the engine is renewed or will be. -/
theorem Renewed.move (h : Renewed configs m (hold :: holds))
    (hserial : Serial configs needed m (hold :: holds)) (hmove : Move subscriber hold m hold' m') :
    Renewed (record configs m'.bus) m' (hold' :: holds) := by
  have howned : ∀ {configs m hold}, hold.Covers 0 → Renewed configs m (hold :: holds) :=
    fun hcovers => .inr (.inr ⟨_, List.mem_cons_self, hcovers⟩)
  cases hmove with
  | aside hold hpublished hgeneration hrunning hdirty hbus =>
    exact h.aside hserial hpublished hdirty hbus.grows
  | coalesce => exact .inr (.inl rfl)
  | acquire => exact howned trivial
  | read => exact howned (Nat.zero_le m.bus.version)
  | stamp version => exact howned (Nat.zero_le version)
  | again => exact howned trivial
  | publish hgeneration hversion hreflects =>
    obtain ⟨⟨hconfig, -⟩, -⟩ := hserial.knows _ List.mem_cons_self
    rw [record_of_current hserial.current]
    refine .inl ?_
    rw [hversion, hconfig]
    exact hreflects
  | release hdirty =>
    rw [record_of_current hserial.current]
    rcases h with hreflects | hset | ⟨other, hmem, hcovers⟩
    · exact .inl hreflects
    · rw [hdirty] at hset
      cases hset
    · rcases List.mem_cons.1 hmem with rfl | hmem
      · exact hcovers.elim
      · rw [hserial.others_free (.inl nofun) other hmem] at hcovers
        exact hcovers.elim

/-- A task that leaves a reload running, or one that has to go round again, is answered for. -/
theorem Serial.answered {hold : Hold} (h : Serial configs needed m (hold :: holds))
    (hmove : Move subscriber hold m hold' m')
    (htrigger : if m.running then m'.dirty = true else m'.running = true) :
    m'.dirty = true ∨ hold' = .unread := by
  split at htrigger
  · exact .inl htrigger
  · next hidle =>
    have hfree : hold = .free := Classical.byContradiction fun hne =>
      hidle (h.running.2 ⟨hold, List.mem_cons_self, hne⟩)
    subst hfree
    cases hmove with
    | aside hold hpublished hgeneration hrunning hdirty hbus =>
      rw [hrunning] at htrigger
      exact absurd htrigger hidle
    | coalesce hrunning => exact absurd hrunning hidle
    | acquire => exact .inr rfl

/-- Who owns the reload is who runs the loop. -/
theorem Serial.looping_iff {looping : Bool} (h : Serial configs needed m (hold :: holds))
    (hmove : Move subscriber hold m hold' m') (hlooping : looping = true ↔ hold ≠ .free) :
    (m'.running && (looping || !m.running)) = true ↔ hold' ≠ .free := by
  have howner : hold ≠ .free → m.running = true ∧ looping = true := fun hne =>
    ⟨h.running.2 ⟨hold, List.mem_cons_self, hne⟩, hlooping.2 hne⟩
  have hfree : hold = .free → looping = false := fun heq =>
    Bool.eq_false_iff.2 fun hset => hlooping.1 hset heq
  cases hmove with
  | aside hold hpublished hgeneration hrunning hdirty hbus =>
    rw [hrunning]
    by_cases heq : hold = .free
    · simp [hfree heq, heq]
    · simp [howner heq, heq]
  | coalesce hrunning => simp [hfree rfl, hrunning]
  | acquire hrunning => simp [hrunning]
  | read | stamp | publish | again => simp [howner nofun]
  | release => simp

/-- What a task publishes is newer than what was published, and only the owner of the reload does. -/
theorem Serial.published_newer (h : Serial configs needed m (hold :: holds))
    (hmove : Move subscriber hold m hold' m') : m'.published = m.published ∨
      hold ≠ .free ∧ m.published.generation < m'.published.generation ∧
        m'.published.Reflects (record configs m'.bus m'.published.version) := by
  cases hmove with
  | aside hold hpublished => exact .inl hpublished
  | coalesce | acquire | read | stamp | again | release => exact .inl rfl
  | publish hgeneration hversion hreflects =>
    obtain ⟨⟨hconfig, -⟩, hnewer, -⟩ := h.knows _ List.mem_cons_self
    rw [record_of_current h.current]
    refine .inr ⟨nofun, hgeneration ▸ hnewer, ?_⟩
    rw [hversion, hconfig]
    exact hreflects

end MainEngine

namespace ReloadJob

/-- A job keeps to the moves from the stage that it is at. -/
structure At (job : ReloadJob) (hold : Hold) : Prop where
  follows : job.task.Follows (MainEngine.lock 0) (MainEngine.JobEnds 0) hold
  looping : job.looping = true ↔ hold ≠ .free

variable {configs : Nat → Config} {needed : Nat} {m m' : MainEngine} {job job' : ReloadJob} {hold : Hold}
  {holds : List Hold}

theorem Begins.at_free (h : job.Begins) : job.At .free := by
  have hidle : false = true ↔ Hold.free ≠ .free := ⟨nofun, fun hne => absurd rfl hne⟩
  cases h with
  | reload => exact ⟨MainEngine.follows_triggerThen fun _ => rfl, hidle⟩
  | update now => exact ⟨MainEngine.follows_update now, hidle⟩

theorem At.goes (h : job.At hold) (hserial : MainEngine.Serial configs needed m (hold :: holds))
    (hgoes : job.Goes m job' m') : ∃ hold', MainEngine.Move 0 hold m hold' m' ∧ job'.At hold' := by
  cases hgoes with
  | step hready =>
    obtain ⟨hold', hmove, hnext⟩ := h.follows m (hserial.may List.mem_cons_self) hready
    exact ⟨hold', hmove, hnext, hserial.looping_iff hmove h.looping⟩
  | again =>
    obtain ⟨rfl, hrest⟩ := h.follows
    exact ⟨.unread, .aside .unread rfl rfl rfl rfl (.refl m.bus), MainEngine.follows_reloadThen hrest,
      h.looping⟩

/-- A trigger starts a loop, unless one is running, which it makes go round again. -/
theorem IsTrigger.goes (h : job.IsTrigger) (hgoes : job.Goes m job' m') :
    (if m.running then m'.dirty = true else m'.running = true) ∧ m'.bus = m.bus := by
  obtain ⟨abandon, rest, htask⟩ := h
  cases hgoes with
  | step hready =>
    have hrun := (Task.step.inj htask).2.1
    rw [hrun]
    dsimp only
    split
    · exact ⟨rfl, rfl⟩
    · exact ⟨rfl, rfl⟩
  | again => cases htask

end ReloadJob

namespace ReloadRun

/-- What a run knows of its jobs and of their stages. -/
structure Consistent (run : ReloadRun) (stages : List (ReloadJob × Hold)) : Prop where
  jobs : run.jobs = stages.map (·.1)
  at_stage : ∀ stage ∈ stages, stage.1.At stage.2
  serial : MainEngine.Serial run.configs (run.triggered.getD 0) run.main (stages.map (·.2))
  renewed : run.triggered.isSome = true →
    MainEngine.Renewed run.configs run.main (stages.map (·.2))

variable {m : MainEngine} {run run' : ReloadRun} {stages : List (ReloadJob × Hold)}

theorem consistent_start (h : m.AtRest) : Consistent (start m) [] where
  jobs := rfl
  at_stage := List.forall_mem_nil _
  serial :=
    { alone := .nil
      running := by simp [start, h.running]
      dirty := by simp [start, h.dirty]
      generation := h.generation
      version := h.version
      bound := Nat.zero_le _
      current := rfl
      knows := List.forall_mem_nil _
      covered := .inl (Nat.zero_le _) }
  renewed htriggered := absurd htriggered Bool.false_ne_true

/-- What is left of a run when a job has gone on: its job has made a move from its stage, and the others
are where they were. -/
theorem Consistent.goes (h : Consistent run stages) {before after : List ReloadJob}
    {job job' : ReloadJob} (hjobs : run.jobs = before ++ job :: after)
    (hgoes : job.Goes run.main job' m) :
    ∃ (hold hold' : Hold) (holds : List Hold) (stages' : List (ReloadJob × Hold)), job.At hold ∧ MainEngine.Move 0 hold run.main hold' m ∧
      (stages.map (·.2)).Perm (hold :: holds) ∧ (hold' :: holds).Perm (stages'.map (·.2)) ∧
      before ++ job' :: after = stages'.map (·.1) ∧ ∀ stage ∈ stages', stage.1.At stage.2 := by
  obtain ⟨front, hold, back, rfl, rfl, rfl⟩ := exists_stage (h.jobs.symm.trans hjobs)
  have hat := h.at_stage
  rw [List.forall_mem_append, List.forall_mem_cons] at hat
  obtain ⟨hfront, hown, hback⟩ := hat
  have hbefore := perm_stages front back job hold
  obtain ⟨hold', hmove, hnext⟩ := hown.goes (h.serial.perm hbefore) hgoes
  refine ⟨hold, hold', _, front ++ (job', hold') :: back, hown, hmove, hbefore,
    (perm_stages front back job' hold').symm, ?_, ?_⟩
  · rw [List.map_append, List.map_cons]
  · rw [List.forall_mem_append, List.forall_mem_cons]
    exact ⟨hfront, hnext, hback⟩

/-- What is nothing to the reload leaves a run consistent. -/
theorem Consistent.aside (h : Consistent run stages) (hpublished : m.published = run.main.published)
    (hgeneration : m.generation = run.main.generation) (hrunning : m.running = run.main.running)
    (hdirty : m.dirty = run.main.dirty) (hgrows : run.main.bus.Grows m.bus) :
    Consistent (run.reach m) stages where
  jobs := h.jobs
  at_stage := h.at_stage
  serial := h.serial.aside hpublished hgeneration hrunning hdirty hgrows
  renewed htriggered := (h.renewed htriggered).aside h.serial hpublished hdirty hgrows

theorem Consistent.step (h : Consistent run stages) (hstep : Step run run') :
    ∃ stages', Consistent run' stages' := by
  cases hstep with
  | @begin job _ hbegins =>
    refine ⟨(job, .free) :: stages, congrArg (job :: ·) h.jobs, ?_, h.serial.cons_free, ?_⟩
    · exact List.forall_mem_cons.2 ⟨hbegins.at_free, h.at_stage⟩
    · exact fun htriggered => (h.renewed htriggered).subset (List.subset_cons_self _ _)
  | @trigger _ before after job job' m hjobs htrigger hgoes =>
    obtain ⟨hold, hold', holds, stages', -, hmove, hbefore, hafter, hjobs', hat⟩ := h.goes hjobs hgoes
    have hserial := h.serial.perm hbefore
    obtain ⟨hstate, hbus⟩ := htrigger.goes hgoes
    -- the trigger made a loop go round again, or its job has begun one that has read nothing yet
    have hcovers : ∀ needed, m.dirty = true ∨ ∃ hold ∈ hold' :: holds, hold.Covers needed := by
      refine fun needed => (hserial.answered hmove hstate).imp_right fun hunread => ?_
      exact ⟨hold', List.mem_cons_self, by rw [hunread]; trivial⟩
    refine ⟨stages', hjobs', hat, MainEngine.Serial.perm ?_ hafter, fun _ => ?_⟩
    · exact (hserial.move hmove).need (Nat.le_of_eq (congrArg Bus.version hbus).symm) (.inr (hcovers _))
    · exact MainEngine.Renewed.subset (.inr (hcovers 0)) hafter.subset
  | other hjobs htrigger hgoes =>
    obtain ⟨hold, hold', holds, stages', -, hmove, hbefore, hafter, hjobs', hat⟩ := h.goes hjobs hgoes
    have hserial := h.serial.perm hbefore
    refine ⟨stages', hjobs', hat, (hserial.move hmove).perm hafter, fun htriggered => ?_⟩
    have hrenewed := (h.renewed htriggered).subset hbefore.subset
    exact (hrenewed.move hserial hmove).subset hafter.subset
  | configure _ f =>
    have haside : Bus.Aside 0 run.main.bus (Bus.update f run.main.bus).2 := Bus.aside_update f _
    exact ⟨stages, h.aside rfl rfl rfl rfl haside.grows⟩
  | lists => exact ⟨stages, h.aside rfl rfl rfl rfl (.inl ⟨rfl, rfl⟩)⟩

theorem Reachable.consistent (hrest : m.AtRest) (h : Reachable m run) :
    ∃ stages, Consistent run stages := by
  induction h with
  | start => exact ⟨[], consistent_start hrest⟩
  | step h hstep ih =>
    obtain ⟨stages, hconsistent⟩ := ih
    exact hconsistent.step hstep

/-- A loop runs for each owner of the reload, of which there is one at most. -/
theorem Consistent.alone (h : Consistent run stages) :
    run.jobs.Pairwise fun a b => a.looping = false ∨ b.looping = false := by
  have hidle : ∀ stage ∈ stages, stage.2 = .free → stage.1.looping = false := by
    intro stage hmem hfree
    exact Bool.eq_false_iff.2 fun hset => (h.at_stage stage hmem).looping.1 hset hfree
  rw [h.jobs, List.pairwise_map]
  refine (List.pairwise_map.1 h.serial.alone).imp_of_mem fun ha hb hfree => ?_
  exact hfree.imp (hidle _ ha) (hidle _ hb)

theorem Consistent.isActive_iff (h : Consistent run stages) :
    run.IsActive ↔ ∃ hold ∈ stages.map (·.2), hold ≠ .free := by
  rw [IsActive, h.jobs]
  constructor
  · rintro ⟨job, hjob, hlooping⟩
    obtain ⟨stage, hmem, rfl⟩ := List.mem_map.1 hjob
    exact ⟨stage.2, List.mem_map_of_mem hmem, (h.at_stage stage hmem).looping.1 hlooping⟩
  · rintro ⟨hold, hhold, hne⟩
    obtain ⟨stage, hmem, rfl⟩ := List.mem_map.1 hhold
    exact ⟨stage.1, List.mem_map_of_mem hmem, (h.at_stage stage hmem).looping.2 hne⟩

/-- The loop of a job goes on from round to round and does not outlast the job. -/
theorem Consistent.looping (h : Consistent run stages) {job : ReloadJob} (hjob : job ∈ run.jobs) :
    (job.IsOver → job.looping = false) ∧ (job.GoesRound → job.looping = true) := by
  rw [h.jobs] at hjob
  obtain ⟨stage, hmem, rfl⟩ := List.mem_map.1 hjob
  obtain ⟨hfollows, hlooping⟩ := h.at_stage stage hmem
  constructor
  · rintro ⟨value, htask⟩
    rw [htask] at hfollows
    exact Bool.eq_false_iff.2 fun hset => hlooping.1 hset hfollows
  · rintro ⟨abandon, rest, htask⟩
    rw [htask] at hfollows
    obtain ⟨hunread, -⟩ := hfollows
    rw [hlooping, hunread]
    simp

/-- Whoever publishes runs the loop, and has something newer. -/
theorem Consistent.published_newer (h : Consistent run stages) (hstep : Step run run') :
    run'.main.published = run.main.published ∨
      run.IsActive ∧ run.main.published.generation < run'.main.published.generation ∧
        run'.main.published.Reflects (run'.configs run'.main.published.version) := by
  have hjob : ∀ {before after : List ReloadJob} {job job' : ReloadJob} {m : MainEngine},
      run.jobs = before ++ job :: after → job.Goes run.main job' m →
      m.published = run.main.published ∨
        run.IsActive ∧ run.main.published.generation < m.published.generation ∧
          m.published.Reflects (MainEngine.record run.configs m.bus m.published.version) := by
    intro before after job job' m hjobs hgoes
    obtain ⟨hold, hold', holds, -, hat, hmove, hbefore, -⟩ := h.goes hjobs hgoes
    refine ((h.serial.perm hbefore).published_newer hmove).imp_right (And.imp_left fun howner => ?_)
    exact ⟨job, by simp [hjobs], hat.looping.2 howner⟩
  cases hstep with
  | begin => exact .inl rfl
  | trigger hjobs htrigger hgoes => exact hjob hjobs hgoes
  | other hjobs htrigger hgoes => exact hjob hjobs hgoes
  | configure => exact .inl rfl
  | lists => exact .inl rfl

/-- Without a loop no trigger waits for an answer. -/
theorem Consistent.renewed_of_idle (h : Consistent run stages) (hidle : ¬ run.IsActive) {version : Nat}
    (htriggered : run.triggered = some version) : version ≤ run.main.published.version ∧
      run.main.published.Reflects (run.configs run.main.published.version) := by
  have hfree : ∀ hold ∈ stages.map (·.2), hold = .free := fun hold hmem =>
    Classical.byContradiction fun hne => hidle (h.isActive_iff.2 ⟨hold, hmem, hne⟩)
  have hclean : ¬ run.main.dirty = true := fun hdirty =>
    hidle (h.isActive_iff.2 (h.serial.running.1 (h.serial.dirty hdirty)))
  have hnone : ∀ needed, ¬ ∃ hold ∈ stages.map (·.2), hold.Covers needed := by
    rintro needed ⟨hold, hmem, hcovers⟩
    rw [hfree hold hmem] at hcovers
    exact hcovers
  have hcovered := h.serial.covered.resolve_right fun hlater => hlater.elim hclean (hnone _)
  have hrenewed := (h.renewed (by rw [htriggered]; rfl)).resolve_right fun hlater =>
    hlater.elim hclean (hnone 0)
  rw [htriggered] at hcovered
  exact ⟨hcovered, hrenewed⟩

/-- In every order of the steps at most one reload loop runs at a time, what it publishes is newer than
what was published before and put together for a configuration that there was, and when no loop runs,
that configuration is no older than the one at the latest trigger, be it coalesced or not. -/
theorem Reachable.single_flight (hrest : m.AtRest) (h : Reachable m run) :
    (run.jobs.Pairwise fun a b => a.looping = false ∨ b.looping = false) ∧
    (∀ job ∈ run.jobs, (job.IsOver → job.looping = false) ∧ (job.GoesRound → job.looping = true)) ∧
    (run.main.running = true ↔ run.IsActive) ∧
    (∀ run', Step run run' → run'.main.published = run.main.published ∨
      run.IsActive ∧ run.main.published.generation < run'.main.published.generation ∧
        run'.main.published.Reflects (run'.configs run'.main.published.version)) ∧
    (¬ run.IsActive → ∀ version, run.triggered = some version →
      version ≤ run.main.published.version ∧
        run.main.published.Reflects (run.configs run.main.published.version)) := by
  obtain ⟨stages, hconsistent⟩ := h.consistent hrest
  refine ⟨hconsistent.alone, fun job => hconsistent.looping, ?_,
    fun run' => hconsistent.published_newer, fun hidle version => hconsistent.renewed_of_idle hidle⟩
  exact hconsistent.serial.running.trans hconsistent.isActive_iff.symm

end ReloadRun

namespace MainEngine

/-- Tasks that mark no reload as running. -/
def calm : Task.Discipline Unit MainEngine :=
  ⟨fun _ _ => True, fun _ m _ m' => m.running = false → m'.running = false⟩

/-- Nor does what is left of a job mark one. -/
def RestsCalm {α : Type} : Reloading α → Unit → Prop
  | .ended _, _ => True
  | .again _ rest, _ => ∀ reload, (rest reload).Follows calm (fun _ _ => True) ()

theorem calm_reloadRound : reloadRound.Follows calm (fun _ _ => True) () := by
  rintro m - -
  refine ⟨(), id, ?_⟩
  rintro m' - -
  refine ⟨(), id, ?_⟩
  have hbuild : (onRegistry (build m.bus.config (ListName.enabled m.bus.config))).Follows calm
      (fun _ _ => True) () :=
    (Task.follows_within (fun _ _ _ => id) (Task.yields_any _)).mono fun _ _ _ => trivial
  refine hbuild.bind fun built _ _ => ?_
  have hpublish : ∀ new, (Task.change (publish new)).Follows calm (fun _ _ => True) () := by
    intro new m _ _
    refine ⟨(), fun hrunning => ?_, trivial⟩
    dsimp only [publish]
    split
    · exact hrunning
    · exact hrunning
  refine (hpublish _).bind fun _ _ _ m _ _ => ⟨(), fun hrunning => ?_, trivial⟩
  dsimp only
  split
  · exact hrunning
  · rfl

theorem calm_reloadThen {α : Type} {abandon : MainEngine → MainEngine}
    {rest : Reload → Task MainEngine α}
    (hrest : ∀ reload, (rest reload).Follows calm (fun _ _ => True) ()) :
    (reloadThen abandon rest).Follows calm RestsCalm () := by
  refine .guarded (calm_reloadRound.guarded.bind fun result _ _ => ?_)
  cases result with
  | none => exact hrest
  | some reload => exact (hrest reload).bind fun _ _ _ => trivial

end MainEngine

namespace ReloadJob

variable {m m' : MainEngine} {job job' : ReloadJob}

/-- The job has triggered its reload. -/
def HasTriggered (job : ReloadJob) : Prop := job.task.Follows MainEngine.calm MainEngine.RestsCalm ()

/-- A job triggers one reload at most. -/
theorem HasTriggered.not_isTrigger (h : job.HasTriggered) : ¬ job.IsTrigger := by
  rintro ⟨abandon, rest, htask⟩
  rw [HasTriggered, htask] at h
  obtain ⟨_, hcalm, -⟩ := h { registry := {}, bus := { config := {} } } trivial rfl
  exact absurd (hcalm rfl) (by simp)

theorem HasTriggered.goes (h : job.HasTriggered) (hgoes : job.Goes m job' m') : job'.HasTriggered := by
  cases hgoes with
  | step hready =>
    obtain ⟨_, -, hnext⟩ := h _ trivial hready
    exact hnext
  | again => exact MainEngine.calm_reloadThen h

/-- The next step of a job, unless it is over or has to wait. -/
def next? (job : ReloadJob) (m : MainEngine) : Option (ReloadJob × MainEngine) :=
  match job with
  | ⟨α, .step ready run _ next, looping⟩ =>
    if ready m then some (⟨α, next m, (run m).running && (looping || !m.running)⟩, run m) else none
  | ⟨α, .done (.again abandon rest), looping⟩ =>
    some (⟨α, Reloading.resume (.again abandon rest), looping⟩, m)
  | ⟨_, .done (.ended _), _⟩ => none

theorem goes_of_next? (h : job.next? m = some (job', m')) : job.Goes m job' m' := by
  obtain ⟨α, task, looping⟩ := job
  cases task with
  | step ready run abandon next =>
    rw [next?] at h
    split at h
    · next hready =>
      cases h
      exact .step hready
    · cases h
  | done result =>
    cases result with
    | ended value => cases h
    | again abandon rest =>
      cases h
      exact .again

end ReloadJob

namespace ReloadRun

variable {m : MainEngine} {run : ReloadRun}

/-- Let the newest job take so many steps, unless it has to wait. -/
def advance : Nat → ReloadRun → ReloadRun
  | 0, run => run
  | n + 1, run =>
    match run.jobs with
    | [] => run
    | job :: jobs =>
      match job.next? run.main with
      | none => run
      | some (job', m) => advance n { run.reach m with jobs := job' :: jobs }

/-- Let one job trigger its reload. -/
def trigger (before : List ReloadJob) (job : ReloadJob) (after : List ReloadJob) (run : ReloadRun) :
    ReloadRun :=
  match job.next? run.main with
  | none => run
  | some (job', m) =>
    { run.reach m with
      jobs := before ++ job' :: after
      triggered := some run.main.bus.version }

/-- Change the configuration from outside. -/
def configure (f : Config → Config) (run : ReloadRun) : ReloadRun :=
  run.reach { run.main with bus := (Bus.update f run.main.bus).2 }

theorem Reachable.trigger {before after : List ReloadJob} {job : ReloadJob} (h : Reachable m run)
    (hjobs : run.jobs = before ++ job :: after) (htrigger : job.IsTrigger) :
    Reachable m (run.trigger before job after) := by
  rw [ReloadRun.trigger]
  split
  · exact h
  · next hnext => exact h.step (.trigger hjobs htrigger (ReloadJob.goes_of_next? hnext))

theorem Reachable.advance (n : Nat) {job : ReloadJob} {jobs : List ReloadJob} (h : Reachable m run)
    (hjobs : run.jobs = job :: jobs) (htriggered : job.HasTriggered) :
    Reachable m (run.advance n) ∧
      ∃ job', (run.advance n).jobs = job' :: jobs ∧ job'.HasTriggered := by
  induction n generalizing run job with
  | zero => exact ⟨h, job, hjobs, htriggered⟩
  | succ n ih =>
    rw [ReloadRun.advance, hjobs]
    dsimp only
    cases hnext : job.next? run.main with
    | none => exact ⟨h, job, hjobs, htriggered⟩
    | some found =>
      obtain ⟨job', m'⟩ := found
      have hgoes := ReloadJob.goes_of_next? hnext
      have hstep := h.step (@Step.other run [] jobs job job' m' hjobs htriggered.not_isTrigger hgoes)
      exact ih hstep rfl (htriggered.goes hgoes)

/-- A main engine without lists. -/
def idleMain : MainEngine where
  registry := {}
  bus := { config := { blockAds := false, blockTrackers := false } }

def reloadJob : ReloadJob := ⟨Reload, MainEngine.reload, false⟩

theorem isTrigger_reloadJob : reloadJob.IsTrigger := ⟨id, pure, rfl⟩

/-- One job runs a reload and has read the configuration, and then it changes. -/
def changed : ReloadRun :=
  (({ start idleMain with jobs := [reloadJob, reloadJob] }.trigger [] reloadJob [reloadJob]).advance
    1).configure fun config => { config with filtersUpdatedAt := 7 }

theorem reachable_changed : Reachable idleMain changed ∧
    ∃ job, changed.jobs = [job, reloadJob] ∧ job.HasTriggered := by
  have hjobs : Reachable idleMain { start idleMain with jobs := [reloadJob, reloadJob] } :=
    (Reachable.start.step (.begin _ .reload)).step (.begin _ .reload)
  have hrunning := @Reachable.trigger _ _ [] [reloadJob] reloadJob hjobs rfl isTrigger_reloadJob
  obtain ⟨hread, hfirst⟩ := hrunning.advance 1 rfl (MainEngine.calm_reloadThen fun _ => trivial)
  exact ⟨hread.step (.configure _ _), hfirst⟩

/-- Another job triggers a reload for the change, and the first goes round again for it. -/
def coalesced : ReloadRun :=
  (changed.trigger (changed.jobs.take 1) reloadJob []).advance 40

theorem reachable_coalesced : Reachable idleMain coalesced := by
  obtain ⟨hchanged, job, hboth, htriggered⟩ := reachable_changed
  have hfront : changed.jobs.take 1 = [job] := by rw [hboth]; rfl
  rw [coalesced, hfront]
  exact ((hchanged.trigger hboth isTrigger_reloadJob).advance 40 rfl htriggered).1

theorem single_flight_coalesced : idleMain.AtRest ∧ Reachable idleMain coalesced ∧
    ¬ coalesced.IsActive ∧ coalesced.main.published.generation = 2 ∧
      coalesced.main.published.Reflects
        (coalesced.configs coalesced.main.published.version) ∧
      coalesced.triggered = some 2 ∧ 2 ≤ coalesced.main.published.version := by
  have hrest : idleMain.AtRest := ⟨rfl, rfl, Nat.le_refl 0, Nat.zero_le 1⟩
  have htriggered : coalesced.triggered = some 2 := by with_unfolding_all rfl
  obtain ⟨-, -, hrunning, -, hserved⟩ := Reachable.single_flight hrest reachable_coalesced
  have hidle : ¬ coalesced.IsActive := by
    rw [← hrunning]
    exact Bool.not_eq_true _ ▸ (by with_unfolding_all rfl)
  obtain ⟨hversion, hreflects⟩ := hserved hidle 2 htriggered
  exact ⟨hrest, reachable_coalesced, hidle, by with_unfolding_all rfl, hreflects, htriggered, hversion⟩

end ReloadRun

end ContentFilter
