import ContentFilter.Proofs.Service.Course

/-! A started service with all its tasks, in every order of their steps: which configuration the engine
in use was built for once the engines have handled the newest one. -/

namespace ContentFilter

/-- A task of a service, of which a reload may have to go round again. -/
structure Job where
  Result : Type
  task : Task Service (Reloading Result)

/-- What runs next to the engines: a turn of another background task, or a call of the service. -/
inductive Errand where
  | rules (now : Nat)
  | pauses (now : Nat)
  | update (now : Nat)
  | trackers
  | alarm (name : String) (now : Nat)
  | allowOnce (tab : Int) (url : String)
  | tabRemoved (tab : Int)

def Job.once (task : Task Service Unit) : Job := ⟨Unit, do pure (.ended (← task))⟩

def Errand.job : Errand → Job
  | rules now => .once (Service.ruleTurn now)
  | pauses now => .once (Service.pauseTurn now)
  | update now => ⟨UpdateOutcome, Service.update now⟩
  | trackers => .once Service.afterUpdate
  | alarm name now => .once do let _ ← Service.onAlarm name now
  | allowOnce tab url => .once do let _ ← Service.allowOnce tab url
  | tabRemoved tab => .once do let _ ← Service.onTabRemoved tab

/-- A started service, with what is left of the turn of the engines and of everything else. -/
structure System extends Course where
  engines : Task Service (Reloading Unit)
  others : List Job := []

/-- One step of a job, or another round of its reload. -/
inductive Goes {α : Type} : Task Service (Reloading α) → Service → Task Service (Reloading α) →
    Service → Prop where
  | step {ready : Service → Bool} {run abandon : Service → Service}
      {next : Service → Task Service (Reloading α)} {s : Service} (hready : ready s = true) :
      Goes (.step ready run abandon next) s (next s) (run s)
  | again {abandon : MainEngine → MainEngine} {rest : Reload → Task MainEngine α} {s : Service} :
      Goes (.done (.again abandon rest)) s (Service.onMain (Reloading.resume (.again abandon rest))) s

namespace System

def start (s : Service) : System := { Course.start s with engines := Service.engineTurn }

/-- A change of the configuration from outside. -/
def configured (f : Config → Config) (s : Service) : Service :=
  { s with main := { s.main with bus := (Bus.update f s.main.bus).2 } }

/-- Any task may be the next to take a step, and the configuration and what lies outside may change at
any time. -/
inductive Step : System → System → Prop where
  | engines {sys : System} {engines : Task Service (Reloading Unit)} {s : Service}
      (goes : Goes sys.engines sys.service engines s) : Step sys ⟨sys.reach s, engines, sys.others⟩
  | turn {sys : System} (ended : sys.engines = .done (.ended ())) :
      Step sys { sys with engines := Service.engineTurn }
  | other {sys : System} {before after : List Job} {α : Type} {task task' : Task Service (Reloading α)}
      {s : Service} (others : sys.others = before ++ ⟨α, task⟩ :: after)
      (goes : Goes task sys.service task' s) :
      Step sys ⟨sys.reach s, sys.engines, before ++ ⟨α, task'⟩ :: after⟩
  | errand (sys : System) (errand : Errand) : 
    Step sys { sys with others := errand.job :: sys.others }
  | configure (sys : System) (f : Config → Config) : 
    Step sys { sys with toCourse := sys.reach (configured f sys.service) }
  | surroundings (sys : System) (w : Surroundings) : 
    Step sys { sys with toCourse := sys.reach (sys.service.surround w) }

inductive Reachable (s₀ : Service) : System → Prop where
  | start : Reachable s₀ (.start s₀)
  | step {sys sys' : System} (h : Reachable s₀ sys) (step : Step sys sys') : Reachable s₀ sys'

/-- The system is consistent, and each of its tasks keeps to its moves from the stage that it is at. -/
def Invariant (initial : Published) (sys : System) : Prop :=
  ∃ subscriber needed turn hold, ∃ stages : List (Job × Hold),
    Course.Consistent initial subscriber needed turn (hold :: stages.map (·.2)) sys.toCourse ∧
    sys.engines.Follows (Service.engineLock subscriber)
      (fun result stage => MainEngine.JobEnds subscriber result stage.1 ∧ stage.2 = .waiting)
      (hold, turn) ∧
    sys.others = stages.map (·.1) ∧ ∀ stage ∈ stages,
      stage.1.task.Follows (Service.lock subscriber) (MainEngine.JobEnds subscriber) stage.2

theorem follows_errand (subscriber : Nat) (errand : Errand) :
    errand.job.task.Follows (Service.lock subscriber) (MainEngine.JobEnds subscriber) .free := by
  have honce : ∀ task : Task Service Unit, Service.Stays subscriber (fun _ => True) task →
      (Job.once task).task.Follows (Service.lock subscriber) (MainEngine.JobEnds subscriber) .free :=
    fun task h => (h .free).bind fun _ hold hhold => hhold.1
  cases errand with
  | rules now => exact honce _ (Service.stays_ruleTurn now)
  | pauses now => exact honce _ (Service.stays_pauseTurn now)
  | update now => exact Service.follows_onMain (MainEngine.follows_update now)
  | trackers =>
    exact honce _ (Service.stays_onTrackersChanged.bind fun _ _ => Service.stays_pure trivial)
  | alarm name now =>
    exact honce _ ((Service.stays_onPauses (Service.calm_onAlarm name now)).bind fun _ _ =>
      Service.stays_pure trivial)
  | allowOnce tab url =>
    have hallow : Service.Stays subscriber (fun _ => True) (Service.allowOnce tab url) :=
      (Service.stays_look _).bind fun suffixes _ => Service.stays_onAllowances _
    exact honce _ (hallow.bind fun _ _ => Service.stays_pure trivial)
  | tabRemoved tab =>
    exact honce _ ((Service.stays_onAllowances _).bind fun _ _ => Service.stays_pure trivial)

variable {initial : Published} {subscriber : Nat} {sys : System}

/-- The next step of a task is a move from its stage, after which it is at the next. -/
theorem Goes.follows {α : Type} {task task' : Task Service (Reloading α)} {s s' : Service} {hold : Hold}
    (h : Goes task s task' s')
    (hfollows : task.Follows (Service.lock subscriber) (MainEngine.JobEnds subscriber) hold)
    (hmay : (Service.lock subscriber).may hold s) :
    ∃ hold', (Service.lock subscriber).move hold s hold' s' ∧
      task'.Follows (Service.lock subscriber) (MainEngine.JobEnds subscriber) hold' := by
  cases h with
  | step hready => exact hfollows s hmay hready
  | again =>
    obtain ⟨rfl, hrest⟩ := hfollows
    exact ⟨.unread, .of_main_eq rfl rfl hmay.2,
      Service.follows_onMain (MainEngine.follows_reloadThen hrest)⟩

theorem Goes.follows_engines {task task' : Task Service (Reloading Unit)} {s s' : Service} {hold : Hold}
    {turn : Service.Turn} (h : Goes task s task' s')
    (hfollows : task.Follows (Service.engineLock subscriber)
      (fun result stage => MainEngine.JobEnds subscriber result stage.1 ∧ stage.2 = .waiting)
      (hold, turn)) (hmay : (Service.lock subscriber).may hold s) :
    ∃ stage, (Service.engineLock subscriber).move (hold, turn) s stage s' ∧
      task'.Follows (Service.engineLock subscriber)
        (fun result stage => MainEngine.JobEnds subscriber result stage.1 ∧ stage.2 = .waiting)
        stage := by
  cases h with
  | step hready => exact hfollows s hmay hready
  | again =>
    obtain ⟨⟨rfl, hrest⟩, rfl⟩ := hfollows
    exact ⟨(.unread, .waiting), .other .waiting (.of_main_eq rfl rfl hmay.2),
      Service.follows_other .waiting (Service.follows_onMain (MainEngine.follows_reloadThen hrest))⟩

theorem Invariant.step {sys' : System} (h : Invariant initial sys) (hstep : Step sys sys') :
    Invariant initial sys' := by
  obtain ⟨subscriber, needed, turn, hold, stages, hconsistent, hengines, hothers, hstages⟩ := h
  cases hstep with
  | engines hgoes =>
    have hmay := hconsistent.may List.mem_cons_self
    obtain ⟨stage, hmove, hnext⟩ := Goes.follows_engines hgoes hengines hmay
    obtain ⟨needed', hafter⟩ := hconsistent.enginesMove hmove
    exact ⟨subscriber, needed', stage.2, stage.1, stages, hafter, hnext, hothers, hstages⟩
  | turn hended =>
    rw [hended] at hengines
    obtain ⟨rfl, rfl⟩ := hengines
    exact ⟨subscriber, needed, .waiting, .free, stages, hconsistent, Service.follows_engineTurn, hothers,
      hstages⟩
  | @other before after α task task' s hsplit hgoes =>
    obtain ⟨front, own, back, rfl, rfl, rfl⟩ := exists_stage (hothers.symm.trans hsplit)
    -- the job that goes on is brought to the front, and back to its place after the move
    have hplace : ∀ (job : Job) (own : Hold), (own :: hold :: (front ++ back).map (·.2)).Perm
        (hold :: (front ++ (job, own) :: back).map (·.2)) := by
      intro job own
      exact (List.Perm.swap hold own _).trans ((perm_stages front back job own).symm.cons hold)
    have hmem : (⟨α, task⟩, own) ∈ front ++ (⟨α, task⟩, own) :: back :=
      List.mem_append_right front List.mem_cons_self
    have hbefore := hconsistent.perm (hplace ⟨α, task⟩ own).symm
    obtain ⟨own', hmove, hnext⟩ := Goes.follows hgoes (hstages _ hmem) (hbefore.may List.mem_cons_self)
    refine ⟨subscriber, needed, turn, hold, front ++ (⟨α, task'⟩, own') :: back,
      (hbefore.move hmove).perm (hplace ⟨α, task'⟩ own'), hengines, ?_, ?_⟩
    · rw [List.map_append, List.map_cons]
    · intro stage hstage
      rcases List.mem_append.1 hstage with hfront | hback
      · exact hstages stage (List.mem_append_left _ hfront)
      · rcases List.mem_cons.1 hback with rfl | hback
        · exact hnext
        · exact hstages stage (List.mem_append_right front (List.mem_cons_of_mem _ hback))
  | errand errand =>
    have hnew := ((hconsistent.serial.cons_free).perm (.swap hold .free _))
    refine ⟨subscriber, needed, turn, hold, (errand.job, .free) :: stages,
      ⟨hnew, hconsistent.made, hconsistent.delivered, hconsistent.turn⟩, hengines,
      congrArg (errand.job :: ·) hothers, List.forall_mem_cons.2 ⟨follows_errand subscriber errand, hstages⟩⟩
  | configure f =>
    have hfeeds := hconsistent.delivered.feeds
    have haside : Course.Aside subscriber sys.service (configured f sys.service) :=
      ⟨⟨hfeeds.engines, hfeeds.rules, hfeeds.pauses⟩, rfl, Bus.aside_update f _⟩
    exact ⟨subscriber, needed, turn, hold, stages, hconsistent.aside haside rfl rfl rfl rfl, hengines, hothers,
      hstages⟩
  | surroundings w =>
    have hfeeds := hconsistent.delivered.feeds
    have haside : Course.Aside subscriber sys.service (sys.service.surround w) :=
      ⟨⟨hfeeds.engines, hfeeds.rules, hfeeds.pauses⟩, rfl, .refl _⟩
    exact ⟨subscriber, needed, turn, hold, stages, hconsistent.aside haside rfl rfl rfl rfl, hengines, hothers,
      hstages⟩

theorem invariant_start {parts : ServiceParts} {s₀ : Service} (h : Starts parts s₀) :
    Invariant s₀.main.published (start s₀) := by
  obtain ⟨subscriber, hbegin⟩ := h.beginning
  refine ⟨subscriber, 0, .waiting, .free, [], Course.consistent_start hbegin, Service.follows_engineTurn, rfl,
    fun stage hmem => ?_⟩
  cases hmem

theorem Reachable.invariant {parts : ServiceParts} {s₀ : Service} (hstart : Starts parts s₀)
    (h : Reachable s₀ sys) : Invariant s₀.main.published sys := by
  induction h with
  | start => exact invariant_start hstart
  | step h hstep ih => exact ih.step hstep

/-- In every order of the steps, once the engines have handled the newest configuration and no reload is
running, the engine in use is for that configuration, unless a stored engine was taken that is not for
the configuration of the start, the first delivery was swallowed, or a reload overtook the deliveries.
A change is never lost otherwise. -/
theorem isCurrent_iff_of_quiet {parts : ServiceParts} {s₀ : Service} (hstart : Starts parts s₀)
    (h : Reachable s₀ sys) (hquiet : sys.Quiet) : sys.IsCurrent ↔
      ¬ sys.Misrestored s₀.main.published ∧ ¬ sys.Swallowed ∧ ¬ sys.Overtaken := by
  obtain ⟨subscriber, needed, turn, hold, stages, hconsistent, -⟩ := h.invariant hstart
  exact hconsistent.isCurrent_iff hquiet

/-- Let the engines take so many steps, unless they have to wait. -/
def advance : Nat → System → System
  | 0, sys => sys
  | n + 1, sys =>
    match sys.engines with
    | .step ready run _ next =>
      if ready sys.service then advance n ⟨sys.reach (run sys.service), next sys.service, sys.others⟩
      else sys
    | .done (.ended ()) => advance n { sys with engines := Service.engineTurn }
    | .done (.again _ _) => sys

/-- Change the configuration from outside. -/
def configure (f : Config → Config) (sys : System) : System :=
  { sys with toCourse := sys.reach (configured f sys.service) }

theorem Reachable.configure {s₀ : Service} (f : Config → Config) (h : Reachable s₀ sys) :
    Reachable s₀ (sys.configure f) := h.step (.configure sys f)

theorem Reachable.advance {s₀ : Service} (n : Nat) (h : Reachable s₀ sys) :
    Reachable s₀ (sys.advance n) := by
  induction n generalizing sys with
  | zero => exact h
  | succ n ih =>
    rw [System.advance]
    obtain ⟨course, engines, others⟩ := sys
    cases engines with
    | step ready run abandon next =>
      dsimp only
      split
      · next hready => exact ih (h.step (.engines (.step hready)))
      · exact h
    | done result =>
      cases result with
      | ended value => exact ih (h.step (.turn rfl))
      | again abandon rest => exact h

/-- A service without lists. -/
def bareParts : ServiceParts where
  settings := {}
  config := { blockAds := false, blockTrackers := false }
  capabilities := { blockingInterception := true }

def bareService : Service := (Service.start? bareParts).get (by with_unfolding_all rfl)

theorem starts_bareService : Starts bareParts bareService :=
  starts_of_start? (Option.some_get _).symm

def withCustomText (config : Config) : Config :=
  { config with customFilters := { enabled := true, text := "||example.com^" } }

/-- A text is configured before the engines take their first step; then they take all they can. -/
def swallowed : System := ((start bareService).configure withCustomText).advance 16

theorem reachable_swallowed : Reachable bareService swallowed :=
  (Reachable.start.configure withCustomText).advance 16

theorem quiet_swallowed : swallowed.Quiet := by
  have hhandled : swallowed.service.main.bus.handled = [(1, 2), (2, 0), (3, 0)] := by
    with_unfolding_all rfl
  refine ⟨by with_unfolding_all rfl, ?_⟩
  rw [hhandled]
  exact List.mem_cons_self

theorem isCurrent_iff_of_quiet_swallowed :
    Starts bareParts bareService ∧ Reachable bareService swallowed ∧ swallowed.Quiet ∧
      (swallowed.IsCurrent ↔ ¬ swallowed.Misrestored bareService.main.published ∧
        ¬ swallowed.Swallowed ∧ ¬ swallowed.Overtaken) :=
  ⟨starts_bareService, reachable_swallowed, quiet_swallowed,
    isCurrent_iff_of_quiet starts_bareService reachable_swallowed quiet_swallowed⟩

/-- An engine without lists does not reflect a configured text. -/
theorem not_reflects_withCustomText {published : Published} (hids : published.ids = []) :
    ¬ published.Reflects (withCustomText bareParts.config) := by
  rintro ⟨found, hstands, -, hnames⟩
  have hcustom := hstands.all ListName.custom (by decide) rfl
  rw [← hnames, hids] at hcustom
  cases hcustom

/-- The text is never compiled: the engines take it for what they were set up with. -/
theorem swallowed_not_reflects : Starts bareParts bareService ∧ Reachable bareService swallowed ∧
    swallowed.Quiet ∧ swallowed.Swallowed ∧
      ¬ swallowed.service.main.published.Reflects swallowed.service.config := by
  have hversion : swallowed.version = 1 := by with_unfolding_all rfl
  have hconcern : swallowed.concern = 2 := by with_unfolding_all rfl
  have hfirst : swallowed.first = 2 := by with_unfolding_all rfl
  have hbefore : (swallowed.inputs 1).names = [] := by with_unfolding_all rfl
  have hafter : (swallowed.inputs 2).names = [ListName.custom] := by with_unfolding_all rfl
  refine ⟨starts_bareService, reachable_swallowed, quiet_swallowed, ⟨?_, ?_, ?_⟩, ?_⟩
  · rw [hconcern, hfirst]
  · rw [hversion, hfirst]
    decide
  · rw [hversion, hfirst]
    intro heq
    rw [heq, hafter] at hbefore
    cases hbefore
  · have hconfig : swallowed.service.config = withCustomText bareParts.config := by
      with_unfolding_all rfl
    rw [hconfig]
    exact not_reflects_withCustomText (by with_unfolding_all rfl)

def withoutCustomText (config : Config) : Config := { config with customFilters := {} }

/-- A text is configured when the engines wait for a change, and they trigger a reload for it. -/
def triggered : System := (((start bareService).advance 16).configure withCustomText).advance 10

/-- The text is taken back before the reload reads the configuration, and given again after. -/
def overtaken : System :=
  (((triggered.configure withoutCustomText).advance 2).configure withCustomText).advance 64

theorem reachable_overtaken : Reachable bareService overtaken := by
  have htriggered : Reachable bareService triggered :=
    ((Reachable.start.advance 16).configure withCustomText).advance 10
  exact (((htriggered.configure withoutCustomText).advance 2).configure withCustomText).advance 64

/-- The engines get the text that they had already, and leave it at the reload without. -/
theorem overtaken_not_reflects : Reachable bareService overtaken ∧ overtaken.Quiet ∧
    overtaken.Overtaken ∧ ¬ overtaken.service.main.published.Reflects overtaken.service.config := by
  have hhandled : overtaken.service.main.bus.handled = [(1, 4), (2, 0), (3, 0)] := by
    with_unfolding_all rfl
  have hversion : overtaken.version = 3 := by with_unfolding_all rfl
  have hconcern : overtaken.concern = 2 := by with_unfolding_all rfl
  have hbuilt : (overtaken.inputs 3).names = [] := by with_unfolding_all rfl
  have hasked : (overtaken.inputs 2).names = [ListName.custom] := by with_unfolding_all rfl
  refine ⟨reachable_overtaken, ⟨by with_unfolding_all rfl, ?_⟩, ⟨?_, ?_⟩, ?_⟩
  · rw [hhandled]
    exact List.mem_cons_self
  · rw [hversion, hconcern]
    decide
  · rw [hversion, hconcern]
    intro heq
    rw [heq, hasked] at hbuilt
    cases hbuilt
  · have hconfig : overtaken.service.config = withCustomText bareParts.config := by
      with_unfolding_all rfl
    rw [hconfig]
    exact not_reflects_withCustomText (by with_unfolding_all rfl)

end System

end ContentFilter
