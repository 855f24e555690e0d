import ContentFilter.Proofs.Allow.Reconcile
import ContentFilter.Proofs.Engine.Reload
import ContentFilter.Service

/-! The background tasks of a service step by step. Only the task for the engines touches its own feed;
whatever else runs leaves it, and the reload that another task owns, as it is. -/

namespace ContentFilter

/-- The engines have a feed of their own, under its number. -/
structure Feeds (subscriber : Nat) (s : Service) : Prop where
  engines : s.engineFeed.id = subscriber
  rules : s.ruleFeed.id ≠ subscriber
  pauses : s.pauseFeed.id ≠ subscriber

namespace Service

variable {subscriber : Nat} {hold : Hold} {α : Type}

/-- A move of any task but that of the engines, which is one on the main engine. -/
structure Move {Φ : Type} (d : Task.Discipline Φ MainEngine) (subscriber : Nat) (φ : Φ) (s : Service)
    (φ' : Φ) (s' : Service) : Prop where
  main : d.move φ s.main φ' s'.main
  engineFeed : s'.engineFeed = s.engineFeed
  feeds : Feeds subscriber s'

def lifted {Φ : Type} (d : Task.Discipline Φ MainEngine) (subscriber : Nat) : Task.Discipline Φ Service where
  may φ s := d.may φ s.main ∧ Feeds subscriber s
  move := Move d subscriber

def lock (subscriber : Nat) : Task.Discipline Hold Service := lifted (MainEngine.lock subscriber) subscriber

theorem follows_onMain {Φ : Type} {d : Task.Discipline Φ MainEngine} {φ : Φ}
    {task : Task MainEngine α} {ends : α → Φ → Prop} (h : task.Follows d ends φ) :
    (onMain task).Follows (lifted d subscriber) ends φ :=
  h.within (f := id) (fun _ _ hmay => hmay.1) (fun _ _ _ _ hmay hmove =>
    ⟨hmove, rfl, hmay.2.engines, hmay.2.rules, hmay.2.pauses⟩) fun _ _ h => h

/-- What leaves the main engine and the feed of the engines as they are is a move at any stage. -/
theorem Move.of_main_eq {s s' : Service} (hmain : s'.main = s.main)
    (hfeed : s'.engineFeed = s.engineFeed) (hfeeds : Feeds subscriber s') :
    Move (MainEngine.lock subscriber) subscriber hold s hold s' := by
  refine ⟨?_, hfeed, hfeeds⟩
  rw [hmain]
  exact .aside hold rfl rfl rfl rfl (.refl s.main.bus)

/-- A task that comes to such a value and is at the same stage all along. -/
def Stays (subscriber : Nat) (post : α → Prop) (task : Task Service α) : Prop :=
  ∀ hold, task.Follows (lock subscriber) (fun a final => final = hold ∧ post a) hold

variable {β : Type} {post : α → Prop}

theorem Stays.bind {post' : β → Prop} {task : Task Service α} {f : α → Task Service β}
    (h : Stays subscriber post task) (hf : ∀ a, post a → Stays subscriber post' (f a)) :
    Stays subscriber post' (task >>= f) := by
  intro hold
  refine (h hold).bind fun a final hfinal => ?_
  obtain ⟨rfl, ha⟩ := hfinal
  exact hf a ha final

theorem stays_pure {a : α} (h : post a) : Stays subscriber post (pure a) := fun _ => ⟨rfl, h⟩

theorem stays_read {f : Service → α} (h : ∀ s, Feeds subscriber s → post (f s)) :
    Stays subscriber post (Task.read f) :=
  fun hold s hmay _ => ⟨hold, .of_main_eq rfl rfl hmay.2, rfl, h s hmay.2⟩

theorem stays_look (f : Service → α) : Stays subscriber (fun _ => True) (Task.read f) :=
  stays_read fun _ _ => trivial

theorem stays_change {f : Service → Service} (hmain : ∀ s, (f s).main = s.main)
    (hfeed : ∀ s, (f s).engineFeed = s.engineFeed)
    (hfeeds : ∀ s, Feeds subscriber s → Feeds subscriber (f s)) :
    Stays subscriber (fun _ => True) (Task.change f) :=
  fun hold s hmay _ =>
    ⟨hold, .of_main_eq (hmain s) (hfeed s) (hfeeds s hmay.2), rfl, trivial⟩

/-- Another subscriber that waits for its next change disturbs nobody. -/
theorem stays_next {feed : Subscription} (hother : feed.id ≠ subscriber) :
    Stays subscriber (fun result => result.2.id = feed.id) (onBus feed.next) := by
  intro hold
  refine follows_onMain ?_
  rintro m - -
  refine ⟨hold, .aside hold rfl rfl rfl rfl (Bus.aside_acknowledge hother m.bus), ?_⟩
  rintro m - -
  refine ⟨hold, .aside hold rfl rfl rfl rfl (.refl m.bus), ?_⟩
  rintro m - -
  exact ⟨hold, .aside hold rfl rfl rfl rfl (.refl m.bus), rfl, rfl⟩

theorem stays_onRules (host : RuleHost) (task : Task Synchronizer α) :
    Stays subscriber (fun _ => True) (onRules host task) := fun _ =>
  Task.follows_within (fun _ _ hmay => .of_main_eq rfl rfl ⟨hmay.2.engines, hmay.2.rules, hmay.2.pauses⟩)
    (Task.yields_any task)

theorem stays_onAllowances (task : Task AllowanceState α) :
    Stays subscriber (fun _ => True) (onAllowances task) := fun _ =>
  Task.follows_within (fun _ _ hmay => .of_main_eq rfl rfl ⟨hmay.2.engines, hmay.2.rules, hmay.2.pauses⟩)
    (Task.yields_any task)

theorem stays_ruleTurn (now : Nat) : Stays subscriber (fun _ => True) (ruleTurn now) := by
  have hfeed : Stays subscriber (·.id ≠ subscriber) (Task.read (·.ruleFeed)) :=
    stays_read fun s hfeeds => hfeeds.rules
  refine hfeed.bind fun feed hother => ?_
  refine (stays_next hother).bind fun ⟨change, ruleFeed⟩ hid => ?_
  have hset : Stays subscriber (fun _ => True) (Task.change fun s => { s with ruleFeed }) :=
    stays_change (fun _ => rfl) (fun _ => rfl) fun s hfeeds =>
      ⟨hfeeds.engines, fun heq => hother (hid.symm.trans heq), hfeeds.pauses⟩
  refine hset.bind fun _ _ => ?_
  have hsync : Stays subscriber (fun _ => True) (syncRules change.current change.previous now) := by
    refine (stays_look _).bind fun host _ => ?_
    cases host with
    | none => exact stays_pure trivial
    | some host => exact stays_onRules host _
  refine hsync.bind fun report _ => ?_
  exact stays_change (fun _ => rfl) (fun _ => rfl) fun s hfeeds =>
    ⟨hfeeds.engines, hfeeds.rules, hfeeds.pauses⟩

theorem stays_onTrackersChanged : Stays subscriber (fun _ => True) onTrackersChanged := by
  refine (stays_look _).bind fun config _ => ?_
  refine (stays_look _).bind fun host _ => ?_
  cases host with
  | none => exact stays_pure trivial
  | some host => exact stays_onRules host _

/-- Pauses change the bus by updates alone. -/
def calm (subscriber : Nat) : Task.Discipline Unit PauseState where
  may _ _ := True
  move _ p _ p' := Bus.Aside subscriber p.bus p'.bus

def Calm (subscriber : Nat) (task : ExceptT Failure (Task PauseState) α) : Prop :=
  task.run.Follows (calm subscriber) (fun _ _ => True) ()

theorem calm_reconcile (now : Nat) : Calm subscriber (Pause.reconcile now) := by
  refine (Pause.follows_reconcile now).embed (f := fun _ => ()) (fun _ _ _ => trivial) ?_ fun _ _ _ => trivial
  rintro stage s _ s' ⟨-, hbus⟩
  show Bus.Aside subscriber s.bus s'.bus
  rw [hbus]
  cases stage with
  | begun => exact .refl s.bus
  | knows seen => exact Bus.aside_update _ s.bus
  | past => exact .refl s.bus

theorem calm_onAlarm (name : String) (now : Nat) : Calm subscriber (Pause.onAlarm name now) := by
  rw [Pause.onAlarm]
  split
  · exact (calm_reconcile now).except_bind (fun _ _ _ => Task.follows_pure trivial) fun _ _ _ => trivial
  · exact Task.follows_pure trivial

theorem stays_onPauses {task : ExceptT Failure (Task PauseState) α} (h : Calm subscriber task) :
    Stays subscriber (fun _ => True) (onPauses task.run) := by
  intro hold
  refine h.within (f := fun _ => hold) (fun _ _ _ => trivial) (fun _ s _ p hmay hmove => ?_) fun _ _ _ =>
    ⟨rfl, trivial⟩
  exact ⟨.aside hold rfl rfl rfl rfl hmove, rfl, hmay.2.engines, hmay.2.rules, hmay.2.pauses⟩

theorem stays_pauseTurn (now : Nat) : Stays subscriber (fun _ => True) (pauseTurn now) := by
  have hfeed : Stays subscriber (·.id ≠ subscriber) (Task.read (·.pauseFeed)) :=
    stays_read fun s hfeeds => hfeeds.pauses
  refine hfeed.bind fun feed hother => ?_
  refine (stays_next hother).bind fun ⟨change, pauseFeed⟩ hid => ?_
  have hset : Stays subscriber (fun _ => True) (Task.change fun s => { s with pauseFeed }) :=
    stays_change (fun _ => rfl) (fun _ => rfl) fun s hfeeds =>
      ⟨hfeeds.engines, hfeeds.rules, fun heq => hother (hid.symm.trans heq)⟩
  refine hset.bind fun _ _ => ?_
  split
  · exact (stays_onPauses (calm_reconcile now)).bind fun _ _ => stays_pure trivial
  · exact stays_pure trivial

theorem stays_applyCustomFilters (config : Config) :
    Stays subscriber (fun _ => True) (applyCustomFilters config) := by
  have happly : Stays subscriber (fun _ => True)
      (onMain (MainEngine.onRegistry (Registry.applyCustomFilters config))) :=
    fun hold => follows_onMain (MainEngine.follows_onRegistry (Task.yields_any _))
  refine happly.bind fun result _ => ?_
  cases result with
  | ok report =>
    exact stays_change (fun _ => rfl) (fun _ => rfl) fun s hfeeds =>
      ⟨hfeeds.engines, hfeeds.rules, hfeeds.pauses⟩
  | error cause => exact stays_pure trivial

/-- Whether the engines are loaded again for a change. -/
def reloadsFor (change : ConfigChange) : Bool := change.previous.isSome && concernsEngines change

/-- How far the task for the engines is with its turn. -/
inductive Turn where
  | waiting
  | taken (feed : Subscription)
  | acknowledged (feed : Subscription)
  | due (feed : Subscription)
  | handed (change : ConfigChange) (feed : Subscription)
  | handling

/-- A move of the task for the engines: one of any task, or the next on the way from one change to a
reload for it. -/
inductive EnginesMove (subscriber : Nat) : Hold × Turn → Service → Hold × Turn → Service → Prop where
  | other {hold hold' : Hold} {s s' : Service} (turn : Turn) (move : (lock subscriber).move hold s hold' s') :
      EnginesMove subscriber (hold, turn) s (hold', turn) s'
  | take (s : Service) :
      EnginesMove subscriber (.free, .waiting) s (.free, .taken s.engineFeed) s
  | acknowledge (feed : Subscription) (s : Service) :
      EnginesMove subscriber (.free, .taken feed) s (.free, .acknowledged feed)
        { s with main := { s.main with bus := s.main.bus.acknowledge feed } }
  | notice {feed : Subscription} {s : Service} (news : feed.hasNews s.main.bus = true) :
      EnginesMove subscriber (.free, .acknowledged feed) s (.free, .due feed) s
  | deliver (feed : Subscription) (s : Service) :
      EnginesMove subscriber (.free, .due feed) s
        (.free, .handed (feed.deliver s.main.bus).1 (feed.deliver s.main.bus).2) s
  | accept (change : ConfigChange) (engineFeed : Subscription) (s : Service) :
      EnginesMove subscriber (.free, .handed change engineFeed) s
        (.free, if reloadsFor change then .handling else .waiting) { s with engineFeed }
  | coalesce {s : Service} (running : s.main.running = true) :
      EnginesMove subscriber (.free, .handling) s (.free, .waiting)
        { s with main := { s.main with dirty := true } }
  | acquire {s : Service} (running : s.main.running = false) :
      EnginesMove subscriber (.free, .handling) s (.unread, .waiting)
        { s with main := { s.main with running := true } }

def engineLock (subscriber : Nat) : Task.Discipline (Hold × Turn) Service where
  may stage := (lock subscriber).may stage.1
  move := EnginesMove subscriber

/-- What other tasks may do too leaves the turn as it is. -/
theorem follows_other {task : Task Service α} {ends : α → Hold → Prop} (turn : Turn)
    (h : task.Follows (lock subscriber) ends hold) :
    task.Follows (engineLock subscriber) (fun a stage => ends a stage.1 ∧ stage.2 = turn) (hold, turn) :=
  h.embed (f := fun hold => (hold, turn)) (fun _ _ hmay => hmay) (fun _ _ _ _ hmove => .other turn hmove)
    fun _ _ hends => ⟨hends, rfl⟩

/-- The trigger that a change calls for. -/
theorem follows_handling :
    (onMain (MainEngine.triggerThen id fun _ => pure ())).Follows (engineLock subscriber)
      (fun result stage => MainEngine.JobEnds subscriber result stage.1 ∧ stage.2 = .waiting)
      (.free, .handling) := by
  have hrest : ∀ reload : Reload, (pure () : Task MainEngine Unit).Follows
      (MainEngine.lock subscriber) (fun _ hold => hold = .free) .free := fun _ => rfl
  intro s hmay _
  dsimp only
  by_cases hrunning : s.main.running = true
  · rw [if_pos hrunning]
    exact ⟨_, .coalesce hrunning, rfl, rfl⟩
  · rw [if_neg hrunning]
    refine ⟨_, .acquire (Bool.eq_false_iff.2 hrunning), ?_⟩
    exact follows_other .waiting (follows_onMain (MainEngine.follows_reloadThen hrest))

/-- What is done for a change. -/
theorem follows_accepted (change : ConfigChange) :
    (do
      if change.previous.isSome && concernsEngines change then
        if customFiltersChanged change then applyCustomFilters change.current
        onMain (MainEngine.triggerThen id fun _ => pure ())
      else pure (.ended ()) : Task Service (Reloading Unit)).Follows (engineLock subscriber)
      (fun result stage => MainEngine.JobEnds subscriber result stage.1 ∧ stage.2 = .waiting)
      (.free, if reloadsFor change then .handling else .waiting) := by
  rw [← reloadsFor]
  by_cases hreload : reloadsFor change = true
  · rw [if_pos hreload, if_pos hreload]
    split
    · have happly := follows_other .handling
        (@stays_applyCustomFilters subscriber change.current .free)
      refine happly.bind fun _ stage hstage => ?_
      obtain ⟨⟨hhold, -⟩, hturn⟩ := hstage
      obtain rfl : stage = (.free, .handling) := Prod.ext hhold hturn
      exact follows_handling
    · exact follows_handling
  · rw [if_neg hreload, if_neg hreload]
    exact ⟨rfl, rfl⟩

theorem follows_engineTurn : engineTurn.Follows (engineLock subscriber)
    (fun result stage => MainEngine.JobEnds subscriber result stage.1 ∧ stage.2 = .waiting)
    (.free, .waiting) := by
  intro s _ _
  refine ⟨_, .take s, ?_⟩
  intro s' _ _
  refine ⟨_, .acknowledge s.engineFeed s', ?_⟩
  intro s' _ hready
  refine ⟨_, .notice hready, ?_⟩
  intro s' _ _
  refine ⟨_, .deliver s.engineFeed s', ?_⟩
  intro s'' _ _
  exact ⟨_, .accept _ _ s'', follows_accepted _⟩

end Service

end ContentFilter
