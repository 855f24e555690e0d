import ContentFilter.Allow.Pause
import ContentFilter.Proofs.Config.Bus
import ContentFilter.Proofs.Data.KeyMap
import ContentFilter.Proofs.Interleaving

/-! What a reconciliation of the pauses does to the configuration while others publish. It takes pauses
out by their keys, and which keys it takes out it knows from an earlier configuration. -/

namespace ContentFilter.Pause

theorem mem_expired {config : Config} {now : Nat} {key : String} :
    key ∈ expired config now ↔
      ∃ entry, config.paused.get? key = some entry ∧ entry.isActive now = false := by
  simp only [expired, List.mem_map, List.mem_filter, Bool.not_eq_true', Prod.exists,
    exists_and_right, exists_eq_right, KeyMap.get?_eq_some]

/-- How far a reconciliation is: it reads the configuration, then it drops what was over there, and from
then on it sees to the alarms. -/
inductive Reconciling where
  | begun
  | knows (seen : Config)
  | past

/-- What the next step leads to, taken under that configuration. -/
def Reconciling.after : Reconciling → Config → Reconciling
  | begun, config => .knows config
  | knows _, _ => .past
  | past, _ => .past

/-- What the next step makes of the bus. -/
def Reconciling.write (now : Nat) : Reconciling → Bus → Bus
  | begun, bus => bus
  | knows seen, bus => (Bus.update (fun config =>
      { config with paused := (expired seen now).foldl KeyMap.erase config.paused }) bus).2
  | past, bus => bus

theorem Reconciling.write_of_isEmpty {now : Nat} {seen : Config} (h : (expired seen now).isEmpty = true)
    (bus : Bus) : (knows seen).write now bus = bus := by
  rw [write, List.isEmpty_iff.1 h]
  exact congrArg Prod.snd (if_pos rfl)

/-- A reconciliation takes out what was over where it read, and keeps the rest. -/
theorem Reconciling.get?_write (now : Nat) (seen : Config) (bus : Bus) (key : String) :
    ((knows seen).write now bus).config.paused.get? key =
      if key ∈ expired seen now then none else bus.config.paused.get? key := by
  rw [write, Bus.update_config]
  exact KeyMap.get?_foldl_erase _ _ key

def reconciling (now : Nat) : Task.Discipline Reconciling PauseState where
  may _ _ := True
  move stage s stage' s' := stage' = stage.after s.bus.config ∧ s'.bus = stage.write now s.bus

section Follows

variable {now : Nat} {α : Type}

theorem follows_onBus {f : Bus → α × Bus} {stage : Reconciling}
    (hf : ∀ bus, (f bus).2 = stage.write now bus) : (onBus f).run.Follows (reconciling now)
      (fun result stage' => ∃ bus, result = .ok (f bus).1 ∧ stage' = stage.after bus.config) stage :=
  fun s _ _ => ⟨stage.after s.bus.config, ⟨rfl, hf s.bus⟩, s.bus, rfl, rfl⟩

theorem remains_onAlarms (f : Alarms → Except Failure α × Alarms) :
    Task.Remains (reconciling now) .past (onAlarms f) := Task.remains_act fun _ _ => ⟨rfl, rfl⟩

theorem follows_reconcile (now : Nat) :
    (reconcile now).run.Follows (reconciling now) (fun _ stage => stage = .past) .begun := by
  refine (follows_onBus fun bus => rfl).except_bind (fun ended stage hended => ?_) ?_
  · obtain ⟨read, hended, rfl⟩ := hended
    cases hended
    extract_lets rest
    -- the alarms are seen to in the same way whether or not something was dropped
    have hrest : ∀ stage : Reconciling, (∀ config, stage.after config = .past) →
        (∀ bus, stage.write now bus = bus) →
        (rest ()).run.Follows (reconciling now) (fun _ stage => stage = .past) stage := by
      intro stage hafter hwrite
      refine (follows_onBus fun bus => (hwrite bus).symm).except_bind (fun wanted next hnext => ?_) ?_
      · obtain ⟨bus, -, rfl⟩ := hnext
        rw [hafter]
        refine (remains_onAlarms Alarms.names).bind fun names => ?_
        refine (Task.remains_forIn names fun name _ => ?_).bind fun _ => ?_
        · split
          · exact (remains_onAlarms (Alarms.clear name)).bind fun _ => Task.remains_pure _
          · exact Task.remains_pure _
        · refine (Task.remains_forIn wanted fun alarm _ => ?_).bind fun _ => Task.remains_pure _
          exact (remains_onAlarms (Alarms.create alarm.1 alarm.2)).bind fun _ => Task.remains_pure _
      · rintro cause next ⟨bus, -, rfl⟩
        exact hafter bus.config
    split
    · next hempty =>
      exact hrest _ (fun _ => rfl) fun bus => Reconciling.write_of_isEmpty hempty bus
    · refine (follows_onBus fun bus => rfl).except_bind (fun _ next hnext => ?_) ?_
      · obtain ⟨bus, -, rfl⟩ := hnext
        exact hrest .past (fun _ => rfl) fun _ => rfl
      · rintro cause next ⟨bus, -, rfl⟩
        rfl
  · rintro cause stage ⟨bus, hresult, -⟩
    cases hresult

end Follows

/-- What may happen while a reconciliation is under way: the user pauses or resumes a host, anything
else in the configuration is changed, or the reconciliation takes its next step. -/
inductive Event where
  | pause (host : String) (revokeAt : Option Nat)
  | resume (host : String)
  | update (f : Config → Config)
  | turn

/-- A reconciliation under way, with what is left of it and how far it is. -/
structure Course where
  state : PauseState
  left : Task PauseState (Except Failure ReconcileReport)
  stage : Reconciling

namespace Course

def start (now : Nat) (state : PauseState) : Course := ⟨state, (reconcile now).run, .begun⟩

/-- Anybody publishes. -/
def publish (f : Bus → Bool × Bus) (course : Course) : Course :=
  { course with state.bus := (f course.state.bus).2 }

def turn (course : Course) : Course :=
  match course.left.turn? course.state with
  | some (left, state) => ⟨state, left, course.stage.after course.state.bus.config⟩
  | none => course

def next (course : Course) : Event → Course
  | .pause host revokeAt => course.publish (Pause.pause host revokeAt)
  | .resume host => course.publish (Pause.resume host)
  | .update f => course.publish (Bus.update f)
  | .turn => course.turn

def run (now : Nat) (state : PauseState) (events : List Event) : Course :=
  events.foldl next (start now state)

/-- The pause of a host as the configuration has it. -/
def pause? (course : Course) (key : String) : Option PausedEntry :=
  course.state.bus.config.paused.get? key

variable {now : Nat} {state : PauseState}

theorem run_concat (before : List Event) (event : Event) :
    run now state (before ++ [event]) = (run now state before).next event := by
  rw [run, List.foldl_append]
  rfl

/-- What is left of the reconciliation goes on from the stage that it is at. -/
def Obeys (now : Nat) (course : Course) : Prop :=
  course.left.Follows (reconciling now) (fun _ stage => stage = .past) course.stage

theorem turn_cases {course : Course} (h : course.Obeys now) : course.turn.Obeys now ∧
    (course.turn = course ∨ course.turn.stage = course.stage.after course.state.bus.config ∧
      course.turn.state.bus = course.stage.write now course.state.bus) := by
  rw [turn]
  split
  · next left state hturn =>
    obtain ⟨stage, ⟨rfl, hbus⟩, hleft⟩ := h.turn? trivial hturn
    exact ⟨hleft, .inr ⟨rfl, hbus⟩⟩
  · exact ⟨h, .inl rfl⟩

theorem Obeys.next {course : Course} (h : course.Obeys now) (event : Event) :
    (course.next event).Obeys now := by
  cases event with
  | pause host revokeAt => exact h
  | resume host => exact h
  | update f => exact h
  | turn => exact (turn_cases h).1

theorem Obeys.foldl {course : Course} (h : course.Obeys now) (events : List Event) :
    (events.foldl Course.next course).Obeys now := by
  induction events generalizing course with
  | nil => exact h
  | cons event events ih => exact ih (h.next event)

theorem obeys_run (events : List Event) : (run now state events).Obeys now := by
  have hstart : (start now state).Obeys now := follows_reconcile now
  exact hstart.foldl events

/-- The next step of the reconciliation drops what was over in that configuration. -/
def Writes (course : Course) (seen : Config) : Prop :=
  course.stage = .knows seen ∧ course.turn.stage = .past

theorem pause?_turn {course : Course} {seen : Config} (h : course.Obeys now)
    (hwrites : course.Writes seen) (key : String) :
    course.turn.pause? key = if key ∈ expired seen now then none else course.pause? key := by
  obtain ⟨hstage, hpast⟩ := hwrites
  rcases (turn_cases h).2 with hsame | ⟨-, hbus⟩
  · rw [hsame, hstage] at hpast
    cases hpast
  · rw [hstage] at hbus
    rw [pause?, hbus]
    exact Reconciling.get?_write now seen course.state.bus key

theorem pause?_turn_of_not_writes {course : Course} (h : course.Obeys now)
    (hnot : ∀ seen, ¬ course.Writes seen) (key : String) : course.turn.pause? key = course.pause? key := by
  rcases (turn_cases h).2 with hsame | ⟨hafter, hbus⟩
  · rw [hsame]
  · rw [pause?, hbus]
    cases hstage : course.stage with
    | begun => rfl
    | knows seen => exact (hnot seen ⟨hstage, by rw [hafter, hstage]; rfl⟩).elim
    | past => rfl

end Course

/-- No step of the reconciliation takes a pause out, or changes one, that is not over at its time. -/
def SparesActive (now : Nat) (state : PauseState) (events : List Event) : Prop :=
  ∀ before after, events = before ++ .turn :: after → ∀ key entry,
    (Course.run now state before).pause? key = some entry → entry.isActive now = true →
    (Course.run now state (before ++ [.turn])).pause? key = some entry

/-- What was over when the reconciliation read the configuration is still over, or gone, when it writes.
-/
def NeverRenewed (now : Nat) (state : PauseState) (events : List Event) : Prop :=
  ∀ before after seen, events = before ++ .turn :: after →
    (Course.run now state before).Writes seen → ∀ key old, seen.paused.get? key = some old →
    old.isActive now = false → ∀ entry, (Course.run now state before).pause? key = some entry →
    entry.isActive now = false

/-- A reconciliation spares the pauses that go on exactly when none of those that it found over is renewed
before it drops them. -/
theorem sparesActive_iff_neverRenewed (now : Nat) (state : PauseState) (events : List Event) :
    SparesActive now state events ↔ NeverRenewed now state events := by
  constructor
  · intro hspares before after seen hevents hwrites key old hold hover entry hentry
    rw [← Bool.not_eq_true]
    intro hactive
    have hkept := hspares before after hevents key entry hentry hactive
    have hexpired : key ∈ expired seen now := mem_expired.2 ⟨old, hold, hover⟩
    rw [Course.run_concat, Course.next, Course.pause?_turn (Course.obeys_run before) hwrites,
      if_pos hexpired] at hkept
    cases hkept
  · intro hnever before after hevents key entry hentry hactive
    rw [Course.run_concat, Course.next]
    by_cases hwrites : ∃ seen, (Course.run now state before).Writes seen
    · obtain ⟨seen, hwrites⟩ := hwrites
      rw [Course.pause?_turn (Course.obeys_run before) hwrites]
      split
      · next hexpired =>
        obtain ⟨old, hold, hover⟩ := mem_expired.1 hexpired
        have hover' := hnever before after seen hevents hwrites key old hold hover entry hentry
        rw [hactive] at hover'
        cases hover'
      · exact hentry
    · rw [Course.pause?_turn_of_not_writes (Course.obeys_run before) (not_exists.1 hwrites)]
      exact hentry

/-- The user pauses a host anew while the pause before is being dropped: the new pause goes too. -/
theorem not_sparesActive_of_pause : ¬ SparesActive 2000
    ⟨{ config := { paused := .ofList [("a.com", ⟨some 1000⟩)] } }, {}⟩
    [.turn, .pause "a.com" (some 5000), .turn] := by
  intro hspares
  have hkept := hspares [.turn, .pause "a.com" (some 5000)] [] rfl "a.com" ⟨some 5000⟩
    (by decide +kernel) rfl
  revert hkept
  decide +kernel

end ContentFilter.Pause
