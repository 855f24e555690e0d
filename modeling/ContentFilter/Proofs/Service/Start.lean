import ContentFilter.Proofs.Data.Traverse
import ContentFilter.Proofs.Service.Turns

/-! The start of a service. Its parts are set up before any background task runs; meanwhile only what
lies outside may change. -/

namespace ContentFilter

/-- What lies outside a service. -/
structure Surroundings where
  store : SnapshotStore
  bundled : FileSource
  remote : Option FileSource
  trackers : TrackerDb
  host : Option RuleHost
  alarms : Alarms

def Service.surround (w : Surroundings) (s : Service) : Service :=
  let registry := { s.main.registry with store := w.store, bundled := w.bundled, remote := w.remote }
  { s with main := { s.main with registry }, trackers := w.trackers, host := w.host, alarms := w.alarms }

/-- A service on its way up, with what is left of its setup. -/
inductive Starting (parts : ServiceParts) : Task Service (Reloading Unit) → Service → Prop where
  | assembled {s : Service} (h : Service.assemble parts = .ok s) : Starting parts Service.setup s
  | step {ready : Service → Bool} {run abandon : Service → Service}
      {next : Service → Task Service (Reloading Unit)} {s : Service}
      (h : Starting parts (.step ready run abandon next) s) (hready : ready s = true) :
      Starting parts (next s) (run s)
  | surroundings {task : Task Service (Reloading Unit)} {s : Service} (w : Surroundings)
      (h : Starting parts task s) : Starting parts task (s.surround w)

/-- A service that was started. -/
def Starts (parts : ServiceParts) (s : Service) : Prop := Starting parts (.done (.ended ())) s

/-- Start a service whose setup never has to wait. -/
def Service.start? (parts : ServiceParts) : Option Service :=
  match assemble parts with
  | .ok s =>
    match setup.advance s with
    | (.done (.ended ()), s) => some s
    | _ => none
  | .error _ => none

theorem Starting.advance {parts : ServiceParts} {task : Task Service (Reloading Unit)} {s : Service}
    (h : Starting parts task s) : Starting parts (task.advance s).1 (task.advance s).2 := by
  induction task generalizing s with
  | done result => exact h
  | step ready run abandon next ih =>
    rw [Task.advance]
    by_cases hready : ready s = true
    · rw [if_pos hready]
      exact ih s (h.step hready)
    · rw [if_neg hready]
      exact h

theorem starts_of_start? {parts : ServiceParts} {s : Service} (h : Service.start? parts = some s) :
    Starts parts s := by
  rw [Service.start?] at h
  split at h
  · next first hassemble =>
    have hadvance := (Starting.assembled hassemble).advance
    split at h
    · next last heq =>
      cases h
      rw [heq] at hadvance
      exact hadvance
    · cases h
  · cases h

/-- How far the main engine is with its setup. -/
inductive Startup where
  | held (hold : Hold)
  | looking (version : Nat)
  | restoring (version generation : Nat)

namespace Startup

def hold : Startup → Hold
  | held hold => hold
  | _ => .free

/-- What was read is no newer than the configuration, and a stamp is newer than the engine in use. -/
def Knows (m : MainEngine) : Startup → Prop
  | held _ => True
  | looking version => version ≤ m.bus.version
  | restoring version generation =>
    version ≤ m.bus.version ∧ m.published.generation < generation ∧ generation ≤ m.generation

end Startup

namespace MainEngine

variable {subscriber : Nat}

/-- A move of the setup: one of a reload, or the next on the way to a stored engine. -/
inductive StartMove (subscriber : Nat) : Startup → MainEngine → Startup → MainEngine → Prop where
  | held {hold hold' : Hold} {m m' : MainEngine} (move : Move subscriber hold m hold' m') :
      StartMove subscriber (.held hold) m (.held hold') m'
  | look (m : MainEngine) : StartMove subscriber (.held .free) m (.looking m.bus.version) m
  | search {version : Nat} {m m' : MainEngine} (move : Move subscriber .free m .free m') :
      StartMove subscriber (.looking version) m (.looking version) m'
  | leave {version : Nat} {hold : Hold} {m m' : MainEngine} (move : Move subscriber .free m hold m') :
      StartMove subscriber (.looking version) m (.held hold) m'
  | stamp (version : Nat) (m : MainEngine) :
      StartMove subscriber (.looking version) m (.restoring version (m.generation + 1))
        { m with generation := m.generation + 1 }
  | restore {version generation : Nat} {m : MainEngine} {new : Published}
      (hgeneration : new.generation = generation) (hversion : new.version = version) :
      StartMove subscriber (.restoring version generation) m (.held .free) { m with published := new }

def startLock (subscriber : Nat) : Task.Discipline Startup MainEngine where
  may stage m := may stage.hold m ∧ stage.Knows m
  move := StartMove subscriber

variable {α : Type}

/-- What any task may do is a move of the setup. -/
theorem follows_held {hold : Hold} {task : Task MainEngine α} {ends : α → Hold → Prop}
    (h : task.Follows (lock subscriber) ends hold) :
    task.Follows (startLock subscriber) (fun a stage => ∃ hold, stage = .held hold ∧ ends a hold)
      (.held hold) :=
  h.embed (f := Startup.held) (fun _ _ hmay => hmay.1) (fun _ _ _ _ hmove => .held hmove)
    fun _ hold hends => ⟨hold, rfl, hends⟩

theorem follows_becomeReady :
    becomeReady.Follows (lock subscriber) (fun _ hold => hold = .free) .free :=
  fun m _ _ => ⟨.free, .aside .free rfl rfl rfl rfl (.refl m.bus), rfl⟩

theorem follows_restore {version generation : Nat} {new : Published}
    (hgeneration : new.generation = generation) (hversion : new.version = version) :
    (Task.change (publish new)).Follows (startLock subscriber) (fun _ stage => stage = .held .free)
      (.restoring version generation) := by
  intro m hmay _
  have hnew : m.published.generation < new.generation := hgeneration ▸ hmay.2.2.1
  have hmove : StartMove subscriber (.restoring version generation) m (.held .free) (publish new m) := by
    rw [publish, if_pos hnew]
    exact .restore hgeneration hversion
  exact ⟨.held .free, hmove, rfl⟩

theorem follows_rebuild (version : Nat) :
    (triggerThen id fun _ => becomeReady).Follows (startLock subscriber)
      (fun result stage => ∃ hold, stage = .held hold ∧ JobEnds subscriber result hold)
      (.looking version) := by
  intro m _ _
  dsimp only
  by_cases hrunning : m.running = true
  · rw [if_pos hrunning]
    refine ⟨.held .free, .leave (.coalesce hrunning), follows_held ?_⟩
    exact follows_becomeReady.guarded.bind fun _ _ hhold => hhold
  · rw [if_neg hrunning]
    refine ⟨.held .unread, .leave (.acquire (Bool.eq_false_iff.2 hrunning)), follows_held ?_⟩
    exact follows_reloadThen fun _ => follows_becomeReady

theorem follows_setup : setup.Follows (startLock subscriber)
    (fun result stage => ∃ hold, stage = .held hold ∧ JobEnds subscriber result hold)
    (.held .free) := by
  intro m _ _
  refine ⟨_, .look m, ?_⟩
  have hinit : (onRegistry (Registry.init ListName.main)).Follows (startLock subscriber)
      (fun _ stage => stage = .looking m.bus.version ∧ True) (.looking m.bus.version) :=
    Task.follows_within (fun _ m _ => .search (.aside .free rfl rfl rfl rfl (.refl m.bus)))
      (Task.yields_any _)
  refine hinit.bind fun found stage hstage => ?_
  obtain ⟨rfl, -⟩ := hstage
  cases found with
  | none => exact follows_rebuild _
  | some engine =>
    dsimp only
    split
    · intro m' _ _
      refine ⟨_, .stamp _ m', ?_⟩
      refine (follows_restore rfl rfl).bind fun _ stage hstage => ?_
      subst hstage
      exact follows_held (follows_becomeReady.bind fun _ _ hhold => hhold)
    · exact follows_rebuild _

theorem StartMove.bus {stage stage' : Startup} {m m' : MainEngine}
    (h : StartMove subscriber stage m stage' m') : Bus.Aside subscriber m.bus m'.bus := by
  cases h with
  | held move | search move | leave move => exact move.bus
  | look | stamp | restore => exact .refl m.bus

theorem StartMove.knows {stage stage' : Startup} {m m' : MainEngine}
    (h : StartMove subscriber stage m stage' m') (hgeneration : m.published.generation ≤ m.generation)
    (hknows : stage.Knows m) : stage'.Knows m' := by
  cases h with
  | held | leave | restore => trivial
  | look => exact Nat.le_refl _
  | search move => exact Nat.le_trans hknows move.bus.grows.version_le
  | stamp => exact ⟨hknows, Nat.lt_succ_of_le hgeneration, Nat.le_refl _⟩

theorem Serial.startMove {configs : Nat → Config} {stage stage' : Startup} {m m' : MainEngine}
    (h : Serial configs 0 m [stage.hold]) (hknows : stage.Knows m)
    (hmove : StartMove subscriber stage m stage' m') :
    Serial (record configs m'.bus) 0 m' [stage'.hold] := by
  cases hmove with
  | held move | search move | leave move => exact h.move move
  | look =>
    rw [record_of_current h.current]
    exact h
  | stamp version =>
    rw [record_of_current h.current]
    exact ⟨h.alone, h.running, h.dirty, Nat.le_succ_of_le h.generation, h.version, h.bound, h.current,
      List.forall_mem_singleton.2 trivial, h.covered⟩
  | restore hgeneration hversion =>
    rw [record_of_current h.current]
    subst hgeneration hversion
    exact ⟨h.alone, h.running, h.dirty, hknows.2.2, hknows.1, h.bound, h.current,
      List.forall_mem_singleton.2 trivial, .inl (Nat.zero_le _)⟩

end MainEngine

/-- A service on its way up: the engines have got nothing of the configuration yet. -/
structure Beginning (subscriber : Nat) (stage : Startup) (s : Service) : Prop where
  feeds : Feeds subscriber s
  last : s.engineFeed.last = none
  delivered : s.engineFeed.delivered = 0
  handled : ∀ version, (subscriber, version) ∈ s.main.bus.handled → version = 0
  positive : 0 < s.main.bus.version
  knows : stage.Knows s.main
  serial : ∃ configs, MainEngine.Serial configs 0 s.main [stage.hold]

namespace Service

variable {subscriber : Nat}

/-- What any task may do leaves the setup where it is. -/
theorem Stays.held {α : Type} {post : α → Prop} {task : Task Service α}
    (h : Stays subscriber post task) :
    task.Follows (lifted (MainEngine.startLock subscriber) subscriber)
      (fun _ stage => stage = .held .free) (.held .free) :=
  (h .free).embed (f := Startup.held) (fun _ _ hmay => ⟨hmay.1.1, hmay.2⟩)
    (fun _ _ _ _ hmove => ⟨.held hmove.main, hmove.engineFeed, hmove.feeds⟩)
    fun _ _ hends => congrArg Startup.held hends.1

theorem follows_setup : setup.Follows (lifted (MainEngine.startLock subscriber) subscriber)
    (fun result stage => ∃ hold, stage = .held hold ∧ MainEngine.JobEnds subscriber result hold)
    (.held .free) := by
  refine (stays_look config).held.bind fun config stage hstage => ?_
  subst hstage
  refine (stays_applyCustomFilters config).held.bind fun _ stage hstage => ?_
  subst hstage
  exact follows_onMain MainEngine.follows_setup

end Service

theorem Beginning.move {subscriber : Nat} {stage stage' : Startup} {s s' : Service}
    (h : Beginning subscriber stage s)
    (hmove : (Service.lifted (MainEngine.startLock subscriber) subscriber).move stage s stage' s') :
    Beginning subscriber stage' s' := by
  obtain ⟨configs, hserial⟩ := h.serial
  have hbus := hmove.main.bus
  exact ⟨hmove.feeds, hmove.engineFeed ▸ h.last, hmove.engineFeed ▸ h.delivered,
    fun version hmem => h.handled version ((hbus.handled version).1 hmem),
    Nat.lt_of_lt_of_le h.positive hbus.grows.version_le, hmove.main.knows hserial.generation h.knows,
    _, hserial.startMove h.knows hmove.main⟩

theorem Beginning.surround {subscriber : Nat} {stage : Startup} {s : Service} (w : Surroundings)
    (h : Beginning subscriber stage s) : Beginning subscriber stage (s.surround w) := by
  obtain ⟨configs, hserial⟩ := h.serial
  refine ⟨⟨h.feeds.engines, h.feeds.rules, h.feeds.pauses⟩, h.last, h.delivered, h.handled, h.positive, ?_,
    _, hserial.aside rfl rfl rfl rfl (.inl ⟨rfl, rfl⟩)⟩
  exact h.knows

/-- A service that was put together is one whose setup can begin. -/
theorem beginning_of_assemble {parts : ServiceParts} {s : Service}
    (h : Service.assemble parts = .ok s) : Beginning s.engineFeed.id (.held .free) s := by
  rw [Service.assemble] at h
  obtain ⟨remote, -, h⟩ := ok_of_bind h
  obtain ⟨host, -, h⟩ := ok_of_bind h
  cases h
  refine ⟨⟨rfl, nofun, nofun⟩, rfl, rfl, fun version hmem => ?_, Nat.one_pos, trivial,
    fun _ => parts.config, ?_⟩
  · have hmem : (1, version) ∈ [(1, 0), (2, 0), (3, 0)] := hmem
    simpa using hmem
  · exact ⟨List.pairwise_singleton _ _, ⟨nofun, fun ⟨hold, hmem, hne⟩ => absurd (List.mem_singleton.1 hmem) hne⟩,
      nofun, Nat.le_refl _, Nat.zero_le _, Nat.zero_le _, rfl, List.forall_mem_singleton.2 trivial,
      .inl (Nat.le_refl _)⟩

/-- All along the start, what is left of the setup keeps to its moves. -/
theorem Starting.follows {parts : ServiceParts} {task : Task Service (Reloading Unit)} {s : Service}
    (h : Starting parts task s) : ∃ subscriber stage, Beginning subscriber stage s ∧
      task.Follows (Service.lifted (MainEngine.startLock subscriber) subscriber)
        (fun result stage => ∃ hold, stage = .held hold ∧ MainEngine.JobEnds subscriber result hold)
        stage := by
  induction h with
  | assembled h => exact ⟨_, _, beginning_of_assemble h, Service.follows_setup⟩
  | step h hready ih =>
    obtain ⟨subscriber, stage, hbegin, hfollows⟩ := ih
    obtain ⟨configs, hserial⟩ := hbegin.serial
    have hmay := hserial.may List.mem_cons_self
    obtain ⟨stage', hmove, hnext⟩ := hfollows _ ⟨⟨hmay, hbegin.knows⟩, hbegin.feeds⟩ hready
    exact ⟨subscriber, stage', hbegin.move hmove, hnext⟩
  | surroundings w h ih =>
    obtain ⟨subscriber, stage, hbegin, hfollows⟩ := ih
    exact ⟨subscriber, stage, hbegin.surround w, hfollows⟩

theorem Starts.beginning {parts : ServiceParts} {s : Service} (h : Starts parts s) :
    ∃ subscriber, Beginning subscriber (.held .free) s := by
  obtain ⟨subscriber, stage, hbegin, hold, rfl, rfl⟩ := Starting.follows h
  exact ⟨subscriber, hbegin⟩

end ContentFilter
