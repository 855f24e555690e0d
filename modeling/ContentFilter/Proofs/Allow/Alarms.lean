import ContentFilter.Proofs.Allow.Reconcile

/-! A reconciliation of the pauses that runs alone. The pauses that are over are gone afterwards, the alarms
are those that the others call for, and a second one at the same time finds nothing to do. -/

namespace ContentFilter

namespace Pause

variable {config : Config} {wanted : List (String × Nat)} {name : String} {time now : Nat}
  {alarms : Alarms}

theorem alarmName_inj {key other : String} : alarmName key = alarmName other ↔ key = other := by
  simp [alarmName]

theorem isAlarm_alarmName (key : String) : isAlarm (alarmName key) = true := by
  simp [isAlarm, alarmName, Text.startsWith, alarmStart]

theorem mem_alarmsOf : (name, time) ∈ alarmsOf config ↔
    ∃ key entry, config.paused.get? key = some entry ∧ entry.revokeAt = some time ∧
      name = alarmName key := by
  simp only [alarmsOf, List.mem_filterMap, Prod.exists, KeyMap.get?_eq_some, Option.map_eq_some_iff,
    Prod.mk.injEq]
  grind

/-- Each is an alarm of a pause, and has a name of its own. -/
structure AreAlarms (wanted : List (String × Nat)) : Prop where
  isAlarm : ∀ alarm ∈ wanted, isAlarm alarm.1 = true
  nodup : (wanted.map (·.1)).Nodup

theorem areAlarms_alarmsOf (config : Config) : AreAlarms (alarmsOf config) where
  isAlarm := by
    rintro ⟨name, time⟩ hmem
    obtain ⟨key, -, -, -, rfl⟩ := mem_alarmsOf.1 hmem
    exact isAlarm_alarmName key
  nodup := by
    rw [List.Nodup, List.pairwise_map, alarmsOf, List.pairwise_filterMap]
    apply config.paused.ordered.imp
    rintro ⟨key, entry⟩ ⟨other, later⟩ hlt alarm halarm next hnext hsame
    obtain ⟨time, -, rfl⟩ := Option.map_eq_some_iff.1 halarm
    obtain ⟨time', -, rfl⟩ := Option.map_eq_some_iff.1 hnext
    exact String.ne_of_lt hlt (alarmName_inj.1 hsame)

/-- An alarm of a pause that does not call for it. -/
def isStale (wanted : List (String × Nat)) (name : String) : Bool :=
  isAlarm name && (wanted.lookup name).isNone

theorem isStale_iff :
    isStale wanted name = true ↔ isAlarm name = true ∧ name ∉ wanted.map (·.1) := by
  rw [isStale, Bool.and_eq_true, Option.isNone_iff_eq_none, List.lookup_eq_none_iff]
  simp only [List.mem_map, not_exists, not_and, bne_iff_ne]
  grind

def dropStale (wanted : List (String × Nat)) (times : KeyMap Nat) (names : List String) : KeyMap Nat :=
  names.foldl (fun times name => if isStale wanted name then times.erase name else times) times

def setAll (wanted : List (String × Nat)) (times : KeyMap Nat) : KeyMap Nat :=
  wanted.foldl (fun times alarm => times.insert alarm.1 alarm.2) times

/-- The alarms after the stale ones are cleared and the wanted ones are set. -/
def align (wanted : List (String × Nat)) (alarms : Alarms) : Alarms :=
  { alarms with times := setAll wanted (dropStale wanted alarms.times alarms.times.keys) }

/-- The browser answers all calls that this takes. -/
structure Serves (wanted : List (String × Nat)) (alarms : Alarms) : Prop where
  names : alarms.fails .names = false
  clear : ∀ name ∈ alarms.times.keys, ¬ (isStale wanted name = true ∧ alarms.fails .clear = true)
  create : ∀ alarm ∈ wanted, ¬ alarms.fails .create = true

theorem get?_dropStale (times : KeyMap Nat) (names : List String) :
    (dropStale wanted times names).get? name =
      if name ∈ names ∧ isStale wanted name = true then none else times.get? name := by
  rw [dropStale, ← List.foldl_filter, KeyMap.get?_foldl_erase]
  simp

/-- The alarms of pauses are then the wanted ones, and the others are as they were. -/
theorem get?_align (hwanted : AreAlarms wanted) : (align wanted alarms).times.get? name = some time ↔
    if isAlarm name then (name, time) ∈ wanted else alarms.times.get? name = some time := by
  rw [align, setAll, KeyMap.get?_foldl_insert hwanted.nodup, get?_dropStale]
  by_cases hmem : name ∈ wanted.map (·.1)
  · obtain ⟨alarm, halarm, rfl⟩ := List.mem_map.1 hmem
    simp [hmem, hwanted.isAlarm alarm halarm]
  · have hnone : (name, time) ∉ wanted := fun h => hmem (List.mem_map.2 ⟨_, h, rfl⟩)
    cases hname : isAlarm name with
    | false =>
      have hkept : ¬ isStale wanted name = true := by simp [isStale_iff, hname]
      simp [hmem, hnone, hkept]
    | true =>
      have hstale : isStale wanted name = true := isStale_iff.2 ⟨hname, hmem⟩
      simpa [hmem, hnone, hstale] using fun hnot htime => hnot (KeyMap.mem_keys.2 ⟨time, htime⟩)

theorem align_align (hwanted : AreAlarms wanted) :
    align wanted (align wanted alarms) = align wanted alarms := by
  have htimes : (align wanted (align wanted alarms)).times = (align wanted alarms).times := by
    apply KeyMap.ext_get?
    intro k
    apply Option.ext
    intro time
    rw [get?_align hwanted, get?_align hwanted]
    split <;> simp
  exact congrArg (fun times => { alarms with times }) htimes

/-- Aligned alarms have none to clear, so they are aligned once more without failing. -/
theorem Serves.align (h : Serves wanted alarms) (hwanted : AreAlarms wanted) :
    Serves wanted (align wanted alarms) where
  names := h.names
  clear := by
    rintro name hname ⟨hstale, -⟩
    obtain ⟨halarm, hnot⟩ := isStale_iff.1 hstale
    obtain ⟨time, htime⟩ := KeyMap.mem_keys.1 hname
    have hmem := (get?_align hwanted).1 htime
    rw [if_pos halarm] at hmem
    exact hnot (List.mem_map.2 ⟨_, hmem, rfl⟩)
  create := h.create

/-- The configuration without the pauses that are over. -/
def settle (now : Nat) (bus : Bus) : Bus := (Reconciling.knows bus.config).write now bus

/-- What a reconciliation comes to when the browser answers. -/
def reconciled (now : Nat) (s : PauseState) : PauseState where
  bus := settle now s.bus
  alarms := align (alarmsOf (settle now s.bus).config) s.alarms

section Ends

variable {α : Type} {s : PauseState} {post : Except Failure α → PauseState → Prop}

theorem ends_onBus {f : Bus → α × Bus} (h : post (.ok (f s.bus).1) { s with bus := (f s.bus).2 }) :
    (onBus f).run.Ends s post := ⟨_, _, rfl, h⟩

/-- A call is answered, or it fails and leaves everything as it is. -/
theorem ends_serve {call : AlarmCall} {answer : Alarms → α × Alarms}
    (hanswer : s.alarms.fails call = false →
      post (.ok (answer s.alarms).1) { s with alarms := (answer s.alarms).2 })
    (hfails : s.alarms.fails call = true → ∀ e, post (.error e) s) :
    (onAlarms (Alarms.serve call answer)).run.Ends s post := by
  apply Task.ends_act
  unfold Alarms.serve
  cases hcall : s.alarms.fails call with
  | true => simpa [hcall] using hfails hcall _
  | false => simpa [hcall] using hanswer hcall

end Ends

/-- The state with other alarms set. -/
def withTimes (s : PauseState) (times : KeyMap Nat) : PauseState :=
  { s with alarms := { s.alarms with times } }

def clearLoop (wanted : List (String × Nat)) (names : List String) :
    ExceptT Failure (Task PauseState) PUnit :=
  forIn names PUnit.unit fun name _ =>
    if isStale wanted name then do
      onAlarms (Alarms.clear name)
      pure (.yield PUnit.unit)
    else pure (.yield PUnit.unit)

def createLoop (wanted : List (String × Nat)) : ExceptT Failure (Task PauseState) PUnit :=
  forIn wanted PUnit.unit fun alarm _ => do
    onAlarms (Alarms.create alarm.1 alarm.2)
    pure (.yield PUnit.unit)

/-- What a reconciliation does after it dropped the pauses that are over. -/
def seeToAlarms (ended : List String) : ExceptT Failure (Task PauseState) ReconcileReport := do
  let wanted ← onBus fun bus => (alarmsOf bus.config, bus)
  let names ← onAlarms Alarms.names
  clearLoop wanted names
  createLoop wanted
  pure { expired := ended, alarms := wanted.length }

theorem reconcile_eq (now : Nat) : reconcile now = (do
    let ended ← onBus fun bus => (expired bus.config now, bus)
    if ended.isEmpty then seeToAlarms ended
    else
      let _ ← onBus (Bus.update fun config =>
        { config with paused := ended.foldl KeyMap.erase config.paused })
      seeToAlarms ended) := rfl

variable {s : PauseState}

theorem ends_clearLoop (names : List String) : (clearLoop wanted names).run.Ends s fun result t =>
    (∀ name ∈ names, ¬ (isStale wanted name = true ∧ s.alarms.fails .clear = true)) ∧ result = .ok PUnit.unit ∧
      t = withTimes s (dropStale wanted s.alarms.times names) ∨
    (∃ name ∈ names, isStale wanted name = true ∧ s.alarms.fails .clear = true) ∧ ∃ e, result = .error e := by
  apply @Task.ends_forIn PauseState String Failure _ names
    (fun name => isStale wanted name = true ∧ s.alarms.fails .clear = true)
    (fun done t => t = withTimes s (dropStale wanted s.alarms.times done))
  · rfl
  · rintro done name t hgood rfl
    have hdone : dropStale wanted s.alarms.times (done ++ [name]) =
        if isStale wanted name then (dropStale wanted s.alarms.times done).erase name
        else dropStale wanted s.alarms.times done := by
      simp [dropStale]
    rw [hdone]
    by_cases hstale : isStale wanted name = true
    · rw [if_pos hstale, if_pos hstale]
      apply Task.ends_except_bind
      apply ends_serve
      · intro _
        exact Task.ends_pure ⟨rfl, rfl⟩
      · intro hfails
        exact absurd ⟨hstale, hfails⟩ hgood
    · rw [if_neg hstale, if_neg hstale]
      exact Task.ends_pure ⟨rfl, rfl⟩
  · rintro done name t ⟨hstale, hfails⟩ rfl
    rw [if_pos hstale]
    apply Task.ends_except_bind
    apply ends_serve
    · intro hserves
      exact absurd (hserves.symm.trans hfails) Bool.false_ne_true
    · exact fun _ e => ⟨e, rfl⟩

theorem ends_createLoop : (createLoop wanted).run.Ends s fun result t =>
    (∀ alarm ∈ wanted, ¬ s.alarms.fails .create = true) ∧ result = .ok PUnit.unit ∧
      t = withTimes s (setAll wanted s.alarms.times) ∨
    (∃ alarm ∈ wanted, s.alarms.fails .create = true) ∧ ∃ e, result = .error e := by
  apply @Task.ends_forIn PauseState (String × Nat) Failure _ wanted
    (fun _ => s.alarms.fails .create = true)
    (fun done t => t = withTimes s (setAll done s.alarms.times))
  · rfl
  · rintro done alarm t hgood rfl
    apply Task.ends_except_bind
    apply ends_serve
    · intro _
      apply Task.ends_pure
      simp [setAll, withTimes]
    · intro hfails
      exact absurd hfails hgood
  · rintro done alarm t hfails rfl
    apply Task.ends_except_bind
    apply ends_serve
    · intro hserves
      exact absurd (hserves.symm.trans hfails) Bool.false_ne_true
    · exact fun _ e => ⟨e, rfl⟩

theorem ends_seeToAlarms (ended : List String) : (seeToAlarms ended).run.Ends s fun result t =>
    Serves (alarmsOf s.bus.config) s.alarms ∧
      result = .ok ⟨ended, (alarmsOf s.bus.config).length⟩ ∧
      t = { s with alarms := align (alarmsOf s.bus.config) s.alarms } ∨
    ¬ Serves (alarmsOf s.bus.config) s.alarms ∧ ∃ e, result = .error e := by
  apply Task.ends_except_bind
  apply ends_onBus
  dsimp only
  generalize alarmsOf s.bus.config = wanted
  apply Task.ends_except_bind
  apply ends_serve
  · intro hnames
    apply Task.ends_except_bind
    apply (ends_clearLoop s.alarms.times.keys).mono
    rintro result t (⟨hclear, rfl, rfl⟩ | ⟨⟨name, hname, hstale, hfails⟩, e, rfl⟩)
    · apply Task.ends_except_bind
      apply ends_createLoop.mono
      rintro result t (⟨hcreate, rfl, rfl⟩ | ⟨⟨alarm, halarm, hfails⟩, e, rfl⟩)
      · exact Task.ends_pure (.inl ⟨⟨hnames, hclear, hcreate⟩, rfl, rfl⟩)
      · exact .inr ⟨fun hserves => hserves.create alarm halarm hfails, e, rfl⟩
    · exact .inr ⟨fun hserves => hserves.clear name hname ⟨hstale, hfails⟩, e, rfl⟩
  · intro hnames e
    refine .inr ⟨fun hserves => ?_, e, rfl⟩
    exact Bool.false_ne_true (hserves.names.symm.trans hnames)

/-- A reconciliation comes to that when the browser answers, and to a failure when it does not. -/
theorem ends_reconcile (now : Nat) (s : PauseState) : (reconcile now).run.Ends s fun result t =>
    Serves (alarmsOf (settle now s.bus).config) s.alarms ∧
      result = .ok ⟨expired s.bus.config now, (alarmsOf (settle now s.bus).config).length⟩ ∧
      t = reconciled now s ∨
    ¬ Serves (alarmsOf (settle now s.bus).config) s.alarms ∧ ∃ e, result = .error e := by
  rw [reconcile_eq]
  apply Task.ends_except_bind
  apply ends_onBus
  dsimp only
  have hrest := @ends_seeToAlarms { s with bus := settle now s.bus } (expired s.bus.config now)
  split
  · next hempty =>
    have hbus : settle now s.bus = s.bus := Reconciling.write_of_isEmpty hempty s.bus
    simpa only [reconciled, hbus] using hrest
  · apply Task.ends_except_bind
    apply ends_onBus
    exact hrest

section Settle

variable {bus : Bus} {key : String} {entry : PausedEntry}

theorem get?_settle : (settle now bus).config.paused.get? key = some entry ↔
    bus.config.paused.get? key = some entry ∧ entry.isActive now = true := by
  rw [settle, Reconciling.get?_write]
  split
  · next hexpired =>
    obtain ⟨old, hold, hover⟩ := mem_expired.1 hexpired
    simp only [reduceCtorEq, hold, Option.some.injEq, false_iff, not_and, Bool.not_eq_true]
    rintro rfl
    exact hover
  · next hkept =>
    rw [mem_expired, not_exists] at hkept
    have hactive := hkept entry
    grind

theorem expired_settle : expired (settle now bus).config now = [] := by
  rw [List.eq_nil_iff_forall_not_mem]
  intro key hkey
  obtain ⟨entry, hentry, hover⟩ := mem_expired.1 hkey
  rw [(get?_settle.1 hentry).2] at hover
  cases hover

theorem settle_settle : settle now (settle now bus) = settle now bus := by
  apply Reconciling.write_of_isEmpty
  rw [expired_settle, List.isEmpty_nil]

theorem nodup_expired (config : Config) : (expired config now).Nodup := by
  rw [List.Nodup, expired, List.pairwise_map]
  exact (config.paused.ordered.filter _).imp fun hlt => String.ne_of_lt hlt

end Settle

theorem reconciled_reconciled (now : Nat) (s : PauseState) :
    reconciled now (reconciled now s) = reconciled now s := by
  have hbus : settle now (reconciled now s).bus = settle now s.bus := settle_settle
  rw [reconciled, hbus]
  exact congrArg (PauseState.mk _) (align_align (areAlarms_alarmsOf _))

/-- What a reconciliation at that time promises of the states around it and of its report. -/
structure Reconciles (now : Nat) (before : PauseState) (report : ReconcileReport)
    (after : PauseState) : Prop where
  paused : ∀ key entry, after.bus.config.paused.get? key = some entry ↔
    before.bus.config.paused.get? key = some entry ∧ entry.isActive now = true
  config : { after.bus.config with paused := before.bus.config.paused } = before.bus.config
  /-- Each pause that has an end has an alarm then, and there is no other alarm of a pause. -/
  alarms : ∀ name, isAlarm name = true → ∀ time, after.alarms.times.get? name = some time ↔
    ∃ key entry, after.bus.config.paused.get? key = some entry ∧ entry.revokeAt = some time ∧
      name = alarmName key
  others : ∀ name, isAlarm name = false →
    after.alarms.times.get? name = before.alarms.times.get? name
  expired : ∀ key, key ∈ report.expired ↔
    key ∈ before.bus.config.paused.keys ∧ key ∉ after.bus.config.paused.keys
  nodup : report.expired.Nodup
  count : report.alarms = (alarmsOf after.bus.config).length

theorem reconciles_reconciled (now : Nat) (s : PauseState) :
    Reconciles now s ⟨expired s.bus.config now, (alarmsOf (settle now s.bus).config).length⟩
      (reconciled now s) where
  paused key entry := get?_settle
  config := by simp [reconciled, settle, Reconciling.write]
  alarms name hname time := by
    have halign := @get?_align (alarmsOf (settle now s.bus).config) name time s.alarms
      (areAlarms_alarmsOf _)
    rw [if_pos hname] at halign
    exact halign.trans mem_alarmsOf
  others name hname := by
    apply Option.ext
    intro time
    have halign := @get?_align (alarmsOf (settle now s.bus).config) name time s.alarms
      (areAlarms_alarmsOf _)
    rwa [if_neg (by simp [hname])] at halign
  expired key := by
    rw [mem_expired, KeyMap.mem_keys, KeyMap.mem_keys]
    constructor
    · rintro ⟨entry, hentry, hover⟩
      refine ⟨⟨entry, hentry⟩, ?_⟩
      rintro ⟨left, hleft⟩
      obtain ⟨hsame, hactive⟩ := get?_settle.1 hleft
      rw [hentry, Option.some.injEq] at hsame
      rw [← hsame, hover] at hactive
      cases hactive
    · rintro ⟨⟨entry, hentry⟩, hgone⟩
      refine ⟨entry, hentry, ?_⟩
      rw [← Bool.not_eq_true]
      intro hactive
      exact hgone ⟨entry, get?_settle.2 ⟨hentry, hactive⟩⟩
  nodup := nodup_expired s.bus.config
  count := rfl

/-- A reconciliation comes to its end, without a failure when the browser answers. The pauses that are over
are gone then, the alarms are those of the others, and once more at the same time it finds nothing to do. -/
theorem reconcile_settles (now : Nat) (before : PauseState) :
    (∃ result after, (reconcile now).run.run? before = (some result, after) ∧
      ((∀ call, before.alarms.fails call = false) → ∃ report, result = .ok report)) ∧
    ∀ report after, (reconcile now).run.run? before = (some (.ok report), after) →
      Reconciles now before report after ∧
      (reconcile now).run.run? after = (some (.ok ⟨[], report.alarms⟩), after) := by
  constructor
  · obtain ⟨result, after, hrun, hend⟩ := ends_reconcile now before
    refine ⟨result, after, hrun, fun hanswers => ?_⟩
    rcases hend with ⟨-, hresult, -⟩ | ⟨hfails, -⟩
    · exact ⟨_, hresult⟩
    · have hserves : Serves (alarmsOf (settle now before.bus).config) before.alarms := by
        constructor <;> simp [hanswers]
      exact absurd hserves hfails
  · intro report after hrun
    rcases (ends_reconcile now before).of_run? hrun with ⟨hserves, hreport, rfl⟩ | ⟨-, e, hfails⟩
    · cases hreport
      refine ⟨reconciles_reconciled now before, ?_⟩
      obtain ⟨result, again, hrun', hend⟩ := ends_reconcile now (reconciled now before)
      have hbus : settle now (reconciled now before).bus = settle now before.bus := settle_settle
      have hover : expired (reconciled now before).bus.config now = [] := expired_settle
      rw [hbus, hover, reconciled_reconciled] at hend
      rcases hend with ⟨-, rfl, rfl⟩ | ⟨hfails, -⟩
      · exact hrun'
      · exact absurd (hserves.align (areAlarms_alarmsOf _)) hfails
    · cases hfails

/-- Pauses that are over, one of them just now, beside one that goes on for a while and one without an end,
and alarms that are missing, outdated, stale or of no pause. -/
def mixedPauses : PauseState where
  bus :=
    { config :=
        { paused := .ofList [(allPages, ⟨some 1000⟩), ("edge.org", ⟨some 2000⟩), ("site.com", ⟨some 5000⟩),
            ("news.com", ⟨some 7000⟩), ("forever.org", ⟨none⟩)] } }
  alarms :=
    { times := .ofList [("pause:site.com", 3000), ("pause:gone.net", 10), ("pause:edge.org", 2000),
        ("other", 10)] }

theorem reconcile_settles_mixed_pauses : ∃ after,
    (reconcile 2000).run.run? mixedPauses = (some (.ok ⟨[allPages, "edge.org"], 2⟩), after) ∧
      Reconciles 2000 mixedPauses ⟨[allPages, "edge.org"], 2⟩ after ∧
      (reconcile 2000).run.run? after = (some (.ok ⟨[], 2⟩), after) := by
  have hreport : ((reconcile 2000).run.run? mixedPauses).1 =
      some (.ok ⟨[allPages, "edge.org"], 2⟩) := by decide +kernel
  have hrun : (reconcile 2000).run.run? mixedPauses =
      (some (.ok ⟨[allPages, "edge.org"], 2⟩), ((reconcile 2000).run.run? mixedPauses).2) :=
    Prod.ext hreport rfl
  exact ⟨_, hrun, (reconcile_settles 2000 mixedPauses).2 _ _ hrun⟩

end Pause

end ContentFilter
