import ContentFilter.Proofs.Rule.Incremental
import ContentFilter.Proofs.Rule.Turnover

/-! What a synchronization and a rebuild do to the exceptions, step by step, while the other may change the
same host and ledger between the steps. -/

namespace ContentFilter

/-- Whether the call is an update of rules. -/
def HostCall.isRuleUpdate : HostCall → Bool
  | .updateRules _ _ _ => true
  | _ => false

namespace RuleHost

variable {α β : Type}

/-- What a step does that leaves every rule alone: no update of rules is asked for. -/
structure Idles (host host' : RuleHost) : Prop where
  manner : SameManner host host'
  rules : ∀ b, host'.rules b = host.rules b
  unsupported : host'.unsupportedRegexes = host.unsupportedRegexes
  log : ∃ calls, host'.log = calls ++ host.log ∧ ∀ call ∈ calls, call.isRuleUpdate = false

/-- Steps that leave every rule alone. -/
def calm : Task.Discipline Unit RuleHost where
  may _ _ := True
  move _ host _ host' := Idles host host'

/-- None of the steps changes a rule. -/
def Calm (task : Task RuleHost α) : Prop := task.Follows calm (fun _ _ => True) ()

theorem calm_pure (a : α) : Calm (pure a) := trivial

theorem Calm.bind {task : Task RuleHost α} {f : α → Task RuleHost β} (h : Calm task)
    (hf : ∀ a, Calm (f a)) : Calm (task >>= f) := Task.Follows.bind h fun a _ _ => hf a

theorem Calm.except_bind {task : ExceptT Failure (Task RuleHost) α}
    {f : α → ExceptT Failure (Task RuleHost) β} (h : Calm task.run) (hf : ∀ a, Calm (f a).run) :
    Calm (task >>= f).run :=
  Task.Follows.except_bind h (fun a _ _ => hf a) fun _ _ _ => trivial

theorem calm_act {f : RuleHost → α × RuleHost} (h : ∀ host, Idles host (f host).2) :
    Calm (Task.act f) := fun host _ _ => ⟨(), h host, trivial⟩

theorem calm_question {question : HostCall} (hquestion : question.isRuleUpdate = false)
    (value : RuleHost → α) :
    Calm (call (serve question fun host => (.ok (value host), host))).run := by
  refine calm_act fun host => ?_
  have hlog : ∀ call ∈ [question], call.isRuleUpdate = false := by simpa using hquestion
  unfold serve
  dsimp only
  split <;> exact ⟨⟨rfl, rfl, Nat.le_refl _⟩, fun _ => rfl, rfl, [question], rfl, hlog⟩

theorem calm_updateEnabledRulesets (enable disable : List String) :
    Calm (call (updateEnabledRulesets enable disable)).run := by
  refine calm_act fun host => ?_
  have hlog : ∀ call ∈ [HostCall.updateEnabledRulesets enable disable], call.isRuleUpdate = false := by
    simp [HostCall.isRuleUpdate]
  unfold updateEnabledRulesets serve
  dsimp only
  split <;> exact ⟨⟨rfl, rfl, Nat.le_refl _⟩, fun _ => rfl, rfl, [_], rfl, hlog⟩

theorem idles_isRegexSupported (regex : String) (host : RuleHost) :
    Idles host (isRegexSupported regex host).2 :=
  ⟨⟨rfl, rfl, Nat.le_refl _⟩, fun _ => rfl, rfl, [], rfl, List.forall_mem_nil _⟩

/-- Loading fixes takes no steps but questions for the support of an expression. -/
theorem follows_loadFixes_of {d : Task.Discipline Unit RuleHost}
    (hask : ∀ regex host, d.may () host → d.move () host () (isRegexSupported regex host).2)
    (source : Option FileSource) :
    (Synchronizer.loadFixes source).Follows d (fun _ _ => True) () := by
  have hvalidate : ∀ entry, (Fixes.validate entry).Follows d (fun _ _ => True) () := by
    intro entry
    unfold Fixes.validate
    split
    · exact Task.follows_pure trivial
    split
    · exact Task.follows_pure trivial
    split
    · exact Task.follows_pure trivial
    next regex _ =>
    have hsupported : (Task.act (isRegexSupported regex)).Follows d (fun _ _ => True) () :=
      Task.follows_act fun host hmay => ⟨(), hask regex host hmay, trivial⟩
    refine hsupported.bind fun isSupported _ _ => ?_
    cases isSupported <;> exact Task.follows_pure trivial
  have hall : ∀ entries index, (Fixes.validateAll index entries).Follows d (fun _ _ => True) () := by
    intro entries
    induction entries with
    | nil => exact fun index => Task.follows_pure trivial
    | cons entry rest ih =>
      intro index
      rw [Fixes.validateAll]
      refine (hvalidate entry).bind fun result _ _ => (ih (index + 1)).bind fun load _ _ => ?_
      cases result <;> exact Task.follows_pure trivial
  unfold Synchronizer.loadFixes Fixes.load
  split
  · split
    · exact Task.follows_pure trivial
    · exact (hall _ 0).bind fun load _ _ => Task.follows_pure trivial
  · exact Task.follows_pure trivial

theorem calm_loadFixes (source : Option FileSource) : Calm (Synchronizer.loadFixes source) :=
  follows_loadFixes_of (fun regex host _ => idles_isRegexSupported regex host) source

theorem calm_setStandIn (wanted : Bool) : Calm (Synchronizer.setStandIn wanted).run := by
  refine (calm_question rfl _).except_bind fun enabled => ?_
  split
  · exact calm_pure _
  split
  · exact calm_updateEnabledRulesets _ _
  · exact calm_updateEnabledRulesets _ _

theorem calm_syncRulesets (config : Config) : Calm (Synchronizer.syncRulesets config).run := by
  refine (calm_question rfl _).except_bind fun available => ?_
  refine (calm_question rfl _).except_bind fun enabled => ?_
  dsimp only
  split
  · exact calm_pure _
  · exact (calm_updateEnabledRulesets _ _).except_bind fun _ => calm_pure _

end RuleHost

namespace Synchronizer

open RuleHost

/-- How far a task has come with the exceptions. -/
inductive Stage
  /-- A rebuild has not looked yet whether it is needed. -/
  | idle
  /-- A synchronization has not begun. -/
  | fresh
  /-- A synchronization has taken over what was owed, and may have promised to submit the exceptions. -/
  | taken (isPromised : Bool)
  | submitting (turnover : Turnover .exceptions)
  | past

/-- The exceptions and what is remembered of them are the same. -/
structure SameExceptions (s s' : Synchronizer) : Prop where
  rules : s'.host.rulesOf .exceptions = s.host.rulesOf .exceptions
  owed : .exceptions ∈ s'.ledger.owedFamilies ↔ .exceptions ∈ s.ledger.owedFamilies
  version : s'.ledger.trackerVersion = s.ledger.trackerVersion

/-- The stage after it is known whether the exceptions are due. -/
def Stage.onDue (isDue : Bool) : Stage := if isDue then .submitting .begun else .past

/-- What one step of a task does to the exceptions, which are to be these, and to what is remembered of
them. -/
inductive Deals (manner : RuleHost) (wanted : List Rule) (isAffected : Bool) :
    Stage → Synchronizer → Stage → Synchronizer → Prop
  | aside {stage : Stage} {s s' : Synchronizer} (hsame : SameExceptions s s') :
    Deals manner wanted isAffected stage s stage s'
  | take {s : Synchronizer} : Deals manner wanted isAffected .fresh s
    (.taken (isAffected || s.ledger.owedFamilies.contains .exceptions)) s.cleared
  | decide {isPromised : Bool} {s : Synchronizer} : Deals manner wanted isAffected (.taken isPromised) s
    (.onDue (isPromised || s.trackersMoved)) s
  | look {isDue : Bool} {s : Synchronizer} : Deals manner wanted isAffected .idle s (.onDue isDue) s
  | submit {turnover turnover' : Turnover .exceptions} {s s' : Synchronizer}
    (hturns : Turns manner .exceptions wanted turnover s.host turnover' s'.host)
    (hledger : s'.ledger = s.ledger) :
    Deals manner wanted isAffected (.submitting turnover) s (.submitting turnover') s'
  /-- The rules are there: their version is remembered, and they may be owed no longer. -/
  | settle {s : Synchronizer} {ledger : SyncLedger}
    (hversion : ledger.trackerVersion = some s.trackers.version) :
    Deals manner wanted isAffected (.submitting .replaced) s .past { s with ledger := ledger }
  /-- The rules could not be brought, so they are owed. -/
  | owe {turnover : Turnover .exceptions} {s : Synchronizer} (hfailed : turnover ≠ .replaced) :
    Deals manner wanted isAffected (.submitting turnover) s .past
      { s with ledger := s.ledger.owe .exceptions }

/-- The steps of tasks that bring these exceptions to a host that refuses what `manner` refuses, with this
knowledge of the trackers. -/
def dealing (manner : RuleHost) (trackers : TrackerDb) (wanted : List Rule) (isAffected : Bool) :
    Task.Discipline Stage Synchronizer where
  may _ s := s.trackers = trackers ∧ SameManner manner s.host
  move stage s stage' s' := s'.trackers = s.trackers ∧ SameManner s.host s'.host ∧
    Deals manner wanted isAffected stage s stage' s'

section Stays

variable {α β : Type} {manner : RuleHost} {trackers : TrackerDb} {wanted : List Rule}
  {isAffected : Bool}

/-- The task does nothing to the exceptions, whatever stage it is at. -/
def Stays (manner : RuleHost) (trackers : TrackerDb) (wanted : List Rule) (isAffected : Bool)
    (task : Task Synchronizer α) : Prop :=
  ∀ stage, task.Follows (dealing manner trackers wanted isAffected)
    (fun _ stage' => stage' = stage) stage

theorem Stays.bind {task : Task Synchronizer α} {f : α → Task Synchronizer β}
    (h : Stays manner trackers wanted isAffected task)
    (hf : ∀ a, Stays manner trackers wanted isAffected (f a)) :
    Stays manner trackers wanted isAffected (task >>= f) := by
  intro stage
  refine (h stage).bind fun a stage' hstage => ?_
  subst hstage
  exact hf a stage'

theorem stays_pure (a : α) :
    Stays manner trackers wanted isAffected (pure a : Task Synchronizer α) := fun _ => rfl

theorem stays_read (f : Synchronizer → α) :
    Stays manner trackers wanted isAffected (Task.read f) := fun stage _ _ _ =>
  ⟨stage, ⟨rfl, .refl _, .aside ⟨rfl, .rfl, rfl⟩⟩, rfl⟩

/-- A note in the ledger that does not concern the exceptions. -/
theorem stays_note {f : SyncLedger → SyncLedger}
    (howed : ∀ ledger, .exceptions ∈ (f ledger).owedFamilies ↔ .exceptions ∈ ledger.owedFamilies)
    (hversion : ∀ ledger, (f ledger).trackerVersion = ledger.trackerVersion) (a : α) :
    Stays manner trackers wanted isAffected (do changeLedger f; pure a) := fun stage s _ _ =>
  ⟨stage, ⟨rfl, .refl _, .aside ⟨rfl, howed s.ledger, hversion s.ledger⟩⟩, rfl⟩

theorem stays_onHost {task : Task RuleHost α} (h : Calm task) :
    Stays manner trackers wanted isAffected (onHost task) := by
  intro stage
  refine @Task.Follows.within _ _ _ _ _ _ _ _ _ _ (dealing manner trackers wanted isAffected)
    (fun _ => stage) _ _ h (fun _ _ _ => trivial) ?_ fun _ _ _ => rfl
  rintro - s - host - (hidles : Idles _ _)
  exact ⟨rfl, hidles.manner, .aside ⟨rulesOf_congr hidles.rules .exceptions, .rfl, rfl⟩⟩

theorem stays_replace {family : RuleFamily} (hne : family ≠ .exceptions) (rules : List Rule) :
    Stays manner trackers wanted isAffected (onHost (RuleHost.replace family rules)) := by
  intro stage
  refine @Task.Follows.within _ _ _ _ _ _ _ _ _ _ (dealing manner trackers wanted isAffected)
    (fun _ => stage) _ _ (follows_replace manner family rules) (fun _ _ hmay => hmay.2) ?_
    fun _ _ _ => rfl
  rintro turnover s turnover' host - ⟨hmanner, hturns⟩
  exact ⟨rfl, hmanner, .aside ⟨hturns.elsewhere hne.symm, .rfl, rfl⟩⟩

theorem stays_latestFixes (source : Option FileSource) :
    Stays manner trackers wanted isAffected (latestFixes source) := by
  refine (stays_onHost (calm_loadFixes source)).bind fun loaded => ?_
  refine (stays_onHost (calm_setStandIn !loaded.isOk)).bind fun result => ?_
  rcases result with cause | _
  · exact stays_pure _
  · cases loaded with
    | ok load =>
      apply stays_note
      · exact fun _ => .rfl
      · exact fun _ => rfl
    | error cause =>
      apply stays_note
      · exact fun _ => .rfl
      · exact fun _ => rfl

theorem stays_syncRulesetsIfDue (current : Config) (previous : Option Config) (owed : Bool) :
    Stays manner trackers wanted isAffected (syncRulesetsIfDue current previous owed) := by
  unfold syncRulesetsIfDue
  split
  · refine (stays_onHost (calm_syncRulesets current)).bind fun result => ?_
    cases result with
    | ok delta => exact stays_pure _
    | error cause =>
      apply stays_note
      · exact fun _ => .rfl
      · exact fun _ => rfl
  · exact stays_pure _

theorem stays_submitLoaded {family : RuleFamily} (hne : family ≠ .exceptions) (current : Config)
    (known : TrackerDb) (report : SyncReport) (loaded : Except Failure Fixes.Load) :
    Stays manner trackers wanted isAffected (submitLoaded family current known report loaded) := by
  cases loaded with
  | error cause => exact stays_pure _
  | ok load =>
    refine (stays_replace hne load.rules).bind fun result => ?_
    cases result with
    | error cause => exact stays_pure _
    | ok replaced =>
      dsimp only
      rw [if_neg (by simpa using hne)]
      exact stays_pure _

theorem stays_syncFamily {family : RuleFamily} (hne : family ≠ .exceptions) (current : Config)
    (now : Nat) (report : SyncReport) :
    Stays manner trackers wanted isAffected (syncFamily family current now report) := by
  rw [syncFamily_eq]
  refine (stays_read _).bind fun known => (stays_read _).bind fun source => ?_
  by_cases hfixes : family = .fixes
  · rw [if_pos hfixes]
    exact (stays_latestFixes source).bind fun loaded => stays_submitLoaded hne current known report loaded
  · rw [if_neg hfixes]
    exact (stays_pure _).bind fun loaded => stays_submitLoaded hne current known report loaded

/-- The step of another family. -/
theorem stays_syncIfDue {family : RuleFamily} (hne : family ≠ .exceptions) (current previous : Config)
    (now : Nat) (owed : List RuleFamily) (report : SyncReport) :
    Stays manner trackers wanted isAffected
      (syncIfDue current (some previous) now owed report family) := by
  refine (stays_read trackersMoved).bind fun moved => ?_
  dsimp only
  split
  · refine (stays_syncFamily hne current now report).bind fun result => ?_
    obtain ⟨report', failure⟩ := result
    cases failure with
    | none => exact stays_pure _
    | some cause =>
      apply stays_note
      · exact fun ledger => by simp [SyncLedger.owe, SyncLedger.settle, hne.symm]
      · exact fun _ => rfl
  · exact stays_pure _

theorem stays_foldlM {families : List RuleFamily} (hnone : .exceptions ∉ families)
    {current previous : Config} {now : Nat} {owed : List RuleFamily} (report : SyncReport) :
    Stays manner trackers wanted isAffected
      (families.foldlM (syncIfDue current (some previous) now owed) report) := by
  induction families generalizing report with
  | nil => exact stays_pure _
  | cons family families ih =>
    rw [List.mem_cons, not_or] at hnone
    obtain ⟨hfamily, hfamilies⟩ := hnone
    rw [List.foldlM_cons]
    exact (stays_syncIfDue (Ne.symm hfamily) current previous now owed report).bind fun report =>
      ih hfamilies report

end Stays

section Exceptions

variable {manner : RuleHost} {trackers : TrackerDb} {wanted : List Rule} {isAffected : Bool}

/-- The replacement of the exceptions, by rules that come to the wanted ones if they come to any. -/
theorem follows_onHost_replace {rules : List Rule}
    (hrules : ∀ numbered, RuleFamily.exceptions.assign rules = .ok numbered →
      RuleFamily.exceptions.assign wanted = .ok numbered) :
    (onHost (RuleHost.replace .exceptions rules)).Follows
      (dealing manner trackers wanted isAffected)
      (fun result stage => ∃ turnover, stage = .submitting turnover ∧ Comes result turnover)
      (.submitting .begun) := by
  refine @Task.Follows.within _ _ _ _ _ _ _ _ _ _ (dealing manner trackers wanted isAffected)
    Stage.submitting _ _ (follows_replace manner .exceptions rules) (fun _ _ hmay => hmay.2) ?_
    fun result turnover hcomes => ⟨turnover, rfl, hcomes⟩
  rintro turnover s turnover' host - ⟨hmanner, hturns⟩
  refine ⟨rfl, hmanner, .submit ?_ rfl⟩
  cases hturns with
  | stay hsame => exact .stay hsame
  | list hids hlisted hsame => exact .list hids hlisted hsame
  | write hids hassign hadded hrefused hinsert hwritten =>
    exact .write hids (hrules _ hassign) hadded hrefused hinsert hwritten

/-- What is known of the trackers stays as it is. -/
theorem follows_readTrackers (stage : Stage) :
    (Task.read (·.trackers)).Follows (dealing manner trackers wanted isAffected)
      (fun known stage' => known = trackers ∧ stage' = stage) stage := fun _ hmay _ =>
  ⟨stage, ⟨rfl, .refl _, .aside ⟨rfl, .rfl, rfl⟩⟩, hmay.1, rfl⟩

theorem follows_settle {f : SyncLedger → SyncLedger}
    (hversion : ∀ ledger, (f ledger).trackerVersion = some trackers.version) :
    (changeLedger f).Follows (dealing manner trackers wanted isAffected)
      (fun _ stage => stage = .past) (.submitting .replaced) := by
  intro s hmay _
  refine ⟨.past, ⟨rfl, .refl _, .settle ?_⟩, rfl⟩
  rw [hmay.1]
  exact hversion s.ledger

theorem follows_owe {turnover : Turnover .exceptions} (hfailed : turnover ≠ .replaced) :
    (changeLedger (·.owe .exceptions)).Follows (dealing manner trackers wanted isAffected)
      (fun _ stage => stage = .past) (.submitting turnover) := fun _ _ _ =>
  ⟨.past, ⟨rfl, .refl _, .owe hfailed⟩, rfl⟩

/-- A rebuild looks whether the exceptions are due, and then brings or owes them. -/
theorem follows_onTrackersChanged {config : Config}
    (hrules : ∀ numbered,
      RuleFamily.exceptions.assign (Exceptions.rules config trackers) = .ok numbered →
      RuleFamily.exceptions.assign wanted = .ok numbered) :
    (onTrackersChanged config).Follows (dealing manner trackers wanted isAffected)
      (fun _ stage => stage = .past) .idle := by
  have hlook : (Task.read fun s : Synchronizer =>
      s.ledger.owedFamilies.contains .exceptions || s.trackersMoved).Follows
        (dealing manner trackers wanted isAffected) (fun isDue stage => stage = .onDue isDue) .idle :=
    fun _ _ _ => ⟨_, ⟨rfl, .refl _, .look⟩, rfl⟩
  refine hlook.bind fun isDue stage hstage => ?_
  subst hstage
  cases isDue with
  | false => exact Task.follows_pure rfl
  | true =>
    rw [if_pos rfl, Stage.onDue, if_pos rfl]
    refine (follows_readTrackers _).bind fun known stage hread => ?_
    obtain ⟨rfl, rfl⟩ := hread
    refine (follows_onHost_replace hrules).bind fun result stage hresult => ?_
    obtain ⟨turnover, rfl, hcomes⟩ := hresult
    cases result with
    | ok report =>
      obtain rfl : turnover = .replaced := hcomes.2 rfl
      exact (follows_settle fun _ => rfl).bind fun _ _ hover => Task.follows_pure hover
    | error cause =>
      exact (follows_owe hcomes.ne_replaced).bind fun _ _ hover => Task.follows_pure hover

/-- The exceptions are brought and their version is remembered, or the submission came to nothing. -/
theorem follows_syncFamily (current : Config) (now : Nat) (report : SyncReport) :
    (syncFamily .exceptions current now report).Follows
      (dealing manner trackers (Exceptions.rules current trackers) isAffected)
      (fun result stage => if result.2 = none then stage = .past
        else ∃ turnover, stage = .submitting turnover ∧ turnover ≠ .replaced)
      (.submitting .begun) := by
  rw [syncFamily_eq]
  refine (follows_readTrackers _).bind fun known stage hread => ?_
  obtain ⟨rfl, rfl⟩ := hread
  refine (stays_read _ _).bind fun source stage hread => ?_
  subst hread
  rw [if_neg (by decide)]
  refine (follows_onHost_replace fun _ h => h).bind fun result stage hresult => ?_
  obtain ⟨turnover, rfl, hcomes⟩ := hresult
  cases result with
  | ok replaced =>
    obtain rfl : turnover = .replaced := hcomes.2 rfl
    exact (follows_settle fun _ => rfl).bind fun _ _ hover => Task.follows_pure hover
  | error cause => exact Task.follows_pure ⟨turnover, rfl, hcomes.ne_replaced⟩

/-- The step of the exceptions in a synchronization that promised it if they are affected or owed. -/
theorem follows_syncIfDue {current previous : Config} (now : Nat) (owed : List RuleFamily)
    (report : SyncReport) :
    (syncIfDue current (some previous) now owed report .exceptions).Follows
      (dealing manner trackers (Exceptions.rules current trackers) isAffected)
      (fun _ stage => stage = .past)
      (.taken (Synchronizer.isAffected .exceptions current previous ||
        owed.contains .exceptions)) := by
  have hdecide : (Task.read trackersMoved).Follows
      (dealing manner trackers (Exceptions.rules current trackers) isAffected)
      (fun moved stage => stage = .onDue (Synchronizer.isAffected .exceptions current previous ||
        owed.contains .exceptions || moved))
      (.taken (Synchronizer.isAffected .exceptions current previous ||
        owed.contains .exceptions)) :=
    fun _ _ _ => ⟨_, ⟨rfl, .refl _, .decide⟩, rfl⟩
  refine hdecide.bind fun moved stage hstage => ?_
  subst hstage
  change Task.Follows _ _ (if (Synchronizer.isAffected .exceptions current previous ||
    owed.contains .exceptions || moved) = true then _ else _) _
  cases Synchronizer.isAffected .exceptions current previous || owed.contains .exceptions || moved with
  | false => exact Task.follows_pure rfl
  | true =>
    rw [if_pos rfl]
    refine (follows_syncFamily current now report).bind fun result stage hresult => ?_
    obtain ⟨report', failure⟩ := result
    cases failure with
    | none => exact Task.follows_pure hresult
    | some cause =>
      obtain ⟨turnover, rfl, hfailed⟩ := hresult
      exact (follows_owe hfailed).bind fun _ _ hover => Task.follows_pure hover

/-- A synchronization takes over what is owed, and is through with the exceptions when it ends. -/
theorem follows_sync (current previous : Config) (now : Nat) :
    (sync current (some previous) now).Follows
      (dealing manner trackers (Exceptions.rules current trackers)
        (Synchronizer.isAffected .exceptions current previous))
      (fun _ stage => stage = .past) .fresh := by
  have htake : (Task.act fun s : Synchronizer => (s.ledger, s.cleared)).Follows
      (dealing manner trackers (Exceptions.rules current trackers)
        (Synchronizer.isAffected .exceptions current previous))
      (fun owed stage => stage = .taken (Synchronizer.isAffected .exceptions current previous ||
        owed.owedFamilies.contains .exceptions)) .fresh :=
    fun s _ _ => ⟨_, ⟨rfl, .refl s.host, .take⟩, rfl⟩
  rw [sync_eq]
  refine htake.bind fun owed stage hstage => ?_
  subst hstage
  refine (stays_syncRulesetsIfDue current _ _ _).bind fun report stage hstage => ?_
  subst hstage
  -- the families before the exceptions, the exceptions, and those after them
  change Task.Follows _ _ (([.pause, .trustedDomains, .redirectProtection, .safeMode] ++
    .exceptions :: [.customFilters, .fixes] : List RuleFamily).foldlM _ report) _
  rw [List.foldlM_append]
  refine (stays_foldlM (by decide) report _).bind fun report stage hstage => ?_
  subst hstage
  rw [List.foldlM_cons]
  refine (follows_syncIfDue now owed.owedFamilies report).bind fun report stage hstage => ?_
  subst hstage
  exact stays_foldlM (by decide) report .past

end Exceptions

end Synchronizer

end ContentFilter
