import ContentFilter.Proofs.Browser.Allowances
import ContentFilter.Proofs.Rule.Convert
import ContentFilter.Proofs.Rule.ExceptionsStep

/-! A synchronization and a rebuild of the exceptions at the same time, in any order of their steps. Nothing
keeps the one that knows the older configuration from writing last, so the exceptions follow the newer one
in every order exactly when the older one has no other rules to write. -/

namespace ContentFilter

open RuleHost

/-- Ordered rules are known from what they contain. -/
theorem RuleTable.Ordered.eq_of_mem_iff {rules other : List Rule} (h : RuleTable.Ordered rules)
    (hother : RuleTable.Ordered other) (hmem : ∀ rule, rule ∈ rules ↔ rule ∈ other) :
    rules = other := by
  have hnodup : ∀ rules : List Rule, RuleTable.Ordered rules → rules.Nodup := fun rules h =>
    h.imp fun hlt heq => absurd (congrArg Rule.id heq) (Nat.ne_of_lt hlt)
  have hperm := (List.perm_ext_iff_of_nodup (hnodup rules h) (hnodup other hother)).2 hmem
  exact hperm.eq_of_pairwise (fun a b _ _ hab hba => absurd hab (Nat.lt_asymm hba)) h hother

/-- The rules of exceptions are not numbered yet. -/
theorem Exceptions.id_of_mem_rules {config : Config} {db : TrackerDb} {rule : Rule}
    (h : rule ∈ Exceptions.rules config db) : rule.id = 0 := by
  obtain ⟨filter, source, hsource, rfl⟩ := Exceptions.exists_source_of_mem_rules h
  exact (Rule.condition_of_ofFilter hsource).1

namespace RuleHost

/-- The host refuses nothing. -/
structure Serves (host : RuleHost) : Prop where
  refuse : ∀ n call, host.refuse n call = none
  rejected : host.rejectedUrlFilters = []
  failing : host.failingUpdates = 0

section Serves

variable {host host' : RuleHost}

theorem Serves.congr (h : host.Serves) (hmanner : SameManner host host') : host'.Serves where
  refuse n call := by rw [hmanner.refuse, h.refuse]
  rejected := by rw [hmanner.rejected, h.rejected]
  failing := Nat.le_zero.1 (h.failing ▸ hmanner.failing)

theorem Serves.isRejected (h : host.Serves) (rule : Rule) : host.isRejected rule = false := by
  rw [RuleHost.isRejected, h.rejected]
  cases rule.condition.urlFilter <;> rfl

theorem Serves.not_mayRefuse (h : host.Serves) (rule : Rule) : ¬host.MayRefuse rule := by
  rintro (hrejected | ⟨n, call, ids, reason, hrefused, -⟩)
  · rw [h.isRejected] at hrejected
    cases hrejected
  · rw [h.refuse] at hrefused
    cases hrefused

theorem Serves.listRules (h : host.Serves) (isSession : Bool) :
    (listRules isSession host).1 = .ok (host.rules isSession) ∧
      (RuleHost.listRules isSession host).2.Serves ∧
      ∀ b, (RuleHost.listRules isSession host).2.rules b = host.rules b := by
  unfold RuleHost.listRules serve
  dsimp only
  rw [h.refuse]
  exact ⟨rfl, ⟨h.refuse, h.rejected, h.failing⟩, fun _ => rfl⟩

/-- Such a host takes every update that it has room for. -/
theorem Serves.updateRules (h : host.Serves) {isSession : Bool} {removed : List Nat}
    {added : List Rule}
    (hroom : RuleTable.Room (RuleTable.remove removed (host.rules isSession)) added) :
    (updateRules isSession removed added host).1 = .ok () := by
  obtain ⟨result, hresult⟩ := hroom.insertAll
  have hnone : added.filter host.isRejected = [] :=
    List.filter_eq_nil_iff.2 fun rule _ => by simp [h.isRejected rule]
  have hupdated : ∀ log calls, updated { host with log := log, calls := calls } isSession removed added =
      .ok result := by
    intro log calls
    change (if ((added.filter host.isRejected).map (·.id)).isEmpty = true then _ else _) = _
    rw [hnone, if_pos (by rfl)]
    exact hresult
  unfold RuleHost.updateRules serve
  dsimp only
  rw [h.refuse]
  dsimp only
  rw [if_neg (by simp [h.failing]), hupdated]

theorem Serves.ends_idsOf (h : host.Serves) (family : RuleFamily) :
    (idsOf family).run.Ends host fun result host' =>
      result = .ok (((host.rules family.isSession).map (·.id)).filter family.contains) ∧
        host'.Serves ∧ ∀ b, host'.rules b = host.rules b := by
  obtain ⟨hlist, hserves, hrules⟩ := h.listRules family.isSession
  refine Task.ends_except_bind (Task.ends_act ?_)
  rw [hlist]
  exact Task.ends_pure ⟨rfl, hserves, hrules⟩

theorem ends_replace_of_serves (h : host.Serves) {family : RuleFamily} {rules numbered : List Rule}
    (hassign : family.assign rules = .ok numbered) :
    (replace family rules).run.Ends host fun result host' =>
      (∃ report, result = .ok report) ∧ host'.Serves ∧ host'.rulesOf family = numbered := by
  have htaken : (replace family rules).run.Ends host fun result host' =>
      host'.Serves ∧ ∃ report, result = .ok report ∧ report.rejected = [] := by
    refine Task.ends_except_bind (Task.ends_pure ?_)
    rw [hassign]
    refine Task.ends_except_bind ((h.ends_idsOf family).mono ?_)
    rintro result a ⟨rfl, ha, hrules⟩
    refine Task.ends_except_bind ?_
    change (submit family.isSession _ numbered).Ends _ _
    rw [submit]
    refine Task.ends_bind (Task.ends_act ?_)
    rw [ha.updateRules (by rw [hrules]; exact room_of_assign hassign _)]
    exact Task.ends_pure (Task.ends_pure ⟨ha.congr (sameManner_updateRules _ _ _ a), _, rfl, rfl⟩)
  refine (htaken.and (ends_replace family rules host)).mono fun result host' hboth => ?_
  obtain ⟨⟨hserves, report, rfl, hnone⟩, -, -, -, numbered', hassign', hholds⟩ := hboth
  obtain rfl : numbered = numbered' := Except.ok.inj (hassign.symm.trans hassign')
  rw [hholds, hnone]
  exact ⟨⟨report, rfl⟩, hserves, List.filter_eq_self.2 fun rule _ => by simp⟩

end Serves

end RuleHost

namespace Synchronizer

section InOrder

variable {manner : RuleHost} {trackers : TrackerDb} {wanted : List Rule} {isAffected : Bool}
  {stage other : Stage} {s s' : Synchronizer}

/-- What is known at a stage of the rules on the host. -/
def Stage.Knows (wanted : List Rule) : Stage → Synchronizer → Prop
  | .submitting turnover, s => RuleHost.Knows .exceptions wanted turnover s.host
  | _, _ => True

/-- The exceptions are the wanted ones, by what is known of the trackers now. -/
structure IsSettled (wanted : List Rule) (s : Synchronizer) : Prop where
  carries : s.host.Carries .exceptions wanted
  version : s.ledger.trackerVersion = some s.trackers.version

/-- What a synchronization at a stage answers for: the wanted exceptions are there or owed, or it will find
them due. -/
def Stage.Answers (wanted : List Rule) (isAffected : Bool) : Stage → Synchronizer → Prop
  | .fresh, s => s.host.Carries .exceptions wanted ∨ .exceptions ∈ s.ledger.owedFamilies ∨
    s.trackersMoved = true ∨ isAffected = true
  | .taken isPromised, s => s.host.Carries .exceptions wanted ∨
    .exceptions ∈ s.ledger.owedFamilies ∨ s.trackersMoved = true ∨ isPromised = true
  | .submitting _, _ => True
  | .idle, s | .past, s => IsSettled wanted s ∨ .exceptions ∈ s.ledger.owedFamilies

theorem Stage.answers_of_settled (h : IsSettled wanted s) (stage : Stage) :
    stage.Answers wanted isAffected s := by
  cases stage with
  | idle => exact .inl h
  | fresh => exact .inl h.carries
  | taken isPromised => exact .inl h.carries
  | submitting turnover => trivial
  | past => exact .inl h

theorem Stage.answers_of_owed (h : .exceptions ∈ s.ledger.owedFamilies) (stage : Stage) :
    stage.Answers wanted isAffected s := by
  cases stage with
  | idle => exact .inr h
  | fresh => exact .inr (.inl h)
  | taken isPromised => exact .inr (.inl h)
  | submitting turnover => trivial
  | past => exact .inr h

theorem Stage.Answers.congr (h : stage.Answers wanted isAffected s)
    (hcarries : s.host.Carries .exceptions wanted → s'.host.Carries .exceptions wanted)
    (howed : .exceptions ∈ s'.ledger.owedFamilies ↔ .exceptions ∈ s.ledger.owedFamilies)
    (hversion : s'.ledger.trackerVersion = s.ledger.trackerVersion)
    (htrackers : s'.trackers = s.trackers) : stage.Answers wanted isAffected s' := by
  have hmoved : s'.trackersMoved = s.trackersMoved := by
    rw [trackersMoved, trackersMoved, hversion, htrackers]
  have hsettled : IsSettled wanted s → IsSettled wanted s' := fun h =>
    ⟨hcarries h.carries, by rw [hversion, htrackers]; exact h.version⟩
  cases stage with
  | idle => exact Or.imp hsettled howed.2 h
  | fresh =>
    rw [Stage.Answers, howed, hmoved]
    exact Or.imp_left hcarries h
  | taken isPromised =>
    rw [Stage.Answers, howed, hmoved]
    exact Or.imp_left hcarries h
  | submitting turnover => trivial
  | past => exact Or.imp hsettled howed.2 h

/-- What is known at another stage survives a step that leaves the rules or brings the wanted ones. -/
theorem Stage.Knows.after (h : other.Knows wanted s) (hmanner : SameManner s.host s'.host)
    (hrules : s'.host.rulesOf .exceptions = s.host.rulesOf .exceptions ∨
      s'.host.Carries .exceptions wanted) : other.Knows wanted s' := by
  cases other with
  | submitting turnover =>
    rcases hrules with hrules | hcarries
    · exact RuleHost.Knows.congr h hmanner hrules
    · exact hcarries.knows turnover
  | _ => trivial

/-- Whether a stage is one of a rebuild. -/
def Stage.IsRebuild : Stage → Prop
  | .fresh | .taken _ => False
  | _ => True

theorem Stage.isRebuild_onDue (isDue : Bool) : (Stage.onDue isDue).IsRebuild := by
  cases isDue <;> trivial

/-- What holds while a synchronization and a rebuild go on at the same time, one at the first stage and one at the
second. -/
structure InOrder (manner : RuleHost) (trackers : TrackerDb) (wanted : List Rule) (isAffected : Bool)
    (sync rebuild : Stage) (s : Synchronizer) : Prop where
  trackers : s.trackers = trackers
  manner : SameManner manner s.host
  isRebuild : rebuild.IsRebuild
  knowsSync : sync.Knows wanted s
  knowsRebuild : rebuild.Knows wanted s
  answers : sync.Answers wanted isAffected s

/-- A step leaves the rules of the exceptions or brings the wanted ones, and knows what it did. -/
theorem Deals.knows (h : Deals manner wanted isAffected stage s other s')
    (hmanner : SameManner manner s'.host) (hsame : SameManner s.host s'.host)
    (hknows : stage.Knows wanted s) : other.Knows wanted s' ∧
      (s'.host.rulesOf .exceptions = s.host.rulesOf .exceptions ∨
        s'.host.Carries .exceptions wanted) := by
  have hdue : ∀ isDue, (Stage.onDue isDue).Knows wanted s := fun isDue => by cases isDue <;> trivial
  cases h with
  | aside hexceptions => exact ⟨hknows.after hsame (.inl hexceptions.rules), .inl hexceptions.rules⟩
  | take => exact ⟨trivial, .inl rfl⟩
  | decide => exact ⟨hdue _, .inl rfl⟩
  | look => exact ⟨hdue _, .inl rfl⟩
  | submit hturns hledger => exact hturns.knows hmanner hsame hknows
  | settle hversion => exact ⟨trivial, .inl rfl⟩
  | owe hfailed => exact ⟨trivial, .inl rfl⟩

theorem InOrder.may {sync rebuild : Stage}
    (h : InOrder manner trackers wanted isAffected sync rebuild s) (stage : Stage) :
    (dealing manner trackers wanted isAffected).may stage s := ⟨h.trackers, h.manner⟩

/-- A step of the synchronization. -/
theorem InOrder.sync_step {rebuild : Stage}
    (h : InOrder manner trackers wanted isAffected stage rebuild s)
    (hmove : (dealing manner trackers wanted isAffected).move stage s other s') :
    InOrder manner trackers wanted isAffected other rebuild s' := by
  obtain ⟨htrackers, hsame, hdeals⟩ := hmove
  have hmanner := h.manner.trans hsame
  obtain ⟨hknows, hrules⟩ := hdeals.knows hmanner hsame h.knowsSync
  refine ⟨htrackers.trans h.trackers, hmanner, h.isRebuild, hknows,
    h.knowsRebuild.after hsame hrules, ?_⟩
  have hanswers := h.answers
  cases hdeals with
  | aside hexceptions =>
    exact hanswers.congr (fun hcarries => hcarries.congr hsame hexceptions.rules) hexceptions.owed
      hexceptions.version htrackers
  | take =>
    -- what was owed becomes a promise
    rcases hanswers with hcarries | howed | hmoved | haffected
    · exact .inl hcarries
    · exact .inr (.inr (.inr (by simp [howed])))
    · exact .inr (.inr (.inl hmoved))
    · exact .inr (.inr (.inr (by simp [haffected])))
  | @decide isPromised =>
    cases hdue : isPromised || s.trackersMoved with
    | true => trivial
    | false =>
      rw [Bool.or_eq_false_iff] at hdue
      rcases hanswers with hcarries | howed | hmoved | hpromised
      · refine .inl ⟨hcarries, ?_⟩
        have hmoved := hdue.2
        rw [trackersMoved, bne_eq_false_iff_eq] at hmoved
        exact hmoved
      · exact .inr howed
      · exact absurd hmoved (by simp [hdue.2])
      · exact absurd hpromised (by simp [hdue.1])
  | @look isDue =>
    cases isDue with
    | true => trivial
    | false => exact hanswers
  | submit hturns hledger => trivial
  | @settle _ ledger hversion =>
    have hsettled : IsSettled wanted { s with ledger := ledger } := ⟨h.knowsSync, hversion⟩
    exact Stage.answers_of_settled hsettled .past
  | owe hfailed => exact Stage.answers_of_owed List.mem_cons_self .past

/-- A step of the rebuild. -/
theorem InOrder.rebuild_step {sync : Stage}
    (h : InOrder manner trackers wanted isAffected sync stage s)
    (hmove : (dealing manner trackers wanted isAffected).move stage s other s') :
    InOrder manner trackers wanted isAffected sync other s' := by
  obtain ⟨htrackers, hsame, hdeals⟩ := hmove
  have hmanner := h.manner.trans hsame
  obtain ⟨hknows, hrules⟩ := hdeals.knows hmanner hsame h.knowsRebuild
  have hcarries : s.host.Carries .exceptions wanted → s'.host.Carries .exceptions wanted := by
    intro hcarries
    exact hrules.elim (hcarries.congr hsame) id
  have hrebuild := h.isRebuild
  refine ⟨htrackers.trans h.trackers, hmanner, ?_, h.knowsSync.after hsame hrules, hknows, ?_⟩
  · cases hdeals with
    | aside hexceptions => exact hrebuild
    | take => exact hrebuild.elim
    | decide => exact hrebuild.elim
    | look => exact Stage.isRebuild_onDue _
    | submit hturns hledger => trivial
    | settle hversion => trivial
    | owe hfailed => trivial
  · cases hdeals with
    | aside hexceptions =>
      exact h.answers.congr hcarries hexceptions.owed hexceptions.version htrackers
    | take => exact hrebuild.elim
    | decide => exact hrebuild.elim
    | look => exact h.answers
    | submit hturns hledger =>
      exact h.answers.congr hcarries (by rw [hledger]) (by rw [hledger]) htrackers
    | @settle _ ledger hversion =>
      have hsettled : IsSettled wanted { s with ledger := ledger } := ⟨h.knowsRebuild, hversion⟩
      exact Stage.answers_of_settled hsettled sync
    | owe hfailed => exact Stage.answers_of_owed List.mem_cons_self sync

end InOrder

/-- The exceptions are those of a configuration, or it is known that they are not. -/
def IsAware (s : Synchronizer) (config : Config) : Prop :=
  s.host.Carries .exceptions (Exceptions.rules config s.trackers) ∨
    .exceptions ∈ s.ledger.owedFamilies ∨ s.trackersMoved = true

variable {current previous config : Config} {now : Nat} {s s' : Synchronizer}

/-- When the rebuild has no other rules to write than the synchronization, the exceptions are right or owed
in every order. -/
theorem settled_of_race {report : SyncReport} {result : Except Failure (Option FamilyReport)}
    (haware : s.IsAware previous)
    (hrules : ∀ numbered,
      RuleFamily.exceptions.assign (Exceptions.rules config s.trackers) = .ok numbered →
      RuleFamily.exceptions.assign (Exceptions.rules current s.trackers) = .ok numbered)
    (hrace : Task.Race (sync current (some previous) now) (onTrackersChanged config) s
      (.done report) (.done result) s') :
    s'.trackers = s.trackers ∧ (IsSettled (Exceptions.rules current s.trackers) s' ∨
      .exceptions ∈ s'.ledger.owedFamilies) := by
  have hstart : InOrder s.host s.trackers (Exceptions.rules current s.trackers)
      (isAffected .exceptions current previous) .fresh .idle s := by
    refine ⟨rfl, .refl _, trivial, trivial, trivial, ?_⟩
    rcases haware with hcarries | howed | hmoved
    · cases haffected : isAffected .exceptions current previous with
      | true => exact .inr (.inr (.inr rfl))
      | false =>
        have hsame : current.exceptions = previous.exceptions := by simpa [isAffected] using haffected
        rw [Exceptions.rules, Exceptions.filters, ← hsame] at hcarries
        exact .inl hcarries
    · exact .inr (.inl howed)
    · exact .inr (.inr (.inl hmoved))
  obtain ⟨stage, rebuild, hover, -, hend⟩ :=
    @Task.Race.follows _ _ _ _ _ _ _ _ _ _
      (InOrder s.host s.trackers (Exceptions.rules current s.trackers)
        (isAffected .exceptions current previous)) _ _
      (fun sync rebuild _ h => ⟨h.may sync, h.may rebuild⟩)
      (fun _ _ _ _ _ => InOrder.sync_step) (fun _ _ _ _ _ => InOrder.rebuild_step)
      (follows_sync current previous now) (follows_onTrackersChanged hrules) hstart
      _ _ _ hrace
  obtain rfl : stage = .past := hover
  exact ⟨hend.trackers, hend.answers⟩

/-- A rebuild that looked before a synchronization and goes on after it leaves its own rules, and clears what
the synchronization owes. -/
theorem exists_overwritten (hserves : s.host.Serves) (hmoved : s.trackersMoved = true)
    {numbered : List Rule}
    (hassign : RuleFamily.exceptions.assign (Exceptions.rules config s.trackers) = .ok numbered)
    (current previous : Config) (now : Nat) :
    ∃ report t result s', (sync current (some previous) now).run? s = (some report, t) ∧
      Task.Race (sync current (some previous) now) (onTrackersChanged config) s
        (.done report) (.done result) s' ∧
      s'.host.Serves ∧ s'.host.rulesOf .exceptions = numbered ∧
      .exceptions ∉ s'.ledger.owedFamilies ∧
      (report.failures = [] → s'.ledger.hasPending = false) := by
  have hstart : Task.Race (sync current (some previous) now) (onTrackersChanged config) s
      (sync current (some previous) now) (onTrackersChanged config) s := .start
  obtain ⟨loaded, -, -, hloaded, -⟩ := ends_loadFixes s.fixes s.host
  obtain ⟨report, t, hsync, hsynced⟩ := ends_sync hloaded current (some previous) now
  obtain ⟨-, -, htrackers, hmanner⟩ :=
    (follows_sync current previous now).keeps (fun _ _ h => h)
      (fun _ _ _ _ h hmove => ⟨hmove.1.trans h.1, h.2.trans hmove.2.1⟩)
      (⟨rfl, .refl s.host⟩ : s.trackers = s.trackers ∧ SameManner s.host s.host) hsync
  have hserves' := hserves.congr hmanner
  -- the rebuild looks and reads, the synchronization goes by, and the rebuild writes
  unfold onTrackersChanged at hstart
  have hlooked := hstart.read_right
  rw [if_pos (by rw [hmoved, Bool.or_true])] at hlooked
  have hread := hlooked.read_right.run_left hsync
  obtain ⟨result, s', hrace, hpost⟩ := hread.ends_right
    (fun _ s' => s'.host.Serves ∧ s'.host.rulesOf .exceptions = numbered ∧
      .exceptions ∉ s'.ledger.owedFamilies ∧
      (t.ledger.hasPending = false → s'.ledger.hasPending = false)) <| by
    refine Task.ends_bind (ends_onHost ((ends_replace_of_serves hserves' hassign).mono ?_))
    rintro result host ⟨⟨report, rfl⟩, hhost, hrules⟩
    refine Task.ends_bind (Task.ends_change (Task.ends_pure ⟨hhost, hrules, ?_, fun hclear => ?_⟩))
    · simp [SyncLedger.settle]
    · rw [SyncLedger.hasPending, Bool.or_eq_false_iff, Bool.not_eq_false', List.isEmpty_iff] at hclear
      simp [SyncLedger.hasPending, SyncLedger.settle, hclear.1, hclear.2]
  obtain ⟨hhost, hrules, howed, hpending⟩ := hpost
  exact ⟨report, t, result, s', hsync, hrace, hhost, hrules, howed, fun hnone =>
    hpending (hasPending_of_failures_eq_nil hsynced hnone)⟩

/-- The rules of the exceptions are known from their numbered form. -/
theorem rules_eq_of_assign {other : Config} {trackers : TrackerDb} {numbered : List Rule}
    (h : RuleFamily.exceptions.assign (Exceptions.rules config trackers) = .ok numbered)
    (hother : RuleFamily.exceptions.assign (Exceptions.rules other trackers) = .ok numbered) :
    Exceptions.rules config trackers = Exceptions.rules other trackers := by
  have hplain : ∀ config : Config, (Exceptions.rules config trackers).map ({ · with id := 0 }) =
      Exceptions.rules config trackers := by
    intro config
    refine (List.map_congr_left fun rule hrule => ?_).trans (List.map_id _)
    have hid := Exceptions.id_of_mem_rules hrule
    cases rule
    cases hid
    rfl
  rw [← hplain config, ← hplain other, ← RuleFamily.assign_map h, ← RuleFamily.assign_map hother]

/-- A synchronization from one configuration to the next and a rebuild at the same time leave the exceptions of
the newer configuration, unless they owe them, in every order of their steps and on every host, if and only
if the configuration that the rebuild was given has the same rules for what is known of the trackers, or more
than there are numbers. -/
theorem exceptions_current_iff (current previous config : Config) (trackers : TrackerDb) (now : Nat) :
    (∀ s report result s', s.trackers = trackers → s.IsAware previous →
      Task.Race (sync current (some previous) now) (onTrackersChanged config) s
        (.done report) (.done result) s' →
      .exceptions ∉ s'.ledger.owedFamilies →
        IsSettled (Exceptions.rules current trackers) s' ∧ s'.trackers = trackers) ↔
    Exceptions.rules config trackers = Exceptions.rules current trackers ∨
      RuleFamily.exceptions.capacity < (Exceptions.rules config trackers).length := by
  constructor
  · intro hall
    by_contra hnot
    rw [not_or, Nat.not_lt] at hnot
    obtain ⟨hother, hfits⟩ := hnot
    obtain ⟨numbered, hassign⟩ : ∃ numbered,
        RuleFamily.exceptions.assign (Exceptions.rules config trackers) = .ok numbered :=
      ⟨_, if_neg (Nat.not_lt.2 hfits)⟩
    have hmoved : trackersMoved { host := {}, trackers, fixes := none } = true := rfl
    obtain ⟨report, t, result, s', -, hrace, hserves, hrules, howed, -⟩ :=
      exists_overwritten ⟨fun _ _ => rfl, rfl, rfl⟩ hmoved hassign current previous now
    obtain ⟨⟨⟨numbered', hassign', hwithin, hthere⟩, -⟩, -⟩ :=
      hall _ report result s' rfl (.inr (.inr hmoved)) hrace howed
    have hsame : numbered = numbered' := by
      refine RuleTable.Ordered.eq_of_mem_iff (RuleFamily.assign_ordered hassign).2
        (RuleFamily.assign_ordered hassign').2 fun rule => ⟨fun hrule => ?_, fun hrule => ?_⟩
      · exact hwithin rule (hrules ▸ hrule)
      · rw [← hrules]
        exact (hthere rule hrule).resolve_right (hserves.not_mayRefuse rule)
    exact hother (rules_eq_of_assign hassign (hsame ▸ hassign'))
  · rintro hcondition s report result s' rfl haware hrace howed
    have hrules : ∀ numbered,
        RuleFamily.exceptions.assign (Exceptions.rules config s.trackers) = .ok numbered →
        RuleFamily.exceptions.assign (Exceptions.rules current s.trackers) = .ok numbered := by
      intro numbered hassign
      rcases hcondition with hsame | hoverflow
      · exact hsame ▸ hassign
      · rw [RuleFamily.assign, if_pos hoverflow] at hassign
        cases hassign
    obtain ⟨htrackers, hend⟩ := settled_of_race haware hrules hrace
    exact ⟨hend.resolve_right howed, htrackers⟩

/-- A tracker is let through everywhere. -/
def lenient : Config := { exceptions := KeyMap.empty.insert "t" { everywhere := true } }

/-- What becomes known of the tracker. -/
def learned : TrackerDb := TrackerDb.insert {} "t" ⟨["ads.com"], ["||ads.com^"]⟩

/-- The rule of an exception for a pattern. -/
def exceptionRule (id : Nat) (pattern : String) : Rule where
  id
  priority := Priority.exception
  action := .allow
  condition := { urlFilter := some pattern }

/-- A synchronizer that follows the lenient configuration by what was known before. -/
def behind : Synchronizer where
  host := { dynamic := [exceptionRule 1000000 "||t^"] }
  trackers := learned
  fixes := none
  ledger := { trackerVersion := some 0 }

/-- The exception is taken back and its tracker becomes known at the same time: nothing fails and nothing is
owed, and the exception is still there. -/
theorem not_carries_after_race : ∃ report result s', behind.IsAware lenient ∧
    Task.Race (sync {} (some lenient) 0) (onTrackersChanged lenient) behind
      (.done report) (.done result) s' ∧
    report.failures = [] ∧ s'.ledger.hasPending = false ∧
    ¬s'.host.Carries .exceptions (Exceptions.rules {} learned) := by
  have hmoved : behind.trackersMoved = true := by decide
  have hrules : Exceptions.rules lenient behind.trackers = [exceptionRule 0 "||ads.com^"] := by
    decide +kernel
  have hassign : RuleFamily.exceptions.assign (Exceptions.rules lenient behind.trackers) =
      .ok [exceptionRule 1000000 "||ads.com^"] := by
    rw [hrules]
    rfl
  obtain ⟨report, t, result, s', hsync, hrace, -, hleft, -, hpending⟩ :=
    exists_overwritten ⟨fun _ _ => rfl, rfl, rfl⟩ hmoved hassign {} lenient 0
  have hfailures : ((sync {} (some lenient) 0).run? behind).1.map (·.failures) = some [] := by
    decide +kernel
  rw [hsync, Option.map_some, Option.some.injEq] at hfailures
  refine ⟨report, result, s', .inr (.inr hmoved), hrace, hfailures, hpending hfailures, ?_⟩
  rintro ⟨numbered, hnone, hwithin, -⟩
  cases hnone
  have hmem := hwithin (exceptionRule 1000000 "||ads.com^") (hleft ▸ List.mem_cons_self)
  cases hmem

end Synchronizer

end ContentFilter
