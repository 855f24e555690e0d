import ContentFilter.Proofs.Rule.SyncStep
import Mathlib.Data.List.Chain
import Mathlib.Data.List.Induction

/-! Runs of synchronizations, each against the configuration of the one before, on a host that may
fail and refuse as it likes: after each, every family and the rule sets are in line or owed. -/

namespace ContentFilter

open RuleHost

/-- What one synchronization of a run meets: the configuration and the time, what is known of the
trackers, where the fixes come from, and what the host fails at and refuses. -/
structure SyncCall where
  current : Config
  now : Nat
  trackers : TrackerDb
  fixes : Option FileSource
  refuse : Nat → HostCall → Option HostError
  failingUpdates : Nat
  rejectedUrlFilters : List String
  unsupportedRegexes : List String

namespace SyncCall

/-- The synchronizer as the call finds it. -/
def arrange (call : SyncCall) (s : Synchronizer) : Synchronizer :=
  { s with
    trackers := call.trackers
    fixes := call.fixes
    host := { s.host with
      refuse := call.refuse
      failingUpdates := call.failingUpdates
      rejectedUrlFilters := call.rejectedUrlFilters
      unsupportedRegexes := call.unsupportedRegexes } }

/-- Between two calls no pause starts or ends by itself, and trackers change with their version. -/
structure Steady (a b : SyncCall) : Prop where
  clock : ∀ host entry, (host, entry) ∈ a.current.paused.entries →
    entry.isActive a.now = entry.isActive b.now
  trackers : a.trackers.version = b.trackers.version → a.trackers = b.trackers

end SyncCall

/-- What a run of synchronizations has left behind. -/
structure SyncRun where
  synchronizer : Synchronizer
  previous : Option Config := none
  /-- The rules that were last reported as rejected. -/
  rejected : RuleFamily → List RejectedRule := fun _ => []
  /-- What the fixes came to when they were loaded last. -/
  fixes : Option (Except Failure Fixes.Load) := none
  report : SyncReport := {}

namespace SyncRun

open Synchronizer

/-- Whether the step of a family was taken. -/
def tried (family : RuleFamily) (report : SyncReport) : Bool :=
  report.families.any (·.family == family) || report.failures.any (·.step == .family family)

/-- The run with what one more synchronization reports and leaves. -/
def after (run : SyncRun) (call : SyncCall) (report : SyncReport) (synchronizer : Synchronizer) :
    SyncRun where
  synchronizer
  previous := some call.current
  rejected family := match report.families.find? (·.family == family) with
    | some found => found.rejected
    | none => run.rejected family
  fixes := if tried .fixes report then fixesOf call.fixes call.unsupportedRegexes else run.fixes
  report

/-- One more synchronization. -/
def next (run : SyncRun) (call : SyncCall) : Option SyncRun :=
  let start := call.arrange run.synchronizer
  match (sync call.current run.previous call.now).run? start with
  | (some report, synchronizer) => some (run.after call report synchronizer)
  | (none, _) => none

/-- Nothing is remembered at the start of a run, whatever is on the host. -/
def start (host : RuleHost) : SyncRun where
  synchronizer := { host, trackers := {}, fixes := none }

/-- A family is in line with a call. -/
def IsInLine (run : SyncRun) (call : SyncCall) (fixes : Except Failure Fixes.Load)
    (family : RuleFamily) : Prop :=
  InLine run.synchronizer.host family call.current call.trackers call.now fixes (run.rejected family)

/-- What holds after a call: whatever is not owed is in line with it. -/
structure Settled (run : SyncRun) (call : SyncCall) (fixes : Except Failure Fixes.Load) : Prop where
  previous : run.previous = some call.current
  loaded : run.fixes = some fixes
  families : ∀ family ∈ families, family ∈ run.synchronizer.ledger.owedFamilies ∨
    run.IsInLine call fixes family
  trackerVersion : .exceptions ∈ run.synchronizer.ledger.owedFamilies ∨
    run.synchronizer.ledger.trackerVersion = some call.trackers.version
  rulesets : run.synchronizer.ledger.owedRulesets = true ∨
    run.synchronizer.host.Ships call.current
  unfailed : run.report.failures = [] → run.synchronizer.ledger.hasPending = false

theorem configuredRules_eq {family : RuleFamily} {a b : SyncCall} (hsteady : a.Steady b)
    (hsame : isAffected family b.current a.current = false)
    (htrackers : family = .exceptions → a.trackers = b.trackers) :
    configuredRules family b.current b.trackers b.now =
      configuredRules family a.current a.trackers a.now :=
  configuredRules_congr hsteady.clock hsame htrackers

theorem tried_of_reported {family : RuleFamily} {report : SyncReport} {found : FamilyReport}
    (h : report.families.find? (·.family == family) = some found) : tried family report = true := by
  rw [tried, Bool.or_eq_true, List.any_eq_true]
  have hfamily := List.find?_some h
  exact .inl ⟨found, List.mem_of_find?_eq_some h, hfamily⟩

theorem tried_of_failed {family : RuleFamily} {report : SyncReport} {cause : Failure}
    (h : ⟨.family family, cause⟩ ∈ report.failures) : tried family report = true := by
  rw [tried, Bool.or_eq_true, List.any_eq_true, List.any_eq_true]
  exact .inr ⟨_, h, beq_self_eq_true _⟩

theorem tried_eq_false {family : RuleFamily} {s s' : Synchronizer} {report : SyncReport}
    (h : Untouched family s report s') : tried family report = false := by
  rw [tried, Bool.or_eq_false_iff, List.any_eq_false, List.any_eq_false]
  refine ⟨List.find?_eq_none.1 h.unreported, fun failure hmem hstep => ?_⟩
  obtain ⟨step, cause⟩ := failure
  obtain rfl : step = .family family := eq_of_beq hstep
  exact h.unfailed cause hmem

theorem of_not_due {family : RuleFamily} {current previous : Config} {owed : List RuleFamily}
    {s : Synchronizer} (h : isDue family current (some previous) owed s = false) :
    isAffected family current previous = false ∧ family ∉ owed ∧
      (family = .exceptions → s.trackersMoved = false) := by
  rw [isDue, Bool.or_eq_false_iff, Bool.or_eq_false_iff, Bool.and_eq_false_iff] at h
  obtain ⟨⟨haffected, howed⟩, hmoved⟩ := h
  refine ⟨haffected, by simpa using howed, fun hexceptions => ?_⟩
  exact hmoved.resolve_left (by simp [hexceptions])

/-- Only the fixes are made from what was loaded. -/
theorem inLine_of_ne_fixes {host : RuleHost} {family : RuleFamily} {current : Config}
    {trackers : TrackerDb} {now : Nat} {fixes : Except Failure Fixes.Load}
    {rejected : List RejectedRule} (hne : family ≠ .fixes)
    (h : InLine host family current trackers now fixes rejected)
    (fixes' : Except Failure Fixes.Load) :
    InLine host family current trackers now fixes' rejected where
  rules := by
    have hrules := h.rules
    rw [rulesFor, if_neg hne] at hrules ⊢
    exact hrules
  standIn hfixes := absurd hfixes hne

section Step

variable {run : SyncRun} {a call : SyncCall} {fixes loaded : Except Failure Fixes.Load}
  {family : RuleFamily} {report : SyncReport} {s' : Synchronizer}

/-- A family that nothing was done for stays in line. -/
theorem inLine_of_untouched (hsettled : run.Settled a fixes) (hsteady : a.Steady call)
    (hdue : isDue family call.current (some a.current) run.synchronizer.ledger.owedFamilies
      (call.arrange run.synchronizer) = false)
    (huntouched : Untouched family (call.arrange run.synchronizer) report s')
    (hfamily : family ∈ families) : (run.after call report s').IsInLine call fixes family := by
  obtain ⟨haffected, howed, hmoved⟩ := of_not_due hdue
  have hline := (hsettled.families family hfamily).resolve_left howed
  have htrackers : family = .exceptions → a.trackers = call.trackers := by
    intro hexceptions
    have hversion := hsettled.trackerVersion.resolve_left (hexceptions ▸ howed)
    have hsame := hmoved hexceptions
    rw [trackersMoved, bne_eq_false_iff_eq] at hsame
    exact hsteady.trackers (Option.some.inj (hversion.symm.trans hsame))
  have hrules : rulesFor family call.current call.trackers call.now fixes =
      rulesFor family a.current a.trackers a.now fixes := by
    rw [rulesFor, rulesFor, configuredRules_eq hsteady haffected htrackers]
  have hrejected : (run.after call report s').rejected family = run.rejected family := by
    simp only [after, huntouched.unreported]
  refine ⟨?_, fun hfixes => (huntouched.standIn hfixes).trans (hline.standIn hfixes)⟩
  rw [hrejected, hrules]
  obtain ⟨numbered, hassign, hheld⟩ := hline.rules
  exact ⟨numbered, hassign, huntouched.rules.trans hheld⟩

theorem inLine_of_delivered
    (h : Delivered family call.current call.now loaded (call.arrange run.synchronizer) report s')
    (hfixes : family = .fixes → fixes = loaded) :
    (run.after call report s').IsInLine call fixes family := by
  obtain ⟨found, hfound, hline⟩ := h.reported
  have hrejected : (run.after call report s').rejected family = found.rejected := by
    simp only [after, hfound]
  rw [IsInLine, hrejected]
  by_cases hfamily : family = .fixes
  · rw [hfixes hfamily]
    exact hline
  · exact inLine_of_ne_fixes hfamily hline fixes

/-- Nothing is skipped without a call before, which was settled. -/
theorem settled_of_not_due {owed : List RuleFamily} {s : Synchronizer}
    (h : run.previous = none ∨ ∃ a fixes, run.Settled a fixes ∧ a.Steady call)
    (hdue : isDue family call.current run.previous owed s = false) :
    ∃ a fixes, run.Settled a fixes ∧ a.Steady call := by
  rcases h with hfirst | h
  · rw [hfirst] at hdue
    exact absurd hdue (by simp [isDue])
  · exact h

theorem ships_of_untouched (hsettled : run.Settled a fixes)
    (hdue : areRulesetsDue call.current run.previous run.synchronizer.ledger.owedRulesets = false)
    (hrulesets : ∀ id ≠ Fixes.ruleset,
      id ∈ s'.host.enabled.keys ↔ id ∈ run.synchronizer.host.enabled.keys)
    (havailable : s'.host.available = run.synchronizer.host.available) :
    s'.host.Ships call.current := by
  rw [hsettled.previous, areRulesetsDue, Bool.or_eq_false_iff, bne_eq_false_iff_eq] at hdue
  have hships := hsettled.rulesets.resolve_left (by simp [hdue.2])
  intro id hid
  rw [hrulesets id hid, hships id hid, hdue.1, havailable]

/-- The last load is that of this call, unless the fixes were left alone. -/
theorem exists_last_load
    (h : run.previous = none ∨ ∃ a fixes, run.Settled a fixes ∧ a.Steady call)
    (hloaded : fixesOf call.fixes call.unsupportedRegexes = some loaded)
    (hsynced : Synced call.current run.previous call.now loaded (call.arrange run.synchronizer)
      families report s') :
    ∃ fixes, (run.after call report s').fixes = some fixes ∧
      (tried .fixes report = true → fixes = loaded) ∧
      (tried .fixes report = false → run.fixes = some fixes) := by
  cases htried : tried .fixes report with
  | true => exact ⟨loaded, by simp only [after, htried, if_pos, hloaded], fun _ => rfl, nofun⟩
  | false =>
    cases hsynced.families .fixes (by decide) with
    | skipped hdue _ =>
      obtain ⟨a, fixes, hsettled, -⟩ := settled_of_not_due h hdue
      refine ⟨fixes, ?_, nofun, fun _ => hsettled.loaded⟩
      simp only [after, htried, hsettled.loaded]
      rfl
    | delivered hdelivered =>
      obtain ⟨found, hfound, -⟩ := hdelivered.reported
      exact absurd (tried_of_reported hfound) (by simp [htried])
    | failed hfailed =>
      obtain ⟨cause, hmem⟩ := hfailed.reported
      exact absurd (tried_of_failed hmem) (by simp [htried])

end Step

/-- After one more synchronization everything is in line with it or owed, if everything was in line
with the one before or owed. -/
theorem settled_next {run : SyncRun} {call : SyncCall}
    (h : run.previous = none ∨ ∃ a fixes, run.Settled a fixes ∧ a.Steady call) :
    ∃ run' fixes, run.next call = some run' ∧ run'.Settled call fixes := by
  obtain ⟨loaded, hloaded⟩ : ∃ load, fixesOf call.fixes call.unsupportedRegexes = some load := by
    obtain ⟨load, -, -, hload, -⟩ :=
      ends_loadFixes call.fixes { unsupportedRegexes := call.unsupportedRegexes }
    exact ⟨load, hload⟩
  obtain ⟨report, s', hrun, hsynced⟩ :=
    @ends_sync (call.arrange run.synchronizer) loaded hloaded call.current run.previous call.now
  obtain ⟨fixes, hfixes, hfresh, hkept⟩ := exists_last_load h hloaded hsynced
  refine ⟨run.after call report s', fixes, by simp only [next, hrun], ?_⟩
  exact
    { previous := rfl
      loaded := hfixes
      families := by
        intro family hfamily
        cases hsynced.families family hfamily with
        | skipped hdue huntouched =>
          obtain ⟨a, fixes', hsettled, hsteady⟩ := settled_of_not_due h hdue
          rw [hsettled.previous] at hdue
          have hline := inLine_of_untouched hsettled hsteady hdue huntouched hfamily
          by_cases heq : family = .fixes
          · have hsame := hkept (tried_eq_false (heq ▸ huntouched))
            rw [hsettled.loaded] at hsame
            exact .inr (Option.some.inj hsame ▸ hline)
          · exact .inr (inLine_of_ne_fixes heq hline fixes)
        | delivered hdelivered =>
          refine .inr (inLine_of_delivered hdelivered fun heq => hfresh ?_)
          obtain ⟨found, hfound, -⟩ := hdelivered.reported
          exact tried_of_reported (heq ▸ hfound)
        | failed hfailed => exact .inl hfailed.owed
      trackerVersion := by
        cases hsynced.families .exceptions (by decide) with
        | skipped hdue huntouched =>
          obtain ⟨a, fixes', hsettled, -⟩ := settled_of_not_due h hdue
          rw [hsettled.previous] at hdue
          have hsame := (of_not_due hdue).2.2 rfl
          rw [trackersMoved, bne_eq_false_iff_eq] at hsame
          exact .inr ((huntouched.trackerVersion rfl).trans hsame)
        | delivered hdelivered => exact .inr (hdelivered.trackerVersion rfl)
        | failed hfailed => exact .inl hfailed.owed
      rulesets := by
        cases hsynced.rulesets with
        | skipped hdue hrulesets howed =>
          rcases h with hfirst | ⟨a, fixes', hsettled, -⟩
          · rw [hfirst] at hdue
            exact absurd hdue (by simp [areRulesetsDue])
          · exact .inr (ships_of_untouched hsettled hdue hrulesets hsynced.available)
        | shipped hships howed => exact .inr hships
        | failed howed hreported => exact .inl howed
      unfailed := hasPending_of_failures_eq_nil hsynced }

theorem settled_run (host : RuleHost) (calls : List SyncCall) (call : SyncCall)
    (hsteady : (calls ++ [call]).IsChain SyncCall.Steady) :
    ∃ run fixes, (calls ++ [call]).foldlM next (start host) = some run ∧
      run.Settled call fixes := by
  induction calls using List.reverseRecOn generalizing call with
  | nil =>
    obtain ⟨run, fixes, hnext, hsettled⟩ := @settled_next (start host) call (.inl rfl)
    exact ⟨run, fixes, by rw [List.nil_append, List.foldlM_cons, hnext]; rfl, hsettled⟩
  | append_singleton calls a ih =>
    rw [List.append_assoc, List.singleton_append, List.isChain_append_cons_cons] at hsteady
    obtain ⟨run, fixes, hrun, hsettled⟩ := ih a hsteady.1
    obtain ⟨run', fixes', hnext, hsettled'⟩ :=
      @settled_next run call (.inr ⟨a, fixes, hsettled, hsteady.2.1⟩)
    refine ⟨run', fixes', ?_, hsettled'⟩
    rw [List.foldlM_append, hrun]
    change [call].foldlM next run = some run'
    rw [List.foldlM_cons, hnext]
    rfl

/-- After every synchronization of a run, each family and the rule sets are owed or in line with the
last configuration, what is known of the trackers and the fixes loaded last. Without a failure
nothing is owed, so everything is in line. -/
theorem settled_or_owed (host : RuleHost) (calls : List SyncCall) (call : SyncCall)
    (hsteady : (calls ++ [call]).IsChain SyncCall.Steady) :
    ∃ run fixes, (calls ++ [call]).foldlM next (start host) = some run ∧
      run.fixes = some fixes ∧
      (∀ family ∈ families, family ∈ run.synchronizer.ledger.owedFamilies ∨
        run.IsInLine call fixes family) ∧
      (run.synchronizer.ledger.owedRulesets = true ∨
        run.synchronizer.host.Ships call.current) ∧
      (run.report.failures = [] → run.synchronizer.ledger.hasPending = false ∧
        (∀ family ∈ families, run.IsInLine call fixes family) ∧
        run.synchronizer.host.Ships call.current) := by
  obtain ⟨run, fixes, hfold, hsettled⟩ := settled_run host calls call hsteady
  refine ⟨run, fixes, hfold, hsettled.loaded, hsettled.families, hsettled.rulesets, fun hnone => ?_⟩
  have hpending := hsettled.unfailed hnone
  have hclear := hpending
  rw [SyncLedger.hasPending, Bool.or_eq_false_iff] at hclear
  have hfamilies : run.synchronizer.ledger.owedFamilies = [] := by simpa using hclear.2
  refine ⟨hpending, fun family hfamily => ?_, hsettled.rulesets.resolve_left (by simp [hclear.1])⟩
  exact (hsettled.families family hfamily).resolve_left (by simp [hfamilies])

/-- A call with a page paused for a while, of which the host fails everything or nothing. -/
def pausedCall (now : Nat) (isHostDown : Bool) : SyncCall where
  current := { paused := KeyMap.empty.insert "example.com" ⟨some 2000⟩ }
  now
  trackers := {}
  fixes := none
  refuse _ _ := if isHostDown then some (.failed "host unavailable") else none
  failingUpdates := 0
  rejectedUrlFilters := []
  unsupportedRegexes := []

theorem settled_or_owed_after_outage :
    [pausedCall 1000 true, pausedCall 1500 false].IsChain SyncCall.Steady ∧
    ∃ run fixes, [pausedCall 1000 true, pausedCall 1500 false].foldlM next
        (start { available := [ListName.ads] }) = some run ∧ run.fixes = some fixes ∧
      (∀ family ∈ families, family ∈ run.synchronizer.ledger.owedFamilies ∨
        run.IsInLine (pausedCall 1500 false) fixes family) ∧
      (run.synchronizer.ledger.owedRulesets = true ∨
        run.synchronizer.host.Ships (pausedCall 1500 false).current) ∧
      (run.report.failures = [] → run.synchronizer.ledger.hasPending = false ∧
        (∀ family ∈ families, run.IsInLine (pausedCall 1500 false) fixes family) ∧
        run.synchronizer.host.Ships (pausedCall 1500 false).current) := by
  have hsteady : [pausedCall 1000 true, pausedCall 1500 false].IsChain SyncCall.Steady := by
    refine .cons_cons ⟨fun host entry hmem => ?_, fun _ => rfl⟩ (.singleton _)
    have hentry : (host, entry) = ("example.com", ⟨some 2000⟩) := List.mem_singleton.1 hmem
    rw [Prod.mk.injEq] at hentry
    rw [hentry.2]
    rfl
  exact ⟨hsteady, settled_or_owed _ [pausedCall 1000 true] (pausedCall 1500 false) hsteady⟩

end SyncRun

end ContentFilter
