import ContentFilter.Proofs.Rule.ConstantHost
import ContentFilter.Proofs.Rule.SyncStep

/-! On a host that answers alike whenever it is asked, a synchronization against the configuration
before leaves what a full one leaves: a step that it skips would change nothing. -/

namespace ContentFilter

namespace Synchronizer

open RuleHost

/-- Synchronizers that differ in the records of their hosts and in what they remember. -/
structure Abreast (manner : RuleHost) (s s' : Synchronizer) : Prop where
  hosts : Twins manner s.host s'.host
  trackers : s'.trackers = s.trackers
  fixes : s'.fixes = s.fixes

section Abreast

variable {α : Type} {manner : RuleHost} {s s' : Synchronizer}

theorem Abreast.refl (h : InManner manner s.host) : Abreast manner s s := ⟨.refl h, rfl, rfl⟩

theorem both_onHost {task : Task RuleHost α} (htask : Uniform manner task)
    (h : Abreast manner s s') :
    (onHost task).Both (onHost task) s s' fun a next b next' => a = b ∧ Abreast manner next next' := by
  refine ends_onHost (Task.Ends.mono (htask s.host s'.host h.hosts) fun a host hrest => ?_)
  refine ends_onHost (hrest.mono fun b host' hpost => ?_)
  exact ⟨hpost.1, hpost.2, h.trackers, h.fixes⟩

theorem both_latestFixes (hmanner : Constant manner) (source : Option FileSource)
    (h : Abreast manner s s') :
    (latestFixes source).Both (latestFixes source) s s' fun result next result' next' =>
      result = result' ∧ Abreast manner next next' := by
  refine Task.both_bind ((both_onHost (uniform_loadFixes source) h).mono ?_)
  rintro loaded a loaded' a' ⟨rfl, ha⟩
  refine Task.both_bind ((both_onHost (uniform_setStandIn hmanner !loaded.isOk) ha).mono ?_)
  rintro result b result' b' ⟨rfl, hb⟩
  have hledger (ledger ledger' : SyncLedger) :
      Abreast manner { b with ledger := ledger } { b' with ledger := ledger' } :=
    ⟨hb.hosts, hb.trackers, hb.fixes⟩
  cases result with
  | error cause => exact Task.both_pure ⟨rfl, hb⟩
  | ok _ =>
    cases loaded with
    | ok load =>
      exact Task.both_bind (Task.both_act (Task.both_pure ⟨rfl, hledger _ _⟩))
    | error cause =>
      exact Task.both_bind (Task.both_act (Task.both_pure ⟨rfl, hledger _ _⟩))

theorem both_submitLoaded (hmanner : Constant manner) (family : RuleFamily) (config : Config)
    (trackers : TrackerDb) (loaded : Except Failure Fixes.Load) (report report' : SyncReport)
    (h : Abreast manner s s') :
    (submitLoaded family config trackers report loaded).Both
      (submitLoaded family config trackers report' loaded) s s' fun result next result' next' =>
        result.2 = result'.2 ∧ Abreast manner next next' := by
  cases loaded with
  | error cause => exact Task.both_pure ⟨rfl, h⟩
  | ok load =>
    have hreplace : Uniform manner (RuleHost.replace family load.rules) :=
      uniform_replace hmanner family load.rules
    refine Task.both_bind ((both_onHost hreplace h).mono ?_)
    rintro result a result' a' ⟨rfl, ha⟩
    cases result with
    | error cause => exact Task.both_pure ⟨rfl, ha⟩
    | ok replaced =>
      dsimp only
      split
      · exact Task.both_bind (Task.both_act (Task.both_pure ⟨rfl, ha.hosts, ha.trackers, ha.fixes⟩))
      · exact Task.both_pure ⟨rfl, ha⟩

theorem both_syncFamily (hmanner : Constant manner) (family : RuleFamily) (config : Config)
    (now : Nat) (report report' : SyncReport) (h : Abreast manner s s') :
    (syncFamily family config now report).Both (syncFamily family config now report') s s'
      fun result next result' next' => result.2 = result'.2 ∧ Abreast manner next next' := by
  rw [syncFamily_eq, syncFamily_eq]
  refine Task.both_bind (Task.both_act ?_)
  refine Task.both_bind (Task.both_act ?_)
  dsimp only
  rw [h.trackers, h.fixes]
  by_cases hfamily : family = .fixes
  · rw [if_pos hfamily, if_pos hfamily]
    refine Task.both_bind ((both_latestFixes hmanner s.fixes h).mono ?_)
    rintro loaded a loaded' a' ⟨rfl, ha⟩
    exact both_submitLoaded hmanner family config s.trackers loaded report report' ha
  · rw [if_neg hfamily, if_neg hfamily]
    exact Task.both_bind (Task.both_pure
      (both_submitLoaded hmanner family config s.trackers _ report report' h))
end Abreast

section Again

variable {manner : RuleHost} (hmanner : Constant manner)
include hmanner

/-- The rules of a family that the host has after a successful step stay when they are submitted
again. -/
theorem ends_syncFamily_fixed {s : Synchronizer} {fixes : Except Failure Fixes.Load}
    (hhost : InManner manner s.host)
    (hfixes : fixesOf s.fixes s.host.unsupportedRegexes = some fixes) {family : RuleFamily}
    (hsession : family.isSession = false) (config : Config) (now : Nat) (report : SyncReport) :
    (syncFamily family config now report).Ends s fun result s' => result.2 = none →
      Fixed manner family (rulesFor family config s.trackers now fixes)
        (s'.host.rulesOf family) := by
  have hsubmit {a : Synchronizer} {load : Fixes.Load} (ha : InManner manner a.host)
      (hload : load.rules = rulesFor family config s.trackers now fixes) :
      (submitLoaded family config s.trackers report (.ok load)).Ends a fun result s' =>
        result.2 = none → Fixed manner family (rulesFor family config s.trackers now fixes)
          (s'.host.rulesOf family) := by
    rw [← hload]
    refine Task.ends_bind (ends_onHost ?_)
    refine (ends_replace_fixed hmanner hsession load.rules ha).mono fun result host hfixed => ?_
    cases result with
    | error cause => exact Task.ends_pure nofun
    | ok replaced =>
      have hdone := hfixed replaced rfl
      dsimp only
      split
      · exact Task.ends_bind (Task.ends_change (Task.ends_pure fun _ => hdone))
      · exact Task.ends_pure fun _ => hdone
  rw [syncFamily_eq]
  refine Task.ends_bind (Task.ends_read (Task.ends_bind (Task.ends_read ?_)))
  by_cases hfamily : family = .fixes
  · rw [if_pos hfamily]
    have hlatest := (both_latestFixes hmanner s.fixes (.refl hhost)).and_left
      (ends_latestFixes hfixes)
    refine Task.ends_bind (Task.Ends.mono hlatest fun loaded a ha => ?_)
    obtain ⟨loaded', a', -, ⟨-, -, -, hloaded⟩, -, habreast⟩ := ha
    cases loaded with
    | error cause => exact Task.ends_pure nofun
    | ok load =>
      refine hsubmit habreast.hosts.manner ?_
      rw [rulesFor, if_pos hfamily]
      exact (hloaded load rfl).1
  · rw [if_neg hfamily]
    refine Task.ends_bind (Task.ends_pure (hsubmit hhost ?_))
    rw [rulesFor, if_neg hfamily]

omit hmanner in
/-- Shipped fixes that are on or off as wanted stay so. -/
theorem ends_setStandIn_again {wanted : Bool} {host : RuleHost}
    (hwanted : Fixes.ruleset ∈ host.enabled.keys ↔ wanted = true) :
    (setStandIn wanted).run.Ends host fun _ host' => Same host host' := by
  refine Task.ends_except_bind ?_
  refine (ends_question _ (·.enabled.keys) host fun _ h => by rw [h.enabled]).mono
    fun result a ha => ?_
  obtain ⟨hsame, henabled⟩ := ha
  cases result with
  | error cause => exact hsame
  | ok enabled =>
    obtain rfl := henabled enabled rfl
    have hright : (host.enabled.keys.contains Fixes.ruleset == wanted) = true := by
      rw [beq_iff_eq, Bool.eq_iff_iff, List.contains_iff_mem]
      exact hwanted
    dsimp only
    rw [if_pos hright]
    exact Task.ends_pure hsame

omit hmanner in
/-- Rule sets that are as configured stay so. -/
theorem ends_syncRulesets_again {config : Config} {host : RuleHost} (hships : host.Ships config) :
    (syncRulesets config).run.Ends host fun _ host' => Same host host' := by
  refine Task.ends_except_bind ?_
  refine (ends_question _ (·.available) host fun _ h => h.available).mono fun result a ha => ?_
  obtain ⟨hsame, havailable⟩ := ha
  cases result with
  | error cause => exact hsame
  | ok available =>
  obtain rfl := havailable available rfl
  refine Task.ends_except_bind ?_
  refine (ends_question _ (·.enabled.keys) a fun _ h => by rw [h.enabled]).mono fun result b hb => ?_
  obtain ⟨hsame', henabled⟩ := hb
  cases result with
  | error cause => exact hsame.trans hsame'
  | ok enabled =>
  obtain rfl := henabled enabled rfl
  rw [hsame.enabled]
  have hon : (rulesetDelta config host.available host.enabled.keys).enabled = [] := by
    rw [List.eq_nil_iff_forall_not_mem]
    intro id hid
    obtain ⟨⟨hlisted, havailable⟩, hoff⟩ := mem_rulesetDelta_enabled.1 hid
    have hne : id ≠ Fixes.ruleset := by
      rintro rfl
      exact ListName.fixes_not_mem_enabled config hlisted
    exact hoff ((hships id hne).2 ⟨hlisted, havailable⟩)
  have hoff : (rulesetDelta config host.available host.enabled.keys).disabled = [] := by
    rw [List.eq_nil_iff_forall_not_mem]
    intro id hid
    obtain ⟨hon, hnot, hne⟩ := mem_rulesetDelta_disabled.1 hid
    exact hnot ((hships id hne).1 hon)
  have hnothing : ((rulesetDelta config host.available host.enabled.keys).enabled.isEmpty &&
      (rulesetDelta config host.available host.enabled.keys).disabled.isEmpty) = true := by
    rw [hon, hoff]
    rfl
  dsimp only
  rw [if_pos hnothing]
  exact Task.ends_pure (hsame.trans hsame')

omit hmanner in
theorem rulesOf_eq_of_quiet_eq {host host' : RuleHost} (h : host'.quiet = host.quiet)
    (family : RuleFamily) : host'.rulesOf family = host.rulesOf family := by
  obtain ⟨log, calls, rfl⟩ := exists_record h
  rfl

/-- Fixes that are loaded as before change nothing on the host. -/
theorem ends_latestFixes_again {s : Synchronizer} {fixes : Except Failure Fixes.Load}
    (hhost : InManner manner s.host)
    (hfixes : fixesOf s.fixes s.host.unsupportedRegexes = some fixes)
    (hstandIn : Fixes.ruleset ∈ s.host.enabled.keys ↔ fixes.isOk = false) :
    (latestFixes s.fixes).Ends s fun _ s' => s'.host.quiet = s.host.quiet := by
  have hload := (ends_loadFixes s.fixes s.host).and ((uniform_loadFixes s.fixes).ends hhost)
  refine Task.ends_bind (ends_onHost (hload.mono fun loaded a ha => ?_))
  obtain ⟨⟨hloaded, hsame⟩, hin⟩ := ha
  obtain rfl : fixes = loaded := Option.some.inj (hfixes.symm.trans hloaded)
  have hwanted : Fixes.ruleset ∈ a.enabled.keys ↔ (!fixes.isOk) = true := by
    rw [hsame.enabled, hstandIn, Bool.not_eq_true']
  have hstand := (ends_setStandIn_again hwanted).and
    ((uniform_setStandIn hmanner !fixes.isOk).ends hin)
  refine Task.ends_bind (ends_onHost (hstand.mono fun result b hb => ?_))
  have hsame := hsame.trans hb.1
  have hquiet := quiet_eq hsame.toSameShelf hsame.rules hhost hb.2
  cases result with
  | error cause => exact Task.ends_pure hquiet
  | ok _ =>
    cases fixes with
    | ok load => exact Task.ends_bind (Task.ends_change (Task.ends_pure hquiet))
    | error cause => exact Task.ends_bind (Task.ends_change (Task.ends_pure hquiet))

/-- The step of a family that is in line changes nothing on the host. -/
theorem ends_syncFamily_again {s : Synchronizer} {fixes : Except Failure Fixes.Load}
    (hhost : InManner manner s.host)
    (hfixes : fixesOf s.fixes s.host.unsupportedRegexes = some fixes) {family : RuleFamily}
    {config : Config} {now : Nat}
    (hfixed : Fixed manner family (rulesFor family config s.trackers now fixes)
      (s.host.rulesOf family))
    (hstandIn : family = .fixes → (Fixes.ruleset ∈ s.host.enabled.keys ↔ fixes.isOk = false))
    (report : SyncReport) :
    (syncFamily family config now report).Ends s fun _ s' => s'.host.quiet = s.host.quiet := by
  have hsubmit {a : Synchronizer} {load : Fixes.Load} (ha : InManner manner a.host)
      (hquiet : a.host.quiet = s.host.quiet)
      (hload : load.rules = rulesFor family config s.trackers now fixes) :
      (submitLoaded family config s.trackers report (.ok load)).Ends a fun _ s' =>
        s'.host.quiet = s.host.quiet := by
    have hreplace := hfixed a.host ha (rulesOf_eq_of_quiet_eq hquiet family)
    rw [← hload] at hreplace
    refine Task.ends_bind (ends_onHost (hreplace.mono fun result host hkept => ?_))
    have hdone := hkept.trans hquiet
    cases result with
    | error cause => exact Task.ends_pure hdone
    | ok replaced =>
      dsimp only
      split
      · exact Task.ends_bind (Task.ends_change (Task.ends_pure hdone))
      · exact Task.ends_pure hdone
  rw [syncFamily_eq]
  refine Task.ends_bind (Task.ends_read (Task.ends_bind (Task.ends_read ?_)))
  by_cases hfamily : family = .fixes
  · rw [if_pos hfamily]
    have hagain := (ends_latestFixes hfixes).and
      (ends_latestFixes_again hmanner hhost hfixes (hstandIn hfamily))
    have hlatest := (both_latestFixes hmanner s.fixes (.refl hhost)).and_left hagain
    refine Task.ends_bind (Task.Ends.mono hlatest fun loaded a ha => ?_)
    obtain ⟨loaded', a', -, ⟨⟨-, -, -, hloaded⟩, hquiet⟩, -, habreast⟩ := ha
    cases loaded with
    | error cause => exact Task.ends_pure hquiet
    | ok load =>
      refine hsubmit habreast.hosts.manner hquiet ?_
      rw [rulesFor, if_pos hfamily]
      exact (hloaded load rfl).1
  · rw [if_neg hfamily]
    refine Task.ends_bind (Task.ends_pure (hsubmit hhost rfl ?_))
    rw [rulesFor, if_neg hfamily]

end Again

/-- A family that was not brought in line is owed, which concerns no other. -/
theorem apart_owe (family : RuleFamily) (s : Synchronizer) :
    Apart family s { s with ledger := s.ledger.owe family } := by
  refine .ofLedger rfl (fun other hne => ?_) fun _ => rfl
  simp [SyncLedger.owe, SyncLedger.settle, hne]

theorem isSession_eq_false {family : RuleFamily} (h : family ∈ families) :
    family.isSession = false := by
  revert h
  cases family <;> decide

/-- The part of a synchronization that comes before the families. -/
def syncRulesetsIfDue (current : Config) (previous : Option Config) (owed : Bool) :
    Task Synchronizer SyncReport :=
  if areRulesetsDue current previous owed then do
    match ← onHost (syncRulesets current) with
    | .ok delta => pure { rulesets := delta }
    | .error cause =>
      changeLedger fun ledger => { ledger with owedRulesets := true }
      pure (SyncReport.fail {} .rulesets cause)
  else pure {}

/-- A synchronization takes over all that was owed. -/
def cleared (s : Synchronizer) : Synchronizer :=
  { s with ledger := { s.ledger with owedRulesets := false, owedFamilies := [] } }

theorem sync_eq (current : Config) (previous : Option Config) (now : Nat) :
    sync current previous now = (do
      let owed ← Task.act fun s => (s.ledger, s.cleared)
      let report ← syncRulesetsIfDue current previous owed.owedRulesets
      families.foldlM (syncIfDue current previous now owed.owedFamilies) report) := by
  unfold sync syncRulesetsIfDue
  apply bind_congr
  intro owed
  change (if areRulesetsDue current previous owed.owedRulesets = true then _ else _) = _
  split
  · rw [bind_assoc]
    apply bind_congr
    intro result
    cases result with
    | ok delta => rfl
    | error cause => rfl
  · rfl

/-- The rule sets may be turned on and off, but nothing else is touched. -/
structure RulesKept (s s' : Synchronizer) : Prop where
  rules : SameRules s.host s'.host
  standIn : Fixes.ruleset ∈ s'.host.enabled.keys ↔ Fixes.ruleset ∈ s.host.enabled.keys
  trackers : s'.trackers = s.trackers
  fixes : s'.fixes = s.fixes
  trackerVersion : s'.ledger.trackerVersion = s.ledger.trackerVersion

theorem ends_syncRulesetsIfDue (current : Config) (previous : Option Config) (owed : Bool)
    (s : Synchronizer) :
    (syncRulesetsIfDue current previous owed).Ends s fun _ s' => RulesKept s s' := by
  unfold syncRulesetsIfDue
  split
  · refine Task.ends_bind (ends_onHost ((ends_syncRulesets current s.host).mono ?_))
    rintro result host ⟨hrules, hstandIn, -⟩
    cases result with
    | ok delta => exact Task.ends_pure ⟨hrules, hstandIn, rfl, rfl, rfl⟩
    | error cause =>
      exact Task.ends_bind (Task.ends_change (Task.ends_pure ⟨hrules, hstandIn, rfl, rfl, rfl⟩))
  · exact Task.ends_pure ⟨(Same.refl s.host).sameRules, .rfl, rfl, rfl, rfl⟩

theorem both_syncRulesetsIfDue {manner : RuleHost} (hmanner : Constant manner)
    {s s' : Synchronizer} (h : Abreast manner s s') {current : Config}
    {previous previous' : Option Config} {owed owed' : Bool}
    (hdue : areRulesetsDue current previous owed = areRulesetsDue current previous' owed') :
    (syncRulesetsIfDue current previous owed).Both (syncRulesetsIfDue current previous' owed') s s'
      fun _ next _ next' => Abreast manner next next' := by
  unfold syncRulesetsIfDue
  rw [hdue]
  split
  · have hsync : Uniform manner (syncRulesets current) := uniform_syncRulesets hmanner current
    refine Task.both_bind ((both_onHost hsync h).mono ?_)
    rintro result a result' a' ⟨rfl, ha⟩
    cases result with
    | ok delta => exact Task.both_pure ha
    | error cause =>
      exact Task.both_bind (Task.both_act (Task.both_pure ⟨ha.hosts, ha.trackers, ha.fixes⟩))
  · exact Task.both_pure h

/-- Everything of a configuration is on the host, in the form that the host gives it. -/
structure Established (manner : RuleHost) (config : Config) (now : Nat)
    (fixes : Except Failure Fixes.Load) (s : Synchronizer) : Prop where
  inManner : InManner manner s.host
  loaded : fixesOf s.fixes s.host.unsupportedRegexes = some fixes
  families : ∀ family ∈ families,
    Fixed manner family (rulesFor family config s.trackers now fixes) (s.host.rulesOf family)
  standIn : Fixes.ruleset ∈ s.host.enabled.keys ↔ fixes.isOk = false
  ships : s.host.Ships config
  trackerVersion : s.ledger.trackerVersion = some s.trackers.version
  owedRulesets : s.ledger.owedRulesets = false
  owedFamilies : s.ledger.owedFamilies = []

section Full

variable {manner : RuleHost} (hmanner : Constant manner) {s : Synchronizer}
  {fixes : Except Failure Fixes.Load}
include hmanner

/-- One family of a full synchronization. -/
theorem ends_syncIfDue_full (hhost : InManner manner s.host)
    (hfixes : fixesOf s.fixes s.host.unsupportedRegexes = some fixes) {family : RuleFamily}
    (hfamily : family ∈ families) (config : Config) (now : Nat) (owed : List RuleFamily)
    (report : SyncReport) :
    (syncIfDue config none now owed report family).Ends s fun report' s' =>
      InManner manner s'.host ∧ Apart family s s' ∧ (report'.failures = [] →
        report.failures = [] ∧ Fixed manner family (rulesFor family config s.trackers now fixes)
          (s'.host.rulesOf family)) := by
  have hdone := (ends_syncFamily hfixes family config now report).and
    (ends_syncFamily_fixed hmanner hhost hfixes (isSession_eq_false hfamily) config now report)
  have hdone := (both_syncFamily hmanner family config now report report (.refl hhost)).and_left hdone
  refine Task.ends_bind (Task.ends_read ?_)
  refine Task.ends_bind (Task.Ends.mono hdone ?_)
  rintro ⟨report', failure⟩ a ⟨result, a', -, ⟨hsubmitted, hfixed⟩, -, habreast⟩
  have hkept := habreast.hosts.manner
  cases failure with
  | none =>
    refine Task.ends_pure ⟨hkept, hsubmitted.apart, fun hnone => ⟨?_, hfixed rfl⟩⟩
    rw [← hsubmitted.failures]
    exact hnone
  | some cause =>
    refine Task.ends_bind (Task.ends_change (Task.ends_pure ⟨hkept, ?_, fun hnone => ?_⟩))
    · exact hsubmitted.apart.trans (apart_owe family a)
    · exact absurd hnone (List.append_ne_nil_of_right_ne_nil _ (List.cons_ne_nil _ _))

/-- What holds while a full synchronization that started from `s` goes through the families. -/
structure FullThrough (manner : RuleHost) (config : Config) (now : Nat)
    (fixes : Except Failure Fixes.Load) (s : Synchronizer) (through : List RuleFamily)
    (report : SyncReport) (s' : Synchronizer) : Prop where
  inManner : InManner manner s'.host
  trackers : s'.trackers = s.trackers
  loaded : fixesOf s'.fixes s'.host.unsupportedRegexes = some fixes
  families : report.failures = [] → ∀ family ∈ through,
    Fixed manner family (rulesFor family config s.trackers now fixes) (s'.host.rulesOf family)

/-- A full synchronization on a host of that manner keeps the manner, and without a failure each
family is in the form that the host gives it. -/
theorem ends_sync_full (hhost : InManner manner s.host)
    (hfixes : fixesOf s.fixes s.host.unsupportedRegexes = some fixes) (config : Config) (now : Nat) :
    (sync config none now).Ends s fun report s' =>
      FullThrough manner config now fixes s families report s' := by
  rw [sync_eq]
  refine Task.ends_bind (Task.ends_act ?_)
  dsimp only
  have hrulesets := (both_syncRulesetsIfDue hmanner (s := s.cleared) (.refl hhost) rfl).and_left
    (ends_syncRulesetsIfDue config none s.ledger.owedRulesets s.cleared)
  refine Task.ends_bind (Task.Ends.mono hrulesets ?_)
  rintro report a ⟨report', a', -, hkept, habreast⟩
  refine @Task.ends_foldlM _ _ _ _ families (FullThrough manner config now fixes s) report a ?_ ?_
  · exact
      { inManner := habreast.hosts.manner
        trackers := hkept.trackers
        loaded := by
          rw [hkept.fixes, hkept.rules.unsupported]
          exact hfixes
        families := fun _ _ => nofun }
  · intro before family after report b hsplit h
    have hmem : family ∈ families := by
      rw [hsplit]
      exact List.mem_append_right before List.mem_cons_self
    have hnew : family ∉ before := by
      have hnodup : families.Nodup := by decide
      rw [hsplit, List.nodup_append] at hnodup
      exact fun hmem => hnodup.2.2 family hmem family List.mem_cons_self rfl
    refine (ends_syncIfDue_full hmanner h.inManner h.loaded hmem config now _ report).mono ?_
    rintro report' c ⟨hin, hapart, hdone⟩
    refine
      { inManner := hin
        trackers := hapart.trackers.trans h.trackers
        loaded := by rw [hapart.fixes, hapart.unsupported, h.loaded]
        families := fun hnone other hother => ?_ }
    obtain ⟨hbefore, hfixed⟩ := hdone hnone
    rcases List.mem_append.1 hother with hother | hother
    · rw [hapart.rules other fun heq => hnew (heq ▸ hother)]
      exact h.families hbefore other hother
    · obtain rfl := List.mem_singleton.1 hother
      rw [← h.trackers]
      exact hfixed

/-- After a full synchronization without a failure everything of the configuration is on the host. -/
theorem ends_sync_established (hhost : InManner manner s.host) (config : Config) (now : Nat) :
    ∃ fixes, (sync config none now).Ends s fun report s' =>
      report.failures = [] → Established manner config now fixes s' := by
  obtain ⟨fixes, -, -, hfixes, -⟩ := ends_loadFixes s.fixes s.host
  refine ⟨fixes, ((ends_sync hfixes config none now).and
    (ends_sync_full hmanner hhost hfixes config now)).mono ?_⟩
  rintro report s' ⟨hsynced, hfull⟩ hnone
  have hpending := hasPending_of_failures_eq_nil hsynced hnone
  rw [SyncLedger.hasPending, Bool.or_eq_false_iff] at hpending
  have hunfailed : ∀ step cause, ⟨step, cause⟩ ∉ report.failures := by
    rw [hnone]
    exact fun _ _ => List.not_mem_nil
  have hdelivered : ∀ family ∈ families, Delivered family config now fixes s report s' := by
    intro family hfamily
    cases hsynced.families family hfamily with
    | skipped hdue _ => exact absurd hdue (by simp [isDue])
    | delivered h => exact h
    | failed h =>
      obtain ⟨cause, hmem⟩ := h.reported
      exact absurd hmem (hunfailed _ cause)
  obtain ⟨found, -, hfixesLine⟩ := (hdelivered .fixes (by decide)).reported
  exact
    { inManner := hfull.inManner
      loaded := hfull.loaded
      families := by
        rw [hsynced.trackers]
        exact hfull.families hnone
      standIn := hfixesLine.standIn rfl
      ships := by
        cases hsynced.rulesets with
        | skipped hdue _ _ => exact absurd hdue (by simp [areRulesetsDue])
        | shipped hships _ => exact hships
        | failed _ hreported =>
          obtain ⟨cause, hmem⟩ := hreported
          exact absurd hmem (hunfailed _ cause)
      trackerVersion := by
        rw [hsynced.trackers]
        exact (hdelivered .exceptions (by decide)).trackerVersion rfl
      owedRulesets := hpending.1
      owedFamilies := by simpa using hpending.2 }

end Full

/-- How far a synchronization against the configuration before and a full one are in line, with these
families to go: the host of the full one has what it is to have of the families that did not change. -/
structure Level (manner : RuleHost) (previous current : Config) (later : Nat)
    (fixes : Except Failure Fixes.Load) (rest : List RuleFamily) (s s' : Synchronizer) : Prop where
  abreast : Abreast manner s s'
  loaded : fixesOf s'.fixes s'.host.unsupportedRegexes = some fixes
  families : ∀ family ∈ rest, isAffected family current previous = false →
    Fixed manner family (rulesFor family current s'.trackers later fixes) (s'.host.rulesOf family)
  standIn : .fixes ∈ rest → isAffected .fixes current previous = false →
    (Fixes.ruleset ∈ s'.host.enabled.keys ↔ fixes.isOk = false)
  trackerVersion : .exceptions ∈ rest → s.ledger.trackerVersion = some s.trackers.version

section TwoRuns

variable {manner : RuleHost} {previous current : Config} {later : Nat}
  {fixes : Except Failure Fixes.Load} {family : RuleFamily} {rest : List RuleFamily}
  {s s' a a' : Synchronizer}

theorem Level.next (h : Level manner previous current later fixes (family :: rest) s s')
    (hnew : family ∉ rest) (habreast : Abreast manner a a') (hapart : Apart family s a)
    (hapart' : Apart family s' a') : Level manner previous current later fixes rest a a' where
  abreast := habreast
  loaded := by rw [hapart'.fixes, hapart'.unsupported, h.loaded]
  families other hother haffected := by
    rw [hapart'.trackers, hapart'.rules other fun heq => hnew (heq ▸ hother)]
    exact h.families other (List.mem_cons_of_mem family hother) haffected
  standIn hother haffected := by
    rw [hapart'.standIn fun heq => hnew (heq ▸ hother)]
    exact h.standIn (List.mem_cons_of_mem family hother) haffected
  trackerVersion hother := by
    rw [hapart.trackerVersion fun heq => hnew (heq ▸ hother), hapart.trackers]
    exact h.trackerVersion (List.mem_cons_of_mem family hother)

/-- A family that did not change is left alone by the one and not changed by the other; every other is
submitted by both. -/
theorem both_syncIfDue (hmanner : Constant manner)
    (h : Level manner previous current later fixes (family :: rest) s s') (hnew : family ∉ rest)
    (report report' : SyncReport) :
    (syncIfDue current (some previous) later [] report family).Both
      (syncIfDue current none later [] report' family) s s' fun _ next _ next' =>
        Level manner previous current later fixes rest next next' := by
  have hloaded : fixesOf s.fixes s.host.unsupportedRegexes = some fixes := by
    obtain ⟨log, calls, hhost⟩ := exists_record h.abreast.hosts.quiet
    rw [← h.loaded, h.abreast.fixes, hhost]
  have hfull := ends_syncFamily h.loaded family current later report'
  refine Task.both_bind (Task.both_act ?_)
  dsimp only
  change Task.Both (if isDue family current (some previous) [] s = true then _ else _)
    (if isDue family current none [] s' = true then _ else _) s s' _
  rw [if_pos (show isDue family current none [] s' = true from rfl)]
  cases haffected : isAffected family current previous with
  | true =>
    have hdue : isDue family current (some previous) [] s = true := by simp [isDue, haffected]
    rw [if_pos hdue]
    have hboth := (both_syncFamily hmanner family current later report report' h.abreast).and_left
      (ends_syncFamily hloaded family current later report)
    refine Task.both_bind ((hboth.and_right hfull).mono ?_)
    rintro ⟨found, failure⟩ b ⟨found', failure'⟩ b' ⟨hsubmitted', hsubmitted, hsame, habreast⟩
    obtain rfl : failure = failure' := hsame
    cases failure with
    | none => exact Task.both_pure (h.next hnew habreast hsubmitted.apart hsubmitted'.apart)
    | some cause =>
      refine Task.both_bind (Task.both_act (Task.both_pure ?_))
      exact h.next hnew ⟨habreast.hosts, habreast.trackers, habreast.fixes⟩
        (hsubmitted.apart.trans (apart_owe family b)) (hsubmitted'.apart.trans (apart_owe family b'))
  | false =>
    have hdue : ¬isDue family current (some previous) [] s = true := by
      have hmoved : (family == .exceptions && s.trackersMoved) = false := by
        cases hexceptions : family == .exceptions with
        | false => rfl
        | true =>
          have hversion := h.trackerVersion (beq_iff_eq.1 hexceptions ▸ List.mem_cons_self)
          simp [trackersMoved, hversion]
      simp [isDue, haffected, hmoved]
    rw [if_neg hdue]
    have hagain := ends_syncFamily_again hmanner h.abreast.hosts.symm.manner h.loaded
      (h.families family List.mem_cons_self haffected)
      (fun heq => h.standIn (heq ▸ List.mem_cons_self) (heq ▸ haffected)) report'
    refine Task.ends_pure (Task.ends_bind ((hfull.and hagain).mono ?_))
    rintro ⟨found, failure⟩ b ⟨hsubmitted, hquiet⟩
    have habreast : Abreast manner s b :=
      ⟨⟨h.abreast.hosts.manner, hquiet.trans h.abreast.hosts.quiet⟩,
        hsubmitted.apart.trackers.trans h.abreast.trackers,
        hsubmitted.apart.fixes.trans h.abreast.fixes⟩
    cases failure with
    | none => exact Task.ends_pure (h.next hnew habreast (.refl family s) hsubmitted.apart)
    | some cause =>
      refine Task.ends_bind (Task.ends_change (Task.ends_pure ?_))
      exact h.next hnew ⟨habreast.hosts, habreast.trackers, habreast.fixes⟩ (.refl family s)
        (hsubmitted.apart.trans (apart_owe family b))

/-- The induction is on the families to go, which both go through in the same order. -/
theorem both_families (hmanner : Constant manner) (hrest : rest.Nodup)
    (h : Level manner previous current later fixes rest s s') (report report' : SyncReport) :
    (rest.foldlM (syncIfDue current (some previous) later []) report).Both
      (rest.foldlM (syncIfDue current none later []) report') s s' fun _ next _ next' =>
        Abreast manner next next' := by
  induction rest generalizing s s' report report' with
  | nil => exact Task.both_pure h.abreast
  | cons family rest ih =>
    obtain ⟨hnew, hrest⟩ := List.nodup_cons.1 hrest
    rw [List.foldlM_cons, List.foldlM_cons]
    refine Task.both_bind ((both_syncIfDue hmanner h hnew report report').mono ?_)
    intro found a found' a' hnext
    exact ih hrest hnext found found'

/-- With a configuration on the host, the next one comes to the same rules and rule sets whether it is
synchronized against that one or in full. -/
theorem both_sync (hmanner : Constant manner) {now : Nat}
    (h : Established manner previous now fixes s)
    (hclock : ∀ host entry, (host, entry) ∈ previous.paused.entries →
      entry.isActive now = entry.isActive later) :
    (sync current (some previous) later).Both (sync current none later) s s
      fun _ next _ next' => Abreast manner next next' := by
  have hlevel {a a' : Synchronizer} (habreast : Abreast manner a a') (hkept : RulesKept s.cleared a)
      (hkept' : RulesKept s.cleared a') :
      Level manner previous current later fixes families a a' := by
    refine
      { abreast := habreast
        loaded := by
          rw [hkept'.fixes, hkept'.rules.unsupported]
          exact h.loaded
        families := fun family hfamily haffected => ?_
        standIn := fun _ _ => hkept'.standIn.trans h.standIn
        trackerVersion := fun _ => by
          rw [hkept.trackerVersion, hkept.trackers]
          exact h.trackerVersion }
    have hrules : rulesFor family current a'.trackers later fixes =
        rulesFor family previous s.trackers now fixes := by
      rw [rulesFor, rulesFor, configuredRules_congr hclock haffected fun _ => hkept'.trackers.symm]
      rfl
    rw [hrules, hkept'.rules.rulesOf]
    exact h.families family hfamily
  have hclear : Abreast manner s.cleared s.cleared := .refl h.inManner
  have hkept := ends_syncRulesetsIfDue current (some previous) false s.cleared
  have hkept' := ends_syncRulesetsIfDue current none false s.cleared
  have hrulesets : (syncRulesetsIfDue current (some previous) false).Both
      (syncRulesetsIfDue current none false) s.cleared s.cleared fun _ next _ next' =>
        Abreast manner next next' := by
    by_cases hsame : ListName.enabled previous = ListName.enabled current
    · -- the full synchronization finds the rule sets as they are to be
      have hdue : ¬areRulesetsDue current (some previous) false = true := by
        simp [areRulesetsDue, hsame]
      have hships : s.cleared.host.Ships current := by
        intro id hid
        rw [← hsame]
        exact h.ships id hid
      unfold syncRulesetsIfDue
      rw [if_neg hdue, if_pos (show areRulesetsDue current none false = true from rfl)]
      have hagain := (ends_syncRulesets_again hships).and
        (Uniform.ends (uniform_syncRulesets hmanner current) h.inManner)
      refine Task.ends_pure (Task.ends_bind (ends_onHost (hagain.mono ?_)))
      rintro result host ⟨hhost, hin⟩
      have hquiet := quiet_eq hhost.toSameShelf hhost.rules h.inManner hin
      cases result with
      | ok delta => exact Task.ends_pure ⟨⟨h.inManner, hquiet⟩, rfl, rfl⟩
      | error cause =>
        exact Task.ends_bind (Task.ends_change (Task.ends_pure ⟨⟨h.inManner, hquiet⟩, rfl, rfl⟩))
    · apply both_syncRulesetsIfDue hmanner hclear
      simp [areRulesetsDue, hsame]
  rw [sync_eq, sync_eq]
  refine Task.both_bind (Task.both_act ?_)
  dsimp only
  rw [h.owedRulesets, h.owedFamilies]
  refine Task.both_bind (((hrulesets.and_left hkept).and_right hkept').mono ?_)
  rintro report a report' a' ⟨hkept', hkept, habreast⟩
  exact both_families hmanner (by decide) (hlevel habreast hkept hkept') report report'

/-- Where nothing of the configuration changed that a family or the rule sets are made from, nothing is
asked of the host. -/
theorem ends_sync_unchanged {now : Nat} (h : Established manner previous now fixes s)
    (hfamilies : ∀ family ∈ families, isAffected family current previous = false)
    (henabled : ListName.enabled current = ListName.enabled previous) :
    (sync current (some previous) later).Ends s fun report s' => report = {} ∧ s'.host = s.host := by
  rw [sync_eq]
  refine Task.ends_bind (Task.ends_act ?_)
  dsimp only
  rw [h.owedRulesets, h.owedFamilies]
  have hrulesets : ¬areRulesetsDue current (some previous) false = true := by
    simp [areRulesetsDue, henabled]
  unfold syncRulesetsIfDue
  rw [if_neg hrulesets]
  refine Task.ends_bind (Task.ends_pure ?_)
  have hfold := @Task.ends_foldlM _ _ _ (syncIfDue current (some previous) later []) families
    (fun _ report a => report = {} ∧ a = s.cleared) {} s.cleared ⟨rfl, rfl⟩ ?_
  · exact hfold.mono fun report a ha => ⟨ha.1, by rw [ha.2]; rfl⟩
  · rintro before family after report a hsplit ⟨rfl, rfl⟩
    have hmem : family ∈ families := by
      rw [hsplit]
      exact List.mem_append_right before List.mem_cons_self
    have hmoved : s.cleared.trackersMoved = false := by
      rw [trackersMoved, bne_eq_false_iff_eq]
      exact h.trackerVersion
    refine Task.ends_bind (Task.ends_read ?_)
    have hdue : ¬isDue family current (some previous) [] s.cleared = true := by
      simp [isDue, hfamilies family hmem, hmoved]
    change Task.Ends (if isDue family current (some previous) [] s.cleared = true then _ else _) _ _
    rw [if_neg hdue]
    exact Task.ends_pure ⟨rfl, rfl⟩

end TwoRuns

/-- After a full synchronization without a failure, the next configuration comes to the same dynamic
rules and enabled rule sets whether it is synchronized against the first one or in full. Where no part
of the configuration changed that matters, nothing at all is asked of the host. -/
theorem sync_against_previous_eq_full {s₀ s : Synchronizer} {report : SyncReport}
    {previous : Config} {now : Nat} (current : Config) (later : Nat)
    (hconstant : s₀.host.Constant) (hordered : RuleTable.Ordered s₀.host.dynamic)
    (hrun : (sync previous none now).run? s₀ = (some report, s)) (hsuccess : report.failures = [])
    (hclock : ∀ host entry, (host, entry) ∈ previous.paused.entries →
      entry.isActive now = entry.isActive later) :
    ∃ report₁ s₁ report₂ s₂,
      (sync current (some previous) later).run? s = (some report₁, s₁) ∧
      (sync current none later).run? s = (some report₂, s₂) ∧
      s₁.host.dynamic = s₂.host.dynamic ∧ s₁.host.enabled = s₂.host.enabled ∧
      ((∀ family ∈ families, isAffected family current previous = false) →
        ListName.enabled current = ListName.enabled previous →
        report₁ = {} ∧ s₁.host = s.host) := by
  have hhost : InManner s₀.host s₀.host := ⟨rfl, rfl, rfl, hordered⟩
  obtain ⟨fixes, hfull⟩ := ends_sync_established hconstant hhost previous now
  have hestablished := hfull.of_run? hrun hsuccess
  obtain ⟨report₁, s₁, hrun₁, report₂, s₂, hrun₂, habreast⟩ :=
    @both_sync s₀.host previous current later fixes s hconstant now hestablished hclock
  obtain ⟨log, calls, hsame⟩ := exists_record habreast.hosts.quiet
  refine ⟨report₁, s₁, report₂, s₂, hrun₁, hrun₂, by rw [hsame], by rw [hsame], ?_⟩
  intro hfamilies henabled
  exact (ends_sync_unchanged hestablished hfamilies henabled).of_run? hrun₁

/-- A host that ships the ads and refuses one pattern. -/
def pickyStart : Synchronizer where
  host := { available := [ListName.ads], rejectedUrlFilters := ["||ads.example^"] }
  trackers := {}
  fixes := none

/-- A page is paused for a while, and one of the user's two filters is refused. -/
def pausedConfig : Config where
  customFilters := { enabled := true, text := "||ads.example^\n||news.example^" }
  paused := KeyMap.empty.insert "example.com" ⟨some 2000⟩

theorem sync_against_previous_eq_full_paused :
    pickyStart.host.Constant ∧ RuleTable.Ordered pickyStart.host.dynamic ∧
    (∀ host entry, (host, entry) ∈ pausedConfig.paused.entries →
      entry.isActive 1000 = entry.isActive 1500) ∧
    ∃ report s, (sync pausedConfig none 1000).run? pickyStart = (some report, s) ∧
      report.failures = [] ∧
      ∃ report₁ s₁ report₂ s₂,
        (sync { pausedConfig with blockAds := false } (some pausedConfig) 1500).run? s =
          (some report₁, s₁) ∧
        (sync { pausedConfig with blockAds := false } none 1500).run? s = (some report₂, s₂) ∧
        s₁.host.dynamic = s₂.host.dynamic ∧ s₁.host.enabled = s₂.host.enabled := by
  have hconstant : pickyStart.host.Constant := ⟨fun _ _ => rfl, fun _ _ _ => rfl, rfl⟩
  have hordered : RuleTable.Ordered pickyStart.host.dynamic := List.Pairwise.nil
  have hclock : ∀ host entry, (host, entry) ∈ pausedConfig.paused.entries →
      entry.isActive 1000 = entry.isActive 1500 := by
    intro host entry hmem
    have hentry : (host, entry) = ("example.com", ⟨some 2000⟩) := List.mem_singleton.1 hmem
    rw [Prod.mk.injEq] at hentry
    rw [hentry.2]
    rfl
  have hnone : ((sync pausedConfig none 1000).run? pickyStart).1.map (·.failures) = some [] := by
    decide +kernel
  rcases hrun : (sync pausedConfig none 1000).run? pickyStart with ⟨_ | report, s⟩
  · rw [hrun] at hnone
    cases hnone
  · rw [hrun] at hnone
    have hsuccess : report.failures = [] := Option.some.inj hnone
    obtain ⟨report₁, s₁, report₂, s₂, hrun₁, hrun₂, hdynamic, henabled, -⟩ :=
      sync_against_previous_eq_full { pausedConfig with blockAds := false } 1500 hconstant hordered
        hrun hsuccess hclock
    exact ⟨hconstant, hordered, hclock, report, s, rfl, hsuccess, report₁, s₁, report₂, s₂, hrun₁,
      hrun₂, hdynamic, henabled⟩

end Synchronizer

end ContentFilter
