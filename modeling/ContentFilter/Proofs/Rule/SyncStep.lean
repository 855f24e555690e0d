import ContentFilter.Proofs.Rule.SyncHost

/-! The steps of a synchronization: each brings one family or the shipped rule sets in line or owes it,
and leaves the rest of the host and of the ledger alone. -/

namespace ContentFilter

namespace Synchronizer

open RuleHost

/-- The rules of loaded fixes; when they could not be had there are none. -/
def fixesRules : Except Failure Fixes.Load → List Rule
  | .ok load => load.rules
  | .error _ => []

/-- The rules that a family is to have. -/
def rulesFor (family : RuleFamily) (config : Config) (trackers : TrackerDb) (now : Nat)
    (fixes : Except Failure Fixes.Load) : List Rule :=
  if family = .fixes then fixesRules fixes else configuredRules family config trackers now

/-- A family whose part of the configuration did not change is to have the rules it had. -/
theorem configuredRules_congr {family : RuleFamily} {a b : Config} {trackers trackers' : TrackerDb}
    {now later : Nat}
    (hclock : ∀ host entry, (host, entry) ∈ a.paused.entries →
      entry.isActive now = entry.isActive later)
    (hsame : isAffected family b a = false)
    (htrackers : family = .exceptions → trackers = trackers') :
    configuredRules family b trackers' later = configuredRules family a trackers now := by
  cases family with
  | pause =>
    have hpaused : b.paused = a.paused := by simpa [isAffected] using hsame
    have hactive : a.paused.entries.filter (fun entry => entry.2.isActive later) =
        a.paused.entries.filter (fun entry => entry.2.isActive now) :=
      List.filter_congr fun entry hmem => (hclock _ _ hmem).symm
    rw [configuredRules, configuredRules, Pause.rules, Pause.rules, hpaused, hactive]
  | trustedDomains =>
    have hdomains : b.managed.trustedDomains = a.managed.trustedDomains := by
      simpa [isAffected] using hsame
    rw [configuredRules, configuredRules, Trust.rules, Trust.rules, hdomains]
  | redirectProtection =>
    have hprotection : b.redirectProtection = a.redirectProtection := by
      simpa [isAffected] using hsame
    rw [configuredRules, configuredRules, hprotection]
  | safeMode =>
    have hmode : b.safeMode = a.safeMode := by simpa [isAffected] using hsame
    rw [configuredRules, configuredRules, hmode]
  | exceptions =>
    have hexceptions : b.exceptions = a.exceptions := by
      simpa [isAffected] using hsame
    rw [configuredRules, configuredRules, Exceptions.rules, Exceptions.rules, Exceptions.filters,
      Exceptions.filters, hexceptions, htrackers rfl]
  | customFilters =>
    have hfilters : b.customFilters = a.customFilters ∧
        b.managed.customFilters = a.managed.customFilters := by
      simpa [isAffected] using hsame
    rw [configuredRules, configuredRules, CustomFilters.rulesOf, CustomFilters.rulesOf,
      Config.effectiveCustomFilters, Config.effectiveCustomFilters, hfilters.1, hfilters.2]
  | fixes => rfl
  | redirectAllowOnce => rfl

/-- The host has the rules that a family is to have, less the rejected ones, and the shipped fixes
stand in when there are no others. -/
structure InLine (host : RuleHost) (family : RuleFamily) (config : Config) (trackers : TrackerDb)
    (now : Nat) (fixes : Except Failure Fixes.Load) (rejected : List RejectedRule) : Prop where
  rules : host.Holds family (rulesFor family config trackers now fixes) rejected
  standIn : family = .fixes → (Fixes.ruleset ∈ host.enabled.keys ↔ fixes.isOk = false)

/-- Everything but one family is as before, on the host as in the ledger. -/
structure Apart (family : RuleFamily) (s s' : Synchronizer) : Prop where
  trackers : s'.trackers = s.trackers
  fixes : s'.fixes = s.fixes
  available : s'.host.available = s.host.available
  unsupported : s'.host.unsupportedRegexes = s.host.unsupportedRegexes
  rules : ∀ other ≠ family, s'.host.rulesOf other = s.host.rulesOf other
  rulesets : ∀ id ≠ Fixes.ruleset, id ∈ s'.host.enabled.keys ↔ id ∈ s.host.enabled.keys
  standIn : family ≠ .fixes →
    (Fixes.ruleset ∈ s'.host.enabled.keys ↔ Fixes.ruleset ∈ s.host.enabled.keys)
  owedRulesets : s'.ledger.owedRulesets = s.ledger.owedRulesets
  owed : ∀ other ≠ family, other ∈ s'.ledger.owedFamilies ↔ other ∈ s.ledger.owedFamilies
  trackerVersion : family ≠ .exceptions → s'.ledger.trackerVersion = s.ledger.trackerVersion

theorem Apart.refl (family : RuleFamily) (s : Synchronizer) : Apart family s s where
  trackers := rfl
  fixes := rfl
  available := rfl
  unsupported := rfl
  rules _ _ := rfl
  rulesets _ _ := .rfl
  standIn _ := .rfl
  owedRulesets := rfl
  owed _ _ := .rfl
  trackerVersion _ := rfl

theorem Apart.trans {family : RuleFamily} {a b c : Synchronizer} (hab : Apart family a b)
    (hbc : Apart family b c) : Apart family a c where
  trackers := hbc.trackers.trans hab.trackers
  fixes := hbc.fixes.trans hab.fixes
  available := hbc.available.trans hab.available
  unsupported := hbc.unsupported.trans hab.unsupported
  rules other hne := (hbc.rules other hne).trans (hab.rules other hne)
  rulesets id hid := (hbc.rulesets id hid).trans (hab.rulesets id hid)
  standIn hne := (hbc.standIn hne).trans (hab.standIn hne)
  owedRulesets := hbc.owedRulesets.trans hab.owedRulesets
  owed other hne := (hbc.owed other hne).trans (hab.owed other hne)
  trackerVersion hne := (hbc.trackerVersion hne).trans (hab.trackerVersion hne)

/-- A change of the ledger that concerns one family. -/
theorem Apart.ofLedger {family : RuleFamily} {s : Synchronizer} {ledger : SyncLedger}
    (howedRulesets : ledger.owedRulesets = s.ledger.owedRulesets)
    (howed : ∀ other ≠ family, other ∈ ledger.owedFamilies ↔ other ∈ s.ledger.owedFamilies)
    (hversion : family ≠ .exceptions → ledger.trackerVersion = s.ledger.trackerVersion) :
    Apart family s { s with ledger := ledger } where
  trackers := rfl
  fixes := rfl
  available := rfl
  unsupported := rfl
  rules _ _ := rfl
  rulesets _ _ := .rfl
  standIn _ := .rfl
  owedRulesets := howedRulesets
  owed := howed
  trackerVersion := hversion

/-- What is done on the host leaves the rest of the synchronizer alone. -/
theorem ends_onHost {α : Type} {task : Task RuleHost α} {s : Synchronizer}
    {post : α → Synchronizer → Prop}
    (h : task.Ends s.host fun a host => post a { s with host := host }) :
    (onHost task).Ends s post := by
  exact @Task.ends_within _ _ _ (fun s : Synchronizer => s.host) (fun host s => { s with host })
    (fun _ _ => rfl) (fun _ _ _ => rfl) task s rfl post h

/-- The rules of a family are what they were, and the shipped fixes were not turned off unless others
were loaded. -/
structure Kept (family : RuleFamily) (fixes : Except Failure Fixes.Load) (s s' : Synchronizer) :
    Prop where
  rules : s'.host.rulesOf family = s.host.rulesOf family
  standIn : family = .fixes → Fixes.ruleset ∈ s.host.enabled.keys →
    Fixes.ruleset ∈ s'.host.enabled.keys ∨ fixes.isOk = true

theorem Kept.of_host {family : RuleFamily} {fixes : Except Failure Fixes.Load} {s s' : Synchronizer}
    (hrules : s'.host.rulesOf family = s.host.rulesOf family)
    (henabled : s'.host.enabled = s.host.enabled) : Kept family fixes s s' where
  rules := hrules
  standIn _ hon := .inl (henabled ▸ hon)

theorem Kept.trans {family : RuleFamily} {fixes : Except Failure Fixes.Load} {a b c : Synchronizer}
    (hab : Kept family fixes a b) (hbc : Kept family fixes b c) : Kept family fixes a c where
  rules := hbc.rules.trans hab.rules
  standIn hfixes hon := by
    rcases hab.standIn hfixes hon with hon | hok
    · exact hbc.standIn hfixes hon
    · exact .inr hok

/-- The fixes are loaded and the shipped ones turned on or off to match, or the step fails. -/
theorem ends_latestFixes {s : Synchronizer} {fixes : Except Failure Fixes.Load}
    (hfixes : fixesOf s.fixes s.host.unsupportedRegexes = some fixes) :
    (latestFixes s.fixes).Ends s fun result s' =>
      Apart .fixes s s' ∧ s'.ledger.owedFamilies = s.ledger.owedFamilies ∧ Kept .fixes fixes s s' ∧
      ∀ load, result = .ok load → load.rules = fixesRules fixes ∧
        (Fixes.ruleset ∈ s'.host.enabled.keys ↔ fixes.isOk = false) := by
  refine Task.ends_bind (ends_onHost ((ends_loadFixes s.fixes s.host).mono fun loaded a ha => ?_))
  obtain ⟨hloaded, hsame⟩ := ha
  obtain rfl : fixes = loaded := Option.some.inj (hfixes.symm.trans hloaded)
  refine Task.ends_bind (ends_onHost ((ends_setStandIn _ a).mono fun result b hb => ?_))
  obtain ⟨hrules, hrulesets, hfailed, hstandIn⟩ := hb
  have hrules := hsame.sameRules.trans hrules
  have hapart : Apart .fixes s { s with host := b } :=
    { trackers := rfl
      fixes := rfl
      available := hrules.available
      unsupported := hrules.unsupported
      rules := fun other _ => hrules.rulesOf other
      rulesets := fun id hid => by rw [hrulesets id hid, hsame.enabled]
      standIn := fun hne => absurd rfl hne
      owedRulesets := rfl
      owed := fun _ _ => .rfl
      trackerVersion := fun _ => rfl }
  have hsameRules : b.rulesOf .fixes = s.host.rulesOf .fixes := hrules.rulesOf .fixes
  cases result with
  | error cause =>
    have hkept : Kept .fixes fixes s { s with host := b } :=
      .of_host hsameRules ((hfailed cause rfl).trans hsame.enabled)
    exact Task.ends_pure ⟨hapart, rfl, hkept, nofun⟩
  | ok _ =>
    have hstandIn : Fixes.ruleset ∈ b.enabled.keys ↔ fixes.isOk = false := by
      rw [hstandIn rfl, Bool.not_eq_true']
    have hmatch : Fixes.ruleset ∈ b.enabled.keys ∨ fixes.isOk = true := by
      rw [hstandIn, ← Bool.not_eq_true]
      exact (Decidable.em _).symm
    cases fixes with
    | ok load =>
      refine Task.ends_bind (Task.ends_change (Task.ends_pure ?_))
      refine ⟨hapart.trans (.ofLedger rfl (fun _ _ => .rfl) fun _ => rfl), rfl,
        ⟨hsameRules, fun _ _ => hmatch⟩, fun found hfound => ?_⟩
      cases hfound
      exact ⟨rfl, hstandIn⟩
    | error cause =>
      refine Task.ends_bind (Task.ends_change (Task.ends_pure ?_))
      refine ⟨hapart.trans (.ofLedger rfl (fun _ _ => .rfl) fun _ => rfl), rfl,
        ⟨hsameRules, fun _ _ => hmatch⟩, fun found hfound => ?_⟩
      cases hfound
      exact ⟨rfl, hstandIn⟩

/-- A family is replaced on the host, or nothing changes. -/
theorem ends_onHost_replace (family : RuleFamily) (rules : List Rule) (s : Synchronizer) :
    (onHost (RuleHost.replace family rules)).Ends s fun result s' =>
      Apart family s s' ∧ s'.ledger = s.ledger ∧ s'.host.enabled = s.host.enabled ∧
      match result with
      | .ok report => report.family = family ∧ s'.host.Holds family rules report.rejected
      | .error _ => s'.host.rulesOf family = s.host.rulesOf family := by
  refine ends_onHost ((ends_replace family rules s.host).mono fun result host hresult => ?_)
  obtain ⟨hshelf, hothers, hresult⟩ := hresult
  have hapart : Apart family s { s with host := host } :=
    { trackers := rfl
      fixes := rfl
      available := hshelf.available
      unsupported := hshelf.unsupported
      rules := hothers
      rulesets := fun id _ => by rw [hshelf.enabled]
      standIn := fun _ => by rw [hshelf.enabled]
      owedRulesets := rfl
      owed := fun _ _ => .rfl
      trackerVersion := fun _ => rfl }
  exact ⟨hapart, rfl, hshelf.enabled, hresult⟩

/-- A report with what is noted of a family before its rules are submitted. -/
def note (family : RuleFamily) (config : Config) (load : Fixes.Load) (report : SyncReport) : SyncReport :=
  match family with
  | .customFilters => { report with conversionErrors := (CustomFilters.rulesOf config).2 }
  | .fixes => { report with fixesDropped := load.dropped }
  | _ => report

@[simp]
theorem note_families (family : RuleFamily) (config : Config) (load : Fixes.Load)
    (report : SyncReport) : (note family config load report).families = report.families := by
  cases family <;> rfl

@[simp]
theorem note_failures (family : RuleFamily) (config : Config) (load : Fixes.Load)
    (report : SyncReport) : (note family config load report).failures = report.failures := by
  cases family <;> rfl

/-- The part of a family's step that comes after its rules are known. -/
def submitLoaded (family : RuleFamily) (config : Config) (trackers : TrackerDb) (report : SyncReport) :
    Except Failure Fixes.Load → Task Synchronizer (SyncReport × Option Failure)
  | .error cause => pure (report, some cause)
  | .ok load => do
    let report := note family config load report
    match ← onHost (RuleHost.replace family load.rules) with
    | .error cause => pure (report, some cause)
    | .ok replaced =>
      if family == .exceptions then
        changeLedger fun ledger => { ledger with trackerVersion := some trackers.version }
      pure ({ report with families := report.families ++ [replaced] }, none)

theorem syncFamily_eq (family : RuleFamily) (config : Config) (now : Nat) (report : SyncReport) :
    syncFamily family config now report = (do
      let trackers ← Task.read (·.trackers)
      let source ← Task.read (·.fixes)
      let loaded ←
        if family = .fixes then latestFixes source
        else pure (.ok { rules := configuredRules family config trackers now })
      submitLoaded family config trackers report loaded) := by
  cases family <;> rfl

/-- What became of a family's step: it is in line and reported, and the exceptions remember the
trackers that they were made from; or the step failed and reports no family. -/
structure Submitted (family : RuleFamily) (current : Config) (now : Nat)
    (fixes : Except Failure Fixes.Load) (report : SyncReport) (s : Synchronizer)
    (result : SyncReport × Option Failure) (s' : Synchronizer) : Prop where
  apart : Apart family s s'
  owed : s'.ledger.owedFamilies = s.ledger.owedFamilies
  failures : result.1.failures = report.failures
  outcome : match result.2 with
    | none => ∃ found, result.1.families = report.families ++ [found] ∧ found.family = family ∧
      InLine s'.host family current s.trackers now fixes found.rejected ∧
      (family = .exceptions → s'.ledger.trackerVersion = some s.trackers.version)
    | some _ => result.1.families = report.families ∧ Kept family fixes s s'

theorem ends_submitLoaded (family : RuleFamily) (current : Config) (now : Nat)
    {fixes : Except Failure Fixes.Load} (report : SyncReport)
    {loaded : Except Failure Fixes.Load} {s : Synchronizer}
    (hloaded : ∀ load, loaded = .ok load →
      load.rules = rulesFor family current s.trackers now fixes ∧
      (family = .fixes → (Fixes.ruleset ∈ s.host.enabled.keys ↔ fixes.isOk = false))) :
    (submitLoaded family current s.trackers report loaded).Ends s
      (Submitted family current now fixes report s) := by
  cases loaded with
  | error cause => exact Task.ends_pure ⟨.refl family s, rfl, rfl, rfl, .of_host rfl rfl⟩
  | ok load =>
    obtain ⟨hrules, hstandIn⟩ := hloaded load rfl
    unfold submitLoaded
    dsimp only
    have hfamilies := note_families family current load report
    have hfailures := note_failures family current load report
    generalize note family current load report = noted at hfamilies hfailures ⊢
    refine Task.ends_bind ((ends_onHost_replace family load.rules s).mono fun result a ha => ?_)
    obtain ⟨hapart, hledger, henabled, hresult⟩ := ha
    have howed : a.ledger.owedFamilies = s.ledger.owedFamilies := by rw [hledger]
    cases result with
    | error cause =>
      exact Task.ends_pure ⟨hapart, howed, hfailures, hfamilies, .of_host hresult henabled⟩
    | ok replaced =>
      obtain ⟨hfamily, hholds⟩ := hresult
      rw [hrules] at hholds
      have hline : InLine a.host family current s.trackers now fixes replaced.rejected :=
        ⟨hholds, fun h => by rw [henabled, hstandIn h]⟩
      have hreported : noted.families ++ [replaced] = report.families ++ [replaced] := by
        rw [hfamilies]
      by_cases hexceptions : family = .exceptions
      · subst hexceptions
        refine Task.ends_bind (Task.ends_change (Task.ends_pure ?_))
        exact ⟨hapart.trans (.ofLedger rfl (fun _ _ => .rfl) fun h => absurd rfl h), howed, hfailures,
          replaced, hreported, hfamily, hline, fun _ => rfl⟩
      · dsimp only
        rw [if_neg (by simpa using hexceptions)]
        exact Task.ends_pure ⟨hapart, howed, hfailures, replaced, hreported, hfamily, hline,
          fun h => absurd h hexceptions⟩

theorem ends_syncFamily {s : Synchronizer} {fixes : Except Failure Fixes.Load}
    (hfixes : fixesOf s.fixes s.host.unsupportedRegexes = some fixes) (family : RuleFamily)
    (current : Config) (now : Nat) (report : SyncReport) :
    (syncFamily family current now report).Ends s (Submitted family current now fixes report s) := by
  rw [syncFamily_eq]
  refine Task.ends_bind (Task.ends_read (Task.ends_bind (Task.ends_read ?_)))
  by_cases hfamily : family = .fixes
  · subst hfamily
    rw [if_pos rfl]
    refine Task.ends_bind ((ends_latestFixes hfixes).mono fun loaded a ha => ?_)
    obtain ⟨hapart, howed, hkept, hloaded⟩ := ha
    have hrest := ends_submitLoaded .fixes current now report (s := a) fun load hload =>
      ⟨(hloaded load hload).1.trans (if_pos rfl).symm, fun _ => (hloaded load hload).2⟩
    rw [hapart.trackers] at hrest
    refine hrest.mono fun result b hb => ?_
    have houtcome := hb.outcome
    rw [hapart.trackers] at houtcome
    refine ⟨hapart.trans hb.apart, hb.owed.trans howed, hb.failures, ?_⟩
    cases hfailure : result.2 with
    | none => simpa only [hfailure] using houtcome
    | some cause =>
      rw [hfailure] at houtcome
      exact ⟨houtcome.1, hkept.trans houtcome.2⟩
  · rw [if_neg hfamily]
    refine Task.ends_bind (Task.ends_pure (ends_submitLoaded family current now report ?_))
    rintro load ⟨⟩
    exact ⟨(if_neg hfamily).symm, fun h => absurd h hfamily⟩

/-- Whether a synchronization submits a family: its part of the configuration changed, it is owed, or
it was made from what is no longer known of the trackers. -/
def isDue (family : RuleFamily) (current : Config) (previous : Option Config)
    (owed : List RuleFamily) (s : Synchronizer) : Bool :=
  (match previous with
    | some previous => isAffected family current previous
    | none => true) || owed.contains family || (family == .exceptions && s.trackersMoved)

/-- A report says nothing new of other steps than a family's. -/
structure Extends (family : RuleFamily) (report report' : SyncReport) : Prop where
  families : ∀ other ≠ family, report'.families.find? (·.family == other) =
    report.families.find? (·.family == other)
  failures : ∀ failure, failure.step ≠ .family family →
    (failure ∈ report'.failures ↔ failure ∈ report.failures)

theorem Extends.refl (family : RuleFamily) (report : SyncReport) : Extends family report report :=
  ⟨fun _ _ => rfl, fun _ _ => .rfl⟩

/-- Nothing was done for a family, and nothing said of it. -/
structure Untouched (family : RuleFamily) (s : Synchronizer) (report : SyncReport)
    (s' : Synchronizer) : Prop where
  rules : s'.host.rulesOf family = s.host.rulesOf family
  standIn : family = .fixes →
    (Fixes.ruleset ∈ s'.host.enabled.keys ↔ Fixes.ruleset ∈ s.host.enabled.keys)
  owed : family ∉ s'.ledger.owedFamilies
  trackerVersion : family = .exceptions → s'.ledger.trackerVersion = s.ledger.trackerVersion
  unreported : report.families.find? (·.family == family) = none
  unfailed : ∀ cause, ⟨.family family, cause⟩ ∉ report.failures

/-- A family was brought in line, and is not owed. -/
structure Delivered (family : RuleFamily) (current : Config) (now : Nat)
    (fixes : Except Failure Fixes.Load) (s : Synchronizer) (report : SyncReport)
    (s' : Synchronizer) : Prop where
  owed : family ∉ s'.ledger.owedFamilies
  reported : ∃ found, report.families.find? (·.family == family) = some found ∧
    InLine s'.host family current s.trackers now fixes found.rejected
  trackerVersion : family = .exceptions → s'.ledger.trackerVersion = some s.trackers.version
  unfailed : ∀ cause, ⟨.family family, cause⟩ ∉ report.failures

/-- The step of a family failed, so it is owed. -/
structure Failed (family : RuleFamily) (fixes : Except Failure Fixes.Load) (s : Synchronizer)
    (report : SyncReport) (s' : Synchronizer) : Prop where
  owed : family ∈ s'.ledger.owedFamilies
  reported : ∃ cause, ⟨.family family, cause⟩ ∈ report.failures
  kept : Kept family fixes s s'

section Elsewhere

variable {family other : RuleFamily} {report report' : SyncReport} {a b : Synchronizer}

theorem Untouched.elsewhere {s : Synchronizer} (h : Untouched family s report a)
    (hne : family ≠ other) (hapart : Apart other a b) (hextends : Extends other report report') :
    Untouched family s report' b where
  rules := (hapart.rules family hne).trans h.rules
  standIn hfixes := (hapart.standIn (hfixes ▸ hne.symm)).trans (h.standIn hfixes)
  owed hmem := h.owed ((hapart.owed family hne).1 hmem)
  trackerVersion hexceptions :=
    (hapart.trackerVersion (hexceptions ▸ hne.symm)).trans (h.trackerVersion hexceptions)
  unreported := (hextends.families family hne).trans h.unreported
  unfailed cause hmem := h.unfailed cause ((hextends.failures _ (by simpa using hne)).1 hmem)

theorem InLine.elsewhere {current : Config} {trackers : TrackerDb} {now : Nat}
    {fixes : Except Failure Fixes.Load} {rejected : List RejectedRule}
    (h : InLine a.host family current trackers now fixes rejected) (hne : family ≠ other)
    (hapart : Apart other a b) : InLine b.host family current trackers now fixes rejected where
  rules := by
    rw [Holds, hapart.rules family hne]
    exact h.rules
  standIn hfixes := (hapart.standIn (hfixes ▸ hne.symm)).trans (h.standIn hfixes)

theorem Delivered.elsewhere {s : Synchronizer} {current : Config} {now : Nat}
    {fixes : Except Failure Fixes.Load} (h : Delivered family current now fixes s report a)
    (hne : family ≠ other) (hapart : Apart other a b) (hextends : Extends other report report') :
    Delivered family current now fixes s report' b where
  owed hmem := h.owed ((hapart.owed family hne).1 hmem)
  reported := by
    obtain ⟨found, hfound, hline⟩ := h.reported
    exact ⟨found, (hextends.families family hne).trans hfound, hline.elsewhere hne hapart⟩
  trackerVersion hexceptions :=
    (hapart.trackerVersion (hexceptions ▸ hne.symm)).trans (h.trackerVersion hexceptions)
  unfailed cause hmem := h.unfailed cause ((hextends.failures _ (by simpa using hne)).1 hmem)

theorem Failed.elsewhere {s : Synchronizer} {fixes : Except Failure Fixes.Load}
    (h : Failed family fixes s report a) (hne : family ≠ other) (hapart : Apart other a b)
    (hextends : Extends other report report') : Failed family fixes s report' b where
  owed := (hapart.owed family hne).2 h.owed
  reported := by
    obtain ⟨cause, hmem⟩ := h.reported
    exact ⟨cause, (hextends.failures _ (by simpa using hne)).2 hmem⟩
  kept :=
    { rules := (hapart.rules family hne).trans h.kept.rules
      standIn := fun hfixes hon => by
        rw [hapart.standIn (hfixes ▸ hne.symm)]
        exact h.kept.standIn hfixes hon }

end Elsewhere

/-- What became of a family in a synchronization that started from `s`. -/
inductive FamilyOutcome (family : RuleFamily) (current : Config) (previous : Option Config)
    (now : Nat) (fixes : Except Failure Fixes.Load) (owed : List RuleFamily) (s : Synchronizer)
    (report : SyncReport) (s' : Synchronizer) : Prop
  | skipped (hdue : isDue family current previous owed s = false)
    (h : Untouched family s report s')
  | delivered (h : Delivered family current now fixes s report s')
  | failed (h : Failed family fixes s report s')

/-- The step of a family that nothing was done for yet brings it in line or owes it, unless it is not
due. -/
theorem ends_syncIfDue {s a : Synchronizer} {fixes : Except Failure Fixes.Load} {family : RuleFamily}
    {report : SyncReport} (hfixes : fixesOf a.fixes a.host.unsupportedRegexes = some fixes)
    (htrackers : a.trackers = s.trackers) (huntouched : Untouched family s report a)
    (current : Config) (previous : Option Config) (now : Nat) (owed : List RuleFamily) :
    (syncIfDue current previous now owed report family).Ends a fun report' b =>
      Apart family a b ∧ Extends family report report' ∧
        FamilyOutcome family current previous now fixes owed s report' b := by
  have hmoved : (family == .exceptions && a.trackersMoved) =
      (family == .exceptions && s.trackersMoved) := by
    by_cases hexceptions : family = .exceptions
    · rw [trackersMoved, trackersMoved, huntouched.trackerVersion hexceptions, htrackers]
    · rw [beq_eq_false_iff_ne.2 hexceptions, Bool.false_and, Bool.false_and]
  refine Task.ends_bind (Task.ends_read ?_)
  rw [hmoved]
  change Task.Ends (if isDue family current previous owed s = true then _ else _) a _
  by_cases hdue : isDue family current previous owed s = true
  · rw [if_pos hdue]
    refine Task.ends_bind ((ends_syncFamily hfixes family current now report).mono ?_)
    rintro ⟨report', failure⟩ b ⟨hapart, howed, hfailures, houtcome⟩
    have hfailures' : ∀ failure : SyncFailure, failure.step ≠ .family family →
        (failure ∈ report'.failures ↔ failure ∈ report.failures) := fun _ _ => by rw [hfailures]
    cases failure with
    | none =>
      obtain ⟨found, hfamilies, hfamily, hline, hversion⟩ := houtcome
      rw [htrackers] at hline hversion
      refine Task.ends_pure ⟨hapart, ⟨fun other hne => ?_, hfailures'⟩,
        .delivered ⟨?_, ?_, hversion, ?_⟩⟩
      · rw [hfamilies, List.find?_append, List.find?_singleton,
          if_neg (by rw [hfamily]; simpa using hne.symm), Option.or_none]
      · rw [howed]
        exact huntouched.owed
      · refine ⟨found, ?_, hline⟩
        rw [hfamilies, List.find?_append, huntouched.unreported, List.find?_singleton,
          if_pos (by rw [hfamily]; exact beq_self_eq_true family), Option.none_or]
      · rw [hfailures]
        exact huntouched.unfailed
    | some cause =>
      obtain ⟨hfamilies, hkept⟩ := houtcome
      refine Task.ends_bind (Task.ends_change (Task.ends_pure ?_))
      refine ⟨hapart.trans (.ofLedger rfl (fun other hne => ?_) fun _ => rfl),
        ⟨fun other _ => by rw [SyncReport.fail, hfamilies], fun failure hne => ?_⟩,
        .failed ⟨?_, ⟨cause, ?_⟩, ?_, ?_⟩⟩
      · simp [SyncLedger.owe, SyncLedger.settle, hne]
      · rw [SyncReport.fail, List.mem_append, hfailures, List.mem_singleton]
        exact or_iff_left fun h => hne (by rw [h])
      · exact List.mem_cons_self
      · rw [SyncReport.fail]
        exact List.mem_append_right _ (List.mem_singleton_self _)
      · exact hkept.rules.trans huntouched.rules
      · intro hfixes hon
        exact hkept.standIn hfixes ((huntouched.standIn hfixes).2 hon)
  · rw [if_neg hdue]
    exact Task.ends_pure ⟨.refl family a, .refl family report,
      .skipped (Bool.not_eq_true _ ▸ hdue) huntouched⟩

/-- Whether a synchronization looks at the rule sets: other lists are configured, or they are owed. -/
def areRulesetsDue (current : Config) (previous : Option Config) (owed : Bool) : Bool :=
  (match previous with
    | some previous => ListName.enabled previous != ListName.enabled current
    | none => true) || owed

/-- What became of the rule sets in a synchronization that started from `s`. -/
inductive RulesetsOutcome (current : Config) (previous : Option Config) (s : Synchronizer)
    (report : SyncReport) (s' : Synchronizer) : Prop
  | skipped (hdue : areRulesetsDue current previous s.ledger.owedRulesets = false)
    (hrulesets : ∀ id ≠ Fixes.ruleset, id ∈ s'.host.enabled.keys ↔ id ∈ s.host.enabled.keys)
    (howed : s'.ledger.owedRulesets = false)
  | shipped (hships : s'.host.Ships current) (howed : s'.ledger.owedRulesets = false)
  | failed (howed : s'.ledger.owedRulesets = true)
    (hreported : ∃ cause, ⟨.rulesets, cause⟩ ∈ report.failures)

theorem RulesetsOutcome.elsewhere {current : Config} {previous : Option Config} {s a b : Synchronizer}
    {family : RuleFamily} {report report' : SyncReport}
    (h : RulesetsOutcome current previous s report a) (hapart : Apart family a b)
    (hextends : Extends family report report') : RulesetsOutcome current previous s report' b := by
  cases h with
  | skipped hdue hrulesets howed =>
    exact .skipped hdue
      (fun id hid => (hapart.rulesets id hid).trans (hrulesets id hid))
      (hapart.owedRulesets.trans howed)
  | shipped hships howed =>
    refine .shipped (fun id hid => ?_) (hapart.owedRulesets.trans howed)
    rw [hapart.rulesets id hid, hapart.available, hships id hid]
  | failed howed hreported =>
    obtain ⟨cause, hmem⟩ := hreported
    exact .failed (hapart.owedRulesets.trans howed)
      ⟨cause, (hextends.failures ⟨.rulesets, cause⟩ SyncStep.noConfusion).2 hmem⟩

theorem FamilyOutcome.elsewhere {family other : RuleFamily} {current : Config}
    {previous : Option Config} {now : Nat} {fixes : Except Failure Fixes.Load}
    {owed : List RuleFamily} {s a b : Synchronizer} {report report' : SyncReport}
    (h : FamilyOutcome family current previous now fixes owed s report a) (hne : family ≠ other)
    (hapart : Apart other a b) (hextends : Extends other report report') :
    FamilyOutcome family current previous now fixes owed s report' b := by
  cases h with
  | skipped hdue h => exact .skipped hdue (h.elsewhere hne hapart hextends)
  | delivered h => exact .delivered (h.elsewhere hne hapart hextends)
  | failed h => exact .failed (h.elsewhere hne hapart hextends)

/-- How far a synchronization that started from `s` has come when these families are through. -/
structure Synced (current : Config) (previous : Option Config) (now : Nat)
    (fixes : Except Failure Fixes.Load) (s : Synchronizer) (through : List RuleFamily)
    (report : SyncReport) (s' : Synchronizer) : Prop where
  trackers : s'.trackers = s.trackers
  source : s'.fixes = s.fixes
  available : s'.host.available = s.host.available
  unsupported : s'.host.unsupportedRegexes = s.host.unsupportedRegexes
  rulesets : RulesetsOutcome current previous s report s'
  families : ∀ family ∈ through,
    FamilyOutcome family current previous now fixes s.ledger.owedFamilies s report s'
  rest : ∀ family ∉ through, Untouched family s report s'

/-- A synchronization comes to its end, with an outcome for each family and for the rule sets. -/
theorem ends_sync {s : Synchronizer} {fixes : Except Failure Fixes.Load}
    (hfixes : fixesOf s.fixes s.host.unsupportedRegexes = some fixes) (current : Config)
    (previous : Option Config) (now : Nat) :
    (sync current previous now).Ends s (Synced current previous now fixes s families) := by
  -- with the rule sets done, the families follow one after the other
  have hfamilies : ∀ (report : SyncReport) (a : Synchronizer),
      Synced current previous now fixes s [] report a →
      (families.foldlM (syncIfDue current previous now s.ledger.owedFamilies) report).Ends a
        (Synced current previous now fixes s families) := by
    intro report a hstart
    refine @Task.ends_foldlM _ _ _ _ families (Synced current previous now fixes s) report a hstart ?_
    intro before family after report a hsplit h
    have hnew : family ∉ before := by
      have hnodup : families.Nodup := by decide
      rw [hsplit, List.nodup_append] at hnodup
      exact fun hmem => hnodup.2.2 family hmem family List.mem_cons_self rfl
    have hfixes : fixesOf a.fixes a.host.unsupportedRegexes = some fixes := by
      rw [h.source, h.unsupported, hfixes]
    refine (ends_syncIfDue hfixes h.trackers (h.rest family hnew) current previous now
      s.ledger.owedFamilies).mono ?_
    rintro report' b ⟨hapart, hextends, houtcome⟩
    refine
      { trackers := hapart.trackers.trans h.trackers
        source := hapart.fixes.trans h.source
        available := hapart.available.trans h.available
        unsupported := hapart.unsupported.trans h.unsupported
        rulesets := h.rulesets.elsewhere hapart hextends
        families := fun other hmem => ?_
        rest := fun other hnot => ?_ }
    · rcases List.mem_append.1 hmem with hmem | hmem
      · have hne : other ≠ family := fun heq => hnew (heq ▸ hmem)
        exact (h.families other hmem).elsewhere hne hapart hextends
      · obtain rfl := List.mem_singleton.1 hmem
        exact houtcome
    · rw [List.mem_append, List.mem_singleton, not_or] at hnot
      exact (h.rest other hnot.1).elsewhere hnot.2 hapart hextends
  have hrest : ∀ (host : RuleHost) (owed : Bool) (report : SyncReport), SameRules s.host host →
      (Fixes.ruleset ∈ host.enabled.keys ↔ Fixes.ruleset ∈ s.host.enabled.keys) →
      report.families = [] → (∀ failure ∈ report.failures, failure.step = .rulesets) →
      ∀ family, Untouched family s report { s with
        host := host, ledger := { s.ledger with owedRulesets := owed, owedFamilies := [] } } := by
    intro host owed report hsame hstandIn hfamilies hfailures family
    exact
      { rules := hsame.rulesOf family
        standIn := fun _ => hstandIn
        owed := List.not_mem_nil
        trackerVersion := fun _ => rfl
        unreported := by rw [hfamilies]; rfl
        unfailed := fun cause hmem => SyncStep.noConfusion (hfailures _ hmem) }
  refine Task.ends_bind (Task.ends_act ?_)
  change Task.Ends
    (if areRulesetsDue current previous s.ledger.owedRulesets = true then _ else _) _ _
  by_cases hdue : areRulesetsDue current previous s.ledger.owedRulesets = true
  · rw [if_pos hdue]
    refine Task.ends_bind (ends_onHost ((ends_syncRulesets current s.host).mono ?_))
    rintro result host ⟨hsame, hstandIn, hships⟩
    cases result with
    | ok delta =>
      refine Task.ends_bind (Task.ends_pure (hfamilies _ _ ?_))
      exact
        { trackers := rfl
          source := rfl
          available := hsame.available
          unsupported := hsame.unsupported
          rulesets := .shipped (hships delta rfl) rfl
          families := fun _ hmem => nomatch hmem
          rest := fun family _ =>
            hrest host false { rulesets := delta } hsame hstandIn rfl (fun _ => nofun) family }
    | error cause =>
      refine Task.ends_bind (Task.ends_change (Task.ends_bind (Task.ends_pure (hfamilies _ _ ?_))))
      exact
        { trackers := rfl
          source := rfl
          available := hsame.available
          unsupported := hsame.unsupported
          rulesets := .failed rfl ⟨cause, by simp [SyncReport.fail]⟩
          families := fun _ hmem => nomatch hmem
          rest := fun family _ => hrest host true (SyncReport.fail {} .rulesets cause) hsame hstandIn
            rfl (fun _ hmem => by rw [List.mem_singleton.1 hmem]) family }
  · rw [if_neg hdue]
    refine Task.ends_bind (Task.ends_pure (hfamilies _ _ ?_))
    rw [Bool.not_eq_true] at hdue
    exact
      { trackers := rfl
        source := rfl
        available := rfl
        unsupported := rfl
        rulesets := .skipped hdue (fun _ _ => .rfl) rfl
        families := fun _ hmem => nomatch hmem
        rest := fun family _ =>
          hrest s.host false {} (Same.refl s.host).sameRules .rfl rfl (fun _ => nofun) family }

/-- Nothing is owed when nothing failed. -/
theorem hasPending_of_failures_eq_nil {current : Config} {previous : Option Config} {now : Nat}
    {fixes : Except Failure Fixes.Load} {s s' : Synchronizer} {report : SyncReport}
    (h : Synced current previous now fixes s families report s')
    (hfailures : report.failures = []) : s'.ledger.hasPending = false := by
  have hrulesets : s'.ledger.owedRulesets = false := by
    cases h.rulesets with
    | skipped _ _ howed => exact howed
    | shipped _ howed => exact howed
    | failed _ hreported =>
      obtain ⟨cause, hmem⟩ := hreported
      rw [hfailures] at hmem
      cases hmem
  have howed : ∀ family, family ∉ s'.ledger.owedFamilies := by
    intro family
    by_cases hfamily : family ∈ families
    · cases h.families family hfamily with
      | skipped _ huntouched => exact huntouched.owed
      | delivered hdelivered => exact hdelivered.owed
      | failed hfailed =>
        obtain ⟨cause, hmem⟩ := hfailed.reported
        rw [hfailures] at hmem
        cases hmem
    · exact (h.rest family hfamily).owed
  rw [SyncLedger.hasPending, hrulesets, List.eq_nil_iff_forall_not_mem.2 howed]
  rfl

end Synchronizer

end ContentFilter
