import ContentFilter.Proofs.Browser.Allowances
import ContentFilter.Proofs.Rule.HostOrder
import ContentFilter.Proofs.Rule.SyncRun

/-! Whether the rules that exempt whole pages come before all others on the host. They come before every
rule that is made here, whatever is configured and known; a fetched rule has the priority that its
document gives it, which nothing bounds. -/

namespace ContentFilter

open RuleHost Synchronizer

namespace RuleFamily

/-- Whether the rules of a family exempt whole pages from all others. -/
def isExempting (family : RuleFamily) : Bool := family == .pause || family == .trustedDomains

/-- The lowest and the highest priority that the rules of a family are given. Fixes bring their own. -/
def band? : RuleFamily → Option (Nat × Nat)
  | .pause => some (Priority.pause, Priority.pause)
  | .trustedDomains => some (Priority.trustedDomain, Priority.trustedDomain)
  | .redirectProtection => some (Priority.redirectProtection, Priority.redirectProtection)
  | .redirectAllowOnce => some (Priority.allowOnce, Priority.allowOnce)
  | .safeMode => some (Priority.safeModeAllow, Priority.safeModeBlock)
  | .exceptions => some (Priority.exception, Priority.exception)
  | .customFilters =>
    some (Priority.filterBlock, Priority.filterRedirect + Priority.filterImportant)
  | .fixes => none

/-- The rule has a place in its family: a priority of the band, and leave to exempt. -/
structure Fits (family : RuleFamily) (rule : Rule) : Prop where
  inBand : ∀ low high, family.band? = some (low, high) → low ≤ rule.priority ∧ rule.priority ≤ high
  permission : family.isExempting = true → rule.isPermission = true

variable {family : RuleFamily} {rule : Rule}

/-- No band reaches above that of the rules that exempt. -/
theorem le_pause_of_band? {low high : Nat} (h : family.band? = some (low, high)) :
    high ≤ Priority.pause := by
  cases family <;> simp only [band?, Option.some.injEq, Prod.mk.injEq, reduceCtorEq] at h <;>
    exact h.2 ▸ by decide

/-- Only fixes bring their own priorities. -/
theorem exists_band? (h : family ≠ .fixes) : ∃ low high, family.band? = some (low, high) := by
  cases family
  case fixes => exact absurd rfl h
  all_goals exact ⟨_, _, rfl⟩

theorem Fits.le_pause (h : family.Fits rule) (hne : family ≠ .fixes) :
    rule.priority ≤ Priority.pause := by
  obtain ⟨low, high, hband⟩ := exists_band? hne
  exact Nat.le_trans (h.inBand low high hband).2 (le_pause_of_band? hband)

theorem Fits.priority_eq (h : family.Fits rule) (hexempting : family.isExempting = true) :
    rule.priority = Priority.pause := by
  have hband : family.band? = some (Priority.pause, Priority.pause) := by
    cases family <;> first | rfl | cases hexempting
  have hbounds := h.inBand _ _ hband
  omega

/-- The number of a rule does not matter. -/
theorem Fits.renumbered (h : family.Fits rule) (id : Nat) : family.Fits { rule with id := id } :=
  ⟨h.inBand, h.permission⟩

theorem fits_fixes (rule : Rule) : RuleFamily.fixes.Fits rule := ⟨nofun, nofun⟩

theorem fits_of_priority {priority : Nat} (hband : family.band? = some (priority, priority))
    (hpriority : rule.priority = priority)
    (hpermission : family.isExempting = false ∨ rule.isPermission = true) : family.Fits rule where
  inBand low high h := by
    rw [hband, Option.some.injEq, Prod.mk.injEq] at h
    omega
  permission h := hpermission.resolve_left (by simp [h])

end RuleFamily

namespace Synchronizer

variable {config : Config} {rule : Rule}

theorem fits_pause {now : Nat} (h : rule ∈ Pause.rules config now) : RuleFamily.pause.Fits rule := by
  have hrule : rule.priority = Priority.pause ∧ rule.action = .allowAllRequests := by
    rw [Pause.rules, List.mem_append] at h
    rcases h with h | h
    · split at h
      · rw [List.mem_singleton.1 h]
        exact ⟨rfl, rfl⟩
      · cases h
    · split at h
      · cases h
      · rw [List.mem_singleton.1 h]
        exact ⟨rfl, rfl⟩
  refine RuleFamily.fits_of_priority rfl hrule.1 (.inr ?_)
  rw [Rule.isPermission, hrule.2]
  rfl

theorem fits_safeMode {mode : SafeMode} (h : rule ∈ mode.rules) : RuleFamily.safeMode.Fits rule := by
  have hrule : rule.priority = Priority.safeModeBlock ∨ rule.priority = Priority.safeModeAllow := by
    unfold SafeMode.rules at h
    dsimp only at h
    split at h
    · cases h
    rcases List.mem_append.1 h with h | h
    · split at h
      · cases h
      · rw [List.mem_singleton.1 h]
        exact .inl rfl
    · rw [List.mem_singleton.1 h]
      exact .inr rfl
  refine ⟨fun low high hband => ?_, nofun⟩
  cases hband
  rcases hrule with hrule | hrule <;> rw [hrule] <;> decide

theorem fits_exceptions {db : TrackerDb} (h : rule ∈ Exceptions.rules config db) :
    RuleFamily.exceptions.Fits rule := by
  obtain ⟨filter, source, -, rfl⟩ := Exceptions.exists_source_of_mem_rules h
  exact RuleFamily.fits_of_priority rfl rfl (.inl rfl)

theorem fits_customFilters (h : rule ∈ (CustomFilters.rulesOf config).1) :
    RuleFamily.customFilters.Fits rule := by
  unfold CustomFilters.rulesOf at h
  split at h
  · next text _ =>
    obtain ⟨filter, -, hfilter⟩ := Rule.exists_filter_of_ofFilters (Prod.eta _).symm h
    have hpriority := Rule.priority_of_ofFilter hfilter
    have hbonus : Rule.bonus filter ≤ Priority.filterImportant := by
      unfold Rule.bonus
      split
      · exact le_refl _
      · exact Nat.zero_le _
    refine ⟨fun low high hband => ?_, nofun⟩
    cases hband
    simp only [Priority.filterBlock, Priority.filterAllow, Priority.filterRedirect] at hpriority ⊢
    rcases hpriority with ⟨-, -, hpriority⟩ | ⟨-, -, hlow, hhigh⟩ <;> omega
  · cases h

/-- Every rule that a configuration and the trackers ask for has its place. -/
theorem fits_configuredRules {family : RuleFamily} {trackers : TrackerDb} {now : Nat}
    (h : rule ∈ configuredRules family config trackers now) : family.Fits rule := by
  cases family with
  | pause => exact fits_pause h
  | trustedDomains =>
    change rule ∈ Trust.rules config at h
    unfold Trust.rules at h
    dsimp only at h
    split at h
    · cases h
    · rw [List.mem_singleton.1 h]
      exact RuleFamily.fits_of_priority rfl rfl (.inr rfl)
  | redirectProtection =>
    change rule ∈ config.redirectProtection.rules at h
    unfold RedirectProtection.rules at h
    split at h
    · cases h
    · rw [List.mem_singleton.1 h]
      exact RuleFamily.fits_of_priority rfl rfl (.inl rfl)
  | safeMode => exact fits_safeMode h
  | exceptions => exact fits_exceptions h
  | customFilters => exact fits_customFilters h
  | fixes => exact RuleFamily.fits_fixes rule
  | redirectAllowOnce => cases h

theorem fits_rulesFor {family : RuleFamily} {trackers : TrackerDb} {now : Nat}
    {fixes : Except Failure Fixes.Load} (h : rule ∈ rulesFor family config trackers now fixes) :
    family.Fits rule := by
  by_cases hfamily : family = .fixes
  · rw [hfamily]
    exact RuleFamily.fits_fixes rule
  · rw [rulesFor, if_neg hfamily] at h
    exact fits_configuredRules h

end Synchronizer

namespace RuleHost

variable {host : RuleHost} {family : RuleFamily}

/-- Every rule on the host has its place in its family. -/
def IsRanked (host : RuleHost) (family : RuleFamily) : Prop :=
  ∀ rule ∈ host.rulesOf family, family.Fits rule

theorem IsRanked.congr {host' : RuleHost} (h : host.IsRanked family)
    (hrules : host'.rulesOf family = host.rulesOf family) : host'.IsRanked family := by
  unfold IsRanked
  rw [hrules]
  exact h

/-- What is installed is what was asked for, with numbers. -/
theorem Holds.isRanked {rules : List Rule} {rejected : List RejectedRule}
    (h : host.Holds family rules rejected) (hfits : ∀ rule ∈ rules, family.Fits rule) :
    host.IsRanked family := by
  obtain ⟨numbered, hassign, hrules⟩ := h
  intro rule hrule
  rw [hrules] at hrule
  have hmem := (List.mem_filter.1 hrule).1
  unfold RuleFamily.assign at hassign
  split at hassign
  · cases hassign
  cases hassign
  obtain ⟨⟨source, i⟩, hsource, rfl⟩ := List.mem_map.1 hmem
  exact (hfits source (List.fst_mem_of_mem_zipIdx hsource)).renumbered _

theorem Allows.isRanked {allowances : List Allowance} (h : host.Allows allowances) :
    host.IsRanked .redirectAllowOnce := by
  refine Holds.isRanked h fun rule hrule => ?_
  obtain ⟨allowance, -, rfl⟩ := List.mem_map.1 hrule
  exact RuleFamily.fits_of_priority rfl rfl (.inl rfl)

/-- There is a rule that exempts. -/
def Exempts (host : RuleHost) : Prop :=
  ∃ family, family.isExempting = true ∧ host.rulesOf family ≠ []

/-- A rule that exempts has at least the priority of each rule of another family, and the browser goes by
it, as far as rules of this kind are concerned. -/
def ExemptionsLead (host : RuleHost) (isRival : Rule → Prop) : Prop :=
  ∀ family other, family.isExempting = true → other ≠ family → ∀ rule ∈ host.rulesOf family,
    ∀ rival ∈ host.rulesOf other, isRival rival →
      rival.priority ≤ rule.priority ∧ rule.Precedes rival

/-- When all rules have their places, only fixes can come before the rules that exempt. -/
theorem exemptionsLead_of_isRanked (h : ∀ family, host.IsRanked family) (isRival : Rule → Prop) :
    host.ExemptionsLead isRival ↔ ¬host.Exempts ∨
      ∀ rule ∈ host.rulesOf .fixes, isRival rule → rule.priority ≤ Priority.pause := by
  constructor
  · intro hlead
    by_cases hexempts : host.Exempts
    · obtain ⟨family, hexempting, hsome⟩ := hexempts
      obtain ⟨rule, hrule⟩ := List.exists_mem_of_ne_nil _ hsome
      have hfixes : RuleFamily.fixes ≠ family := by
        rintro rfl
        cases hexempting
      refine .inr fun rival hrival hkind => ?_
      rw [← (h family rule hrule).priority_eq hexempting]
      exact (hlead family .fixes hexempting hfixes rule hrule rival hrival hkind).1
    · exact .inl hexempts
  · intro hfixes family other hexempting hne rule hrule rival hrival hkind
    have hpriority := (h family rule hrule).priority_eq hexempting
    have hle : rival.priority ≤ rule.priority := by
      rw [hpriority]
      by_cases hother : other = .fixes
      · rcases hfixes with hnone | hfixes
        · exact absurd ⟨family, hexempting, List.ne_nil_of_mem hrule⟩ hnone
        · exact hfixes rival (hother ▸ hrival) hkind
      · exact (h other rival hrival).le_pause hother
    refine ⟨hle, (Nat.lt_or_eq_of_le hle).imp_right fun heq => ⟨heq, fun _ => ?_⟩⟩
    exact (h family rule hrule).permission hexempting

end RuleHost

namespace Synchronizer

/-- What becomes of the exceptions when the trackers may have changed. -/
inductive Rebuilt (config : Config) (s s' : Synchronizer) : Prop
  | unneeded (h : s' = s)
  | delivered (hapart : Apart .exceptions s s') {rejected : List RejectedRule}
    (hholds : s'.host.Holds .exceptions (Exceptions.rules config s.trackers) rejected)
  | failed (hapart : Apart .exceptions s s') (howed : .exceptions ∈ s'.ledger.owedFamilies)

theorem ends_onTrackersChanged (config : Config) (s : Synchronizer) :
    (onTrackersChanged config).Ends s fun _ s' => Rebuilt config s s' := by
  refine Task.ends_bind (Task.ends_read ?_)
  split
  · refine Task.ends_bind (Task.ends_read (Task.ends_bind ?_))
    refine (ends_onHost_replace .exceptions (Exceptions.rules config s.trackers) s).mono ?_
    rintro result a ⟨hapart, -, -, hresult⟩
    cases result with
    | ok report =>
      refine Task.ends_bind (Task.ends_change (Task.ends_pure (.delivered ?_ hresult.2)))
      exact hapart.trans (.ofLedger rfl
        (fun other hne => by simp [SyncLedger.settle, hne]) fun hne => absurd rfl hne)
    | error cause =>
      refine Task.ends_bind (Task.ends_change (Task.ends_pure (.failed ?_ List.mem_cons_self)))
      exact hapart.trans (.ofLedger rfl
        (fun other hne => by simp [SyncLedger.owe, SyncLedger.settle, hne]) fun _ => rfl)
  · exact Task.ends_pure (.unneeded rfl)

end Synchronizer

/-- What brings rules to the host: a synchronization, or new knowledge of the trackers. -/
inductive RuleEvent
  | sync (call : SyncCall)
  | trackersChanged (call : SyncCall)

namespace SyncRun

/-- The run when the exceptions follow the trackers. -/
def rebuilt (run : SyncRun) (call : SyncCall) : Option SyncRun :=
  match (onTrackersChanged call.current).run? (call.arrange run.synchronizer) with
  | (some _, synchronizer) => some { run with synchronizer }
  | (none, _) => none

def happen (run : SyncRun) : RuleEvent → Option SyncRun
  | .sync call => run.next call
  | .trackersChanged call => run.rebuilt call

/-- What a run keeps: each family is owed or its rules have their places, and the rules of fixes are
those of the document that was loaded last. -/
structure KeepsRanks (run : SyncRun) : Prop where
  families : ∀ family ∈ families, family ∈ run.synchronizer.ledger.owedFamilies ∨
    run.synchronizer.host.IsRanked family
  fixes : ∃ fixes, run.fixes = some fixes ∧
    (.fixes ∈ run.synchronizer.ledger.owedFamilies ∨
      run.synchronizer.host.Holds .fixes (fixesRules fixes) (run.rejected .fixes))

variable {run : SyncRun}

/-- A family that nothing is done for was submitted before, and is not owed. -/
theorem of_skipped {call : SyncCall} {family : RuleFamily}
    (h : run.previous = none ∨ run.KeepsRanks)
    (hdue : isDue family call.current run.previous run.synchronizer.ledger.owedFamilies
      (call.arrange run.synchronizer) = false) :
    run.KeepsRanks ∧ family ∉ run.synchronizer.ledger.owedFamilies := by
  rcases hprevious : run.previous with _ | previous
  · rw [hprevious] at hdue
    exact absurd hdue (by simp [isDue])
  · rw [hprevious] at hdue
    exact ⟨h.resolve_left (by simp [hprevious]), (of_not_due hdue).2.1⟩

/-- One more synchronization keeps the ranks; without a failure it owes nothing. -/
theorem keepsRanks_next (h : run.previous = none ∨ run.KeepsRanks) (call : SyncCall) :
    ∃ run', run.next call = some run' ∧ run'.KeepsRanks ∧
      (run'.report.failures = [] → run'.synchronizer.ledger.owedFamilies = []) := by
  obtain ⟨loaded, -, -, hloaded, -⟩ :=
    ends_loadFixes call.fixes { unsupportedRegexes := call.unsupportedRegexes }
  obtain ⟨report, s', hrun, hsynced⟩ :=
    @ends_sync (call.arrange run.synchronizer) loaded hloaded call.current run.previous call.now
  refine ⟨run.after call report s', by simp only [next, hrun], ⟨?_, ?_⟩, fun hnone => ?_⟩
  · intro family hfamily
    cases hsynced.families family hfamily with
    | skipped hdue huntouched =>
      obtain ⟨hranks, hnot⟩ := of_skipped h hdue
      exact .inr (((hranks.families family hfamily).resolve_left hnot).congr huntouched.rules)
    | delivered hdelivered =>
      obtain ⟨found, -, hline⟩ := hdelivered.reported
      exact .inr (hline.rules.isRanked fun rule hrule => fits_rulesFor hrule)
    | failed hfailed => exact .inl hfailed.owed
  · cases hsynced.families .fixes (by decide) with
    | skipped hdue huntouched =>
      obtain ⟨hranks, hnot⟩ := of_skipped h hdue
      obtain ⟨fixes, hfixes, hholds⟩ := hranks.fixes
      have huntried := tried_eq_false huntouched
      refine ⟨fixes, by simp [after, huntried, hfixes], .inr ?_⟩
      simp only [after, huntouched.unreported]
      rw [Holds, huntouched.rules]
      exact hholds.resolve_left hnot
    | delivered hdelivered =>
      obtain ⟨found, hfound, hline⟩ := hdelivered.reported
      refine ⟨loaded, by simp only [after, tried_of_reported hfound, if_true, hloaded], .inr ?_⟩
      simp only [after, hfound]
      exact hline.rules
    | failed hfailed =>
      obtain ⟨cause, hmem⟩ := hfailed.reported
      exact ⟨loaded, by simp only [after, tried_of_failed hmem, if_true, hloaded],
        .inl hfailed.owed⟩
  · have hclear := hasPending_of_failures_eq_nil hsynced hnone
    rw [SyncLedger.hasPending, Bool.or_eq_false_iff, Bool.not_eq_false', List.isEmpty_iff] at hclear
    exact hclear.2

/-- New knowledge of the trackers keeps the ranks. -/
theorem keepsRanks_of_rebuilt (h : run.KeepsRanks) {call : SyncCall} {s' : Synchronizer}
    (hrebuilt : Rebuilt call.current (call.arrange run.synchronizer) s') :
    KeepsRanks { run with synchronizer := s' } := by
  have helsewhere : Apart .exceptions (call.arrange run.synchronizer) s' →
      (.exceptions ∈ s'.ledger.owedFamilies ∨ s'.host.IsRanked .exceptions) →
      KeepsRanks { run with synchronizer := s' } := by
    intro hapart hexceptions
    refine ⟨fun family hfamily => ?_, ?_⟩
    · by_cases hsame : family = .exceptions
      · exact hsame ▸ hexceptions
      · rcases h.families family hfamily with howed | hranked
        · exact .inl ((hapart.owed family hsame).2 howed)
        · exact .inr (hranked.congr (hapart.rules family hsame))
    · obtain ⟨fixes, hfixes, howed | hholds⟩ := h.fixes
      · exact ⟨fixes, hfixes, .inl ((hapart.owed .fixes (by decide)).2 howed)⟩
      · refine ⟨fixes, hfixes, .inr ?_⟩
        rw [Holds, hapart.rules .fixes (by decide)]
        exact hholds
  cases hrebuilt with
  | unneeded hsame =>
    refine helsewhere (hsame ▸ .refl _ _) ?_
    rw [hsame]
    exact h.families .exceptions (by decide)
  | delivered hapart hholds =>
    exact helsewhere hapart (.inr (hholds.isRanked fun rule hrule => fits_exceptions hrule))
  | failed hapart howed => exact helsewhere hapart (.inl howed)

theorem exists_happen (h : run.previous = none ∨ run.KeepsRanks) (event : RuleEvent) :
    ∃ run', run.happen event = some run' ∧ (run'.previous = none ∨ run'.KeepsRanks) := by
  cases event with
  | sync call =>
    obtain ⟨run', hnext, hranks, -⟩ := keepsRanks_next h call
    exact ⟨run', hnext, .inr hranks⟩
  | trackersChanged call =>
    obtain ⟨result, s', hrun, hrebuilt⟩ :=
      ends_onTrackersChanged call.current (call.arrange run.synchronizer)
    refine ⟨{ run with synchronizer := s' }, by rw [happen, rebuilt, hrun], ?_⟩
    exact h.imp id fun hranks => keepsRanks_of_rebuilt hranks hrebuilt

theorem exists_events (h : run.previous = none ∨ run.KeepsRanks) (events : List RuleEvent) :
    ∃ run', events.foldlM happen run = some run' ∧ (run'.previous = none ∨ run'.KeepsRanks) := by
  induction events generalizing run with
  | nil => exact ⟨run, rfl, h⟩
  | cons event events ih =>
    obtain ⟨after, hhappen, hafter⟩ := exists_happen h event
    obtain ⟨last, hlast, hranks⟩ := ih hafter
    refine ⟨last, ?_, hranks⟩
    rw [List.foldlM_cons, hhappen]
    exact hlast

/-- After a synchronization without a failure, whatever was synchronized and rebuilt before it and whatever
is allowed once by then, the rules that exempt come before all others, and before all that block or
redirect, if and only if there are none or no rule of the document of fixes that was loaded last has a
higher priority. -/
theorem exemptionsLead_iff (host : RuleHost) (events : List RuleEvent) (call : SyncCall) :
    ∃ run fixes, (events ++ [RuleEvent.sync call]).foldlM happen (start host) = some run ∧
      run.fixes = some fixes ∧ (run.report.failures = [] →
        run.synchronizer.host.Holds .fixes (fixesRules fixes) (run.rejected .fixes) ∧
        ∀ (host : RuleHost) (allowances : List Allowance),
          host.dynamic = run.synchronizer.host.dynamic → host.Allows allowances →
            ∀ isRival : Rule → Prop, host.ExemptionsLead isRival ↔ ¬host.Exempts ∨
              ∀ rule ∈ host.rulesOf .fixes, isRival rule → rule.priority ≤ Priority.pause) := by
  obtain ⟨before, hbefore, hranks⟩ := @exists_events (start host) (.inl rfl) events
  obtain ⟨run, hnext, hrun, hnothing⟩ := keepsRanks_next hranks call
  obtain ⟨fixes, hfixes, hholds⟩ := hrun.fixes
  refine ⟨run, fixes, ?_, hfixes, fun hnone => ?_⟩
  · rw [List.foldlM_append, hbefore]
    change [RuleEvent.sync call].foldlM happen before = some run
    rw [List.foldlM_cons, happen, hnext]
    rfl
  have howed := hnothing hnone
  refine ⟨hholds.resolve_left (by simp [howed]), fun now allowances hdynamic hallows => ?_⟩
  refine exemptionsLead_of_isRanked fun family => ?_
  by_cases hfamily : family ∈ families
  · have hranked := (hrun.families family hfamily).resolve_left (by simp [howed])
    refine hranked.congr ?_
    have hsession : family.isSession = false := by
      cases family <;> first | rfl | exact absurd hfamily (by decide)
    rw [rulesOf, rulesOf, rules, rules, hsession, if_neg (by decide), if_neg (by decide), hdynamic]
  · have honce : family = .redirectAllowOnce := by
      cases family <;> first | rfl | exact absurd (by decide) hfamily
    rw [honce]
    exact hallows.isRanked

/-- A synchronization with everything paused and a fetched rule that blocks everything. -/
def outrankedCall : SyncCall where
  current := { paused := KeyMap.empty.insert allPages {} }
  now := 0
  trackers := {}
  fixes := some <| ({} : FileSource).insert FileSource.fixesFile <| Text.Utf8.encode
    ("[\x7b\"id\":1,\"priority\":10000001,\"action\":\x7b\"type\":\"block\"\x7d," ++
      "\"condition\":\x7b\x7d\x7d]").toList
  refuse _ _ := none
  failingUpdates := 0
  rejectedUrlFilters := []
  unsupportedRegexes := []

/-- The fetched rule blocks what is paused. -/
theorem not_exemptionsLead_of_fixes : ∃ run,
    [RuleEvent.sync outrankedCall].foldlM happen (start {}) = some run ∧ run.report.failures = [] ∧
      ¬run.synchronizer.host.ExemptionsLead Rule.Stops := by
  obtain ⟨run, hrun, -⟩ :=
    @exists_events (start {}) (.inl rfl) [RuleEvent.sync outrankedCall]
  have hinstalled : ([RuleEvent.sync outrankedCall].foldlM happen (start {})).map (fun run =>
      (run.report.failures, run.synchronizer.host.rulesOf .pause,
        run.synchronizer.host.rulesOf .fixes)) =
      some ([],
        [{ id := 1
           priority := Priority.pause
           action := .allowAllRequests
           condition := { resourceTypes := some Rule.documentTypes } }],
        [{ id := 3000000, priority := 10000001, action := .block }]) := by
    decide +kernel
  rw [hrun, Option.map_some, Option.some.injEq, Prod.mk.injEq, Prod.mk.injEq] at hinstalled
  obtain ⟨hfailures, hpause, hfixes⟩ := hinstalled
  refine ⟨run, hrun, hfailures, fun hlead => ?_⟩
  have hle := hlead .pause .fixes rfl (by decide) _ (hpause ▸ List.mem_cons_self) _
    (hfixes ▸ List.mem_cons_self) (.inl rfl)
  exact absurd hle.1 (by decide)

end SyncRun

end ContentFilter
