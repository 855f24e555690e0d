import ContentFilter.Proofs.Rule.SyncRun

/-! Whether there are fixes in force through a run of synchronizations: the shipped ones stand in, or the
rules of a document that was loaded are on the host. The shipped ones go before the rules come, so a
failure between the two leaves neither. -/

namespace ContentFilter

open RuleHost Synchronizer

/-- One synchronization, against the configuration that its caller takes for the one before. -/
structure FixesCall extends SyncCall where
  previous : Option Config := none

/-- What a run of synchronizations has come to, as far as the fixes are concerned. -/
structure FixesRun where
  synchronizer : Synchronizer
  /-- The documents that were loaded, with those of their rules that were rejected. -/
  loaded : List (Fixes.Load × List RejectedRule) := []
  report : SyncReport := {}

namespace FixesRun

/-- Nothing is remembered at the start of a run, whatever is on the host. -/
def start (host : RuleHost) : FixesRun where
  synchronizer := { host, trackers := {}, fixes := none }

def rejected (report : SyncReport) : List RejectedRule :=
  match report.families.find? (·.family == .fixes) with
  | some found => found.rejected
  | none => []

/-- The documents with the one that a synchronization loaded, if it came to the fixes. -/
def loadedAfter (run : FixesRun) (call : FixesCall) (report : SyncReport) :
    List (Fixes.Load × List RejectedRule) :=
  match fixesOf call.fixes call.unsupportedRegexes with
  | some (.ok load) =>
    if SyncRun.tried .fixes report then (load, rejected report) :: run.loaded else run.loaded
  | _ => run.loaded

/-- One more synchronization. -/
def next (run : FixesRun) (call : FixesCall) : Option FixesRun :=
  match (sync call.current call.previous call.now).run? (call.arrange run.synchronizer) with
  | (some report, synchronizer) =>
    some { synchronizer, loaded := run.loadedAfter call report, report }
  | (none, _) => none

/-- The shipped fixes are on. -/
def StandsIn (run : FixesRun) : Prop := Fixes.ruleset ∈ run.synchronizer.host.enabled.keys

/-- On the host are the accepted rules of a document that was loaded. -/
def Covers (run : FixesRun) (host : RuleHost) : Prop :=
  ∃ entry ∈ run.loaded, host.Holds .fixes entry.1.rules entry.2

def InForce (run : FixesRun) : Prop := run.StandsIn ∨ run.Covers run.synchronizer.host

/-- A document was loaded and the shipped fixes were turned off for it, then the step failed, and the rules
that were there before are those of no document. -/
structure Drops (before : FixesRun) (call : FixesCall) (after : FixesRun) : Prop where
  wasOn : before.StandsIn
  isOff : ¬after.StandsIn
  loaded : ∃ load, fixesOf call.fixes call.unsupportedRegexes = some (.ok load)
  failed : ∃ cause, ⟨.family .fixes, cause⟩ ∈ after.report.failures
  uncovered : ¬after.Covers before.synchronizer.host

theorem Covers.congr {run : FixesRun} {host host' : RuleHost}
    (h : host'.rulesOf .fixes = host.rulesOf .fixes) : run.Covers host' ↔ run.Covers host := by
  simp only [Covers, Holds, h]

theorem Covers.mono {run run' : FixesRun} {host : RuleHost} (h : run.Covers host)
    (hloaded : run.loaded ⊆ run'.loaded) : run'.Covers host := by
  obtain ⟨entry, hmem, hholds⟩ := h
  exact ⟨entry, hloaded hmem, hholds⟩

theorem subset_loadedAfter (run : FixesRun) (call : FixesCall) (report : SyncReport) :
    run.loaded ⊆ run.loadedAfter call report := by
  unfold loadedAfter
  split
  · split
    · exact List.subset_cons_self _ _
    · exact List.Subset.refl _
  · exact List.Subset.refl _

/-- What one synchronization does to the fixes. -/
inductive Outcome (before : FixesRun) (call : FixesCall) (after : FixesRun) : Prop
  /-- The step was not due. -/
  | skipped (hstandIn : after.StandsIn ↔ before.StandsIn)
    (hrules : after.synchronizer.host.rulesOf .fixes = before.synchronizer.host.rulesOf .fixes)
  | delivered (hforce : after.InForce)
    (hreport : ∀ cause, ⟨.family .fixes, cause⟩ ∉ after.report.failures)
  | failed (hreport : ∃ cause, ⟨.family .fixes, cause⟩ ∈ after.report.failures)
    (hrules : after.synchronizer.host.rulesOf .fixes = before.synchronizer.host.rulesOf .fixes)
    (hstandIn : before.StandsIn → after.StandsIn ∨
      ∃ load, fixesOf call.fixes call.unsupportedRegexes = some (.ok load))

/-- A synchronization comes to its end, with one of these outcomes. -/
theorem exists_next (run : FixesRun) (call : FixesCall) : ∃ after, run.next call = some after ∧
    run.loaded ⊆ after.loaded ∧ Outcome run call after := by
  obtain ⟨fixes, -, -, hfixes, -⟩ :=
    ends_loadFixes call.fixes { unsupportedRegexes := call.unsupportedRegexes }
  obtain ⟨report, s', hrun, hsynced⟩ :=
    @ends_sync (call.arrange run.synchronizer) fixes hfixes call.current call.previous call.now
  refine ⟨{ synchronizer := s', loaded := run.loadedAfter call report, report },
    by rw [next, hrun], run.subset_loadedAfter call report, ?_⟩
  cases hsynced.families .fixes (by decide) with
  | skipped hdue huntouched =>
    exact .skipped (huntouched.standIn rfl) huntouched.rules
  | failed hfailed =>
    refine .failed hfailed.reported hfailed.kept.rules fun hon => ?_
    refine (hfailed.kept.standIn rfl hon).imp_right fun hok => ?_
    cases fixes with
    | ok load => exact ⟨load, hfixes⟩
    | error cause => cases hok
  | delivered hdelivered =>
    refine .delivered ?_ hdelivered.unfailed
    obtain ⟨found, hfound, hline⟩ := hdelivered.reported
    cases fixes with
    | error cause => exact .inl ((hline.standIn rfl).2 rfl)
    | ok load =>
      refine .inr ⟨(load, found.rejected), ?_, hline.rules⟩
      have hrejected : rejected report = found.rejected := by rw [rejected, hfound]
      simp only [loadedAfter, hfixes, SyncRun.tried_of_reported hfound, hrejected, if_true]
      exact List.mem_cons_self

/-- Fixes that were in force stay in force unless the synchronization drops them. -/
theorem inForce_next {run after : FixesRun} {call : FixesCall} (hforce : run.InForce)
    (hloaded : run.loaded ⊆ after.loaded) (houtcome : Outcome run call after) :
    after.InForce ↔ ¬Drops run call after := by
  cases houtcome with
  | skipped hstandIn hrules =>
    refine iff_of_true ?_ fun hdrops => hdrops.isOff (hstandIn.2 hdrops.wasOn)
    rcases hforce with hon | hcovers
    · exact .inl (hstandIn.2 hon)
    · exact .inr ((Covers.congr hrules).2 (hcovers.mono hloaded))
  | delivered hafter hreport =>
    refine iff_of_true hafter fun hdrops => ?_
    obtain ⟨cause, hmem⟩ := hdrops.failed
    exact hreport cause hmem
  | failed hreport hrules hstandIn =>
    constructor
    · intro hafter hdrops
      rcases hafter with hon | hcovers
      · exact hdrops.isOff hon
      · exact hdrops.uncovered ((Covers.congr hrules).1 hcovers)
    · intro hnot
      rcases hforce with hon | hcovers
      · rcases hstandIn hon with hon' | hload
        · exact .inl hon'
        · by_contra hlost
          rw [InForce, not_or] at hlost
          refine hnot ⟨hon, hlost.1, hload, hreport, fun hcovers => hlost.2 ?_⟩
          exact (Covers.congr hrules).2 hcovers
      · exact .inr ((Covers.congr hrules).2 (hcovers.mono hloaded))

/-- Fixes are in force now and after each of these synchronizations. -/
def StaysInForce (run : FixesRun) : List FixesCall → Prop
  | [] => run.InForce
  | call :: later => run.InForce ∧ ∀ after, run.next call = some after → after.StaysInForce later

/-- None of these synchronizations drops the fixes. -/
def NeverDrops (run : FixesRun) : List FixesCall → Prop
  | [] => True
  | call :: later =>
    ∀ after, run.next call = some after → ¬Drops run call after ∧ after.NeverDrops later

theorem staysInForce_of_inForce {run : FixesRun} (hforce : run.InForce) (later : List FixesCall) :
    run.StaysInForce later ↔ run.NeverDrops later := by
  induction later generalizing run with
  | nil => exact iff_of_true hforce trivial
  | cons call later ih =>
    obtain ⟨after, hnext, hloaded, houtcome⟩ := run.exists_next call
    have hstep := inForce_next hforce hloaded houtcome
    simp only [StaysInForce, NeverDrops, hnext, Option.some.injEq, forall_eq', hforce, true_and]
    constructor
    · intro hstays
      have hafter : after.InForce := by
        cases later with
        | nil => exact hstays
        | cons => exact hstays.1
      exact ⟨hstep.1 hafter, (ih hafter).1 hstays⟩
    · intro ⟨hnot, hnever⟩
      exact (ih (hstep.2 hnot)).2 hnever

theorem exists_run (run : FixesRun) (calls : List FixesCall) :
    ∃ last, calls.foldlM next run = some last := by
  induction calls generalizing run with
  | nil => exact ⟨run, rfl⟩
  | cons call calls ih =>
    obtain ⟨after, hnext, -⟩ := run.exists_next call
    rw [List.foldlM_cons, hnext]
    exact ih after

/-- Once fixes are in force, they are in force after each later synchronization, if and only if none of
them drops them: turns the shipped ones off for a document and then fails to bring its rules. -/
theorem staysInForce_iff (host : RuleHost) (calls later : List FixesCall) :
    ∃ run last, calls.foldlM next (start host) = some run ∧ later.foldlM next run = some last ∧
      (run.InForce → (run.StaysInForce later ↔ run.NeverDrops later)) := by
  obtain ⟨run, hrun⟩ := exists_run (start host) calls
  obtain ⟨last, hlast⟩ := exists_run run later
  exact ⟨run, last, hrun, hlast, fun hforce => staysInForce_of_inForce hforce later⟩

/-- A synchronization that meets this document of fixes, on a host that fails to change rules or does
not. -/
def fixesCall (document : Option String) (isHostDown : Bool) : FixesCall where
  current := {}
  now := 0
  trackers := {}
  fixes := some <| document.elim {} fun text =>
    ({} : FileSource).insert FileSource.fixesFile (Text.Utf8.encode text.toList)
  refuse _ call :=
    if isHostDown && call.name == "update_dynamic_rules" then some (.failed "host unavailable") else none
  failingUpdates := 0
  rejectedUrlFilters := []
  unsupportedRegexes := []

/-- The document is missing at first; when it is there, the host fails to take its rule. -/
def recovery : List FixesCall :=
  [fixesCall none false, fixesCall (some ("[\x7b\"id\":1,\"priority\":1," ++
    "\"action\":\x7b\"type\":\"block\"\x7d,\"condition\":\x7b\x7d\x7d]")) true]

/-- The shipped fixes stand in for the document that is missing, and are turned off for nothing. -/
theorem not_inForce_after_recovery : ∃ before after,
    (recovery.take 1).foldlM next (start { available := [Fixes.ruleset] }) = some before ∧
      recovery.foldlM next (start { available := [Fixes.ruleset] }) = some after ∧
      before.InForce ∧ ¬after.InForce := by
  obtain ⟨before, hbefore⟩ := exists_run (start { available := [Fixes.ruleset] }) (recovery.take 1)
  obtain ⟨after, hafter⟩ := exists_run (start { available := [Fixes.ruleset] }) recovery
  have hon : ((recovery.take 1).foldlM next (start { available := [Fixes.ruleset] })).map
      (·.synchronizer.host.enabled.keys) = some [Fixes.ruleset] := by decide +kernel
  have hlost : (recovery.foldlM next (start { available := [Fixes.ruleset] })).map
      (fun run => (run.synchronizer.host.enabled.keys, run.synchronizer.host.rulesOf .fixes,
        run.loaded)) = some ([], [], [({ rules := [{ id := 1, priority := 1, action := .block }] }, [])]) := by
    decide +kernel
  rw [hbefore] at hon
  rw [hafter] at hlost
  simp only [Option.map_some, Option.some.injEq, Prod.mk.injEq] at hon hlost
  refine ⟨before, after, hbefore, hafter, .inl (by rw [StandsIn, hon]; exact List.mem_cons_self), ?_⟩
  rintro (hon | ⟨entry, hmem, hholds⟩)
  · rw [StandsIn, hlost.1] at hon
    cases hon
  · rw [hlost.2.2, List.mem_singleton] at hmem
    subst hmem
    obtain ⟨numbered, hassign, hrules⟩ := hholds
    cases hassign
    rw [hlost.2.1] at hrules
    cases hrules

end FixesRun

end ContentFilter
