import ContentFilter.Allow.Exceptions
import ContentFilter.Engine.Custom
import ContentFilter.Rule.Configured
import ContentFilter.Rule.Fixes
import ContentFilter.Rule.Replace

/-!
Keeping the host's rules in line with the configuration. Only families whose part of the
configuration changed are replaced; a step that fails is owed and tried again with the next change.
-/

namespace ContentFilter

/-- The shipped rule sets that were turned on and off. -/
structure RulesetDelta where
  enabled : List String
  disabled : List String
  deriving DecidableEq, Repr

inductive SyncStep where
  | rulesets
  | family (family : RuleFamily)
  deriving DecidableEq, Repr

structure SyncFailure where
  step : SyncStep
  cause : Failure
  deriving DecidableEq, Repr

structure SyncReport where
  rulesets : Option RulesetDelta := none
  families : List FamilyReport := []
  failures : List SyncFailure := []
  /-- The custom filters without a rule. -/
  conversionErrors : List ConversionError := []
  fixesDropped : List Fixes.Dropped := []
  deriving DecidableEq, Repr

namespace SyncReport

/-- Nothing was asked of the host. -/
def isEmpty (report : SyncReport) : Bool :=
  report.rulesets.isNone && report.families.isEmpty && report.failures.isEmpty

def fail (report : SyncReport) (step : SyncStep) (cause : Failure) : SyncReport :=
  { report with failures := report.failures ++ [⟨step, cause⟩] }

end SyncReport

/-- What is remembered between two synchronizations. -/
structure SyncLedger where
  /-- The shipped fixes stand in for a document that could not be had. -/
  degraded : Bool := false
  /-- Steps that failed. -/
  owedRulesets : Bool := false
  owedFamilies : List RuleFamily := []
  /-- The version of the trackers that the exceptions were made from. -/
  trackerVersion : Option Nat := none
  deriving DecidableEq, Repr

namespace SyncLedger

def hasPending (ledger : SyncLedger) : Bool :=
  ledger.owedRulesets || !ledger.owedFamilies.isEmpty

def settle (ledger : SyncLedger) (family : RuleFamily) : SyncLedger :=
  { ledger with owedFamilies := ledger.owedFamilies.filter (· != family) }

def owe (ledger : SyncLedger) (family : RuleFamily) : SyncLedger :=
  { ledger with owedFamilies := family :: (ledger.settle family).owedFamilies }

end SyncLedger

structure Synchronizer where
  host : RuleHost
  trackers : TrackerDb
  /-- Where the fixes come from. -/
  fixes : Option FileSource
  ledger : SyncLedger := {}

namespace Synchronizer

/-- The families that follow the configuration, in the order of submission. -/
def families : List RuleFamily :=
  [.pause, .trustedDomains, .redirectProtection, .safeMode, .exceptions, .customFilters, .fixes]

/-- Whether the part of the configuration that a family is made from changed. -/
def isAffected (family : RuleFamily) (current previous : Config) : Bool :=
  match family with
  | .pause => current.paused != previous.paused
  | .trustedDomains => current.managed.trustedDomains != previous.managed.trustedDomains
  | .redirectProtection => current.redirectProtection != previous.redirectProtection
  | .safeMode => current.safeMode != previous.safeMode
  | .exceptions => current.exceptions != previous.exceptions
  | .customFilters =>
    current.customFilters != previous.customFilters ||
      current.managed.customFilters != previous.managed.customFilters
  | .fixes => current.filtersUpdatedAt != previous.filtersUpdatedAt
  | .redirectAllowOnce => false

/-- The rules of a family that need no more than the configuration and the trackers. -/
def configuredRules (family : RuleFamily) (config : Config) (trackers : TrackerDb) (now : Nat) :
    List Rule :=
  match family with
  | .pause => Pause.rules config now
  | .trustedDomains => Trust.rules config
  | .redirectProtection => config.redirectProtection.rules
  | .safeMode => config.safeMode.rules
  | .exceptions => Exceptions.rules config trackers
  | .customFilters => (CustomFilters.rulesOf config).1
  | .fixes | .redirectAllowOnce => []

/-- What is to be turned on and off so that the enabled rule sets are the shipped ones among the
configured lists. The fixes are not among them. -/
def rulesetDelta (config : Config) (available enabled : List String) : RulesetDelta :=
  let desired := (ListName.enabled config).filter available.contains
  { enabled := KeyMap.distinctKeys (desired.filter fun id => !enabled.contains id)
    disabled := KeyMap.distinctKeys
      (enabled.filter fun id => !desired.contains id && id != Fixes.ruleset) }

def syncRulesets (config : Config) : ExceptT Failure (Task RuleHost) (Option RulesetDelta) := do
  let available ← RuleHost.call RuleHost.availableRulesets
  let enabled ← RuleHost.call RuleHost.enabledRulesets
  let delta := rulesetDelta config available enabled
  if delta.enabled.isEmpty && delta.disabled.isEmpty then pure none
  else
    RuleHost.call (RuleHost.updateEnabledRulesets delta.enabled delta.disabled)
    pure (some delta)

def onHost {α : Type} (task : Task RuleHost α) : Task Synchronizer α :=
  task.within (·.host) fun host s => { s with host }

def changeLedger (f : SyncLedger → SyncLedger) : Task Synchronizer Unit :=
  Task.change fun s => { s with ledger := f s.ledger }

def trackersMoved (s : Synchronizer) : Bool := s.ledger.trackerVersion != some s.trackers.version

/-- The document of fixes, if there is a source for it. -/
def loadFixes (source : Option FileSource) : Task RuleHost (Except Failure Fixes.Load) :=
  match source with
  | some source => Fixes.load source
  | none => pure (.error (.fetch Fixes.ruleset .noSource))

/-- Turn the shipped fixes on or off. -/
def setStandIn (wanted : Bool) : ExceptT Failure (Task RuleHost) Unit := do
  let enabled ← RuleHost.call RuleHost.enabledRulesets
  if enabled.contains Fixes.ruleset == wanted then pure ()
  else if wanted then RuleHost.call (RuleHost.updateEnabledRulesets [Fixes.ruleset] [])
  else RuleHost.call (RuleHost.updateEnabledRulesets [] [Fixes.ruleset])

/-- The fixes of the document; without it the shipped ones take their place. -/
def latestFixes (source : Option FileSource) : Task Synchronizer (Except Failure Fixes.Load) := do
  let loaded ← onHost (loadFixes source)
  match ← onHost (setStandIn !loaded.isOk) with
  | .error cause => pure (.error cause)
  | .ok () =>
    match loaded with
    | .ok load =>
      changeLedger fun ledger => { ledger with degraded := false }
      pure (.ok load)
    | .error _ =>
      changeLedger fun ledger => { ledger with degraded := source.isSome }
      pure (.ok {})

/-- Bring one family in line. The result has what is to be reported also when it fails. -/
def syncFamily (family : RuleFamily) (config : Config) (now : Nat) (report : SyncReport) :
    Task Synchronizer (SyncReport × Option Failure) := do
  let trackers ← Task.read (·.trackers)
  let source ← Task.read (·.fixes)
  let loaded ←
    if family == .fixes then latestFixes source
    else pure (.ok { rules := configuredRules family config trackers now })
  match loaded with
  | .error cause => pure (report, some cause)
  | .ok load =>
    let report := match family with
      | .customFilters => { report with conversionErrors := (CustomFilters.rulesOf config).2 }
      | .fixes => { report with fixesDropped := load.dropped }
      | _ => report
    match ← onHost (RuleHost.replace family load.rules) with
    | .error cause => pure (report, some cause)
    | .ok replaced =>
      if family == .exceptions then
        changeLedger fun ledger => { ledger with trackerVersion := some trackers.version }
      pure ({ report with families := report.families ++ [replaced] }, none)

/-- Bring one family in line if it is due, and owe it when that fails. -/
def syncIfDue (current : Config) (previous : Option Config) (now : Nat) (owed : List RuleFamily)
    (report : SyncReport) (family : RuleFamily) : Task Synchronizer SyncReport := do
  let changed := match previous with
    | some previous => isAffected family current previous
    | none => true
  let moved ← Task.read trackersMoved
  if changed || owed.contains family || (family == .exceptions && moved) then
    match ← syncFamily family current now report with
    | (report, none) => pure report
    | (report, some cause) =>
      changeLedger (·.owe family)
      pure (report.fail (.family family) cause)
  else pure report

/-- Bring the host in line with a configuration. Without a previous one everything is submitted
again. -/
def sync (current : Config) (previous : Option Config) (now : Nat) :
    Task Synchronizer SyncReport := do
  let owed ← Task.act fun s =>
    (s.ledger, { s with ledger := { s.ledger with owedRulesets := false, owedFamilies := [] } })
  let changed := match previous with
    | some previous => ListName.enabled previous != ListName.enabled current
    | none => true
  let report : SyncReport ←
    if changed || owed.owedRulesets then
      match ← onHost (syncRulesets current) with
      | .ok delta => pure { rulesets := delta }
      | .error cause =>
        changeLedger fun ledger => { ledger with owedRulesets := true }
        pure (SyncReport.fail {} .rulesets cause)
    else pure {}
  families.foldlM (syncIfDue current previous now owed.owedFamilies) report

/-- Rebuild the exceptions if what is known of the trackers changed or they are owed. -/
def onTrackersChanged (config : Config) :
    Task Synchronizer (Except Failure (Option FamilyReport)) := do
  if ← Task.read fun s => s.ledger.owedFamilies.contains .exceptions || s.trackersMoved then
    let trackers ← Task.read (·.trackers)
    match ← onHost (RuleHost.replace .exceptions (Exceptions.rules config trackers)) with
    | .ok report =>
      changeLedger fun ledger =>
        { ledger.settle .exceptions with trackerVersion := some trackers.version }
      pure (.ok (some report))
    | .error cause =>
      changeLedger (·.owe .exceptions)
      pure (.error cause)
  else pure (.ok none)

end Synchronizer

end ContentFilter
