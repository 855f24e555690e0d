import ContentFilter.Allow.Pause
import ContentFilter.Browser.Interception
import ContentFilter.Browser.Messages
import ContentFilter.Browser.Navigation
import ContentFilter.Engine.MainEngine
import ContentFilter.Rule.Sync

/-!
The whole service. Its parts follow the configuration, each in a background task that takes one turn
for every change: the engines, the rules, and the pauses.
-/

namespace ContentFilter

/-- What a service is started with. -/
structure ServiceParts where
  settings : Settings
  config : Config
  capabilities : Capabilities := {}
  suffixes : Option Domain.PublicSuffixes := none
  trackers : TrackerDb := {}
  host : Option RuleHost := none
  alarms : Alarms := {}
  store : SnapshotStore := {}
  bundled : FileSource := {}
  remote : Option FileSource := none

structure Service where
  settings : Settings
  enforcement : Enforcement
  suffixes : Option Domain.PublicSuffixes
  main : MainEngine
  trackers : TrackerDb
  /-- The browser's rules, if the service works with them. -/
  host : Option RuleHost
  ledger : SyncLedger := {}
  allowances : List Allowance := []
  alarms : Alarms
  customReport : Option CustomReport := none
  syncReport : Option SyncReport := none
  /-- What each background task has got of the changes. -/
  engineFeed : Subscription
  ruleFeed : Subscription
  pauseFeed : Subscription

namespace Service

/-- The remote source: the given one, or else one at the address in the settings, of which nothing
is known yet. -/
def remoteSource (parts : ServiceParts) : Except Failure (Option FileSource) :=
  match parts.remote, parts.settings.remoteBaseUrl with
  | some source, _ => .ok (some source)
  | none, some base => (listBase base).map fun _ => some {}
  | none, none => .ok none

def ruleHost (parts : ServiceParts) (enforcement : Enforcement) : Except Failure (Option RuleHost) :=
  match enforcement, parts.host with
  | .imperative, _ => .ok none
  | .declarative, some host => .ok (some host)
  | .declarative, none => .error (.settings .noRuleHost)

/-- Put a service together. The background tasks follow the configuration from here on. -/
def assemble (parts : ServiceParts) : Except Failure Service := do
  let remote ← remoteSource parts
  let enforcement := Enforcement.select parts.capabilities parts.settings.enforcement
  let host ← ruleHost parts enforcement
  let (engineFeed, bus) := Bus.subscribe { config := parts.config }
  let (ruleFeed, bus) := bus.subscribe
  let (pauseFeed, bus) := bus.subscribe
  let registry : Registry := { store := parts.store, bundled := parts.bundled, remote }
  pure
    { settings := parts.settings
      enforcement
      suffixes := parts.bundled.publicSuffixes?.or parts.suffixes
      main := { registry, bus }
      trackers := parts.trackers
      host
      alarms := parts.alarms
      engineFeed, ruleFeed, pauseFeed }

def config (s : Service) : Config := s.main.bus.config

variable {α : Type}

def onMain (task : Task MainEngine α) : Task Service α :=
  task.within (·.main) fun main s => { s with main }

def onBus (task : Task Bus α) : Task Service α :=
  onMain (task.within (·.bus) fun bus m => { m with bus })

def changeBus (f : Bus → α × Bus) : Task Service α := onBus (Task.act f)

def onPauses (task : Task PauseState α) : Task Service α :=
  task.within (fun s => { bus := s.main.bus, alarms := s.alarms }) fun p s =>
    { s with main := { s.main with bus := p.bus }, alarms := p.alarms }

def onAllowances (task : Task AllowanceState α) : Task Service α :=
  task.within (fun s => { allowances := s.allowances, host := s.host }) fun a s =>
    { s with allowances := a.allowances, host := a.host }

/-- Keeping the rules of a host in line. -/
def onRules (host : RuleHost) (task : Task Synchronizer α) : Task Service α :=
  task.within
    (fun s =>
      { host := s.host.getD host
        trackers := s.trackers
        fixes := s.main.registry.remote
        ledger := s.ledger })
    fun y s => { s with host := some y.host, ledger := y.ledger }

/-- Compile the custom filters and keep the report; a failure changes neither. -/
def applyCustomFilters (config : Config) : Task Service Unit := do
  match ← onMain (MainEngine.onRegistry (Registry.applyCustomFilters config)) with
  | .ok report => Task.change fun s => { s with customReport := some report }
  | .error _ => pure ()

/-- Bring the engines up for the first time. -/
def setup : Task Service (Reloading Unit) := do
  applyCustomFilters (← Task.read config)
  onMain MainEngine.setup

def customFiltersChanged (change : ConfigChange) : Bool :=
  change.changed (·.customFilters) || change.changed (·.managed.customFilters)

/-- Whether a change concerns the engines. -/
def concernsEngines (change : ConfigChange) : Bool :=
  change.changed ListName.enabled || customFiltersChanged change ||
    change.changed (·.elementPickerSelectors)

/-- The next change for the engines. The first delivery is what they were set up with. -/
def engineTurn : Task Service (Reloading Unit) := do
  let feed ← Task.read (·.engineFeed)
  let (change, engineFeed) ← onBus feed.next
  Task.change fun s => { s with engineFeed }
  if change.previous.isSome && concernsEngines change then
    if customFiltersChanged change then applyCustomFilters change.current
    onMain (MainEngine.triggerThen id fun _ => pure ())
  else pure (.ended ())

/-- Bring the rules in line; without a host there are none. -/
def syncRules (current : Config) (previous : Option Config) (now : Nat) :
    Task Service SyncReport := do
  match ← Task.read (·.host) with
  | some host => onRules host (Synchronizer.sync current previous now)
  | none => pure {}

def ruleTurn (now : Nat) : Task Service Unit := do
  let feed ← Task.read (·.ruleFeed)
  let (change, ruleFeed) ← onBus feed.next
  Task.change fun s => { s with ruleFeed }
  let report ← syncRules change.current change.previous now
  Task.change fun s => { s with syncReport := some report }

/-- Drop the pauses that are over and set the alarms for the others. -/
def reconcilePauses (now : Nat) : Task Service (Except Failure ReconcileReport) :=
  onPauses (Pause.reconcile now)

def pauseTurn (now : Nat) : Task Service Unit := do
  let feed ← Task.read (·.pauseFeed)
  let (change, pauseFeed) ← onBus feed.next
  Task.change fun s => { s with pauseFeed }
  if change.changed (·.paused) then
    let _ ← reconcilePauses now

/-- The engine in use, once there is one. -/
def engine : Task Service Engine := onMain MainEngine.engine

def interception (s : Service) (engine : Engine) (now : Nat) : Interception where
  suffixes := s.suffixes
  config := s.config
  trackers := s.trackers
  origin := s.settings.extensionOrigin
  engine
  now

/-- What to do with a request, unless rules take care of it. -/
def onRequest (details : RequestDetails) (now : Nat) :
    Task Service (Except Text.CutFault (Option Verdict)) := do
  let engine ← engine
  Task.read fun s =>
    match s.enforcement with
    | .declarative => .ok none
    | .imperative => (s.interception engine now).onRequest details

def onHeaders (details : RequestDetails) (now : Nat) :
    Task Service (Except Text.CutFault (Option ResponseMatch)) := do
  let engine ← engine
  Task.read fun s =>
    match s.enforcement with
    | .declarative => .ok none
    | .imperative => (s.interception engine now).onHeaders details

def onNavigate (tab : Int) (url : String) (now : Nat) :
    Task Service (Except Text.CutFault Navigation) := do
  let engine ← engine
  Task.read fun s =>
    let gatekeeper : Gatekeeper :=
      { suffixes := s.suffixes
        config := s.config
        trackers := s.trackers
        interstitial := s.settings.interstitialUrl
        allowances := s.allowances
        engine
        now }
    gatekeeper.onNavigate tab url

def onMessage (message : ContentMessage) (now : Nat) :
    Task Service (Except Text.CutFault ContentResponse) := do
  let engine ← engine
  Task.read fun s =>
    let injection : Injection :=
      { suffixes := s.suffixes, config := s.config, trackers := s.trackers, engine, now }
    injection.respond message

def allowOnce (tab : Int) (url : String) : Task Service (Except Failure Unit) := do
  onAllowances (AllowanceState.allowOnce (← Task.read (·.suffixes)) tab url)

def onTabRemoved (tab : Int) : Task Service (Except Failure Unit) :=
  onAllowances (AllowanceState.forgetTab tab)

def disableRedirectProtection (host : String) : Task Service Bool :=
  changeBus (RedirectProtection.disableFor host)

def pause (host : String) (revokeAt : Option Nat) : Task Service Bool :=
  changeBus (Pause.pause host revokeAt)

def resume (host : String) : Task Service Bool := changeBus (Pause.resume host)

def onAlarm (name : String) (now : Nat) : Task Service (Except Failure Bool) :=
  onPauses (Pause.onAlarm name now)

/-- What is known of trackers may have changed. The result is what became of the exceptions, if they
had to be replaced. -/
def onTrackersChanged : Task Service (Except Failure (Option FamilyReport)) := do
  let config ← Task.read config
  match ← Task.read (·.host) with
  | some host => onRules host (Synchronizer.onTrackersChanged config)
  | none => pure (.ok none)

def update (now : Nat) : Task Service (Reloading UpdateOutcome) := onMain (MainEngine.update now)

/-- The regular update of the lists, once it is over: exceptions follow what is known of trackers. -/
def afterUpdate : Task Service Unit := do
  let _ ← onTrackersChanged

end Service

end ContentFilter
