import ContentFilter.Config.Bus
import ContentFilter.Failure
import ContentFilter.Rule.Configured

/-!
Pauses of filtering. Each pause with an end has an alarm in the browser; when it fires, pauses that
are over leave the configuration.
-/

namespace ContentFilter

inductive AlarmCall where
  | names | clear | create
  deriving DecidableEq, Repr

def AlarmCall.name : AlarmCall → String
  | .names => "names"
  | .clear => "clear"
  | .create => "create"

/-- The browser's alarms. -/
structure Alarms where
  /-- The time of each alarm. -/
  times : KeyMap Nat := .empty
  fails : AlarmCall → Bool := fun _ => false

namespace Alarms

/-- Make a call: a failing one changes nothing. -/
def serve {α : Type} (call : AlarmCall) (answer : Alarms → α × Alarms) (alarms : Alarms) :
    Except Failure α × Alarms :=
  if alarms.fails call then (.error (.alarms (call.name ++ " failed")), alarms)
  else (.ok (answer alarms).1, (answer alarms).2)

def names : Alarms → Except Failure (List String) × Alarms :=
  serve .names fun alarms => (alarms.times.keys, alarms)

def clear (name : String) : Alarms → Except Failure Unit × Alarms :=
  serve .clear fun alarms => ((), { alarms with times := alarms.times.erase name })

/-- Set an alarm; one of that name is replaced. -/
def create (name : String) (time : Nat) : Alarms → Except Failure Unit × Alarms :=
  serve .create fun alarms => ((), { alarms with times := alarms.times.insert name time })

end Alarms

/-- What pauses work on. -/
structure PauseState where
  bus : Bus
  alarms : Alarms

structure ReconcileReport where
  expired : List String
  alarms : Nat
  deriving DecidableEq, Repr

namespace Pause

/-- The key that a host is paused under. -/
def keyOf (host : String) : String :=
  if host == allPages then host
  else String.ofList (Text.lower (Text.dropEndWhile (· == '.') (Text.trim host.toList)))

def pause (host : String) (revokeAt : Option Nat) : Bus → Bool × Bus :=
  Bus.update fun config => { config with paused := config.paused.insert (keyOf host) ⟨revokeAt⟩ }

def resume (host : String) : Bus → Bool × Bus :=
  Bus.update fun config => { config with paused := config.paused.erase (keyOf host) }

def alarmStart : String := "pause:"

def alarmName (key : String) : String := alarmStart ++ key

def isAlarm (name : String) : Bool := Text.startsWith alarmStart name.toList

/-- The pauses that are over. -/
def expired (config : Config) (now : Nat) : List String :=
  (config.paused.entries.filter fun (_, entry) => !entry.isActive now).map (·.1)

/-- The alarms that the pauses call for. -/
def alarmsOf (config : Config) : List (String × Nat) :=
  config.paused.entries.filterMap fun (key, entry) => entry.revokeAt.map (alarmName key, ·)

def onBus {α : Type} (f : Bus → α × Bus) : ExceptT Failure (Task PauseState) α :=
  ExceptT.lift (Task.act fun s => ((f s.bus).1, { s with bus := (f s.bus).2 }))

def onAlarms {α : Type} (f : Alarms → Except Failure α × Alarms) :
    ExceptT Failure (Task PauseState) α :=
  ExceptT.mk (Task.act fun s => ((f s.alarms).1, { s with alarms := (f s.alarms).2 }))

/-- Drop the pauses that are over and set exactly the alarms that the others call for. -/
def reconcile (now : Nat) : ExceptT Failure (Task PauseState) ReconcileReport := do
  let ended ← onBus fun bus => (expired bus.config now, bus)
  unless ended.isEmpty do
    let _ ← onBus (Bus.update fun config =>
      { config with paused := ended.foldl KeyMap.erase config.paused })
  let wanted ← onBus fun bus => (alarmsOf bus.config, bus)
  for name in ← onAlarms Alarms.names do
    if isAlarm name && (wanted.lookup name).isNone then onAlarms (Alarms.clear name)
  for (name, time) in wanted do
    onAlarms (Alarms.create name time)
  pure { expired := ended, alarms := wanted.length }

/-- An alarm fired. The result says whether it belongs to a pause. -/
def onAlarm (name : String) (now : Nat) : ExceptT Failure (Task PauseState) Bool :=
  if isAlarm name then do
    let _ ← reconcile now
    pure true
  else pure false

end Pause

end ContentFilter
