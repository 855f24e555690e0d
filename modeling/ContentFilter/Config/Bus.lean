import ContentFilter.Config.Basic
import ContentFilter.Task

/-!
The configuration and its changes. Every change has a version; a subscriber gets the newest one and
the one it got before, and asks for the next when it has handled the last.
-/

namespace ContentFilter

structure Bus where
  config : Config
  version : Nat := 1
  /-- The live subscribers, each with the last version that it handled. -/
  handled : List (Nat × Nat) := []
  nextSubscriber : Nat := 1
  deriving DecidableEq, Repr

/-- A change as it is delivered. -/
structure ConfigChange where
  current : Config
  /-- What the subscriber got before; nothing on the first delivery. -/
  previous : Option Config
  version : Nat
  deriving DecidableEq, Repr

/-- Whether a part of the configuration changed. On the first delivery everything did. -/
def ConfigChange.changed {α : Type} [BEq α] (change : ConfigChange) (part : Config → α) : Bool :=
  match change.previous with
  | some previous => part previous != part change.current
  | none => true

structure Subscription where
  id : Nat
  /-- What was delivered last. -/
  last : Option Config := none
  delivered : Nat := 0
  deriving DecidableEq, Repr

namespace Bus

/-- Publish a change, unless it changes nothing. -/
def update (f : Config → Config) (bus : Bus) : Bool × Bus :=
  let next := f bus.config
  if next = bus.config then (false, bus)
  else (true, { bus with config := next, version := bus.version + 1 })

def set (config : Config) : Bus → Bool × Bus := update fun _ => config

def subscribe (bus : Bus) : Subscription × Bus :=
  let id := bus.nextSubscriber
  ({ id }, { bus with handled := bus.handled ++ [(id, 0)], nextSubscriber := id + 1 })

def unsubscribe (subscription : Subscription) (bus : Bus) : Bus :=
  { bus with handled := bus.handled.filter (·.1 != subscription.id) }

/-- The subscriber has handled what was delivered to it. -/
def acknowledge (subscription : Subscription) (bus : Bus) : Bus :=
  { bus with
    handled := bus.handled.map fun (id, version) =>
      if id = subscription.id then (id, max version subscription.delivered) else (id, version) }

/-- Every subscriber has handled that version, or a newer one. -/
def hasHandled (target : Nat) (bus : Bus) : Bool := bus.handled.all fun (_, version) => target ≤ version

/-- Every subscriber has handled the newest version. -/
def isIdle (bus : Bus) : Bool := bus.hasHandled bus.version

/-- Wait until every subscriber has handled the version that is the newest at first. It may not be the newest
any more by then; the result says whether it is, or it takes another round. -/
def idleRound : Task Bus Bool := do
  let target ← Task.read (·.version)
  Task.when (hasHandled target) fun bus => ((), bus)
  let latest ← Task.read (·.version)
  pure (latest == target)

end Bus

namespace Subscription

/-- Hand the newest configuration over. -/
def deliver (subscription : Subscription) (bus : Bus) : ConfigChange × Subscription :=
  ({ current := bus.config, previous := subscription.last, version := bus.version },
    { subscription with last := some bus.config, delivered := bus.version })

/-- There is something to deliver: the first configuration, or a newer one than the last. -/
def hasNews (subscription : Subscription) (bus : Bus) : Bool :=
  subscription.last.isNone || subscription.delivered < bus.version

/-- Acknowledge the last change and wait for the next. Changes that follow each other before it is
read come as one. -/
def next (subscription : Subscription) : Task Bus (ConfigChange × Subscription) := do
  Task.change (·.acknowledge subscription)
  Task.when subscription.hasNews fun bus => ((), bus)
  Task.read subscription.deliver

end Subscription

end ContentFilter
