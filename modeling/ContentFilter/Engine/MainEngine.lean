import ContentFilter.Config.Bus
import ContentFilter.Engine.Registry

/-!
The main engine: the lists that the configuration asks for, together. While one reload runs, further
triggers only make it go round again, and an older result never replaces a newer one.
-/

namespace ContentFilter

/-- The engine in use, with the lists it was made of. -/
structure Published where
  generation : Nat := 0
  /-- The version of the configuration that it was made for. -/
  version : Nat := 0
  engine : Engine := .empty
  ids : List String := []

inductive Reload where
  | published (generation : Nat) (ids : List String)
  /-- A running reload takes care of it. -/
  | coalesced
  deriving DecidableEq, Repr

inductive UpdateOutcome where
  | skipped | unchanged | reloaded
  deriving DecidableEq, Repr

structure MainEngine where
  registry : Registry
  bus : Bus
  published : Published := {}
  /-- The engine can be used. -/
  ready : Bool := false
  /-- A reload is running. -/
  running : Bool := false
  /-- The running reload was triggered again. -/
  dirty : Bool := false
  generation : Nat := 0
  /-- An update of the lists is running. -/
  updating : Bool := false

/-- A job with a reload in it: it is over, or the reload has to go round again before the rest. -/
inductive Reloading (α : Type) where
  | ended (value : α)
  | again (abandon : MainEngine → MainEngine) (rest : Reload → Task MainEngine α)

namespace MainEngine

def onRegistry {α : Type} (task : Task Registry α) : Task MainEngine α :=
  task.within (·.registry) fun registry m => { m with registry }

/-- Publish an engine, unless a newer one is. -/
def publish (new : Published) (m : MainEngine) : MainEngine :=
  if m.published.generation < new.generation then { m with published := new } else m

def nextGeneration : Task MainEngine Nat :=
  Task.act fun m => (m.generation + 1, { m with generation := m.generation + 1 })

/-- The text of a list that the configuration itself contains. -/
def ownText (config : Config) (id : String) : Option String :=
  if id == ListName.custom then config.effectiveCustomFilters
  else if id == ListName.elementPicker then some config.pickedFilters
  else none

/-- The digest that the engine of such a text has. -/
def ownDigest (config : Config) (id text : String) : UInt64 :=
  if id == ListName.custom then CustomFilters.digestOf text config.customFilters.trustedScriptlets
  else contentDigest text

def compileOwn (config : Config) (origin : Nat) (id text : String) : Engine :=
  if id == ListName.custom then
    (CustomFilters.compile origin text config.customFilters.trustedScriptlets).2
  else (Engine.compile origin id text).1

/-- The engine of one list. What the configuration contains is compiled again unless the engine at
hand was made from it. -/
def resolveList (config : Config) (id : String) : Task Registry (Except Failure Engine) := do
  match ownText config id with
  | none => Registry.resolve id
  | some text =>
    let compile : Task Registry (Except Failure Engine) := do
      let origin ← Registry.freshOrigin
      pure (.ok (← Registry.insert id (compileOwn config origin id text)))
    match ← Registry.init id with
    | some engine => if engine.digest = ownDigest config id text then pure (.ok engine) else compile
    | none => compile

/-- The lists that can be had, together, with their names. -/
def build (config : Config) (ids : List String) : Task Registry (Engine × List String) := do
  let found ← ids.mapM fun id => do
    pure ((← resolveList config id).toOption.map fun engine => (id, engine))
  let found := found.filterMap id
  let main ← Registry.replace ListName.main (found.map (·.2))
  pure (main, found.map (·.1))

/-- What a reload leaves behind that is given up. -/
def stopReload (m : MainEngine) : MainEngine := { m with running := false, dirty := false }

/-- One round of a reload; nothing when it was triggered again meanwhile. -/
def reloadRound : Task MainEngine (Option Reload) := do
  let bus ← Task.read (·.bus)
  let generation ← nextGeneration
  let (engine, ids) ← onRegistry (build bus.config (ListName.enabled bus.config))
  Task.change (publish { generation, version := bus.version, engine, ids })
  Task.act fun m =>
    if m.dirty then (none, { m with dirty := false })
    else (some (.published generation ids), { m with running := false })

/-- A round of the running reload, and the rest of the job if it was the last. -/
def reloadThen {α : Type} (abandon : MainEngine → MainEngine) (rest : Reload → Task MainEngine α) :
    Task MainEngine (Reloading α) :=
  Task.guarded abandon do
    match ← Task.guarded stopReload reloadRound with
    | none => pure (.again abandon rest)
    | some reload => do pure (.ended (← rest reload))

/-- Trigger a reload, which only the first of several triggers runs. -/
def triggerThen {α : Type} (abandon : MainEngine → MainEngine) (rest : Reload → Task MainEngine α) :
    Task MainEngine (Reloading α) := do
  let running ← Task.act fun m =>
    if m.running then (true, { m with dirty := true }) else (false, { m with running := true })
  if running then pure (.ended (← Task.guarded abandon (rest .coalesced)))
  else reloadThen abandon rest

/-- Load the main engine again for the configuration. -/
def reload : Task MainEngine (Reloading Reload) := triggerThen id pure

def becomeReady : Task MainEngine Unit := Task.change fun m => { m with ready := true }

/-- Make the engine ready: the stored one if it has the lists of the configuration. -/
def setup : Task MainEngine (Reloading Unit) := do
  let bus ← Task.read (·.bus)
  let ids := ListName.enabled bus.config
  match ← onRegistry (Registry.init ListName.main) with
  | some engine =>
    if engine.listNames = ids then
      let generation ← nextGeneration
      Task.change (publish { generation, version := bus.version, engine, ids })
      becomeReady
      pure (.ended ())
    else triggerThen id fun _ => becomeReady
  | none => triggerThen id fun _ => becomeReady

/-- Wait for the engine to be ready. -/
def engine : Task MainEngine Engine := Task.when (·.ready) fun m => (m.published.engine, m)

def stopUpdate (m : MainEngine) : MainEngine := { m with updating := false }

/-- Update the lists that come from elsewhere; the result says whether one changed. A list that
cannot be updated stays. -/
def updateLists (ids : List String) : Task Registry Bool := do
  let foreign := ids.filter fun id => id != ListName.custom && id != ListName.elementPicker
  let updated ← foreign.mapM Registry.update
  pure (updated.any fun result => result.toOption == some true)

def finishUpdate (now : Nat) (outcome : UpdateOutcome) : Task MainEngine UpdateOutcome := do
  let stamp := Bus.update fun config => { config with filtersUpdatedAt := now }
  Task.change fun m => { m with bus := (stamp m.bus).2 }
  Task.change stopUpdate
  pure outcome

/-- Update the lists and reload the main engine if one changed. -/
def update (now : Nat) : Task MainEngine (Reloading UpdateOutcome) := do
  if ← Task.act fun m => (m.updating, { m with updating := true }) then pure (.ended .skipped)
  else
    let changed ← Task.guarded stopUpdate do
      let config ← Task.read (·.bus.config)
      onRegistry (updateLists (ListName.enabled config))
    if changed then triggerThen stopUpdate fun _ => finishUpdate now .reloaded
    else pure (.ended (← Task.guarded stopUpdate (finishUpdate now .unchanged)))

end MainEngine

namespace Reloading

variable {α : Type}

/-- Go on with a job. -/
def resume : Reloading α → Task MainEngine (Reloading α)
  | ended value => pure (ended value)
  | again abandon rest => MainEngine.reloadThen abandon rest

def value? : Reloading α → Option α
  | ended value => some value
  | again _ _ => none

end Reloading

end ContentFilter
