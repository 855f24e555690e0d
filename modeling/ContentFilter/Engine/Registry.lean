import ContentFilter.Engine.Custom
import ContentFilter.Engine.Source
import ContentFilter.Task

/-!
The engines by name. An engine comes from the cache, else from a stored or a shipped snapshot, else
from the text of its list. Work on one name waits for other work on it.
-/

namespace ContentFilter

inductive StoreCall where
  | load | save | remove
  deriving DecidableEq, Repr

def StoreCall.name : StoreCall → String
  | .load => "load"
  | .save => "save"
  | .remove => "remove"

/-- Snapshots that outlive the service. -/
structure SnapshotStore where
  snapshots : KeyMap (List UInt8) := .empty
  fails : StoreCall → Bool := fun _ => false

namespace SnapshotStore

def load (store : SnapshotStore) (name : String) : Except Failure (Option (List UInt8)) :=
  if store.fails .load then .error .io else .ok (store.snapshots.get? name)

/-- Save a snapshot; when that fails the store stays as it was. -/
def save (store : SnapshotStore) (name : String) (data : List UInt8) :
    Except Failure Unit × SnapshotStore :=
  if store.fails .save then (.error .io, store)
  else (.ok (), { store with snapshots := store.snapshots.insert name data })

def remove (store : SnapshotStore) (name : String) : Except Failure Unit × SnapshotStore :=
  if store.fails .remove then (.error .io, store)
  else (.ok (), { store with snapshots := store.snapshots.erase name })

end SnapshotStore

structure Registry where
  store : SnapshotStore := {}
  bundled : FileSource := {}
  remote : Option FileSource := none
  cache : KeyMap Engine := .empty
  /-- The names that some task works on. -/
  busy : List String := []
  /-- The first origin that no list has. -/
  fresh : Nat := 0

namespace Registry

/-- Work on a name while no other task does. -/
def exclusively {α : Type} (name : String) (task : Task Registry α) : Task Registry α := do
  Task.when (fun r => !r.busy.contains name) fun r => ((), { r with busy := name :: r.busy })
  task.withCleanup fun r => { r with busy := r.busy.erase name }

def get? (registry : Registry) (name : String) : Option Engine := registry.cache.get? name

/-- An origin for a new list. -/
def freshOrigin : Task Registry Nat := Task.act fun r => (r.fresh, { r with fresh := r.fresh + 1 })

def fetchBundled (path : String) : Task Registry (Except Failure (List UInt8)) :=
  Task.when (fun r => !r.bundled.slow.contains path) fun r => (r.bundled.bytes path, r)

/-- Fetch a file from the remote source; nothing without one. -/
def fetchRemote (path : String) : Task Registry (Option (Except Failure (List UInt8))) :=
  Task.when (fun r => !r.remote.any (·.slow.contains path)) fun r =>
    (r.remote.map (·.bytes path), r)

/-- Publish the engine of a snapshot, if there is one that can be read. -/
def adopt (name : String) (data : Option (List UInt8)) : Task Registry (Option Engine) :=
  Task.act fun r =>
    match data.bind fun data => (Engine.deserialize r.fresh data).toOption with
    | some engine =>
      (some engine,
        { r with cache := r.cache.insert name engine, fresh := r.fresh + engine.members.length })
    | none => (none, r)

def adoptStored (name : String) : Task Registry (Option Engine) := do
  let stored ← Task.read (·.store.load name)
  adopt name stored.toOption.join

def adoptBundled (name : String) : Task Registry (Option Engine) := do
  let data ← fetchBundled (FileSource.snapshotFile name)
  adopt name data.toOption

/-- The engine of a name as far as it is at hand, for a task that works on the name. -/
def find (name : String) : Task Registry (Option Engine) := do
  match ← Task.read (·.get? name) with
  | some engine => pure (some engine)
  | none =>
    match ← adoptStored name with
    | some engine => pure (some engine)
    | none => adoptBundled name

/-- Save and publish an engine. An engine that cannot be saved is as good until the next start. -/
def keep (name : String) (engine : Engine) : Task Registry Engine := do
  Task.change fun r => { r with store := (r.store.save name engine.serialize).2 }
  Task.change fun r => { r with cache := r.cache.insert name engine }
  pure engine

def compileAndKeep (name text : String) : Task Registry Engine := do
  let origin ← freshOrigin
  keep name (Engine.compile origin name text).1

def init (name : String) : Task Registry (Option Engine) := exclusively name (find name)

def create (name text : String) : Task Registry Engine :=
  exclusively name (compileAndKeep name text)

def insert (name : String) (engine : Engine) : Task Registry Engine :=
  exclusively name (keep name engine)

/-- Make a name stand for the lists of some engines together. -/
def replace (name : String) (engines : List Engine) : Task Registry Engine :=
  insert name (Engine.merge engines)

/-- Compile a list again if its remote text is another. The text is fetched before the name is worked
on, so a slow source holds nobody up. -/
def update (name : String) : Task Registry (Except Failure Bool) := do
  let path := FileSource.listFile name
  match ← fetchRemote path with
  | none => pure (.ok false)
  | some fetched =>
    match fetched >>= FileSource.textOf path with
    | .error failure => pure (.error failure)
    | .ok text =>
      exclusively name do
        match ← find name with
        | some engine =>
          if engine.digest = contentDigest text then pure (.ok false)
          else do
            let _ ← compileAndKeep name text
            pure (.ok true)
        | none =>
          let _ ← compileAndKeep name text
          pure (.ok true)

def remove (name : String) : Task Registry (Except Failure Unit) :=
  exclusively name do
    Task.change fun r => { r with cache := r.cache.erase name }
    Task.act fun r => ((r.store.remove name).1, { r with store := (r.store.remove name).2 })

/-- The text of a list: the shipped one, else the remote one. -/
def listText (name : String) : Task Registry (Except Failure String) := do
  let path := FileSource.listFile name
  let unavailable := Failure.engineUnavailable name
  match (← fetchBundled path) >>= FileSource.textOf path with
  | .ok text => pure (.ok text)
  | .error _ =>
    match ← fetchRemote path with
    | none => pure (.error unavailable)
    | some fetched => pure ((fetched >>= FileSource.textOf path).mapError fun _ => unavailable)

/-- The engine of a name from wherever it can be had. -/
def resolve (name : String) : Task Registry (Except Failure Engine) :=
  exclusively name do
    match ← find name with
    | some engine => pure (.ok engine)
    | none =>
      match ← listText name with
      | .error failure => pure (.error failure)
      | .ok text => do pure (.ok (← compileAndKeep name text))

/-- Compile the custom filters of a configuration anew; without any their engine is removed. -/
def applyCustomFilters (config : Config) : Task Registry (Except Failure CustomReport) := do
  match config.effectiveCustomFilters with
  | none => pure ((← remove ListName.custom).map fun _ => {})
  | some text =>
    let origin ← freshOrigin
    let (report, engine) := CustomFilters.compile origin text config.customFilters.trustedScriptlets
    let _ ← insert ListName.custom engine
    pure (.ok report)

end Registry

end ContentFilter
