import ContentFilter.Engine.Snapshot

/-!
One engine that can be loaded and replaced. Before it is loaded every request is allowed.
-/

namespace ContentFilter

structure Session where
  /-- The engine, and the size of its snapshot. -/
  loaded : Option (Engine × Nat) := none

/-- What was compiled of one list. -/
structure ListStats where
  name : String
  lines : Nat
  network : Nat
  cosmetic : Nat
  errors : List LineError
  deriving Repr

namespace Session

/-- Load the engine of a snapshot in place of the last one. -/
def load (data : List UInt8) : Except SnapshotError Session := do
  let engine ← Engine.deserialize 0 data
  pure ⟨some (engine, data.length)⟩

def isLoaded (session : Session) : Bool := session.loaded.isSome

def matchRequest (session : Session) (request : Request) : Except Text.CutFault MatchResult :=
  match session.loaded with
  | some (engine, _) => engine.matchRequest request
  | none => .ok {}

def shouldBlock (session : Session) (request : Request) : Except Text.CutFault Bool :=
  (session.matchRequest request).map (·.decision != .allow)

end Session

namespace ListStats

/-- Compile one list, and count what became of it. -/
def compile (origin : Nat) (name text : String) : Engine × ListStats :=
  let (engine, errors) := Engine.compile origin name text
  (engine,
    { name
      lines := (Text.lines text.toList).length
      network := engine.stats.network
      cosmetic := engine.stats.cosmetic
      errors })

/-- Compile lists by name and text into one engine. -/
def compileAll (lists : List (String × String)) : Engine × List ListStats :=
  let compiled := lists.zipIdx.map fun ((name, text), origin) => compile origin name text
  (Engine.merge (compiled.map (·.1)), compiled.map (·.2))

end ListStats

end ContentFilter
