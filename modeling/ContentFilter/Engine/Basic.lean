import ContentFilter.Matching.FilterList

/-!
An engine is a sequence of compiled lists. It answers for a request, for a page and for a response.
-/

namespace ContentFilter

/-- A list in an engine. The origin tells the lists of one compilation or one reading of a snapshot
from equal lists of another. -/
structure Member where
  origin : Nat
  list : FilterList

structure Engine where
  members : List Member := []

/-- How many lists and filters an engine has. -/
structure EngineStats where
  lists : Nat
  network : Nat
  cosmetic : Nat
  deriving DecidableEq, Repr

namespace Engine

def empty : Engine := {}

def lists (engine : Engine) : List FilterList := engine.members.map (·.list)

def ofList (origin : Nat) (list : FilterList) : Engine := ⟨[⟨origin, list⟩]⟩

/-- Compile one list, and return the lines that could not be used. -/
def compile (origin : Nat) (name text : String) : Engine × List LineError :=
  let (list, errors) := FilterList.parse name text
  (ofList origin list, errors)

def ofFilters (origin : Nat) (name : String) (digest : UInt64) (network : List NetworkFilter)
    (cosmetic : List CosmeticFilter) : Engine :=
  ofList origin (.ofFilters name digest network cosmetic)

/-- Lists that were read together. -/
def ofContents (origin : Nat) (contents : List ListContent) : Engine :=
  ⟨contents.zipIdx.map fun (content, i) => ⟨origin + i, .ofContent content⟩⟩

/-- All lists of some engines; a list that several share stays once. -/
def merge (engines : List Engine) : Engine :=
  ⟨distinctBy (·.origin) (engines.flatMap (·.members))⟩

def isEmpty (engine : Engine) : Bool := engine.members.isEmpty

def listNames (engine : Engine) : List String := engine.lists.map (·.name)

/-- The digest of the only list, or of the names and digests of all. -/
def digest (engine : Engine) : UInt64 :=
  match engine.lists with
  | [list] => list.digest
  | lists => Hash.xxHash64 (lists.flatMap fun list =>
      Text.Utf8.encode list.name.toList ++ Hash.XxHash64.bytesOf list.digest)

def stats (engine : Engine) : EngineStats where
  lists := engine.lists.length
  network := engine.lists.foldl (fun n list => n + list.network.length) 0
  cosmetic := engine.lists.foldl (fun n list => n + list.cosmetic.length) 0

def collectNetwork (engine : Engine) (request : Request) : Except Text.CutFault (List Candidate) := do
  let found ← engine.lists.mapM (·.collectNetwork request)
  pure found.flatten

def collectCosmetics (suffixes : Option Domain.PublicSuffixes) (engine : Engine)
    (query : CosmeticQuery) : Except Text.CutFault (List CosmeticFilter) := do
  let found ← engine.lists.mapM (·.collectCosmetics suffixes query)
  pure found.flatten

def matchRequest (engine : Engine) (request : Request) : Except Text.CutFault MatchResult :=
  (engine.collectNetwork request).map Precedence.decide

def matchCosmetics (suffixes : Option Domain.PublicSuffixes) (engine : Engine)
    (query : CosmeticQuery) : Except Text.CutFault CosmeticMatch := do
  let candidates ← engine.collectNetwork (.page suffixes query.url)
  let filters ← engine.collectCosmetics suffixes query
  pure (CosmeticMatch.resolve query (.of candidates) filters)

def matchResponse (suffixes : Option Domain.PublicSuffixes) (engine : Engine) (request : Request) :
    Except Text.CutFault ResponseMatch := do
  let candidates ← engine.collectNetwork request
  let filters ← engine.collectCosmetics suffixes (.bootstrap request.url)
  pure ⟨ResponseMatch.policies candidates, ResponseMatch.selectors filters⟩

end Engine

end ContentFilter
