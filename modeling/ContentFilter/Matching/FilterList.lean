import ContentFilter.Hash
import ContentFilter.Matching.Precedence

/-!
A compiled filter list: its filters, and indexes by host and by generic key that find the few that
can matter for a query.
-/

namespace ContentFilter

/-- What the removal of cancelled and repeated filters did. -/
structure OptimizeStats where
  before : Nat
  after : Nat
  deduped : Nat
  badFiltered : Nat
  deriving DecidableEq, Repr

namespace NetworkFilter

/-- A filter without its text and its mark of cancelling another. -/
def body (filter : NetworkFilter) : NetworkFilter :=
  { filter with raw := "", flags := filter.flags.without Flag.badFilter.set }

/-- Drop the filters that another cancels, and all but the first of equal ones. -/
def optimize (filters : List NetworkFilter) : List NetworkFilter × OptimizeStats :=
  let cancelled : Std.HashSet NetworkFilter :=
    .ofList ((filters.filter (·.has .badFilter)).map body)
  let live := filters.filter (!·.has .badFilter)
  let valid := live.filter fun filter => !cancelled.contains filter.body
  let kept := distinctBy body valid
  (kept,
    { before := filters.length
      after := kept.length
      deduped := valid.length - kept.length
      badFiltered := live.length - valid.length })

end NetworkFilter

/-- A network filter with its compiled expression, if it has one. -/
structure CompiledFilter where
  filter : NetworkFilter
  regex : Option Regex

/-- Network filters under the host they name, and those without one. A filter whose expression does
not compile is in neither. -/
structure NetworkIndex where
  byHost : Buckets CompiledFilter := {}
  unindexed : Array CompiledFilter := #[]

namespace NetworkIndex

def insert (index : NetworkIndex) (compiled : CompiledFilter) : NetworkIndex :=
  match compiled.filter.hostname with
  | some host => { index with byHost := index.byHost.add host compiled }
  | none => { index with unindexed := index.unindexed.push compiled }

def add (index : NetworkIndex) (filter : NetworkFilter) : NetworkIndex :=
  match filter.regex? with
  | none => index.insert ⟨filter, none⟩
  | some (some regex) => index.insert ⟨filter, some regex⟩
  | some none => index

def build (filters : List NetworkFilter) : NetworkIndex := filters.foldl add {}

/-- The filters that can match a request to a host. -/
def lookup (index : NetworkIndex) (host : List Char) : List CompiledFilter :=
  ((Domain.lineage host).flatMap fun name => index.byHost.get (String.ofList name)) ++
    index.unindexed.toList

end NetworkIndex

/-- A cosmetic filter and its place in its list. -/
structure PlacedFilter where
  place : Nat
  filter : CosmeticFilter

/-- Cosmetic filters under the hosts they name; generic ones under the key that the document has to
show, if they have one. -/
structure CosmeticIndex where
  byHost : Buckets PlacedFilter := {}
  classes : Buckets PlacedFilter := {}
  ids : Buckets PlacedFilter := {}
  hrefs : Array (String × PlacedFilter) := #[]
  generic : Array PlacedFilter := #[]

namespace CosmeticIndex

def addGeneric (index : CosmeticIndex) (placed : PlacedFilter) : CosmeticIndex :=
  { index with generic := index.generic.push placed }

def add (index : CosmeticIndex) (placed : PlacedFilter) : CosmeticIndex :=
  let filter := placed.filter
  if !filter.isGeneric then
    { index with byHost := filter.hostnames.foldl (fun buckets host => buckets.add host placed) index.byHost }
  else if filter.unhide || filter.kind != .hide then index.addGeneric placed
  else match filter.genericKey with
    | .className name => { index with classes := index.classes.add name placed }
    | .id name => { index with ids := index.ids.add name placed }
    | .href part => { index with hrefs := index.hrefs.push (part, placed) }
    | .base => index.addGeneric placed

def build (filters : List CosmeticFilter) : CosmeticIndex :=
  filters.zipIdx.foldl (fun index (filter, place) => index.add ⟨place, filter⟩) {}

/-- The forms `name.*` of a host and its parents down to its registrable domain. -/
def entityKeys (suffixes : Option Domain.PublicSuffixes) (host : List Char) :
    Except Text.CutFault (List (List Char)) :=
  match Text.cut? ['.'] (Domain.registrable suffixes host) with
  | none => .ok []
  | some (_, suffix) =>
    let drop := Text.Utf8.size suffix + 1
    let long := (Domain.toRegistrable suffixes host).filter fun name => drop < Text.Utf8.size name
    long.mapM fun name =>
      (Text.cutAt name (Text.Utf8.size name - drop)).map fun (entity, _) => entity ++ ['.', '*']

/-- The keys under which filters for a page's host stand: the host, its parents and the forms
`name.*`. -/
def hostKeys (suffixes : Option Domain.PublicSuffixes) (host : List Char) :
    Except Text.CutFault (List (List Char)) :=
  if host.isEmpty then .ok []
  else (entityKeys suffixes host).map (Domain.lineage host ++ ·)

/-- The filters whose key the document showed. -/
def seen (index : CosmeticIndex) (query : CosmeticQuery) : List PlacedFilter :=
  query.classes.flatMap index.classes.get ++ query.ids.flatMap index.ids.get ++
    (index.hrefs.toList.filter fun (part, _) =>
      query.hrefs.any fun href => Text.contains part href.toList).map (·.2)

/-- The filters that can matter for a page. -/
def lookup (suffixes : Option Domain.PublicSuffixes) (index : CosmeticIndex)
    (query : CosmeticQuery) : Except Text.CutFault (List PlacedFilter) := do
  let keys ← hostKeys suffixes query.hostname.toList
  let byHost := keys.flatMap fun key => index.byHost.get (String.ofList key)
  let fromDocument := if query.fromDocument then index.seen query else []
  pure (distinctBy (·.place) (byHost ++ index.generic.toList ++ fromDocument))

end CosmeticIndex

/-- The content of a list: its name, the digest of its source text and its filters. -/
structure ListContent where
  name : String
  digest : UInt64
  network : List NetworkFilter
  cosmetic : List CosmeticFilter
  deriving DecidableEq, Repr

/-- A list with the indexes of its filters. -/
structure FilterList extends ListContent where
  networkIndex : NetworkIndex := .build network
  cosmeticIndex : CosmeticIndex := .build cosmetic
  networkIndex_eq : networkIndex = .build network := by rfl
  cosmeticIndex_eq : cosmeticIndex = .build cosmetic := by rfl

/-- The digest of a source text. -/
def contentDigest (text : String) : UInt64 := Hash.xxHash64 (Text.Utf8.encode text.toList)

namespace FilterList

def ofContent (content : ListContent) : FilterList := { content with }

@[simp] theorem toListContent_ofContent (content : ListContent) :
    (ofContent content).toListContent = content := rfl

/-- A list of parsed filters, less the cancelled and repeated network filters. -/
def ofFilters (name : String) (digest : UInt64) (network : List NetworkFilter)
    (cosmetic : List CosmeticFilter) : FilterList :=
  ofContent { name, digest, network := (NetworkFilter.optimize network).1, cosmetic }

/-- Compile a list text, and return the lines that could not be used. -/
def parse (name text : String) : FilterList × List LineError :=
  let parsed := ParsedList.parse text
  (ofFilters name (contentDigest text) parsed.network parsed.cosmetic, parsed.errors)

/-- The network filters that match a request. -/
def collectNetwork (list : FilterList) (request : Request) : Except Text.CutFault (List Candidate) := do
  let found ← (list.networkIndex.lookup request.hostname.toList).filterM fun compiled =>
    compiled.filter.accepts request compiled.regex
  pure (found.map fun compiled => ⟨compiled.filter, list.name⟩)

/-- The cosmetic filters that apply to a page and belong to the query, exceptions included. -/
def collectCosmetics (suffixes : Option Domain.PublicSuffixes) (list : FilterList)
    (query : CosmeticQuery) : Except Text.CutFault (List CosmeticFilter) := do
  let placed ← list.cosmeticIndex.lookup suffixes query
  (placed.map (·.filter)).filterM fun filter => filter.appliesTo suffixes query.hostname.toList

end FilterList

end ContentFilter
