import ContentFilter.Config.Basic
import ContentFilter.Request
import ContentFilter.Rule.Basic

/-!
Which requests pass untouched: those of paused pages and of managed trusted domains, and those of
trackers that the user allowed on the page.
-/

namespace ContentFilter

open Text (CutFault)

/-- What is known of a tracker: the hosts that belong to it and the filters that stop it. -/
structure Tracker where
  domains : List String
  filters : List String
  deriving DecidableEq, Repr

/-- The known trackers by name. The version tells one state of the knowledge from another. -/
structure TrackerDb where
  trackers : List (String × Tracker) := []
  version : Nat := 0
  deriving DecidableEq, Repr

namespace TrackerDb

/-- Add or replace a tracker. -/
def insert (db : TrackerDb) (id : String) (tracker : Tracker) : TrackerDb :=
  ⟨db.trackers.filter (·.1 != id) ++ [(id, tracker)], db.version + 1⟩

/-- The filters of a known tracker. -/
def filters? (db : TrackerDb) (id : String) : Option (List String) :=
  (db.trackers.lookup id).map (·.filters)

def findHost (host : List Char) : List (String × Tracker) → Except CutFault (Option String)
  | [] => .ok none
  | (id, tracker) :: rest => do
    if ← Domain.isWithinAny host (tracker.domains.map String.toList) then pure (some id)
    else findHost host rest

/-- The tracker that the host of an address belongs to. -/
def trackerOf (db : TrackerDb) (url : String) : Except CutFault (Option String) :=
  match Url.host? url.toList with
  | some host => findHost (Text.lower host) db.trackers
  | none => .ok none

end TrackerDb

namespace Trust

/-- Whether filtering is paused for pages of the host. -/
def isPaused (config : Config) (host : String) (now : Nat) : Except CutFault Bool :=
  config.paused.entries.anyM fun (key, entry) =>
    if entry.isActive now then
      if key == allPages then .ok true else Domain.isWithin host.toList key.toList
    else .ok false

def isTrustedDomain (config : Config) (host : String) : Except CutFault Bool :=
  Domain.isWithinAny host.toList (config.managed.trustedDomains.map String.toList)

/-- Whether a request belongs to what an exception names: the tracker it was attributed to, or a
host when no tracker has that name. -/
def isAttributed (db : TrackerDb) (tracker : Option String) (request : Request) (id : String) :
    Except CutFault Bool :=
  if tracker == some id then .ok true
  else if (db.filters? id).isNone then Domain.isWithin request.hostname.toList id.toList
  else .ok false

/-- Whether an exception covers pages of the host. -/
def covers (rule : TrackerException) (host : String) : Except CutFault Bool :=
  if rule.everywhere then .ok true
  else Domain.isWithinAny host.toList (rule.domains.map String.toList)

def isTrusted (config : Config) (db : TrackerDb) (request : Request) (now : Nat) :
    Except CutFault Bool := do
  let page := request.sourceHostname
  if ← isPaused config page now then pure true
  else if ← isTrustedDomain config page then pure true
  else if config.exceptions.isEmpty then pure false
  else
    let tracker ← db.trackerOf request.url
    config.exceptions.entries.anyM fun (id, rule) => do
      if ← isAttributed db tracker request id then covers rule page else pure false

/-- The domain that a managed entry names in a rule. -/
def ruleDomain (entry : String) : String :=
  String.ofList (Text.lower (Text.dropEndWhile (· == '.') (Text.trim entry.toList)))

/-- One rule for all managed trusted domains, in order and each once. -/
def rules (config : Config) : List Rule :=
  let domains := (config.managed.trustedDomains.map ruleDomain).filter (!·.isEmpty)
  let domains := KeyMap.distinctKeys domains
  if domains.isEmpty then [] else [Rule.allowDocuments Priority.trustedDomain domains]

end Trust

end ContentFilter
