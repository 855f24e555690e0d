import ContentFilter.Allow.Trust
import ContentFilter.Engine.Basic
import ContentFilter.Filter.Record

/-!
What pages ask the service for, and its answers.
-/

namespace ContentFilter

open Json.Decode (record)

inductive ContentMessage where
  /-- Rules for a page: all up front, or those for what was seen in the document. -/
  | injectCosmetics (url : String) (bootstrap : Bool) (classes ids hrefs : List String)
  | evaluateExtendedSelectors (url : String)
  | reportObservedUrls (url : String) (urls : List String)
  deriving DecidableEq, Repr

inductive ContentResponse where
  | cosmetics (found : CosmeticMatch)
  | extendedSelectors (selectors : List String)
  | observedUrls (trackers : List String)
  /-- The page is none that rules are for. -/
  | skipped
  deriving DecidableEq, Repr

def CosmeticMatch.fields (found : CosmeticMatch) : List (String × Json) :=
  [("styles", .string found.styles), ("scriptlets", .array (found.scriptlets.map (·.toJson))),
    ("extended", .strings found.extended), ("enable_generic", .bool found.enableGeneric)]

namespace ContentMessage

def toJson : ContentMessage → Json
  | .injectCosmetics url bootstrap classes ids hrefs =>
    .object
      [("action", .string "injectCosmetics"), ("url", .string url), ("bootstrap", .bool bootstrap),
        ("classes", .strings classes), ("ids", .strings ids), ("hrefs", .strings hrefs)]
  | .evaluateExtendedSelectors url =>
    .object [("action", .string "evaluateExtendedSelectors"), ("url", .string url)]
  | .reportObservedUrls url urls =>
    .object
      [("action", .string "reportObservedUrls"), ("url", .string url), ("urls", .strings urls)]

/-- The message of that name with the fields of a record. -/
def decodeFields (action : String) : Json.Decoder ContentMessage := fun json =>
  match action with
  | "injectCosmetics" => do
    let r ← record ["url", "bootstrap", "classes", "ids", "hrefs"] json
    pure (.injectCosmetics (← r.required "url" Json.Decode.string)
      (← r.orDefault "bootstrap" Json.Decode.bool false)
      (← r.orDefault "classes" Json.Decode.strings [])
      (← r.orDefault "ids" Json.Decode.strings [])
      (← r.orDefault "hrefs" Json.Decode.strings []))
  | "evaluateExtendedSelectors" => do
    let r ← record ["url"] json
    pure (.evaluateExtendedSelectors (← r.required "url" Json.Decode.string))
  | "reportObservedUrls" => do
    let r ← record ["url", "urls"] json
    pure (.reportObservedUrls (← r.required "url" Json.Decode.string)
      (← r.required "urls" Json.Decode.strings))
  | _ => none

/-- Read a message: an object whose field `action` says which. -/
def decode : Json.Decoder ContentMessage
  | .object fields => do
    let tag ← record ["action"] (.object fields)
    decodeFields (← tag.required "action" Json.Decode.string) (.object fields)
  | _ => none

end ContentMessage

def ContentResponse.toJson : ContentResponse → Json
  | .cosmetics found => .object (("type", .string "cosmetics") :: found.fields)
  | .extendedSelectors selectors =>
    .object [("type", .string "extendedSelectors"), ("selectors", .strings selectors)]
  | .observedUrls trackers =>
    .object [("type", .string "observedUrls"), ("trackers", .strings trackers)]
  | .skipped => .object [("type", .string "skipped")]

/-- What answers pages at one moment. -/
structure Injection where
  suffixes : Option Domain.PublicSuffixes
  config : Config
  trackers : TrackerDb
  engine : Engine
  now : Nat

namespace Injection

/-- Whether a page gets no rules: it has no host, or filtering is off on it. -/
def isSkipped (self : Injection) (host : String) : Except Text.CutFault Bool := do
  if host.isEmpty then pure true
  else if ← Trust.isPaused self.config host self.now then pure true
  else Trust.isTrustedDomain self.config host

def cosmetics (self : Injection) (query : CosmeticQuery) :
    Except Text.CutFault (Option CosmeticMatch) := do
  if ← self.isSkipped query.hostname then pure none
  else pure (some (← self.engine.matchCosmetics self.suffixes query))

/-- The trackers that some addresses belong to, in order and each once. -/
def observed (self : Injection) (urls : List String) : Except Text.CutFault (List String) := do
  let found ← urls.mapM self.trackers.trackerOf
  pure (KeyMap.distinctKeys (found.filterMap id))

def respond (self : Injection) : ContentMessage → Except Text.CutFault ContentResponse
  | .injectCosmetics url bootstrap classes ids hrefs => do
    let query := if bootstrap then CosmeticQuery.bootstrap url else .document url classes ids hrefs
    match ← self.cosmetics query with
    | some found => pure (.cosmetics found)
    | none => pure .skipped
  | .evaluateExtendedSelectors url => do
    match ← self.cosmetics (.bootstrap url) with
    | some found => pure (.extendedSelectors found.extended)
    | none => pure (.extendedSelectors [])
  | .reportObservedUrls _ urls => do pure (.observedUrls (← self.observed urls))

end Injection

end ContentFilter
