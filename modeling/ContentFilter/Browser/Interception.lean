import ContentFilter.Allow.Trust
import ContentFilter.Config.Settings
import ContentFilter.Engine.Basic

/-!
Stopping requests one by one, where the browser asks about each of them.
-/

namespace ContentFilter

open Json.Decode (record)

/-- What the browser says about a request. -/
structure RequestDetails where
  url : String
  initiator : Option String := none
  kind : String
  tabId : Int := -1
  deriving DecidableEq, Repr

namespace RequestDetails

def toJson (d : RequestDetails) : Json :=
  .object
    [("url", .string d.url), ("initiator", .optional .string d.initiator), ("type", .string d.kind),
      ("tabId", .integer d.tabId)]

def decode : Json.Decoder RequestDetails := fun json => do
  let r ← record ["url", "initiator", "type", "tabId"] json
  pure
    { url := ← r.required "url" Json.Decode.string
      initiator := ← r.orDefault "initiator" (Json.Decode.nullable Json.Decode.string) none
      kind := ← r.required "type" Json.Decode.string
      tabId := ← r.orDefault "tabId" Json.Decode.int32 (-1) }

def request (suffixes : Option Domain.PublicSuffixes) (d : RequestDetails) : Request :=
  .ofBrowser suffixes d.url d.initiator d.kind

end RequestDetails

/-- What becomes of a stopped request. -/
inductive Verdict where
  | cancel
  | redirect (url : String)
  deriving DecidableEq, Repr

def Verdict.toJson : Verdict → Json
  | .cancel => .object [("type", .string "cancel")]
  | .redirect url => .object [("type", .string "redirect"), ("url", .string url)]

/-- What decides about requests at one moment. -/
structure Interception where
  suffixes : Option Domain.PublicSuffixes
  config : Config
  trackers : TrackerDb
  /-- The origin of the extension, under which bundled resources can be had. -/
  origin : Option String
  engine : Engine
  now : Nat

namespace Interception

/-- The bundled copy of a resource when the origin is known, else its embedded form. -/
def redirectUrl (origin : Option String) (redirect : Redirect) : String :=
  match origin with
  | some origin => Settings.trimOrigin origin ++ redirect.path
  | none => redirect.dataUrl

def verdictOf (origin : Option String) (result : MatchResult) : Option Verdict :=
  match result.decision with
  | .allow => none
  | .block => some .cancel
  | .redirect =>
    match result.redirect with
    | some redirect => some (.redirect (redirectUrl origin redirect))
    | none => some .cancel

/-- What to do with a request before it is made. Navigations are left alone. -/
def onRequest (self : Interception) (details : RequestDetails) :
    Except Text.CutFault (Option Verdict) := do
  let request := details.request self.suffixes
  if request.kind == .mainFrame then pure none
  else if ← Trust.isTrusted self.config self.trackers request self.now then pure none
  else pure (verdictOf self.origin (← self.engine.matchRequest request))

/-- What to change in the response for a document. -/
def onHeaders (self : Interception) (details : RequestDetails) :
    Except Text.CutFault (Option ResponseMatch) := do
  let request := details.request self.suffixes
  if !request.kind.isDocument then pure none
  else if ← Trust.isTrusted self.config self.trackers request self.now then pure none
  else
    let found ← self.engine.matchResponse self.suffixes request
    pure (if found.csp.isEmpty && found.html.isEmpty then none else some found)

end Interception

end ContentFilter
