import ContentFilter.Json.Decode
import ContentFilter.Json.Parser
import ContentFilter.Url.Absolute

/-!
The settings of a service, which stay the same as long as it runs.
-/

namespace ContentFilter

open Json.Decode (record)

/-- How requests are stopped. -/
inductive Enforcement where
  /-- The browser evaluates rules that it was given. -/
  | declarative
  /-- Every request is matched when it is made. -/
  | imperative
  deriving DecidableEq, Repr

namespace Enforcement

def name : Enforcement → String
  | .declarative => "declarative"
  | .imperative => "imperative"

def decode : Json.Decoder Enforcement :=
  Json.Decode.name [("declarative", .declarative), ("imperative", .imperative)]

end Enforcement

/-- What a browser offers. -/
structure Capabilities where
  declarativeRules : Bool := false
  blockingInterception : Bool := false
  deriving DecidableEq, Repr

def Capabilities.decode : Json.Decoder Capabilities := fun json => do
  let r ← record ["declarativeRules", "blockingInterception"] json
  pure
    { declarativeRules := ← r.orDefault "declarativeRules" Json.Decode.bool false
      blockingInterception := ← r.orDefault "blockingInterception" Json.Decode.bool false }

/-- What is forced wins; else matching each request is preferred, since it knows every filter. -/
def Enforcement.select (capabilities : Capabilities) (forced : Option Enforcement) : Enforcement :=
  match forced with
  | some enforcement => enforcement
  | none => if capabilities.blockingInterception then .imperative else .declarative

structure Settings where
  snapshotDir : Option String := none
  bundledDir : Option String := none
  remoteBaseUrl : Option String := none
  extensionOrigin : Option String := none
  interstitialPath : String := "/pages/redirect-protection.html"
  updateIntervalSecs : Nat := 3600
  fetchTimeoutSecs : Nat := 30
  busDebounceMs : Nat := 0
  /-- Forces a way of enforcement. -/
  enforcement : Option Enforcement := none
  deriving DecidableEq, Repr

inductive SettingsError where
  | zeroUpdateInterval
  | zeroFetchTimeout
  | remoteBaseUrl (url : String) (cause : Url.UrlError)
  | listBaseUrl (url : String) (cause : Url.UrlError)
  | relativeInterstitial (path : String)
  | noRuleHost
  deriving DecidableEq, Repr

def SettingsError.message : SettingsError → String
  | .zeroUpdateInterval => "updateIntervalSecs must be positive"
  | .zeroFetchTimeout => "fetchTimeoutSecs must be positive"
  | .remoteBaseUrl url cause => "remoteBaseUrl '" ++ url ++ "' is invalid: " ++ cause.message
  | .listBaseUrl url cause => "invalid list base URL '" ++ url ++ "': " ++ cause.message
  | .relativeInterstitial path => "interstitialPath must be absolute, got '" ++ path ++ "'"
  | .noRuleHost => "declarative enforcement needs a declarative host"

namespace Settings

def toJson (s : Settings) : Json :=
  .object
    [("snapshotDir", .optional .string s.snapshotDir), ("bundledDir", .optional .string s.bundledDir),
      ("remoteBaseUrl", .optional .string s.remoteBaseUrl),
      ("extensionOrigin", .optional .string s.extensionOrigin),
      ("interstitialPath", .string s.interstitialPath),
      ("updateIntervalSecs", .nat s.updateIntervalSecs),
      ("fetchTimeoutSecs", .nat s.fetchTimeoutSecs), ("busDebounceMs", .nat s.busDebounceMs),
      ("enforcement", .optional (.string ·.name) s.enforcement)]

def decode : Json.Decoder Settings := fun json => do
  let r ← record ["snapshotDir", "bundledDir", "remoteBaseUrl", "extensionOrigin",
    "interstitialPath", "updateIntervalSecs", "fetchTimeoutSecs", "busDebounceMs",
    "enforcement"] json
  let d : Settings := {}
  let text := Json.Decode.nullable Json.Decode.string
  let count := Json.Decode.word64
  pure
    { snapshotDir := ← r.orDefault "snapshotDir" text none
      bundledDir := ← r.orDefault "bundledDir" text none
      remoteBaseUrl := ← r.orDefault "remoteBaseUrl" text none
      extensionOrigin := ← r.orDefault "extensionOrigin" text none
      interstitialPath := ← r.orDefault "interstitialPath" Json.Decode.string d.interstitialPath
      updateIntervalSecs := ← r.orDefault "updateIntervalSecs" count d.updateIntervalSecs
      fetchTimeoutSecs := ← r.orDefault "fetchTimeoutSecs" count d.fetchTimeoutSecs
      busDebounceMs := ← r.orDefault "busDebounceMs" count d.busDebounceMs
      enforcement := ← r.orDefault "enforcement" (Json.Decode.nullable Enforcement.decode) none }

def check (s : Settings) : Except SettingsError Unit := do
  if s.updateIntervalSecs = 0 then throw .zeroUpdateInterval
  if s.fetchTimeoutSecs = 0 then throw .zeroFetchTimeout
  if let some url := s.remoteBaseUrl then
    if let .error cause := Url.parseUrl url.toList then throw (.remoteBaseUrl url cause)
  if !Text.startsWith "/" s.interstitialPath.toList then
    throw (.relativeInterstitial s.interstitialPath)

/-- Settings that pass the checks; `none` is text that is no settings at all. -/
def parse (text : String) : Option (Except SettingsError Settings) := do
  let s ← Json.parse text >>= decode
  pure (s.check.map fun _ => s)

/-- An origin without slashes at its end. -/
def trimOrigin (origin : String) : String :=
  String.ofList (Text.dropEndWhile (· == '/') origin.toList)

/-- The page for diverted navigations, absolute when the origin is known. -/
def interstitialUrl (s : Settings) : String :=
  match s.extensionOrigin with
  | some origin => trimOrigin origin ++ s.interstitialPath
  | none => s.interstitialPath

end Settings

end ContentFilter
