import ContentFilter.Config.Bus
import ContentFilter.Engine.Basic
import ContentFilter.Rule.Configured
import ContentFilter.Rule.Replace
import ContentFilter.Url.Percent

/-!
Protection from navigations to blocked pages: they are diverted to a page that asks the user, who
may go on once in that tab or turn the protection off for the host.
-/

namespace ContentFilter

inductive Navigation where
  | proceed
  | divert (url : String)
  deriving DecidableEq, Repr

/-- A host that the user went on to in a tab. -/
structure Allowance where
  tab : Int
  host : String
  deriving DecidableEq, Repr

namespace Allowance

def lt (a b : Allowance) : Bool := a.tab < b.tab || (a.tab == b.tab && a.host < b.host)

/-- Add an allowance in order. -/
def insert (allowance : Allowance) : List Allowance → List Allowance
  | [] => [allowance]
  | other :: rest =>
    if allowance.lt other then allowance :: other :: rest else other :: insert allowance rest

def rule (allowance : Allowance) : Rule where
  priority := Priority.allowOnce
  action := .allow
  condition :=
    { requestDomains := some [allowance.host]
      resourceTypes := some ["main_frame"]
      tabIds := some [allowance.tab] }

end Allowance

/-- What decides about navigations at one moment. -/
structure Gatekeeper where
  suffixes : Option Domain.PublicSuffixes
  config : Config
  trackers : TrackerDb
  /-- The page that asks the user. -/
  interstitial : String
  allowances : List Allowance
  engine : Engine
  now : Nat

namespace Gatekeeper

/-- The asking page for an address. -/
def interstitialUrl (page target : String) : String :=
  page ++ "?url=" ++ String.ofList (Url.formEncode target.toList)

def onNavigate (self : Gatekeeper) (tab : Int) (url : String) : Except Text.CutFault Navigation := do
  let protection := self.config.redirectProtection
  if !protection.enabled then pure .proceed
  else
    let request := Request.page self.suffixes url
    if ← protection.isDisabledFor request.hostname then pure .proceed
    else if self.allowances.contains ⟨tab, request.hostname⟩ then pure .proceed
    else if ← Trust.isTrusted self.config self.trackers request self.now then pure .proceed
    else if (← self.engine.matchRequest request).decision == .allow then pure .proceed
    else pure (.divert (interstitialUrl self.interstitial url))

end Gatekeeper

/-- The allowances, and the host that keeps a rule for each of them. -/
structure AllowanceState where
  allowances : List Allowance := []
  host : Option RuleHost := none

namespace AllowanceState

/-- Replace the session rules by those for some allowances. -/
def install (allowances : List Allowance) : ExceptT Failure (Task RuleHost) Unit := do
  let family := RuleFamily.redirectAllowOnce
  let rules ← (family.assign (allowances.map (·.rule))).mapError Failure.overflow
  let removed ← RuleHost.idsOf family
  RuleHost.call (RuleHost.updateRules family.isSession removed rules)

/-- Install the rules for the allowances, if there is a host. -/
def sync : Task AllowanceState (Except Failure Unit) := do
  let state ← Task.read id
  match state.host with
  | none => pure (.ok ())
  | some host =>
    (install state.allowances).run.within (·.host.getD host) fun host s => { s with host := some host }

/-- Change the allowances, and install their rules if that made a difference. -/
def change (f : List Allowance → List Allowance) : Task AllowanceState (Except Failure Unit) := do
  let changed ← Task.act fun s => (f s.allowances != s.allowances, { s with allowances := f s.allowances })
  if changed then sync else pure (.ok ())

/-- Let the user go on to the host of an address in a tab. -/
def allowOnce (suffixes : Option Domain.PublicSuffixes) (tab : Int) (url : String) :
    Task AllowanceState (Except Failure Unit) :=
  let allowance : Allowance := ⟨tab, (Request.page suffixes url).hostname⟩
  change fun allowances =>
    if allowances.contains allowance then allowances else allowance.insert allowances

/-- The tab was closed. -/
def forgetTab (tab : Int) : Task AllowanceState (Except Failure Unit) :=
  change fun allowances => allowances.filter (·.tab != tab)

end AllowanceState

/-- Turn the protection off for a host. -/
def RedirectProtection.disableFor (host : String) : Bus → Bool × Bus :=
  Bus.update fun config =>
    let host := String.ofList (Text.lower (Text.trim host.toList))
    let protection := config.redirectProtection
    if protection.disabled.contains host then config
    else { config with
      redirectProtection := { protection with disabled := protection.disabled ++ [host] } }

end ContentFilter
