import ContentFilter.Filter.Network
import ContentFilter.Resource
import ContentFilter.Rule.Basic

/-!
Network filters as declarative rules, as far as a browser can evaluate them.
-/

namespace ContentFilter

/-- Why a filter has no declarative form. -/
inductive ConversionCause where
  | csp | cosmeticException | badFilter | redirectRule | nonAscii
  | unknownResource (name : String)
  deriving DecidableEq, Repr

def ConversionCause.message : ConversionCause → String
  | .csp => "$csp is not supported by declarative rules"
  | .cosmeticException => "cosmetic exceptions apply in the page"
  | .badFilter => "$badfilter has no declarative form"
  | .redirectRule => "$redirect-rule has no declarative form"
  | .nonAscii => "non-ASCII pattern"
  | .unknownResource name => "unknown redirect resource '" ++ name ++ "'"

/-- A filter that was not converted. -/
structure ConversionError where
  filter : String
  cause : ConversionCause
  deriving DecidableEq, Repr

def ConversionError.reason (error : ConversionError) : String := error.cause.message

namespace Rule

/-- The pattern of a filter with its anchors, unless it is empty. -/
def urlFilter? (filter : NetworkFilter) : Option String :=
  let start := match filter.hostname with
    | some host => "||" ++ host
    | none => if filter.has .hostAnchor then "||" else if filter.has .leftAnchor then "|" else ""
  let text := start ++ filter.pattern ++ if filter.has .rightAnchor then "|" else ""
  if text.isEmpty then none else some text

def nonEmpty {α : Type} (items : List α) : Option (List α) :=
  if items.isEmpty then none else some items

def conditionOf (filter : NetworkFilter) : RuleCondition where
  urlFilter := if filter.isRegex then none else urlFilter? filter
  regexFilter := if filter.isRegex then some filter.pattern else none
  isUrlFilterCaseSensitive := if filter.has .matchCase then some true else none
  initiatorDomains := filter.domains.bind fun domains => nonEmpty domains.included
  excludedInitiatorDomains := filter.domains.bind fun domains => nonEmpty domains.excluded
  resourceTypes := if filter.kinds.isEmpty then none else some (Kind.browserNamesOf filter.kinds)
  domainType :=
    if filter.parties = Party.third.set then some .thirdParty
    else if filter.parties = Party.first.set then some .firstParty
    else none

/-- What makes a filter unfit for a rule, its redirect aside. -/
def obstacle? (filter : NetworkFilter) : Option ConversionCause :=
  if filter.isCsp then some .csp
  else if filter.isCosmeticException then some .cosmeticException
  else if filter.has .badFilter then some .badFilter
  else if filter.has .redirectRule then some .redirectRule
  else if filter.raw.toList.any (0x80 ≤ ·.toNat) then some .nonAscii
  else none

/-- The action of a filter with its redirect and its priority. -/
def actionOf (filter : NetworkFilter) :
    Except ConversionCause (RuleAction × Option RuleRedirect × Nat) :=
  match filter.action, filter.redirect with
  | .allow, _ => .ok (.allow, none, Priority.filterAllow)
  | .block, some name =>
    match Resource.find? name with
    | some redirect =>
      .ok (.redirect, some { extensionPath := some redirect.path }, Priority.filterRedirect)
    | none => .error (.unknownResource name)
  | .block, none => .ok (.block, none, Priority.filterBlock)

/-- The rule of one filter, not yet numbered. -/
def ofFilter (filter : NetworkFilter) : Except ConversionError Rule :=
  match obstacle? filter with
  | some cause => .error ⟨filter.raw, cause⟩
  | none =>
    match actionOf filter with
    | .error cause => .error ⟨filter.raw, cause⟩
    | .ok (action, redirect, priority) =>
      let bonus := if filter.isImportant then Priority.filterImportant else 0
      .ok { priority := priority + bonus, action, redirect, condition := conditionOf filter }

/-- The rules of the filters that have one, and the errors of the others. -/
def ofFilters (filters : List NetworkFilter) : List Rule × List ConversionError :=
  (filters.filterMap fun filter => (ofFilter filter).toOption,
    filters.filterMap fun filter =>
      match ofFilter filter with
      | .error error => some error
      | .ok _ => none)

end Rule

end ContentFilter
