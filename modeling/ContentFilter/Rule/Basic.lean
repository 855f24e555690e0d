import ContentFilter.Json.Decode

/-!
Declarative rules, which the browser evaluates by itself. The rule of the highest priority wins, and
on a tie an allow rule does.
-/

namespace ContentFilter

inductive RuleAction where
  | block | allow | allowAllRequests | redirect | upgradeScheme
  deriving DecidableEq, Repr

/-- Where a redirect goes: to a bundled file or to an address. -/
structure RuleRedirect where
  extensionPath : Option String := none
  url : Option String := none
  deriving DecidableEq, Repr

inductive DomainType where
  | firstParty | thirdParty
  deriving DecidableEq, Repr

/-- The requests that a rule applies to; an absent field limits nothing. -/
structure RuleCondition where
  urlFilter : Option String := none
  regexFilter : Option String := none
  isUrlFilterCaseSensitive : Option Bool := none
  requestDomains : Option (List String) := none
  excludedRequestDomains : Option (List String) := none
  initiatorDomains : Option (List String) := none
  excludedInitiatorDomains : Option (List String) := none
  resourceTypes : Option (List String) := none
  excludedResourceTypes : Option (List String) := none
  domainType : Option DomainType := none
  tabIds : Option (List Int) := none
  deriving DecidableEq, Repr

structure Rule where
  /-- Zero until the rule is numbered within its family. -/
  id : Nat := 0
  priority : Nat
  action : RuleAction
  redirect : Option RuleRedirect := none
  condition : RuleCondition := {}
  deriving DecidableEq, Repr

namespace Priority

def pause : Nat := 10000000
def trustedDomain : Nat := 10000000
def safeModeBlock : Nat := 5000001
def safeModeAllow : Nat := 5000000
def redirectProtection : Nat := 4000000
def allowOnce : Nat := 4000000
def exception : Nat := 3000000
def filterBlock : Nat := 1
def filterAllow : Nat := 2
def filterRedirect : Nat := 2
def filterImportant : Nat := 100

end Priority

namespace Rule

/-- The only types that a rule for whole documents accepts. -/
def documentTypes : List String := ["main_frame", "sub_frame"]

/-- Allow every request of the documents on some domains. -/
def allowDocuments (priority : Nat) (domains : List String) : Rule where
  priority
  action := .allowAllRequests
  condition := { requestDomains := some domains, resourceTypes := some documentTypes }

def regex? (rule : Rule) : Option String := rule.condition.regexFilter

end Rule

open Json (Decoder)
open Json.Decode (record)

namespace RuleAction

def names : List (String × RuleAction) :=
  [("block", .block), ("allow", .allow), ("allowAllRequests", .allowAllRequests),
    ("redirect", .redirect), ("upgradeScheme", .upgradeScheme)]

def name : RuleAction → String
  | .block => "block"
  | .allow => "allow"
  | .allowAllRequests => "allowAllRequests"
  | .redirect => "redirect"
  | .upgradeScheme => "upgradeScheme"

end RuleAction

namespace DomainType

def names : List (String × DomainType) := [("firstParty", .firstParty), ("thirdParty", .thirdParty)]

def name : DomainType → String
  | .firstParty => "firstParty"
  | .thirdParty => "thirdParty"

end DomainType

namespace RuleRedirect

def toJson (redirect : RuleRedirect) : Json :=
  .present [("extensionPath", redirect.extensionPath.map .string), ("url", redirect.url.map .string)]

def decode : Decoder RuleRedirect := fun json => do
  let r ← record ["extensionPath", "url"] json
  let text := Json.Decode.nullable Json.Decode.string
  pure
    { extensionPath := ← r.orDefault "extensionPath" text none
      url := ← r.orDefault "url" text none }

end RuleRedirect

namespace RuleCondition

def toJson (c : RuleCondition) : Json :=
  .present
    [("urlFilter", c.urlFilter.map .string), ("regexFilter", c.regexFilter.map .string),
      ("isUrlFilterCaseSensitive", c.isUrlFilterCaseSensitive.map .bool),
      ("requestDomains", c.requestDomains.map .strings),
      ("excludedRequestDomains", c.excludedRequestDomains.map .strings),
      ("initiatorDomains", c.initiatorDomains.map .strings),
      ("excludedInitiatorDomains", c.excludedInitiatorDomains.map .strings),
      ("resourceTypes", c.resourceTypes.map .strings),
      ("excludedResourceTypes", c.excludedResourceTypes.map .strings),
      ("domainType", c.domainType.map fun d => .string d.name),
      ("tabIds", c.tabIds.map fun ids => .array (ids.map .integer))]

def decode : Decoder RuleCondition := fun json => do
  let r ← record ["urlFilter", "regexFilter", "isUrlFilterCaseSensitive", "requestDomains",
    "excludedRequestDomains", "initiatorDomains", "excludedInitiatorDomains", "resourceTypes",
    "excludedResourceTypes", "domainType", "tabIds"] json
  let text := Json.Decode.nullable Json.Decode.string
  let texts := Json.Decode.nullable Json.Decode.strings
  let ids := Json.Decode.nullable (Json.Decode.list Json.Decode.int32)
  pure
    { urlFilter := ← r.orDefault "urlFilter" text none
      regexFilter := ← r.orDefault "regexFilter" text none
      isUrlFilterCaseSensitive := ←
        r.orDefault "isUrlFilterCaseSensitive" (Json.Decode.nullable Json.Decode.bool) none
      requestDomains := ← r.orDefault "requestDomains" texts none
      excludedRequestDomains := ← r.orDefault "excludedRequestDomains" texts none
      initiatorDomains := ← r.orDefault "initiatorDomains" texts none
      excludedInitiatorDomains := ← r.orDefault "excludedInitiatorDomains" texts none
      resourceTypes := ← r.orDefault "resourceTypes" texts none
      excludedResourceTypes := ← r.orDefault "excludedResourceTypes" texts none
      domainType := ←
        r.orDefault "domainType" (Json.Decode.nullable (Json.Decode.name DomainType.names)) none
      tabIds := ← r.orDefault "tabIds" ids none }

end RuleCondition

namespace Rule

def toJson (rule : Rule) : Json :=
  let action := Json.present
    [("type", some (.string rule.action.name)), ("redirect", rule.redirect.map (·.toJson))]
  .object
    [("id", .nat rule.id), ("priority", .nat rule.priority), ("action", action),
      ("condition", rule.condition.toJson)]

def decodeAction : Decoder (RuleAction × Option RuleRedirect) := fun json => do
  let r ← record ["type", "redirect"] json
  let action ← r.required "type" (Json.Decode.name RuleAction.names)
  let redirect ← r.orDefault "redirect" (Json.Decode.nullable RuleRedirect.decode) none
  pure (action, redirect)

def decode : Decoder Rule := fun json => do
  let r ← record ["id", "priority", "action", "condition"] json
  let id ← r.required "id" Json.Decode.word32
  let priority ← r.required "priority" Json.Decode.word32
  let (action, redirect) ← r.required "action" decodeAction
  let condition ← r.required "condition" RuleCondition.decode
  pure { id, priority, action, redirect, condition }

end Rule

end ContentFilter
