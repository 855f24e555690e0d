import ContentFilter.Json.Mismatch
import ContentFilter.Rule.Fixes

/-!
Why an entry of a document of rules is no rule.
-/

namespace ContentFilter

open Json (Check FaultCause)

def RuleRedirect.check : Check :=
  .record "RuleRedirect"
    [.free "extensionPath" (.nullable .string), .free "url" (.nullable .string)]

def RuleCondition.check : Check :=
  let texts : Check := .nullable (.list .string)
  .record "RuleCondition"
    [.free "urlFilter" (.nullable .string), .free "regexFilter" (.nullable .string),
      .free "isUrlFilterCaseSensitive" (.nullable .bool), .free "requestDomains" texts,
      .free "excludedRequestDomains" texts, .free "initiatorDomains" texts,
      .free "excludedInitiatorDomains" texts, .free "resourceTypes" texts,
      .free "excludedResourceTypes" texts,
      .free "domainType" (.nullable (.name (DomainType.names.map (·.1)))),
      .free "tabIds" (.nullable (.list .int32))]

def RuleAction.check : Check :=
  .record "RuleAction"
    [.required "type" (.name (RuleAction.names.map (·.1))),
      .free "redirect" (.nullable RuleRedirect.check)]

def Rule.check : Check :=
  .record "Rule"
    [.required "id" .word32, .required "priority" .word32, .required "action" RuleAction.check,
      .required "condition" RuleCondition.check]

namespace Fixes

/-- The reason for a dropped entry of a document, with what is wrong with one that is no rule. -/
def fullReason (entries : List Json) (dropped : Dropped) : String :=
  match dropped.cause, entries[dropped.index]? >>= Rule.check with
  | .noRule, some cause => "#" ++ toString dropped.index ++ ": " ++ cause.message
  | _, _ => dropped.reason

end Fixes

end ContentFilter
