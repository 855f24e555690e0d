import ContentFilter.Allow.Pause
import ContentFilter.Browser.Messages
import ContentFilter.Browser.Navigation
import ContentFilter.Engine.MainEngine
import ContentFilter.Rule.Sync

/-!
Results, reports and failures as JSON. A failure is an object with its kind, and with its message
unless that depends on the system.
-/

namespace ContentFilter

namespace FilterError

def kind : FilterError → String
  | .empty => "Empty"
  | .unsupportedOption _ => "UnsupportedOption"
  | .invalidDomain _ => "InvalidDomain"
  | .invalidRegex => "InvalidRegex"
  | .invalidPattern => "InvalidPattern"
  | .invalidSelector _ => "InvalidSelector"
  | .unsupported => "Unsupported"
  | .emptyMask => "EmptyMask"

def toJson (error : FilterError) : Json := .failure error.kind (some error.message)

end FilterError

def LineError.toJson (error : LineError) : Json :=
  .object
    [("line", .nat error.line), ("filter", .string error.filter), ("error", error.error.toJson)]

def Domain.SuffixError.toJson (error : Domain.SuffixError) : Json :=
  .failure "PslError" (some error.message)

def SnapshotError.toJson (error : SnapshotError) : Json :=
  match error with
  | .invalidMagic => .failure "InvalidMagic" (some error.message)
  | .unsupportedVersion _ => .failure "UnsupportedVersion" (some error.message)
  | .checksum _ _ => .failure "Crc32Mismatch" (some error.message)
  | .tooShort => .failure "DataTooShort" (some error.message)
  | .payload => .failure "Payload" none

namespace Failure

def toJson (failure : Failure) : Json :=
  match failure with
  | .engineUnavailable _ => .failure "EngineUnavailable" (some failure.message)
  | .snapshot error => error.toJson
  | .io => .failure "Io" none
  | .fetch _ _ => .failure "Fetch" (some failure.message)
  | .json => .failure "Json" none
  | .host _ => .failure "Host" (some failure.message)
  | .overflow _ => .failure "RangeOverflow" (some failure.message)
  | .alarms _ => .failure "Alarms" (some failure.message)
  | .settings _ => .failure "Settings" (some failure.message)

end Failure

def Redirect.toJson (redirect : Redirect) : Json :=
  .object
    [("resource", .string redirect.resource), ("path", .string redirect.path),
      ("data_url", .string redirect.dataUrl)]

def Decision.name : Decision → String
  | .allow => "Allow"
  | .block => "Block"
  | .redirect => "Redirect"

def MatchResult.toJson (result : MatchResult) : Json :=
  .object
    [("decision", .string result.decision.name), ("filter", .optional .string result.filter),
      ("list", .optional .string result.list), ("redirect", .optional (·.toJson) result.redirect),
      ("matched", .bool result.matched)]

def CosmeticMatch.toJson (found : CosmeticMatch) : Json := .object found.fields

def ResponseMatch.toJson (found : ResponseMatch) : Json :=
  .object [("csp", .strings found.csp), ("html", .strings found.html)]

/-- The lists of an engine and how much is in them. -/
def Engine.infoJson (engine : Engine) : Json :=
  .object
    [("names", .strings engine.listNames), ("digest", .string (Text.hex 16 engine.digest.toNat)),
      ("empty", .bool engine.isEmpty), ("lists", .nat engine.stats.lists),
      ("network", .nat engine.stats.network), ("cosmetic", .nat engine.stats.cosmetic)]

def Snapshot.Info.toJson (info : Snapshot.Info) : Json :=
  .object
    [("version", .nat info.version), ("flags", .nat info.flags), ("crc32", .nat info.checksum),
      ("payloadLen", .nat info.payloadSize)]

def ConversionError.toJson (error : ConversionError) : Json :=
  .object [("filter", .string error.filter), ("reason", .string error.reason)]

def CustomError.toJson (error : CustomError) : Json :=
  .object
    [("line", .nat error.line), ("filter", .string error.filter),
      ("reason", .string error.cause.reason)]

def CustomReport.toJson (report : CustomReport) : Json :=
  .object
    [("networkFilters", .nat report.networkFilters),
      ("cosmeticFilters", .nat report.cosmeticFilters), ("dnrRules", .nat report.rules),
      ("errors", .array (report.errors.map (·.toJson))),
      ("dnrErrors", .array (report.ruleErrors.map (·.toJson)))]

/-- A filter with what follows from it. -/
def NetworkFilter.describe (filter : NetworkFilter) : Json :=
  let rule := match Rule.ofFilter filter with
    | .ok rule => ("rule", rule.toJson)
    | .error error => ("conversionError", .string error.reason)
  .object
    [("network", filter.toJson), ("types", .strings (Kind.browserNamesOf filter.kinds)),
      ("is", .object
        [("exception", .bool filter.isException), ("important", .bool filter.isImportant),
          ("regex", .bool filter.isRegex), ("csp", .bool filter.isCsp),
          ("cosmeticException", .bool filter.isCosmeticException)]),
      ("dnr", .object [rule])]

def CosmeticFilter.describe (filter : CosmeticFilter) : Json :=
  .object
    [("cosmetic", filter.toJson), ("generic", .bool filter.isGeneric),
      ("genericKey", filter.genericKey.toJson),
      ("scriptletName", .optional (fun call => .string call.canonicalName) filter.scriptlet?)]

def ParsedList.toJson (parsed : ParsedList) : Json :=
  .object
    [("network", .strings (parsed.network.map (·.raw))),
      ("cosmetic", .strings (parsed.cosmetic.map (·.raw))),
      ("errors", .array (parsed.errors.map (·.toJson)))]

def OptimizeStats.fields (stats : OptimizeStats) : List (String × Json) :=
  [("before", .nat stats.before), ("after", .nat stats.after), ("deduped", .nat stats.deduped),
    ("badfiltered", .nat stats.badFiltered)]

def Request.toJson (request : Request) : Json :=
  .object
    [("url", .string request.url), ("hostname", .string request.hostname),
      ("domain", .string request.domain), ("sourceHostname", .string request.sourceHostname),
      ("sourceDomain", .string request.sourceDomain),
      ("types", .strings (Kind.browserNamesOf request.kind.set)),
      ("bits", .nat request.kind.set.bits), ("thirdParty", .bool request.isThirdParty)]

def RejectedRule.toJson (rejected : RejectedRule) : Json :=
  .object [("rule", rejected.rule.toJson), ("reason", .string rejected.reason)]

def FamilyReport.toJson (report : FamilyReport) : Json :=
  .object
    [("family", .string report.family.name), ("removed", .nat report.removed),
      ("added", .nat report.added), ("rejected", .array (report.rejected.map (·.toJson)))]

def RulesetDelta.toJson (delta : RulesetDelta) : Json :=
  .object [("enabled", .strings delta.enabled), ("disabled", .strings delta.disabled)]

def SyncStep.name : SyncStep → String
  | .rulesets => "rulesets"
  | .family f => f.name

def SyncFailure.toJson (failure : SyncFailure) : Json :=
  .object [("step", .string failure.step.name), ("reason", .string failure.cause.message)]

def SyncReport.toJson (report : SyncReport) : Json :=
  .object
    [("rulesets", .optional (·.toJson) report.rulesets),
      ("families", .array (report.families.map (·.toJson))),
      ("failures", .array (report.failures.map (·.toJson))),
      ("conversionErrors", .array (report.conversionErrors.map (·.toJson))),
      ("fixesDropped", .strings (report.fixesDropped.map (·.reason))),
      ("empty", .bool report.isEmpty)]

/-- The numbers of the installed rules by family. -/
def RuleHost.idsJson (host : RuleHost) : Json :=
  .object (RuleFamily.all.filterMap fun family =>
    match host.rulesOf family with
    | [] => none
    | rules => some (family.name, .array (rules.map fun rule => .nat rule.id)))

def RuleFamily.toJson (family : RuleFamily) : Json :=
  .array
    [.string family.name, .nat family.start, .nat family.stop, .nat family.capacity,
      .bool family.isSession]

def Fixes.Load.fields (load : Fixes.Load) : List (String × Json) :=
  [("rules", .array (load.rules.map (·.toJson))), ("dropped", .strings (load.dropped.map (·.reason)))]

def Alarms.toJson (alarms : Alarms) : Json :=
  .array (alarms.times.entries.map fun (name, time) => .array [.string name, .nat time])

def ReconcileReport.toJson (report : ReconcileReport) : Json :=
  .object [("expired", .strings report.expired), ("alarms", .nat report.alarms)]

def Navigation.toJson : Navigation → Json
  | .proceed => .string "proceed"
  | .divert url => .object [("divert", .string url)]

def Reload.toJson : Reload → Json
  | .published generation ids =>
    .object [("published", .strings ids), ("generation", .nat generation)]
  | .coalesced => .string "coalesced"

def UpdateOutcome.toJson : UpdateOutcome → Json
  | .skipped => .string "Skipped"
  | .unchanged => .string "Unchanged"
  | .reloaded => .string "Reloaded"

namespace Config

/-- The fields in which a configuration differs from the default. -/
def overridesJson (config : Config) : Json :=
  let defaults := ({} : Config).toJson
  .object (config.toJson.fields.filter fun (name, value) => defaults.get? name != some value)

/-- A configuration with some fields replaced. -/
def patch (config : Config) (fields : Json) : Option Config :=
  decode (fields.fields.foldl (fun json (name, value) => json.set name value) config.toJson)

end Config

end ContentFilter
