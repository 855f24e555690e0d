import ContentFilter.Filter.Line
import ContentFilter.Json.Decode

/-!
Filters as JSON records, written and read back.
-/

namespace ContentFilter

open Json (Decoder)
open Json.Decode (record)

def Action.names : List (String × Action) := [("Block", .block), ("Allow", .allow)]

def Action.toJson : Action → Json
  | .block => .string "Block"
  | .allow => .string "Allow"

def BitNames.decode (names : BitNames) : Decoder BitSet := fun json =>
  Json.Decode.string json >>= names.read

def DomainConstraint.toJson (domains : DomainConstraint) : Json :=
  .object [("include", .strings domains.included), ("exclude", .strings domains.excluded)]

def DomainConstraint.decode : Decoder DomainConstraint := fun json => do
  let r ← record ["include", "exclude"] json
  pure
    { included := ← r.required "include" Json.Decode.strings
      excluded := ← r.required "exclude" Json.Decode.strings }

namespace NetworkFilter

def toJson (filter : NetworkFilter) : Json :=
  .object
    [("raw", .string filter.raw), ("action", filter.action.toJson),
      ("flags", .string (Flag.names.write filter.flags)),
      ("hostname", .optional .string filter.hostname), ("pattern", .string filter.pattern),
      ("type_mask", .string (Kind.names.write filter.kinds)),
      ("party_mask", .string (Party.names.write filter.parties)),
      ("domains", .optional DomainConstraint.toJson filter.domains),
      ("redirect", .optional .string filter.redirect), ("csp", .optional .string filter.csp)]

def decode : Decoder NetworkFilter := fun json => do
  let r ← record ["raw", "action", "flags", "hostname", "pattern", "type_mask", "party_mask",
    "domains", "redirect", "csp"] json
  pure
    { raw := ← r.required "raw" Json.Decode.string
      action := ← r.required "action" (Json.Decode.name Action.names)
      flags := ← r.required "flags" Flag.names.decode
      hostname := ← r.optional "hostname" Json.Decode.string
      pattern := ← r.required "pattern" Json.Decode.string
      kinds := ← r.required "type_mask" Kind.names.decode
      parties := ← r.required "party_mask" Party.names.decode
      domains := ← r.optional "domains" DomainConstraint.decode
      redirect := ← r.optional "redirect" Json.Decode.string
      csp := ← r.optional "csp" Json.Decode.string }

end NetworkFilter

def ScriptletCall.toJson (call : ScriptletCall) : Json :=
  .object [("name", .string call.name), ("args", .strings call.args)]

def ScriptletCall.decode : Decoder ScriptletCall := fun json => do
  let r ← record ["name", "args"] json
  pure
    { name := ← r.required "name" Json.Decode.string
      args := ← r.required "args" Json.Decode.strings }

def CosmeticKind.toJson : CosmeticKind → Json
  | .hide => .string "Hide"
  | .style css => .object [("Style", .string css)]
  | .extended => .string "Extended"
  | .scriptlet call => .object [("Scriptlet", call.toJson)]
  | .html => .string "Html"

def CosmeticKind.decode : Decoder CosmeticKind := fun json =>
  match Json.Decode.variant json with
  | some ("Hide", .null) => some .hide
  | some ("Extended", .null) => some .extended
  | some ("Html", .null) => some .html
  | some ("Style", payload) => (Json.Decode.string payload).map .style
  | some ("Scriptlet", payload) => (ScriptletCall.decode payload).map .scriptlet
  | _ => none

def GenericKey.toJson : GenericKey → Json
  | .className name => .object [("Class", .string name)]
  | .id name => .object [("Id", .string name)]
  | .href part => .object [("Href", .string part)]
  | .base => .string "Base"

namespace CosmeticFilter

def toJson (filter : CosmeticFilter) : Json :=
  .object
    [("raw", .string filter.raw), ("hostnames", .strings filter.hostnames),
      ("not_hostnames", .strings filter.notHostnames), ("unhide", .bool filter.unhide),
      ("kind", filter.kind.toJson), ("selector", .string filter.selector)]

def decode : Decoder CosmeticFilter := fun json => do
  let r ← record ["raw", "hostnames", "not_hostnames", "unhide", "kind", "selector"] json
  pure
    { raw := ← r.required "raw" Json.Decode.string
      hostnames := ← r.required "hostnames" Json.Decode.strings
      notHostnames := ← r.required "not_hostnames" Json.Decode.strings
      unhide := ← r.required "unhide" Json.Decode.bool
      kind := ← r.required "kind" CosmeticKind.decode
      selector := ← r.required "selector" Json.Decode.string }

end CosmeticFilter

end ContentFilter
