import ContentFilter.Engine.Snapshot
import ContentFilter.Json.Shape

/-!
What keeps the payload of a snapshot from being lists.
-/

namespace ContentFilter

open Json (FaultCause Shape)

/-- The first part of a text that is no name of a set. -/
def BitNames.fault? (names : BitNames) (text : List Char) : Option FaultCause :=
  let text := Text.trim text
  if text.isEmpty then none
  else
    ((Text.splitOn '|' text).map Text.trim).findSome? fun name =>
      if name.isEmpty then some .emptyFlag
      else if (names.readName name).isSome then none
      else if Text.startsWith "0x" name then some .badFlagBits
      else some .unknownFlag

def BitNames.shape (names : BitNames) : Shape := do
  if (← Shape.start) == '"' then
    Json.Reader.advance
    match names.fault? (← Json.Reader.string) with
    | some cause => Json.Reader.fail cause
    | none => pure ()
  else Shape.wrongType "a string value of `|` separated flags"

def DomainConstraint.shape : Shape :=
  .record "DomainConstraint"
    [.required "include" (.list .string), .required "exclude" (.list .string)]

def NetworkFilter.shape : Shape :=
  .record "NetworkFilter"
    [.required "raw" .string, .required "action" (.variant (Action.names.map (·.1, none))),
      .required "flags" Flag.names.shape, .optional "hostname" .string,
      .required "pattern" .string, .required "type_mask" Kind.names.shape,
      .required "party_mask" Party.names.shape, .optional "domains" DomainConstraint.shape,
      .optional "redirect" .string, .optional "csp" .string]

def ScriptletCall.shape : Shape :=
  .record "ScriptletCall" [.required "name" .string, .required "args" (.list .string)]

def CosmeticKind.shape : Shape :=
  .variant
    [("Hide", none), ("Style", some .string), ("Extended", none),
      ("Scriptlet", some ScriptletCall.shape), ("Html", none)]

def CosmeticFilter.shape : Shape :=
  .record "CosmeticFilter"
    [.required "raw" .string, .required "hostnames" (.list .string),
      .required "not_hostnames" (.list .string), .required "unhide" .bool,
      .required "kind" CosmeticKind.shape, .required "selector" .string]

def ListContent.shape : Shape :=
  .record "ListData"
    [.required "name" .string, .required "digest" .word64,
      .required "network" (.list NetworkFilter.shape),
      .required "cosmetic" (.list CosmeticFilter.shape)]

namespace Snapshot

def payloadShape : Shape := .record "Payload" [.required "lists" (.list ListContent.shape)]

/-- What is wrong with the payload of a snapshot whose header is right. -/
def fault? (data : List UInt8) : Option Json.Fault := do
  let info ← (inspect data).toOption
  let text ← (Text.Utf8.decode ((data.drop headerSize).take info.payloadSize)).toOption
  payloadShape.fault? text

end Snapshot

end ContentFilter
