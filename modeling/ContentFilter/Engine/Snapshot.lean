import ContentFilter.Engine.Basic
import ContentFilter.Filter.Record
import ContentFilter.Hash
import ContentFilter.Json.Parser
import ContentFilter.Json.Printer

/-!
Snapshots of engines: a header of 16 bytes with a checksum, then the lists as JSON. Numbers in the
header stand with their low byte first.
-/

namespace ContentFilter

inductive SnapshotError where
  | invalidMagic
  | unsupportedVersion (version : Nat)
  | checksum (stored computed : Nat)
  | tooShort
  | payload
  deriving DecidableEq, Repr

def SnapshotError.message : SnapshotError → String
  | .invalidMagic => "Invalid magic bytes"
  | .unsupportedVersion version => "Unsupported version: " ++ toString version
  | .checksum stored computed =>
    "CRC32 mismatch: stored=" ++ toString stored ++ ", computed=" ++ toString computed
  | .tooShort => "Data too short"
  | .payload => "Invalid payload"

namespace ListContent

def toJson (content : ListContent) : Json :=
  .object
    [("name", .string content.name), ("digest", .nat content.digest.toNat),
      ("network", .array (content.network.map (·.toJson))),
      ("cosmetic", .array (content.cosmetic.map (·.toJson)))]

def decode : Json.Decoder ListContent := fun json => do
  let r ← Json.Decode.record ["name", "digest", "network", "cosmetic"] json
  pure
    { name := ← r.required "name" Json.Decode.string
      digest := (← r.required "digest" Json.Decode.word64).toUInt64
      network := ← r.required "network" (Json.Decode.list NetworkFilter.decode)
      cosmetic := ← r.required "cosmetic" (Json.Decode.list CosmeticFilter.decode) }

end ListContent

namespace Snapshot

def magic : List UInt8 := [0x56, 0x45, 0x49, 0x4C]

def version : Nat := 1

def headerSize : Nat := 16

/-- The lowest `count` bytes of a number, low byte first. -/
def littleEndian (count n : Nat) : List UInt8 :=
  (List.range count).map fun i => (n >>> (8 * i)).toUInt8

/-- The number that some bytes stand for, low byte first. -/
def ofLittleEndian (bytes : List UInt8) : Nat := bytes.foldr (fun b n => n * 256 + b.toNat) 0

def field (data : List UInt8) (offset count : Nat) : Nat :=
  ofLittleEndian ((data.drop offset).take count)

/-- What the header says. -/
structure Info where
  version : Nat
  flags : Nat
  checksum : Nat
  payloadSize : Nat
  deriving DecidableEq, Repr

def header (info : Info) : List UInt8 :=
  littleEndian 2 info.version ++ littleEndian 2 info.flags ++ littleEndian 4 info.checksum ++
    littleEndian 4 info.payloadSize

/-- Put a header with its checksum before a payload. -/
def wrap (payload : List UInt8) : List UInt8 :=
  magic ++ header
    { version, flags := 0, checksum := (Hash.crc32 payload).toNat, payloadSize := payload.length } ++
    payload

def payloadJson (lists : List ListContent) : Json :=
  .object [("lists", .array (lists.map (·.toJson)))]

def encode (lists : List ListContent) : List UInt8 :=
  wrap (Text.Utf8.encode (payloadJson lists).chars)

/-- Check the header and the checksum. Bytes after the payload are ignored. -/
def inspect (data : List UInt8) : Except SnapshotError Info :=
  if data.length < headerSize then .error .tooShort
  else if data.take 4 != magic then .error .invalidMagic
  else
    let info : Info :=
      { version := field data 4 2
        flags := field data 6 2
        checksum := field data 8 4
        payloadSize := field data 12 4 }
    if info.version != version then .error (.unsupportedVersion info.version)
    else if data.length < headerSize + info.payloadSize then .error .tooShort
    else
      let computed := (Hash.crc32 ((data.drop headerSize).take info.payloadSize)).toNat
      if info.checksum != computed then .error (.checksum info.checksum computed) else .ok info

def decodePayload (json : Json) : Option (List ListContent) := do
  let r ← Json.Decode.record ["lists"] json
  r.required "lists" (Json.Decode.list ListContent.decode)

/-- The lists of a snapshot that passes every check. -/
def decode (data : List UInt8) : Except SnapshotError (List ListContent) := do
  let info ← inspect data
  let payload := (data.drop headerSize).take info.payloadSize
  match Text.Utf8.decode payload with
  | .error _ => throw .payload
  | .ok text =>
    match Json.parseChars text >>= decodePayload with
    | some lists => pure lists
    | none => throw .payload

end Snapshot

namespace Engine

def serialize (engine : Engine) : List UInt8 :=
  Snapshot.encode (engine.lists.map (·.toListContent))

/-- The engine of a snapshot; its lists count as new ones from `origin` on. -/
def deserialize (origin : Nat) (data : List UInt8) : Except SnapshotError Engine :=
  (Snapshot.decode data).map (ofContents origin)

end Engine

end ContentFilter
