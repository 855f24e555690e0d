/-!
CRC-32 with the reflected polynomial of IEEE 802.3.
-/

namespace ContentFilter.Hash

def crc32Bit (c : UInt32) : UInt32 :=
  if c &&& 1 == 1 then (c >>> 1) ^^^ 0xEDB88320 else c >>> 1

/-- Eight steps of the division. -/
def crc32Steps (c : UInt32) : UInt32 := Nat.repeat crc32Bit 8 c

def crc32Byte (crc : UInt32) (byte : UInt8) : UInt32 :=
  crc32Steps ((crc ^^^ byte.toUInt32) &&& 0xFF) ^^^ (crc >>> 8)

def crc32 (bytes : List UInt8) : UInt32 :=
  bytes.foldl crc32Byte 0xFFFFFFFF ^^^ 0xFFFFFFFF

end ContentFilter.Hash

/-!
XXH64 with seed zero, over a list of bytes.
-/

namespace ContentFilter.Hash

namespace XxHash64

def prime1 : UInt64 := 0x9E3779B185EBCA87
def prime2 : UInt64 := 0xC2B2AE3D27D4EB4F
def prime3 : UInt64 := 0x165667B19E3779F9
def prime4 : UInt64 := 0x85EBCA77C2B2AE63
def prime5 : UInt64 := 0x27D4EB2F165667C5

def rotateLeft (x n : UInt64) : UInt64 := (x <<< n) ||| (x >>> (64 - n))

/-- The little-endian number of some bytes. -/
def little (bytes : List UInt8) : UInt64 :=
  bytes.foldr (fun b n => (n <<< 8) ||| b.toUInt64) 0

/-- The eight little-endian bytes of a number. -/
def bytesOf (n : UInt64) : List UInt8 :=
  (List.range 8).map fun i => (n >>> (8 * i).toUInt64).toUInt8

def round (acc input : UInt64) : UInt64 :=
  rotateLeft (acc + input * prime2) 31 * prime1

def mergeRound (acc lane : UInt64) : UInt64 :=
  (acc ^^^ round 0 lane) * prime1 + prime4

structure Lanes where
  a : UInt64 := prime1 + prime2
  b : UInt64 := prime2
  c : UInt64 := 0
  d : UInt64 := 0 - prime1

def Lanes.stripe (lanes : Lanes) (bytes : List UInt8) : Lanes where
  a := round lanes.a (little (bytes.take 8))
  b := round lanes.b (little ((bytes.drop 8).take 8))
  c := round lanes.c (little ((bytes.drop 16).take 8))
  d := round lanes.d (little ((bytes.drop 24).take 8))

/-- Take in whole stripes of 32 bytes, and return what is left. -/
def stripes (lanes : Lanes) (bytes : List UInt8) : Lanes × List UInt8 :=
  if 32 ≤ bytes.length then
    stripes (lanes.stripe (bytes.take 32)) (bytes.drop 32)
  else (lanes, bytes)
termination_by bytes.length
decreasing_by simp only [List.length_drop]; omega

def Lanes.merge (lanes : Lanes) : UInt64 :=
  let sum := rotateLeft lanes.a 1 + rotateLeft lanes.b 7 + rotateLeft lanes.c 12 +
    rotateLeft lanes.d 18
  mergeRound (mergeRound (mergeRound (mergeRound sum lanes.a) lanes.b) lanes.c) lanes.d

/-- The last bytes, one at a time. -/
def tailBytes (acc : UInt64) (bytes : List UInt8) : UInt64 :=
  bytes.foldl (fun acc b => rotateLeft (acc ^^^ b.toUInt64 * prime5) 11 * prime1) acc

/-- At most one word of four bytes, then single bytes. -/
def tailWord (acc : UInt64) (bytes : List UInt8) : UInt64 :=
  if 4 ≤ bytes.length then
    let word := little (bytes.take 4)
    tailBytes (rotateLeft (acc ^^^ word * prime1) 23 * prime2 + prime3) (bytes.drop 4)
  else tailBytes acc bytes

/-- What is left after the stripes: words of eight bytes first. -/
def tail (acc : UInt64) (bytes : List UInt8) : UInt64 :=
  if 8 ≤ bytes.length then
    let word := round 0 (little (bytes.take 8))
    tail (rotateLeft (acc ^^^ word) 27 * prime1 + prime4) (bytes.drop 8)
  else tailWord acc bytes
termination_by bytes.length
decreasing_by simp only [List.length_drop]; omega

def avalanche (acc : UInt64) : UInt64 :=
  let acc := (acc ^^^ (acc >>> 33)) * prime2
  let acc := (acc ^^^ (acc >>> 29)) * prime3
  acc ^^^ (acc >>> 32)

end XxHash64

open XxHash64 in
def xxHash64 (bytes : List UInt8) : UInt64 :=
  let (lanes, rest) := stripes {} bytes
  let start := if 32 ≤ bytes.length then lanes.merge else prime5
  avalanche (tail (start + bytes.length.toUInt64) rest)

end ContentFilter.Hash
