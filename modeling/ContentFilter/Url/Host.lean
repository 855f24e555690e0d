import ContentFilter.Domain.Host
import ContentFilter.Domain.International
import ContentFilter.Url.Percent

/-!
Hosts of absolute addresses: domains, numbers for the two kinds of internet addresses, and for schemes
that are not of the web any text without marks. `UrlError` is what can be wrong with an address.
-/

namespace ContentFilter.Url

inductive UrlError where
  | noBase | opaqueBase | emptyHost | invalidPort | invalidIpv4 | invalidIpv6 | invalidName
  | invalidCharacter
  deriving DecidableEq, Repr

def UrlError.message : UrlError → String
  | .noBase => "relative URL without a base"
  | .opaqueBase => "relative URL with a cannot-be-a-base base"
  | .emptyHost => "empty host"
  | .invalidPort => "invalid port number"
  | .invalidIpv4 => "invalid IPv4 address"
  | .invalidIpv6 => "invalid IPv6 address"
  | .invalidName => "invalid international domain name"
  | .invalidCharacter => "invalid domain character"

/-- The last label of a domain that has to be read as a number. -/
def endsInNumber (labels : List (List Char)) : Bool :=
  let last := match labels.reverse with
    | [] :: label :: _ => label
    | label :: _ => label
    | [] => []
  (!last.isEmpty && last.all Char.isDigit) ||
    match last with
    | '0' :: x :: rest => (x == 'x' || x == 'X') && rest.all fun c => (Text.hexDigit? c).isSome
    | _ => false

/-- A number in decimal, octal or hexadecimal digits. -/
def parseIpv4Number (s : List Char) : Option Nat :=
  match s with
  | '0' :: x :: rest =>
    if x == 'x' || x == 'X' then (if rest.isEmpty then some 0 else Text.hex? rest)
    else
      let digits := x :: rest
      if digits.all fun c => '0' ≤ c && c ≤ '7' then
        some (digits.foldl (fun n c => 8 * n + (c.toNat - '0'.toNat)) 0)
      else none
  | s => Text.nat? s

/-- Up to four numbers; the last one fills what the others leave. -/
def parseIpv4 (labels : List (List Char)) : Option (List Char) := do
  let labels := if 1 < labels.length && labels.getLast? == some [] then labels.dropLast else labels
  if 4 < labels.length then none
  else do
    let numbers ← labels.mapM parseIpv4Number
    let front := numbers.dropLast
    let last ← numbers.getLast?
    if front.any (255 < ·) || 1 <<< (8 * (5 - numbers.length)) ≤ last then none
    else
      let value := front.zipIdx.foldl (fun n (part, i) => n + part <<< (8 * (3 - i))) last
      let octets := [3, 2, 1, 0].map fun i => (toString ((value >>> (8 * i)) % 256)).toList
      some (List.intercalate ['.'] octets)

/-- The sixteen-bit groups of an address in colon form. -/
def ipv6Groups (s : List Char) : Option (List Nat) := do
  if !Domain.isColonAddress s then none
  else
    let groupsOf := fun (s : List Char) => (Domain.groupParts s).flatMap fun part =>
      if part.contains '.' then
        match (Text.splitOn '.' part).map fun o => (Text.nat? o).getD 0 with
        | [a, b, c, d] => [256 * a + b, 256 * c + d]
        | _ => []
      else [(Text.hex? part).getD 0]
    match Text.cut? [':', ':'] s with
    | none => some (groupsOf s)
    | some (before, after) =>
      let head := groupsOf before
      let tail := groupsOf after
      some (head ++ List.replicate (8 - head.length - tail.length) 0 ++ tail)

/-- Where the first of the longest runs of two or more zeros starts, and its length. -/
def longestZeros (groups : List Nat) : Nat × Nat :=
  (List.range groups.length).foldl (fun best i =>
    let run := ((groups.drop i).takeWhile (· == 0)).length
    if best.2 < run then (i, run) else best) (0, 1)

def writeGroups (groups : List Nat) : List Char :=
  List.intercalate [':'] (groups.map fun g => (Text.hex 0 g).toList)

/-- An address in colon form with its longest run of zeros left out. -/
def writeIpv6 (groups : List Nat) : List Char :=
  let (start, run) := longestZeros groups
  if run < 2 then writeGroups groups
  else writeGroups (groups.take start) ++ [':', ':'] ++ writeGroups (groups.drop (start + run))

/-- The characters that a domain may not have. -/
def isForbiddenInDomains (c : Char) : Bool :=
  c.toNat < 0x20 || " %#/:<>?@[\\]^|\x7f".toList.contains c

def parseDomain (s : List Char) : Except UrlError (List Char) :=
  let text := Text.Utf8.decode (percentDecode (Text.Utf8.encode s))
  match text.toOption >>= Domain.toAscii? isForbiddenInDomains with
  | none => .error .invalidName
  | some name =>
    let labels := Text.splitOn '.' name
    if name.isEmpty then .error .emptyHost
    else if endsInNumber labels then
      match parseIpv4 labels with
      | some address => .ok address
      | none => .error .invalidIpv4
    else .ok name

/-- The characters that a host of another scheme may not have. -/
def forbiddenInHosts : List Char := "\x00\t\n\r #/:<>?@[\\]^|".toList

def parseHost (special : Bool) (s : List Char) : Except UrlError (List Char) :=
  match s with
  | '[' :: rest =>
    match Text.dropEnd? "]" rest >>= ipv6Groups with
    | some groups => .ok ('[' :: (writeIpv6 groups ++ [']']))
    | none => .error .invalidIpv6
  | s =>
    if special then parseDomain s
    else if s.any forbiddenInHosts.contains then .error .invalidCharacter
    else .ok (percentEncode "" s)

end ContentFilter.Url
