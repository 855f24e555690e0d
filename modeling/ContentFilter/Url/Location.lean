import ContentFilter.Text.Utf8

/-!
Where the host stands in a web address.
-/

namespace ContentFilter.Url

/-- The scheme with its separator, and what follows. A data address has no slashes. -/
def scheme? (url : List Char) : Option (List Char × List Char) :=
  match Text.cut? [':'] url with
  | some (scheme, '/' :: '/' :: rest) => some (scheme ++ [':', '/', '/'], rest)
  | some (scheme, rest) =>
    if Text.equalFold scheme "data".toList then some (scheme ++ [':'], rest) else none
  | none => none

def isAuthorityEnd (c : Char) : Bool := c == '/' || c == '?' || c == '#'

/-- A host and what follows it within the authority. The colons of a bracketed host belong to
it. -/
def splitHost (s : List Char) : List Char × List Char :=
  if s.head? == some '[' then
    match Text.cut? [']'] s with
    | some (inside, rest) => (inside ++ [']'], rest)
    | none => (s, [])
  else (s.takeWhile (· != ':'), s.dropWhile (· != ':'))

/-- An address cut before and after its host. -/
structure Location where
  before : List Char
  host : List Char
  after : List Char
  deriving DecidableEq, Repr

/-- The host follows the last at sign of the authority and ends before its port. -/
def locate? (url : List Char) : Option Location :=
  match scheme? url with
  | none => none
  | some (scheme, rest) =>
    let authority := rest.takeWhile (!isAuthorityEnd ·)
    let tail := rest.dropWhile (!isAuthorityEnd ·)
    let (user, place) := match Text.cutLast? ['@'] authority with
      | some (user, place) => (user ++ ['@'], place)
      | none => ([], authority)
    let (host, port) := splitHost place
    if host.isEmpty then none else some ⟨scheme ++ user, host, port ++ tail⟩

def host? (url : List Char) : Option (List Char) := (locate? url).map (·.host)

/-- The host in lower case, empty when there is none. -/
def hostName (url : List Char) : List Char := Text.lower ((host? url).getD [])

namespace Location

/-- The byte offsets at which the host starts and ends. -/
def range (location : Location) : Nat × Nat :=
  let start := Text.Utf8.size location.before
  (start, start + Text.Utf8.size location.host)

end Location

/-- The byte offset after the scheme and its separator. -/
def schemeEnd? (url : List Char) : Option Nat :=
  (scheme? url).map fun (scheme, _) => Text.Utf8.size scheme

/-- The bytes that count as separators in a pattern: all but letters, digits and four marks. -/
def isSeparator (b : UInt8) : Bool :=
  !((0x30 ≤ b && b ≤ 0x39) || (0x41 ≤ b && b ≤ 0x5A) || (0x61 ≤ b && b ≤ 0x7A) ||
    b == 0x5F || b == 0x2D || b == 0x2E || b == 0x25)

end ContentFilter.Url
