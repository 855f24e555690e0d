import ContentFilter.Text.Basic
import ContentFilter.Text.Utf8

/-!
Host names: parent domains, and the test that one name lies within another. Addresses stand in their
place: the dotted form of four numbers and the colon form of eight groups.
-/

namespace ContentFilter.Domain

open Text (CutFault cutAt equalFold)

/-- The name without its first label, unless nothing would be left. -/
def parent? (host : List Char) : Option (List Char) :=
  match Text.cut? ['.'] host with
  | some (_, rest) => if rest.isEmpty then none else some rest
  | none => none

/-- The proper parent domains, nearest first. -/
def ancestors : List Char → List (List Char)
  | [] => []
  | c :: s =>
    if c = '.' then
      if s.isEmpty then [] else s :: ancestors s
    else ancestors s

/-- A name and its parent domains. -/
def lineage (host : List Char) : List (List Char) :=
  if host.isEmpty then [] else host :: ancestors host

theorem ancestors_eq (host : List Char) :
    ancestors host = match parent? host with
      | some p => p :: ancestors p
      | none => [] := by
  induction host with
  | nil => rfl
  | cons c s ih =>
    by_cases hc : c = '.'
    · subst hc
      cases s <;> simp [ancestors, parent?, Text.cut?, Text.isPrefixOf?_cons, Text.isPrefixOf?_nil]
    · have hne : ('.' == c) = false := by simpa using fun h => hc h.symm
      simp only [ancestors, if_neg hc, ih]
      cases h : Text.cut? ['.'] s <;> simp [parent?, Text.cut?, Text.isPrefixOf?_cons, hne, h]

/-- Whether `host` is `domain` or one of its subdomains, letter case aside. The ends of the two
names are compared byte by byte, so a name that has a character across that place cannot be cut. -/
def isWithin (host domain : List Char) : Except CutFault Bool := do
  if domain.isEmpty || Text.Utf8.size host < Text.Utf8.size domain then pure false
  else
    let (before, ending) ← cutAt host (Text.Utf8.size host - Text.Utf8.size domain)
    pure (equalFold ending domain && (before.isEmpty || before.getLast? == some '.'))

/-- Whether `host` lies within one of the domains. -/
def isWithinAny (host : List Char) : List (List Char) → Except CutFault Bool
  | [] => pure false
  | domain :: domains => do
    if ← isWithin host domain then pure true else isWithinAny host domains

/-- A name of letters, digits, points, hyphens and underscores, in lower case and without blanks
and points around it. -/
def normalize? (host : List Char) : Option (List Char) :=
  let name := Text.dropEndWhile (· == '.') ((Text.trim host).dropWhile (· == '.'))
  if !name.isEmpty && name.all (fun c => c.isAlphanum || c == '.' || c == '-' || c == '_') then
    some (Text.lower name)
  else none

/-- Decimal, at most 255, without leading zeros. -/
def isOctet (s : List Char) : Bool :=
  s.length ≤ 3 && (s == ['0'] || s.head? != some '0') &&
    match Text.nat? s with
    | some n => n ≤ 255
    | none => false

def isDottedAddress (s : List Char) : Bool :=
  let parts := Text.splitOn '.' s
  parts.length == 4 && parts.all isOctet

def isGroup (s : List Char) : Bool :=
  !s.isEmpty && s.length ≤ 4 && s.all fun c => (Text.hexDigit? c).isSome

/-- The number of groups that some parts stand for: a dotted address may end them and counts as
two. -/
def groupCount? : List (List Char) → Option Nat
  | [] => some 0
  | [last] => if isGroup last then some 1 else if isDottedAddress last then some 2 else none
  | part :: parts => if isGroup part then (groupCount? parts).map (· + 1) else none

def groupParts (s : List Char) : List (List Char) := if s.isEmpty then [] else Text.splitOn ':' s

/-- Eight groups, or fewer around one double colon. -/
def isColonAddress (s : List Char) : Bool :=
  match Text.cut? [':', ':'] s with
  | none => groupCount? (groupParts s) == some 8
  | some (before, after) =>
    let head := groupParts before
    head.all isGroup &&
      match groupCount? (groupParts after) with
      | some n => head.length + n ≤ 7
      | none => false

def isAddress (s : List Char) : Bool := isDottedAddress s || isColonAddress s

end ContentFilter.Domain
