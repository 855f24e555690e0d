import ContentFilter.Text.Basic
import ContentFilter.Url.Percent

/-!
Paths of absolute addresses. Segments are added one by one to the text of the path so far; single
dots lead nowhere and double dots lead up, but never above the root or a drive. The schemes of the web
read a backslash as a slash and have ports of their own.
-/

namespace ContentFilter.Url

/-- The schemes of the web with their ports. All but the one for files need a host. -/
def specialSchemes : List (String × Option Nat) :=
  [("http", some 80), ("https", some 443), ("ws", some 80), ("wss", some 443), ("ftp", some 21),
    ("file", none)]

def fileScheme : List Char := "file".toList

def isSpecial (scheme : List Char) : Bool := (specialSchemes.lookup (String.ofList scheme)).isSome

def defaultPort (scheme : List Char) : Option Nat :=
  (specialSchemes.lookup (String.ofList scheme)).join

/-- The scheme in lower case and what follows its colon. -/
def splitScheme? (s : List Char) : Option (List Char × List Char) :=
  match Text.cut? [':'] s with
  | some (scheme, rest) =>
    if (scheme.head?.any Char.isAlpha) &&
        scheme.all fun c => c.isAlphanum || c == '+' || c == '-' || c == '.' then
      some (Text.lower scheme, rest)
    else none
  | none => none

def isSlash (special : Bool) (c : Char) : Bool := c == '/' || (special && c == '\\')

/-- Whether a character ends the authority of an address. -/
def isTailStart (special : Bool) (c : Char) : Bool := isSlash special c || c == '?' || c == '#'

def pathSet : String := " \"#<>?\x60\x7b\x7d"

def isSingleDot (s : List Char) : Bool := s == ['.'] || Text.lower s == "%2e".toList

def isDoubleDot (s : List Char) : Bool :=
  ["..", ".%2e", "%2e.", "%2e%2e"].any fun d => Text.lower s == d.toList

/-- A letter with a colon, or with a bar in its place. -/
def isDrive : List Char → Bool
  | [c, d] => c.isAlpha && (d == ':' || d == '|')
  | _ => false

/-- A drive as it is written in a path. -/
def isWrittenDrive (s : List Char) : Bool := isDrive s && s.getLast? == some ':'

/-- Whether the first segment of a text without its first slash is a drive. -/
def startsWithDrive (s : List Char) : Bool :=
  isDrive (s.take 2) && (s.drop 2).head?.all (isTailStart true)

/-- The path up to its last slash. In a path to a file, nothing is above a drive. -/
def directory (file : Bool) (path : List Char) : List Char :=
  match Text.cutLast? ['/'] path with
  | some (above, last) => if file && isWrittenDrive last then path else above ++ ['/']
  | none => path

/-- Whether a path ends in a slash after a segment that is no drive. -/
def hasParent (path : List Char) : Bool :=
  path.getLast? == some '/' &&
    match Text.cutLast? ['/'] path.dropLast with
    | some (_, last) => !startsWithDrive (last ++ ['/'])
    | none => false

/-- The path that double dots lead to. -/
def parent (file : Bool) (path : List Char) : List Char :=
  directory file (if hasParent path then path.dropLast else path)

def withSlash (path : List Char) : List Char :=
  if path.getLast? == some '/' then path else path ++ ['/']

/-- Add a segment, which a slash follows or not. A drive is set off from what is added to it. -/
def addSegment (file : Bool) (path s : List Char) (slash : Bool) : List Char :=
  let path := if file && !s.isEmpty && isWrittenDrive (path.drop 1) then path ++ ['/'] else path
  let ending := if slash then ['/'] else []
  if isDoubleDot s then (if slash then withSlash (parent file path) else parent file path)
  else if isSingleDot s then withSlash path
  else if file && path == ['/'] && isDrive s then path ++ s.take 1 ++ [':'] ++ ending
  else path ++ percentEncode pathSet s ++ ending

def addSegments (file : Bool) (path : List Char) : List (List Char) → List Char
  | [] => path
  | [s] => addSegment file path s false
  | s :: rest => addSegments file (addSegment file path s true) rest

/-- Add a text to a path segment by segment. -/
def extendPath (scheme path s : List Char) : List Char :=
  let special := isSpecial scheme
  addSegments (scheme == fileScheme) path
    (Text.splitOn '/' (s.map fun c => if isSlash special c then '/' else c))

/-- A path that starts at the root; its text may leave out the first slash. -/
def rootedPath (scheme s : List Char) : List Char :=
  let rest := match s with
    | c :: rest => if isSlash (isSpecial scheme) c then rest else s
    | [] => []
  extendPath scheme ['/'] rest

/-- A path to a file starts with a single slash. -/
def filePath (path : List Char) : List Char := '/' :: path.dropWhile (· == '/')

end ContentFilter.Url
