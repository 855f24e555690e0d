import ContentFilter.Url.Host
import ContentFilter.Url.Path

/-!
Absolute web addresses: parsed, resolved against a base, and written in their normal form.
-/

namespace ContentFilter.Url

structure AbsoluteUrl where
  scheme : List Char
  /-- User information, host and port, when there are slashes before them. -/
  userInfo : List Char := []
  host : Option (List Char) := none
  port : Option Nat := none
  path : List Char
  query : Option (List Char) := none
  fragment : Option (List Char) := none
  deriving DecidableEq, Repr

/-- An address such as `mailto:x`, which nothing but a fragment can be resolved against. -/
def AbsoluteUrl.isWhole (url : AbsoluteUrl) : Bool := url.host.isNone && url.path.head? != some '/'

/-- The text without the characters that mean nothing: blanks around it, and tabs and line ends. -/
def clean (s : List Char) : List Char :=
  let isEdge := fun (c : Char) => c.toNat ≤ 0x20
  (Text.dropEndWhile isEdge (s.dropWhile isEdge)).filter fun c => c != '\t' && c != '\n' && c != '\r'

def userInfoSet : String := " \"#<>?\x60\x7b\x7d/:;=@[\\]^|"

def querySet (special : Bool) : String := if special then " \"#<>'" else " \"#<>"

def fragmentSet : String := " \"<>\x60"

/-- The path, query and fragment texts of an address. -/
structure Tail where
  path : List Char
  query : Option (List Char)
  fragment : Option (List Char)

def Tail.ofChars (s : List Char) : Tail :=
  let (s, fragment) := match Text.cut? ['#'] s with
    | some (s, fragment) => (s, some fragment)
    | none => (s, none)
  match Text.cut? ['?'] s with
  | some (path, query) => ⟨path, some query, fragment⟩
  | none => ⟨s, none, fragment⟩

/-- The address with the query and fragment of a tail, which may have none. -/
def AbsoluteUrl.withTail (url : AbsoluteUrl) (tail : Tail) : AbsoluteUrl :=
  { url with
    query := tail.query.map (percentEncode (querySet (isSpecial url.scheme)))
    fragment := tail.fragment.map (percentEncode fragmentSet) }

/-- A host and the port after it. A colon in brackets belongs to the host. -/
def splitPort (bracket : Bool) : List Char → List Char × Option (List Char)
  | [] => ([], none)
  | c :: s =>
    if c == ':' && !bracket then ([], some s)
    else
      let (host, port) := splitPort (c == '[' || (bracket && c != ']')) s
      (c :: host, port)

/-- A port, unless it is the one of the scheme, and what follows it. A backslash ends it even where it
is no slash. -/
def parsePort (scheme s : List Char) : Except UrlError (Option Nat × List Char) :=
  let digits := s.takeWhile Char.isDigit
  let rest := s.dropWhile Char.isDigit
  let port := (Text.nat? digits).filter (some · != defaultPort scheme)
  if 65535 < (Text.nat? digits).getD 0 || rest.head?.any (· != '\\') then .error .invalidPort
  else .ok (port, rest)

/-- A name and a password; a password that is empty is left out. -/
def writeUserInfo (user : List Char) : List Char :=
  match Text.cut? [':'] user with
  | some (name, password) =>
    let password := percentEncode userInfoSet password
    percentEncode userInfoSet name ++ if password.isEmpty then [] else ':' :: password
  | none => percentEncode userInfoSet user

/-- The path after a host. Only in a scheme that is not of the web can it be empty. -/
def hostPath (scheme s : List Char) : List Char :=
  if s.isEmpty && !isSpecial scheme then [] else rootedPath scheme s

/-- The address after the slashes that start its authority. -/
def parseAuthority (scheme rest : List Char) : Except UrlError AbsoluteUrl := do
  let special := isSpecial scheme
  let authority := rest.takeWhile (!isTailStart special ·)
  let after := rest.dropWhile (!isTailStart special ·)
  let (user?, place) := match Text.cutLast? ['@'] authority with
    | some (user, place) => (some user, place)
    | none => (none, authority)
  if user? == some [] && place.isEmpty && !after.isEmpty then throw .emptyHost
  let userInfo := writeUserInfo (user?.getD [])
  let (hostText, portText) := splitPort false place
  if hostText.isEmpty && (special || portText.isSome || !userInfo.isEmpty) then throw .emptyHost
  let host ← parseHost special hostText
  let (port, rest) ← parsePort scheme (portText.getD [])
  let tail := Tail.ofChars (rest ++ after)
  let url : AbsoluteUrl :=
    { scheme, userInfo, host := some host, port, path := hostPath scheme tail.path }
  pure (url.withTail tail)

def fileUrl (host path : List Char) : AbsoluteUrl :=
  { scheme := fileScheme, host := some host, path := filePath path }

/-- The address of a file after the two slashes before its host. A drive takes the place of a host. -/
def parseFileHost (rest : List Char) : Except UrlError AbsoluteUrl := do
  let name := rest.takeWhile (!isTailStart true ·)
  if isDrive name then
    let tail := Tail.ofChars rest
    pure ((fileUrl [] (extendPath fileScheme ['/'] tail.path)).withTail tail)
  else
    let host ← if name.isEmpty then pure [] else parseHost true name
    let tail := Tail.ofChars (rest.dropWhile (!isTailStart true ·))
    let path := rootedPath fileScheme tail.path
    let host := if host == "localhost".toList || startsWithDrive (path.drop 1) then [] else host
    pure ((fileUrl host path).withTail tail)

namespace AbsoluteUrl

def firstSegment (url : AbsoluteUrl) : List Char := (url.path.drop 1).takeWhile (· != '/')

/-- Resolve a reference that starts neither with a scheme nor with a path. -/
def resolveTail (base : AbsoluteUrl) (tail : Tail) : AbsoluteUrl :=
  let url := base.withTail tail
  if tail.query.isSome then url else { url with query := base.query }

/-- Resolve a reference without a scheme, unless it is one to a file. -/
def resolve (base : AbsoluteUrl) (s : List Char) : Except UrlError AbsoluteUrl :=
  let slashes := s.takeWhile (isSlash true)
  let tail := Tail.ofChars s
  if 2 ≤ slashes.length then
    parseAuthority base.scheme ((Text.dropStart? "//" s).getD (s.drop slashes.length))
  else if tail.path.isEmpty then .ok (base.resolveTail tail)
  else
    let path :=
      if slashes.isEmpty then
        let above := directory false base.path
        extendPath base.scheme (if above.isEmpty then ['/'] else above) tail.path
      else extendPath base.scheme ['/'] (tail.path.drop 1)
    .ok ({ base with path }.withTail tail)

end AbsoluteUrl

/-- The address of a file, after its scheme if it has one. A path from the root stays on the drive or
host of the base. -/
def parseFile (base : Option AbsoluteUrl) (s : List Char) : Except UrlError AbsoluteUrl :=
  let tail := Tail.ofChars s
  let fromRoot := (fileUrl [] (extendPath fileScheme ['/'] tail.path)).withTail tail
  match s.takeWhile (isSlash true), base with
  | _ :: _ :: _, _ => parseFileHost (s.drop 2)
  | [_], base =>
    let base := if startsWithDrive (s.drop 1) then none else base
    let drive := ((base.map (·.firstSegment)).filter isWrittenDrive).map ('/' :: ·)
    let host := if drive.isSome then [] else (base.bind (·.host)).getD []
    .ok ((fileUrl host (extendPath fileScheme (drive.getD []) tail.path)).withTail tail)
  | [], some base =>
    if tail.path.isEmpty then .ok (base.resolveTail tail)
    else if startsWithDrive s then .ok fromRoot
    else
      let path := extendPath fileScheme (directory true base.path) tail.path
      .ok ({ base with path := filePath path }.withTail tail)
  | [], none => .ok fromRoot

/-- An address that has neither a scheme of the web nor a host. -/
def parseHostless (scheme s : List Char) : AbsoluteUrl :=
  let tail := Tail.ofChars s
  let path := match tail.path with
    | '/' :: path => extendPath scheme ['/'] path
    | path => percentEncode "" path
  { scheme, path : AbsoluteUrl }.withTail tail

/-- An address that has a scheme. One of the web that repeats the scheme of the base without two
slashes counts as if it had none. -/
def parseWithScheme (base : Option AbsoluteUrl) (scheme s : List Char) : Except UrlError AbsoluteUrl :=
  let base := base.filter (·.scheme == scheme)
  let slashes := s.takeWhile (isSlash true)
  if scheme == fileScheme then parseFile base s
  else if isSpecial scheme then
    match base with
    | some base =>
      if slashes.length < 2 then base.resolve s else parseAuthority scheme (s.drop slashes.length)
    | none => parseAuthority scheme (s.drop slashes.length)
  else
    match Text.dropStart? "//" s with
    | some rest => parseAuthority scheme rest
    | none => .ok (parseHostless scheme s)

def parseUrl (s : List Char) : Except UrlError AbsoluteUrl :=
  let s := clean s
  match splitScheme? s with
  | some (scheme, rest) => parseWithScheme none scheme rest
  | none => .error .noBase

namespace AbsoluteUrl

/-- Resolve a reference against a base. -/
def join (base : AbsoluteUrl) (reference : List Char) : Except UrlError AbsoluteUrl :=
  let s := clean reference
  match splitScheme? s with
  | some (scheme, rest) => parseWithScheme (some base) scheme rest
  | none =>
    if s.head? == some '#' then .ok (base.resolveTail (Tail.ofChars s))
    else if base.isWhole then .error .opaqueBase
    else if base.scheme == fileScheme then parseFile (some base) s
    else base.resolve s

/-- The text of an address. A path that starts with two slashes is set off from them by a dot when no
host stands before it. -/
def chars (url : AbsoluteUrl) : List Char :=
  let start := match url.host with
    | some host =>
      "//".toList ++ (if url.userInfo.isEmpty then [] else url.userInfo ++ ['@']) ++ host ++
        match url.port with
        | some port => ':' :: (toString port).toList
        | none => []
    | none => if Text.startsWith "//" url.path then "/.".toList else []
  let query := match url.query with
    | some query => '?' :: query
    | none => []
  let fragment := match url.fragment with
    | some fragment => '#' :: fragment
    | none => []
  url.scheme ++ ':' :: (start ++ url.path ++ query ++ fragment)

end AbsoluteUrl

end ContentFilter.Url
