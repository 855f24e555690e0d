import ContentFilter.Failure

/-!
Where lists come from: named files of bytes.
-/

namespace ContentFilter

structure FileSource where
  files : KeyMap (List UInt8) := .empty
  /-- Files that take their time: who asks for one has to wait. -/
  slow : List String := []
  deriving DecidableEq, Repr

namespace FileSource

def listFile (name : String) : String := name ++ ".txt"

def snapshotFile (name : String) : String := name ++ ".veil"

def fixesFile : String := "fixes.json"

def publicSuffixFile : String := "public_suffix_list.dat"

def insert (source : FileSource) (path : String) (content : List UInt8) : FileSource :=
  { source with files := source.files.insert path content }

def erase (source : FileSource) (path : String) : FileSource :=
  { source with files := source.files.erase path }

def bytes (source : FileSource) (path : String) : Except Failure (List UInt8) :=
  match source.files.get? path with
  | some content => .ok content
  | none => .error (.fetch path .notFound)

/-- The text of a file that was fetched. -/
def textOf (path : String) (content : List UInt8) : Except Failure String :=
  match Text.Utf8.decode content with
  | .ok text => .ok (String.ofList text)
  | .error fault => .error (.fetch path (.notText fault))

def text (source : FileSource) (path : String) : Except Failure String :=
  source.bytes path >>= textOf path

/-- The public suffix list of a source, if it has one that can be used. -/
def publicSuffixes? (source : FileSource) : Option Domain.PublicSuffixes := do
  let text ← (source.text publicSuffixFile).toOption
  (Domain.PublicSuffixes.parse text).toOption

end FileSource

/-- A base address for lists; it counts as a directory. -/
def listBase (base : String) : Except Failure Url.AbsoluteUrl :=
  (Url.parseUrl (Text.dropEndWhile (· == '/') base.toList ++ ['/'])).mapError fun cause =>
    .settings (.listBaseUrl base cause)

/-- The address of a list under a base address. -/
def listUrl (base path : String) : Except Failure String := do
  let url ← ((← listBase base).join (path.toList.dropWhile (· == '/'))).mapError fun cause =>
    .fetch path (.url cause)
  pure (String.ofList url.chars)

end ContentFilter
