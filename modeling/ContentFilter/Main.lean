import ContentFilter.CommandLine.Run
import Std.Time.DateTime.Timestamp

/-!
The command line tool, over the files and the clock of the machine. Nothing can be downloaded.
-/

namespace ContentFilter.CommandLine

/-- The number of the error that a path leads through a file; some calls give it negated. -/
def notDirectoryCode : UInt32 := 20

def fileError : IO.Error → FileError
  | .noFileOrDirectory .. => .notFound
  | .alreadyExists .. => .alreadyExists
  | .inappropriateType _ code _ =>
    if code == notDirectoryCode || -code == notDirectoryCode then .notDirectory else .isDirectory
  | error => .other (toString error)

def catchErrors {α : Type} (action : IO α) : IO (Except FileError α) :=
  try .ok <$> action catch error => pure (.error (fileError error))

/-- Make a directory and those it lies in; what goes wrong is told by its own last step. -/
def makeDirectories (path : String) : IO Unit :=
  try IO.FS.createDirAll path catch _ => IO.FS.createDir path

/-- The machine the tool runs on. -/
def machine : World IO where
  read path := catchErrors do pure (← IO.FS.readBinFile path).toList
  write path data := catchErrors (IO.FS.writeBinFile path ⟨data.toArray⟩)
  makeDirectory path := catchErrors (makeDirectories path)
  now := do pure (← Std.Time.Timestamp.now).toMillisecondsSinceUnixEpoch.toInt.toNat
  download url := pure (.error (.unreachable url))

end ContentFilter.CommandLine

open ContentFilter.CommandLine in
def main (words : List String) : IO UInt32 := do
  let outcome ← execute machine words
  outcome.output.forM IO.println
  outcome.errors.forM IO.eprintln
  pure outcome.code.toUInt32
