import ContentFilter.Browser.Interception
import ContentFilter.CommandLine.Commands
import ContentFilter.Config.Fault
import ContentFilter.Engine.Fault
import ContentFilter.Engine.Session
import ContentFilter.Report
import ContentFilter.Rule.Mismatch

/-!
What the commands do, in a world of files and a clock.
-/

namespace ContentFilter.CommandLine

inductive FileError where
  | notFound | notDirectory | isDirectory | alreadyExists | notText
  | other (message : String)
  deriving DecidableEq, Repr

def FileError.message : FileError → String
  | .notFound => "No such file or directory (os error 2)"
  | .notDirectory => "Not a directory (os error 20)"
  | .isDirectory => "Is a directory (os error 21)"
  | .alreadyExists => "File exists (os error 17)"
  | .notText => "stream did not contain valid UTF-8"
  | .other message => message

/-- What the commands need of the world around them. -/
structure World (m : Type → Type) where
  read : String → m (Except FileError (List UInt8))
  write : String → List UInt8 → m (Except FileError Unit)
  /-- Make a directory and those it lies in. -/
  makeDirectory : String → m (Except FileError Unit)
  /-- The time in milliseconds. -/
  now : m Nat
  /-- The file at an address. -/
  download : String → m (Except FetchCause (List UInt8))

structure Outcome where
  code : Nat
  output : List String := []
  errors : List String := []
  deriving DecidableEq, Repr

/-- A run that prints lines and may fail with a message. -/
structure Printed where
  output : List String := []
  errors : List String := []

abbrev Run (m : Type → Type) := ExceptT String (StateT Printed m)

variable {m : Type → Type} [Monad m]

def print (line : String) : Run m Unit :=
  modify fun printed => { printed with output := printed.output ++ [line] }

def warn (line : String) : Run m Unit :=
  modify fun printed => { printed with errors := printed.errors ++ [line] }

/-- Do something to the world, or fail saying what could not be done. -/
def attempt {α : Type} (what : String) (action : m (Except FileError α)) : Run m α := do
  match ← (liftM action : Run m (Except FileError α)) with
  | .ok value => pure value
  | .error error => throw (what ++ ": " ++ error.message)

def quoted (path : String) : String := "'" ++ path ++ "'"

def readBytes (world : World m) (path : String) : Run m (List UInt8) :=
  attempt ("Failed to read " ++ quoted path) (world.read path)

def readText (world : World m) (path : String) : Run m String := do
  match Text.Utf8.decode (← readBytes world path) with
  | .ok text => pure (String.ofList text)
  | .error _ => throw ("Failed to read " ++ quoted path ++ ": " ++ FileError.notText.message)

/-- The directory that the last step of a path lies in; empty for the current one. -/
def directoryOf (path : String) : String :=
  match Text.cutLast? ['/'] (Text.dropEndWhile (· == '/') path.toList) with
  | some ([], _) => "/"
  | some (directory, _) => String.ofList (Text.dropEndWhile (· == '/') directory)
  | none => ""

def writeSnapshot (world : World m) (path : String) (data : List UInt8) : Run m Unit := do
  let directory := directoryOf path
  if !directory.isEmpty then
    attempt ("Failed to create " ++ quoted directory) (world.makeDirectory directory)
  attempt ("Failed to write " ++ quoted path) (world.write path data)

/-- The name of a list file without its directory and its ending. -/
def stem (path : String) : String :=
  let name := match Text.cutLast? ['/'] path.toList with
    | some (_, name) => name
    | none => path.toList
  match Text.cutLast? ['.'] name with
  | some ([], _) => String.ofList name
  | some (start, _) => String.ofList start
  | none => String.ofList name

/-- How many lines of errors a verbose run shows for each list. -/
def shownErrors : Nat := 5

def printStats (index : Nat) (stats : ListStats) : Run m Unit := do
  print ("  [" ++ toString index ++ "] " ++ stats.name ++ " - " ++ toString stats.lines ++ " lines, " ++
    toString stats.network ++ " network, " ++ toString stats.cosmetic ++ " cosmetic, " ++
    toString stats.errors.length ++ " skipped")
  for error in stats.errors.take shownErrors do
    print ("        line " ++ toString error.line ++ ": " ++ error.filter ++ " (" ++
      error.error.message ++ ")")

/-- Compile list files, each under its stem. -/
def compileFiles (world : World m) (paths : List String) (verbose : Bool) :
    Run m (Engine × List ListStats) := do
  if paths.isEmpty then throw "No input files specified"
  let compiled ← paths.zipIdx.mapM fun (path, index) => do
    let text ← readText world path
    let (engine, stats) := ListStats.compile index (stem path) text
    if verbose then printStats index stats
    pure (engine, stats)
  pure (Engine.merge (compiled.map (·.1)), compiled.map (·.2))

/-- A tenth of a unit after the point, rounded to the nearest and on a tie to the even one. -/
def tenths (count unit : Nat) : String :=
  let whole := count * 10 / unit
  let rest := count * 10 % unit * 2
  let rounded := if unit < rest || (rest == unit && whole % 2 == 1) then whole + 1 else whole
  toString (rounded / 10) ++ "." ++ toString (rounded % 10)

def sizeText (data : List UInt8) : String :=
  toString data.length ++ " bytes (" ++ tenths data.length 1024 ++ " KB)"

def sum (stats : List ListStats) (count : ListStats → Nat) : String :=
  toString (stats.foldl (fun n list => n + count list) 0)

def compile (world : World m) (inputs : List String) (output : String) (verbose : Bool) :
    Run m Unit := do
  let start ← (liftM world.now : Run m Nat)
  let (engine, stats) ← compileFiles world inputs verbose
  let stop ← (liftM world.now : Run m Nat)
  let data := engine.serialize
  writeSnapshot world output data
  print ("Compiled " ++ toString inputs.length ++ " filter lists to " ++ quoted output)
  print ("  Lines:    " ++ sum stats (·.lines))
  print ("  Filters:  " ++ toString engine.stats.network ++ " network, " ++
    toString engine.stats.cosmetic ++ " cosmetic (" ++ sum stats (·.errors.length) ++ " skipped)")
  print ("  Size:     " ++ sizeText data)
  print ("  Time:     " ++ tenths (stop - start) 1 ++ "ms")

/-- Why a snapshot cannot be read, with the fault of a payload that is none. -/
def snapshotReason (data : List UInt8) (error : SnapshotError) : String :=
  match error, Snapshot.fault? data with
  | .payload, some fault => error.message ++ ": " ++ fault.message
  | _, _ => error.message

/-- A snapshot file with what its header says and its engine. -/
def readSnapshot (world : World m) (path : String) :
    Run m (List UInt8 × Snapshot.Info × Engine) := do
  let data ← readBytes world path
  match Snapshot.inspect data, Engine.deserialize 0 data with
  | .ok info, .ok engine => pure (data, info, engine)
  | .error error, _ => throw ("Invalid snapshot: " ++ error.message)
  | _, .error error => throw ("Invalid snapshot: " ++ snapshotReason data error)

def validate (world : World m) (path : String) : Run m Unit := do
  let (data, info, _) ← readSnapshot world path
  print ("Snapshot " ++ quoted path ++ " is valid")
  print ("  Version:     " ++ toString info.version)
  print ("  CRC32:       " ++ Text.hex 8 info.checksum)
  print ("  Size:        " ++ toString data.length ++ " bytes")

def spaces (count : Nat) : String := String.ofList (List.replicate count ' ')

def padLeft (width : Nat) (text : String) : String := spaces (width - text.length) ++ text

def padRight (width : Nat) (text : String) : String := text ++ spaces (width - text.length)

def listLine (list : FilterList) : String :=
  "  " ++ padRight 16 list.name ++ " " ++ padLeft 7 (toString list.network.length) ++ " network " ++
    padLeft 7 (toString list.cosmetic.length) ++ " cosmetic  digest " ++
    Text.hex 16 list.digest.toNat

def info (world : World m) (path : String) : Run m Unit := do
  let (data, info, engine) ← readSnapshot world path
  print ("Snapshot: " ++ path)
  print ("  Version:     " ++ toString info.version)
  print ("  Payload:     " ++ toString info.payloadSize ++ " bytes")
  print ("  Total size:  " ++ sizeText data)
  print ""
  print "Lists:"
  for list in engine.lists do print (listLine list)
  print ""
  print "Total:"
  print ("  Network:     " ++ toString engine.stats.network)
  print ("  Cosmetic:    " ++ toString engine.stats.cosmetic)

def loadEngine (world : World m) (path : String) : Run m Engine := do
  let data ← readBytes world path
  match Engine.deserialize 0 data with
  | .ok engine => pure engine
  | .error error => throw ("Invalid snapshot " ++ quoted path ++ ": " ++ snapshotReason data error)

def matchRequest (world : World m) (snapshot : Option String) (lists : List String) (url : String)
    (source : Option String) (kind : String) : Run m Unit := do
  let engine ← match snapshot with
    | some path => loadEngine world path
    | none => do pure (← compileFiles world lists false).1
  let details : RequestDetails := { url, initiator := source, kind }
  match engine.matchRequest (details.request none) with
  | .error _ => throw "the address is cut inside a character"
  | .ok result =>
    print (String.ofList (Text.lower result.decision.name.toList))
    if let some filter := result.filter then print ("  Filter:      " ++ filter)
    if let some list := result.list then print ("  List:        " ++ list)
    if let some redirect := result.redirect then
      print ("  Redirect:    " ++ redirect.resource ++ " (" ++ redirect.path ++ ")")

def checkCustom (world : World m) (path : String) (trusted json : Bool) : Run m Unit := do
  let text ← readText world path
  let (report, _) := CustomFilters.compile 0 text trusted
  if json then print report.toJson.pretty
  else
    print ("Custom filters: " ++ path)
    print ("  Network:     " ++ toString report.networkFilters)
    print ("  Cosmetic:    " ++ toString report.cosmeticFilters)
    print ("  DNR rules:   " ++ toString report.rules)
    for error in report.errors do
      print ("  line " ++ toString error.line ++ ": " ++ error.filter ++ " (" ++
        error.cause.reason ++ ")")
    for error in report.ruleErrors do
      print ("  no declarative form: " ++ error.filter ++ " (" ++ error.reason ++ ")")
    if !report.errors.isEmpty then throw (toString report.errors.length ++ " invalid line(s)")

def readConfig (world : World m) (path : Option String) : Run m Config := do
  match path with
  | none => pure {}
  | some path =>
    let text ← readText world path
    match Config.fault? text, Json.parse text >>= Config.decode with
    | none, some config => pure config
    | fault, _ =>
      let reason := (fault.map (·.message)).getD Failure.json.message
      throw ("Invalid config " ++ quoted path ++ ": " ++ reason)

def readFixes (world : World m) (path : Option String) : Run m (Option FileSource) := do
  match path with
  | none => pure none
  | some path =>
    let text ← readText world path
    pure (some (FileSource.insert {} FileSource.fixesFile (Text.Utf8.encode text.toList)))

/-- The step of a synchronization as messages write it. -/
def stepLabel : SyncStep → String
  | .rulesets => "Rulesets"
  | .family family => "Family(" ++ family.label ++ ")"

def rejectedJson (report : SyncReport) : Json :=
  .array (report.families.flatMap fun family => family.rejected.map fun rejected =>
    .object
      [("family", .string family.family.name), ("rule", rejected.rule.toJson),
        ("reason", .string rejected.reason)])

def rulesJson (host : RuleHost) (report : SyncReport) (fixes : List Json) : Json :=
  .object
    [("enabledRulesets", .strings host.enabled.keys),
      ("rules", .array (host.familyRules.map (·.toJson))),
      ("conversionErrors", .array (report.conversionErrors.map (·.toJson))),
      ("fixesDropped", .strings (report.fixesDropped.map (Fixes.fullReason fixes))),
      ("rejected", rejectedJson report)]

/-- The rules that a configuration gives on an empty host. -/
def rules (world : World m) (config fixes : Option String) (rulesets : List String)
    (pretty : Bool) : Run m Unit := do
  let config ← readConfig world config
  let source ← readFixes world fixes
  let now ← (liftM world.now : Run m Nat)
  let empty : Synchronizer := { host := { available := rulesets }, trackers := {}, fixes := source }
  match (Synchronizer.sync config none now).run? empty with
  | (none, _) => throw "Rule sync failed: it has to wait"
  | (some report, after) =>
    match report.failures with
    | failure :: _ =>
      throw ("Rule sync failed at " ++ stepLabel failure.step ++ ": " ++ failure.cause.message)
    | [] =>
      let fixes := source.bind fun s => (s.text FileSource.fixesFile >>= Fixes.entries).toOption
      let json := (rulesJson after.host report (fixes.getD [])).sorted
      print (if pretty then json.pretty else json.compact)

/-- The text of a list under a base address. -/
def downloadList (world : World m) (base name : String) : Run m (Except Failure String) := do
  let path := FileSource.listFile name
  match listUrl base path with
  | .error failure => pure (.error failure)
  | .ok url =>
    match ← (liftM (world.download url) : Run m (Except FetchCause (List UInt8))) with
    | .ok data => pure (FileSource.textOf path data)
    | .error cause => pure (.error (.fetch path cause))

/-- Write a downloaded list, and its snapshot if wanted. -/
def saveList (world : World m) (directory name text : String) (snapshots : Bool) : Run m Unit := do
  let path := directory ++ "/" ++ FileSource.listFile name
  attempt ("Failed to write " ++ quoted path) (world.write path (Text.Utf8.encode text.toList))
  let line := "  " ++ name ++ " - " ++ toString (Text.lines text.toList).length ++ " lines"
  if snapshots then
    let data := (Engine.compile 0 name text).1.serialize
    writeSnapshot world (directory ++ "/" ++ FileSource.snapshotFile name) data
    print (line ++ ", snapshot " ++ toString data.length ++ " bytes")
  else print line

def fetch (world : World m) (base : String) (lists : List String) (directory : String)
    (snapshots : Bool) : Run m Unit := do
  if let .error failure := listBase base then
    throw ("Invalid base URL " ++ quoted base ++ ": " ++ failure.message)
  attempt ("Failed to create " ++ quoted directory) (world.makeDirectory directory)
  let fetched ← lists.mapM fun name => do
    match ← downloadList world base name with
    | .error failure =>
      warn ("  " ++ name ++ ": " ++ failure.message)
      pure false
    | .ok text =>
      saveList world directory name text snapshots
      pure true
  let failed := fetched.count false
  if 0 < failed then
    throw (toString failed ++ " of " ++ toString lists.length ++ " list(s) could not be fetched")

def run (world : World m) : Command → Run m Unit
  | .compile inputs output verbose => compile world inputs output verbose
  | .validate input => validate world input
  | .info input => info world input
  | .matchRequest snapshot lists url source kind =>
    matchRequest world snapshot lists url source kind
  | .checkCustom input trusted json => checkCustom world input trusted json
  | .rules config fixes rulesets pretty => rules world config fixes rulesets pretty
  | .fetch base lists output snapshots => fetch world base lists output snapshots

/-- Carry out the words after the name of the tool. -/
def execute (world : World m) (words : List String) : m Outcome := do
  match readCommand words with
  | .usage => pure { code := 2, errors := ["error: see '" ++ Help.tool ++ " --help'"] }
  | .help lines => pure { code := 0, output := lines }
  | .run command =>
    let (result, printed) ← ((run world command).run).run {}
    match result with
    | .ok () => pure { code := 0, output := printed.output, errors := printed.errors }
    | .error message =>
      pure { code := 1, output := printed.output, errors := printed.errors ++ ["Error: " ++ message] }

end ContentFilter.CommandLine
