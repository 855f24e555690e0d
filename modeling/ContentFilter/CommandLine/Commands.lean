import ContentFilter.CommandLine.Options

/-!
The commands of the tool, their options, and the help about them.
-/

namespace ContentFilter.CommandLine

inductive Command where
  | compile (inputs : List String) (output : String) (verbose : Bool)
  | validate (input : String)
  | info (input : String)
  /-- Match one request against a snapshot, or else against lists. -/
  | matchRequest (snapshot : Option String) (lists : List String) (url : String)
      (source : Option String) (kind : String)
  | checkCustom (input : String) (trusted json : Bool)
  | rules (config fixes : Option String) (rulesets : List String) (pretty : Bool)
  | fetch (baseUrl : String) (lists : List String) (output : String) (compile : Bool)
  deriving DecidableEq, Repr

/-- What some words ask for. -/
inductive Invocation where
  | run (command : Command)
  | help (lines : List String)
  | usage
  deriving DecidableEq, Repr

structure CommandSpec where
  name : String
  about : String
  options : List OptionSpec
  /-- The command that some options give; nothing when they contradict each other. -/
  build : List Given → Option Command

def fitsWord64 (value : String) : Bool :=
  let digits := (Text.dropStart? "+" value.toList).getD value.toList
  (Text.nat? digits).any (· < 18446744073709551616)

namespace CommandSpec

def input (help : String) : OptionSpec where
  long := "input"
  short := some 'i'
  value := some "INPUT"
  required := true
  help

def output (default help : String) : OptionSpec where
  long := "output"
  short := some 'o'
  value := some "OUTPUT"
  default := some default
  help

def compileOptions : List OptionSpec :=
  [{ input "Input filter list files; each becomes a list named after its stem" with repeats := true },
    output "main.veil" "Output snapshot file",
    { long := "verbose", short := some 'v', help := "Verbose output" }]

def compile : CommandSpec where
  name := "compile"
  about := "Compile filter lists into an engine snapshot"
  options := compileOptions
  build given := some (.compile (Given.values compileOptions given "input")
    (Given.valueOr compileOptions given "output") (Given.has given "verbose"))

def validate : CommandSpec where
  name := "validate"
  about := "Validate an engine snapshot"
  options := [input "Snapshot file to validate"]
  build given := (Given.value? given "input").map .validate

def info : CommandSpec where
  name := "info"
  about := "Dump snapshot info"
  options := [input "Snapshot file to inspect"]
  build given := (Given.value? given "input").map .info

def matchOptions : List OptionSpec :=
  [{ long := "snapshot", short := some 's', value := some "SNAPSHOT", help := "Snapshot file" },
    { long := "list", short := some 'l', value := some "LIST", repeats := true
      help := "Filter list files, compiled on the fly" },
    { long := "url", short := some 'u', value := some "URL", required := true, help := "Request URL" },
    { long := "source", value := some "SOURCE", help := "Page URL that initiated the request" },
    { long := "type", short := some 't', value := some "REQUEST_TYPE", default := some "other"
      help := "Resource type, e.g. script or main_frame" }]

def matchRequest : CommandSpec where
  name := "match"
  about := "Match one request against a snapshot or list files"
  options := matchOptions
  build given :=
    if Given.has given "snapshot" && Given.has given "list" then none
    else some (.matchRequest (Given.value? given "snapshot") (Given.values matchOptions given "list")
      (Given.valueOr matchOptions given "url") (Given.value? given "source")
      (Given.valueOr matchOptions given "type"))

def checkCustom : CommandSpec where
  name := "check-custom"
  about := "Validate custom filter text"
  options :=
    [input "File with one filter per line",
      { long := "trusted-scriptlets", help := "Allow restricted scriptlets" },
      { long := "json", help := "Print the report as JSON" }]
  build given := (Given.value? given "input").map fun input =>
    .checkCustom input (Given.has given "trusted-scriptlets") (Given.has given "json")

def rulesOptions : List OptionSpec :=
  [{ long := "config", short := some 'c', value := some "CONFIG"
     help := "Configuration JSON; defaults apply when omitted" },
    { long := "fixes", value := some "FIXES", help := "Fixes rules JSON" },
    { long := "rulesets", value := some "RULESETS", repeats := true, listed := true
      default := some "ads,tracking,annoyances,fixes", help := "Prebuilt rulesets the host ships" },
    { long := "pretty", help := "Pretty-print JSON" }]

def rules : CommandSpec where
  name := "rules"
  about := "Print the declarative rules for a configuration"
  options := rulesOptions
  build given := some (.rules (Given.value? given "config") (Given.value? given "fixes")
    (Given.values rulesOptions given "rulesets") (Given.has given "pretty"))

def fetchOptions : List OptionSpec :=
  [{ long := "base-url", short := some 'b', value := some "BASE_URL", required := true
     help := "Base URL serving \x60<name>.txt\x60" },
    { long := "lists", short := some 'l', value := some "LISTS", repeats := true, listed := true
      required := true, help := "List names" },
    output "lists" "Output directory",
    { long := "compile", help := "Also write prebuilt snapshots" },
    { long := "timeout", value := some "TIMEOUT", default := some "30", accepts := fitsWord64
      help := "Per-list timeout in seconds" }]

def fetch : CommandSpec where
  name := "fetch"
  about := "Download lists from a remote base URL"
  options := fetchOptions
  build given := some (.fetch (Given.valueOr fetchOptions given "base-url")
    (Given.values fetchOptions given "lists") (Given.valueOr fetchOptions given "output")
    (Given.has given "compile"))

def all : List CommandSpec :=
  [compile, validate, info, matchRequest, checkCustom, rules, fetch]

end CommandSpec

namespace Help

def tool : String := "veil-cli"

def about : String := "Veil filter list compiler and tools"

def helpOption : OptionSpec := { long := "help", short := some 'h', help := "Print help" }

/-- Two columns, the first as wide as its widest text. -/
def columns (rows : List (String × String)) : List String :=
  let width := (rows.map (·.1.length)).foldl max 0
  rows.map fun (left, right) =>
    "  " ++ left ++ String.ofList (List.replicate (width - left.length) ' ') ++ "  " ++ right

def optionName (spec : OptionSpec) : String :=
  let value := match spec.value with
    | some value => " <" ++ value ++ ">"
    | none => ""
  "--" ++ spec.long ++ value

def optionRow (spec : OptionSpec) : String × String :=
  let short := match spec.short with
    | some letter => String.ofList ['-', letter] ++ ", "
    | none => "    "
  let default := match spec.default with
    | some value => " [default: " ++ value ++ "]"
    | none => ""
  (short ++ optionName spec, spec.help ++ default)

def usage (spec : CommandSpec) : String :=
  let free := if spec.options.any (!·.required) then " [OPTIONS]" else ""
  let required := (spec.options.filter (·.required)).map fun option => " " ++ optionName option
  "Usage: " ++ tool ++ " " ++ spec.name ++ free ++ String.join required

def ofCommand (spec : CommandSpec) : List String :=
  [spec.about, "", usage spec, "", "Options:"] ++
    columns ((spec.options ++ [helpOption]).map optionRow)

def ofTool : List String :=
  let commands := CommandSpec.all.map fun spec => (spec.name, spec.about)
  let help := ("help", "Print this message or the help of the given subcommand(s)")
  [about, "", "Usage: " ++ tool ++ " <COMMAND>", "", "Commands:"] ++ columns (commands ++ [help]) ++
    ["", "Options:"] ++ columns [optionRow helpOption]

end Help

/-- Read the words after the name of the tool. -/
def readCommand (words : List String) : Invocation :=
  let command? := fun name => CommandSpec.all.find? (·.name == name)
  match words with
  | [] => .usage
  | ["help"] => .help Help.ofTool
  | ["help", name] =>
    match command? name with
    | some spec => .help (Help.ofCommand spec)
    | none => .usage
  | name :: words =>
    match command? name with
    | some spec =>
      match readOptions spec.options words with
      | .error .usage => .usage
      | .error .help => .help (Help.ofCommand spec)
      | .ok given => ((spec.build given).map .run).getD .usage
    | none => if name == "--help" || name == "-h" then .help Help.ofTool else .usage

end ContentFilter.CommandLine
