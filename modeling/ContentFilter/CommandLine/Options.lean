import ContentFilter.Text.Basic

/-!
Reading the options of a command: long and short names, values that are attached or follow, and
switches.
-/

namespace ContentFilter.CommandLine

structure OptionSpec where
  long : String
  short : Option Char := none
  /-- What the help calls the value; a switch has none. -/
  value : Option String := none
  /-- May be given more than once. -/
  repeats : Bool := false
  /-- A comma separates values. -/
  listed : Bool := false
  required : Bool := false
  default : Option String := none
  /-- Which values are accepted. -/
  accepts : String → Bool := fun _ => true
  help : String

/-- Why the options give no command: they are wrong, or ask for help. -/
inductive Stop where
  | usage
  | help
  deriving DecidableEq, Repr

/-- An option as it was given; the value of a switch is empty. -/
structure Given where
  long : String
  value : String
  deriving DecidableEq, Repr

/-- What a word of the command line stands for. -/
structure Word where
  given : List Given
  /-- An option whose value is the next word. -/
  pending : Option OptionSpec := none

namespace OptionSpec

def byLong (specs : List OptionSpec) (name : List Char) : Option OptionSpec :=
  specs.find? fun spec => spec.long.toList == name

def byShort (specs : List OptionSpec) (name : Char) : Option OptionSpec :=
  specs.find? fun spec => spec.short == some name

end OptionSpec

/-- A word after two dashes. -/
def readLong (specs : List OptionSpec) (text : List Char) : Except Stop Word :=
  let (name, attached) := match Text.cut? ['='] text with
    | some (name, value) => (name, some (String.ofList value))
    | none => (text, none)
  if name == "help".toList then if attached.isSome then .error .usage else .error .help
  else
    match OptionSpec.byLong specs name with
    | none => .error .usage
    | some spec =>
      match spec.value, attached with
      | none, none => .ok { given := [⟨spec.long, ""⟩] }
      | none, some _ => .error .usage
      | some _, some value => .ok { given := [⟨spec.long, value⟩] }
      | some _, none => .ok { given := [], pending := some spec }

/-- The letters after one dash: switches, up to an option that takes the rest as its value. -/
def readShort (specs : List OptionSpec) : List Char → Except Stop Word
  | [] => .ok { given := [] }
  | letter :: rest =>
    match OptionSpec.byShort specs letter with
    | none => if letter == 'h' then .error .help else .error .usage
    | some spec =>
      match spec.value, rest with
      | none, _ => do
        let word ← readShort specs rest
        pure { word with given := ⟨spec.long, ""⟩ :: word.given }
      | some _, [] => .ok { given := [], pending := some spec }
      | some _, '=' :: value => .ok { given := [⟨spec.long, String.ofList value⟩] }
      | some _, value => .ok { given := [⟨spec.long, String.ofList value⟩] }

/-- A word that can only be an option. -/
def looksLikeOption : List Char → Bool
  | '-' :: _ :: _ => true
  | _ => false

def readWord (specs : List OptionSpec) (word : List Char) : Except Stop Word :=
  match word with
  | '-' :: '-' :: [] => .error .usage
  | '-' :: '-' :: name => readLong specs name
  | '-' :: letter :: letters => readShort specs (letter :: letters)
  | _ => .error .usage

/-- An option may follow those given so far. -/
def isAllowed (specs : List OptionSpec) (before : List Given) (given : Given) : Bool :=
  match specs.find? (·.long == given.long) with
  | some spec => (spec.repeats || !before.any (·.long == given.long)) && spec.accepts given.value
  | none => false

def addGiven (specs : List OptionSpec) (before : List Given) : List Given → Except Stop (List Given)
  | [] => .ok before
  | given :: rest =>
    if isAllowed specs before given then addGiven specs (before ++ [given]) rest else .error .usage

/-- The options that some words give, after those given before. -/
def readWords (specs : List OptionSpec) (before : List Given) :
    List String → Except Stop (List Given)
  | [] => .ok before
  | word :: rest => do
    if word == "--" && rest.isEmpty then pure before
    else
      let read ← readWord specs word.toList
      let before ← addGiven specs before read.given
      match read.pending, rest with
      | none, rest => readWords specs before rest
      | some _, [] => throw .usage
      | some spec, value :: rest =>
        if looksLikeOption value.toList then throw .usage
        else
          let before ← addGiven specs before [⟨spec.long, value⟩]
          readWords specs before rest

/-- The options of a command, with every required one among them. -/
def readOptions (specs : List OptionSpec) (words : List String) : Except Stop (List Given) := do
  let given ← readWords specs [] words
  if specs.all fun spec => !spec.required || given.any (·.long == spec.long) then pure given
  else throw .usage

namespace Given

def has (given : List Given) (long : String) : Bool := given.any (·.long == long)

def value? (given : List Given) (long : String) : Option String :=
  (given.find? (·.long == long)).map (·.value)

/-- Every value of an option, or its default. -/
def values (specs : List OptionSpec) (given : List Given) (long : String) : List String :=
  let spec := specs.find? (·.long == long)
  let found := (given.filter (·.long == long)).map (·.value)
  let found := if found.isEmpty then (spec.bind (·.default)).toList else found
  if spec.any (·.listed) then
    found.flatMap fun value => (Text.splitOn ',' value.toList).map String.ofList
  else found

/-- The value of an option, or its default. -/
def valueOr (specs : List OptionSpec) (given : List Given) (long : String) : String :=
  (values specs given long).head?.getD ""

end Given

end ContentFilter.CommandLine
