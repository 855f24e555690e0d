import ContentFilter.Config.Basic
import ContentFilter.Engine.Basic
import ContentFilter.Rule.Convert

/-!
Filters that the user wrote. Scriptlets that can change any page are refused unless the user
trusts them; a problem with a line is reported and stops nothing.
-/

namespace ContentFilter

/-- Why a line of the user's text was left out. -/
inductive CustomCause where
  | invalid (error : FilterError)
  | untrustedScriptlet (name : String)
  deriving DecidableEq, Repr

def CustomCause.reason : CustomCause → String
  | .invalid error => error.message
  | .untrustedScriptlet name => "scriptlet '" ++ name ++ "' requires trusted scriptlets"

structure CustomError where
  line : Nat
  filter : String
  cause : CustomCause
  deriving DecidableEq, Repr

/-- What became of the user's text. -/
structure CustomReport where
  networkFilters : Nat := 0
  cosmeticFilters : Nat := 0
  rules : Nat := 0
  errors : List CustomError := []
  ruleErrors : List ConversionError := []
  deriving DecidableEq, Repr

namespace CustomFilters

/-- Scriptlets that only trusted text may run. -/
def isRestricted (name : String) : Bool :=
  let name := Text.trim name.toList
  let name := (Text.dropEnd? ".js" name).getD name
  Text.startsWith "trusted-" name || name == "replace-node-text".toList || name == "rpnt".toList

structure Parsed where
  network : List NetworkFilter := []
  cosmetic : List CosmeticFilter := []
  errors : List CustomError := []

/-- The call of a filter that is refused in untrusted text. -/
def refused? (trusted : Bool) (filter : CosmeticFilter) : Option ScriptletCall :=
  filter.scriptlet?.filter fun call => !trusted && isRestricted call.canonicalName

def Parsed.add (trusted : Bool) (parsed : Parsed) (number : Nat) (line : List Char) : Parsed :=
  let withError := fun cause =>
    { parsed with errors := ⟨number, String.ofList (Text.trim line), cause⟩ :: parsed.errors }
  match Filter.parseChars line with
  | .ok (some (.network filter)) => { parsed with network := filter :: parsed.network }
  | .ok (some (.cosmetic filter)) =>
    match refused? trusted filter with
    | some call => withError (.untrustedScriptlet call.name)
    | none => { parsed with cosmetic := filter :: parsed.cosmetic }
  | .ok none => parsed
  | .error error => withError (.invalid error)

/-- The filters of some lines, of which the first has that number. -/
def parseLines (trusted : Bool) : Nat → List (List Char) → Parsed
  | _, [] => {}
  | number, line :: lines => (parseLines trusted (number + 1) lines).add trusted number line

def parse (text : String) (trusted : Bool) : Parsed :=
  parseLines trusted 1 (Text.lines text.toList)

def trustedSalt : UInt64 := 0x9E3779B97F4A7C15

/-- The digest of a text and of the trust it was compiled under. -/
def digestOf (text : String) (trusted : Bool) : UInt64 :=
  if trusted then contentDigest text ^^^ trustedSalt else contentDigest text

/-- Compile the user's text into an engine, with a report. -/
def compile (origin : Nat) (text : String) (trusted : Bool) : CustomReport × Engine :=
  let parsed := parse text trusted
  let (rules, ruleErrors) := Rule.ofFilters parsed.network
  ({ networkFilters := parsed.network.length
     cosmeticFilters := parsed.cosmetic.length
     rules := rules.length
     errors := parsed.errors
     ruleErrors },
    .ofFilters origin ListName.custom (digestOf text trusted) parsed.network parsed.cosmetic)

/-- The rules of the user's filters, and the filters without one. -/
def rulesOf (config : Config) : List Rule × List ConversionError :=
  match config.effectiveCustomFilters with
  | some text => Rule.ofFilters (parse text config.customFilters.trustedScriptlets).network
  | none => ([], [])

end CustomFilters

end ContentFilter
