import ContentFilter.Allow.Trust
import ContentFilter.Rule.Convert

/-!
The user's exceptions for trackers, as filters that allow what the trackers' filters block.
-/

namespace ContentFilter.Exceptions

/-- The pattern of a filter and the text of its options. A dollar sign inside a regular expression
starts no options. -/
def splitOptions (line : List Char) : List Char × Option (List Char) :=
  let atDollar := match Text.cut? ['$'] line with
    | some (pattern, options) => (pattern, some options)
    | none => (line, none)
  let plain := if line.getLast? == some '/' then (line, none) else atDollar
  if line.head? == some '/' then
    match Text.cutLast? ['/', '$'] line with
    | some (before, options) => if before.isEmpty then plain else (before ++ ['/'], some options)
    | none => plain
  else atDollar

def isDomainOption (option : List Char) : Bool :=
  let name := Text.lower option
  Text.startsWith "domain=" name || Text.startsWith "from=" name

/-- The exception to a filter, limited to some pages when there are any; limits of its own are
dropped. -/
def negate (filter : String) (domains : Option (List String)) : String :=
  let line := Text.trim filter.toList
  let line := (Text.dropStart? "@@" line).getD line
  let (pattern, options) := splitOptions line
  let kept : List (List Char) := match options with
    | some text => ((Text.splitOn ',' text).map Text.trim).filter fun option =>
        !option.isEmpty && !isDomainOption option
    | none => []
  let scope : List String := match domains with
    | some domains => if domains.isEmpty then [] else ["domain=" ++ "|".intercalate domains]
    | none => []
  let options := kept.map String.ofList ++ scope
  let pattern := "@@" ++ String.ofList pattern
  if options.isEmpty then pattern else pattern ++ "$" ++ ",".intercalate options

/-- The filters of one exception. A name that no tracker has is taken for a host. -/
def filtersOf (db : TrackerDb) (id : String) (rule : TrackerException) : List String :=
  if !rule.everywhere && rule.domains.isEmpty then []
  else
    let filters := (db.filters? id).getD ["||" ++ id ++ "^"]
    let scope := if rule.everywhere then none else some rule.domains
    filters.map fun filter => negate filter scope

def filters (config : Config) (db : TrackerDb) : List String :=
  config.exceptions.entries.flatMap fun (id, rule) => filtersOf db id rule

/-- The rule of an exception filter, if it has one. -/
def ruleOf? (text : String) : Option Rule := do
  let filter ← (NetworkFilter.parse text).toOption
  let rule ← (Rule.ofFilter filter).toOption
  pure { rule with priority := Priority.exception, action := .allow, redirect := none }

def rules (config : Config) (db : TrackerDb) : List Rule := (filters config db).filterMap ruleOf?

end ContentFilter.Exceptions
