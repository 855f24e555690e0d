import ContentFilter.Domain.Host
import ContentFilter.Filter.Glob
import ContentFilter.Filter.Options
import ContentFilter.Regex.Parser

/-!
Network filters: one line of a list, and the requests that it accepts.
-/

namespace ContentFilter

inductive Action where
  | block
  /-- An exception, written with two at signs. -/
  | allow
  deriving DecidableEq, Hashable, Repr

structure NetworkFilter where
  /-- The line as it stands in the list. -/
  raw : String
  action : Action
  flags : BitSet
  /-- The host of a filter such as `||host^`. -/
  hostname : Option String
  /-- The rest of the pattern, or the source of a regular expression. -/
  pattern : String
  kinds : BitSet
  parties : BitSet
  domains : Option DomainConstraint
  redirect : Option String
  csp : Option String
  deriving DecidableEq, Hashable, Repr

namespace NetworkFilter

def has (filter : NetworkFilter) (flag : Flag) : Bool := filter.flags.mem flag.index

def isException (filter : NetworkFilter) : Bool := filter.action == .allow

def isImportant (filter : NetworkFilter) : Bool := filter.has .important

def isRegex (filter : NetworkFilter) : Bool := filter.has .regex

def isCsp (filter : NetworkFilter) : Bool := filter.csp.isSome

/-- Whether the filter only changes which cosmetic rules apply. -/
def isCosmeticException (filter : NetworkFilter) : Bool :=
  filter.has .genericHide || filter.has .elemHide

/-- The pattern of a line and the text of its options. A dollar sign inside a regular expression
starts no options. -/
def splitOptions (line : List Char) : List Char × Option (List Char) :=
  let atDollar := match Text.cut? ['$'] line with
    | some (pattern, options) => (pattern, some options)
    | none => (line, none)
  if line.head? == some '/' && 1 < line.length then
    if line.getLast? == some '/' then (line, none)
    else match Text.cutLast? ['/', '$'] line with
      | some (before, options) => if before.isEmpty then atDollar else (before ++ ['/'], some options)
      | none => atDollar
  else atDollar

structure Pattern where
  flags : BitSet
  hostname : Option String
  text : String
  deriving DecidableEq, Repr

def isHostChar (c : Char) : Bool := c.isAlphanum || c == '.' || c == '-' || c == '_'

/-- The host that an anchored pattern begins with and the rest. A host with a wildcard has none. -/
def splitHost? (pattern : List Char) : Option (String × List Char) :=
  let name := match pattern with
    | '.' :: rest => rest
    | name => name
  let host := name.takeWhile isHostChar
  let rest := name.dropWhile isHostChar
  let endsHost := match rest with
    | [] => true
    | c :: _ => c == '^' || c == '/' || c == ':' || c == '?'
  if endsHost then (Domain.normalize? host).map fun host => (String.ofList host, rest) else none

/-- A pattern between slashes is a regular expression; any other may have anchors at its ends. -/
def parsePattern (line : List Char) : Except FilterError Pattern :=
  if 2 < line.length && line.head? == some '/' && line.getLast? == some '/' then
    let source := line.tail.dropLast
    match Regex.compile? source false with
    | some _ => .ok ⟨Flag.regex.set, none, String.ofList source⟩
    | none => .error .invalidRegex
  else
    let (start, rest) : BitSet × List Char := match line with
      | '|' :: '|' :: rest => (Flag.hostAnchor.set, rest)
      | '|' :: rest => (Flag.leftAnchor.set, rest)
      | rest => (.empty, rest)
    let (flags, rest) := match Text.dropEnd? "|" rest with
      | some rest => (start.union Flag.rightAnchor.set, rest)
      | none => (start, rest)
    let rest := rest.dropWhile (· == '*')
    let host := if start == Flag.hostAnchor.set then splitHost? rest else none
    match host with
    | some (host, rest) => .ok ⟨flags, some host, String.ofList rest⟩
    | none => .ok ⟨flags, none, String.ofList rest⟩

/-- The name of a line in the form of a hosts file: an address and a name. -/
def hostsLine? (line : List Char) : Option String :=
  match Text.words line with
  | address :: name :: _ =>
    if Domain.isAddress address then (Domain.normalize? name).map String.ofList else none
  | _ => none

def ofParts (raw : List Char) (action : Action) (flags : BitSet) (options : FilterOptions)
    (hostname : Option String) (pattern : String) : NetworkFilter where
  raw := String.ofList raw
  action
  flags
  hostname
  pattern
  kinds := options.kinds
  parties := options.parties
  domains := options.domains
  redirect := options.redirect
  csp := options.csp

/-- Whether nothing limits a filter, so that it would match every request. -/
def isUnrestricted (pattern : Pattern) (flags : BitSet) (options : FilterOptions) : Bool :=
  pattern.hostname.isNone && pattern.text.isEmpty && options.domains.isNone &&
    options.kinds.isEmpty && options.parties.isEmpty && options.csp.isNone &&
    !flags.meets (Flag.genericHide.set.union Flag.elemHide.set)

def parseChars (line : List Char) : Except FilterError NetworkFilter := do
  let raw := Text.trim line
  if raw.isEmpty then throw .empty
  let (action, line) : Action × List Char := match raw with
    | '@' :: '@' :: rest => (.allow, Text.trimStart rest)
    | rest => (.block, rest)
  let (patternPart, optionsPart) := splitOptions line
  let options ← match optionsPart with
    | some text => FilterOptions.parse text
    | none => pure {}
  -- a redirect on an exception cancels redirects and allows nothing
  let flags := if options.redirect.isSome && action == .allow then
    options.flags.union Flag.redirectRule.set else options.flags
  let patternPart := Text.trim patternPart
  if patternPart.any Text.isBlank then
    match hostsLine? patternPart with
    | some host => pure (ofParts raw action (flags.union Flag.hostAnchor.set) options (some host) "")
    | none => throw .invalidPattern
  else
    let pattern ← parsePattern patternPart
    let flags := flags.union pattern.flags
    if isUnrestricted pattern flags options then throw .invalidPattern
    else pure (ofParts raw action flags options pattern.hostname pattern.text)

def parse (line : String) : Except FilterError NetworkFilter := parseChars line.toList

/-- The regular expression of a filter that has one; the inner `none` stands for one that does not
compile. -/
def regex? (filter : NetworkFilter) : Option (Option Regex) :=
  if filter.isRegex then some (Regex.compile? filter.pattern.toList (!filter.has .matchCase))
  else none

def mode (filter : NetworkFilter) : Glob.Mode :=
  ⟨filter.has .rightAnchor, filter.has .matchCase⟩

/-- What follows a colon and digits. -/
def skipPort (rest : List Char) : List Char :=
  match rest with
  | ':' :: rest => rest.dropWhile Char.isDigit
  | rest => rest

/-- Whether the pattern fits the address of a request. -/
def acceptsUrl (filter : NetworkFilter) (request : Request) (regex : Option Regex) :
    Except Text.CutFault Bool :=
  let url := request.url.toList
  let pattern := Text.Utf8.encode filter.pattern.toList
  let isMatch (text : List Char) := Glob.isMatch filter.mode pattern (Text.Utf8.encode text)
  if filter.isRegex then .ok (regex.any (·.isMatch url))
  else match filter.hostname with
    | some hostname => do
      if ← Domain.isWithin request.hostname.toList hostname.toList then
        if pattern.isEmpty then pure true
        else pure <| match Url.locate? url with
          | some location => isMatch (skipPort location.after)
          | none => false
      else pure false
    | none =>
      if filter.has .hostAnchor then
        .ok <| match Url.locate? url with
          | some location => (Domain.lineage location.host).any fun host => isMatch (host ++ location.after)
          | none => false
      else if filter.has .leftAnchor then .ok (isMatch url)
      else .ok (pattern.isEmpty ||
        Glob.isMatchInside filter.mode pattern (Text.Utf8.encode url))

/-- Whether the request has a kind and a party that the filter is for. A policy applies to
documents only. -/
def acceptsKind (filter : NetworkFilter) (request : Request) : Bool :=
  (filter.kinds.isEmpty || filter.kinds.mem request.kind.index) &&
    (!filter.isCsp || request.kind.isDocument) &&
    (filter.parties.isEmpty || filter.parties.mem request.party.index)

def acceptsSource (filter : NetworkFilter) (request : Request) : Except Text.CutFault Bool :=
  match filter.domains with
  | some domains => domains.allows request.sourceHostname.toList
  | none => .ok true

/-- Whether the filter matches the request; `regex` is its compiled expression, if it has one. -/
def accepts (filter : NetworkFilter) (request : Request) (regex : Option Regex) :
    Except Text.CutFault Bool := do
  if filter.acceptsKind request then
    if ← filter.acceptsSource request then filter.acceptsUrl request regex else pure false
  else pure false

end NetworkFilter

end ContentFilter
