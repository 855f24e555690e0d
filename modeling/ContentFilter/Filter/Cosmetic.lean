import ContentFilter.Domain.PublicSuffix
import ContentFilter.Filter.Error

/-!
Cosmetic filters: what to hide, restyle, run or remove on the pages of some hosts.
-/

namespace ContentFilter

/-- A call of a scriptlet, `+js(name, arg1, arg2)`. -/
structure ScriptletCall where
  name : String
  args : List String
  deriving DecidableEq, Hashable, Repr

namespace ScriptletCall

/-- The name without its optional ending. -/
def canonicalName (call : ScriptletCall) : String :=
  match Text.dropEnd? ".js" call.name.toList with
  | some name => String.ofList name
  | none => call.name

end ScriptletCall

inductive CosmeticKind where
  | hide
  | style (css : String)
  /-- A procedural selector, evaluated in the page. -/
  | extended
  /-- An exception for a call without a name turns all scriptlets off. -/
  | scriptlet (call : ScriptletCall)
  /-- Applied to the body of the response. -/
  | html
  deriving DecidableEq, Repr

/-- What has to be seen on a page before a generic rule can matter. -/
inductive GenericKey where
  | className (name : String)
  | id (name : String)
  /-- A part of a link's target. -/
  | href (part : String)
  | base
  deriving DecidableEq, Repr

structure CosmeticFilter where
  raw : String
  hostnames : List String
  notHostnames : List String
  unhide : Bool
  kind : CosmeticKind
  selector : String
  deriving DecidableEq, Repr

namespace CosmeticFilter

/-- A separator between hosts and body: its text, whether it makes an exception, and whether the
body is procedural. -/
structure Separator where
  text : String
  unhide : Bool
  extended : Bool
  deriving Repr

/-- Longer separators stand before shorter ones. -/
def separators : List Separator :=
  [⟨"#@?#", true, true⟩, ⟨"#?#", false, true⟩, ⟨"#@#", true, false⟩, ⟨"##", false, false⟩]

def separatorAt? (s : List Char) : Option (Separator × List Char) :=
  separators.findSome? fun sep => (Text.dropStart? sep.text s).map (sep, ·)

/-- Cut at the first separator. -/
def cutSeparator? : List Char → Option (List Char × Separator × List Char)
  | [] => none
  | c :: s =>
    match separatorAt? (c :: s) with
    | some (sep, rest) => some ([], sep, rest)
    | none => (cutSeparator? s).map fun (before, found) => (c :: before, found)

def proceduralMarks : List String :=
  [":has-text(", ":-abp-has(", ":-abp-contains(", ":contains(", ":upward(", ":xpath(",
    ":matches-css(", ":matches-css-before(", ":matches-css-after(", ":matches-attr(",
    ":matches-path(", ":min-text-length(", ":watch-attr(", ":others(", ":remove("]

/-- A host, or a name with `.*` in the place of its public suffix. -/
def parseHostname (host : List Char) : Except FilterError String :=
  let name := match Text.dropEnd? ".*" host with
    | some entity => (Domain.normalize? entity).map (· ++ ['.', '*'])
    | none => Domain.normalize? host
  match name with
  | some name => .ok (String.ofList name)
  | none => .error (.invalidDomain (String.ofList host))

/-- The hosts before the separator, each with a mark for a tilde before it. -/
def parseHostnames (text : List Char) : Except FilterError (List (Bool × String)) :=
  let parts := ((Text.splitOn ',' text).map Text.trim).filter (!·.isEmpty)
  parts.mapM fun part =>
    match part with
    | '~' :: host => (parseHostname host).map (true, ·)
    | host => (parseHostname host).map (false, ·)

def hasBrace (s : List Char) : Bool := s.any fun c => c == '{' || c == '}'

def parseSelector (s : List Char) : Except FilterError String :=
  let selector := Text.trim s
  if selector.isEmpty || hasBrace selector then .error (.invalidSelector (String.ofList selector))
  else .ok (String.ofList selector)

/-- The selector and the declarations of a body that ends in `:style(...)`. -/
def splitStyle? (body : List Char) : Option (List Char × List Char) :=
  match Text.cutLast? ":style(".toList body with
  | some (selector, rest) => (Text.dropEnd? ")" rest).map (selector, ·)
  | none => none

/-- Arguments between commas; a backslash before a comma keeps it in the
argument. `current` is what was read of the argument, in reverse. -/
def splitArgs (current : List Char) : List Char → List (List Char)
  | [] => [current.reverse]
  | '\\' :: ',' :: s => splitArgs (',' :: current) s
  | '\\' :: c :: s => splitArgs (c :: '\\' :: current) s
  | ['\\'] => [('\\' :: current).reverse]
  | c :: s => if c = ',' then current.reverse :: splitArgs [] s else splitArgs (c :: current) s

/-- Drop one pair of equal quotes around a text. -/
def unquote (s : List Char) : List Char :=
  match s with
  | c :: rest =>
    if (c == '"' || c == '\'') && !rest.isEmpty && rest.getLast? == some c then rest.dropLast else s
  | [] => []

def parseCall (args : List Char) : ScriptletCall :=
  match (splitArgs [] args).map fun part => String.ofList (unquote (Text.trim part)) with
  | [] => ⟨"", []⟩
  | name :: args => ⟨name, args⟩

/-- The kind and the selector that the body of a filter stands for. -/
def parseBody (unhide extended : Bool) (body : List Char) :
    Except FilterError (CosmeticKind × String) :=
  let invalid := FilterError.invalidSelector (String.ofList body)
  if body.isEmpty then .error invalid
  else match Text.dropStart? "+js(" body with
    | some args =>
      match Text.dropEnd? ")" args with
      | none => .error invalid
      | some args =>
        let call := parseCall args
        if call.name.isEmpty && !unhide then .error invalid else .ok (.scriptlet call, "")
    | none =>
      match body with
      | '^' :: selector => (parseSelector selector).map (.html, ·)
      | _ =>
        match splitStyle? body with
        | some (selector, css) =>
          if hasBrace css || (Text.trim css).isEmpty then .error invalid
          else (parseSelector selector).map (.style (String.ofList (Text.trim css)), ·)
        | none =>
          if extended || proceduralMarks.any fun mark => Text.contains mark body then
            (parseSelector body).map (.extended, ·)
          else (parseSelector body).map (.hide, ·)

def parseChars (line : List Char) : Except FilterError CosmeticFilter :=
  let raw := Text.trim line
  match cutSeparator? raw with
  | none => .error .unsupported
  | some (hosts, sep, body) => do
    let hosts ← parseHostnames hosts
    let (kind, selector) ← parseBody sep.unhide sep.extended (Text.trim body)
    pure
      { raw := String.ofList raw
        hostnames := (hosts.filter (!·.1)).map (·.2)
        notHostnames := (hosts.filter (·.1)).map (·.2)
        unhide := sep.unhide
        kind
        selector }

def parse (line : String) : Except FilterError CosmeticFilter := parseChars line.toList

/-- Without hosts of its own a filter is for every page. -/
def isGeneric (filter : CosmeticFilter) : Bool := filter.hostnames.isEmpty

def scriptlet? (filter : CosmeticFilter) : Option ScriptletCall :=
  match filter.kind with
  | .scriptlet call => some call
  | _ => none

/-- Whether a page's host lies within the host of a filter. The form `name.*` stands for the name
under the public suffix of the page. -/
def hostMatches (suffixes : Option Domain.PublicSuffixes) (host pattern : List Char) :
    Except Text.CutFault Bool :=
  match Text.dropEnd? ".*" pattern with
  | some entity =>
    match Text.cut? ['.'] (Domain.registrable suffixes host) with
    | some (_, suffix) => Domain.isWithin host (entity ++ '.' :: suffix)
    | none => .ok false
  | none => Domain.isWithin host pattern

/-- Whether the filter applies to pages of the host. -/
def appliesTo (suffixes : Option Domain.PublicSuffixes) (filter : CosmeticFilter)
    (host : List Char) : Except Text.CutFault Bool := do
  let isHost := fun (pattern : String) => hostMatches suffixes host pattern.toList
  if ← filter.notHostnames.anyM isHost then pure false
  else if filter.hostnames.isEmpty then pure true
  else filter.hostnames.anyM isHost

def isNameChar (c : Char) : Bool := c.isAlphanum || c == '-' || c == '_'

/-- The part of a link that a selector such as `a[href^="https://ads."]` asks for. -/
def hrefPart? (selector : List Char) : Option String := do
  let (_, rest) ← Text.cut? "[href".toList selector
  let (_, value) ← Text.cut? ['='] rest
  let value := unquote (Text.trim (value.takeWhile (· != ']')))
  if value.isEmpty then none else some (String.ofList value)

def keyOfSelector (selector : List Char) : GenericKey :=
  let name := selector.tail.takeWhile isNameChar
  let other := match hrefPart? selector with
    | some part => GenericKey.href part
    | none => .base
  if name.isEmpty then other
  else if selector.head? == some '.' then .className (String.ofList name)
  else if selector.head? == some '#' then .id (String.ofList name)
  else other

def genericKey (filter : CosmeticFilter) : GenericKey := keyOfSelector filter.selector.toList

end CosmeticFilter

end ContentFilter
