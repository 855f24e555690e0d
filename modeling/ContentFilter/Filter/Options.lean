import ContentFilter.Filter.Error
import ContentFilter.Request

/-!
The options of a network filter, after the dollar sign.
-/

namespace ContentFilter

/-- The switches of a network filter. -/
inductive Flag where
  | important | regex | matchCase | rightAnchor | hostAnchor | leftAnchor | genericHide | elemHide
  | badFilter | redirectRule
  deriving DecidableEq, Repr

namespace Flag

def index : Flag → Nat
  | .important => 0
  | .regex => 1
  | .matchCase => 2
  | .rightAnchor => 3
  | .hostAnchor => 4
  | .leftAnchor => 5
  | .genericHide => 6
  | .elemHide => 7
  | .badFilter => 8
  | .redirectRule => 9

def set (flag : Flag) : BitSet := .single flag.index

def names : BitNames where
  width := 16
  flags :=
    [("IMPORTANT", 0), ("IS_REGEX", 1), ("MATCH_CASE", 2), ("HAS_RIGHT_ANCHOR", 3),
      ("HAS_HOST_ANCHOR", 4), ("HAS_LEFT_ANCHOR", 5), ("GENERICHIDE", 6), ("ELEMHIDE", 7),
      ("BADFILTER", 8), ("REDIRECT_RULE", 9)]

end Flag

/-- The pages that a filter is limited to, and those that it leaves alone. -/
structure DomainConstraint where
  included : List String
  excluded : List String
  deriving DecidableEq, Hashable, Repr

namespace DomainConstraint

def allows (domains : DomainConstraint) (host : List Char) : Except Text.CutFault Bool := do
  if ← Domain.isWithinAny host (domains.excluded.map String.toList) then pure false
  else if domains.included.isEmpty then pure true
  else Domain.isWithinAny host (domains.included.map String.toList)

def append (a b : DomainConstraint) : DomainConstraint :=
  ⟨a.included ++ b.included, a.excluded ++ b.excluded⟩

end DomainConstraint

/-- What the options of a filter say. An empty set of kinds or parties stands for all of them. -/
structure FilterOptions where
  flags : BitSet := .empty
  kinds : BitSet := .empty
  parties : BitSet := .empty
  domains : Option DomainConstraint := none
  redirect : Option String := none
  csp : Option String := none
  deriving DecidableEq, Repr

namespace FilterOptions

/-- The kinds and parties named so far, and those named with a tilde. -/
structure Draft where
  options : FilterOptions := {}
  kindsIn : BitSet := .empty
  kindsOut : BitSet := .empty
  partiesIn : BitSet := .empty
  partiesOut : BitSet := .empty
  deriving Repr

def kinds? (name : String) : Option BitSet :=
  if name == "script" then some Kind.script.set
  else if name == "image" then some Kind.image.set
  else if name == "stylesheet" || name == "css" then some Kind.stylesheet.set
  else if name == "object" then some Kind.object.set
  else if name == "subdocument" || name == "frame" then some Kind.subdocument.set
  else if name == "document" || name == "doc" || name == "main_frame" then some Kind.mainFrame.set
  else if name == "xmlhttprequest" || name == "xhr" || name == "fetch" then
    some Kind.xmlHttpRequest.set
  else if name == "media" then some Kind.media.set
  else if name == "font" then some Kind.font.set
  else if name == "ping" || name == "beacon" then some Kind.ping.set
  else if name == "websocket" then some Kind.websocket.set
  else if name == "csp_report" then some Kind.cspReport.set
  else if name == "other" then some Kind.other.set
  else if name == "all" then some Kind.all
  else none

def parties? (name : String) : Option BitSet :=
  if name == "third-party" || name == "thirdparty" || name == "3p" then some Party.third.set
  else if name == "first-party" || name == "firstparty" || name == "1p" then some Party.first.set
  else none

def flag? (name : String) : Option Flag :=
  if name == "important" then some .important
  else if name == "match-case" || name == "match_case" then some .matchCase
  else if name == "generichide" || name == "ghide" then some .genericHide
  else if name == "elemhide" || name == "ehide" then some .elemHide
  else if name == "badfilter" then some .badFilter
  else none

/-- The domains of one option, separated by bars; a tilde excludes. -/
def parseDomains (value : List Char) : Except FilterError DomainConstraint := do
  let pieces := ((Text.splitOn '|' value).map Text.trim).filter (!·.isEmpty)
  let domains ← pieces.mapM fun piece =>
    let (excluded, name) := match piece with
      | '~' :: rest => (true, rest)
      | name => (false, name)
    match Domain.normalize? name with
    | some domain => .ok (excluded, String.ofList domain)
    | none => .error (.invalidDomain (String.ofList name))
  let included := (domains.filter (!·.1)).map (·.2)
  let excluded := (domains.filter (·.1)).map (·.2)
  if domains.isEmpty then throw (.invalidDomain (String.ofList value))
  pure { included, excluded }

namespace Draft

def withFlag (draft : Draft) (flag : Flag) : Draft :=
  { draft with options.flags := draft.options.flags.union flag.set }

def withDomains (draft : Draft) (domains : DomainConstraint) : Draft :=
  let domains := match draft.options.domains with
    | some old => old.append domains
    | none => domains
  { draft with options.domains := some domains }

/-- A redirect without a name is no redirect. -/
def withRedirect (draft : Draft) (name : List Char) : Draft :=
  if name.isEmpty then draft else { draft with options.redirect := some (String.ofList name) }

def withKinds (draft : Draft) (negated : Bool) (kinds : BitSet) : Draft :=
  if negated then { draft with kindsOut := draft.kindsOut.union kinds }
  else { draft with kindsIn := draft.kindsIn.union kinds }

def withParties (draft : Draft) (negated : Bool) (parties : BitSet) : Draft :=
  if negated then { draft with partiesOut := draft.partiesOut.union parties }
  else { draft with partiesIn := draft.partiesIn.union parties }

/-- An option that names kinds or parties, perhaps after a tilde. -/
def withMask? (draft : Draft) (option : List Char) : Option Draft :=
  let (negated, name) := match option with
    | '~' :: rest => (true, rest)
    | name => (false, name)
  match kinds? (String.ofList name) with
  | some kinds => some (draft.withKinds negated kinds)
  | none => (parties? (String.ofList name)).map (draft.withParties negated)

/-- Take in one option. Letter case counts only in the value of `csp=`. -/
def add (draft : Draft) (option : List Char) : Except FilterError Draft :=
  let option := Text.trim option
  if option.isEmpty then .ok draft
  else match Text.dropStart? "csp=" option with
    | some value => .ok { draft with options.csp := some (String.ofList value) }
    | none =>
      let name := Text.lower option
      match flag? (String.ofList name) with
      | some flag => .ok (draft.withFlag flag)
      | none =>
        if name == "csp".toList then .ok { draft with options.csp := some "" }
        else match (Text.dropStart? "domain=" name <|> Text.dropStart? "from=" name) with
          | some value => (parseDomains value).map draft.withDomains
          | none =>
            match Text.dropStart? "redirect=" name with
            | some value => .ok (draft.withRedirect value)
            | none =>
              match Text.dropStart? "redirect-rule=" name with
              | some value =>
                if value.isEmpty then .ok draft
                else .ok ((draft.withRedirect value).withFlag .redirectRule)
              | none =>
                match draft.withMask? name with
                | some draft => .ok draft
                | none => .error (.unsupportedOption (String.ofList option))

end Draft

/-- What is named, or everything when nothing is, less what is excluded. All of it is written as the
empty set, and nothing of it is an error. -/
def mask (all named excluded : BitSet) : Except FilterError BitSet :=
  let base := if named.isEmpty then all else named
  let rest := base.without excluded
  if rest.isEmpty then .error .emptyMask
  else .ok (if rest = all then .empty else rest)

def parse (text : List Char) : Except FilterError FilterOptions := do
  let draft ← (Text.splitOn ',' text).foldlM Draft.add {}
  let kinds ← mask Kind.all draft.kindsIn draft.kindsOut
  let parties ← mask Party.both draft.partiesIn draft.partiesOut
  pure { draft.options with kinds, parties }

end FilterOptions

end ContentFilter
