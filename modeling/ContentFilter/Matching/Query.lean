import ContentFilter.Filter.Line
import ContentFilter.Resource

/-!
What is asked of a set of filters about a page, and the answers.
-/

namespace ContentFilter

/-- A network filter that matches a request, and the name of its list. -/
structure Candidate where
  filter : NetworkFilter
  list : String
  deriving DecidableEq, Repr

/-- What a page asks for: which groups of rules, and what it has seen in its document. -/
structure CosmeticQuery where
  url : String
  hostname : String
  classes : List String := []
  ids : List String := []
  hrefs : List String := []
  base : Bool := false
  injection : Bool := false
  extended : Bool := false
  fromHostname : Bool := false
  fromDocument : Bool := false
  deriving DecidableEq, Repr

namespace CosmeticQuery

def ofUrl (url : String) : CosmeticQuery where
  url
  hostname := String.ofList (Url.hostName url.toList)

/-- The one pass on navigation, before the document is known. -/
def bootstrap (url : String) : CosmeticQuery :=
  { ofUrl url with base := true, injection := true, extended := true, fromHostname := true }

/-- A later pass over classes, ids and links that were seen. -/
def document (url : String) (classes ids hrefs : List String) : CosmeticQuery :=
  { ofUrl url with classes, ids, hrefs, fromDocument := true }

end CosmeticQuery

structure CosmeticMatch where
  /-- The text of a style sheet. -/
  styles : String := ""
  scriptlets : List ScriptletCall := []
  extended : List String := []
  /-- False when generic rules are turned off on the page. -/
  enableGeneric : Bool := false
  deriving DecidableEq, Repr

def CosmeticMatch.isEmpty (found : CosmeticMatch) : Bool :=
  found.styles.isEmpty && found.scriptlets.isEmpty && found.extended.isEmpty

/-- Policies to add to a response, and selectors to remove from its body. -/
structure ResponseMatch where
  csp : List String := []
  html : List String := []
  deriving DecidableEq, Repr

inductive Decision where
  | allow | block | redirect
  deriving DecidableEq, Repr

/-- The decision on a request, and the filter and list that made it. -/
structure MatchResult where
  decision : Decision := .allow
  filter : Option String := none
  list : Option String := none
  redirect : Option Redirect := none
  deriving DecidableEq, Repr

namespace MatchResult

def matched (result : MatchResult) : Bool := result.filter.isSome

def decidedBy (candidate : Candidate) (decision : Decision) : MatchResult :=
  { decision, filter := some candidate.filter.raw, list := some candidate.list }

end MatchResult

end ContentFilter
