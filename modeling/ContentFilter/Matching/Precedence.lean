import ContentFilter.Data.Distinct
import ContentFilter.Matching.Query

/-!
Which of the matching filters decides. An important exception comes before an important block, then
an exception, then a block; redirects go with a block.
-/

namespace ContentFilter

namespace Candidate

/-- Filters that set policies or switch cosmetic rules decide nothing about a request. -/
def decides (candidate : Candidate) : Bool :=
  !candidate.filter.isCsp && !candidate.filter.isCosmeticException

/-- An exception that only cancels redirects. -/
def isRedirectException (candidate : Candidate) : Bool :=
  candidate.decides && candidate.filter.action == .allow && candidate.filter.has .redirectRule

def isAllow (important : Bool) (candidate : Candidate) : Bool :=
  candidate.decides && candidate.filter.action == .allow &&
    !candidate.filter.has .redirectRule && candidate.filter.isImportant == important

def isBlock (important : Bool) (candidate : Candidate) : Bool :=
  candidate.decides && candidate.filter.action == .block &&
    !candidate.filter.has .redirectRule && candidate.filter.isImportant == important

/-- A block filter with a redirect, whether or not it blocks by itself. -/
def offersRedirect (candidate : Candidate) : Bool :=
  candidate.decides && candidate.filter.action == .block && candidate.filter.redirect.isSome

end Candidate

namespace Precedence

/-- The redirect names that exceptions cancel; a star cancels all. -/
def cancelled (candidates : List Candidate) : List String :=
  (candidates.filter (·.isRedirectException)).map fun c => c.filter.redirect.getD "*"

/-- The redirect that goes with a block: the blocking filter's own, or the first on offer. -/
def redirectFor (candidates : List Candidate) (block : Candidate) : Option Redirect := do
  let source ← if block.filter.redirect.isSome then some block
    else candidates.find? (·.offersRedirect)
  let name ← source.filter.redirect
  let cancelled := cancelled candidates
  if cancelled.contains "*" || cancelled.contains name then none else Resource.find? name

def blocked (candidates : List Candidate) (block : Candidate) : MatchResult :=
  match redirectFor candidates block with
  | some redirect => { MatchResult.decidedBy block .redirect with redirect := some redirect }
  | none => .decidedBy block .block

def decide (candidates : List Candidate) : MatchResult :=
  match candidates.find? (·.isAllow true) with
  | some allow => .decidedBy allow .allow
  | none =>
    match candidates.find? (·.isBlock true) with
    | some block => blocked candidates block
    | none =>
      match candidates.find? (·.isAllow false) with
      | some allow => .decidedBy allow .allow
      | none =>
        match candidates.find? (·.isBlock false) with
        | some block => blocked candidates block
        | none => {}

end Precedence

/-- The cosmetic switches that matching exceptions turn. -/
structure CosmeticSwitches where
  elemHide : Bool
  genericHide : Bool
  deriving DecidableEq, Repr

def CosmeticSwitches.of (candidates : List Candidate) : CosmeticSwitches :=
  let exceptions := candidates.filter (·.filter.isException)
  { elemHide := exceptions.any (·.filter.has .elemHide)
    genericHide := exceptions.any (·.filter.has .genericHide) }

namespace CosmeticMatch

/-- Whether the query asks for the group that the filter belongs to. A keyed generic rule is there
only because the document showed its key. -/
def isWanted (query : CosmeticQuery) (switches : CosmeticSwitches) (filter : CosmeticFilter) : Bool :=
  if filter.isGeneric then
    !switches.genericHide &&
      ((filter.kind == .hide && filter.genericKey != .base) || query.base)
  else query.fromHostname

/-- What the exceptions among the filters take away. -/
structure Exceptions where
  selectors : List String
  calls : List ScriptletCall
  allCalls : Bool

def Exceptions.of (filters : List CosmeticFilter) : Exceptions :=
  let unhide := filters.filter (·.unhide)
  let calls := unhide.filterMap (·.scriptlet?)
  { selectors := (unhide.filter (·.scriptlet?.isNone)).map (·.selector)
    calls := calls.filter (!·.name.isEmpty)
    allCalls := calls.any (·.name.isEmpty) }

def styleSheet (hidden : List String) (styles : List (String × String)) : String :=
  let hide := if hidden.isEmpty then []
    else [",\n".intercalate hidden ++ "\x7bdisplay:none !important;\x7d"]
  let rules := styles.map fun (selector, css) => selector ++ " \x7b " ++ css ++ " \x7d"
  "\n".intercalate (hide ++ rules)

/-- The rules for a page out of the filters that apply to it, each line once. -/
def resolve (query : CosmeticQuery) (switches : CosmeticSwitches) (filters : List CosmeticFilter) :
    CosmeticMatch :=
  let exceptions := Exceptions.of filters
  let chosen := distinctBy (·.raw)
    (filters.filter fun filter => !filter.unhide && isWanted query switches filter)
  let visible := chosen.filter fun filter =>
    !switches.elemHide && !exceptions.selectors.contains filter.selector
  let calls := (chosen.filterMap (·.scriptlet?)).filter fun call =>
    query.injection && !exceptions.allCalls && !exceptions.calls.contains call
  let hidden := distinct ((visible.filter (·.kind == .hide)).map (·.selector))
  let styles := visible.filterMap fun filter =>
    match filter.kind with
    | .style css => some (filter.selector, css)
    | _ => none
  let extended := visible.filter fun filter => query.extended && filter.kind == .extended
  { styles := styleSheet hidden styles
    scriptlets := distinct calls
    extended := extended.map (·.selector)
    enableGeneric := !switches.genericHide }

end CosmeticMatch

namespace ResponseMatch

/-- Policies of blocking filters that no exception repeats; a bare exception takes all away. -/
def policies (candidates : List Candidate) : List String :=
  let excepted := (candidates.filter (·.filter.isException)).filterMap (·.filter.csp)
  if excepted.contains "" then []
  else distinct (((candidates.filter (!·.filter.isException)).filterMap (·.filter.csp)).filter
    fun csp => !csp.isEmpty && !excepted.contains csp)

/-- Selectors of host-specific filters on the body that no exception repeats. -/
def selectors (filters : List CosmeticFilter) : List String :=
  let html := filters.filter (·.kind == .html)
  let excepted := (html.filter (·.unhide)).map (·.selector)
  distinct (((html.filter fun f => !f.unhide && !f.isGeneric).map (·.selector)).filter
    (!excepted.contains ·))

end ResponseMatch

end ContentFilter
