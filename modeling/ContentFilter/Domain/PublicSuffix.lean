import ContentFilter.Domain.Host
import ContentFilter.Domain.International

/-!
Registrable domains: a public suffix and one label more. The suffixes come from a list, or from a
short table of two-label suffixes when there is none.
-/

namespace ContentFilter.Domain

/-- Suffix rules by label, the top label first. A node with a rule says whether it is an
exception. -/
inductive SuffixTree where
  | node (rule : Option Bool) (children : List (List Char × SuffixTree))

namespace SuffixTree

def empty : SuffixTree := .node none []

def rule : SuffixTree → Option Bool
  | .node rule _ => rule

def children : SuffixTree → List (List Char × SuffixTree)
  | .node _ children => children

def child? (tree : SuffixTree) (label : List Char) : Option SuffixTree :=
  tree.children.lookup label

/-- Replace the child of that label, or add it. -/
def setChild (tree : SuffixTree) (label : List Char) (child : SuffixTree) : SuffixTree :=
  if (tree.child? label).isSome then
    .node tree.rule (tree.children.map fun (key, old) => if key == label then (key, child) else (key, old))
  else .node tree.rule ((label, child) :: tree.children)

def insert (tree : SuffixTree) (isException : Bool) : List (List Char) → SuffixTree
  | [] => .node (some isException) tree.children
  | label :: labels =>
    tree.setChild label (insert ((tree.child? label).getD empty) isException labels)

/-- The child of that label, else the wildcard child. -/
def next? (tree : SuffixTree) (label : List Char) : Option SuffixTree :=
  tree.child? label <|> tree.child? ['*']

/-- The number of labels of the suffix, `found` so far and `seen` labels walked. -/
def walk (tree : SuffixTree) (found seen : Nat) : List (List Char) → Nat
  | [] => found
  | label :: labels =>
    match tree.next? label with
    | none => found
    | some child =>
      match child.rule with
      | some true => seen
      | some false => walk child (seen + 1) (seen + 1) labels
      | none => walk child found (seen + 1) labels

/-- The number of labels of the public suffix of a name, given from the top label down. A top label
counts as a suffix whether the tree has it or not. -/
def suffixLength (tree : SuffixTree) : List (List Char) → Nat
  | [] => 0
  | top :: labels =>
    match tree.child? top with
    | none => 1
    | some child => walk child 1 1 labels

end SuffixTree

inductive SuffixError where
  | invalidRule (rule : String)
  | emptyLabel (rule : String)
  | topLevelException (rule : String)
  | noRules
  deriving DecidableEq, Repr

def SuffixError.message : SuffixError → String
  | .invalidRule rule => "invalid public suffix list: rule \x60" ++ rule ++ "\x60 is invalid"
  | .emptyLabel rule =>
    "invalid public suffix list: rule \x60" ++ rule ++ "\x60 contains an empty label"
  | .topLevelException rule =>
    "invalid public suffix list: \x60" ++ rule ++ "\x60; exceptions only valid at end of rule"
  | .noRules => "invalid public suffix list: the provided list is not valid"

structure PublicSuffixes where
  tree : SuffixTree

namespace PublicSuffixes

/-- The labels from the top down, and whether the rule is an exception. -/
def parseRule (rule : List Char) : Except SuffixError (Bool × List (List Char)) :=
  let (isException, name) := match rule with
    | '!' :: name => (true, name)
    | name => (false, name)
  if isException && !rule.contains '.' then .error (.topLevelException (String.ofList rule))
  else
    let labels := (Text.splitOn '.' name).reverse
    if labels.any (·.isEmpty) then .error (.emptyLabel (String.ofList name))
    else .ok (isException, labels)

/-- Add a rule as it stands and in its ASCII form. -/
def addRule (tree : SuffixTree) (rule : List Char) : Except SuffixError SuffixTree := do
  let (isException, labels) ← parseRule rule
  let tree := tree.insert isException labels
  match toAscii? (fun _ => false) rule with
  | none => .error (.invalidRule (String.ofList rule))
  | some ascii =>
    let (isException, labels) ← parseRule ascii
    pure (tree.insert isException labels)

/-- Lines count only inside a section, whose heading may be anywhere in a line. -/
def addLine (state : Bool × SuffixTree) (line : List Char) : Except SuffixError (Bool × SuffixTree) :=
  if Text.contains "BEGIN ICANN DOMAINS" line || Text.contains "BEGIN PRIVATE DOMAINS" line then
    .ok (true, state.2)
  else if Text.startsWith "//" line then .ok state
  else if state.1 then
    match Text.words line with
    | [] => .ok state
    | rule :: _ => (addRule state.2 rule).map (true, ·)
  else .ok state

def parse (text : String) : Except SuffixError PublicSuffixes := do
  let (_, tree) ← (Text.lines text.toList).foldlM addLine (false, .empty)
  if tree.children.isEmpty then .error .noRules else pure ⟨tree⟩

end PublicSuffixes

/-- Lower case, without points at the end. -/
def canonical (host : List Char) : List Char :=
  Text.lower (Text.dropEndWhile (· == '.') host)

/-- Empty names and addresses have no registrable domain. -/
def isLiteral (host : List Char) : Bool :=
  host.isEmpty || host.head? == some '[' || isDottedAddress host

def joinLabels (labels : List (List Char)) : List Char := List.intercalate ['.'] labels

/-- The last `n` labels. -/
def lastLabels (n : Nat) (labels : List (List Char)) : List (List Char) :=
  labels.drop (labels.length - n)

def commonSuffixes : List String :=
  ["co.uk", "co.jp", "co.nz", "co.za", "co.in", "co.kr", "com.au", "com.br", "com.cn", "com.mx",
    "com.tw", "com.hk", "com.tr", "net.au", "net.nz", "org.uk", "org.au", "gov.uk", "gov.au",
    "ac.uk", "ac.jp", "ne.jp", "or.jp"]

/-- Three labels above a common two-label suffix, else two. -/
def commonRegistrable (host : List Char) : List Char :=
  let labels := Text.splitOn '.' host
  if labels.length ≤ 2 then joinLabels labels
  else if commonSuffixes.contains (String.ofList (joinLabels (lastLabels 2 labels))) then
    joinLabels (lastLabels 3 labels)
  else joinLabels (lastLabels 2 labels)

/-- One label above the public suffix. A name that has none is its own registrable domain. -/
def PublicSuffixes.registrable (suffixes : PublicSuffixes) (host : List Char) : List Char :=
  let labels := Text.splitOn '.' host
  let n := suffixes.tree.suffixLength labels.reverse
  if (joinLabels (labels.take (labels.length - n))).isEmpty then host
  else joinLabels (lastLabels (n + 1) labels)

/-- The registrable domain of a host. -/
def registrable (suffixes : Option PublicSuffixes) (host : List Char) : List Char :=
  let host := canonical host
  if isLiteral host then host
  else match suffixes with
    | some suffixes => suffixes.registrable host
    | none => commonRegistrable host

def isThirdParty (suffixes : Option PublicSuffixes) (site request : List Char) : Bool :=
  registrable suffixes site != registrable suffixes request

/-- Names from the front of a lineage, up to and with the first of at most `limit` bytes. -/
def upTo (limit : Nat) : List (List Char) → List (List Char)
  | [] => []
  | host :: rest => host :: if limit < Text.Utf8.size host then upTo limit rest else []

/-- A host and its parents down to the registrable domain. -/
def toRegistrable (suffixes : Option PublicSuffixes) (host : List Char) : List (List Char) :=
  upTo (Text.Utf8.size (registrable suffixes host)) (lineage host)

end ContentFilter.Domain
