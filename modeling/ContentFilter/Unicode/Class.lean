import ContentFilter.Unicode.Break

/-!
Named sets of characters: by category, script, version, property or part in breaking a text.
-/

namespace ContentFilter.Unicode

inductive Class where
  | any
  | ascii
  | categories (categories : List Category)
  | script (code : String)
  | usedIn (code : String)
  | age (version : Version)
  | property (property : Property)
  | grapheme (part : GraphemeBreak)
  | word (part : WordBreak)
  | sentence (part : SentenceBreak)
  deriving Repr

namespace Class

def contains (n : Nat) : Class → Bool
  | any => true
  | ascii => n < 0x80
  | categories list => list.contains (category n)
  | script code => script? n == some code
  | usedIn code => (scriptExtensions n).contains code
  | age version => (age? n).any (·.isAtMost version)
  | property p => p.holds n
  | grapheme part => graphemeBreak n == part
  | word part => wordBreak n == part
  | sentence part => sentenceBreak n == part

/-- A name without regard to case, to marks between its words and to an `is` before it. The name `isc`
is one of its own. -/
def looseName (name : List Char) : String :=
  let lower := Text.lower name
  let loose := fun (s : List Char) =>
    s.filter fun c => c.toNat < 0x80 && c != ' ' && c != '_' && c != '-'
  match lower with
  | 'i' :: 's' :: rest => if loose rest == ['c'] then "isc" else String.ofList (loose rest)
  | rest => String.ofList (loose rest)

def ofCategory? (name : String) : Option Class :=
  if name == "any" then some any
  else if name == "ascii" then some ascii
  else if name == "assigned" then
    some (categories ((Category.names.map (·.1)).filter (· != .unassigned)))
  else
    let single : Option Category :=
      (Category.names.find? fun (_, short, long) => short == name || long == name).map (·.1)
    match single with
    | some .surrogate => none
    | some category => some (categories [category])
    | none => (Category.groups.lookup name).map categories

def scriptCode? (name : String) : Option String :=
  if name == "qaac" then some "Copt"
  else if name == "qaai" then some "Zinh"
  else (scriptNames.find? fun (code, long) => code.toLower == name || long == name).map (·.1)

/-- A version as `6.1` or `v6_1`. -/
def version? (name : String) : Option Version :=
  (versions.map (·.2)).find? fun v =>
    name == toString v.major ++ "." ++ toString v.minor ||
      name == "v" ++ toString v.major ++ toString v.minor

/-- A class by its name alone: a property, else a category, else a script. -/
def ofName? (name : List Char) : Option Class :=
  let name := looseName name
  (Property.names.lookup name).map property <|> ofCategory? name <|> (scriptCode? name).map script

/-- A class by the name of what is asked and the name of the answer. -/
def ofValue? (name value : List Char) : Option Class :=
  let name := looseName name
  let value := looseName value
  if ["gc", "generalcategory"].contains name then ofCategory? value
  else if ["sc", "script"].contains name then (scriptCode? value).map script
  else if ["scx", "scriptextensions"].contains name then (scriptCode? value).map usedIn
  else if name == "age" then (version? value).map age
  else if ["gcb", "graphemeclusterbreak"].contains name then
    (GraphemeBreak.names.lookup value).map grapheme
  else if ["wb", "wordbreak"].contains name then (WordBreak.names.lookup value).map word
  else if ["sb", "sentencebreak"].contains name then (SentenceBreak.names.lookup value).map sentence
  else none

end Class

end ContentFilter.Unicode
