import ContentFilter.Text.Basic

/-!
The neutral resources that a blocked request can be redirected to.
-/

namespace ContentFilter

/-- A neutral resource: its name, its bundled copy, and an address that embeds it. -/
structure Redirect where
  resource : String
  path : String
  dataUrl : String
  deriving DecidableEq, Repr

structure Resource where
  name : String
  aliases : List String
  dataUrl : String

namespace Resource

def directory : String := "/redirects/"

def bundled : List Resource :=
  [{ name := "noop.js"
     aliases := ["noopjs", "abp-resource:blank-js"]
     dataUrl := "data:application/javascript," },
   { name := "noop.css"
     aliases := ["noopcss", "abp-resource:blank-css"]
     dataUrl := "data:text/css," },
   { name := "noop.html"
     aliases := ["noopframe", "abp-resource:blank-html"]
     dataUrl := "data:text/html,%3C!DOCTYPE%20html%3E" },
   { name := "noop.txt"
     aliases := ["nooptext", "empty", "abp-resource:blank-text"]
     dataUrl := "data:text/plain," },
   { name := "1x1.gif"
     aliases := ["1x1-transparent.gif", "abp-resource:1x1-transparent-gif"]
     dataUrl := "data:image/gif;base64,R0lGODlhAQABAIAAAAAAAP///yH5BAEAAAAALAAAAAABAAEAAAIBRAA7" }]

def redirect (resource : Resource) : Redirect :=
  ⟨resource.name, directory ++ resource.name, resource.dataUrl⟩

def answersTo (resource : Resource) (name : List Char) : Bool :=
  (resource.name :: resource.aliases).any fun known => Text.equalFold known.toList name

/-- A name without blanks around it and without a priority, which is a colon and digits or
hyphens. -/
def baseName (name : List Char) : List Char :=
  let name := Text.trim name
  match Text.cut? [':'] name with
  | some (base, rest) => if rest.all fun c => c.isDigit || c == '-' then base else name
  | none => name

/-- The resource of that name or alias. -/
def find? (name : String) : Option Redirect :=
  let base := baseName name.toList
  (bundled.find? (·.answersTo base)).map redirect

end Resource

end ContentFilter
