/-!
Why a line of a list could not be used as a filter.
-/

namespace ContentFilter

inductive FilterError where
  | empty
  | unsupportedOption (option : String)
  | invalidDomain (domain : String)
  | invalidRegex
  | invalidPattern
  | invalidSelector (selector : String)
  | unsupported
  | emptyMask
  deriving DecidableEq, Repr

def FilterError.message : FilterError → String
  | .empty => "empty filter"
  | .unsupportedOption option => "unsupported option: " ++ option
  | .invalidDomain domain => "invalid domain: " ++ domain
  | .invalidRegex => "invalid regex"
  | .invalidPattern => "invalid pattern"
  | .invalidSelector selector => "invalid selector: " ++ selector
  | .unsupported => "unsupported filter syntax"
  | .emptyMask => "options exclude every request"

end ContentFilter
