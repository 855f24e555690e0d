import ContentFilter.Json.Token

/-!
Reading JSON: a push-down automaton over tokens. A text holds one value and nothing after it.
-/

namespace ContentFilter.Json

/-- A container that is still open, with what it holds so far in reverse; `paired` is false once the
name of a field had an unpaired surrogate. -/
inductive Frame where
  | array (items : List Json)
  | object (fields : List (String × Json)) (paired : Bool)
  /-- An object whose field of that name waits for its value. -/
  | member (fields : List (String × Json)) (paired : Bool) (name : String)
  deriving Repr

/-- What may come next, and the open containers from the inside out. -/
inductive Reading where
  | value (outer : List Frame)
  /-- Right after an opening bracket. -/
  | firstItem (outer : List Frame)
  /-- Right after an opening brace. -/
  | firstName (outer : List Frame)
  | nextName (fields : List (String × Json)) (paired : Bool) (outer : List Frame)
  | colon (fields : List (String × Json)) (paired : Bool) (key : String) (outer : List Frame)
  /-- After a value inside `inner`. -/
  | separator (inner : Frame) (outer : List Frame)
  | done (json : Json)
  deriving Repr

namespace Reading

/-- A value is complete. -/
def complete (json : Json) : List Frame → Reading
  | [] => .done json
  | .array items :: outer => .separator (.array (json :: items)) outer
  | .object fields paired :: outer => .separator (.object fields paired) outer
  | .member fields paired name :: outer =>
    .separator (.object ((name, json) :: fields) paired) outer

def open? (outer : List Frame) : Token → Option Reading
  | .openArray => some (.firstItem outer)
  | .openObject => some (.firstName outer)
  | .scalar json => some (complete json outer)
  | _ => none

def step : Reading → Token → Option Reading
  | .value outer, token => open? outer token
  | .firstItem outer, .closeArray => some (complete (.array []) outer)
  | .firstItem outer, token => open? (.array [] :: outer) token
  | .firstName outer, .closeObject => some (complete (.object []) outer)
  | .firstName outer, .scalar (.string key) => some (.colon [] true key outer)
  | .firstName outer, .scalar .unpaired => some (.colon [] false "" outer)
  | .nextName fields paired outer, .scalar (.string key) => some (.colon fields paired key outer)
  | .nextName fields _ outer, .scalar .unpaired => some (.colon fields false "" outer)
  | .colon fields paired key outer, .colon => some (.value (.member fields paired key :: outer))
  | .separator (.array items) outer, .comma => some (.value (.array items :: outer))
  | .separator (.array items) outer, .closeArray => some (complete (.array items.reverse) outer)
  | .separator (.object fields paired) outer, .comma => some (.nextName fields paired outer)
  | .separator (.object fields paired) outer, .closeObject =>
    some (complete (if paired then .object fields.reverse else .unpaired) outer)
  | _, _ => none

def finish : Reading → Option Json
  | .done json => some json
  | _ => none

end Reading

def parseChars (s : List Char) : Option Json := do
  let tokens ← Token.scan s
  let reading ← tokens.foldlM Reading.step (.value [])
  reading.finish

def parse (text : String) : Option Json := parseChars text.toList

end ContentFilter.Json
