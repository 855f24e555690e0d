import ContentFilter.Regex.Basic

/-!
Reading regular expressions. The reader goes once over the text with a stack of open groups; back
references and look-around are no part of the language.
-/

namespace ContentFilter.Regex

structure Flags where
  ignoreCase : Bool := false
  multiLine : Bool := false
  dotAll : Bool := false
  /-- A carriage return ends a line, as a newline does. -/
  returns : Bool := false
  unicode : Bool := true
  verbose : Bool := false
  deriving Repr

/-- An expression with the depth of its nesting, the number of bytes that its states take, and
whether it matches empty texts only. -/
structure Part where
  node : Node
  depth : Nat
  cost : Nat
  isEmpty : Bool := false
  deriving Repr

namespace Part

/-- What a state takes. -/
def stateCost : Nat := 32

/-- What a choice between two states takes. -/
def choiceCost : Nat := stateCost + 8

def empty : Part := ⟨.empty, 0, stateCost, true⟩

/-- A change of flags matches what an empty expression does and takes nothing. -/
def flags : Part := ⟨.empty, 0, 0, true⟩

def maxDepth (parts : List Part) : Nat := (parts.map (·.depth)).foldl max 0

def totalCost (parts : List Part) : Nat := (parts.map (·.cost)).foldl (· + ·) 0

def seq (parts : List Part) : Part :=
  match parts with
  | [] => empty
  | [part] => part
  | parts =>
    ⟨parts.foldr (fun p node => .seq p.node node) .empty, maxDepth parts + 1, totalCost parts,
      parts.all (·.isEmpty)⟩

def alt (parts : List Part) : Part :=
  match parts with
  | [] => empty
  | [part] => part
  | first :: others =>
    ⟨others.foldl (fun node p => .alt node p.node) first.node, maxDepth parts + 1,
      totalCost parts + parts.length * 4 + 2 * stateCost, parts.all (·.isEmpty)⟩

/-- What a repetition takes: a copy for every time that it may be needed, and a choice wherever it
may stop. -/
def repCost (least : Nat) (more : Option Nat) (cost : Nat) : Nat :=
  match more with
  | none => max 1 least * cost + choiceCost
  | some more =>
    let stop := if least == 0 || more != 0 then stateCost else 0
    least * cost + more * (cost + choiceCost) + stop

/-- What matches empty texts only is never needed twice. -/
def rep (least : Nat) (more : Option Nat) (part : Part) : Part :=
  if part.isEmpty then
    ⟨if least == 0 then .empty else part.node, part.depth + 1, part.cost, true⟩
  else
    ⟨.rep least more part.node, part.depth + 1, repCost least more part.cost,
      least == 0 && more == some 0⟩

/-- The expression as a group, which when it captures has a state at either end. -/
def grouped (captures : Bool) (part : Part) : Part :=
  { part with depth := part.depth + 1, cost := part.cost + if captures then 2 * stateCost else 0 }

end Part

def depthLimit : Nat := 250

/-- The most bytes that the states of an expression may take, without those for its two ends and for
where a match may begin. -/
def costLimit : Nat := 10 * 1024 * 1024 - 168

/-- In verbose mode blanks and comments mean nothing. -/
def skip (flags : Flags) (s : List Char) : List Char :=
  if flags.verbose then
    match s with
    | [] => []
    | c :: rest =>
      if Text.isBlank c then skip flags rest
      else if c == '#' then skip flags (rest.dropWhile (· != '\n'))
      else c :: rest
  else s
termination_by s.length
decreasing_by
  · simp
  · have := (List.dropWhile_suffix (l := rest) (· != '\n')).length_le
    simp only [List.length_cons]; omega

theorem length_skip_le (flags : Flags) (s : List Char) : (skip flags s).length ≤ s.length := by
  fun_induction skip flags s
  case case3 _ c rest _ _ ih =>
    have := (List.dropWhile_suffix (l := rest) (· != '\n')).length_le
    simp only [List.length_cons]; omega
  all_goals simp
  all_goals omega

def isMeta (c : Char) : Bool := "\\.+*?()|[]\x7b\x7d^$#&-~".toList.contains c

inductive Primitive where
  | literal (c : Char)
  | set (s : CharSet)
  | assertion (a : Assertion)

def charOfCode? (n : Nat) : Option Char := if n.isValidChar then some (Char.ofNat n) else none

/-- The text up to a closing brace, without what means nothing in verbose mode. -/
def takeName (flags : Flags) (name s : List Char) : Option (List Char × List Char) :=
  match skip flags s with
  | [] => none
  | '}' :: rest => some (name.reverse, rest)
  | c :: rest => if rest.length < s.length then takeName flags (c :: name) rest else none
termination_by s.length

/-- So many characters, each without what means nothing after it. -/
def takeSpaced (flags : Flags) : Nat → List Char → Option (List Char × List Char)
  | 0, s => some ([], s)
  | _ + 1, [] => none
  | n + 1, c :: s =>
    (takeSpaced flags n (skip flags s)).map fun (taken, rest) => (c :: taken, rest)

/-- A character code after the letter that announces it: `count` digits, or any number of them in
braces. Without Unicode digits outside braces stand for a byte, which only ASCII can be. -/
def parseHex (flags : Flags) (count : Nat) (s : List Char) : Option (Char × List Char) := do
  match skip flags s with
  | '{' :: rest =>
    let (digits, rest) ← takeName flags [] rest
    pure (← charOfCode? (← Text.hex? digits), rest)
  | s =>
    let (digits, rest) ← takeSpaced flags count s
    let c ← charOfCode? (← Text.hex? digits)
    if count == 2 && !flags.unicode && 0x80 ≤ c.toNat then none else pure (c, rest)

def asciiSet : CharSet := .range 0 0x7F

/-- The set with all that differs from a member in case, when case is disregarded. -/
def foldSet (flags : Flags) (set : CharSet) : CharSet :=
  if flags.ignoreCase then
    if flags.unicode then .folded set else .inter (.folded set) asciiSet
  else set

/-- The characters outside a set. Without Unicode they would be bytes that are no characters. -/
def outside? (flags : Flags) (set : CharSet) : Option CharSet :=
  if flags.unicode then some (.compl set) else none

def unicodeOnly (flags : Flags) (set ascii : CharSet) : CharSet :=
  if flags.unicode then set else ascii

def asciiWord : CharSet :=
  .ofList [.range 0x30 0x39, .range 0x41 0x5A, .range 0x61 0x7A, .single '_']

def asciiBlank : CharSet := .union (.range 0x09 0x0D) (.single ' ')

def digitSet (flags : Flags) : CharSet := unicodeOnly flags .digit (.range 0x30 0x39)

def blankSet (flags : Flags) : CharSet := unicodeOnly flags .blank asciiBlank

def wordSet (flags : Flags) : CharSet := unicodeOnly flags .word asciiWord

/-- A class by its name, or by two names with an operator between them. -/
def namedClass? (text : List Char) : Option (Bool × Unicode.Class) :=
  match Text.cut? ['!', '='] text with
  | some (name, value) => (Unicode.Class.ofValue? name value).map (true, ·)
  | none =>
    match Text.cut? [':'] text <|> Text.cut? ['='] text with
    | some (name, value) => (Unicode.Class.ofValue? name value).map (false, ·)
    | none => (Unicode.Class.ofName? text).map (false, ·)

def namedSet (flags : Flags) (negated : Bool) (c : Unicode.Class) : CharSet :=
  let set := foldSet flags (.named c)
  if negated then .compl set else set

/-- A class of characters, after the letter that stands for it and says whether it is negated. -/
def parseProperty (flags : Flags) (negated : Bool) (s : List Char) : Option (CharSet × List Char) :=
  match skip flags s with
  | [] => none
  | '{' :: rest => do
    let (text, rest) ← takeName flags [] rest
    let (unequal, c) ← namedClass? text
    pure (namedSet flags (negated != unequal) c, rest)
  | '\\' :: _ => none
  | c :: rest => (Unicode.Class.ofName? [c]).map fun c => (namedSet flags negated c, rest)

def wordEdges : List (String × WordEdge) :=
  [("start", .start), ("end", .stop), ("start-half", .startHalf), ("end-half", .stopHalf)]

def wordAssertion (flags : Flags) (edge : WordEdge) : Assertion := .word edge (!flags.unicode)

/-- A word boundary, of a special kind when a name in braces follows, as in `\b{start}`. -/
def parseBoundary (flags : Flags) (s : List Char) : Option (Assertion × List Char) :=
  let plain := some (wordAssertion flags .boundary, s)
  match s with
  | '{' :: rest =>
    match skip flags rest with
    | [] => none
    | c :: rest =>
      if c.isAlpha || c == '-' then do
        let (name, rest) ← takeName flags [] (c :: rest)
        let edge ← wordEdges.lookup (String.ofList name)
        pure (wordAssertion flags edge, rest)
      else plain
  | _ => plain

/-- What follows a backslash. -/
def parseEscape (flags : Flags) : List Char → Option (Primitive × List Char)
  | [] => none
  | c :: rest =>
    if c.isDigit then none
    else if c == 'x' then (parseHex flags 2 rest).map fun (c, rest) => (.literal c, rest)
    else if c == 'u' then (parseHex flags 4 rest).map fun (c, rest) => (.literal c, rest)
    else if c == 'U' then (parseHex flags 8 rest).map fun (c, rest) => (.literal c, rest)
    else if c == 'p' || c == 'P' then
      if flags.unicode then
        (parseProperty flags (c == 'P') rest).map fun (set, rest) => (.set set, rest)
      else none
    else if c == 'd' then some (.set (digitSet flags), rest)
    else if c == 'D' then (outside? flags (digitSet flags)).map fun set => (.set set, rest)
    else if c == 's' then some (.set (blankSet flags), rest)
    else if c == 'S' then (outside? flags (blankSet flags)).map fun set => (.set set, rest)
    else if c == 'w' then some (.set (wordSet flags), rest)
    else if c == 'W' then (outside? flags (wordSet flags)).map fun set => (.set set, rest)
    else if c == 'a' then some (.literal '\x07', rest)
    else if c == 'f' then some (.literal '\x0c', rest)
    else if c == 't' then some (.literal '\t', rest)
    else if c == 'n' then some (.literal '\n', rest)
    else if c == 'r' then some (.literal '\r', rest)
    else if c == 'v' then some (.literal '\x0b', rest)
    else if c == 'A' then some (.assertion .startText, rest)
    else if c == 'z' then some (.assertion .endText, rest)
    else if c == 'b' then (parseBoundary flags rest).map fun (a, rest) => (.assertion a, rest)
    else if c == 'B' then some (.assertion (wordAssertion flags .noBoundary), rest)
    else if c == '<' then some (.assertion (wordAssertion flags .start), rest)
    else if c == '>' then some (.assertion (wordAssertion flags .stop), rest)
    else if isMeta c then some (.literal c, rest)
    else if c.toNat < 0x80 && !c.isAlphanum then some (.literal c, rest)
    else none

/-- The operators between sets inside brackets. -/
inductive SetOp where
  | inter | difference | symmetric
  deriving DecidableEq, Repr

def SetOp.apply : SetOp → CharSet → CharSet → CharSet
  | .inter, a, b => .inter a b
  | .difference, a, b => .inter a (.compl b)
  | .symmetric, a, b => .union (.inter a (.compl b)) (.inter b (.compl a))

/-- A set in brackets with the depth of its nesting. -/
structure NestedSet where
  set : CharSet
  depth : Nat := 0

/-- An open bracket: what stands left of the last operator, and the items since. -/
structure SetFrame where
  negated : Bool
  left : Option (SetOp × NestedSet) := none
  items : List NestedSet := []

namespace SetFrame

def add (frame : SetFrame) (item : NestedSet) : SetFrame :=
  { frame with items := item :: frame.items }

def itemDepth (frame : SetFrame) : Nat :=
  match frame.items with
  | [] => 0
  | [item] => item.depth
  | items => (items.map (·.depth)).foldl max 0 + 1

def value (flags : Flags) (frame : SetFrame) : NestedSet :=
  let items := foldSet flags (.ofList (frame.items.map (·.set)))
  match frame.left with
  | some (op, left) =>
    { set := op.apply (foldSet flags left.set) items, depth := max left.depth frame.itemDepth + 1 }
  | none => { set := items, depth := frame.itemDepth }

def operator (flags : Flags) (frame : SetFrame) (op : SetOp) : SetFrame :=
  { frame with left := some (op, frame.value flags), items := [] }

def close? (flags : Flags) (frame : SetFrame) : Option NestedSet := do
  let value := frame.value flags
  let set ← if frame.negated then outside? flags value.set else some value.set
  pure { set, depth := value.depth + 1 }

end SetFrame

/-- Add the hyphens that the text begins with. -/
def addHyphens (flags : Flags) (frame : SetFrame) (s : List Char) : SetFrame × List Char :=
  match s with
  | '-' :: rest => addHyphens flags (frame.add { set := .single '-' }) (skip flags rest)
  | s => (frame, s)
termination_by s.length
decreasing_by
  have := length_skip_le flags rest
  simp only [List.length_cons]; omega

/-- What follows an opening bracket: a negation, then hyphens or one closing bracket that stand for
themselves. -/
def openSet (flags : Flags) (s : List Char) : SetFrame × List Char :=
  let (negated, s) := match skip flags s with
    | '^' :: rest => (true, skip flags rest)
    | s => (false, s)
  let frame : SetFrame := { negated }
  match s with
  | '-' :: _ => addHyphens flags frame s
  | ']' :: rest => (frame.add { set := .single ']' }, rest)
  | s => (frame, s)

def asciiClass? (name : String) : Option CharSet :=
  if name == "alnum" then some (.ofList [.range 0x30 0x39, .range 0x41 0x5A, .range 0x61 0x7A])
  else if name == "alpha" then some (.union (.range 0x41 0x5A) (.range 0x61 0x7A))
  else if name == "ascii" then some (.range 0 0x7F)
  else if name == "blank" then some (.union (.single ' ') (.single '\t'))
  else if name == "cntrl" then some (.union (.range 0 0x1F) (.range 0x7F 0x7F))
  else if name == "digit" then some (.range 0x30 0x39)
  else if name == "graph" then some (.range 0x21 0x7E)
  else if name == "lower" then some (.range 0x61 0x7A)
  else if name == "print" then some (.range 0x20 0x7E)
  else if name == "punct" then
    some (.ofList [.range 0x21 0x2F, .range 0x3A 0x40, .range 0x5B 0x60, .range 0x7B 0x7E])
  else if name == "space" then some asciiBlank
  else if name == "upper" then some (.range 0x41 0x5A)
  else if name == "word" then some asciiWord
  else if name == "xdigit" then
    some (.ofList [.range 0x30 0x39, .range 0x41 0x46, .range 0x61 0x66])
  else none

/-- A named class `[:name:]` or `[:^name:]` after its opening bracket, with its set if it has one. -/
def parseAsciiClass (flags : Flags) : List Char → Option (Option CharSet × List Char)
  | ':' :: s => do
    let (negated, s) := match s with
      | '^' :: rest => (true, rest)
      | s => (false, s)
    let (name, rest) ← Text.cut? [':'] s
    let rest ← Text.dropStart? "]" rest
    let set ← asciiClass? (String.ofList name)
    let set := foldSet flags set
    pure (if negated then outside? flags set else some set, rest)
  | _ => none

/-- One item inside brackets. -/
def parseSetItem (flags : Flags) : List Char → Option (Primitive × List Char)
  | '\\' :: rest => parseEscape flags rest
  | c :: rest => some (.literal c, rest)
  | [] => none

/-- The code of a character inside brackets, which without Unicode is one of ASCII. -/
def codeInSet? (flags : Flags) (c : Char) : Option Nat :=
  if flags.unicode || c.toNat < 0x80 then some c.toNat else none

def Primitive.toSet? (flags : Flags) : Primitive → Option CharSet
  | .literal c => (codeInSet? flags c).map fun n => .range n n
  | .set s => some s
  | .assertion _ => none

/-- An item or a range of characters. -/
def parseSetRange (flags : Flags) (s : List Char) : Option (CharSet × List Char) := do
  let (first, rest) ← parseSetItem flags s
  match skip flags rest with
  | '-' :: more =>
    match skip flags more with
    | ']' :: _ => pure (← first.toSet? flags, skip flags rest)
    | '-' :: _ => pure (← first.toSet? flags, skip flags rest)
    | more =>
      let (last, rest) ← parseSetItem flags more
      match first, last with
      | .literal a, .literal b =>
        let low ← codeInSet? flags a
        let high ← codeInSet? flags b
        if low ≤ high then pure (.range low high, rest) else none
      | _, _ => none
  | rest => pure (← first.toSet? flags, rest)

/-- The inside of brackets up to the bracket that closes `frame`, given the brackets around it. -/
def parseSet (flags : Flags) (frame : SetFrame) (outer : List SetFrame) (s : List Char) :
    Option (NestedSet × List Char) :=
  let go (frame : SetFrame) (outer : List SetFrame) (rest : List Char) :=
    if rest.length < s.length then parseSet flags frame outer rest else none
  match skip flags s with
  | [] => none
  | '[' :: rest =>
    match parseAsciiClass flags rest with
    | some (some set, rest) => go (frame.add { set }) outer rest
    | some (none, _) => none
    | none =>
      let (inner, rest) := openSet flags rest
      go inner (frame :: outer) rest
  | ']' :: rest =>
    match frame.close? flags, outer with
    | none, _ => none
    | some set, [] => some (set, rest)
    | some set, parent :: outer => go (parent.add set) outer rest
  | '&' :: '&' :: rest => go (frame.operator flags .inter) outer rest
  | '-' :: '-' :: rest => go (frame.operator flags .difference) outer rest
  | '~' :: '~' :: rest => go (frame.operator flags .symmetric) outer rest
  | s =>
    match parseSetRange flags s with
    | some (set, rest) => go (frame.add { set }) outer rest
    | none => none
termination_by s.length

def literalSet (flags : Flags) (c : Char) : CharSet :=
  if flags.unicode || c.toNat < 0x80 then foldSet flags (.single c) else .single c

/-- What a dot stands for. Without Unicode that would be any byte. -/
def dotSet? (flags : Flags) : Option CharSet :=
  if flags.dotAll then outside? flags .empty
  else if flags.returns then outside? flags (.union (.single '\n') (.single '\r'))
  else outside? flags (.single '\n')

/-- The bytes for the ranges of a set, more for characters of several bytes. -/
def CharSet.cost : CharSet → Nat
  | .range low high => if high < 0x80 then 8 else if low == high then 60 else 130
  | .word => 47700
  | .digit => 4600
  | .blank => 620
  | .named _ => 20000
  | .union a b => a.cost + b.cost
  | .inter a b => max a.cost b.cost
  | .compl a => a.cost + 920
  | .folded a => a.cost + 8

def setPart (set : CharSet) (depth : Nat) : Part := 
  ⟨.char set, depth, 2 * Part.stateCost + set.cost, false⟩

/-- A single character, with a state for each of its bytes when its case matters. -/
def literalPart (flags : Flags) (c : Char) : Part :=
  match literalSet flags c with
  | .range low high => ⟨.char (.range low high), 0, c.utf8Size * Part.stateCost, false⟩
  | set => setPart set 0

def assertionPart (a : Assertion) : Part := ⟨.assertion a, 0, Part.stateCost, true⟩

def Primitive.toPart (flags : Flags) : Primitive → Part
  | .literal c => literalPart flags c
  | .set s => setPart s 0
  | .assertion a => assertionPart a

/-- The flag letters of a group; each may occur once, and one hyphen turns those after it off. -/
def parseFlags (flags : Flags) (used : List Char) : List Char → Option (Flags × List Char)
  | [] => none
  | c :: rest =>
    if c == ')' || c == ':' then
      if used.head? == some '-' then none else some (flags, c :: rest)
    else if used.contains c then none
    else
      let on := !used.contains '-'
      let next? : Option Flags :=
        if c == '-' || c == 'U' then some flags
        else if c == 'i' then some { flags with ignoreCase := on }
        else if c == 'm' then some { flags with multiLine := on }
        else if c == 's' then some { flags with dotAll := on }
        else if c == 'R' then some { flags with returns := on }
        else if c == 'u' then some { flags with unicode := on }
        else if c == 'x' then some { flags with verbose := on }
        else none
      match next? with
      | some flags => parseFlags flags (c :: used) rest
      | none => none

def isNameStart (c : Char) : Bool := c == '_' || Unicode.isAlphabetic c.toNat

def isNameRest (c : Char) : Bool :=
  isNameStart c || c == '.' || c == '[' || c == ']' || Unicode.isNumeric c.toNat

def parseName (s : List Char) : Option (List Char × List Char) := do
  let (name, rest) ← Text.cut? ['>'] s
  match name with
  | [] => none
  | c :: more => if isNameStart c && more.all isNameRest then pure (name, rest) else none

/-- What an opening parenthesis begins. -/
inductive Opening where
  /-- A group under these flags, which captures what it matches or does not. -/
  | group (flags : Flags) (captures : Bool) (name : Option (List Char))
  /-- Flags for the rest of the group around. -/
  | flags (flags : Flags)

def parseOpening (flags : Flags) (s : List Char) : Option (Opening × List Char) :=
  let s := skip flags s
  if Text.startsWith "?=" s || Text.startsWith "?!" s || Text.startsWith "?<=" s ||
      Text.startsWith "?<!" s then none
  else match (Text.dropStart? "?P<" s <|> Text.dropStart? "?<" s) with
    | some rest => (parseName rest).map fun (name, rest) => (.group flags true (some name), rest)
    | none =>
      match s with
      | '?' :: rest =>
        match parseFlags flags [] rest with
        | some (inner, ':' :: after) => some (.group inner false none, after)
        | some (inner, ')' :: after) =>
          if Text.startsWith ")" rest then none else some (.flags inner, after)
        | _ => none
      | s => some (.group flags true none, s)

/-- The digits that a text begins with, each without what means nothing after it. -/
def takeDigits (flags : Flags) (s : List Char) : List Char × List Char :=
  match s with
  | [] => ([], [])
  | c :: rest =>
    if c.isDigit then
      let (digits, rest) := takeDigits flags (skip flags rest)
      (c :: digits, rest)
    else ([], s)
termination_by s.length
decreasing_by
  have := length_skip_le flags rest
  simp only [List.length_cons]; omega

/-- A decimal number with blanks around it allowed. -/
def parseCount (flags : Flags) (s : List Char) : Option (Nat × List Char) := do
  let (digits, rest) := takeDigits flags (s.dropWhile Text.isBlank)
  let n ← Text.nat? digits
  if n < 4294967296 then pure (n, skip flags (rest.dropWhile Text.isBlank)) else none

/-- The bounds of a counted repetition, after its opening brace: the least count and how many more
are allowed. -/
def parseBounds (flags : Flags) (s : List Char) : Option ((Nat × Option Nat) × List Char) := do
  let (least, rest) ← parseCount flags (skip flags s)
  match rest with
  | '}' :: rest => pure ((least, some 0), rest)
  | ',' :: rest =>
    match skip flags rest with
    | '}' :: rest => pure ((least, none), rest)
    | rest =>
      let (most, rest) ← parseCount flags rest
      match rest with
      | '}' :: rest => if least ≤ most then pure ((least, some (most - least)), rest) else none
      | _ => none
  | _ => none

/-- A group that is still open: its items so far in reverse, its finished alternatives in reverse,
and the flags of the group around. An absent item is a change of flags, which nothing repeats. -/
structure Group where
  items : List (Option Part) := []
  alternatives : List Part := []
  captures : Bool := false
  flags : Flags

namespace Group

def sequence (group : Group) : Part := .seq (group.items.reverse.map (·.getD .flags))

def close (group : Group) : Part := .alt (group.alternatives.reverse ++ [group.sequence])

def push (group : Group) (part : Part) : Group := { group with items := some part :: group.items }

def bar (group : Group) : Group :=
  { group with items := [], alternatives := group.sequence :: group.alternatives }

/-- Repeat the last item. -/
def repeatLast? (group : Group) (least : Nat) (more : Option Nat) : Option Group :=
  match group.items with
  | some part :: items => some { group with items := some (part.rep least more) :: items }
  | _ => none

end Group

/-- A question mark right after a repetition makes it lazy, which changes no answer. -/
def dropLazy : List Char → List Char
  | '?' :: rest => rest
  | s => s

/-- The expression from `s` on, in `group` and the groups around it. -/
def parseFrom (flags : Flags) (names : List (List Char)) (group : Group) (outer : List Group)
    (s : List Char) : Option Part :=
  let go (flags : Flags) (names : List (List Char)) (group : Group) (outer : List Group)
      (rest : List Char) :=
    if rest.length < s.length then parseFrom flags names group outer rest else none
  match skip flags s with
  | [] => if outer.isEmpty then some group.close else none
  | '(' :: rest =>
    match parseOpening flags rest with
    | some (.group inner captures name, rest) =>
      match name with
      | some name =>
        if names.contains name then none
        else go inner (name :: names) { flags, captures } (group :: outer) rest
      | none => go inner names { flags, captures } (group :: outer) rest
    | some (.flags inner, rest) =>
      go inner names { group with items := none :: group.items } outer rest
    | none => none
  | ')' :: rest =>
    match outer with
    | [] => none
    | parent :: outer =>
      go group.flags names (parent.push (group.close.grouped group.captures)) outer rest
  | '|' :: rest => go flags names group.bar outer rest
  | '[' :: rest =>
    let (frame, rest) := openSet flags rest
    match parseSet flags frame [] rest with
    | some (nested, rest) =>
      go flags names (group.push (setPart nested.set nested.depth)) outer rest
    | none => none
  | '?' :: rest =>
    match group.repeatLast? 0 (some 1) with
    | some group => go flags names group outer (dropLazy rest)
    | none => none
  | '*' :: rest =>
    match group.repeatLast? 0 none with
    | some group => go flags names group outer (dropLazy rest)
    | none => none
  | '+' :: rest =>
    match group.repeatLast? 1 none with
    | some group => go flags names group outer (dropLazy rest)
    | none => none
  | '{' :: rest =>
    match parseBounds flags rest with
    | some ((least, more), rest) =>
      match group.repeatLast? least more with
      | some group => go flags names group outer (dropLazy (skip flags rest))
      | none => none
    | none => none
  | '\\' :: rest =>
    match parseEscape flags rest with
    | some (primitive, rest) => go flags names (group.push (primitive.toPart flags)) outer rest
    | none => none
  | '.' :: rest =>
    match dotSet? flags with
    | some set => go flags names (group.push (setPart set 0)) outer rest
    | none => none
  | '^' :: rest =>
    let a := if flags.multiLine then Assertion.startLine flags.returns else .startText
    go flags names (group.push (assertionPart a)) outer rest
  | '$' :: rest =>
    let a := if flags.multiLine then Assertion.endLine flags.returns else .endText
    go flags names (group.push (assertionPart a)) outer rest
  | c :: rest => go flags names (group.push (literalPart flags c)) outer rest
termination_by s.length

end Regex

/-- Compile an expression, with or without regard to letter case. Expressions that nest too deeply
or get too large are refused. -/
def Regex.compile? (source : List Char) (ignoreCase : Bool) : Option Regex := do
  let flags : Regex.Flags := { ignoreCase }
  let part ← Regex.parseFrom flags [] { flags } [] source
  if part.depth ≤ Regex.depthLimit && part.cost ≤ Regex.costLimit then pure ⟨part.node⟩ else none

end ContentFilter
