import ContentFilter.Unicode.Category

/-!
The direction in which characters are written, and how they join to their neighbours.
-/

namespace ContentFilter.Unicode

inductive Direction where
  | left | right | arabicLetter | arabicNumber | europeanNumber | europeanSeparator
  | commonSeparator | europeanTerminator | otherNeutral | boundaryNeutral | nonspacing
  deriving DecidableEq, Repr

/-- The directions with the letters that stand for them in the table. -/
def Direction.codes : List (String × Direction) :=
  [
    ("L", .left), ("R", .right), ("AL", .arabicLetter), ("AN", .arabicNumber),
    ("EN", .europeanNumber), ("ES", .europeanSeparator), ("CS", .commonSeparator),
    ("ET", .europeanTerminator), ("ON", .otherNeutral), ("BN", .boundaryNeutral),
    ("NSM", .nonspacing)]

/-- The directions of the characters that may stand in names. -/
def directionText : List String :=
  [
    "ON36 ET2 ON5 ES CS ES CS2 EN11 ON38 L26 ON39 ET4 ON10 ET6 ON41 L24 ON L449 ON2 L7 ON14",
    "L2 ON28 L ON17 NSM113 L4 ON2 L127 ON2 L139 NSM8 L255 ON5 ET2 NSM45 R NSM R NSM2 R NSM2",
    "R NSM9 R54 ON2 AL ET2 AL CS AL ON2 NSM11 AL48 NSM21 AN10 ET AN2 AL3 NSM AL101 NSM8 ON",
    "NSM6 AL2 NSM2 ON NSM4 AL2 EN10 AL23 NSM AL30 NSM29 AL89 NSM11 AL15 R43 NSM9 R2 ON4 R3",
    "NSM R24 NSM4 R NSM9 R NSM3 R NSM7 R41 NSM5 R2 AL55 NSM9 AL42 NSM57 L55 NSM L NSM L4",
    "NSM8 L4 NSM L3 NSM15 L2 NSM2 L29 NSM L58 NSM L4 NSM6 L6 NSM L20 NSM4 L12 ET2 L7 ET L2",
    "NSM5 L57 NSM2 L3 NSM27 L20 NSM2 L3 NSM L11 NSM2 L57 NSM L4 NSM8 L4 NSM3 L18 NSM4 L11",
    "ET8 L NSM8 L58 NSM L2 NSM L NSM6 L6 NSM10 L11 NSM4 L28 NSM L61 NSM L12 NSM3 L35 ON6 ET",
    "ON6 NSM L3 NSM L55 NSM L NSM3 L5 NSM18 L10 NSM4 L18 ON7 L2 NSM L58 NSM L15 NSM9 L13",
    "NSM4 L26 NSM2 L57 NSM2 L4 NSM5 L7 NSM L20 NSM4 L27 NSM L72 NSM5 L3 NSM6 L89 NSM L2",
    "NSM11 ET L7 NSM8 L98 NSM L2 NSM9 L11 NSM8 L72 NSM2 L27 NSM L NSM L NSM ON4 L51 NSM14 L",
    "NSM5 L NSM2 L5 NSM49 L8 NSM L102 NSM4 L NSM6 L NSM2 L2 NSM2 L25 NSM2 L4 NSM3 L16 NSM4",
    "L13 NSM L2 NSM2 L6 NSM L15 NSM L703 NSM3 L48 ON16 L96 ON L666 ON5 L114 NSM3 L29 NSM2",
    "L30 NSM14 L18 NSM14 L55 NSM7 L8 NSM L2 NSM11 L7 ET L NSM3 L16 ON32 L117 NSM2 L34 NSM",
    "L118 NSM3 L4 NSM2 L9 NSM L6 NSM7 ON6 L152 ON34 L23 NSM2 L2 NSM3 L56 NSM L NSM9 L NSM L2",
    "NSM8 L6 NSM13 L48 NSM84 L48 NSM L NSM5 L NSM L5 NSM L40 NSM9 L12 NSM2 L32 NSM4 L2 NSM2",
    "L NSM3 L56 NSM L NSM2 L3 NSM L NSM3 L58 NSM8 L2 NSM5 L149 NSM3 L NSM13 L NSM7 L4 NSM L6",
    "NSM L3 NSM2 L198 NSM65 L523 BN4 ON32 ET5 ON15 CS ON91 ET48 NSM52 ON42 ET12 ON20 L60",
    "ON136 ES ET ON290 L69 ON26 L ON790 L ON339 L256 ON816 L181 ON7 L3 NSM4 L6 ON7 L127 NSM",
    "L96 NSM32 ON517 L3 ON25 L9 NSM4 L2 ON L6 ON4 L2 ON4 L88 NSM4 L3 ON L90 ON L196 ON48",
    "L7120 ON64 L22160 ON64 L317 ON3 L95 NSM4 ON NSM10 ON3 L29 NSM2 L80 NSM2 L14 ON35 L101",
    "ON L121 NSM L3 NSM L4 NSM L25 NSM2 L ON4 NSM4 L8 ET8 L52 ON12 L68 NSM10 L18 NSM18 L13",
    "NSM L38 NSM8 L25 NSM11 L46 NSM3 L48 NSM L2 NSM4 L2 NSM2 L39 NSM L67 NSM6 L2 NSM2 L2",
    "NSM11 L3 NSM L8 NSM L47 NSM L51 NSM L NSM3 L2 NSM2 L5 NSM2 L NSM L42 NSM2 L8 NSM11 L105",
    "ON86 L37 NSM L2 NSM L4 NSM3 L20270 NSM148 AL396 ON226 NSM37 ON46 AL397 L257 ON L62 ON77",
    "L3 ON64 L45 NSM131 L96 NSM EN31 L118 NSM10 L1152 R287 ON R225 NSM15 R40 NSM8 R165 NSM6",
    "R78 ON7 R448 AL36 NSM12 AN16 R41 NSM5 ON R241 AN32 R43 NSM2 R21 AL58 NSM4 R48 AL22",
    "NSM11 AL31 R18 NSM4 R122 L NSM L54 NSM15 L11 ON20 L10 NSM L2 NSM2 L10 NSM3 L49 NSM4 L2",
    "NSM2 L7 NSM14 L48 NSM3 L36 NSM5 L NSM9 L61 NSM L12 NSM2 L52 NSM9 L10 NSM4 L2 NSM L95",
    "NSM3 L2 NSM L NSM2 L6 NSM L2 NSM63 L95 NSM L3 NSM13 L16 NSM2 L57 NSM2 L3 NSM L37 NSM26",
    "L59 NSM7 L12 NSM L NSM L NSM L14 NSM31 L56 NSM8 L2 NSM3 L NSM L23 NSM L84 NSM6 L NSM L4",
    "NSM2 L NSM2 L238 NSM6 L4 NSM2 L NSM2 L27 NSM36 L51 NSM8 L2 NSM L NSM2 L31 ON32 L43 NSM",
    "L NSM L2 NSM6 L NSM L101 NSM3 L2 NSM4 L NSM9 L255 NSM9 L NSM2 L256 NSM2 L NSM L4 NSM",
    "L144 NSM8 L4 NSM L32 NSM6 L2 NSM2 L40 NSM6 L2 NSM4 L8 NSM9 L NSM6 L2 NSM3 L46 NSM13 L",
    "NSM2 L406 NSM14 L84 NSM23 L NSM7 L NSM2 L NSM75 L49 NSM21 L NSM9 L64 NSM3 L2 NSM L NSM",
    "L347 NSM2 L11 NSM2 L52 NSM8 L2 NSM L NSM L23 NSM86 L37 ON8 ET4 ON30 L5185 NSM L6 NSM25",
    "L11454 NSM12 L3 NSM3 L2496 NSM5 L59 NSM7 L1048 NSM L63 NSM4 L79 ON L NSM12 L19629 NSM2",
    "L3937 ON768 NSM80 L535 NSM3 L17 NSM8 L2 NSM7 L30 NSM4 L59 ON89 NSM3 ON123 L64 ON96",
    "L1696 NSM55 L4 NSM50 L8 NSM L14 NSM L22 NSM1125 L256 NSM256 L48 NSM7 L375 NSM18 L44",
    "NSM4 L15 ET465 L28 NSM4 L254 NSM2 L528 R208 NSM82 R34 NSM7 R806 AL639 ON608 L29 ON3 L61",
    "ON57 L122 ON3488 L983040"]

def directionRuns : Array (Run Direction) :=
  runs (fun code => (Direction.codes.lookup (String.ofList code)).getD .left) directionText

def direction (n : Nat) : Direction := (nameAt? directionRuns n).getD .left

/-- Letters that join to both neighbours. -/
def dualJoining : Array Span := spans
  [
    "620 626 628 62A-62E 633-63F 641-647 649-64A 66E-66F 678-687 69A-6BF 6C1-6C2 6CC 6CE",
    "6D0-6D1 6FA-6FC 6FF 712-714 71A-71D 71F-727 729 72B 72D-72E 74E-758 75C-76A 76D-770 772",
    "775-777 77A-77F 7CA-7EA 841-845 848 84A-853 855 860 862-865 868 886 889-88D 8A0-8A9",
    "8AF-8B0 8B3-8B8 8BA-8C8 1807 1820-1878 1887-18A8 18AA A840-A871 10AC0-10AC4 10AD3-10AD6",
    "10AD8-10ADC 10ADE-10AE0 10AEB-10AEE 10B80 10B82 10B86-10B88 10B8A-10B8B 10B8D 10B90",
    "10BAD-10BAE 10D01-10D21 10D23 10EC3-10EC4 10F30-10F32 10F34-10F44 10F51-10F53",
    "10F70-10F73 10F76-10F81 10FB0 10FB2-10FB3 10FB8 10FBB-10FBC 10FBE-10FBF 10FC1 10FC4",
    "10FCA 1E900-1E943"]

/-- Letters that join only to what is written before them. -/
def rightJoining : Array Span := spans
  [
    "622-625 627 629 62F-632 648 671-673 675-677 688-699 6C0 6C3-6CB 6CD 6CF 6D2-6D3 6D5",
    "6EE-6EF 710 715-719 71E 728-72C/2 72F 74D 759-75B 76B-76C 771 773-774 778-779 840",
    "846-847 849 854 856-858 867 869-86A 870-882 88E 8AA-8AC 8AE 8B1-8B2 8B9 10AC5 10AC7",
    "10AC9-10ACA 10ACE-10AD2 10ADD 10AE1 10AE4 10AEF 10B81 10B83-10B85 10B89 10B8C",
    "10B8E-10B8F 10B91 10BA9-10BAC 10D22 10EC2 10F33 10F54 10F74-10F75 10FB4-10FB6",
    "10FB9-10FBA 10FBD 10FC2-10FC3 10FC9"]

/-- Letters that join only to what is written after them. -/
def leftJoining : Array Span := spans
  ["A872 10ACD 10AD7 10D00 10FCB"]

def joinsNext (n : Nat) : Bool := inSpans dualJoining n || inSpans leftJoining n

def joinsPrevious (n : Nat) : Bool := inSpans dualJoining n || inSpans rightJoining n

/-- Marks through which letters join. -/
def isTransparent (n : Nat) : Bool :=
  [.nonspacingMark, .enclosingMark].contains (category n) || n == 0x1E94B ||
    (category n == .format && n != 0x200C && n != 0x200D)

end ContentFilter.Unicode
