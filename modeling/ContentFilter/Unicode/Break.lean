import ContentFilter.Unicode.Property
import ContentFilter.Unicode.Script

/-!
The parts that characters play where a text is broken into characters as readers see them, into words
and into sentences.
-/

namespace ContentFilter.Unicode

inductive GraphemeBreak where
  | cr | lf | control | extend | joiner | regional | leading | spacing
  | hangulL | hangulV | hangulT | hangulLV | hangulLVT | other
  deriving DecidableEq, Repr

def GraphemeBreak.names : List (String × GraphemeBreak) :=
  [
    ("cr", .cr), ("lf", .lf), ("cn", .control), ("control", .control), ("ex", .extend),
    ("extend", .extend), ("zwj", .joiner), ("ri", .regional), ("regionalindicator", .regional),
    ("pp", .leading), ("prepend", .leading), ("sm", .spacing), ("spacingmark", .spacing),
    ("l", .hangulL), ("v", .hangulV), ("t", .hangulT), ("lv", .hangulLV), ("lvt", .hangulLVT)]

/-- Marks that take a place of their own in a line without extending what is before them. -/
def isDetachedMark (n : Nat) : Bool :=
  isOneOf n [(0x102B, 0x102C), (0x1038, 0x1038), (0x1062, 0x1064), (0x1067, 0x106D), (0x1083, 0x1083),
    (0x1087, 0x108C), (0x108F, 0x108F), (0x109A, 0x109C), (0x1A61, 0x1A61), (0x1A63, 0x1A64),
    (0xAA7B, 0xAA7B), (0xAA7D, 0xAA7D), (0x11720, 0x11721)]

/-- Letters and signs that belong to what follows them. -/
def isLeading (n : Nat) : Bool :=
  isPrependedMark n || isOneOf n [(0xD4E, 0xD4E), (0x111C2, 0x111C3), (0x113D1, 0x113D1),
    (0x1193F, 0x1193F), (0x11941, 0x11941), (0x11A3A, 0x11A3A), (0x11A84, 0x11A89),
    (0x11D46, 0x11D46), (0x11F02, 0x11F02)]

def isGraphemeControl (n : Nat) : Bool :=
  [.lineSeparator, .paragraphSeparator, .control, .format].contains (category n) ||
    (!isAssigned n && isDefaultIgnorable n)

/-- The part of a syllable, which leading consonants, vowels and trailing consonants make up. -/
def syllableBreak (n : Nat) : GraphemeBreak :=
  if isOneOf n [(0x1100, 0x115F), (0xA960, 0xA97C)] then .hangulL
  else if isOneOf n [(0x1160, 0x11A7), (0xD7B0, 0xD7C6), (0x16D63, 0x16D63), (0x16D67, 0x16D6A)] then
    .hangulV
  else if isOneOf n [(0x11A8, 0x11FF), (0xD7CB, 0xD7FB)] then .hangulT
  else if isOneOf n [(0xAC00, 0xD7A3)] then
    if (n - 0xAC00) % 28 == 0 then .hangulLV else .hangulLVT
  else .other

def graphemeBreak (n : Nat) : GraphemeBreak :=
  if n == 0x0D then .cr
  else if n == 0x0A then .lf
  else if n == 0x200D then .joiner
  else if isGraphemeExtend n || isEmojiModifier n then .extend
  else if isLeading n then .leading
  else if isGraphemeControl n then .control
  else if isRegionalIndicator n then .regional
  else if [0xE33, 0xEB3].contains n || (category n == .spacingMark && !isDetachedMark n) then .spacing
  else syllableBreak n

inductive WordBreak where
  | cr | lf | newline | extend | joiner | format | regional | katakana | hebrewLetter | letter
  | singleQuote | doubleQuote | midNumberLetter | midLetter | midNumber | numeric | connector | blank
  | other
  deriving DecidableEq, Repr

def WordBreak.names : List (String × WordBreak) :=
  [
    ("cr", .cr), ("lf", .lf), ("nl", .newline), ("newline", .newline), ("extend", .extend),
    ("zwj", .joiner), ("fo", .format), ("format", .format), ("ri", .regional),
    ("regionalindicator", .regional), ("ka", .katakana), ("katakana", .katakana),
    ("hl", .hebrewLetter), ("hebrewletter", .hebrewLetter), ("le", .letter), ("aletter", .letter),
    ("sq", .singleQuote), ("singlequote", .singleQuote), ("dq", .doubleQuote),
    ("doublequote", .doubleQuote), ("mb", .midNumberLetter), ("midnumlet", .midNumberLetter),
    ("ml", .midLetter), ("midletter", .midLetter), ("mn", .midNumber), ("midnum", .midNumber),
    ("nu", .numeric), ("numeric", .numeric), ("ex", .connector), ("extendnumlet", .connector),
    ("wsegspace", .blank)]

/-- Whether letters of the script are written without spaces between words. -/
def isUnspaced (script : String) : Bool :=
  ["Thai", "Laoo", "Mymr", "Khmr", "Tale", "Talu", "Lana", "Tavt", "Ahom", "Hira"].contains script

def isKatakana (n : Nat) : Bool :=
  script? n == some "Kana" ||
    isOneOf n [(0x3031, 0x3035), (0x309B, 0x309C), (0x30A0, 0x30A0), (0x30FC, 0x30FC), (0xFF70, 0xFF70)]

/-- Signs that count as letters of a word. -/
def isLetterSign (n : Nat) : Bool :=
  isOneOf n [(0x2C2, 0x2C5), (0x2D2, 0x2D7), (0x2DE, 0x2DF), (0x2E5, 0x2EB), (0x2ED, 0x2ED),
    (0x2EF, 0x2FF), (0x55A, 0x55C), (0x55E, 0x55E), (0x58A, 0x58A), (0x5F3, 0x5F3), (0x70F, 0x70F),
    (0xA708, 0xA716), (0xA720, 0xA721), (0xA789, 0xA78A), (0xAB5B, 0xAB5B)]

def wordPunctuation (n : Nat) : WordBreak :=
  if n == 0x27 then .singleQuote
  else if n == 0x22 then .doubleQuote
  else if [0x2E, 0x2018, 0x2019, 0x2024, 0xFE52, 0xFF07, 0xFF0E].contains n then .midNumberLetter
  else if isMidWord n then .midLetter
  else if [0x2C, 0x3B, 0x37E, 0x589, 0x60C, 0x60D, 0x66C, 0x7F8, 0x2044, 0xFE10, 0xFE14, 0xFE50, 0xFE54,
      0xFF0C, 0xFF1B].contains n then .midNumber
  else if category n == .connectorPunctuation || n == 0x202F then .connector
  else if category n == .spaceSeparator && !([0xA0, 0x2007].contains n) then .blank
  else .other

def wordBreak (n : Nat) : WordBreak :=
  if n == 0x0D then .cr
  else if n == 0x0A then .lf
  else if isOneOf n [(0x0B, 0x0C), (0x85, 0x85), (0x2028, 0x2029)] then .newline
  else if n == 0x200D then .joiner
  else if isGraphemeExtend n || category n == .spacingMark || isEmojiModifier n then .extend
  else if isRegionalIndicator n then .regional
  else if isLetterSign n then .letter
  else if isDecimal n || isPrependedMark n || n == 0x66B then .numeric
  else if category n == .format && n != 0x200B then .format
  else if isKatakana n then .katakana
  else if isAlphabetic n then
    if inSpans ideographs n then .other
    else if category n == .otherLetter && script? n == some "Hebr" then .hebrewLetter
    else if (script? n).any isUnspaced then .other
    else .letter
  else wordPunctuation n

inductive SentenceBreak where
  | cr | lf | separator | extend | format | blank | lower | upper | letter | numeric | stop
  | continuing | terminal | close | other
  deriving DecidableEq, Repr

def SentenceBreak.names : List (String × SentenceBreak) :=
  [
    ("cr", .cr), ("lf", .lf), ("se", .separator), ("sep", .separator), ("ex", .extend),
    ("extend", .extend), ("fo", .format), ("format", .format), ("sp", .blank), ("lo", .lower),
    ("lower", .lower), ("up", .upper), ("upper", .upper), ("le", .letter), ("oletter", .letter),
    ("nu", .numeric), ("numeric", .numeric), ("at", .stop), ("aterm", .stop), ("sc", .continuing),
    ("scontinue", .continuing), ("st", .terminal), ("sterm", .terminal), ("cl", .close),
    ("close", .close)]

/-- Letters that have case, though sentences start with either of the two. -/
def isGeorgian (n : Nat) : Bool :=
  isOneOf n [(0x10D0, 0x10FA), (0x10FD, 0x10FF), (0x1C90, 0x1CBA), (0x1CBD, 0x1CBF)]

def sentencePunctuation (n : Nat) : SentenceBreak :=
  if [0x2E, 0x2024, 0xFE52, 0xFF0E].contains n then .stop
  else if inSpans sentenceTerminals n then .terminal
  else if isOneOf n [(0x2C, 0x2D), (0x3A, 0x3B), (0x37E, 0x37E), (0x55D, 0x55D), (0x60C, 0x60D),
      (0x7F8, 0x7F8), (0x1802, 0x1802), (0x1808, 0x1808), (0x2013, 0x2014), (0x3001, 0x3001),
      (0xFE10, 0xFE11), (0xFE13, 0xFE14), (0xFE31, 0xFE32), (0xFE50, 0xFE51), (0xFE54, 0xFE55),
      (0xFE58, 0xFE58), (0xFE63, 0xFE63), (0xFF0C, 0xFF0D), (0xFF1A, 0xFF1B), (0xFF64, 0xFF64)] then
    .continuing
  else if [.openPunctuation, .closePunctuation, .initialPunctuation, .finalPunctuation].contains
        (category n) ||
      isOneOf n [(0x22, 0x22), (0x27, 0x27), (0x275B, 0x2760), (0x2E00, 0x2E01), (0x2E06, 0x2E08),
        (0x2E0B, 0x2E0B), (0x1F676, 0x1F678)] then .close
  else .other

def sentenceBreak (n : Nat) : SentenceBreak :=
  if n == 0x0D then .cr
  else if n == 0x0A then .lf
  else if [0x85, 0x2028, 0x2029].contains n then .separator
  else if isGraphemeExtend n || category n == .spacingMark || n == 0x200D then .extend
  else if isDecimal n || (isPrependedMark n && n != 0x70F) || n == 0x66B || n == 0x66C then .numeric
  else if category n == .format then .format
  else if Text.isBlank (Char.ofNat n) then .blank
  else if isGeorgian n || n == 0x5F3 then .letter
  else if isLowercase n then .lower
  else if isUppercase n || category n == .titlecaseLetter then .upper
  else if isAlphabetic n then .letter
  else sentencePunctuation n

end ContentFilter.Unicode
