import AgentBundles.Yaml.Tag
import AgentBundles.Yaml.Cursor
import AgentBundles.Text.Quoted

/-!
# The style of a scalar

How a text is written as a scalar: plain if it would be read back as a text, between single quotes
if they can hold it, and otherwise between double quotes, where everything has an escape. Lines
longer than `lineWidth` are folded at a space.
-/

namespace AgentBundles.Yaml

/-- How a scalar is written. -/
inductive Style where
  | plain
  | singleQuoted
  | doubleQuoted
  deriving DecidableEq, Repr

/-- The column after which a line is folded. -/
def lineWidth : Nat := 1000

/-- Whether a character breaks a line in a written scalar. -/
def isWrittenBreak (c : Char) : Bool :=
  c == '\n' || c == Char.ofNat 0x85 || isSeparator c

/-- Whether a character can stand in a scalar only as an escape. -/
def needsEscape (c : Char) : Bool :=
  let n := c.toNat
  !(c == '\n' || (0x20 ≤ n && n ≤ 0x7E) || n == 0x85 || (0xA0 ≤ n && n ≤ 0xD7FF) ||
    (0xE000 ≤ n && n ≤ 0xFFFD && n != 0xFEFF) || (0x10000 ≤ n && n < 0x10FFFF && !Text.isLone c))

/-- Whether a text begins with a character that begins something else than a plain scalar. -/
def beginsOtherwise : List Char → Bool
  | [] => false
  | c :: rest =>
    ['#', ',', '[', ']', '{', '}', '&', '*', '!', '|', '>', '\x27', '\x22', '%', '@',
      '\x60'].contains c || ((c == '?' || c == ':' || c == '-') && atWhite rest)

/-- Whether what follows the first character holds a colon or number sign that would end a plain
scalar; `white` tells whether white space came before. -/
def hasEnd (white : Bool) : List Char → Bool
  | [] => false
  | c :: rest =>
    (c == ':' && atWhite rest) || (c == '#' && white) || hasEnd (atWhite [c]) rest

/-- Whether a text begins with the mark of a document. -/
def beginsWithMarker (cs : List Char) : Bool :=
  ['-', '-', '-'].isPrefixOf cs || ['.', '.', '.'].isPrefixOf cs

/-- Whether a character that `p` accepts is followed by one that `q` accepts. -/
def hasPair (p q : Char → Bool) : List Char → Bool
  | c :: d :: rest => (p c && q d) || hasPair p q (d :: rest)
  | _ => false

/-- Whether a text has more than one line. -/
def isMultiline (cs : List Char) : Bool :=
  cs.any isWrittenBreak

/-- Whether a character is a space or breaks a line. -/
def isSpaceOrBreak (c : Char) : Bool :=
  c == ' ' || isWrittenBreak c

/-- Whether single quotes can hold a text. -/
def allowsSingleQuotes (cs : List Char) : Bool :=
  !hasPair isWrittenBreak (· == ' ') cs && !hasPair (· == ' ') isWrittenBreak cs &&
    !cs.any needsEscape

/-- Whether a text, which is not empty, reads as one scalar without quotes. -/
def allowsPlain (cs : List Char) : Bool :=
  !beginsWithMarker cs && !beginsOtherwise cs && !hasEnd (atWhite (cs.take 1)) (cs.drop 1) &&
    !((cs.head?.map isSpaceOrBreak).getD true) && !((cs.getLast?.map isSpaceOrBreak).getD true) &&
    !isMultiline cs && !cs.any needsEscape

/-- The style of a text.  A key on one line with its value cannot be folded. -/
def styleOf (isKey : Bool) (text : String) : Style :=
  let cs := text.toList
  if implicitTag text = .str && !cs.isEmpty && allowsPlain cs then .plain
  else if allowsSingleQuotes cs && !(isKey && isMultiline cs) then .singleQuoted
  else .doubleQuoted

/-! ### Writing -/

/-- A line break and an indent. -/
def newLine (indent : Nat) : List Char :=
  '\n' :: List.replicate indent ' '

/-- The characters of a plain scalar from a column on.  Lines are folded at single spaces. -/
def plainChars (fold : Bool) (indent : Nat) : Nat → Bool → List Char → List Char
  | _, _, [] => []
  | column, afterSpace, c :: cs =>
    if c == ' ' && !afterSpace && cs.head? != some ' ' && lineWidth < column && fold then
      newLine indent ++ plainChars fold indent indent true cs
    else
      c :: plainChars fold indent (column + 1) (c == ' ') cs

/-- What came just before a character of a scalar. -/
inductive Before where
  | nothing
  | space
  | lineBreak
  | other
  deriving DecidableEq, Repr

/-- The characters between single quotes from a column on.  A quote is written twice; a row of line
breaks that starts with a line feed is written with one more. -/
def singleChars (fold : Bool) (indent : Nat) : Nat → Before → List Char → List Char
  | _, _, [] => []
  | column, before, c :: cs =>
    if c == '\x27' then
      '\x27' :: '\x27' :: singleChars fold indent (column + 2) .other cs
    else if isWrittenBreak c then
      let extra := if c == '\n' && before != .lineBreak then ['\n'] else []
      if (cs.head?.map isWrittenBreak).getD false then
        extra ++ c :: singleChars fold indent 0 .lineBreak cs
      else
        extra ++ c :: List.replicate indent ' ' ++ singleChars fold indent indent .lineBreak cs
    else if c == ' ' && before != .nothing && before != .space && !cs.isEmpty &&
      cs.head? != some ' ' &&
        lineWidth < column && fold then
      newLine indent ++ singleChars fold indent indent .space cs
    else
      c :: singleChars fold indent (column + 1) (if c == ' ' then .space else .other) cs

/-- Hexadecimal digits in upper case. -/
def upperHexDigits (width n : Nat) : List Char :=
  (Text.hexDigits width n).map Char.toUpper

/-- The letter that stands for a character after a backslash. -/
def escapeLetter? (c : Char) : Option Char :=
  match c with
  | '\x00' => some '0'
  | '\x07' => some 'a'
  | '\x08' => some 'b'
  | '\t' => some 't'
  | '\n' => some 'n'
  | '\x0b' => some 'v'
  | '\x0c' => some 'f'
  | '\r' => some 'r'
  | '\x1b' => some 'e'
  | '\x22' => some '\x22'
  | '\\' => some '\\'
  | c =>
    if c.toNat = 0x85 then some 'N'
    else if c.toNat = 0x2028 then some 'L'
    else if c.toNat = 0x2029 then some 'P'
    else none

/-- The escape of a character. -/
def escapeChars (c : Char) : List Char :=
  match escapeLetter? c with
  | some l => ['\\', l]
  | none =>
    let n := Text.numberOf c
    if n ≤ 0xFF then '\\' :: 'x' :: upperHexDigits 2 n
    else if n ≤ 0xFFFF then '\\' :: 'u' :: upperHexDigits 4 n
    else '\\' :: 'U' :: upperHexDigits 8 n

/-- Whether a character stands for itself between double quotes. -/
def isLiteral (c : Char) : Bool :=
  let n := c.toNat
  c != '\x22' && c != '\\' &&
    ((0x20 ≤ n && n ≤ 0x7E) ||
      (0xA0 ≤ n && n ≤ 0xD7FF && n != 0x2028 && n != 0x2029) ||
        (0xE000 ≤ n && n ≤ 0xFFFD && n != 0xFEFF))

/-- The end of a folded line between double quotes; a space at the start of the next line needs a
backslash before it. -/
def doubleFold (indent : Nat) (next : Option Char) : List Char :=
  '\\' :: newLine indent ++ (if next = some ' ' then ['\\'] else [])

/-- The column after the end of a folded line. -/
def columnAfterFold (indent : Nat) (next : Option Char) : Nat :=
  indent + (if next = some ' ' then 1 else 0)

/-- The characters between double quotes from a column on. Lines are folded before a space or after
an escape; `first` and `escaped` tell whether a character is the first, or follows an escape. -/
def doubleChars (fold : Bool) (indent : Nat) : Nat → Bool → Bool → List Char → List Char
  | _, _, _, [] => []
  | column, first, escaped, c :: cs =>
    let mayFold := fold && !first && !cs.isEmpty
    if isLiteral c then
      if mayFold && (c == ' ' || escaped) && lineWidth < column then
        doubleFold indent (some c) ++
          c :: doubleChars fold indent (columnAfterFold indent (some c) + 1) false false cs
      else
        c :: doubleChars fold indent (column + 1) false false cs
    else
      let escape := escapeChars c
      let column := column + escape.length
      if mayFold && lineWidth < column - 1 then
        escape ++ doubleFold indent cs.head? ++
          doubleChars fold indent (columnAfterFold indent cs.head?) false true cs
      else
        escape ++ doubleChars fold indent column false true cs

/-- A text as a scalar that starts at a column, with the indent of its further lines. -/
def writeText (isKey : Bool) (indent column : Nat) (text : String) : List Char :=
  let cs := text.toList
  match styleOf isKey text with
  | .plain => plainChars (!isKey) indent column false cs
  | .singleQuoted => '\x27' :: singleChars (!isKey) indent (column + 1) .nothing cs ++ ['\x27']
  | .doubleQuoted => '\x22' :: doubleChars (!isKey) indent (column + 1) true false cs ++ ['\x22']

end AgentBundles.Yaml
