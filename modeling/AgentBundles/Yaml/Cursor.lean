import AgentBundles.Data.Calendar
import AgentBundles.Number.Text

/-!
# Places in a YAML text

A cursor is the rest of a text with the place where it starts. A line ends at a line feed, a
carriage return (with the line feed after it), a next-line character, or a line or paragraph
separator. Every reader of a part of the text gives what it read and the cursor after it.
-/

namespace AgentBundles.Yaml

/-- Why a YAML text has no value. -/
inductive Fault where
  /-- The text breaks a rule of the grammar, or of the tags. -/
  | malformed
  /-- An escape numbers no character. -/
  | codePoint (n : Nat)
  /-- A timestamp is no date or time. -/
  | calendar (fault : CalendarFault)
  /-- A text is no integer to a base. -/
  | integer (base : Nat) (text : String) (fault : IntegerFault)
  /-- An integer has no digits at all. -/
  | emptyInteger
  /-- A text is no double precision number. -/
  | number (text : String)
  /-- A number in base sixty has so many fields that a double precision number cannot hold it. -/
  | tooLarge
  /-- A text is no truth value. -/
  | truth (text : String)
  /-- A text is no timestamp. -/
  | notATimestamp
  /-- A mapping is tagged as a timestamp. -/
  | timestampOfMapping
  /-- A scalar is the text of a mapping that is its own text. -/
  | endless
  deriving DecidableEq, Repr

/-- The outcome of a reader. -/
abbrev Result (α : Type) := Except Fault α

/-- The rest of a text, and where it starts. -/
structure Cursor where
  rest : List Char
  index : Nat
  line : Nat
  column : Nat
  deriving Repr

/-- The separators of lines and paragraphs, which stay as they are when lines are joined. -/
def isSeparator (c : Char) : Bool :=
  c == Char.ofNat 0x2028 || c == Char.ofNat 0x2029

/-- Whether a character ends a line. -/
def isBreak (c : Char) : Bool :=
  c == '\n' || c == '\r' || c == Char.ofNat 0x85 || isSeparator c

/-- The mark that may begin a text and takes no column. -/
def byteOrderMark : Char := Char.ofNat 0xFEFF

/-- Whether a text is at its end or goes on with a character that `p` accepts. -/
def endsOr (p : Char → Bool) (cs : List Char) : Bool :=
  match cs with
  | [] => true
  | c :: _ => p c

/-- Whether a text is at its end or goes on with a line break. -/
def atLineEnd (cs : List Char) : Bool :=
  endsOr isBreak cs

/-- Whether a text is at its end or goes on with a line break or space. -/
def atLineEndOrSpace (cs : List Char) : Bool :=
  endsOr (fun c => c == ' ' || isBreak c) cs

/-- Whether a text is at its end or goes on with a line break, space or tab. -/
def atWhite (cs : List Char) : Bool :=
  endsOr (fun c => c == ' ' || c == '\t' || isBreak c) cs

/-- Whether a line goes on with three times `c` and then white space or its end. -/
def atMarkerOf (c : Char) (cs : List Char) : Bool :=
  [c, c, c].isPrefixOf cs && atWhite (cs.drop 3)

/-- Whether a line goes on with a mark that starts or ends a document. -/
def atMarker (cs : List Char) : Bool :=
  atMarkerOf '-' cs || atMarkerOf '.' cs

namespace Cursor

/-- The start of a text. -/
def start (cs : List Char) : Cursor := ⟨cs, 0, 0, 0⟩

/-- The cursor after one character. -/
def step (c : Cursor) : Cursor :=
  match c.rest with
  | [] => c
  | ch :: rest =>
    if isBreak ch && !(ch == '\r' && rest.head? == some '\n') then
      ⟨rest, c.index + 1, c.line + 1, 0⟩
    else if ch == byteOrderMark then
      ⟨rest, c.index + 1, c.line, c.column⟩
    else
      ⟨rest, c.index + 1, c.line, c.column + 1⟩

/-- The cursor after `n` characters. -/
def advance (c : Cursor) : Nat → Cursor
  | 0 => c
  | n + 1 => c.step.advance n

/-- The next character. -/
def peek? (c : Cursor) : Option Char := c.rest.head?

/-- Whether the next character is `ch`. -/
def sees (c : Cursor) (ch : Char) : Bool := c.rest.head? == some ch

/-- Whether there is a next character that `p` accepts. -/
def nextIs (c : Cursor) (p : Char → Bool) : Bool :=
  match c.rest with
  | [] => false
  | ch :: _ => p ch

/-- The characters up to the first one that `p` refuses. -/
def span (c : Cursor) (p : Char → Bool) : List Char × Cursor :=
  let taken := c.rest.takeWhile p
  (taken, c.advance taken.length)

/-- The cursor at the first character that `p` refuses. -/
def skip (c : Cursor) (p : Char → Bool) : Cursor :=
  (c.span p).2

/-- The cursor after spaces. -/
def skipSpaces (c : Cursor) : Cursor :=
  c.skip (· == ' ')

/-- The cursor after spaces up to a column. -/
def skipIndent (c : Cursor) (column : Nat) : Cursor :=
  c.advance (min ((c.rest.takeWhile (· == ' ')).length) (column - c.column))

/-- The line break that comes next, as it counts in a scalar, and the cursor after it. -/
def readBreak? (c : Cursor) : Option (Char × Cursor) :=
  match c.rest with
  | '\r' :: '\n' :: _ => some ('\n', c.advance 2)
  | ch :: _ => if isBreak ch then some (if isSeparator ch then ch else '\n', c.step) else none
  | [] => none

/-- The cursor after a line break, if one comes next. -/
def skipBreak (c : Cursor) : Cursor :=
  match c.readBreak? with
  | some (_, c) => c
  | none => c

/-- The cursor after a comment, if one comes next. -/
def skipComment (c : Cursor) : Cursor :=
  if c.sees '#' then c.skip fun ch => !isBreak ch else c

/-- The cursor after spaces, a comment and the end of the line; nothing else may come. -/
def skipIgnoredLine (c : Cursor) : Result Cursor :=
  let c := c.skipSpaces.skipComment
  if atLineEnd c.rest then .ok c.skipBreak else .error .malformed

end Cursor

end AgentBundles.Yaml
