import AgentBundles.Yaml.Cursor
import AgentBundles.Text.Quoted

/-!
# The text of scalars

Readers for the forms in which a scalar is written: plain, between single or double quotes, and as a
block. A line break inside a scalar counts as a space, and `n + 1` of them in a row as `n` line
feeds, except in literal blocks.
-/

namespace AgentBundles.Yaml

/-- What the breaks of a row, of which `first` is the first, count as together. -/
def foldBreaks (first : Char) (others : List Char) : List Char :=
  if first != '\n' then first :: others
  else if others.isEmpty then [' ']
  else others

/-! ### Plain scalars -/

/-- Reads the spaces and line breaks after a break of a plain scalar; nothing if a line starts with
a document mark. -/
def readPlainBreaks : Nat → Cursor → Option (List Char) × Cursor
  | 0, c => (some [], c)
  | fuel + 1, c =>
    if c.sees ' ' then
      readPlainBreaks fuel c.step
    else
      match c.readBreak? with
      | none => (some [], c)
      | some (b, c) =>
        if atMarker c.rest then
          (none, c)
        else
          let (bs?, c) := readPlainBreaks fuel c
          (bs?.map (b :: ·), c)

/-- Reads the white space inside a plain scalar: what it counts as, whether it broke a line, and the
cursor after it.  Nothing counts for white space before a document mark. -/
def readPlainSpaces (c : Cursor) : List Char × Bool × Cursor :=
  let (spaces, c) := c.span (· == ' ')
  match c.readBreak? with
  | none => (spaces, false, c)
  | some (b, c) =>
    if atMarker c.rest then
      ([], true, c)
    else
      let (bs?, c) := readPlainBreaks (c.rest.length + 1) c
      (bs?.elim [] (foldBreaks b), true, c)

/-- The marks of flow collections. -/
def flowMarks : List Char := [',', '[', ']', '{', '}']

/-- Whether a character, with what follows it, cannot go on a plain scalar. -/
def stopsPlain (inFlow : Bool) (c : Char) (rest : List Char) : Bool :=
  c == ' ' || c == '\t' || isBreak c ||
    (c == ':' && (atWhite rest || (inFlow && endsOr flowMarks.contains rest))) ||
    (inFlow && (c == '?' || flowMarks.contains c))

/-- The characters at the start of a text that may go on a plain scalar. -/
def plainRun (inFlow : Bool) : List Char → List Char
  | [] => []
  | c :: rest => if stopsPlain inFlow c rest then [] else c :: plainRun inFlow rest

/-- Reads the words of a plain scalar, of which `spaces` stand before the first, with the least
column of its later lines. The flag tells whether white space last read broke a line. -/
def readPlainWords (inFlow : Bool) (column : Nat) :
    Nat → List Char → Bool → Cursor → List Char × Bool × Cursor
  | 0, _, broke, c => ([], broke, c)
  | fuel + 1, spaces, broke, c =>
    if c.sees '#' then
      ([], broke, c)
    else
      let word := plainRun inFlow c.rest
      if word.isEmpty then
        ([], broke, c)
      else
        let (spaces', broke', c') := readPlainSpaces (c.advance word.length)
        if spaces'.isEmpty || c'.sees '#' || (!inFlow && c'.column < column) then
          (spaces ++ word, broke', c')
        else
          let (text, broke'', c'') := readPlainWords inFlow column fuel spaces' broke' c'
          (spaces ++ word ++ text, broke'', c'')

/-- Reads a plain scalar: its text, and whether a line break was the last thing read. -/
def readPlain (inFlow : Bool) (column : Nat) (c : Cursor) : List Char × Bool × Cursor :=
  readPlainWords inFlow column (c.rest.length + 1) [] false c

/-! ### Quoted scalars -/

/-- Reads the empty lines and indents after a break of a quoted scalar; no line may start with a
document mark. -/
def readQuotedBreaks : Nat → Cursor → Result (List Char × Cursor)
  | 0, c => .ok ([], c)
  | fuel + 1, c =>
    if atMarker c.rest then
      .error .malformed
    else
      let c := c.skip fun ch => ch == ' ' || ch == '\t'
      match c.readBreak? with
      | none => .ok ([], c)
      | some (b, c) => do
        let (bs, c) ← readQuotedBreaks fuel c
        return (b :: bs, c)

/-- Reads the white space inside a quoted scalar. -/
def readQuotedSpaces (c : Cursor) : Result (List Char × Cursor) :=
  let (spaces, c) := c.span fun ch => ch == ' ' || ch == '\t'
  match c.rest, c.readBreak? with
  | [], _ => .error .malformed
  | _, none => .ok (spaces, c)
  | _, some (b, c) => do
    let (bs, c) ← readQuotedBreaks (c.rest.length + 1) c
    return (foldBreaks b bs, c)

/-- The character that a letter stands for after a backslash. -/
def escapeOf? (c : Char) : Option Char :=
  match c with
  | '0' => some '\x00'
  | 'a' => some '\x07'
  | 'b' => some '\x08'
  | 't' => some '\t'
  | '\t' => some '\t'
  | 'n' => some '\n'
  | 'v' => some '\x0b'
  | 'f' => some '\x0c'
  | 'r' => some '\r'
  | 'e' => some '\x1b'
  | ' ' => some ' '
  | '\x22' => some '\x22'
  | '\\' => some '\\'
  | '/' => some '/'
  | 'N' => some (Char.ofNat 0x85)
  | '_' => some (Char.ofNat 0xA0)
  | 'L' => some (Char.ofNat 0x2028)
  | 'P' => some (Char.ofNat 0x2029)
  | _ => none

/-- The count of hexadecimal digits that a letter asks for after a backslash. -/
def escapeWidth? (c : Char) : Option Nat :=
  match c with
  | 'x' => some 2
  | 'u' => some 4
  | 'U' => some 8
  | _ => none

/-- The number that hexadecimal digits denote. -/
def hexNumber? (cs : List Char) : Option Nat :=
  cs.foldlM (fun n c => (Text.hexValue? c).map (16 * n + ·)) 0

/-- The character with a number, or the one that stands for the surrogate with it. -/
def charOfCode (n : Nat) : Result Char :=
  if 0x10FFFF < n then .error (.codePoint n) else .ok (Text.charOfNumber n)

/-- Reads an escape from the character after its backslash on. -/
def readEscape (c : Cursor) : Result (List Char × Cursor) :=
  match c.rest with
  | [] => .error .malformed
  | ch :: rest =>
    match escapeOf? ch, escapeWidth? ch, c.readBreak? with
    | some d, _, _ => .ok ([d], c.step)
    | none, some width, _ =>
      let digits := rest.take width
      match hexNumber? digits with
      | none => .error .malformed
      | some n =>
        if digits.length = width then do
          let d ← charOfCode n
          return ([d], c.advance (width + 1))
        else
          .error .malformed
    | none, none, some (_, c) => readQuotedBreaks (c.rest.length + 1) c
    | none, none, none => .error .malformed

/-- Reads a quoted scalar from the character after its opening quote to the one after its closing
quote.  Only double quotes allow escapes; between single quotes, two of them stand for one. -/
def readQuoted (quote : Char) : Nat → Cursor → Result (List Char × Cursor)
  | 0, _ => .error .malformed
  | fuel + 1, c =>
    match c.rest with
    | [] => .error .malformed
    | ch :: rest =>
      if ch == quote then
        if quote == '\x27' && rest.head? == some '\x27' then do
          let (text, c) ← readQuoted quote fuel (c.advance 2)
          return ('\x27' :: text, c)
        else
          .ok ([], c.step)
      else if ch == '\\' && quote == '\x22' then do
        let (part, c) ← readEscape c.step
        let (text, c) ← readQuoted quote fuel c
        return (part ++ text, c)
      else if ch == ' ' || ch == '\t' || isBreak ch then do
        let (part, c) ← readQuotedSpaces c
        let (text, c) ← readQuoted quote fuel c
        return (part ++ text, c)
      else do
        let (text, c) ← readQuoted quote fuel c.step
        return (ch :: text, c)

/-! ### Block scalars -/

/-- What happens to the line breaks at the end of a block scalar. -/
inductive Chomping where
  /-- All are kept. -/
  | keep
  /-- None is kept. -/
  | drop
  /-- One is kept. -/
  | clip
  deriving DecidableEq, Repr

/-- The chomping that an indicator asks for. -/
def chomping? (c : Char) : Option Chomping :=
  if c == '+' then some .keep else if c == '-' then some .drop else none

/-- Reads an indicator of chomping, if one comes next. -/
def readChomping (c : Cursor) : Option Chomping × Cursor :=
  match c.peek?.bind chomping? with
  | some k => (some k, c.step)
  | none => (none, c)

/-- Reads an indicator of indentation, if one comes next; zero is refused. -/
def readIndentation (c : Cursor) : Result (Option Nat × Cursor) :=
  match c.rest with
  | ch :: _ =>
    if '0' ≤ ch && ch ≤ '9' then
      if ch == '0' then .error .malformed else .ok (some (ch.toNat - 48), c.step)
    else
      .ok (none, c)
  | [] => .ok (none, c)

/-- Reads the indicators of a block scalar, in either order. -/
def readIndicators (c : Cursor) : Result (Chomping × Option Nat × Cursor) := do
  let (before?, c) := readChomping c
  let (increment?, c) ← readIndentation c
  let (after?, c) := if before?.isNone && increment?.isSome then readChomping c else (none, c)
  if atLineEndOrSpace c.rest then
    return ((before?.or after?).getD .clip, increment?, c)
  else
    throw .malformed

/-- Reads the empty lines before a block scalar, and finds the greatest column in them. -/
def readBlockStart : Nat → Nat → Cursor → List Char × Nat × Cursor
  | 0, column, c => ([], column, c)
  | fuel + 1, column, c =>
    if c.sees ' ' then
      readBlockStart fuel (max column c.step.column) c.step
    else
      match c.readBreak? with
      | none => ([], column, c)
      | some (b, c) =>
        let (bs, column, c) := readBlockStart fuel column c
        (b :: bs, column, c)

/-- Reads the empty lines in a block scalar whose lines start at a column. -/
def readBlockBreaks (column : Nat) : Nat → Cursor → List Char × Cursor
  | 0, c => ([], c)
  | fuel + 1, c =>
    let c := c.skipIndent column
    match c.readBreak? with
    | none => ([], c)
    | some (b, c) =>
      let (bs, c) := readBlockBreaks column fuel c
      (b :: bs, c)

/-- Whether a cursor stands in a block scalar whose lines start at a column. -/
def inBlock (column : Nat) (c : Cursor) : Bool :=
  c.column == column && !c.rest.isEmpty

/-- Whether the next character is a space or a tab. -/
def atSpaceOrTab (c : Cursor) : Bool :=
  c.nextIs fun ch => ch == ' ' || ch == '\t'

/-- Reads the lines of a block scalar from a column on, after empty lines that count as `breaks`.
Two lines that start with no space are joined by a space if the scalar is folded. -/
def readBlockLines (folded : Bool) (chomping : Chomping) (column : Nat) :
    Nat → List Char → Cursor → List Char × Cursor
  | 0, _, c => ([], c)
  | fuel + 1, breaks, c =>
    if inBlock column c then
      let (line, c') := c.span fun ch => !isBreak ch
      let break? := c'.readBreak?
      let ending := (break?.map fun b => [b.1]).getD []
      let (breaks', c'') := readBlockBreaks column (c'.rest.length + 1) ((break?.map (·.2)).getD c')
      if inBlock column c'' then
        let joint :=
          if folded && ending == ['\n'] && !atSpaceOrTab c && !atSpaceOrTab c'' then
            (if breaks'.isEmpty then [' '] else [])
          else
            ending
        let (text, c''') := readBlockLines folded chomping column fuel breaks' c''
        (breaks ++ line ++ joint ++ text, c''')
      else
        let tail :=
          match chomping with
          | .keep => ending ++ breaks'
          | .clip => ending
          | .drop => []
        (breaks ++ line ++ tail, c'')
    else
      (if chomping = .keep then breaks else [], c)

/-- Reads a block scalar from the character after its indicator on, inside a collection indented to
`indent`. -/
def readBlock (folded : Bool) (indent : Int) (c : Cursor) : Result (List Char × Cursor) := do
  let (chomping, increment?, c) ← readIndicators c
  let c ← c.skipIgnoredLine
  let least := (max (indent + 1) 1).toNat
  match increment? with
  | some increment =>
    let column := least + increment - 1
    let (breaks, c) := readBlockBreaks column (c.rest.length + 1) c
    return readBlockLines folded chomping column (c.rest.length + 1) breaks c
  | none =>
    let (breaks, column, c) := readBlockStart (c.rest.length + 1) 0 c
    return readBlockLines folded chomping (max least column) (c.rest.length + 1) breaks c

end AgentBundles.Yaml
