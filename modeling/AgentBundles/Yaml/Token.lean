import AgentBundles.Yaml.Scalar
import AgentBundles.Text.Utf8
import AgentBundles.Text.Word

/-!
# Tokens

The tokens of a YAML text. Indentation shows as starts and ends of block collections. A key of a
mapping is known as such only by the colon after it, so the places where a key may have begun are
remembered, one for each depth of flow collections, and the token that marks the key is put there
later.
-/

namespace AgentBundles.Yaml

/-- A token. -/
inductive Token where
  | version (major : Nat)
  | tagHandle (handle name : String)
  | otherDirective
  | documentStart
  | documentEnd
  | blockSequenceStart
  | blockMappingStart
  | blockEnd
  | flowSequenceStart
  | flowSequenceEnd
  | flowMappingStart
  | flowMappingEnd
  | blockEntry
  | flowEntry
  | key
  | value
  | alias (name : String)
  | anchor (name : String)
  | tag (handle : Option String) (suffix : String)
  | scalar (text : String) (plain : Bool)
  deriving DecidableEq, Repr

/-! ### Directives, anchors and tags -/

/-- Whether a character may stand in the name of an anchor, directive or tag handle. -/
def isNameChar (c : Char) : Bool :=
  Text.isAsciiAlphanumeric c || c == '-' || c == '_'

/-- Whether a character may stand in a tag. -/
def isTagChar (c : Char) : Bool :=
  Text.isAsciiAlphanumeric c || "-;/?:@&=+$,_.!~*'()[]%".toList.contains c

/-- Reads a number without sign. -/
def readNumber (c : Cursor) : Result (Nat × Cursor) :=
  let (ds, c) := c.span Text.isAsciiDigit
  if ds.isEmpty then .error .malformed else .ok (Text.digitsValue ds, c)

/-- Reads bytes each written as a percent sign and two hexadecimal digits. -/
def readEscapedBytes : Nat → Cursor → Result (List UInt8 × Cursor)
  | 0, c => .ok ([], c)
  | fuel + 1, c =>
    match c.rest with
    | '%' :: a :: b :: _ =>
      match Text.hexValue? a, Text.hexValue? b with
      | some a, some b => do
        let (bs, c) ← readEscapedBytes fuel (c.advance 3)
        return (UInt8.ofNat (16 * a + b) :: bs, c)
      | _, _ => .error .malformed
    | '%' :: _ => .error .malformed
    | _ => .ok ([], c)

/-- Reads the characters of a tag. -/
def readTagChars : Nat → Cursor → Result (List Char × Cursor)
  | 0, c => .ok ([], c)
  | fuel + 1, c =>
    if c.sees '%' then do
      let (bytes, c) ← readEscapedBytes (c.rest.length + 1) c
      match Text.decodeUtf8 bytes with
      | .error _ => throw .malformed
      | .ok text =>
        let (cs, c) ← readTagChars fuel c
        return (text ++ cs, c)
    else if c.nextIs isTagChar then do
      let (cs, c') ← readTagChars fuel c.step
      return (c.rest.take 1 ++ cs, c')
    else
      .ok ([], c)

/-- Reads the characters of a tag, of which there has to be one. -/
def readTagText (c : Cursor) : Result (String × Cursor) := do
  let (cs, c') ← readTagChars (c.rest.length + 1) c
  if c'.index == c.index then throw .malformed
  return (String.ofList cs, c')

/-- Reads a tag handle: one exclamation mark, or two with a name between them. -/
def readTagHandle (c : Cursor) : Result (String × Cursor) :=
  if !c.sees '!' then
    .error .malformed
  else
    let (name, c') := c.step.span isNameChar
    if c.step.sees ' ' then .ok ("!", c.step)
    else if c'.sees '!' then .ok (String.ofList ('!' :: name ++ ['!']), c'.step)
    else .error .malformed

/-- Reads a directive from its percent sign on. -/
def readDirective (c : Cursor) : Result (Token × Cursor) := do
  let (name, c) := c.step.span isNameChar
  if name.isEmpty || !atLineEndOrSpace c.rest then throw .malformed
  if name == "YAML".toList then
    let (major, c) ← readNumber c.skipSpaces
    if !c.sees '.' then throw .malformed
    let (_, c) ← readNumber c.step
    if !atLineEndOrSpace c.rest then throw .malformed
    return (.version major, ← c.skipIgnoredLine)
  else if name == "TAG".toList then
    let (handle, c) ← readTagHandle c.skipSpaces
    if !c.sees ' ' then throw .malformed
    let (name, c) ← readTagText c.skipSpaces
    if !atLineEndOrSpace c.rest then throw .malformed
    return (.tagHandle handle name, ← c.skipIgnoredLine)
  else
    return (.otherDirective, ← (c.skip fun ch => !isBreak ch).skipIgnoredLine)

/-- Reads the name of an anchor after its mark. -/
def readAnchorName (c : Cursor) : Result (String × Cursor) :=
  let (name, c) := c.step.span isNameChar
  if name.isEmpty then
    .error .malformed
  else if atWhite c.rest || c.nextIs "?:,]\x7d%@`".toList.contains then
    .ok (String.ofList name, c)
  else
    .error .malformed

/-- Whether an exclamation mark comes before the next space or line break. -/
def hasHandle (cs : List Char) : Bool :=
  (cs.takeWhile fun c => !(c == ' ' || isBreak c)).contains '!'

/-- Reads a tag from its exclamation mark on. -/
def readTag (c : Cursor) : Result (Token × Cursor) := do
  let (token, c) ←
    if c.step.sees '<' then do
      let (text, c) ← readTagText (c.advance 2)
      if !c.sees '>' then throw .malformed
      pure (Token.tag none text, c.step)
    else if atWhite c.step.rest then
      pure (Token.tag none "!", c.step)
    else if hasHandle c.step.rest then do
      let (handle, c) ← readTagHandle c
      let (text, c) ← readTagText c
      pure (Token.tag (some handle) text, c)
    else do
      let (text, c) ← readTagText c.step
      pure (Token.tag (some "!") text, c)
  if atLineEndOrSpace c.rest then return (token, c) else throw .malformed

/-! ### The state of reading -/

/-- A place where a key may have begun. -/
structure KeyPlace where
  /-- The depth of flow collections. -/
  depth : Nat
  /-- The count of tokens before it. -/
  before : Nat
  /-- Whether nothing else than a key may begin there. -/
  required : Bool
  index : Nat
  line : Nat
  column : Nat
  deriving Repr

/-- What has been read of a text: the cursor, the open collections, the places where a key may have
begun, and the tokens, the last one first. -/
structure Reader where
  cursor : Cursor
  depth : Nat
  indent : Int
  indents : List Int
  keyAllowed : Bool
  places : List KeyPlace
  tokens : List Token
  deriving Repr

namespace Reader

/-- The reader at the start of a text. -/
def start (cs : List Char) : Reader where
  cursor := if cs.head? == some byteOrderMark then (Cursor.start cs).step else Cursor.start cs
  depth := 0
  indent := -1
  indents := []
  keyAllowed := true
  places := []
  tokens := []

/-- The reader after a token. -/
def emit (r : Reader) (t : Token) (c : Cursor) : Reader :=
  { r with tokens := t :: r.tokens, cursor := c }

/-- Whether the reader is in a flow collection. -/
def inFlow (r : Reader) : Bool := r.depth != 0

/-- Whether a place is so far back that no key can begin there any more. -/
def isStale (r : Reader) (p : KeyPlace) : Bool :=
  p.line != r.cursor.line || r.cursor.index - p.index > 1024

/-- The reader without the places that are too far back. -/
def dropStale (r : Reader) : Result Reader :=
  if r.places.any fun p => r.isStale p && p.required then .error .malformed
  else .ok { r with places := r.places.filter fun p => !r.isStale p }

/-- The place at the reader's depth. -/
def place? (r : Reader) : Option KeyPlace :=
  r.places.find? fun p => p.depth == r.depth

/-- The places at other depths. -/
def otherPlaces (r : Reader) : List KeyPlace :=
  r.places.filter fun p => p.depth != r.depth

/-- The reader without the place at its depth. -/
def dropPlace (r : Reader) : Result Reader :=
  if (r.place?.map (·.required)).getD false then .error .malformed
  else .ok { r with places := r.otherPlaces }

/-- The reader after noting that a key may begin here. -/
def savePlace (r : Reader) : Result Reader :=
  if r.keyAllowed then do
    let r' ← r.dropPlace
    let c := r.cursor
    let required := !r.inFlow && r.indent == c.column
    return { r' with places := ⟨r.depth, r.tokens.length, required, c.index, c.line, c.column⟩ ::
      r'.places }
  else
    .ok r

/-- The reader after closing the block collections indented beyond a column. -/
def closeBlocks (column : Int) (r : Reader) : Reader :=
  if r.inFlow then r else go r.indents r
where
  go : List Int → Reader → Reader
    | [], r => r
    | i :: is, r =>
      if column < r.indent then
        go is { r with indent := i, indents := is, tokens := .blockEnd :: r.tokens }
      else
        r

/-- The tokens, last one first, with a token put where `before` tokens precede it. -/
def insertAt (tokens : List Token) (before : Nat) (t : Token) : List Token :=
  tokens.take (tokens.length - before) ++ t :: tokens.drop (tokens.length - before)

/-- The reader with a block collection opened at a column, unless one is open there; its token goes
where `before` tokens precede it. -/
def openBlock (r : Reader) (column before : Nat) (t : Token) : Reader :=
  if r.indent < column then
    { r with
      indent := column, indents := r.indent :: r.indents, tokens := insertAt r.tokens before t }
  else
    r

/-- Whether something like a key, entry or value may begin here in a block. -/
def needKeyAllowed (r : Reader) : Result Unit :=
  if r.inFlow || r.keyAllowed then .ok () else .error .malformed

/-! ### Reading one token -/

/-- Skips spaces, comments and line breaks; in a block, a key may begin after a break. -/
def skipToToken : Nat → Reader → Reader
  | 0, r => r
  | fuel + 1, r =>
    let c := r.cursor.skipSpaces.skipComment
    match c.readBreak? with
    | some (_, c) => skipToToken fuel
        { r with cursor := c, keyAllowed := r.keyAllowed || !r.inFlow }
    | none => { r with cursor := c }

/-- Reads a mark that starts or ends a document. -/
def readMarker (r : Reader) (t : Token) : Result Reader := do
  let r ← (r.closeBlocks (-1)).dropPlace
  return { r with keyAllowed := false }.emit t (r.cursor.advance 3)

/-- Reads a directive. -/
def readDirectiveLine (r : Reader) : Result Reader := do
  let r ← (r.closeBlocks (-1)).dropPlace
  let (t, c) ← readDirective r.cursor
  return { r with keyAllowed := false }.emit t c

/-- Reads the opening mark of a flow collection. -/
def readFlowStart (r : Reader) (t : Token) : Result Reader := do
  let r ← r.savePlace
  return { r with depth := r.depth + 1, keyAllowed := true }.emit t r.cursor.step

/-- Reads the closing mark of a flow collection. -/
def readFlowEnd (r : Reader) (t : Token) : Result Reader := do
  let r ← r.dropPlace
  if r.depth = 0 then throw .malformed
  return { r with depth := r.depth - 1, keyAllowed := false }.emit t r.cursor.step

/-- Reads the comma between items of a flow collection. -/
def readFlowEntry (r : Reader) : Result Reader := do
  let r ← r.dropPlace
  return { r with keyAllowed := true }.emit .flowEntry r.cursor.step

/-- Reads the mark of an item of a block sequence. -/
def readBlockEntry (r : Reader) : Result Reader := do
  r.needKeyAllowed
  let r := if r.inFlow then r else r.openBlock r.cursor.column r.tokens.length .blockSequenceStart
  let r ← r.dropPlace
  return { r with keyAllowed := true }.emit .blockEntry r.cursor.step

/-- Reads the mark before a key. -/
def readKeyMark (r : Reader) : Result Reader := do
  r.needKeyAllowed
  let r := if r.inFlow then r else r.openBlock r.cursor.column r.tokens.length .blockMappingStart
  let r ← r.dropPlace
  return { r with keyAllowed := !r.inFlow }.emit .key r.cursor.step

/-- Reads the colon before a value. If a key may have begun before it, the key gets its mark now,
and the block mapping its start. -/
def readValueMark (r : Reader) : Result Reader :=
  match r.place? with
  | some p =>
    let r := { r with places := r.otherPlaces, tokens := insertAt r.tokens p.before .key }
    let r := if r.inFlow then r else r.openBlock p.column p.before .blockMappingStart
    .ok ({ r with keyAllowed := false }.emit .value r.cursor.step)
  | none => do
    r.needKeyAllowed
    let r := if r.inFlow then r else r.openBlock r.cursor.column r.tokens.length .blockMappingStart
    return { r with keyAllowed := !r.inFlow }.emit .value r.cursor.step

/-- Reads an alias, anchor, tag or quoted scalar, before all of which a key may begin. -/
def readInline (r : Reader) (read : Cursor → Result (Token × Cursor)) : Result Reader := do
  let r ← r.savePlace
  let (t, c) ← read r.cursor
  return { r with keyAllowed := false }.emit t c

/-- Reads an alias or anchor. -/
def readNamed (make : String → Token) (c : Cursor) : Result (Token × Cursor) := do
  let (name, c) ← readAnchorName c
  return (make name, c)

/-- Reads a quoted scalar. -/
def readQuotedToken (quote : Char) (c : Cursor) : Result (Token × Cursor) := do
  let (text, c) ← readQuoted quote (c.rest.length + 1) c.step
  return (.scalar (String.ofList text) false, c)

/-- Reads a block scalar. -/
def readBlockToken (r : Reader) (folded : Bool) : Result Reader := do
  let r ← r.dropPlace
  let (text, c) ← readBlock folded r.indent r.cursor.step
  return { r with keyAllowed := true }.emit (.scalar (String.ofList text) false) c

/-- Reads a plain scalar; a key may begin after it if it ended with a line. -/
def readPlainToken (r : Reader) : Result Reader := do
  let r ← r.savePlace
  let (text, broke, c) := readPlain r.inFlow (r.indent + 1).toNat r.cursor
  return { r with keyAllowed := broke }.emit (.scalar (String.ofList text) true) c

/-- The characters that cannot begin a plain scalar. -/
def indicators : List Char :=
  ['-', '?', ':', ',', '[', ']', '{', '}', '#', '&', '*', '!', '|', '>', '\x27', '\x22', '%',
    '@', '\x60']

/-- Whether a plain scalar begins with `ch`, followed by `rest`. -/
def startsPlain (inFlow : Bool) (ch : Char) (rest : List Char) : Bool :=
  (!indicators.contains ch && !atWhite [ch]) ||
    (!atWhite rest && (ch == '-' || (!inFlow && (ch == '?' || ch == ':'))))

/-- Reads one token that begins with `ch`, followed by `rest`. -/
def readToken (r : Reader) (ch : Char) (rest : List Char) : Result Reader :=
  let atStart := r.cursor.column == 0
  let gap := r.inFlow || atWhite rest
  if ch == '%' && atStart then r.readDirectiveLine
  else if atStart && atMarkerOf '-' (ch :: rest) then r.readMarker .documentStart
  else if atStart && atMarkerOf '.' (ch :: rest) then r.readMarker .documentEnd
  else if ch == '[' then r.readFlowStart .flowSequenceStart
  else if ch == '{' then r.readFlowStart .flowMappingStart
  else if ch == ']' then r.readFlowEnd .flowSequenceEnd
  else if ch == '}' then r.readFlowEnd .flowMappingEnd
  else if ch == ',' then r.readFlowEntry
  else if ch == '-' && atWhite rest then r.readBlockEntry
  else if ch == '?' && gap then r.readKeyMark
  else if ch == ':' && gap then r.readValueMark
  else if ch == '*' then r.readInline (readNamed .alias)
  else if ch == '&' then r.readInline (readNamed .anchor)
  else if ch == '!' then r.readInline readTag
  else if ch == '|' && !r.inFlow then r.readBlockToken false
  else if ch == '>' && !r.inFlow then r.readBlockToken true
  else if ch == '\x27' || ch == '\x22' then r.readInline (readQuotedToken ch)
  else if startsPlain r.inFlow ch rest then r.readPlainToken
  else .error .malformed

/-- Reads the tokens up to the end of the text.  Tokens read before a fault stay. -/
def run : Nat → Reader → Reader × Option Fault
  | 0, r => (r, some .malformed)
  | fuel + 1, r =>
    match (skipToToken (r.cursor.rest.length + 1) r).dropStale with
    | .error e => (r, some e)
    | .ok r =>
      let r := r.closeBlocks r.cursor.column
      match r.cursor.rest with
      | [] =>
        match (r.closeBlocks (-1)).dropPlace with
        | .ok r => (r, none)
        | .error e => (r, some e)
      | ch :: rest =>
        match r.readToken ch rest with
        | .ok r => run fuel r
        | .error e => (r, some e)

end Reader

/-- The tokens of a text, and the fault that keeps the rest from being read. -/
def tokens (cs : List Char) : List Token × Option Fault :=
  let (r, fault?) := Reader.run (cs.length + 1) (Reader.start cs)
  (r.tokens.reverse, fault?)

end AgentBundles.Yaml
