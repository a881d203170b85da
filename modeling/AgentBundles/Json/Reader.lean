import AgentBundles.Data.FaultKind
import AgentBundles.Data.Value
import AgentBundles.Text.Word

/-!
# Reading JSON text

`Json.read` turns JSON text into a value. Besides the standard grammar it takes the numbers `NaN`,
`Infinity` and `-Infinity`. A refusal names its cause and the place in the text where reading
stopped.

Texts are of Unicode: an escape of a surrogate that is not one of a pair is read as U+FFFD, and what
the surrogate was is lost. No text that is read from JSON holds surrogates.

The readers work on what is left of the text: each gives a value and the characters after it, or a
cause and the characters from the faulty place on.
-/

namespace AgentBundles.Json

/-- Why a text is not JSON. -/
inductive Cause where
  | expectedValue
  | expectedKey
  | expectedColon
  | expectedComma
  | extraData
  | unterminatedString
  | controlCharacter
  | escape
  | unicodeEscape
  | byteOrderMark
  /-- An integer has so many digits that it is not read. -/
  | tooManyDigits (digits : Nat)
  deriving DecidableEq, Repr

/-- A refusal of a text: its cause, and its place by offset, line and column. -/
structure Fault where
  cause : Cause
  offset : Nat
  line : Nat
  column : Nat
  deriving DecidableEq, Repr

/-- What a message says of a cause. -/
def Cause.message : Cause → String
  | .expectedValue => "Expecting value"
  | .expectedKey => "Expecting property name enclosed in double quotes"
  | .expectedColon => "Expecting ':' delimiter"
  | .expectedComma => "Expecting ',' delimiter"
  | .extraData => "Extra data"
  | .unterminatedString => "Unterminated string starting at"
  | .controlCharacter => "Invalid control character at"
  | .escape => "Invalid \\escape"
  | .unicodeEscape => "Invalid \\uXXXX escape"
  | .byteOrderMark => "Unexpected UTF-8 BOM (decode using utf-8-sig)"
  | .tooManyDigits digits => unreadableMessage digits

/-- Whether a refusal says that a text is not JSON; a text with an integer that is too long may
be. -/
def Fault.isFormal (f : Fault) : Bool :=
  match f.cause with
  | .tooManyDigits _ => false
  | _ => true

/-- The kind of a refusal. -/
def Fault.kind (f : Fault) : FaultKind := if f.isFormal then .json else .value

/-- What a message says of a refusal. -/
def Fault.message (f : Fault) : String :=
  if f.isFormal then
    f.cause.message ++ ": line " ++ natText f.line ++ " column " ++ natText f.column ++ " (char " ++
      natText f.offset ++ ")"
  else
    f.cause.message

/-- A refusal at the place before which the characters `before` stand. -/
def Fault.after (cause : Cause) (before : List Char) : Fault where
  cause := cause
  offset := before.length
  line := before.count '\n' + 1
  column := (before.reverse.takeWhile (· != '\n')).length + 1

/-- A cause, and what is left of the text from the faulty place on. -/
abbrev Stop := Cause × List Char

/-- Whether a character is white space between the parts of a text. -/
def isSpace (c : Char) : Bool :=
  c == ' ' || c == '\t' || c == '\n' || c == '\r'

/-- The characters from the first one on that is not white space. -/
def skipSpace (cs : List Char) : List Char :=
  cs.dropWhile isSpace

/-- The number of four hexadecimal digits. -/
def hex4? (a b c d : Char) : Option Nat := do
  let a ← Text.hexValue? a
  let b ← Text.hexValue? b
  let c ← Text.hexValue? c
  let d ← Text.hexValue? d
  return ((a * 16 + b) * 16 + c) * 16 + d

/-- Whether a code unit is the first of a pair. -/
def isHighSurrogate (n : Nat) : Bool :=
  0xD800 ≤ n && n ≤ 0xDBFF

/-- Whether a code unit is the second of a pair. -/
def isLowSurrogate (n : Nat) : Bool :=
  0xDC00 ≤ n && n ≤ 0xDFFF

/-- The character of a code unit; a half of a pair alone stands for U+FFFD. -/
def charOfUnit (n : Nat) : Char :=
  if isHighSurrogate n || isLowSurrogate n then Char.ofNat 0xFFFD else Char.ofNat n

/-- The character of a pair of code units. -/
def charOfPair (high low : Nat) : Char :=
  Char.ofNat (0x10000 + (high - 0xD800) * 0x400 + (low - 0xDC00))

/-- Reads the rest of an escape after `\u`, where `here` starts with the `u`. Four digits have to be
followed by something, and a second escape joins the first only if something follows it too. -/
def readUnicodeEscape (here : List Char) : List Char → Except Stop (Char × List Char)
  | a :: b :: c :: d :: rest =>
    if rest.isEmpty then
      .error (.unicodeEscape, here)
    else
      match hex4? a b c d with
      | none => .error (.unicodeEscape, here)
      | some high =>
        match isHighSurrogate high, rest with
        | true, '\\' :: 'u' :: e :: f :: g :: h :: tail =>
          if tail.isEmpty then
            .ok (charOfUnit high, rest)
          else
            match hex4? e f g h with
            | none => .error (.unicodeEscape, rest.drop 1)
            | some low =>
              if isLowSurrogate low then .ok (charOfPair high low, tail)
              else .ok (charOfUnit high, rest)
        | _, _ => .ok (charOfUnit high, rest)
  | _ => .error (.unicodeEscape, here)

/-- The character that a letter stands for after a backslash. -/
def escapeOf? (c : Char) : Option Char :=
  if c == '\x22' || c == '\\' || c == '/' then some c
  else if c == 'b' then some '\x08'
  else if c == 'f' then some '\x0c'
  else if c == 'n' then some '\n'
  else if c == 'r' then some '\r'
  else if c == 't' then some '\t'
  else none

/-- Reads the characters of a string up to its closing quote; `start` begins with the opening
one. -/
def readChars (start : List Char) : Nat → List Char → Except Stop (List Char × List Char)
  | 0, _ => .error (.unterminatedString, start)
  | _, [] => .error (.unterminatedString, start)
  | _, ['\\'] => .error (.unterminatedString, start)
  | fuel + 1, '\\' :: c :: rest => do
    let (d, rest) ←
      if c == 'u' then
        readUnicodeEscape (c :: rest) rest
      else
        match escapeOf? c with
        | some d => .ok (d, rest)
        | none => .error (.escape, '\\' :: c :: rest)
    let (ds, rest) ← readChars start fuel rest
    return (d :: ds, rest)
  | fuel + 1, c :: rest =>
    if c == '\x22' then .ok ([], rest)
    else if c.toNat ≤ 0x1F then .error (.controlCharacter, c :: rest)
    else do
      let (ds, rest) ← readChars start fuel rest
      return (c :: ds, rest)

/-- Reads a string from its opening quote on. -/
def readString : List Char → Except Stop (String × List Char)
  | '\x22' :: rest => do
    let (cs, rest') ← readChars ('\x22' :: rest) (rest.length + 1) rest
    return (String.ofList cs, rest')
  | here => .error (.expectedKey, here)

/-- The digits at the start of a text and what follows them. -/
def spanDigits (cs : List Char) : List Char × List Char :=
  (cs.takeWhile Text.isAsciiDigit, cs.dropWhile Text.isAsciiDigit)

/-- The digits of a fraction, if a point and a digit come next. -/
def readFraction? : List Char → Option (List Char × List Char)
  | '.' :: rest =>
    let (ds, rest) := spanDigits rest
    if ds.isEmpty then none else some (ds, rest)
  | _ => none

/-- The power of ten of an exponent, if one comes next. -/
def readExponent? : List Char → Option (Int × List Char)
  | c :: rest =>
    if c == 'e' || c == 'E' then
      let (negative, rest) :=
        match rest with
        | '-' :: rest => (true, rest)
        | '+' :: rest => (false, rest)
        | rest => (false, rest)
      let (ds, rest) := spanDigits rest
      if ds.isEmpty then none
      else some (if negative then -(Text.digitsValue ds : Int) else Text.digitsValue ds, rest)
    else
      none
  | [] => none

/-- Reads a number that starts at `here`, after its sign. -/
def readUnsigned (here : List Char) (negative : Bool) (cs : List Char) :
    Except Stop (Value × List Char) :=
  let whole? : Option (List Char × List Char) :=
    match cs with
    | '0' :: rest => some (['0'], rest)
    | c :: rest => if Text.isAsciiDigit c then some (spanDigits (c :: rest)) else none
    | [] => none
  match whole? with
  | none => .error (.expectedValue, here)
  | some (whole, rest) => do
    let fraction? := readFraction? rest
    let (fraction, rest) := fraction?.getD ([], rest)
    let exponent? := readExponent? rest
    let (exponent, rest) := exponent?.getD (0, rest)
    if fraction?.isNone && exponent?.isNone then
      if digitLimit < whole.length then
        throw (.tooManyDigits whole.length, here)
      let n : Int := Text.digitsValue whole
      return (.int (if negative then -n else n), rest)
    else
      return (.float (Binary64.ofDecimal negative (Text.digitsValue (whole ++ fraction))
        (exponent - fraction.length)), rest)

/-- Reads a number. -/
def readNumber (here : List Char) : Except Stop (Value × List Char) :=
  match here with
  | '-' :: rest => readUnsigned here true rest
  | _ => readUnsigned here false here

/-- The words that stand for a value. -/
def words : List (List Char × Value) :=
  [("null".toList, .null), ("true".toList, .bool true), ("false".toList, .bool false),
   ("NaN".toList, .float (.nan 0)), ("Infinity".toList, .float (.infinity false)),
   ("-Infinity".toList, .float (.infinity true))]

/-- Reads a word that stands for a value, or a number. -/
def readScalar (here : List Char) : Except Stop (Value × List Char) :=
  match words.find? fun w => w.1.isPrefixOf here with
  | some (w, v) => .ok (v, here.drop w.length)
  | none => readNumber here

mutual

/-- Reads a value. -/
def readValue : Nat → List Char → Except Stop (Value × List Char)
  | 0, here => .error (.expectedValue, here)
  | fuel + 1, here =>
    match here with
    | '\x22' :: _ => do
      let (s, rest) ← readString here
      return (.str s, rest)
    | '{' :: rest =>
      match skipSpace rest with
      | '}' :: rest => .ok (.map [], rest)
      | rest => do
        let (entries, rest) ← readEntries fuel rest
        return (.map (Entries.ofList entries), rest)
    | '[' :: rest =>
      match skipSpace rest with
      | ']' :: rest => .ok (.list [], rest)
      | rest => do
        let (items, rest) ← readItems fuel rest
        return (.list items, rest)
    | _ => readScalar here

/-- Reads the entries of an object from its first key on, to the closing brace. -/
def readEntries : Nat → List Char → Except Stop (List (Value × Value) × List Char)
  | 0, here => .error (.expectedKey, here)
  | fuel + 1, here => do
    let (key, rest) ← readString here
    match skipSpace rest with
    | ':' :: rest => do
      let (value, rest) ← readValue fuel (skipSpace rest)
      match skipSpace rest with
      | '}' :: rest => return ([(.str key, value)], rest)
      | ',' :: rest => do
        let (entries, rest) ← readEntries fuel (skipSpace rest)
        return ((.str key, value) :: entries, rest)
      | rest => .error (.expectedComma, rest)
    | rest => .error (.expectedColon, rest)

/-- Reads the items of an array from the first on, to the closing bracket. -/
def readItems : Nat → List Char → Except Stop (List Value × List Char)
  | 0, here => .error (.expectedValue, here)
  | fuel + 1, here => do
    let (value, rest) ← readValue fuel here
    match skipSpace rest with
    | ']' :: rest => return ([value], rest)
    | ',' :: rest => do
      let (items, rest) ← readItems fuel (skipSpace rest)
      return (value :: items, rest)
    | rest => .error (.expectedComma, rest)

end

/-- Reads a whole text: one value between white space. -/
def readDocument (cs : List Char) : Except Stop Value := do
  if cs.head? == some (Char.ofNat 0xFEFF) then
    throw (.byteOrderMark, cs)
  let (value, rest) ← readValue (2 * cs.length + 2) (skipSpace cs)
  match skipSpace rest with
  | [] => return value
  | rest => throw (.extraData, rest)

/-- The value that a JSON text describes. -/
def read (s : String) : Except Fault Value :=
  let cs := s.toList
  match readDocument cs with
  | .ok v => .ok v
  | .error (cause, rest) => .error (Fault.after cause (cs.take (cs.length - rest.length)))

end AgentBundles.Json
