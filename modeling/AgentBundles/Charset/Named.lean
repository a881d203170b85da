import AgentBundles.Charset.Decoder
import AgentBundles.Charset.KnownNames
import AgentBundles.Charset.Shifts
import AgentBundles.Charset.Units
import AgentBundles.Data.FaultKind
import AgentBundles.Text.Quoted
import AgentBundles.Text.Split
import AgentBundles.Text.Utf8
import AgentBundles.Text.Word

/-!
# Character sets by name

The text of bytes in a character set that has a name. Bytes that are no text in the set become
U+FFFD. Some names are those of ways to write bytes, and give no text at all.

In some sets every byte is the number of a character, and characters beyond them are written with a
backslash, a letter and hexadecimal digits. One of these has escapes for control characters and
quotes as well.
-/

namespace AgentBundles.Charset

/-! ### Characters by their numbers -/

/-- Whether a byte is a hexadecimal digit. -/
def isHexDigit (b : UInt8) : Bool := (Text.hexValue? (Char.ofNat b.toNat)).isSome

/-- The number of hexadecimal digits. -/
def hexNumber (digits : List UInt8) : Nat :=
  digits.foldl (fun n b => n * 16 + (Text.hexValue? (Char.ofNat b.toNat)).getD 0) 0

/-- The piece of a backslash, a letter, and as many digits as are given by a count; the digits and
what follows them are given. -/
def numberPiece (count : Nat) (rest : List UInt8) : Piece :=
  let digits := (rest.take count).takeWhile isHexDigit
  let number := hexNumber digits
  if digits.length = count then
    if number.isValidChar then .text [Char.ofNat number] (count + 2)
    else if number < 0x110000 then .text [replacement] (count + 2)
    else .broken (count + 2)
  else if digits.length = rest.length then .unfinished
  else .broken (digits.length + 2)

/-- How many digits a letter after a backslash asks for. -/
def digitCount? (letter : UInt8) : Option Nat :=
  if letter == 0x75 then some 4 else if letter == 0x55 then some 8 else none

/-- The piece that bytes begin with, where a backslash counts only before a number. -/
def numberedPiece : List UInt8 → Piece
  | 0x5C :: b :: rest =>
    match digitCount? b with
    | some count => numberPiece count rest
    | none => .text ['\\', Char.ofNat b.toNat] 2
  | b :: _ => .text [Char.ofNat b.toNat] 1
  | [] => .unfinished

/-- The character of a letter after a backslash. -/
def escapeChar? (letter : UInt8) : Option Char :=
  ([(0x5C, '\\'), (0x27, '\''), (0x22, '"'), (0x62, '\x08'), (0x66, '\x0C'), (0x74, '\t'),
    (0x6E, '\n'), (0x72, '\r'), (0x76, '\x0B'), (0x61, '\x07')].find? fun (e : UInt8 × Char) => e.1
      == letter).map (·.2)

/-- Whether a byte is an octal digit. -/
def isOctalDigit (b : UInt8) : Bool := 0x30 ≤ b.toNat && b.toNat ≤ 0x37

/-- The piece of a backslash and the name of a character, whose bytes after the first letter are
given; no name is known. -/
def namePiece : List UInt8 → Piece
  | [] => .unfinished
  | 0x7B :: rest =>
    let name := rest.takeWhile (· != 0x7D)
    if name.length = rest.length then .unfinished
    else .broken (if name.isEmpty then 3 else name.length + 4)
  | _ => .broken 2

/-- The piece that bytes begin with, where a backslash begins an escape. -/
def escapedPiece : List UInt8 → Piece
  | 0x5C :: b :: rest =>
    match digitCount? b, escapeChar? b with
    | some count, _ => numberPiece count rest
    | none, some c => .text [c] 2
    | none, none =>
      if b == 0x0A then .text [] 2
      else if b == 0x78 then numberPiece 2 rest
      else if b == 0x4E then namePiece rest
      else if isOctalDigit b then
        let digits := b :: (rest.take 2).takeWhile isOctalDigit
        .text [Char.ofNat (digits.foldl (fun n b => n * 8 + (b.toNat - 0x30)) 0)]
          (digits.length + 1)
      else
        .text ['\\', Char.ofNat b.toNat] 2
  | [0x5C] => .unfinished
  | b :: _ => .text [Char.ofNat b.toNat] 1
  | [] => .unfinished

/-! ### Text in a named character set -/

/-- Why bytes are not read in a character set. -/
inductive Fault where
  /-- No mark tells the order of the bytes of numbers with so many bits. -/
  | noMark (bits : Nat)
  /-- More bytes at the end begin something than are kept. -/
  | pending
  /-- The set has no way to go on after bytes that are no text. -/
  | strict
  /-- The set is there to have no text. -/
  | undefined
  /-- The name is that of a way to write bytes. -/
  | bytes
  /-- The name is that of a way to write letters. -/
  | letters
  deriving DecidableEq, Repr

/-- The kind of a fault. -/
def Fault.kind : Fault → FaultKind
  | .bytes => .assertion
  | .letters => .type
  | _ => .byteOrder

/-- What a message says of bytes that are not read. -/
def Fault.message : Fault → String
  | .noMark bits => "UTF-" ++ natText bits ++ " stream does not start with BOM"
  | .pending => "pending buffer overflow"
  | .strict => "Unsupported error handling replace"
  | .undefined => "undefined encoding"
  | .bytes => ""
  | .letters => "descriptor 'translate' for 'str' objects doesn't apply to a 'bytes' object"

/-! ### Names -/

/-- A name in lower case with one underscore in place of all that is neither letter, digit nor
dot. -/
def plainName (name : String) : String :=
  let parts := Text.fields ' ' (name.toList.map fun c =>
    if Text.isAsciiAlphanumeric c || c == '.' then c.toLower else ' ')
  Text.join "_" ((parts.filter fun p => !p.isEmpty).map String.ofList)

/-- The own name of the character set that is known under a name. -/
def ofName? (name : String) : Option String :=
  let plain := plainName name
  let find (names : List (String × String)) (name : String) : Option String :=
    (names.find? (·.1 == name)).map (·.2)
  ((find knownNames plain).orElse fun _ => find furtherNames plain).orElse fun _ =>
    find furtherNames (plain.replace "." "_")

/-! ### Decoding -/

/-- The characters of bytes in UTF-8. -/
def decodeUtf8 (bytes : List UInt8) : List Char := Text.decodeUtf8Lossy bytes.length bytes

/-- The characters of bytes in UTF-8 after a mark; what may be a part of the mark is no text
either. -/
def decodeMarkedUtf8 (bytes : List UInt8) : List Char :=
  match bytes with
  | 0xEF :: 0xBB :: 0xBF :: rest => decodeUtf8 rest
  | [0xEF, 0xBB] => []
  | [0xEF] => []
  | bytes => decodeUtf8 bytes

/-- The characters of bytes in units of two or four after a mark. -/
def decodeMarked (bits : Nat) (mark? : List UInt8 → Option (ByteOrder × List UInt8))
    (decode : ByteOrder → List UInt8 → List Char) (bytes : List UInt8) : Except Fault (List Char) :=
  match mark? bytes with
  | some (order, rest) => .ok (decode order rest)
  | none => if bytes.length < bits / 8 then .ok (decode .little bytes) else .error (.noMark bits)

/-- The most bytes that are kept at the end. -/
def longestPending : Nat := 8

/-- The characters that a decoder gives. -/
def decodeWith {σ : Type} (d : Decoder σ) (start : σ) (bytes : List UInt8) :
    Except Fault (List Char) :=
  let decoded := d.run start bytes
  if longestPending < decoded.rest then .error .pending else .ok decoded.text

/-- The characters of bytes in a set with characters of one byte and of two. -/
def decodePairs (set : Pairs) : List UInt8 → Except Fault (List Char) :=
    decodeWith (Decoder.ofPieces set.piece) ()

/-- The characters of bytes in a set with escapes. -/
def decodeEscapes (set : Escapes) : List UInt8 → Except Fault (List Char) :=
    decodeWith set.piece Escapes.start

/-- The ways to read bytes in character sets that are no alphabets, by the names of the sets. A set
that adds to another one is read like that one. -/
def readers : List (String × (List UInt8 → Except Fault (List Char))) :=
  [("utf-8", fun bytes => .ok (decodeUtf8 bytes)),
   ("utf-8-sig", fun bytes => .ok (decodeMarkedUtf8 bytes)),
   ("utf-7", fun bytes => .ok (decodeSevenBit bytes)),
   ("utf-16", decodeMarked 16 twoByteMark? decodeTwoByte),
   ("utf-16-le", fun bytes => .ok (decodeTwoByte .little bytes)),
   ("utf-16-be", fun bytes => .ok (decodeTwoByte .big bytes)),
   ("utf-32", decodeMarked 32 fourByteMark? decodeFourByte),
   ("utf-32-le", fun bytes => .ok (decodeFourByte .little bytes)),
   ("utf-32-be", fun bytes => .ok (decodeFourByte .big bytes)),
   ("ascii", fun bytes => .ok (Alphabet.ascii.decode bytes)),
   ("iso8859-1", fun bytes => .ok (decodeLatin bytes)),
   ("charmap", fun bytes => .ok (decodeLatin bytes)),
   ("unicode-escape", fun bytes => .ok ((Decoder.ofPieces escapedPiece).run () bytes).text),
   ("raw-unicode-escape", fun bytes => .ok ((Decoder.ofPieces numberedPiece).run () bytes).text),
   ("shift_jis", decodePairs shiftJis), ("shift_jis_2004", decodePairs shiftJis),
   ("shift_jisx0213", decodePairs shiftJis), ("cp932", decodePairs makerShiftJis),
   ("euc_jp", decodeWith (Decoder.ofPieces eucJpPiece) ()),
   ("euc_jis_2004", decodeWith (Decoder.ofPieces eucJpPiece) ()),
   ("euc_jisx0213", decodeWith (Decoder.ofPieces eucJpPiece) ()),
   ("iso2022_jp", decodeEscapes iso2022Jp), ("iso2022_jp_1", decodeEscapes iso2022Jp1),
   ("iso2022_jp_2", decodeEscapes iso2022Jp2), ("iso2022_jp_3", decodeEscapes iso2022Jp1),
   ("iso2022_jp_2004", decodeEscapes iso2022Jp1), ("iso2022_jp_ext", decodeEscapes iso2022JpExt),
   ("iso2022_kr", decodeEscapes iso2022Kr),
   ("gb2312", decodePairs gb2312), ("gbk", decodePairs gbk),
   ("gb18030", decodeWith (Decoder.ofPieces gb18030Piece) ()), ("hz", decodeWith tildePiece false),
   ("big5", decodePairs big5), ("big5hkscs", decodePairs big5), ("cp950", decodePairs makerBig5),
   ("euc_kr", decodeWith (Decoder.ofPieces eucKrPiece) ()), ("cp949", decodePairs fullKorean),
   ("idna", fun _ => .error .strict), ("undefined", fun _ => .error .undefined),
   ("rot-13", fun _ => .error .letters),
   ("base64", fun _ => .error .bytes), ("bz2", fun _ => .error .bytes),
   ("hex", fun _ => .error .bytes), ("quopri", fun _ => .error .bytes),
   ("uu", fun _ => .error .bytes), ("zlib", fun _ => .error .bytes)]

/-- The characters of bytes in the character set with a name of its own; bytes in a set that is not
here are read as UTF-8. There is no text in no bytes, whatever the set. -/
def decode (name : String) (bytes : List UInt8) : Except Fault (List Char) :=
  if bytes.isEmpty then .ok []
  else
    match readers.find? (·.1 == name) with
    | some r => r.2 bytes
    | none =>
      match Alphabet.ofName? name with
      | some a => .ok (a.decode bytes)
      | none => .ok (decodeUtf8 bytes)

end AgentBundles.Charset
