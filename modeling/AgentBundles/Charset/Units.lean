import AgentBundles.Charset.Decoder

/-!
# Characters in units of several bytes

Character sets in which a character is a number of four bytes, or one or two numbers of two bytes.
The order of the bytes is known, or a mark at the beginning tells it.

UTF-7 is ASCII, where after a plus sign characters stand as numbers of two bytes in the sixty-four
digits of base 64, up to a character that is no digit. A hyphen that ends them does not count.
-/

namespace AgentBundles.Charset

/-! ### Units of two and four bytes -/

/-- The order of the bytes of a number. -/
inductive ByteOrder where
  /-- The byte that counts least comes first. -/
  | little
  /-- The byte that counts most comes first. -/
  | big
  deriving DecidableEq, Repr

/-- The number of bytes. -/
def ByteOrder.number (order : ByteOrder) (bytes : List UInt8) : Nat :=
  let fromHighest := match order with
    | .little => bytes.reverse
    | .big => bytes
  fromHighest.foldl (fun n b => n * 0x100 + b.toNat) 0

/-- Whether a number is half of a character. -/
def isHalf (n : Nat) : Bool := 0xD800 ≤ n && n < 0xE000

/-- Whether a number is the first half of a character. -/
def isFirstHalf (n : Nat) : Bool := 0xD800 ≤ n && n < 0xDC00

/-- Whether a number is the second half of a character. -/
def isSecondHalf (n : Nat) : Bool := 0xDC00 ≤ n && n < 0xE000

/-- The character of two halves. -/
def joinHalves (high low : Nat) : Char :=
    Char.ofNat (0x10000 + (high - 0xD800) * 0x400 + (low - 0xDC00))

/-- The piece that bytes begin with, in units of two bytes. -/
def twoBytePiece (order : ByteOrder) : List UInt8 → Piece
  | a :: b :: rest =>
    let n := order.number [a, b]
    if !isHalf n then .text [Char.ofNat n] 2
    else if !isFirstHalf n then .broken 2
    else
      match rest with
      | c :: d :: _ =>
        let m := order.number [c, d]
        if isSecondHalf m then .text [joinHalves n m] 4 else .broken 2
      | _ => .unfinished
  | _ => .unfinished

/-- The piece that bytes begin with, in units of four bytes. -/
def fourBytePiece (order : ByteOrder) : List UInt8 → Piece
  | a :: b :: c :: d :: _ =>
    let n := order.number [a, b, c, d]
    if n < 0x110000 && !isHalf n then .text [Char.ofNat n] 4 else .broken 4
  | _ => .unfinished

/-- The characters of bytes in units of two. -/
def decodeTwoByte (order : ByteOrder) (bytes : List UInt8) : List Char :=
  ((Decoder.ofPieces (twoBytePiece order)).run () bytes).text

/-- The characters of bytes in units of four. -/
def decodeFourByte (order : ByteOrder) (bytes : List UInt8) : List Char :=
  ((Decoder.ofPieces (fourBytePiece order)).run () bytes).text

/-- The order that bytes in units of two begin with, and those after the mark. -/
def twoByteMark? : List UInt8 → Option (ByteOrder × List UInt8)
  | 0xFF :: 0xFE :: rest => some (.little, rest)
  | 0xFE :: 0xFF :: rest => some (.big, rest)
  | _ => none

/-- The order that bytes in units of four begin with, and those after the mark. -/
def fourByteMark? : List UInt8 → Option (ByteOrder × List UInt8)
  | 0xFF :: 0xFE :: 0 :: 0 :: rest => some (.little, rest)
  | 0 :: 0 :: 0xFE :: 0xFF :: rest => some (.big, rest)
  | _ => none

/-! ### UTF-7 -/

/-- What has been read. -/
inductive SevenBit where
  | plain
  /-- A plus sign came just before. -/
  | opened
  /-- Digits are read: the count of bits that are left over, their number, and the first half of a
  character. -/
  | digits (bits number : Nat) (half : Option Nat)
  deriving DecidableEq, Repr

namespace SevenBit

/-- The value of a digit of base 64. -/
def digit? (b : UInt8) : Option Nat :=
  let n := b.toNat
  if 0x41 ≤ n && n ≤ 0x5A then some (n - 0x41)
  else if 0x61 ≤ n && n ≤ 0x7A then some (n - 0x61 + 26)
  else if 0x30 ≤ n && n ≤ 0x39 then some (n - 0x30 + 52)
  else if n == 0x2B then some 62
  else if n == 0x2F then some 63
  else none

/-- Reads a byte outside of digits. -/
def outside (b : UInt8) : List Char × SevenBit :=
  if b == 0x2B then ([], .opened)
  else if b.toNat < 0x80 then ([Char.ofNat b.toNat], .plain)
  else ([replacement], .plain)

/-- The character of a number of two bytes after half of a character, and the half that it is. -/
def unit (half : Option Nat) (n : Nat) : List Char × Option Nat :=
  let lost := if half.isSome then [replacement] else []
  match half.filter fun _ => isSecondHalf n with
  | some high => ([joinHalves high n], none)
  | none =>
    if isFirstHalf n then (lost, some n)
    else (lost ++ [if isHalf n then replacement else Char.ofNat n], none)

/-- Reads a digit. -/
def inside (bits number : Nat) (half : Option Nat) (value : Nat) : List Char × SevenBit :=
  let bits := bits + 6
  let number := number * 64 + value
  if bits < 16 then ([], .digits bits number half)
  else
    let (cs, half) := unit half (number >>> (bits - 16))
    (cs, .digits (bits - 16) (number % (1 <<< (bits - 16))) half)

/-- Whether bits are left over that should not be. -/
def isPartial (bits number : Nat) : Bool := 6 ≤ bits || number != 0

/-- Reads a byte: the characters that are known with it, and what has been read then. -/
def step (s : SevenBit) (b : UInt8) : List Char × SevenBit :=
  match s with
  | .plain => outside b
  | .opened =>
    if b == 0x2D then (['+'], .plain)
    else
      match digit? b with
      | some value => inside 0 0 none value
      | none => ([replacement], .plain)
  | .digits bits number half =>
    match digit? b with
    | some value => inside bits number half value
    | none =>
      if isPartial bits number then ([replacement], .plain)
      else
        let lost := if half.isSome && b.toNat < 0x80 then [replacement] else []
        if b == 0x2D then (lost, .plain)
        else
          let (cs, s) := outside b
          (lost ++ cs, s)

/-- What is left at the end. -/
def finish : SevenBit → List Char
  | .digits bits number half => if half.isSome || isPartial bits number then [replacement] else []
  | _ => []

/-- The characters of bytes after what has been read. -/
def decodeFrom (s : SevenBit) : List UInt8 → List Char
  | [] => s.finish
  | b :: rest => (s.step b).1 ++ decodeFrom (s.step b).2 rest

end SevenBit

/-- The characters of bytes in UTF-7. -/
def decodeSevenBit (bytes : List UInt8) : List Char := SevenBit.decodeFrom .plain bytes

end AgentBundles.Charset
