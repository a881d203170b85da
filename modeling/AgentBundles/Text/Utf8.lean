import AgentBundles.Number.Layout
import AgentBundles.Text.Quoted

/-!
# UTF-8

The bytes of a text, the text of bytes, and the first place where bytes are no text.  Where a reader
has to go on, each longest start of a character that breaks off counts as one U+FFFD.
-/

namespace AgentBundles.Text

/-- The bytes of a text. -/
def utf8 (s : String) : List UInt8 :=
  s.toList.flatMap String.utf8EncodeChar

/-- Why bytes are no text. -/
inductive Utf8Cause where
  | startByte
  | continuationByte
  | endOfData
  deriving DecidableEq, Repr

/-- The place where bytes stop being a text: the offset of the first byte that belongs to no
character, the byte, and the count of bytes that break off together. -/
structure Utf8Fault where
  cause : Utf8Cause
  offset : Nat
  byte : UInt8
  length : Nat
  deriving DecidableEq, Repr

/-- The count of bytes that a first byte asks for, and the range of the second one. -/
def utf8Lead? (b : Nat) : Option (Nat × Nat × Nat) :=
  if b < 0xC2 then none
  else if b < 0xE0 then some (2, 0x80, 0xBF)
  else if b == 0xE0 then some (3, 0xA0, 0xBF)
  else if b == 0xED then some (3, 0x80, 0x9F)
  else if b < 0xF0 then some (3, 0x80, 0xBF)
  else if b == 0xF0 then some (4, 0x90, 0xBF)
  else if b < 0xF4 then some (4, 0x80, 0xBF)
  else if b == 0xF4 then some (4, 0x80, 0x8F)
  else none

/-- Whether a byte goes on a character. -/
def isContinuation (b : UInt8) : Bool :=
  0x80 ≤ b.toNat && b.toNat ≤ 0xBF

/-- The number that a first byte of a character of `length` bytes contributes. -/
def leadBits (length b : Nat) : Nat :=
  if length = 2 then b % 0x20 else if length = 3 then b % 0x10 else b % 0x08

/-- The first character of bytes and the count of its bytes, or why there is none and the count of
bytes to pass over. -/
def decodeOne (first : UInt8) (rest : List UInt8) : Except (Utf8Cause × Nat) (Char × Nat) :=
  if first.toNat < 0x80 then
    .ok (Char.ofNat first.toNat, 1)
  else
    match utf8Lead? first.toNat with
    | none => .error (.startByte, 1)
    | some (length, low, high) =>
      match rest with
      | [] => .error (.endOfData, 1)
      | second :: rest =>
        if second.toNat < low || high < second.toNat then
          .error (.continuationByte, 1)
        else
          let others := (rest.take (length - 2)).takeWhile isContinuation
          if others.length = length - 2 then
            .ok (Char.ofNat ((second :: others).foldl (fun n b => n * 64 + b.toNat % 64)
              (leadBits length first.toNat)), length)
          else if others.length = rest.length then
            .error (.endOfData, others.length + 2)
          else
            .error (.continuationByte, others.length + 2)

/-- Decodes bytes that start at an offset. -/
def decodeUtf8From : Nat → Nat → List UInt8 → Except Utf8Fault (List Char)
  | 0, _, _ => .ok []
  | _, _, [] => .ok []
  | fuel + 1, offset, first :: rest =>
    match decodeOne first rest with
    | .error (cause, length) => .error ⟨cause, offset, first, length⟩
    | .ok (c, length) => do
      let cs ← decodeUtf8From fuel (offset + length) (rest.drop (length - 1))
      return c :: cs

/-- The characters of bytes, or the first fault. -/
def decodeUtf8 (bytes : List UInt8) : Except Utf8Fault (List Char) :=
  decodeUtf8From bytes.length 0 bytes

/-- The characters of bytes, with U+FFFD for the bytes that belong to none. -/
def decodeUtf8Lossy : Nat → List UInt8 → List Char
  | 0, _ => []
  | _, [] => []
  | fuel + 1, first :: rest =>
    match decodeOne first rest with
    | .error (_, length) => Char.ofNat 0xFFFD :: decodeUtf8Lossy fuel (rest.drop (length - 1))
    | .ok (c, length) => c :: decodeUtf8Lossy fuel (rest.drop (length - 1))

/-- What a message says of a cause. -/
def Utf8Cause.message : Utf8Cause → String
  | .startByte => "invalid start byte"
  | .continuationByte => "invalid continuation byte"
  | .endOfData => "unexpected end of data"

/-- What a message says of bytes that are no text. -/
def Utf8Fault.message (f : Utf8Fault) : String :=
  let place :=
    if f.length = 1 then
      "byte 0x" ++ String.ofList (hexDigits 2 f.byte.toNat) ++ " in position " ++ natText f.offset
    else
      "bytes in position " ++ natText f.offset ++ "-" ++ natText (f.offset + f.length - 1)
  "'utf-8' codec can't decode " ++ place ++ ": " ++ f.cause.message

end AgentBundles.Text
