import AgentBundles.Text.Encoding
import AgentBundles.Text.Utf8
import AgentBundles.Text.Word

/-!
# Percent encoding

Characters that may not stand in a part of an address are written as their bytes, each as a percent
sign and two hexadecimal digits.
-/

namespace AgentBundles.Text

/-- A byte as a percent sign and two digits. -/
def percentByte (b : UInt8) : List Char :=
  '%' :: (hexDigits 2 b.toNat).map Char.toUpper

/-- Characters with all but those that may stand written as bytes. -/
def percentEncode (mayStand : Char → Bool) (cs : List Char) : List Char :=
  cs.flatMap fun c => if mayStand c then [c] else (String.utf8EncodeChar c).flatMap percentByte

/-- The characters that mean nothing else in any part of an address. -/
def isUnreserved (c : Char) : Bool :=
  isAsciiAlphanumeric c || c == '-' || c == '.' || c == '_' || c == '~'

/-- The bytes of ASCII characters, of which some are written as bytes. -/
def percentBytes : List Char → List UInt8
  | '%' :: a :: b :: cs =>
    match hexValue? a, hexValue? b with
    | some x, some y => UInt8.ofNat (16 * x + y) :: percentBytes cs
    | _, _ => 0x25 :: percentBytes (a :: b :: cs)
  | c :: cs => UInt8.ofNat c.toNat :: percentBytes cs
  | [] => []

/-- Characters with those that are written as bytes. Bytes that make no character become U+FFFD, and
bytes on both sides of a character beyond ASCII belong to different ones. -/
def percentDecodeFrom : Nat → List Char → List Char
  | 0, cs => cs
  | fuel + 1, cs =>
    let bytes := percentBytes (cs.takeWhile isAscii)
    let rest := cs.dropWhile isAscii
    decodeUtf8Lossy bytes.length bytes ++
      match rest with
      | [] => []
      | c :: cs => c :: percentDecodeFrom fuel cs

/-- Characters with those that are written as bytes. -/
def percentDecode (cs : List Char) : List Char := percentDecodeFrom (cs.length + 1) cs

end AgentBundles.Text
