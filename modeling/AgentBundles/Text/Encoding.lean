import AgentBundles.Number.Layout
import AgentBundles.Text.Quoted

/-!
# Texts that cannot be encoded

A text is encoded character by character. ASCII has few characters, and UTF-8 has all but the
surrogates. A text that stays without bytes is a fault, which says where its first such characters
are.
-/

namespace AgentBundles.Text

/-- Whether a character is one of ASCII. -/
def isAscii (c : Char) : Bool := c.toNat < 0x80

/-- An encoding of texts as bytes. -/
inductive Encoding where
  | ascii
  | utf8
  /-- UTF-8 with surrogates for the bytes beyond ASCII that are not part of a character. -/
  | fileName
  deriving DecidableEq, Repr

namespace Encoding

/-- The name of an encoding. -/
def name : Encoding → String
  | .ascii => "ascii"
  | .utf8 => "utf-8"
  | .fileName => "utf-8"

/-- Whether an encoding has bytes for a character. -/
def has : Encoding → Char → Bool
  | .ascii, c => isAscii c
  | .utf8, c => !isLone c
  | .fileName, c => !isLone c || (0xDC80 ≤ numberOf c && numberOf c ≤ 0xDCFF)

/-- What a message says of the characters that an encoding has no bytes for. -/
def refusal : Encoding → String
  | .ascii => "ordinal not in range(128)"
  | .utf8 => "surrogates not allowed"
  | .fileName => "surrogates not allowed"

end Encoding

/-- Characters next to each other that an encoding has no bytes for. -/
structure EncodingFault where
  encoding : Encoding
  first : Char
  offset : Nat
  length : Nat
  deriving DecidableEq, Repr

/-- The first characters of a text that an encoding has no bytes for. -/
def Encoding.fault? (e : Encoding) (s : String) : Option EncodingFault :=
  match (s.toList.dropWhile e.has).takeWhile (!e.has ·) with
  | [] => none
  | c :: cs => some ⟨e, c, (s.toList.takeWhile e.has).length, cs.length + 1⟩

/-- A character by its number. -/
def escapedChar (c : Char) : String :=
  let n := numberOf c
  String.ofList ('\\' ::
    if n < 0x100 then 'x' :: hexDigits 2 n
    else if n < 0x10000 then 'u' :: hexDigits 4 n
    else 'U' :: hexDigits 8 n)

/-- What a message says of a text that cannot be encoded. -/
def EncodingFault.message (f : EncodingFault) : String :=
  let place :=
    if f.length = 1 then "character " ++ inQuotes (escapedChar f.first) ++ " in position " ++
      natText f.offset
    else "characters in position " ++ natText f.offset ++ "-" ++ natText (f.offset + f.length - 1)
  inQuotes f.encoding.name ++ " codec can't encode " ++ place ++ ": " ++ f.encoding.refusal

end AgentBundles.Text
