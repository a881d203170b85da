import AgentBundles.Charset.Decoder
import AgentBundles.Charset.JapaneseRows

/-!
# Japanese character sets

Shift JIS in its plain form and as makers of machines have it, and EUC-JP.
-/

namespace AgentBundles.Charset

/-- The character of a byte of the Roman set: ASCII with a sign of the Yen and an overline. -/
def romanChar? (b : Nat) : Option Char :=
  if b == 0x5C then some '¥' else if b == 0x7E then some '‾' else asciiChar? b

/-- The character of a byte of the half-width kana. -/
def kanaChar? (b : Nat) : Option Char :=
  if 0xA1 ≤ b && b ≤ 0xDF then some (Char.ofNat (0xFEC0 + b)) else none

/-- Whether a byte is a lead of Shift JIS. -/
def isShiftedLead (b : Nat) : Bool := (0x81 ≤ b && b ≤ 0x9F) || (0xE0 ≤ b && b ≤ 0xFC)

/-- The character of JIS X 0208 of two bytes of Shift JIS. -/
def shiftedChar? (lead trail : Nat) : Option Char :=
  if isTrail 0xFC trail then
    let row := if lead < 0xE0 then lead - 0x81 else lead - 0xC1
    let number := trailNumber trail
    japaneseRows.get? (2 * row + number / 0x5E + 0x21) (number % 0x5E + 0x21)
  else
    none

/-- Shift JIS. -/
def shiftJis : Pairs where
  single? b := (asciiChar? b).orElse fun _ => kanaChar? b
  isLead := isShiftedLead
  pair? := shiftedChar?

/-- The characters of single bytes that makers of machines add: ASCII, kana, and some for private
use. -/
def makerChar? (b : Nat) : Option Char :=
  if b ≤ 0x80 then some (Char.ofNat b)
  else if b == 0xA0 then some (Char.ofNat 0xF8F0)
  else if 0xFD ≤ b then some (Char.ofNat (0xF8F1 + (b - 0xFD)))
  else kanaChar? b

/-- The character of two bytes in Shift JIS as makers of machines have it. -/
def makerPair? (lead trail : Nat) : Option Char :=
  match japaneseMakerRows.get? lead trail with
  | some c => some c
  | none =>
    if isShiftedLead lead && lead ≤ 0xEA then shiftedChar? lead trail
    else if 0xF0 ≤ lead && lead ≤ 0xF9 && isTrail 0xFC trail then
      some (Char.ofNat (0xE000 + 188 * (lead - 0xF0) + trailNumber trail))
    else none

/-- Shift JIS as makers of machines have it. -/
def makerShiftJis : Pairs where
  single? := makerChar?
  isLead _ := true
  pair? := makerPair?

/-- The piece that bytes of EUC-JP begin with: a byte of ASCII, kana after `0x8E`, JIS X 0212 after
`0x8F`, or two bytes of JIS X 0208. -/
def eucJpPiece : List UInt8 → Piece
  | [] => .unfinished
  | a :: rest =>
    if a.toNat < 0x80 then .text [Char.ofNat a.toNat] 1
    else
      match rest with
      | [] => .unfinished
      | b :: rest =>
        if a == 0x8E then
          match kanaChar? b.toNat with
          | some c => .text [c] 2
          | none => .broken 1
        else if a == 0x8F then
          match rest with
          | [] => .unfinished
          | c :: _ =>
            match japaneseSupplementRows.get? (b ^^^ 0x80).toNat (c ^^^ 0x80).toNat with
            | some c => .text [c] 3
            | none => .broken 1
        else
          match japaneseRows.get? (a ^^^ 0x80).toNat (b ^^^ 0x80).toNat with
          | some c => .text [c] 2
          | none => .broken 1

end AgentBundles.Charset
