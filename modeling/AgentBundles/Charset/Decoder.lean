/-!
# Decoders

A decoder reads bytes one piece after the other. A piece is characters with the count of their
bytes, bytes that stand for nothing, or bytes that something begins with which does not end. What
stands for nothing becomes U+FFFD.
-/

namespace AgentBundles.Charset

/-- The character that stands for bytes that are no text. -/
def replacement : Char := Char.ofNat 0xFFFD

/-- What bytes begin with. -/
inductive Piece where
  | text (cs : List Char) (length : Nat)
  | broken (length : Nat)
  /-- All bytes that are left begin something that does not end. -/
  | unfinished
  deriving DecidableEq, Repr

/-- A decoder with states: from a state and the bytes that are left, the first piece and the state
after it. -/
abbrev Decoder (σ : Type) := σ → List UInt8 → Piece × σ

/-- What decoding comes to: the characters, and the count of bytes at the end that begin
something. -/
structure Decoded where
  text : List Char
  rest : Nat
  deriving DecidableEq, Repr

namespace Decoder

/-- Decodes bytes with fuel for as many pieces. -/
def runFrom {σ : Type} (d : Decoder σ) : Nat → σ → List UInt8 → Decoded
  | 0, _, _ => ⟨[], 0⟩
  | _, _, [] => ⟨[], 0⟩
  | fuel + 1, state, bytes =>
    match d state bytes with
    | (.text cs length, state) =>
      let after := runFrom d fuel state (bytes.drop length)
      ⟨cs ++ after.text, after.rest⟩
    | (.broken length, state) =>
      let after := runFrom d fuel state (bytes.drop length)
      ⟨replacement :: after.text, after.rest⟩
    | (.unfinished, _) => ⟨[replacement], bytes.length⟩

/-- Decodes bytes from a state. -/
def run {σ : Type} (d : Decoder σ) (start : σ) (bytes : List UInt8) : Decoded :=
    d.runFrom bytes.length start bytes

/-- A decoder without states. -/
def ofPieces (piece : List UInt8 → Piece) : Decoder Unit := fun _ bytes => (piece bytes, ())

end Decoder

/-! ### One byte and two -/

/-- A character set with characters of one byte and of two. -/
structure Pairs where
  /-- The character of a byte. -/
  single? : Nat → Option Char
  /-- Whether a byte that is no character is the first one of two. -/
  isLead : Nat → Bool
  /-- The character of two bytes. -/
  pair? : Nat → Nat → Option Char

namespace Pairs

/-- The piece that bytes begin with. -/
def piece (set : Pairs) : List UInt8 → Piece
  | [] => .unfinished
  | a :: rest =>
    match set.single? a.toNat with
    | some c => .text [c] 1
    | none =>
      if set.isLead a.toNat then
        match rest with
        | [] => .unfinished
        | b :: _ =>
          match set.pair? a.toNat b.toNat with
          | some c => .text [c] 2
          | none => .broken 1
      else
        .broken 1

end Pairs

/-- The character of a byte of ASCII. -/
def asciiChar? (b : Nat) : Option Char := if b < 0x80 then some (Char.ofNat b) else none

/-- The number of a trail that stands between `0x40` and `0xFE` without `0x7F`. -/
def trailNumber (trail : Nat) : Nat := if trail < 0x7F then trail - 0x40 else trail - 0x41

/-- Whether a byte is such a trail that is at most the last one. -/
def isTrail (last trail : Nat) : Bool := 0x40 ≤ trail && trail != 0x7F && trail ≤ last

end AgentBundles.Charset
