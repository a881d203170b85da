import AgentBundles.Charset.Alphabet
import AgentBundles.Charset.Japanese
import AgentBundles.Charset.Korean

/-!
# Character sets with shifts

Character sets of seven bits in which some bytes say how the ones after them are to be read.
-/

namespace AgentBundles.Charset

/-! ### Escapes -/

/-- A set that an escape asks for. -/
inductive Plane where
  | ascii
  | roman
  | kana
  | japanese
  /-- An earlier form of the Japanese set. -/
  | earlyJapanese
  | moreJapanese
  | chinese
  | korean
  | latin
  | greek
  deriving DecidableEq, Repr

namespace Plane

/-- The letter of a set in an escape, and whether it is a set of two bytes. -/
def letter : Plane → Char × Bool
  | .ascii => ('B', false)
  | .roman => ('J', false)
  | .kana => ('I', false)
  | .japanese => ('B', true)
  | .earlyJapanese => ('@', true)
  | .moreJapanese => ('D', true)
  | .chinese => ('A', true)
  | .korean => ('C', true)
  | .latin => ('A', false)
  | .greek => ('F', false)

/-- The count of the bytes of a character. -/
def width (p : Plane) : Nat := if p.letter.2 then 2 else 1

/-- The character of bytes. -/
def char? (p : Plane) (a b : Nat) : Option Char :=
  match p with
  | .ascii => asciiChar? a
  | .roman => romanChar? a
  | .kana => kanaChar? (a + 0x80)
  | .japanese => japaneseRows.get? a b
  | .earlyJapanese => japaneseRows.get? a b
  | .moreJapanese => japaneseSupplementRows.get? a b
  | .chinese => chineseRows.get? a b
  | .korean => koreanRows.get? a b
  | .latin => none
  | .greek => none

end Plane

/-- What a character set with escapes provides for. -/
structure Escapes where
  /-- The sets besides ASCII. -/
  planes : List Plane
  /-- Whether two control characters shift to the second set and back. -/
  hasShifts : Bool
  /-- Whether an escape may stand before a single character of the third set. -/
  hasThird : Bool
  /-- Whether the later form of the Japanese set has a longer escape too. -/
  hasLater : Bool
  deriving DecidableEq, Repr

/-- How bytes are to be read. -/
structure EscapeState where
  first : Plane
  second : Plane
  third : Plane
  isShifted : Bool
  /-- Whether bytes of an unknown escape are read. -/
  isThrough : Bool
  deriving DecidableEq, Repr

namespace Escapes

/-- The state at the beginning. -/
def start : EscapeState := ⟨.ascii, .ascii, .ascii, false, false⟩

/-- Whether a byte ends an escape. -/
def isEnd (b : UInt8) : Bool := (0x41 ≤ b.toNat && b.toNat ≤ 0x5A) || b == 0x40

/-- The most bytes that an escape has. -/
def longest : Nat := 16

/-- The length of the escape whose bytes from a place on are given, where only so many more may
belong to it: none if the bytes end before it does, and zero if it is too long. -/
def lengthFrom (set : Escapes) (more place : Nat) (bytes : List UInt8) : Option Nat :=
  match more, bytes with
  | 0, _ => some 0
  | _ + 1, [] => none
  | more + 1, b :: rest =>
    if isEnd b then some (place + 1)
    else if set.hasLater && b == 0x26 && rest.head? == some 0x40 then
      lengthFrom set (more - 2) (place + 3) (rest.drop 2)
    else
      lengthFrom set more (place + 1) rest
termination_by more

/-- The place that an escape of some bytes is for, the letter of the set, and whether it is a set of
two bytes. -/
def target? (set : Escapes) : List UInt8 → Option (Nat × UInt8 × Bool)
  | [0x24, c] => some (0, c, true)
  | [0x28, c] => some (0, c, false)
  | [0x29, c] => some (1, c, false)
  | [0x2E, c] => if set.hasThird then some (2, c, false) else none
  | [0x24, 0x28, c] => some (0, c, true)
  | [0x24, 0x29, c] => some (1, c, true)
  | [_, _, 0x1B, 0x24, 0x42] => if set.hasLater then some (0, 0x42, true) else none
  | _ => none

/-- The set with a letter. -/
def plane? (set : Escapes) (letter : UInt8) (isWide : Bool) : Option Plane :=
  (.ascii :: set.planes).find? fun p => p.letter.1.toNat == letter.toNat && p.letter.2 == isWide

/-- Reads an escape, whose bytes after the first one are given. -/
def escape (set : Escapes) (s : EscapeState) (rest : List UInt8) : Piece × EscapeState :=
  match set.lengthFrom (longest - 1) 1 rest with
  | none => (.unfinished, s)
  | some 0 => (.broken 1, s)
  | some length =>
    match set.target? (rest.take (length - 1)) with
    | none => (.broken length, s)
    | some (place, letter, isWide) =>
      match set.plane? letter isWide, place with
      | none, _ => (.broken length, s)
      | some p, 0 => (.text [] length, { s with first := p })
      | some p, 1 => (.text [] length, { s with second := p })
      | some p, _ => (.text [] length, { s with third := p })

/-- The character of the third set of a byte. -/
def thirdChar? (p : Plane) (b : UInt8) : Option Char :=
  match p with
  | .latin => if b.toNat < 0x80 then some (Char.ofNat (b.toNat + 0x80)) else none
  | .greek =>
    let n := (b ^^^ 0x80).toNat
    if n < 0xA0 then some (Char.ofNat n)
    else if [0xA4, 0xA5, 0xAA].contains n then none
    else
      ((Alphabet.ofName? "iso8859-7").map fun a => a.charOf (b ^^^ 0x80)).filter (· != replacement)
  | _ => asciiChar? b.toNat

/-- The piece that bytes begin with in a state. -/
def piece (set : Escapes) : Decoder EscapeState
  | s, [] => (.unfinished, s)
  | s, b :: rest =>
    let plain : Piece := .text [Char.ofNat b.toNat] 1
    if s.isThrough then
      (plain, { s with isThrough := !isEnd b })
    else if b == 0x1B then
      match rest with
      | [] => (.unfinished, s)
      | c :: after =>
        if [0x28, 0x29, 0x24, 0x2E, 0x26].contains c then
          set.escape s rest
        else if set.hasThird && c == 0x4E then
          match after with
          | [] => (.unfinished, s)
          | d :: _ =>
            match thirdChar? s.third d with
            | some c => (.text [c] 3, s)
            | none => (.broken 3, s)
        else
          (plain, { s with isThrough := true })
    else if set.hasShifts && b == 0x0F then
      (.text [] 1, { s with isShifted := false })
    else if set.hasShifts && b == 0x0E then
      (.text [] 1, { s with isShifted := true })
    else if b == 0x0A then
      (plain, { s with isShifted := false })
    else if b.toNat < 0x20 then
      (plain, s)
    else if 0x80 ≤ b.toNat then
      (.broken 1, s)
    else
      let p := if s.isShifted then s.second else s.first
      if (b :: rest).length < p.width then
        (.unfinished, s)
      else
        match p.char? b.toNat (rest.headD 0).toNat with
        | some c => (.text [c] p.width, s)
        | none => (.broken p.width, s)

end Escapes

/-- The Japanese set with escapes. -/
def iso2022Jp : Escapes := ⟨[.roman, .japanese, .earlyJapanese], false, false, true⟩

/-- The Japanese set with escapes and a supplement. -/
def iso2022Jp1 : Escapes := ⟨[.roman, .japanese, .earlyJapanese, .moreJapanese], false, false, true⟩

/-- The Japanese set with escapes and other languages. -/
def iso2022Jp2 : Escapes :=
  ⟨[.roman, .japanese, .earlyJapanese, .moreJapanese, .korean, .chinese, .latin, .greek], false,
    true, true⟩

/-- The Japanese set with escapes, a supplement and half-width kana. -/
def iso2022JpExt : Escapes :=
    ⟨[.roman, .kana, .japanese, .earlyJapanese, .moreJapanese], false, false, true⟩

/-- The Korean set with escapes. -/
def iso2022Kr : Escapes := ⟨[.korean], true, false, false⟩

/-! ### Tildes -/

/-- The piece that bytes of the Chinese set with tildes begin with; the state tells whether two
bytes are a character. -/
def tildePiece : Decoder Bool
  | isWide, [] => (.unfinished, isWide)
  | isWide, a :: rest =>
    if a == 0x7E then
      match rest with
      | [] => (.unfinished, isWide)
      | b :: _ =>
        if !isWide && b == 0x7E then (.text ['~'] 2, false)
        else if !isWide && b == 0x7B then (.text [] 2, true)
        else if !isWide && b == 0x0A then (.text [] 2, false)
        else if isWide && b == 0x7D then (.text [] 2, false)
        else (.broken 1, isWide)
    else if 0x80 ≤ a.toNat then
      (.broken 1, isWide)
    else if isWide then
      match rest with
      | [] => (.unfinished, true)
      | b :: _ =>
        match chineseRows.get? a.toNat b.toNat with
        | some c => (.text [c] 2, true)
        | none => (.broken 1, true)
    else
      (.text [Char.ofNat a.toNat] 1, false)

end AgentBundles.Charset
