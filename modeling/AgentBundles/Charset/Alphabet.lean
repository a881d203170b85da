import AgentBundles.Charset.Decoder
import AgentBundles.Charset.UpperAlphabets
import AgentBundles.Charset.WholeAlphabets

/-!
# Alphabets

Character sets in which every byte is a character, or stands for none.
-/

namespace AgentBundles.Charset

/-- The characters of an alphabet, from a byte on. -/
structure Alphabet where
  /-- The first byte that has its own character; those below are ASCII. -/
  first : Nat
  characters : Array Char
  deriving DecidableEq, Repr

namespace Alphabet

/-- The alphabet of rows of characters. -/
def ofRows (first : Nat) (rows : List String) : Alphabet :=
    ⟨first, (rows.flatMap String.toList).toArray⟩

/-- The character of a byte. -/
def charOf (a : Alphabet) (b : UInt8) : Char :=
  if b.toNat < a.first then Char.ofNat b.toNat
    else (a.characters[b.toNat - a.first]?).getD replacement

/-- The characters of bytes. -/
def decode (a : Alphabet) (bytes : List UInt8) : List Char := bytes.map a.charOf

/-- ASCII. -/
def ascii : Alphabet := ⟨0x80, #[]⟩

/-- The alphabet with a name. -/
def ofName? (name : String) : Option Alphabet :=
  match upperAlphabets.find? (·.1 == name) with
  | some e => some (ofRows 0x80 e.2)
  | none => (wholeAlphabets.find? (·.1 == name)).map fun e => ofRows 0 e.2

end Alphabet

/-- The characters of bytes that are their numbers. -/
def decodeLatin (bytes : List UInt8) : List Char := bytes.map fun b => Char.ofNat b.toNat

end AgentBundles.Charset
