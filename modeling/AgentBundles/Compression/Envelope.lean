import AgentBundles.Compression.Inflate

/-!
# Envelopes of compressed data

Compressed data travels with a header that says how it was made, and numbers at its end by which a
receiver sees whether it has what was sent: the remainder of the bytes as a polynomial over two
elements, and a pair of sums modulo a prime. There are two kinds of envelopes; data in an envelope
that breaks off gives the bytes up to there, and what follows the envelope does not count.
-/

namespace AgentBundles.Compression

/-! ### Check numbers -/

/-- The polynomial of the remainder, the lowest power in the highest bit. -/
def polynomial : UInt32 := 0xEDB88320

/-- Takes `n` bits off a remainder. -/
def reduce : Nat → UInt32 → UInt32
  | 0, r => r
  | n + 1, r => reduce n (if r &&& 1 == 1 then (r >>> 1) ^^^ polynomial else r >>> 1)

/-- The remainders of all bytes. -/
def remainders : Array UInt32 := (Array.range 256).map fun n => reduce 8 (UInt32.ofNat n)

/-- The remainder after one more byte. -/
def stepRemainder (r : UInt32) (b : UInt8) : UInt32 :=
  remainders.getD ((r ^^^ b.toUInt32) &&& 0xFF).toNat 0 ^^^ (r >>> 8)

/-- The remainder of bytes. -/
def remainder (bytes : Array UInt8) : Nat :=
  (bytes.foldl stepRemainder 0xFFFFFFFF ^^^ 0xFFFFFFFF).toNat

/-- The prime of the sums. -/
def modulus : Nat := 65521

/-- The sum of bytes, and the sum of its values along the way, as one number. -/
def sums (bytes : Array UInt8) : Nat :=
  let (a, b) := bytes.foldl (fun (s : Nat × Nat) byte =>
    let a := (s.1 + byte.toNat) % modulus
    (a, (s.2 + a) % modulus)) (1, 0)
  b * 0x10000 + a

/-! ### Envelopes -/

/-- The number that bytes are, the lowest one first. -/
def littleValue (bytes : List UInt8) : Nat := bytes.foldr (fun b n => 256 * n + b.toNat) 0

/-- The number that bytes are, the highest one first. -/
def bigValue (bytes : List UInt8) : Nat := littleValue bytes.reverse

/-- Whether bytes are cut short of four or are a number. -/
def isCutOr (value : List UInt8 → Nat) (n : Nat) (bytes : List UInt8) : Bool :=
  bytes.length < 4 || value (bytes.take 4) == n

/-- The bytes of what has been inflated, if a check of them and of what follows holds; none if the
data is broken. -/
def Inflated.checked? (i : Inflated) (check : Array UInt8 → List UInt8 → Bool) :
    Option (List UInt8) :=
  match i with
  | .broken => none
  | .cut out => some out.toList
  | .whole out rest => if check out (bytesOf (align rest)) then some out.toList else none

/-! ### Short headers -/

/-- Opens an envelope with a header of two bytes and sums at its end; none if it is broken. -/
def openShort? (bytes : List UInt8) : Option (List UInt8) :=
  match bytes with
  | first :: second :: rest =>
    let isKnown := first.toNat % 16 == 8 && first.toNat / 16 ≤ 7
    if (256 * first.toNat + second.toNat) % 31 ≠ 0 || !isKnown then none
    else if second.toNat / 32 % 2 = 1 then (if rest.length < 4 then some [] else none)
    else (inflate rest).checked? fun out rest => isCutOr bigValue (sums out) rest
  | _ => some []

/-! ### Long headers -/

/-- What follows a text that ends with a zero; none if it breaks off. -/
def afterText? (bytes : List UInt8) : Option (List UInt8) :=
  match bytes.dropWhile (· != 0) with
  | [] => none
  | _ :: rest => some rest

/-- What follows a number of bytes that is given in two bytes before them; none if it breaks off. -/
def afterCounted? (bytes : List UInt8) : Option (List UInt8) :=
  let count := littleValue (bytes.take 2)
  if bytes.length < 2 + count then none else some (bytes.drop (2 + count))

/-- What follows the parts of a long header that its flags announce; none if they break off. -/
def afterParts? (flags : Nat) (bytes : List UInt8) : Option (List UInt8) := do
  let bytes ← if flags / 4 % 2 = 1 then (if bytes.length < 2 then none else afterCounted? bytes)
    else some bytes
  let bytes ← if flags / 8 % 2 = 1 then afterText? bytes else some bytes
  if flags / 16 % 2 = 1 then afterText? bytes else some bytes

/-- Whether the number at the end of a header, if the flags announce one, is that of the header. -/
def isHeaderChecked (flags : Nat) (header rest : List UInt8) : Bool :=
  flags / 2 % 2 = 0 || rest.length < 2 ||
    littleValue (rest.take 2) == remainder header.toArray % 0x10000

/-- What follows the number at the end of a header; none if it breaks off. -/
def afterCheck? (flags : Nat) (rest : List UInt8) : Option (List UInt8) :=
  if flags / 2 % 2 = 0 then some rest else if rest.length < 2 then none else some (rest.drop 2)

/-- Opens an envelope with a header of ten bytes or more and a remainder and a length at its end;
none if it is broken. -/
def openLong? (bytes : List UInt8) : Option (List UInt8) :=
  match bytes with
  | first :: second :: rest =>
    if first ≠ 0x1F || second ≠ 0x8B then none
    else
      match rest with
      | method :: flags :: more =>
        if method ≠ 8 || 32 ≤ flags.toNat then none
        else
          match if more.length < 6 then none else afterParts? flags.toNat (more.drop 6) with
          | none => some []
          | some after =>
            let header := bytes.take (bytes.length - after.length)
            if !isHeaderChecked flags.toNat header after then none
            else
              match afterCheck? flags.toNat after with
              | none => some []
              | some data => (inflate data).checked? fun out rest =>
                isCutOr littleValue (remainder out) rest &&
                  isCutOr littleValue (out.size % 0x100000000) (rest.drop 4)
      | _ => some []
  | _ => some []

/-- The bytes of data without envelope; none if it is broken. -/
def openPlain? (bytes : List UInt8) : Option (List UInt8) :=
  (inflate bytes).checked? fun _ _ => true

end AgentBundles.Compression
