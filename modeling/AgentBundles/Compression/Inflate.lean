/-!
# Inflating

Compressed data is a row of blocks. A block holds bytes as they are, or symbols of two prefix codes:
bytes, the end of the block, and lengths, each followed by the distance to bytes that came before
and are repeated. The codes are fixed, or come at the start of the block. Data that breaks off gives
the bytes up to there.
-/

namespace AgentBundles.Compression

/-!
### Prefix codes

A prefix code gives each symbol a row of bits, none of which begins another. It is given by the
lengths of the rows alone: shorter rows come first, and rows of one length are in the order of their
symbols. As a tree, every bit leads to one of two branches and every symbol is a leaf.
-/

/-- A prefix code. -/
inductive PrefixTree where
  /-- No row goes on here. -/
  | nothing
  | symbol (n : Nat)
  | branch (zero one : PrefixTree)
  deriving DecidableEq, Repr

/-- What comes of reading a symbol. -/
inductive SymbolRead where
  | found (n : Nat) (rest : List Bool)
  /-- The bits break off. -/
  | cut
  /-- The bits begin no row. -/
  | none
  deriving DecidableEq, Repr

namespace PrefixTree

/-- The symbol at the start of bits. -/
def read : PrefixTree → List Bool → SymbolRead
  | .nothing, _ => .none
  | .symbol n, bits => .found n bits
  | .branch _ _, [] => .cut
  | .branch zero one, bit :: bits => if bit then one.read bits else zero.read bits

/-- The symbols with rows of a length. -/
def symbolsOf (lengths : List Nat) (length : Nat) : List Nat :=
  (lengths.zipIdx.filter fun e => e.1 == length).map (·.2)

/-- Pairs of trees as branches; one that is left over gets an empty one beside it. -/
def pairUp : List PrefixTree → List PrefixTree
  | [] => []
  | [t] => [.branch t .nothing]
  | s :: t :: rest => .branch s t :: pairUp rest

/-- The trees below all rows of some length, for the symbols with longer rows: those of the length,
and then pairs of the trees one bit further down. -/
def level (lengths : List Nat) : Nat → Nat → List PrefixTree
  | 0, _ => []
  | depth + 1, length =>
    (symbolsOf lengths length).map .symbol ++ pairUp (level lengths depth (length + 1))

/-- The longest row of any code. -/
def longest : Nat := 15

/-- The tree of a code. -/
def ofLengths (lengths : List Nat) : PrefixTree :=
  match pairUp (level lengths longest 1) with
  | t :: _ => t
  | [] => .branch .nothing .nothing

/-- The part of all rows of the longest length that the rows of a code begin. -/
def share (lengths : List Nat) : Nat :=
  lengths.foldl (fun sum l => if l = 0 then sum else sum + 1 <<< (longest - l)) 0

/-- Whether rows of some lengths make a code in which every row of bits begins with one of them. -/
def isComplete (lengths : List Nat) : Bool := share lengths == 1 <<< longest

/-- Whether there is no row. -/
def isEmpty (lengths : List Nat) : Bool := lengths.all (· == 0)

/-- Whether there is just one row, of one bit. -/
def isSingle (lengths : List Nat) : Bool := share lengths == 1 <<< (longest - 1) &&
    lengths.all (· ≤ 1)

end PrefixTree

/-! ### Inflated data -/

/-- What comes of inflating data, or a part of it. -/
inductive Inflated where
  /-- The data is not what it should be. -/
  | broken
  /-- The data breaks off. -/
  | cut (out : Array UInt8)
  /-- All of it, and what follows. -/
  | whole (out : Array UInt8) (rest : List Bool)
  deriving DecidableEq, Repr

/-! ### Bits -/

/-- The bits of a byte, the lowest one first. -/
def bitsOf (b : UInt8) : List Bool := (List.range 8).map fun i => (b.toNat >>> i) % 2 == 1

/-- The number that bits are, the lowest one first. -/
def valueOf (bits : List Bool) : Nat := bits.foldr (fun bit n => 2 * n + if bit then 1 else 0) 0

/-- The number of the first `n` bits, and the rest. -/
def take? (n : Nat) (bits : List Bool) : Option (Nat × List Bool) :=
  let first := bits.take n
  if first.length = n then some (valueOf first, bits.drop n) else none

/-- The bits from the next byte on. -/
def align (bits : List Bool) : List Bool := bits.drop (bits.length % 8)

/-- The bytes that bits are, from the first one on. -/
def bytesOf : List Bool → List UInt8
  | a :: b :: c :: d :: e :: f :: g :: h :: rest => UInt8.ofNat
      (valueOf [a, b, c, d, e, f, g, h]) :: bytesOf rest
  | _ => []

/-! ### Symbols -/

/-- The end of a block, among the symbols of bytes and lengths. -/
def endSymbol : Nat := 256

/-- The smallest length of a symbol from 257 on, and the count of bits that are added to it. -/
def lengthsOf : List (Nat × Nat) :=
  [(3, 0), (4, 0), (5, 0), (6, 0), (7, 0), (8, 0), (9, 0), (10, 0), (11, 1), (13, 1), (15, 1),
   (17, 1), (19, 2), (23, 2), (27, 2), (31, 2), (35, 3), (43, 3), (51, 3), (59, 3), (67, 4),
   (83, 4), (99, 4), (115, 4), (131, 5), (163, 5), (195, 5), (227, 5), (258, 0)]

/-- The smallest distance of a symbol, and the count of bits that are added to it. -/
def distancesOf : List (Nat × Nat) :=
  [(1, 0), (2, 0), (3, 0), (4, 0), (5, 1), (7, 1), (9, 2), (13, 2), (17, 3), (25, 3), (33, 4),
   (49, 4), (65, 5), (97, 5), (129, 6), (193, 6), (257, 7), (385, 7), (513, 8), (769, 8), (1025, 9),
   (1537, 9), (2049, 10), (3073, 10), (4097, 11), (6145, 11), (8193, 12), (12289, 12), (16385, 13),
   (24577, 13)]

/-- Repeats the byte at a distance before the end, `n` times. -/
def repeatBytes (distance : Nat) : Nat → Array UInt8 → Array UInt8
  | 0, out => out
  | n + 1, out => repeatBytes distance n (out.push (out.getD (out.size - distance) 0))

/-- Inflates the symbols of a block; every one takes at least one of the bits, of which there are no
more than `fuel`. -/
def symbols (bytes distances : PrefixTree) : Nat → Array UInt8 → List Bool → Inflated
  | 0, out, _ => .cut out
  | fuel + 1, out, bits =>
    match bytes.read bits with
    | .none => .broken
    | .cut => .cut out
    | .found n rest =>
      if n < endSymbol then symbols bytes distances fuel (out.push (UInt8.ofNat n)) rest
      else if n = endSymbol then .whole out rest
      else
        match lengthsOf[n - 257]? with
        | none => .broken
        | some (least, extra) =>
          match take? extra rest with
          | none => .cut out
          | some (more, rest) =>
            let length := least + more
            match distances.read rest with
            | .none => .broken
            | .cut => .cut out
            | .found n rest =>
              match distancesOf[n]? with
              | none => .broken
              | some (least, extra) =>
                match take? extra rest with
                | none => .cut out
                | some (more, rest) =>
                  let distance := least + more
                  if out.size < distance then .broken
                  else symbols bytes distances fuel (repeatBytes distance length out) rest

/-! ### Codes -/

/-- The lengths of the fixed code of bytes and lengths. -/
def fixedLengths : List Nat :=
  List.replicate 144 8 ++ List.replicate 112 9 ++ List.replicate 24 7 ++ List.replicate 8 8

/-- The fixed code of bytes and lengths. -/
def fixedBytes : PrefixTree := .ofLengths fixedLengths

/-- The fixed code of distances. -/
def fixedDistances : PrefixTree := .ofLengths (List.replicate 32 5)

/-- The order in which the lengths of the code of lengths come. -/
def lengthOrder : List Nat := [16, 17, 18, 0, 8, 7, 9, 6, 10, 5, 11, 4, 12, 3, 13, 2, 14, 1, 15]

/-- What comes of reading something that a block begins with. -/
inductive PartRead (α : Type) where
  | found (a : α) (rest : List Bool)
  | cut
  | broken
  deriving Repr

/-- Numbers of three bits. -/
def triples : Nat → List Bool → Option (List Nat × List Bool)
  | 0, bits => some ([], bits)
  | n + 1, bits => do
    let (first, rest) ← take? 3 bits
    let (others, rest) ← triples n rest
    return (first :: others, rest)

/-- The code of lengths that some of its lengths give; the others are zero. A code without rows
reads every bit as the length zero. -/
def codeOfLengths? (given : List Nat) : Option PrefixTree :=
  let lengths := (List.range 19).map fun s => ((lengthOrder.zip given).lookup s).getD 0
  if PrefixTree.isEmpty lengths then some (.branch (.symbol 0) (.symbol 0))
  else if PrefixTree.isComplete lengths then some (.ofLengths lengths)
  else none

/-- Reads `count` lengths after those that came before, of which the last one comes first. A symbol
is a length, or stands for the last length or zero several times. -/
def lengths (code : PrefixTree) (count : Nat) : Nat → List Nat → List Bool → PartRead (List Nat)
  | 0, _, _ => .cut
  | fuel + 1, before, bits =>
    if before.length = count then .found before.reverse bits
    else
      match code.read bits with
      | .none => .broken
      | .cut => .cut
      | .found n rest =>
        if n < 16 then lengths code count fuel (n :: before) rest
        else
          match take? (if n = 16 then 2 else if n = 17 then 3 else 7) rest with
          | none => .cut
          | some (more, rest) =>
            let times := more + if n = 18 then 11 else 3
            match if n = 16 then before.head? else some 0 with
            | none => .broken
            | some length =>
              if count < before.length + times then .broken
              else lengths code count fuel (List.replicate times length ++ before) rest

/-- The code of some lengths, which may leave rows unused only if it has at most one. -/
def code? (lengths : List Nat) : Option PrefixTree :=
  if PrefixTree.isComplete lengths || PrefixTree.isEmpty lengths || PrefixTree.isSingle lengths then
    some (.ofLengths lengths)
  else
    none

/-- The codes at the start of a block. -/
def codes (bits : List Bool) : PartRead (PrefixTree × PrefixTree) :=
  match take? 14 bits with
  | none => .cut
  | some (counts, rest) =>
    let byteCount := counts % 32 + 257
    let distanceCount := counts / 32 % 32 + 1
    if 286 < byteCount || 30 < distanceCount then .broken
    else
      match triples (counts / 1024 + 4) rest with
      | none => .cut
      | some (given, rest) =>
        match codeOfLengths? given with
        | none => .broken
        | some code =>
          match lengths code (byteCount + distanceCount) (rest.length + 1) [] rest with
          | .cut => .cut
          | .broken => .broken
          | .found all rest =>
            if all.getD endSymbol 0 = 0 then .broken
            else
              match code? (all.take byteCount), code? (all.drop byteCount) with
              | some bytes, some distances => .found (bytes, distances) rest
              | _, _ => .broken

/-! ### Blocks -/

/-- A block of bytes as they are: their count, the count with all bits turned, and the bytes. -/
def plain (out : Array UInt8) (bits : List Bool) : Inflated :=
  match take? 32 (align bits) with
  | none => .cut out
  | some (counts, rest) =>
    let count := counts % 0x10000
    if counts / 0x10000 ≠ 0xFFFF - count then .broken
    else
      let bytes := bytesOf (rest.take (8 * count))
      let out := out ++ bytes
      if bytes.length = count then .whole out (rest.drop (8 * count)) else .cut out

/-- A block of a kind. -/
def block (kind : Nat) (out : Array UInt8) (bits : List Bool) : Inflated :=
  match kind with
  | 0 => plain out bits
  | 1 => symbols fixedBytes fixedDistances (bits.length + 1) out bits
  | 2 =>
    match codes bits with
    | .cut => .cut out
    | .broken => .broken
    | .found (bytes, distances) rest => symbols bytes distances (rest.length + 1) out rest
  | _ => .broken

/-- Inflates blocks up to the last one; every one takes at least three of the bits, of which there
are no more than `fuel`. -/
def blocks : Nat → Array UInt8 → List Bool → Inflated
  | 0, out, _ => .cut out
  | fuel + 1, out, bits =>
    match take? 3 bits with
    | none => .cut out
    | some (start, rest) =>
      match block (start / 2) out rest with
      | .whole out rest => if start % 2 = 1 then .whole out rest else blocks fuel out rest
      | other => other

/-- Inflates data. -/
def inflate (bytes : List UInt8) : Inflated :=
  let bits := bytes.flatMap bitsOf
  blocks (bits.length + 1) #[] bits

end AgentBundles.Compression
