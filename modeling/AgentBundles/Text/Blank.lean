/-!
# Blank characters

The characters that count as white space, the texts left after taking them off either end, and the
removal of single characters from an end.  `strip` works on lists of characters; `trim` is `strip`
on strings.
-/

namespace AgentBundles.Text

/-- Membership of a code point in a list of closed ranges. -/
def inRanges (n : Nat) (ranges : List (Nat × Nat)) : Bool :=
  ranges.any fun r => r.1 ≤ n && n ≤ r.2

/-- The blank code points: the separators of Unicode (Zs, Zl, Zp) and the characters whose
bidirectional class is a separator or white space. -/
def blankRanges : List (Nat × Nat) :=
  [(0x09, 0x0D), (0x1C, 0x20), (0x85, 0x85), (0xA0, 0xA0), (0x1680, 0x1680), (0x2000, 0x200A),
   (0x2028, 0x2029), (0x202F, 0x202F), (0x205F, 0x205F), (0x3000, 0x3000)]

/-- Whether a character is blank. -/
def isBlank (c : Char) : Bool :=
  inRanges c.toNat blankRanges

/-- Whether a character is white space: blank, but not one of the four separators of the ASCII
control characters. -/
def isWhiteSpace (c : Char) : Bool :=
  isBlank c && !(0x1C ≤ c.toNat && c.toNat ≤ 0x1F)

/-- The characters from the first one on that `p` refuses, to the last one that `p` refuses. -/
def stripBy (p : Char → Bool) (cs : List Char) : List Char :=
  ((cs.dropWhile p).reverse.dropWhile p).reverse

/-- The characters without the ones that `p` accepts at the end. -/
def stripEndBy (p : Char → Bool) (cs : List Char) : List Char :=
  (cs.reverse.dropWhile p).reverse

/-- The characters without blank ones at either end. -/
def strip (cs : List Char) : List Char :=
  stripBy isBlank cs

/-- The text without blank characters at either end. -/
def trim (s : String) : String :=
  String.ofList (strip s.toList)

/-- The text without blank characters at its end. -/
def trimEnd (s : String) : String :=
  String.ofList (stripEndBy isBlank s.toList)

/-- Whether every character of the text is blank. -/
def allBlank (s : String) : Bool :=
  s.toList.all isBlank

/-- The text without the slashes at its end. -/
def trimSlashes (s : String) : String :=
  String.ofList (stripEndBy (· == '/') s.toList)

end AgentBundles.Text
