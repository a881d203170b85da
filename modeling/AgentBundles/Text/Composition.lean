import AgentBundles.Text.Blank
import AgentBundles.Text.CombiningRanges
import AgentBundles.Text.CompositionPairs

/-!
# Composed texts

A text is composed when every character that has a composed form stands in it, and the marks of each
letter are in the order of their combining classes. Whether it is so is found by taking the text
apart, ordering the marks, and putting it together again.
-/

namespace AgentBundles.Text

/-- The combining class of a character. -/
def combiningClass (n : Nat) : Nat :=
  match combiningRanges.find? fun r => r.1 ≤ n && n ≤ r.2.1 with
  | some r => r.2.2
  | none => 0

/-- Whether a character is a mark. -/
def isMark (n : Nat) : Bool := inRanges n markRanges

/-! ### Syllables of Hangul -/

/-- The first syllable. -/
def firstSyllable : Nat := 0xAC00

/-- The letters that a syllable is composed of. -/
def lettersOf (n : Nat) : List Nat :=
  let index := n - firstSyllable
  let letters := [0x1100 + index / 588, 0x1161 + index % 588 / 28]
  if index % 28 = 0 then letters else letters ++ [0x11A7 + index % 28]

/-- Whether a character is a syllable. -/
def isSyllable (n : Nat) : Bool := firstSyllable ≤ n && n < firstSyllable + 11172

/-- The syllable of a syllable or first letter, and another letter. -/
def syllable? (a b : Nat) : Option Nat :=
  if 0x1100 ≤ a && a < 0x1113 && 0x1161 ≤ b && b < 0x1176 then
    some (firstSyllable + ((a - 0x1100) * 21 + (b - 0x1161)) * 28)
  else if isSyllable a && (a - firstSyllable) % 28 == 0 && 0x11A7 < b && b < 0x11C3 then
    some (a + (b - 0x11A7))
  else
    none

/-! ### Taking apart and putting together -/

/-- The characters that a character is composed of; `depth` bounds how often parts are composed
themselves. -/
def decompose : Nat → Nat → List Nat
  | 0, n => [n]
  | depth + 1, n =>
    if isSyllable n then lettersOf n
    else
      match compositionPairs.find? fun p => p.1 == n with
      | some p => decompose depth p.2.1 ++ decompose depth p.2.2
      | none => [n]

/-- The depth to which characters are composed of composed ones. -/
def compositionDepth : Nat := 4

/-- Puts a character after those of which the last one comes first, before the marks of a higher
class. -/
def insertMark (n : Nat) : List Nat → List Nat
  | [] => [n]
  | m :: ms =>
    if combiningClass n ≠ 0 && combiningClass n < combiningClass m then m :: insertMark n ms
      else n :: m :: ms

/-- The characters with the marks of each letter in order. -/
def orderMarks (ns : List Nat) : List Nat :=
  (ns.foldl (fun done n => insertMark n done) []).reverse

/-- The character that two characters compose. -/
def compose? (a b : Nat) : Option Nat :=
  (syllable? a b).or ((compositionPairs.find? fun p => p.2.1 == a && p.2.2 == b).map (·.1))

/-- What has been put together: what is complete, the last one first, the letter that marks may
still be composed with, and the marks after it, the last one first. -/
structure Composing where
  done : List Nat
  letter : Option Nat
  marks : List Nat
  deriving DecidableEq, Repr

/-- The characters of what has been put together. -/
def Composing.toList (s : Composing) : List Nat :=
  s.done.reverse ++ s.letter.toList ++ s.marks.reverse

/-- Whether marks keep a character of a class from the letter before them. -/
def isBlocked (marks : List Nat) (rank : Nat) : Bool :=
  match marks with
  | [] => false
  | m :: _ => rank ≤ combiningClass m

/-- Takes one more character. -/
def Composing.add (s : Composing) (n : Nat) : Composing :=
  let composed? := match s.letter with
    | some letter => if isBlocked s.marks (combiningClass n) then none else compose? letter n
    | none => none
  match composed? with
  | some c => { s with letter := some c }
  | none =>
    if combiningClass n = 0 then ⟨s.toList.reverse, some n, []⟩
      else { s with marks := n :: s.marks }

/-- The characters composed as far as they can be. -/
def composeAll (ns : List Nat) : List Nat :=
  (ns.foldl Composing.add ⟨[], none, []⟩).toList

/-- Whether a text is composed. -/
def isComposed (cs : List Char) : Bool :=
  let ns := cs.map Char.toNat
  ns.all (fun n => !inRanges n replacedRanges) &&
    composeAll (orderMarks (ns.flatMap (decompose compositionDepth))) == ns

end AgentBundles.Text
