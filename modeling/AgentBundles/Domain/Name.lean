import AgentBundles.Domain.Label
import AgentBundles.Text.Split

/-!
# Names of domains

Domain names in ASCII and in all letters. A label with characters beyond ASCII stands in ASCII as
`xn--` and the ASCII letters that stand for it: its ASCII characters, a hyphen if there are any, and
letters and digits that say in ascending order which other characters stand where. Every number is
written in digits of base 36, the lowest one first, and ends with the first digit below a threshold.
-/

namespace AgentBundles.Domain

/-! ### Labels in ASCII letters -/

namespace Punycode

/-! ### Thresholds -/

/-- The threshold of a digit at a place, the first place being zero. -/
def threshold (place bias : Nat) : Nat :=
  let t := 36 * (place + 1) - bias
  if t < 1 then 1 else if 26 < t then 26 else t

/-- The threshold lies between 1 and 26. -/
theorem threshold_bounds (place bias : Nat) : 1 ≤ threshold place bias ∧
    threshold place bias ≤ 26 := by
  unfold threshold
  dsimp only
  split
  · omega
  · split <;> omega

/-- The bias for a distance that has been made small enough, and the count of places that were taken
off. -/
def biasOf (delta places : Nat) : Nat :=
  if 455 < delta then biasOf (delta / 35) (places + 36) else places + 36 * delta / (delta + 38)
termination_by delta
decreasing_by exact Nat.div_lt_self (by omega) (by omega)

/-- The bias after a distance, where a label has grown to `length` characters. -/
def adapt (delta : Nat) (isFirst : Bool) (length : Nat) : Nat :=
  let delta := if isFirst then delta / 700 else delta / 2
  biasOf (delta + delta / length) 0

/-- The bias before the first distance. -/
def firstBias : Nat := 72

/-! ### Writing -/

/-- The letter or digit of a value below 36. -/
def digitChar (v : Nat) : Char :=
  if v < 26 then Char.ofNat (0x61 + v) else Char.ofNat (0x16 + v)

/-- The digits of a number, from a place on. -/
def digits (bias place n : Nat) : List Char :=
  let t := threshold place bias
  if n < t then [digitChar n]
  else digitChar (t + (n - t) % (36 - t)) :: digits bias (place + 1) ((n - t) / (36 - t))
termination_by n
decreasing_by
  obtain ⟨h₁, _⟩ := threshold_bounds place bias
  exact Nat.lt_of_le_of_lt (Nat.div_le_self _ _) (by omega)

/-- What has been written: the digits, the distance to the next character, the bias, and the count
of characters that stand already. -/
structure Writing where
  text : List Char
  delta : Nat
  bias : Nat
  count : Nat
  deriving DecidableEq, Repr

/-- Goes over a character of the label while the characters `n` are written; `basic` is the count of
ASCII characters. -/
def Writing.pass (basic n : Nat) (w : Writing) (c : Char) : Writing :=
  if c.toNat < n then { w with delta := w.delta + 1 }
  else if c.toNat = n then
    ⟨w.text ++ digits w.bias 0 w.delta, 0, adapt w.delta (w.count == basic) (w.count + 1),
      w.count + 1⟩
  else w

/-- Writes where the characters `n` stand, after those up to `last`. -/
def Writing.level (label : List Char) (basic : Nat) (w : Writing × Nat) (n : Nat) : Writing × Nat :=
  let before := { w.1 with delta := w.1.delta + (n - w.2) * (w.1.count + 1) }
  let after := label.foldl (pass basic n) before
  ({ after with delta := after.delta + 1 }, n + 1)

/-- A label in ASCII letters. -/
def encode (label : List Char) : List Char :=
  let basic := label.filter fun c => c.toNat < 0x80
  let others := Text.distinct (((label.filter fun c => 0x80 ≤ c.toNat).map Char.toNat).mergeSort)
  let start : Writing := ⟨[], 0, firstBias, basic.length⟩
  let w := (others.foldl (Writing.level label basic.length) (start, 0x80)).1
  basic ++ (if basic.isEmpty then [] else ['-']) ++ w.text

/-! ### Reading -/

/-- The value of a lower case letter or a digit. -/
def value? (c : Char) : Option Nat :=
  if 'a' ≤ c && c ≤ 'z' then some (c.toNat - 0x61)
  else if '0' ≤ c && c ≤ '9' then some (c.toNat - 0x16)
  else none

/-- The number at the start of a text, and what follows it. -/
def number? (bias place weight sum : Nat) : List Char → Option (Nat × List Char)
  | [] => none
  | c :: cs => do
    let v ← value? c
    let sum := sum + v * weight
    let t := threshold place bias
    if v < t then return (sum, cs) else number? bias (place + 1) (weight * (36 - t)) sum cs

/-- Reading a number takes characters off the text. -/
theorem length_lt_of_number? {bias place weight sum : Nat} {cs : List Char} {r : Nat × List Char}
    (h : number? bias place weight sum cs = some r) : r.2.length < cs.length := by
  induction cs generalizing place weight sum with
  | nil => simp [number?] at h
  | cons c cs ih =>
    rw [number?] at h
    cases hv : value? c with
    | none => simp [hv] at h
    | some v =>
      simp only [hv, Option.bind_eq_bind, Option.bind_some] at h
      split at h
      · cases h
        simp
      · exact Nat.lt_trans (ih h) (by simp)

/-- Puts characters into a label: `n` is the last one that was put in, `place` the one after it. -/
def insertAll (bias n place : Nat) (isFirst : Bool) (label cs : List Char) : Option (List Char) :=
  if _h : cs = [] then
    some label
  else
    match h : number? bias 0 1 0 cs with
    | none => none
    | some r =>
      let length := label.length + 1
      let sum := place + r.1
      let n := n + sum / length
      let place := sum % length
      if n.isValidChar then
        insertAll (adapt r.1 isFirst length) n (place + 1) false
          (label.insertIdx place (Char.ofNat n)) r.2
      else
        none
termination_by cs.length
decreasing_by exact length_lt_of_number? h

/-- The label that ASCII letters stand for, if they stand for one. -/
def decode (cs : List Char) : Option (List Char) :=
  let after := (cs.reverse.takeWhile (· != '-')).reverse
  let basic := cs.take (cs.length - after.length - 1)
  insertAll firstBias 0x80 0 true basic after

end Punycode

/-! ### Domain names -/

/-- The sign of a label in ASCII letters. -/
def sign : List Char := ['x', 'n', '-', '-']

/-- The most characters that a label has. -/
def longestLabel : Nat := 63

/-- Whether a character ends a label. -/
def isDot (c : Char) : Bool := c == '.' || c.toNat = 0x3002 || c.toNat = 0xFF0E || c.toNat = 0xFF61

/-- The label that ASCII characters are or stand for. -/
def readLabel (label : List Char) : Except Fault (List Char) := do
  let label := label.map Char.toLower
  if sign.isPrefixOf label then
    let letters := label.drop sign.length
    if letters.isEmpty then
      throw .noLetters
    if letters.getLast? == some '-' then
      throw .hyphenAfterLetters
    let some label := Punycode.decode letters | throw .letters
    checkLabel label
    return label
  else
    checkLabel label
    return label

/-- A label in ASCII. -/
def writeLabel (label : List Char) : Except Fault (List Char) := do
  let ascii ←
    if label.all fun c => c.toNat < 0x80 then (readLabel label).map fun _ => label
    else (checkLabel label).map fun _ => sign ++ Punycode.encode label
  if longestLabel < ascii.length then
    throw .labelTooLong
  return ascii

/-- The labels of a domain name, and whether a dot stands at its end. -/
def labels (cs : List Char) : Except Fault (List (List Char) × Bool) :=
  if longestDomain < cs.length then .error .domainTooLong
  else
    let labels := Text.fields '.' (cs.map fun c => if isDot c then '.' else c)
    if labels == [[]] then .error .nothing
    else if labels.getLast? == some [] then .ok (labels.dropLast, true)
    else .ok (labels, false)

/-- Labels with dots between them, and one at the end if asked for. -/
def joinLabels (labels : List (List Char)) (hasDot : Bool) : List Char :=
  List.intercalate ['.'] (if hasDot then labels ++ [[]] else labels)

/-- A domain name in ASCII. -/
def toAscii (cs : List Char) : Except Fault (List Char) := do
  let (labels, hasDot) ← labels cs
  let ascii := joinLabels (← labels.mapM writeLabel) hasDot
  if (if hasDot then longestDomain else longestDomain - 1) < ascii.length then
    throw .domainTooLong
  return ascii

/-- The domain name in all letters that ASCII characters stand for. -/
def ofAscii (cs : List Char) : Except Fault (List Char) := do
  let (labels, hasDot) ← labels cs
  return joinLabels (← labels.mapM readLabel) hasDot

end AgentBundles.Domain
