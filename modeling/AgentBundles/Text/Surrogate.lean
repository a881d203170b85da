/-!
# Surrogates

An escape can have the number of a surrogate, which is no character. In a text the character whose
number is greater by `surrogateShift` stands for it; no character is assigned to any of these
numbers, and they mean nothing else here.
-/

namespace AgentBundles.Text

/-- Whether a number is that of a surrogate. -/
def isSurrogate (n : Nat) : Bool := 0xD800 ≤ n && n ≤ 0xDFFF

/-- What the number of a surrogate lacks to that of the character that stands for it. -/
def surrogateShift : Nat := 0xD2000

/-- Whether a character stands for a surrogate. -/
def isLone (c : Char) : Bool := isSurrogate (c.toNat - surrogateShift)

/-- The number of a character, or of the surrogate that it stands for. -/
def numberOf (c : Char) : Nat := if isLone c then c.toNat - surrogateShift else c.toNat

/-- The character with a number, or the one that stands for the surrogate with it. -/
def charOfNumber (n : Nat) : Char := Char.ofNat (if isSurrogate n then n + surrogateShift else n)

theorem isSurrogate_toNat (c : Char) :
  isSurrogate c.toNat = false
  := by
  have hvalid : c.toNat < 0xD800 ∨ 0xDFFF < c.toNat ∧ c.toNat < 0x110000 := c.valid
  rw [isSurrogate, Bool.and_eq_false_iff, decide_eq_false_iff_not, decide_eq_false_iff_not]
  omega

theorem isLone_eq_true_iff {c : Char} :
  isLone c = true ↔ 0xDF800 ≤ c.toNat ∧ c.toNat ≤ 0xDFFFF
  := by
  rw [isLone, isSurrogate, surrogateShift, Bool.and_eq_true, decide_eq_true_eq, decide_eq_true_eq]
  omega

/-- The number of a character is read as the character. -/
theorem charOfNumber_numberOf (c : Char) :
  charOfNumber (numberOf c) = c
  := by
  rw [charOfNumber, numberOf]
  cases hlone : isLone c with
  | true =>
      have hle := isLone_eq_true_iff.mp hlone
      have hsum : c.toNat - surrogateShift + surrogateShift = c.toNat := by
        rw [surrogateShift]
        omega
      rw [isLone] at hlone
      rw [if_pos rfl, if_pos hlone, hsum, Char.ofNat_toNat]
  | false =>
      rw [if_neg Bool.false_ne_true, isSurrogate_toNat, if_neg Bool.false_ne_true, Char.ofNat_toNat]

theorem numberOf_le (c : Char) :
  numberOf c ≤ c.toNat
  := by
  rw [numberOf]
  split
  · apply Nat.sub_le
  · apply Nat.le_refl

end AgentBundles.Text
