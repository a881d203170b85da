import AgentBundles.Number.Layout
import AgentBundles.Proofs.Number.Digits

/-!
# The text of numbers

The shortest decimal of a positive number has a digit besides zero, unless it has no zeros to add at
its end. The text of a number without its sign has a whole part, and maybe a fraction and an
exponent.
-/

namespace AgentBundles

open Binary64 (decimalLength)

/-! ### Leading powers -/

theorem powerOfTen_pos (k : Nat) :
  0 < powerOfTen k
  := by
  apply Nat.pow_pos (by decide)

theorem powerOfTwo_pos (k : Nat) :
  0 < powerOfTwo k
  := by
  apply Nat.pow_pos (by decide)

/-- A positive number is at least the power of ten of its leading digit. -/
theorem powerOfTen_le_of_lt_decimalLength {n k : Nat} (hn : 0 < n) (hk : k < decimalLength n) :
  powerOfTen k ≤ n
  := by
  cases k with
  | zero => apply hn
  | succ k =>
      have hlength :=
        mt (Nat.length_toDigits_le_iff (b := 10) (n := n) (by decide) (Nat.succ_pos k)).mpr
        (Nat.not_le_of_lt hk)
      apply Nat.le_of_not_lt hlength

namespace Decimal

/-- On a grid no coarser than the leading digit, a number of at least one lies above the first
mesh. -/
theorem quotient_pos {m : Nat} {e k : Int} (hm : 0 < m) (hk : 0 ≤ k) (hle : k ≤ leadingPower m e) :
  0 < (quotientBy m e k).1 / (quotientBy m e k).2
  := by
  have hten := powerOfTen_pos k.toNat
  by_cases he : 0 ≤ e
  · have hpos : 0 < m * powerOfTwo e.toNat := Nat.mul_pos hm (powerOfTwo_pos _)
    simp only [leadingPower, if_pos he] at hle
    simp only [quotientBy, if_pos he, if_pos hk, Nat.one_mul]
    apply Nat.div_pos _ hten
    apply powerOfTen_le_of_lt_decimalLength hpos
    omega
  · have htwo := powerOfTwo_pos (-e).toNat
    simp only [leadingPower, if_neg he] at hle
    by_cases hwhole : 0 < m / powerOfTwo (-e).toNat
    · simp only [if_pos hwhole] at hle
      simp only [quotientBy, if_neg he, if_pos hk]
      rw [← Nat.div_div_eq_div_mul]
      apply Nat.div_pos _ hten
      apply powerOfTen_le_of_lt_decimalLength hwhole
      omega
    · -- Below one, the leading power is negative.
      exfalso
      have hlt : m < powerOfTwo (-e).toNat := by
        apply Nat.lt_of_not_le
        intro h
        apply hwhole (Nat.div_pos h htwo)
      simp only [if_neg hwhole] at hle
      generalize hguess : (Nat.log2 (powerOfTwo (-e).toNat / m) * 30103 / 100000 : Nat)
        = guess at hle
      have hneg : ¬ (0 : Int) ≤ -(guess : Int) - 2 := by omega
      simp only [quotientBy, if_neg he, if_neg hneg] at hle
      have hfactor : (-(-(guess : Int) - 2)).toNat = guess + 2 := by omega
      rw [hfactor] at hle
      have hquotient : m * powerOfTen (guess + 2) / powerOfTwo (-e).toNat < powerOfTen
          (guess + 2) := by
        rw [Nat.div_lt_iff_lt_mul htwo, Nat.mul_comm (powerOfTen _)]
        apply Nat.mul_lt_mul_of_pos_right hlt (powerOfTen_pos _)
      have hlength : decimalLength _ ≤ guess + 2 :=
        length_decimalDigits_le (Nat.succ_pos _) hquotient
      omega

/-! ### Digits -/

/-- What reads back as a positive number is positive. -/
theorem digits_pos_of_readsAs {d : Decimal} {m : Nat} {e : Int} (hm : 0 < m)
    (h : d.readsAs m e = true) :
  0 < d.digits
  := by
  rw [Nat.pos_iff_ne_zero]
  intro hzero
  rw [readsAs, hzero] at h
  have heq := eq_of_beq h
  simp only [Binary64.ofDecimal, if_true] at heq
  injection heq with _ heq _
  omega

/-- The decimals next to a number on a grid are not below it by a mesh. -/
theorem exists_cons_neighbours (m : Nat) (e k : Int) :
  ∃ d ds, neighbours m e k = d :: ds ∧ d.exponent = k ∧
    (quotientBy m e k).1 / (quotientBy m e k).2 ≤ d.digits
  := by
  cases hquotient : quotientBy m e k with
  | mk n d =>
      simp only [neighbours, hquotient]
      split
      · exact ⟨_, _, rfl, rfl, Nat.le_refl _⟩
      · exact ⟨_, _, rfl, rfl, Nat.le_succ _⟩

/-- What the search gives is positive, or has no zeros to add at its end. -/
theorem search_pos_or {m : Nat} {e top : Int} {fuel count : Nat} (hm : 0 < m)
    (htop : top = leadingPower m e) :
  0 < (search m e top fuel count).digits ∨ (search m e top fuel count).exponent ≤ 0
  := by
  induction fuel generalizing count with
  | zero =>
      obtain ⟨d, ds, heq, hexponent, hdigits⟩ := exists_cons_neighbours m e (top - (count : Nat))
      simp only [search, heq, List.head?_cons, Option.getD_some, hexponent]
      by_cases hpos : top - count ≤ 0
      · apply Or.inr hpos
      · have hquotient := quotient_pos (k := top - (count : Nat)) (e := e) hm (by omega) (by omega)
        apply Or.inl (Nat.lt_of_lt_of_le hquotient hdigits)
  | succ fuel ih =>
      rw [search]
      cases hfind : (neighbours m e (top - count)).find? (·.readsAs m e) with
      | none => apply ih
      | some d =>
          have hreads : d.readsAs m e = true :=
            List.find?_some (p := fun d : Decimal => d.readsAs m e) hfind
          apply Or.inl (digits_pos_of_readsAs hm hreads)

/-- Dropping zeros at the end keeps a decimal positive, and does not touch zero. -/
theorem normalise_pos_or {d : Decimal} {fuel : Nat} (h : 0 < d.digits ∨ d.exponent ≤ 0) :
  0 < (normalise fuel d).digits ∨ (normalise fuel d).exponent ≤ 0
  := by
  induction fuel generalizing d with
  | zero => apply h
  | succ fuel ih =>
      rw [normalise]
      split
      · rename_i hzeros
        apply ih (Or.inl _)
        have hten : 10 ≤ d.digits := by omega
        apply Nat.div_pos hten (by decide)
      · apply h

/-- The shortest decimal of a positive number is positive, or has no zeros to add at its end. -/
theorem shortest_pos_or {m : Nat} (e : Int) (hm : 0 < m) :
  0 < (shortest m e).digits ∨ (shortest m e).exponent ≤ 0
  := by
  apply normalise_pos_or
  apply search_pos_or hm rfl

end Decimal

/-! ### Parts -/

/-- The parts of the text of a number without its sign: the digits before and after the point, and
those of the exponent behind the character that tells its sign. -/
structure NumberParts where
  whole : List Char
  fraction : List Char
  exponent : Option (Char × List Char)

namespace NumberParts

/-- The text of an exponent. -/
def exponentText (p : NumberParts) : List Char :=
  match p.exponent with
  | some (sign, ds) => 'e' :: sign :: ds
  | none => []

/-- The text of a fraction. -/
def fractionText (p : NumberParts) : List Char :=
  if p.fraction.isEmpty then [] else '.' :: p.fraction

/-- The text of the parts. -/
def text (p : NumberParts) : List Char :=
  p.whole ++ (p.fractionText ++ p.exponentText)

/-- Whether a text has no point and no exponent. -/
def isWhole (p : NumberParts) : Bool :=
  p.fraction.isEmpty && p.exponent.isNone

/-- Parts as numbers have them: digits, with no zero in front of other digits. -/
structure Valid (p : NumberParts) : Prop where
  whole_head : p.whole = ['0'] ∨ ∃ c cs, p.whole = c :: cs ∧ c ≠ '0'
  whole_digits : ∀ c ∈ p.whole, Text.isAsciiDigit c = true
  fraction_digits : ∀ c ∈ p.fraction, Text.isAsciiDigit c = true
  exponent_digits : ∀ sign ds, p.exponent = some (sign, ds) →
    (sign = '-' ∨ sign = '+') ∧ ds ≠ [] ∧ ∀ c ∈ ds, Text.isAsciiDigit c = true

/-- Digits before and after a point are valid, if no zero stands in front of the others. -/
theorem valid_of_digits {whole fraction : List Char}
    (hhead : whole = ['0'] ∨ ∃ c cs, whole = c :: cs ∧ c ≠ '0')
    (hdigits : ∀ c ∈ whole ++ fraction, Text.isAsciiDigit c = true) :
  Valid ⟨whole, fraction, none⟩
  := by
  constructor
  · apply hhead
  · intro c hc
    apply hdigits c (List.mem_append_left _ hc)
  · intro c hc
    apply hdigits c (List.mem_append_right _ hc)
  · intro sign ds h
    cases h

/-- The digits of a number do not begin with a zero in front of others. -/
theorem decimalDigits_head (n : Nat) :
  decimalDigits n = ['0'] ∨ ∃ c cs, decimalDigits n = c :: cs ∧ c ≠ '0'
  := by
  by_cases hn : 0 < n
  · apply Or.inr (exists_cons_decimalDigits hn)
  · have hzero : n = 0 := by omega
    rw [hzero]
    apply Or.inl rfl

/-- The digits of a number are valid as a whole part. -/
theorem valid_decimalDigits (n : Nat) :
  Valid ⟨decimalDigits n, [], none⟩
  := by
  apply valid_of_digits (decimalDigits_head n)
  intro c hc
  rw [List.append_nil] at hc
  apply isAsciiDigit_of_mem_decimalDigits hc

end NumberParts

/-! ### The text of a decimal -/

namespace Decimal

variable {d : Decimal}

theorem isAsciiDigit_of_mem_replicate {k : Nat} {c : Char} (hc : c ∈ List.replicate k '0') :
  Text.isAsciiDigit c = true
  := by
  rw [List.eq_of_mem_replicate hc]
  decide

/-- A width is filled with digits only. -/
theorem paddedDigits_digits (width n : Nat) :
  (paddedDigits width n).toList ≠ [] ∧ ∀ c ∈ (paddedDigits width n).toList,
    Text.isAsciiDigit c = true
  := by
  rw [paddedDigits, String.toList_ofList]
  constructor
  · intro h
    apply decimalDigits_ne_nil n (List.append_eq_nil_iff.mp h).2
  · intro c hc
    rw [List.mem_append] at hc
    rcases hc with hc | hc
    · apply isAsciiDigit_of_mem_replicate hc
    · apply isAsciiDigit_of_mem_decimalDigits hc

/-- Zeros between the digits and the point. -/
theorem exists_parts_of_zeros (h : 0 < d.digits ∨ d.exponent ≤ 0) :
  ∃ p : NumberParts, p.Valid ∧ p.isWhole = false ∧
    decimalDigits d.digits ++ (List.replicate d.exponent.toNat '0' ++ ['.', '0']) = p.text
  := by
  refine ⟨⟨decimalDigits d.digits ++ List.replicate d.exponent.toNat '0', ['0'], none⟩, ?_, rfl, ?_⟩
  · apply NumberParts.valid_of_digits
    · rcases h with h | h
      · obtain ⟨c, cs, heq, hc⟩ := exists_cons_decimalDigits h
        rw [heq]
        exact Or.inr ⟨c, _, rfl, hc⟩
      · have hzero : d.exponent.toNat = 0 := by omega
        rw [hzero, List.replicate_zero, List.append_nil]
        apply NumberParts.decimalDigits_head
    · intro c hc
      simp only [List.mem_append, List.mem_singleton] at hc
      rcases hc with (hc | hc) | rfl
      · apply isAsciiDigit_of_mem_decimalDigits hc
      · apply isAsciiDigit_of_mem_replicate hc
      · decide
  · simp [NumberParts.text, NumberParts.fractionText, NumberParts.exponentText]

/-- A point among the digits. -/
theorem exists_parts_of_point {n k : Nat} (hpos : 0 < k) (hlt : k < (decimalDigits n).length) :
  ∃ p : NumberParts, p.Valid ∧ p.isWhole = false ∧
    (decimalDigits n).take k ++ '.' :: (decimalDigits n).drop k = p.text
  := by
  have hdrop : ¬ (decimalDigits n).length ≤ k := Nat.not_le_of_lt hlt
  refine ⟨⟨(decimalDigits n).take k, (decimalDigits n).drop k, none⟩, ?_, ?_, ?_⟩
  · apply NumberParts.valid_of_digits
    · rcases NumberParts.decimalDigits_head n with heq | ⟨c, cs, heq, hc⟩
      · rw [heq, List.length_singleton] at hlt
        omega
      · obtain ⟨k', rfl⟩ := Nat.exists_eq_succ_of_ne_zero (Nat.pos_iff_ne_zero.mp hpos)
        rw [heq]
        exact Or.inr ⟨c, _, List.take_succ_cons, hc⟩
    · intro c hc
      rw [List.take_append_drop] at hc
      apply isAsciiDigit_of_mem_decimalDigits hc
  · simp [NumberParts.isWhole, hdrop]
  · simp [NumberParts.text, NumberParts.fractionText, NumberParts.exponentText, hdrop]

/-- Zeros between the point and the digits. -/
theorem exists_parts_of_fraction (n k : Nat) :
  ∃ p : NumberParts, p.Valid ∧ p.isWhole = false ∧
    '0' :: '.' :: (List.replicate k '0' ++ decimalDigits n) = p.text
  := by
  have hne := decimalDigits_ne_nil n
  refine ⟨⟨['0'], List.replicate k '0' ++ decimalDigits n, none⟩, ?_, ?_, ?_⟩
  · apply NumberParts.valid_of_digits
    · apply Or.inl rfl
    · intro c hc
      simp only [List.mem_append, List.mem_singleton] at hc
      rcases hc with rfl | hc | hc
      · decide
      · apply isAsciiDigit_of_mem_replicate hc
      · apply isAsciiDigit_of_mem_decimalDigits hc
  · simp [NumberParts.isWhole, hne]
  · simp [NumberParts.text, NumberParts.fractionText, NumberParts.exponentText, hne]

/-- An exponent behind the digits. -/
theorem exists_parts_of_exponent {n k : Nat} {sign c : Char} {cs : List Char}
    (hsign : sign = '-' ∨ sign = '+') (heq : decimalDigits n = c :: cs) :
  ∃ p : NumberParts, p.Valid ∧ p.isWhole = false ∧
    c :: ((if cs.isEmpty then [] else '.' :: cs) ++ 'e' :: sign :: (paddedDigits 2 k).toList)
      = p.text
  := by
  have hdigits : ∀ c' ∈ c :: cs, Text.isAsciiDigit c' = true := by
    intro c' hc'
    rw [← heq] at hc'
    apply isAsciiDigit_of_mem_decimalDigits hc'
  refine ⟨⟨[c], cs, some (sign, (paddedDigits 2 k).toList)⟩, ?_, ?_, rfl⟩
  · constructor
    · by_cases hzero : c = '0'
      · rw [hzero]
        apply Or.inl rfl
      · exact Or.inr ⟨c, [], rfl, hzero⟩
    · intro c' hc'
      apply hdigits c' (List.mem_cons.mpr (Or.inl (List.mem_singleton.mp hc')))
    · intro c' hc'
      apply hdigits c' (List.mem_cons_of_mem c hc')
    · intro sign' ds h
      cases h
      exact ⟨hsign, paddedDigits_digits 2 k⟩
  · simp [NumberParts.isWhole]

/-- The text of a decimal has a point or an exponent besides its whole part. -/
theorem exists_parts_text (h : 0 < d.digits ∨ d.exponent ≤ 0) :
  ∃ p : NumberParts, p.Valid ∧ p.isWhole = false ∧ (d.text .json).toList = p.text
  := by
  have hlength : 0 < (decimalDigits d.digits).length :=
    List.length_pos_iff.mpr (decimalDigits_ne_nil _)
  rw [text]
  split
  · split
    · obtain ⟨p, hp, hwhole, heq⟩ := exists_parts_of_zeros h
      refine ⟨p, hp, hwhole, ?_⟩
      rw [← heq]
      simp
    · split
      · obtain ⟨p, hp, hwhole, heq⟩ := exists_parts_of_point (n := d.digits)
          (k := (d.exponent + (decimalDigits d.digits).length - 1).toNat + 1) (by omega) (by omega)
        refine ⟨p, hp, hwhole, ?_⟩
        rw [← heq]
        simp
      · obtain ⟨p, hp, hwhole, heq⟩ := exists_parts_of_fraction d.digits
          ((-(d.exponent + (decimalDigits d.digits).length - 1)).toNat - 1)
        refine ⟨p, hp, hwhole, ?_⟩
        rw [← heq]
        simp
  · dsimp only
    generalize d.exponent + (decimalDigits d.digits).length - 1 = top
    have hsign : ∃ c, (c = '-' ∨ c = '+') ∧ (if top < 0 then "e-" else "e+").toList = ['e', c] := by
      split
      · exact ⟨'-', Or.inl rfl, rfl⟩
      · exact ⟨'+', Or.inr rfl, rfl⟩
    obtain ⟨sign, hsign, hsigned⟩ := hsign
    cases hds : decimalDigits d.digits with
    | nil => exact absurd hds (decimalDigits_ne_nil _)
    | cons c cs =>
        obtain ⟨p, hp, hwhole, heq⟩ := exists_parts_of_exponent hsign hds (k := top.natAbs)
        refine ⟨p, hp, hwhole, ?_⟩
        rw [← heq]
        cases cs with
        | nil => simp [NumberStyle.json, hsigned]
        | cons c' cs => simp [hsigned]

end Decimal

end AgentBundles
