import AgentBundles.Number.Layout
import AgentBundles.Text.Quoted
import AgentBundles.Text.Word
import Mathlib.Tactic.Common
import Mathlib.Tactic.IntervalCases

/-!
# Digits

The decimal digits of a natural number are ASCII digits without a zero in front, and denote the
number. A hexadecimal digit in either case is read as the number that it is written for.
-/

namespace AgentBundles

/-! ### Hexadecimal digits -/

namespace Text

/-- A digit is read as the number that it is written for. -/
theorem hexValue?_hexDigit {d : Nat} (h : d < 16) :
  hexValue? (hexDigit d) = some d
  := by
  have hall : ∀ d < 16, hexValue? (hexDigit d) = some d := by decide
  apply hall d h

/-- A digit in upper case is read as the number that it is written for. -/
theorem hexValue?_toUpper_hexDigit {d : Nat} (h : d < 16) :
  hexValue? (hexDigit d).toUpper = some d
  := by
  have hall : ∀ d < 16, hexValue? (hexDigit d).toUpper = some d := by decide
  apply hall d h

@[simp]
theorem length_hexDigits (width n : Nat) :
  (hexDigits width n).length = width
  := by
  induction width generalizing n with
  | zero => rfl
  | succ width ih => rw [hexDigits, List.length_append, ih, List.length_singleton]

theorem exists_of_mem_hexDigits {c : Char} {width n : Nat} (h : c ∈ hexDigits width n) :
  ∃ d < 16, c = hexDigit d
  := by
  induction width generalizing n with
  | zero => cases h
  | succ width ih =>
      rw [hexDigits, List.mem_append, List.mem_singleton] at h
      rcases h with h | rfl
      · apply ih h
      · exact ⟨n % 16, Nat.mod_lt n (by decide), rfl⟩

end Text

/-! ### Decimal digits -/

/-- The digits of a number from ten on are those of its tenth, followed by one digit. -/
theorem decimalDigits_of_le {n : Nat} (h : 10 ≤ n) :
  decimalDigits n = decimalDigits (n / 10) ++ [Nat.digitChar (n % 10)]
  := by
  rw [decimalDigits, decimalDigits, Nat.toDigits_of_base_le (by decide) h]

theorem decimalDigits_of_lt {n : Nat} (h : n < 10) :
  decimalDigits n = [Nat.digitChar n]
  := by
  rw [decimalDigits, Nat.toDigits_of_lt_base h]

theorem decimalDigits_ne_nil (n : Nat) :
  decimalDigits n ≠ []
  := by
  apply Nat.toDigits_ne_nil

theorem isAsciiDigit_of_mem_decimalDigits {n : Nat} {c : Char} (hc : c ∈ decimalDigits n) :
  Text.isAsciiDigit c = true
  := by
  have hdigit := Nat.isDigit_of_mem_toDigits (by decide) (by decide) hc
  simp only [Char.isDigit, Bool.and_eq_true, decide_eq_true_eq] at hdigit
  simp only [Text.isAsciiDigit, Bool.and_eq_true, decide_eq_true_eq]
  apply hdigit

/-- The digits of a positive number do not begin with a zero. -/
theorem exists_cons_decimalDigits {n : Nat} (hn : 0 < n) :
  ∃ c cs, decimalDigits n = c :: cs ∧ c ≠ '0'
  := by
  induction n using Nat.strongRecOn with
  | ind n ih =>
      by_cases h : n < 10
      · refine ⟨_, _, decimalDigits_of_lt h, ?_⟩
        interval_cases n
        all_goals decide
      · obtain ⟨c, cs, heq, hc⟩ := ih (n / 10) (by omega) (by omega)
        refine ⟨c, cs ++ [Nat.digitChar (n % 10)], ?_, hc⟩
        rw [decimalDigits_of_le (Nat.le_of_not_lt h), heq, List.cons_append]

/-- The digit of a value below ten has that value. -/
theorem digitValue?_digitChar {d : Nat} (h : d < 10) :
  Text.digitValue? (Nat.digitChar d) = some d
  := by
  interval_cases d
  all_goals decide

/-- The digits of a number denote the number. -/
theorem digitsValue_decimalDigits (n : Nat) :
  Text.digitsValue (decimalDigits n) = n
  := by
  induction n using Nat.strongRecOn with
  | ind n ih =>
      by_cases h : n < 10
      · rw [decimalDigits_of_lt h]
        simp [Text.digitsValue, Text.digitsValueFrom, digitValue?_digitChar h]
      · have hdigit := digitValue?_digitChar (Nat.mod_lt n (by decide : 0 < 10))
        have htenth := ih (n / 10) (by omega)
        simp only [Text.digitsValue, Text.digitsValueFrom] at htenth
        rw [decimalDigits_of_le (Nat.le_of_not_lt h)]
        simp only [Text.digitsValue, Text.digitsValueFrom, List.foldl_append, List.foldl_cons,
          List.foldl_nil, htenth, hdigit, Option.getD_some]
        omega

/-- A number below a power of ten has at most as many digits as the power. -/
theorem length_decimalDigits_le {n k : Nat} (hk : 0 < k) (h : n < powerOfTen k) :
  (decimalDigits n).length ≤ k
  := by
  rw [decimalDigits, Nat.length_toDigits_le_iff (by decide) hk]
  apply h

end AgentBundles
