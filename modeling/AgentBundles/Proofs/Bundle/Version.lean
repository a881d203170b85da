import Mathlib.Data.List.TakeWhile
import AgentBundles.Bundle.Version
import AgentBundles.Proofs.Number.Digits

/-!
# Versions that are raised

The text of a version is read as the version, and a version that is raised has another text.
-/

namespace AgentBundles

theorem isDigit_of_mem_decimalDigits {n : Nat} {c : Char} (hc : c ∈ decimalDigits n) :
  Text.isDigit c = true
  := by
  induction n using Nat.strongRecOn with
  | ind n ih =>
      have hlast : ∀ d, d < 10 → Text.isDigit (Nat.digitChar d) = true := by
        intro d hd
        rw [Text.isDigit, digitValue?_digitChar hd]
        rfl
      by_cases h : n < 10
      · rw [decimalDigits_of_lt h, List.mem_singleton] at hc
        rw [hc]
        apply hlast n h
      · rw [decimalDigits_of_le (Nat.le_of_not_lt h), List.mem_append, List.mem_singleton] at hc
        rcases hc with hc | rfl
        · apply ih (n / 10) (by omega) hc
        · apply hlast _ (Nat.mod_lt n (by decide))

/-- The digits at the start of a text go as far as a character that is none. -/
theorem spanDecimal_eq_iff {cs ds rest : List Char} :
  spanDecimal cs = (ds, rest)
    ↔ (∀ d ∈ ds, Text.isDigit d = true) ∧ (∀ c ∈ rest.head?, Text.isDigit c = false) ∧
    cs = ds ++ rest
  := by
  rw [spanDecimal, Prod.mk.injEq]
  constructor
  · rintro ⟨rfl, rfl⟩
    refine ⟨fun d hd => List.mem_takeWhile_imp hd, ?_, List.takeWhile_append_dropWhile.symm⟩
    intro c hc
    have hnot := List.head?_dropWhile_not Text.isDigit cs
    rw [Option.mem_def.mp hc] at hnot
    simpa using hnot
  · rintro ⟨hds, hrest, rfl⟩
    have hspan : rest.takeWhile Text.isDigit = [] ∧ rest.dropWhile Text.isDigit = rest := by
      cases rest with
      | nil => exact ⟨rfl, rfl⟩
      | cons c cs =>
          have hc : ¬ Text.isDigit c = true := by simp [hrest c rfl]
          exact ⟨List.takeWhile_cons_of_neg hc, List.dropWhile_cons_of_neg hc⟩
    rw [List.takeWhile_append_of_pos hds, List.dropWhile_append_of_pos hds, hspan.1, hspan.2,
      List.append_nil]
    exact ⟨rfl, rfl⟩

/-- The digits of a number are taken from the start of a text that goes on with something else. -/
theorem spanDecimal_decimalDigits (n : Nat) {rest : List Char}
    (hrest : ∀ c ∈ rest.head?, Text.isDigit c = false) :
  spanDecimal (decimalDigits n ++ rest) = (decimalDigits n, rest)
  := spanDecimal_eq_iff.mpr ⟨fun _ => isDigit_of_mem_decimalDigits, hrest, rfl⟩

namespace Version

theorem toList_text (v : Version) :
  v.text.toList = decimalDigits v.major ++ '.' ::
    (decimalDigits v.minor ++ '.' :: decimalDigits v.patch)
  := by
  rw [text]
  simp [Text.join, natText]

/-- The numerals of the text of a version are those of its numbers. -/
theorem numerals?_text (v : Version) :
  numerals? (Text.dropFinalBreak v.text.toList)
    = some ⟨decimalDigits v.major, decimalDigits v.minor, decimalDigits v.patch, []⟩
  := by
  have hdigit : ∀ n, '\n' ∉ decimalDigits n := by
    intro n hmem
    have hfalse := isDigit_of_mem_decimalDigits hmem
    revert hfalse
    decide
  have hbreak : Text.dropFinalBreak v.text.toList = v.text.toList := by
    rw [Text.dropFinalBreak, if_neg]
    intro hlast
    have hmem := List.mem_of_getLast? (eq_of_beq hlast)
    rw [toList_text] at hmem
    simp [hdigit] at hmem
  have hdot : ∀ rest : List Char, ∀ c ∈ ('.' :: rest).head?, Text.isDigit c = false := by
    intro rest c hc
    cases hc
    decide
  have hend : ∀ c ∈ ([] : List Char).head?, Text.isDigit c = false := by
    intro c hc
    cases hc
  have hpatch := spanDecimal_decimalDigits v.patch hend
  rw [List.append_nil] at hpatch
  rw [hbreak, toList_text]
  simp only [numerals?, spanDecimal_decimalDigits v.major (hdot _),
    spanDecimal_decimalDigits v.minor (hdot _), hpatch]

/-- The text of a version is read as the version. -/
theorem read?_text (v : Version) :
  read? v.text = some v
  := by
  have hne : ∀ n, (decimalDigits n).isEmpty = false := by
    intro n
    rw [List.isEmpty_eq_false_iff]
    apply decimalDigits_ne_nil
  rw [read?, numerals?_text]
  simp [hne, isSuffix, digitsValue_decimalDigits]

theorem raise_ne (v : Version) (p : VersionPart) :
  v.raise p ≠ v
  := by
  intro h
  cases p with
  | major => simpa [raise] using congrArg Version.major h
  | minor => simpa [raise] using congrArg Version.minor h
  | patch => simpa [raise] using congrArg Version.patch h

end Version

/-- A version that is raised becomes another one. -/
theorem raiseVersion_ne {version part raised : String}
    (h : raiseVersion version part = .ok raised) :
  raised ≠ version
  := by
  rintro rfl
  rw [raiseVersion] at h
  split at h
  · cases h
  · cases h
  · cases h
  · rename_i v p hread _ _
    split at h
    · rw [Except.ok.injEq] at h
      rw [← h, Version.read?_text, Option.some.injEq] at hread
      exact Version.raise_ne v p hread
    · cases h

end AgentBundles
