import AgentBundles.Json.Reader
import AgentBundles.Json.Writer
import AgentBundles.Proofs.Outcome
import AgentBundles.Proofs.Number.Digits

/-!
# JSON strings

A text that is written as a JSON string is read as itself, also if it holds characters that are
written as two escapes.
-/

namespace AgentBundles.Json

/-! ### Escapes -/

/-- The digits of a code unit are read as the code unit. -/
theorem exists_hexDigits (n : Nat) :
  ∃ a b c d, Text.hexDigits 4 n = [a, b, c, d] ∧ hex4? a b c d = some (n % 0x10000)
  := by
  refine ⟨_, _, _, _, rfl, ?_⟩
  have hdigit : ∀ m, Text.hexValue? (Text.hexDigit (m % 16)) = some (m % 16) := by
    intro m
    apply Text.hexValue?_hexDigit (Nat.mod_lt m (by decide))
  simp only [hex4?, hdigit, Option.bind_eq_bind, Option.bind_some, Option.pure_def,
    Option.some.injEq]
  omega

/-- A code unit that is a character of its own is read as the character. -/
theorem charOfUnit_toNat (ch : Char) :
  charOfUnit ch.toNat = ch
  := by
  have hvalid : ch.toNat < 0xD800 ∨ 0xDFFF < ch.toNat ∧ ch.toNat < 0x110000 := ch.valid
  have hsurrogate : (isHighSurrogate ch.toNat || isLowSurrogate ch.toNat) = false := by
    simp only [isHighSurrogate, isLowSurrogate, Bool.or_eq_false_iff, Bool.and_eq_false_iff,
      decide_eq_false_iff_not]
    omega
  rw [charOfUnit, hsurrogate, if_neg Bool.false_ne_true, Char.ofNat_toNat]

/-- An escape of a character of the basic plane is read as the character, if something follows. -/
theorem readUnicodeEscape_unit {ch : Char} (hch : ch.toNat < 0x10000) {here rest : List Char}
    (hrest : rest ≠ []) :
  readUnicodeEscape here (Text.hexDigits 4 ch.toNat ++ rest) = .ok (ch, rest)
  := by
  have hvalid : ch.toNat < 0xD800 ∨ 0xDFFF < ch.toNat ∧ ch.toNat < 0x110000 := ch.valid
  obtain ⟨a, b, c, d, heq, hhex⟩ := exists_hexDigits ch.toNat
  have hempty : rest.isEmpty = false := by
    rw [List.isEmpty_eq_false_iff]
    apply hrest
  have hhigh : isHighSurrogate ch.toNat = false := by
    simp only [isHighSurrogate, Bool.and_eq_false_iff, decide_eq_false_iff_not]
    omega
  rw [Nat.mod_eq_of_lt hch] at hhex
  rw [heq]
  simp only [List.cons_append, List.nil_append, readUnicodeEscape, hempty, Bool.false_eq_true,
    if_false, hhex, hhigh, charOfUnit_toNat]

/-- The escapes of a pair of code units are read as one character, if something follows. -/
theorem readUnicodeEscape_surrogates {high low : Nat} (hhigh : isHighSurrogate high = true)
    (hlow : isLowSurrogate low = true) {here rest : List Char} (hrest : rest ≠ []) :
  readUnicodeEscape here (Text.hexDigits 4 high ++ (unitEscape low ++ rest))
    = .ok (charOfPair high low, rest)
  := by
  obtain ⟨a, b, c, d, heq, hhex⟩ := exists_hexDigits high
  obtain ⟨e, f, g, h, heq', hhex'⟩ := exists_hexDigits low
  have hempty : rest.isEmpty = false := by
    rw [List.isEmpty_eq_false_iff]
    apply hrest
  have hlt : high < 0x10000 ∧ low < 0x10000 := by
    simp only [isHighSurrogate, isLowSurrogate, Bool.and_eq_true, decide_eq_true_eq] at hhigh hlow
    omega
  rw [Nat.mod_eq_of_lt hlt.1] at hhex
  rw [Nat.mod_eq_of_lt hlt.2] at hhex'
  rw [unitEscape, heq, heq']
  simp only [List.cons_append, List.nil_append, readUnicodeEscape, List.isEmpty_cons,
    Bool.false_eq_true, if_false, hhex, hhigh, hempty, hhex', hlow, if_true]

/-- A character beyond the basic plane has a pair of code units. -/
theorem exists_surrogates {ch : Char} (hch : 0x10000 ≤ ch.toNat) :
  isHighSurrogate (0xD800 + (ch.toNat - 0x10000) / 0x400) = true ∧
    isLowSurrogate (0xDC00 + (ch.toNat - 0x10000) % 0x400) = true ∧
    charOfPair (0xD800 + (ch.toNat - 0x10000) / 0x400) (0xDC00 + (ch.toNat - 0x10000) % 0x400) = ch
  := by
  have hvalid : ch.toNat < 0xD800 ∨ 0xDFFF < ch.toNat ∧ ch.toNat < 0x110000 := ch.valid
  refine ⟨?_, ?_, ?_⟩
  · simp only [isHighSurrogate, Bool.and_eq_true, decide_eq_true_eq]
    omega
  · simp only [isLowSurrogate, Bool.and_eq_true, decide_eq_true_eq]
    omega
  · have heq : 0x10000 + (0xD800 + (ch.toNat - 0x10000) / 0x400 - 0xD800) * 0x400 +
        (0xDC00 + (ch.toNat - 0x10000) % 0x400 - 0xDC00) = ch.toNat := by omega
    rw [charOfPair, heq, Char.ofNat_toNat]

/-! ### Characters -/

/-- Whether a character stands for itself in a string. -/
def isPlainChar (c : Char) : Bool :=
  c != '\x22' && c != '\\' && 0x20 ≤ c.toNat && c.toNat ≤ 0x7E

/-- The four ways in which a character is written. -/
theorem escaped_cases (ch : Char) :
  (∃ letter, letter ≠ 'u' ∧ escapeOf? letter = some ch ∧ escaped ch = ['\\', letter]) ∨
    (isPlainChar ch = true ∧ escaped ch = [ch]) ∨
    (ch.toNat < 0x10000 ∧ escaped ch = unitEscape ch.toNat) ∨
    (0x10000 ≤ ch.toNat ∧ escaped ch = unitEscape (0xD800 + (ch.toNat - 0x10000) / 0x400) ++
      unitEscape (0xDC00 + (ch.toNat - 0x10000) % 0x400))
  := by
  have hletter : ∀ {d letter : Char}, (ch == d) = true → letter ≠ 'u' → escapeOf? letter = some d →
      ∃ letter', letter' ≠ 'u' ∧ escapeOf? letter' = some ch ∧
        ['\\', letter] = ['\\', letter'] := by
    intro d letter h hne hescape
    rw [eq_of_beq h]
    use letter
  rw [escaped]
  split
  · rename_i h
    exact Or.inl (hletter h (by decide) (by decide))
  · rename_i hquote
    split
    · rename_i h
      exact Or.inl (hletter h (by decide) (by decide))
    · rename_i hbackslash
      split
      · rename_i h
        exact Or.inl (hletter h (by decide) (by decide))
      · split
        · rename_i h
          exact Or.inl (hletter h (by decide) (by decide))
        · split
          · rename_i h
            exact Or.inl (hletter h (by decide) (by decide))
          · split
            · rename_i h
              exact Or.inl (hletter h (by decide) (by decide))
            · split
              · rename_i h
                exact Or.inl (hletter h (by decide) (by decide))
              · split
                · rename_i h
                  refine Or.inr (Or.inl ⟨?_, rfl⟩)
                  rw [Bool.and_eq_true] at h
                  simp only [isPlainChar, bne, hquote, hbackslash, h.1, h.2]
                  rfl
                · split
                  · rename_i h
                    exact Or.inr (Or.inr (Or.inl ⟨h, rfl⟩))
                  · rename_i h
                    exact Or.inr (Or.inr (Or.inr ⟨Nat.le_of_not_lt h, rfl⟩))

/-- A character that stands for itself is read as itself. -/
theorem readChars_plain {ch : Char} (hch : isPlainChar ch = true) {start rest : List Char}
    {fuel : Nat} :
  readChars start (fuel + 1) (ch :: rest) = (readChars start fuel rest).map fun r =>
    (ch :: r.1, r.2)
  := by
  simp only [isPlainChar, Bool.and_eq_true, bne_iff_ne, decide_eq_true_eq] at hch
  obtain ⟨⟨⟨hquote, hbackslash⟩, hleast⟩, -⟩ := hch
  have hcontrol : ¬ ch.toNat ≤ 0x1F := by omega
  rw [readChars]
  · simp only [beq_eq_false_iff_ne.mpr hquote, Bool.false_eq_true, if_false, hcontrol]
    cases readChars start fuel rest with
    | error e => rfl
    | ok r => rfl
  · intro heq
    exact absurd heq hbackslash
  · intro c rest' heq
    exact absurd heq hbackslash

/-- A character is read as itself. -/
theorem readChars_escaped (ch : Char) {start rest : List Char} {fuel : Nat} (hrest : rest ≠ []) :
  readChars start (fuel + 1) (escaped ch ++ rest)
    = (readChars start fuel rest).map fun r => (ch :: r.1, r.2)
  := by
  have hunit : ∀ {digits : List Char},
      (∀ here, readUnicodeEscape here (digits ++ rest) = .ok (ch, rest)) →
      readChars start (fuel + 1) ('\\' :: 'u' :: (digits ++ rest))
        = (readChars start fuel rest).map fun r => (ch :: r.1, r.2) := by
    intro digits hread
    simp only [readChars, beq_self_eq_true, if_true, hread, ok_bind]
    cases readChars start fuel rest with
    | error e => rfl
    | ok r => rfl
  rcases escaped_cases ch with ⟨letter, hne, hescape, heq⟩ | ⟨hplain, heq⟩ | ⟨hlt, heq⟩ | ⟨hle, heq⟩
  · have hne' : (letter == 'u') = false := beq_eq_false_iff_ne.mpr hne
    rw [heq]
    simp only [List.cons_append, List.nil_append, readChars, hne', Bool.false_eq_true, if_false,
      hescape, ok_bind]
    cases readChars start fuel rest with
    | error e => rfl
    | ok r => rfl
  · rw [heq]
    apply readChars_plain hplain
  · rw [heq]
    apply hunit
    intro here
    apply readUnicodeEscape_unit hlt hrest
  · obtain ⟨hhigh, hlow, hpair⟩ := exists_surrogates hle
    rw [heq, List.append_assoc]
    have hread : ∀ here,
        readUnicodeEscape here ((Text.hexDigits 4 (0xD800 + (ch.toNat - 0x10000) / 0x400) ++
        unitEscape (0xDC00 + (ch.toNat - 0x10000) % 0x400)) ++ rest) = .ok (ch, rest) := by
      intro here
      rw [List.append_assoc, readUnicodeEscape_surrogates hhigh hlow hrest, hpair]
    have hchars := hunit hread
    rw [List.append_assoc] at hchars
    apply hchars

/-- The characters of a text are read up to the closing quote. -/
theorem readChars_flatMap (cs : List Char) {start rest : List Char} {fuel : Nat}
    (hfuel : cs.length < fuel) :
  readChars start fuel (cs.flatMap escaped ++ '\x22' :: rest) = .ok (cs, rest)
  := by
  induction cs generalizing fuel with
  | nil =>
      cases fuel with
      | zero => cases hfuel
      | succ fuel => rfl
  | cons ch cs ih =>
      cases fuel with
      | zero => cases hfuel
      | succ fuel =>
          have hne : cs.flatMap escaped ++ '\x22' :: rest ≠ [] := by simp
          rw [List.flatMap_cons, List.append_assoc, readChars_escaped ch hne,
            ih (Nat.lt_of_succ_lt_succ hfuel)]
          rfl

theorem escaped_ne_nil (ch : Char) :
  escaped ch ≠ []
  := by
  rcases escaped_cases ch with ⟨letter, -, -, heq⟩ | ⟨-, heq⟩ | ⟨-, heq⟩ | ⟨-, heq⟩
  all_goals
    rw [heq]
    exact List.cons_ne_nil _ _

theorem length_le_length_escaped (cs : List Char) :
  cs.length ≤ (cs.flatMap escaped).length
  := by
  induction cs with
  | nil => apply Nat.le_refl
  | cons ch cs ih =>
      have hpos := List.length_pos_iff.mpr (escaped_ne_nil ch)
      rw [List.flatMap_cons, List.length_append, List.length_cons]
      omega

/-- A string is read as the text that it was written for. -/
theorem readString_stringText (s : String) (rest : List Char) :
  readString (stringText s ++ rest) = .ok (s, rest)
  := by
  have hchars : readChars ('\x22' :: (s.toList.flatMap escaped ++ '\x22' :: rest))
      ((s.toList.flatMap escaped ++ '\x22' :: rest).length + 1)
        (s.toList.flatMap escaped ++ '\x22' :: rest)
      = .ok (s.toList, rest) := by
    apply readChars_flatMap
    have hle := length_le_length_escaped s.toList
    rw [List.length_append]
    omega
  have heq : stringText s ++ rest = '\x22' :: (s.toList.flatMap escaped ++ '\x22' :: rest) := by
    simp [stringText]
  rw [heq, readString, hchars]
  simp only [ok_bind, String.ofList_toList]
  rfl

end AgentBundles.Json
