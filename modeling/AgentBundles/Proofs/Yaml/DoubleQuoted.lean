import Mathlib.Algebra.Group.Nat.Defs
import AgentBundles.Proofs.Number.Digits
import AgentBundles.Proofs.Yaml.Quoted
import AgentBundles.Yaml.Style

/-!
# Double quotes

A text that is written between double quotes is read as itself: every escape is read as the
character that it was written for, and folded lines are read as one.
-/

namespace AgentBundles.Yaml

/-! ### Escapes -/

/-- The digits of an escape are read as its number. -/
theorem hexNumber?_upperHexDigits (width n : Nat) :
  hexNumber? (upperHexDigits width n) = some (n % 16 ^ width)
  := by
  induction width generalizing n with
  | zero =>
      rw [Nat.pow_zero, Nat.mod_one]
      rfl
  | succ width ih =>
      have hdigit : Text.hexValue? (Text.hexDigit (n % 16)).toUpper = some (n % 16) :=
        Text.hexValue?_toUpper_hexDigit (Nat.mod_lt n (by decide))
      have hsplit : upperHexDigits (width + 1) n
          = upperHexDigits width (n / 16) ++ [(Text.hexDigit (n % 16)).toUpper] := by
        rw [upperHexDigits, Text.hexDigits, List.map_append]
        rfl
      have hdiv := ih (n / 16)
      rw [hexNumber?] at hdiv ⊢
      rw [hsplit, List.foldlM_append, hdiv]
      simp only [Option.bind_eq_bind, Option.bind_some, List.foldlM_cons, List.foldlM_nil, hdigit,
        Option.map_some, Option.pure_def, Option.some.injEq]
      rw [Nat.pow_succ, Nat.mul_comm (16 ^ width), Nat.mod_mul, Nat.add_comm]

theorem length_upperHexDigits (width n : Nat) :
  (upperHexDigits width n).length = width
  := by
  rw [upperHexDigits, List.length_map, Text.length_hexDigits]

/-- The character with the number of a character is the character. -/
theorem charOfCode_numberOf (ch : Char) :
  charOfCode (Text.numberOf ch) = .ok ch
  := by
  have hvalid : ch.toNat < 0xD800 ∨ 0xDFFF < ch.toNat ∧ ch.toNat < 0x110000 := ch.valid
  have hle := Text.numberOf_le ch
  rw [charOfCode, if_neg (by omega), Text.charOfNumber_numberOf]

/-- A letter is read as the character that it was written for. -/
theorem escapeOf?_of_escapeLetter? {ch letter : Char} (h : escapeLetter? ch = some letter) :
  escapeOf? letter = some ch
  := by
  have hchar : ∀ n, ch.toNat = n → ch = Char.ofNat n := by
    rintro n rfl
    rw [Char.ofNat_toNat]
  unfold escapeLetter? at h
  split at h
  all_goals try (cases h; rfl)
  split at h
  · rename_i hn
    cases h
    rw [hchar _ hn]
    rfl
  · split at h
    · rename_i hn
      cases h
      rw [hchar _ hn]
      rfl
    · split at h
      · rename_i hn
        cases h
        rw [hchar _ hn]
        rfl
      · cases h

/-- Digits after their letter are read as the character with their number. -/
theorem readEscape_digits {c : Cursor} {letter : Char} {width : Nat} {ch : Char} {rest : List Char}
    (hletter : escapeOf? letter = none) (hwidth : escapeWidth? letter = some width)
    (hlt : Text.numberOf ch < 16 ^ width)
    (h : c.rest = letter :: (upperHexDigits width (Text.numberOf ch) ++ rest)) :
  readEscape c = .ok ([ch], c.advance (width + 1))
  := by
  have hdigits : (upperHexDigits width (Text.numberOf ch) ++ rest).take width
      = upperHexDigits width (Text.numberOf ch) :=
    List.take_left' (length_upperHexDigits width (Text.numberOf ch))
  simp only [readEscape, h, hletter, hwidth, hdigits, hexNumber?_upperHexDigits,
    Nat.mod_eq_of_lt hlt, length_upperHexDigits, if_true, charOfCode_numberOf, ok_bind]
  rfl

/-- An escape is read as the character that it was written for. -/
theorem readEscape_escapeChars (ch : Char) :
  ∃ body, escapeChars ch = '\\' :: body ∧ ∀ (c : Cursor) (rest : List Char), c.rest = body ++ rest →
    readEscape c = .ok ([ch], c.advance body.length)
  := by
  have hvalid : ch.toNat < 0xD800 ∨ 0xDFFF < ch.toNat ∧ ch.toNat < 0x110000 := ch.valid
  have hle := Text.numberOf_le ch
  rw [escapeChars]
  match hletter : escapeLetter? ch with
  | some letter =>
      use [letter], rfl
      intro c rest h
      have hrest : c.rest = letter :: rest := h
      simp only [readEscape, hrest, escapeOf?_of_escapeLetter? hletter]
      rfl
  | none =>
      simp only
      split
      · rename_i hn
        use 'x' :: upperHexDigits 2 (Text.numberOf ch), rfl
        intro c rest h
        rw [List.length_cons, length_upperHexDigits]
        apply readEscape_digits rfl rfl _ h
        omega
      · split
        · rename_i hn
          use 'u' :: upperHexDigits 4 (Text.numberOf ch), rfl
          intro c rest h
          rw [List.length_cons, length_upperHexDigits]
          apply readEscape_digits rfl rfl _ h
          omega
        · use 'U' :: upperHexDigits 8 (Text.numberOf ch), rfl
          intro c rest h
          rw [List.length_cons, length_upperHexDigits]
          apply readEscape_digits rfl rfl _ h
          omega

/-- The end of a folded line counts as nothing. -/
theorem readEscape_newLine {c : Cursor} {indent : Nat} {cs rest : List Char} {ch : Char}
    (hindent : 0 < indent) (h : c.rest = newLine indent ++ cs) (hcs : Solid cs ch rest) :
  readEscape c = .ok ([], c.advance (newLine indent).length)
  := by
  have hrest : c.rest = '\n' :: (List.replicate indent ' ' ++ ch :: rest) := by
    rw [h, hcs.eq]
    rfl
  have hbreak : c.readBreak? = some ('\n', c.step) :=
    Cursor.readBreak?_eq_some hrest (by decide) (by decide)
  have hnone : escapeOf? '\n' = none ∧ escapeWidth? '\n' = none := by decide
  have hread := readQuotedBreaks_eq ⟨[], indent, by simp, hindent⟩ (Cursor.rest_step_of_eq hrest)
    hcs.isSpaceOrTab_eq_false hcs.isBreak_eq_false (Nat.succ_pos c.step.rest.length)
  simp only [readEscape, hrest, hnone, hbreak]
  apply hread

/-! ### Writing -/

/-- A character that stands for itself needs no escape to be read, and is not white unless it is a
space. -/
theorem of_isLiteral {ch : Char} (h : isLiteral ch = true) :
  ch ≠ '\x22' ∧ ch ≠ '\\' ∧ isBreak ch = false ∧ (ch ≠ ' ' → isSpaceOrTab ch = false)
  := by
  refine ⟨?_, ?_, ?_, ?_⟩
  · rintro rfl
    exact absurd h (by decide)
  · rintro rfl
    exact absurd h (by decide)
  · rw [← Bool.not_eq_true]
    intro hbreak
    simp only [isBreak, isSeparator, Bool.or_eq_true, beq_iff_eq] at hbreak
    rcases hbreak with ((rfl | rfl) | rfl) | rfl | rfl
    all_goals exact absurd h (by decide)
  · intro hspace
    rw [isSpaceOrTab, beq_eq_false_iff_ne.mpr hspace, Bool.false_or, beq_eq_false_iff_ne]
    rintro rfl
    exact absurd h (by decide)

/-- What a character that stands for itself is written as. -/
theorem doubleChars_literal (fold : Bool) (indent column : Nat) (first escaped : Bool) {ch : Char}
    (cs : List Char) (hch : isLiteral ch = true) :
  doubleChars fold indent column first escaped (ch :: cs) = [ch] ++ doubleChars fold indent
    (column + 1) false false cs ∨ doubleChars fold indent column first escaped (ch :: cs)
      = doubleFold indent (some ch) ++ [ch] ++
        doubleChars fold indent (columnAfterFold indent (some ch) + 1) false false cs
  := by
  rw [doubleChars]
  simp only [hch, if_true]
  split
  · apply Or.inr
    simp
  · apply Or.inl
    rfl

/-- No line is folded before a space that is not beyond the width. -/
theorem doubleChars_space_of_le (fold : Bool) (indent : Nat) {column : Nat} (first escaped : Bool)
    (cs : List Char) (hcolumn : column ≤ lineWidth) :
  doubleChars fold indent column first escaped (' ' :: cs)
    = [' '] ++ doubleChars fold indent (column + 1) false false cs
  := by
  rw [doubleChars]
  simp [Nat.not_lt.mpr hcolumn, show isLiteral ' ' = true by decide]

/-- What a character that does not stand for itself is written as. -/
theorem doubleChars_escape (fold : Bool) (indent column : Nat) (first escaped : Bool) {ch : Char}
    (cs : List Char) (hch : isLiteral ch = false) :
  (∃ column', doubleChars fold indent column first escaped (ch :: cs)
      = escapeChars ch ++ doubleChars fold indent column' false true cs) ∨
    cs ≠ [] ∧ doubleChars fold indent column first escaped (ch :: cs)
      = escapeChars ch ++ doubleFold indent cs.head? ++
        doubleChars fold indent (columnAfterFold indent cs.head?) false true cs
  := by
  rw [doubleChars]
  simp only [hch, Bool.false_eq_true, if_false]
  split
  · rename_i hfold
    apply Or.inr
    constructor
    · rintro rfl
      simp at hfold
    · rfl
  · apply Or.inl
    exact ⟨_, rfl⟩

/-- After a character other than a space, what is written begins with no white space. -/
theorem exists_solid_double (fold : Bool) (indent column : Nat) (first escaped : Bool)
    {cs : List Char} (rest : List Char) (hspace : cs.head? ≠ some ' ') :
  ∃ ch tail, Solid (doubleChars fold indent column first escaped cs ++ '\x22' :: rest) ch tail
  := by
  cases cs with
  | nil =>
      use '\x22', rest
      exact ⟨rfl, by decide, by decide⟩
  | cons ch cs =>
      have hne : ch ≠ ' ' := by
        rintro rfl
        apply hspace rfl
      cases hch : isLiteral ch with
      | true =>
          obtain ⟨-, -, hbreak, hblank⟩ := of_isLiteral hch
          rcases doubleChars_literal fold indent column first escaped cs hch with heq | heq
          · rw [heq]
            exact ⟨_, _, rfl, hblank hne, hbreak⟩
          · rw [heq]
            exact ⟨'\\', _, rfl, by decide, by decide⟩
      | false =>
          obtain ⟨body, hbody, -⟩ := readEscape_escapeChars ch
          rcases doubleChars_escape fold indent column first escaped cs hch
            with ⟨column', heq⟩ | ⟨-, heq⟩
          · rw [heq, hbody]
            exact ⟨'\\', _, rfl, by decide, by decide⟩
          · rw [heq, hbody]
            exact ⟨'\\', _, rfl, by decide, by decide⟩

/-- After a space, spaces come before a character that is not white. -/
theorem exists_spaces_solid_double (fold : Bool) (indent column : Nat) (cs rest : List Char) :
  ∃ spaces ch tail, doubleChars fold indent column false false cs ++ '\x22' :: rest
    = spaces ++ ch :: tail ∧ (∀ b ∈ spaces, isSpaceOrTab b = true) ∧ isSpaceOrTab ch = false ∧
    isBreak ch = false
  := by
  induction cs generalizing column with
  | nil =>
      use [], '\x22', rest, rfl
      simp
      decide
  | cons c cs ih =>
      by_cases hc : c = ' '
      · subst hc
        have hliteral : isLiteral ' ' = true := by decide
        rcases doubleChars_literal fold indent column false false cs hliteral with heq | heq
        · obtain ⟨spaces, ch, tail, heq', hspaces, hch⟩ := ih (column + 1)
          use ' ' :: spaces, ch, tail
          constructor
          · rw [heq, List.append_assoc, heq']
            rfl
          · use by simpa [isSpaceOrTab] using hspaces
        · rw [heq]
          exact ⟨[], '\\', _, rfl, by simp, by decide, by decide⟩
      · have hspace : (c :: cs).head? ≠ some ' ' := by simpa using hc
        obtain ⟨ch, tail, hsolid⟩ := exists_solid_double fold indent column false false rest hspace
        use [], ch, tail, hsolid.eq
        exact ⟨by simp, hsolid.isSpaceOrTab_eq_false, hsolid.isBreak_eq_false⟩

/-! ### Reading what was written -/

namespace Reads

variable {c c' : Cursor} {text : List Char}

/-- An escape stands for the character that it was written for. -/
theorem escaped {ch : Char} {rest : List Char} (h : c.rest = escapeChars ch ++ rest)
    (hrest : Reads '\x22' (c.advance (escapeChars ch).length) text c') :
  Reads '\x22' c (ch :: text) c'
  := by
  obtain ⟨body, hbody, hread⟩ := readEscape_escapeChars ch
  rw [hbody] at h hrest
  have h' : c.rest = '\\' :: (body ++ rest) := h
  apply escape h' (hread c.step rest (Cursor.rest_step_of_eq h'))
  · rw [Cursor.rest_advance_of_eq (Cursor.rest_step_of_eq h'), List.length_append]
    omega
  · apply hrest

/-- A space may have a backslash before it. -/
theorem escapedSpace {rest : List Char} (h : c.rest = ['\\', ' '] ++ rest)
    (hrest : Reads '\x22' (c.advance 2) text c') :
  Reads '\x22' c (' ' :: text) c'
  := by
  have hstep : c.step.rest = ' ' :: rest := Cursor.rest_step_of_eq h
  have hread : readEscape c.step = .ok ([' '], c.step.step) := by
    have hspace : escapeOf? ' ' = some ' ' := by decide
    simp only [readEscape, hstep, hspace]
  apply escape h hread
  · rw [Cursor.rest_step_of_eq hstep]
    apply Nat.le_succ
  · apply hrest

/-- The end of a folded line stands for nothing. -/
theorem foldedLine {indent : Nat} {cs rest : List Char} {ch : Char} (hindent : 0 < indent)
    (h : c.rest = ('\\' :: newLine indent) ++ cs) (hcs : Solid cs ch rest)
    (hrest : Reads '\x22' (c.advance ('\\' :: newLine indent).length) text c') :
  Reads '\x22' c text c'
  := by
  have hstep : c.step.rest = newLine indent ++ cs := Cursor.rest_step_of_eq h
  have hread := readEscape_newLine hindent hstep hcs
  have hle : cs.length ≤ (newLine indent ++ cs).length := by
    rw [List.length_append]
    apply Nat.le_add_left
  rw [← List.nil_append text]
  apply escape h hread
  · rw [Cursor.rest_advance_of_eq hstep]
    apply hle
  · apply hrest

/-- A character on the next line, which has a backslash before it if it is a space. -/
theorem foldedLiteral {indent : Nat} {ch : Char} {rest : List Char} (hindent : 0 < indent)
    (hch : isLiteral ch = true) (h : c.rest = doubleFold indent (some ch) ++ [ch] ++ rest)
    (hrest : Reads '\x22' (c.advance (doubleFold indent (some ch) ++ [ch]).length) text c') :
  Reads '\x22' c (ch :: text) c'
  := by
  obtain ⟨hquote, hbackslash, hbreak, hblank⟩ := of_isLiteral hch
  by_cases hspace : ch = ' '
  · subst hspace
    have hfold : doubleFold indent (some ' ') ++ [' ']
        = ('\\' :: newLine indent) ++ ['\\', ' '] := by
      simp [doubleFold]
    rw [hfold] at h hrest
    rw [List.append_assoc] at h
    apply foldedLine hindent h ⟨rfl, by decide, by decide⟩
    apply escapedSpace (Cursor.rest_advance_of_eq h)
    rw [Cursor.advance_advance]
    rw [List.length_append] at hrest
    apply hrest
  · have hfold : doubleFold indent (some ch) ++ [ch] = ('\\' :: newLine indent) ++ [ch] := by
      simp [doubleFold, hspace]
    rw [hfold] at h hrest
    rw [List.append_assoc] at h
    apply foldedLine hindent h ⟨rfl, hblank hspace, hbreak⟩
    apply char (Cursor.rest_advance_of_eq h) hquote (fun _ => hbackslash) (hblank hspace) hbreak
    rw [← Cursor.advance_one, Cursor.advance_advance]
    rw [List.length_append] at hrest
    apply hrest

end Reads

namespace ReadsAs

variable {written text : List Char}

/-- An escape is read as the character that it was written for. -/
theorem escaped (ch : Char) (h : ReadsAs '\x22' written text) :
  ReadsAs '\x22' (escapeChars ch ++ written) (ch :: text)
  := h.append (escapeChars ch) [ch] fun hc hread => Reads.escaped hc hread

/-- The end of a folded line before a solid character is read as nothing. -/
theorem foldedLine {indent : Nat} (hindent : 0 < indent) (h : ReadsAs '\x22' written text)
    (hsolid : ∀ rest, ∃ ch tail, Solid (written ++ '\x22' :: rest) ch tail) :
  ReadsAs '\x22' ('\\' :: newLine indent ++ written) text
  := by
  apply h.append ('\\' :: newLine indent) []
  intro c c' rest hc hread
  obtain ⟨ch, tail, hwritten⟩ := hsolid rest
  exact Reads.foldedLine hindent hc hwritten hread

/-- The end of a folded line and a character after it are read as the character. -/
theorem foldedLiteral {indent : Nat} {ch : Char} (hindent : 0 < indent) (hch : isLiteral ch = true)
    (h : ReadsAs '\x22' written text) :
  ReadsAs '\x22' (doubleFold indent (some ch) ++ [ch] ++ written) (ch :: text)
  := h.append (doubleFold indent (some ch) ++ [ch]) [ch] fun hc hread => Reads.foldedLiteral hindent
    hch hc hread

end ReadsAs

/-- The next line of a folded text is read as that text, if it and what comes after its first
character are. -/
theorem readsAs_nextLine {fold : Bool} {indent : Nat} {ch : Char} {cs : List Char}
    (hindent : 0 < indent) (hwidth : indent < lineWidth)
    (h : ∀ column escaped,
      ReadsAs '\x22' (doubleChars fold indent column false escaped (ch :: cs)) (ch :: cs))
    (hcs : ∀ column escaped, ReadsAs '\x22' (doubleChars fold indent column false escaped cs) cs) :
  ReadsAs '\x22' (doubleFold indent (some ch) ++
    doubleChars fold indent (columnAfterFold indent (some ch)) false true (ch :: cs)) (ch :: cs)
  := by
  by_cases hspace : ch = ' '
  · subst hspace
    have hcolumn : columnAfterFold indent (some ' ') ≤ lineWidth := by
      rw [columnAfterFold, if_pos rfl]
      apply hwidth
    rw [doubleChars_space_of_le fold indent false true cs hcolumn, ← List.append_assoc]
    exact (hcs _ _).foldedLiteral hindent (by decide)
  · have hfold : doubleFold indent (some ch) = '\\' :: newLine indent := by
      simp [doubleFold, hspace]
    rw [hfold]
    apply (h _ _).foldedLine hindent
    intro rest
    apply exists_solid_double
    simpa using hspace

/-- A text that is written between double quotes is read as itself. -/
theorem readsAs_doubleChars {fold : Bool} {indent column : Nat} {first escaped : Bool}
    {cs : List Char} (hindent : 0 < indent) (hwidth : indent < lineWidth) :
  ReadsAs '\x22' (doubleChars fold indent column first escaped cs) cs
  := by
  cases cs with
  | nil =>
      rw [doubleChars]
      exact ReadsAs.nil _
  | cons ch cs =>
      have hcs : ∀ column first escaped,
          ReadsAs '\x22' (doubleChars fold indent column first escaped cs) cs :=
        fun _ _ _ => readsAs_doubleChars hindent hwidth
      cases hch : isLiteral ch with
      | true =>
          obtain ⟨hquote, hbackslash, hbreak, hblank⟩ := of_isLiteral hch
          rcases doubleChars_literal fold indent column first escaped cs hch with heq | heq
          · rw [heq]
            by_cases hspace : ch = ' '
            · subst hspace
              apply (hcs _ _ _).space (Or.inr rfl)
              intro rest
              exact exists_spaces_solid_double fold indent (column + 1) cs rest
            · exact (hcs _ _ _).char hquote (fun _ => hbackslash) (hblank hspace) hbreak
          · rw [heq]
            exact (hcs _ _ _).foldedLiteral hindent hch
      | false =>
          rcases doubleChars_escape fold indent column first escaped cs hch
            with ⟨column', heq⟩ | ⟨hne, heq⟩
          · rw [heq]
            exact (hcs _ _ _).escaped ch
          · cases cs with
            | nil => exact absurd rfl hne
            | cons d cs =>
                rw [heq, List.append_assoc]
                apply ReadsAs.escaped
                exact readsAs_nextLine hindent hwidth (fun _ _ => hcs _ _ _) fun _ _ =>
                  readsAs_doubleChars hindent hwidth
termination_by cs.length

end AgentBundles.Yaml
