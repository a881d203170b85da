import AgentBundles.Proofs.Yaml.Scalars
import AgentBundles.Yaml.Writer

/-!
# Keys

What is written of a key of a mapping up to its colon. A short key on one line stands before its
colon. Before any other key there is a mark, and its colon is on a line of its own.
-/

namespace AgentBundles.Yaml

/-! ### Characters of escapes -/

/-- A character that is seen, as the characters of escapes are. -/
def IsGraphic (ch : Char) : Prop := 0x21 ≤ ch.toNat ∧ ch.toNat ≤ 0x7E

instance : DecidablePred IsGraphic := fun _ => inferInstanceAs (Decidable (_ ∧ _))

/-- Hexadecimal digits are seen. -/
theorem isGraphic_of_mem_upperHexDigits {ch : Char} {width n : Nat}
    (h : ch ∈ upperHexDigits width n) :
  IsGraphic ch
  := by
  obtain ⟨digit, hmem, rfl⟩ := List.mem_map.mp h
  obtain ⟨d, hd, rfl⟩ := Text.exists_of_mem_hexDigits hmem
  have hall : ∀ d < 16, IsGraphic (Text.hexDigit d).toUpper := by decide
  apply hall d hd

/-- A letter after a backslash is seen. -/
theorem isGraphic_of_escapeLetter? {ch letter : Char} (h : escapeLetter? ch = some letter) :
  IsGraphic letter
  := by
  unfold escapeLetter? at h
  split at h
  all_goals try (cases h; decide)
  split at h
  · cases h
    decide
  · split at h
    · cases h
      decide
    · split at h
      · cases h
        decide
      · cases h

/-- An escape is made of characters that are seen. -/
theorem isGraphic_of_mem_escapeChars {ch d : Char} (h : d ∈ escapeChars ch) :
  IsGraphic d
  := by
  rw [escapeChars] at h
  split at h
  · rename_i letter hletter
    rcases List.mem_cons.mp h with rfl | h
    · decide
    · rw [List.mem_singleton.mp h]
      apply isGraphic_of_escapeLetter? hletter
  · have hdigits : ∀ {letter : Char} {width : Nat}, IsGraphic letter →
        d ∈ '\\' :: letter :: upperHexDigits width (Text.numberOf ch) → IsGraphic d := by
      intro letter width hletter hd
      rcases List.mem_cons.mp hd with rfl | hd
      · decide
      · rcases List.mem_cons.mp hd with rfl | hd
        · apply hletter
        · apply isGraphic_of_mem_upperHexDigits hd
    simp only at h
    split at h
    · apply hdigits _ h
      decide
    · split at h
      · apply hdigits _ h
        decide
      · apply hdigits _ h
        decide

/-! ### Keys on one line -/

/-- A character that ends no line and takes a column. -/
def IsInline (ch : Char) : Prop := isBreak ch = false ∧ ch ≠ byteOrderMark

theorem IsGraphic.isInline {ch : Char} (h : IsGraphic ch) :
  IsInline ch
  := by
  constructor
  · rw [← Bool.not_eq_true]
    intro hbreak
    simp only [isBreak, isSeparator, Bool.or_eq_true, beq_iff_eq] at hbreak
    rcases hbreak with ((rfl | rfl) | rfl) | rfl | rfl
    all_goals exact absurd h (by decide)
  · rintro rfl
    exact absurd h (by decide)

/-- A character that stands for itself without quotes or between single ones, and breaks no line. -/
theorem isInline_of_needsEscape {ch : Char} (hescape : needsEscape ch = false)
    (hbreak : isWrittenBreak ch = false) :
  IsInline ch
  := by
  constructor
  · exact (not_white_of_needsEscape hescape hbreak).2
  · rintro rfl
    exact absurd hescape (by decide)

theorem isInline_of_isLiteral {ch : Char} (h : isLiteral ch = true) :
  IsInline ch
  := by
  constructor
  · exact (of_isLiteral h).2.2.1
  · rintro rfl
    exact absurd h (by decide)

/-- Without folding, a text that needs no quotes is written as it is. -/
theorem plainChars_false (indent column : Nat) (afterSpace : Bool) (cs : List Char) :
  plainChars false indent column afterSpace cs = cs
  := by
  induction cs generalizing column afterSpace with
  | nil => rfl
  | cons ch cs ih =>
      rw [plainChars, Bool.and_false, if_neg Bool.false_ne_true, ih]

/-- Without folding and line breaks, what stands between single quotes is on one line. -/
theorem isInline_of_mem_singleChars {indent column : Nat} {before : Before} {cs : List Char}
    {d : Char} (hcs : ∀ ch ∈ cs, needsEscape ch = false ∧ isWrittenBreak ch = false)
    (hd : d ∈ singleChars false indent column before cs) :
  IsInline d
  := by
  induction cs generalizing column before with
  | nil => cases hd
  | cons ch cs ih =>
      obtain ⟨hescape, hbreak⟩ := hcs ch List.mem_cons_self
      have hcs' : ∀ ch ∈ cs, needsEscape ch = false ∧ isWrittenBreak ch = false := by
        intro d hd
        apply hcs d (List.mem_cons_of_mem _ hd)
      by_cases hquote : ch = '\x27'
      · subst hquote
        rw [singleChars, beq_self_eq_true, if_pos rfl] at hd
        rcases List.mem_cons.mp hd with rfl | hd
        · apply IsGraphic.isInline (by decide)
        · rcases List.mem_cons.mp hd with rfl | hd
          · apply IsGraphic.isInline (by decide)
          · apply ih hcs' hd
      · have hfold : ch = ' ' → foldsSpace false column before cs = false := by
          intro _
          rw [foldsSpace, Bool.and_false]
        rw [singleChars_cons _ _ _ _ hquote hbreak hfold] at hd
        rcases List.mem_cons.mp hd with rfl | hd
        · apply isInline_of_needsEscape hescape hbreak
        · apply ih hcs' hd

/-- Without folding, what stands between double quotes is on one line. -/
theorem isInline_of_mem_doubleChars {indent column : Nat} {first escaped : Bool} {cs : List Char}
    {d : Char} (hd : d ∈ doubleChars false indent column first escaped cs) :
  IsInline d
  := by
  induction cs generalizing column first escaped with
  | nil => cases hd
  | cons ch cs ih =>
      rw [doubleChars] at hd
      simp only [Bool.false_and, Bool.false_eq_true, if_false] at hd
      split at hd
      · rename_i hliteral
        rcases List.mem_cons.mp hd with rfl | hd
        · apply isInline_of_isLiteral hliteral
        · apply ih hd
      · rcases List.mem_append.mp hd with hd | hd
        · apply (isGraphic_of_mem_escapeChars hd).isInline
        · apply ih hd

/-- A key that stands before its colon is on one line. -/
theorem isInline_of_mem_writeText {key : String} (hkey : isSimpleKey (.str key) = true)
    {indent column : Nat} {d : Char} (hd : d ∈ writeText true indent column key) :
  IsInline d
  := by
  have hbreaks : ∀ ch ∈ key.toList, isWrittenBreak ch = false := by
    simp only [isSimpleKey, scalarText, isMultiline, Bool.and_eq_true, Bool.not_eq_true'] at hkey
    intro ch hch
    simpa using List.any_eq_false.mp hkey.2 ch hch
  rw [writeText] at hd
  cases hstyle : styleOf true key with
  | plain =>
      simp only [hstyle, Bool.not_true, plainChars_false] at hd
      have hplain := (of_styleOf_eq_plain hstyle).2
      simp only [allowsPlain, Bool.and_eq_true, Bool.not_eq_true'] at hplain
      apply isInline_of_needsEscape _ (hbreaks d hd)
      simpa using List.any_eq_false.mp hplain.2 d hd
  | singleQuoted =>
      have hsingle := of_styleOf_eq_singleQuoted hstyle
      simp only [allowsSingleQuotes, Bool.and_eq_true, Bool.not_eq_true'] at hsingle
      have hcs : ∀ ch ∈ key.toList, needsEscape ch = false ∧ isWrittenBreak ch = false := by
        intro ch hch
        exact ⟨by simpa using List.any_eq_false.mp hsingle.2 ch hch, hbreaks ch hch⟩
      simp only [hstyle, Bool.not_true, List.mem_cons, List.mem_append, List.not_mem_nil,
        or_false] at hd
      rcases hd with (rfl | hd) | rfl
      · apply IsGraphic.isInline (by decide)
      · apply isInline_of_mem_singleChars hcs hd
      · apply IsGraphic.isInline (by decide)
  | doubleQuoted =>
      simp only [hstyle, Bool.not_true, List.mem_cons, List.mem_append, List.not_mem_nil,
        or_false] at hd
      rcases hd with (rfl | hd) | rfl
      · apply IsGraphic.isInline (by decide)
      · apply isInline_of_mem_doubleChars hd
      · apply IsGraphic.isInline (by decide)

/-! ### The line of a key -/

/-- The beginning of a line that continues no scalar, and is no mark of a document or comment. -/
structure StartsLine (cs : List Char) (ch : Char) (rest : List Char) :
    Prop extends Solid cs ch rest where
  beginsWithMarker_eq_false : beginsWithMarker cs = false
  ne_comment : ch ≠ '#'

theorem StartsLine.atMarker_eq_false {cs : List Char} {ch : Char} {rest : List Char}
    (h : StartsLine cs ch rest) :
  atMarker cs = false
  := by
  have hmarker := Bool.or_eq_false_iff.mp h.beginsWithMarker_eq_false
  rw [atMarker, atMarkerOf, atMarkerOf, hmarker.1, hmarker.2]
  rfl

/-- A colon or the mark of a key may start a line. -/
theorem startsLine_mark {ch : Char} (h : ch = '?' ∨ ch = ':') (rest : List Char) :
  StartsLine (ch :: rest) ch rest
  := by
  rcases h with rfl | rfl
  · exact ⟨⟨rfl, by decide, by decide⟩, rfl, by decide⟩
  · exact ⟨⟨rfl, by decide, by decide⟩, rfl, by decide⟩

/-- A mark is not completed by another character. -/
theorem isPrefixOf_append_of_ne {a b : Char} (hne : a ≠ b) {cs : List Char}
    (h : [a, a, a].isPrefixOf cs = false) (rest : List Char) :
  [a, a, a].isPrefixOf (cs ++ b :: rest) = false
  := by
  match cs with
  | [] => simp [List.isPrefixOf, hne]
  | [c] => simp [List.isPrefixOf, hne]
  | [c, d] => simp [List.isPrefixOf, hne]
  | c :: d :: e :: cs => simpa [List.isPrefixOf] using h

/-- The beginning of a text is no mark of a document, if it is none alone and a colon comes after
it. -/
theorem beginsWithMarker_append_colon {cs : List Char} (h : beginsWithMarker cs = false)
    (rest : List Char) :
  beginsWithMarker (cs ++ ':' :: rest) = false
  := by
  rw [beginsWithMarker, Bool.or_eq_false_iff] at h
  rw [beginsWithMarker, isPrefixOf_append_of_ne (by decide) h.1,
    isPrefixOf_append_of_ne (by decide) h.2]
  rfl

/-- A key with its colon starts a line. -/
theorem exists_startsLine_writeText (key : String) (rest : List Char) :
  ∃ ch tail, StartsLine (writeText true 2 0 key ++ ':' :: rest) ch tail
  := by
  obtain ⟨ch, tail, hsolid, hcomment⟩ := exists_solid_writeText true 2 0 key (':' :: rest)
  use ch, tail
  constructor
  · apply hsolid
  · rw [writeText]
    cases h : styleOf true key with
    | plain =>
        have hplain := (of_styleOf_eq_plain h).2
        simp only [allowsPlain, Bool.and_eq_true, Bool.not_eq_true'] at hplain
        rw [Bool.not_true, plainChars_false]
        apply beginsWithMarker_append_colon hplain.1.1.1.1.1.1
    | singleQuoted => rfl
    | doubleQuoted => rfl
  · apply hcomment

/-- What is written of a key before its colon. -/
def writeKey (key : String) : List Char :=
  if isSimpleKey (.str key) then writeText true 2 0 key
    else '?' :: ' ' :: (writeText false 2 2 key ++ ['\n'])

/-- A key that is near enough to its colon, if it is on one line with it. -/
def KeyFits (key : String) : Prop :=
  isSimpleKey (.str key) = true → (writeText true 2 0 key).length ≤ 1024

instance : DecidablePred KeyFits := fun _ => inferInstanceAs (Decidable (_ → _))

theorem exists_startsLine (key : String) (rest : List Char) :
  ∃ ch tail, StartsLine (writeKey key ++ ':' :: rest) ch tail
  := by
  rw [writeKey]
  split
  · apply exists_startsLine_writeText
  · exact ⟨'?', _, startsLine_mark (Or.inl rfl) _⟩

/-- The text of a key does not begin with a byte order mark. -/
theorem exists_cons_writeKey (key : String) :
  ∃ ch tail, writeKey key = ch :: tail ∧ ch ≠ byteOrderMark
  := by
  rw [writeKey]
  split
  · rename_i hkey
    obtain ⟨ch, tail, heq⟩ := exists_cons_writeText true 2 0 key
    have hinline : IsInline ch := by
      apply isInline_of_mem_writeText hkey
      rw [heq]
      apply List.mem_cons_self
    exact ⟨ch, tail, heq, hinline.2⟩
  · exact ⟨'?', _, rfl, by decide⟩

/-! ### Mappings -/

/-- The entries of a mapping of texts. -/
def textEntries (entries : List (String × String)) : Entries :=
  entries.map fun e => (.str e.1, .str e.2)

/-- An entry of a mapping of texts starts a line with its key. -/
theorem writeEntries_cons (e : String × String) (entries : List (String × String)) :
  ∃ column, writeEntries true 0 (textEntries (e :: entries))
    = writeKey e.1 ++ ':' :: ' ' ::
      (writeText false 2 column e.2 ++ writeEntries false 0 (textEntries entries))
  := by
  rw [textEntries, List.map_cons, writeEntries, writeKey]
  cases isSimpleKey (.str e.1) with
  | true =>
      use 0 + (writeText true 2 0 e.1).length + 1 + 1
      simp only [if_true, writeScalar, writeAfterKey, List.nil_append, List.append_assoc,
        List.cons_append]
      rfl
  | false =>
      use 2
      simp only [Bool.false_eq_true, if_true, if_false, writeScalar, writeAfterMark, newLine,
        List.replicate_zero, List.nil_append, List.append_assoc, List.cons_append]
      rfl

/-- The entries after the first one begin on a new line. -/
theorem writeEntries_false (e : String × String) (entries : List (String × String)) :
  writeEntries false 0 (textEntries (e :: entries))
    = '\n' :: writeEntries true 0 (textEntries (e :: entries))
  := by
  rw [textEntries, List.map_cons, writeEntries, writeEntries]
  rfl

/-- A mapping of texts starts a line with its first key. -/
theorem exists_startsLine_writeEntries (e : String × String) (entries : List (String × String)) :
  ∃ ch tail, StartsLine (writeEntries true 0 (textEntries (e :: entries))) ch tail
  := by
  obtain ⟨column, heq⟩ := writeEntries_cons e entries
  rw [heq]
  apply exists_startsLine

end AgentBundles.Yaml
