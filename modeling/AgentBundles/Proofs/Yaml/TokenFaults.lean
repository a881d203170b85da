import AgentBundles.Proofs.Outcome
import AgentBundles.Yaml.Node

/-!
# Faults of tokens

What keeps the tokens of a text from being read: it breaks the rules of the grammar, or an escape in
it numbers no character.
-/

namespace AgentBundles.Yaml

variable {α β : Type}

/-- A text is malformed, or an escape in it numbers no character. -/
def Fault.OfTokens (f : Fault) : Prop := f = .malformed ∨ ∃ n, f = .codePoint n ∧ 0x10FFFF < n

/-- An outcome has a fault of the tokens, if it has one. -/
def Scans (x : Result α) : Prop := Yields (fun _ => True) Fault.OfTokens x

@[simp]
theorem scans_ok (a : α) :
  Scans (.ok a)
  := trivial

@[simp]
theorem scans_pure (a : α) :
  Scans (pure a)
  := scans_ok a

@[simp]
theorem scans_malformed :
  Scans (.error .malformed : Result α)
  := Or.inl rfl

@[simp]
theorem scans_throw :
  Scans (throw .malformed : Result α)
  := scans_malformed

@[simp]
theorem scans_bind_iff {x : Result α} {f : α → Result β} :
  Scans (x >>= f) ↔ Scans x ∧ ∀ a, x = .ok a → Scans (f a)
  := by
  cases x with
  | ok a => simp
  | error e =>
      constructor
      · intro h
        exact ⟨h, fun a ha => by cases ha⟩
      · rintro ⟨h, -⟩
        exact h

theorem Scans.bind {x : Result α} {f : α → Result β} (hx : Scans x) (hf : ∀ a, Scans (f a)) :
  Scans (x >>= f)
  := scans_bind_iff.mpr ⟨hx, fun a _ => hf a⟩

@[simp]
theorem scans_map_iff {x : Result α} {f : α → β} :
  Scans (f <$> x) ↔ Scans x
  := by
  have hmap : f <$> x = x >>= fun a => pure (f a) := (bind_pure_comp f x).symm
  rw [hmap, scans_bind_iff]
  simp

@[simp]
theorem scans_ite_iff {p : Prop} [Decidable p] {x y : Result α} :
  Scans (if p then x else y) ↔ (p → Scans x) ∧ (¬ p → Scans y)
  := by
  by_cases h : p
  · simp [h]
  · simp [h]

@[simp]
theorem scans_skipIgnoredLine (c : Cursor) :
  Scans c.skipIgnoredLine
  := by
  simp [Cursor.skipIgnoredLine]

@[simp]
theorem scans_readQuotedBreaks (fuel : Nat) (c : Cursor) :
  Scans (readQuotedBreaks fuel c)
  := by
  induction fuel generalizing c with
  | zero => apply scans_ok
  | succ fuel ih =>
      rw [readQuotedBreaks]
      cases h : (c.skip fun ch => ch == ' ' || ch == '\t').readBreak? with
      | none => simp [h]
      | some b => simp [h, ih]

@[simp]
theorem scans_readQuotedSpaces (c : Cursor) :
  Scans (readQuotedSpaces c)
  := by
  rw [readQuotedSpaces]
  dsimp only
  split
  · apply scans_malformed
  · apply scans_ok
  · simp

@[simp]
theorem scans_charOfCode (n : Nat) :
  Scans (charOfCode n)
  := by
  rw [charOfCode]
  split
  · rename_i hn
    exact Or.inr ⟨n, rfl, hn⟩
  · simp

@[simp]
theorem scans_readEscape (c : Cursor) :
  Scans (readEscape c)
  := by
  rw [readEscape]
  split
  · apply scans_malformed
  · split
    · apply scans_ok
    · dsimp only
      split
      · apply scans_malformed
      · simp
    · apply scans_readQuotedBreaks
    · apply scans_malformed

@[simp]
theorem scans_readQuoted (quote : Char) (fuel : Nat) (c : Cursor) :
  Scans (readQuoted quote fuel c)
  := by
  induction fuel generalizing c with
  | zero => apply scans_malformed
  | succ fuel ih =>
      rw [readQuoted]
      split
      · apply scans_malformed
      · simp [ih]

@[simp]
theorem scans_readIndentation (c : Cursor) :
  Scans (readIndentation c)
  := by
  rw [readIndentation]
  split
  · simp
  · apply scans_ok

@[simp]
theorem scans_readIndicators (c : Cursor) :
  Scans (readIndicators c)
  := by
  simp [readIndicators]

@[simp]
theorem scans_readBlock (folded : Bool) (indent : Int) (c : Cursor) :
  Scans (readBlock folded indent c)
  := by
  apply Scans.bind (scans_readIndicators c)
  rintro ⟨chomping, increment?, c⟩
  apply Scans.bind (scans_skipIgnoredLine c)
  intro c
  cases increment? with
  | none => apply scans_pure
  | some increment => apply scans_pure

@[simp]
theorem scans_readNumber (c : Cursor) :
  Scans (readNumber c)
  := by
  simp [readNumber]

@[simp]
theorem scans_readEscapedBytes (fuel : Nat) (c : Cursor) :
  Scans (readEscapedBytes fuel c)
  := by
  induction fuel generalizing c with
  | zero => apply scans_ok
  | succ fuel ih =>
      rw [readEscapedBytes]
      split
      · split
        · simp [ih]
        · apply scans_malformed
      · apply scans_malformed
      · apply scans_ok

@[simp]
theorem scans_readTagChars (fuel : Nat) (c : Cursor) :
  Scans (readTagChars fuel c)
  := by
  induction fuel generalizing c with
  | zero => apply scans_ok
  | succ fuel ih =>
      rw [readTagChars]
      split
      · apply Scans.bind (scans_readEscapedBytes _ c)
        rintro ⟨bytes, c⟩
        dsimp only
        split
        · apply scans_throw
        · simp [ih]
      · simp [ih]

@[simp]
theorem scans_readTagText (c : Cursor) :
  Scans (readTagText c)
  := by
  simp [readTagText]

@[simp]
theorem scans_readTagHandle (c : Cursor) :
  Scans (readTagHandle c)
  := by
  simp [readTagHandle]

@[simp]
theorem scans_readDirective (c : Cursor) :
  Scans (readDirective c)
  := by
  rw [readDirective]
  dsimp only
  split
  · exact scans_throw
  · split
    · apply Scans.bind (scans_readNumber _)
      intro major
      split
      · exact scans_throw
      · apply Scans.bind (scans_readNumber _)
        simp
    · split
      · apply Scans.bind (scans_readTagHandle _)
        intro handle
        split
        · exact scans_throw
        · apply Scans.bind (scans_readTagText _)
          simp
      · simp

@[simp]
theorem scans_readAnchorName (c : Cursor) :
  Scans (readAnchorName c)
  := by
  rw [readAnchorName]
  dsimp only
  split
  · apply scans_malformed
  · split
    · apply scans_ok
    · apply scans_malformed

@[simp]
theorem scans_readTag (c : Cursor) :
  Scans (readTag c)
  := by
  rw [readTag]
  split
  · apply Scans.bind (scans_readTagText _)
    rintro ⟨text, c⟩
    dsimp only
    split
    · exact scans_throw
    · simp
  · split
    · simp
    · split
      · apply Scans.bind (scans_readTagHandle _)
        simp
      · apply Scans.bind (scans_readTagText _)
        simp

namespace Reader

@[simp]
theorem scans_dropStale (r : Reader) :
  Scans r.dropStale
  := by
  simp [dropStale]

@[simp]
theorem scans_dropPlace (r : Reader) :
  Scans r.dropPlace
  := by
  simp [dropPlace]

@[simp]
theorem scans_savePlace (r : Reader) :
  Scans r.savePlace
  := by
  simp [savePlace]

@[simp]
theorem scans_needKeyAllowed (r : Reader) :
  Scans r.needKeyAllowed
  := by
  simp [needKeyAllowed]

theorem scans_readValueMark (r : Reader) :
  Scans r.readValueMark
  := by
  rw [readValueMark]
  split
  · apply scans_ok
  · simp

theorem scans_readInline (r : Reader) {read : Cursor → Result (Token × Cursor)}
    (h : ∀ c, Scans (read c)) :
  Scans (r.readInline read)
  := by
  simp [readInline, h]

/-- A token cannot be read if the text is malformed there, or if an escape in it numbers no
character. -/
theorem scans_readToken (r : Reader) (ch : Char) (rest : List Char) :
  Scans (r.readToken ch rest)
  := by
  have hnamed : ∀ make c, Scans (readNamed make c) := by
    simp [readNamed]
  have hquoted : ∀ quote c, Scans (readQuotedToken quote c) := by
    simp [readQuotedToken]
  simp [readToken, readDirectiveLine, readMarker, readFlowStart, readFlowEnd, readFlowEntry,
    readBlockEntry, readKeyMark, scans_readValueMark, scans_readInline, hnamed, hquoted,
    readBlockToken, readPlainToken]

theorem fault_of_run {fuel : Nat} {r : Reader} {f : Fault} (h : (run fuel r).2 = some f) :
  f.OfTokens
  := by
  induction fuel generalizing r with
  | zero =>
      cases h
      exact Or.inl rfl
  | succ fuel ih =>
      rw [run] at h
      split at h
      · rename_i e hstale
        cases h
        apply (scans_dropStale _).of_error hstale
      · dsimp only at h
        split at h
        · split at h
          · cases h
          · rename_i e hplace
            cases h
            apply (scans_dropPlace _).of_error hplace
        · split at h
          · apply ih h
          · rename_i e htoken
            cases h
            apply (scans_readToken _ _ _).of_error htoken

end Reader

theorem fault_of_tokens {cs : List Char} {f : Fault} (h : (tokens cs).2 = some f) :
  f.OfTokens
  := by
  have hrun : (Reader.run (cs.length + 1) (Reader.start cs)).2 = some f := h
  apply Reader.fault_of_run hrun

/-- A text is no document if it is malformed, or if an escape in it numbers no character. -/
theorem scans_document (text : String) :
  Scans (document text)
  := by
  rw [document]
  dsimp only
  split
  · apply scans_malformed
  · cases htokens : tokens text.toList with
    | mk ts fault? =>
        have hfault : ∀ e, fault? = some e → e.OfTokens := by
          rintro e rfl
          apply fault_of_tokens
          rw [htokens]
        dsimp only
        split
        · apply scans_ok
        · exact hfault _ rfl
        · exact hfault _ rfl
        · apply scans_malformed

end AgentBundles.Yaml
