import AgentBundles.Proofs.Yaml.Keys

/-!
# Written lines

The characters of a written text may all stand in YAML, no line of it but the first begins with a
hyphen, and none ends with a carriage return.
-/

namespace AgentBundles.Yaml

/-- Characters that may stand in YAML, in which a line feed comes before another character than a
hyphen. -/
inductive Tame : List Char → Prop where
  | nil : Tame []
  | cons {c : Char} {cs : List Char} : isAllowed c = true → c ≠ '\r' → c ≠ '\n' → Tame cs →
      Tame (c :: cs)
  | lineFeed {c : Char} {cs : List Char} : c ≠ '-' → Tame (c :: cs) → Tame ('\n' :: c :: cs)

namespace Tame

variable {cs ds : List Char}

theorem append (hcs : Tame cs) (hds : Tame ds) :
  Tame (cs ++ ds)
  := by
  induction hcs with
  | nil => apply hds
  | cons hallowed hreturn hfeed _ ih => exact .cons hallowed hreturn hfeed ih
  | lineFeed hhyphen _ ih => exact .lineFeed hhyphen ih

/-- Characters of one line may be put before others. -/
theorem line_append (hcs : ∀ c ∈ cs, isAllowed c = true ∧ c ≠ '\r' ∧ c ≠ '\n') (hds : Tame ds) :
  Tame (cs ++ ds)
  := by
  induction cs with
  | nil => apply hds
  | cons c cs ih =>
      obtain ⟨hallowed, hreturn, hfeed⟩ := hcs c List.mem_cons_self
      apply Tame.cons hallowed hreturn hfeed
      apply ih
      intro d hd
      apply hcs d (List.mem_cons_of_mem _ hd)

/-- Characters may be indented. -/
theorem indent_append (n : Nat) (hds : Tame ds) :
  Tame (List.replicate n ' ' ++ ds)
  := by
  apply line_append _ hds
  intro c hc
  rw [(List.mem_replicate.mp hc).2]
  decide

/-- An indented line may be put before others. -/
theorem newLine_append {indent : Nat} (hindent : 0 < indent) (hds : Tame ds) :
  Tame (newLine indent ++ ds)
  := by
  obtain ⟨n, rfl⟩ := Nat.exists_eq_succ_of_ne_zero (Nat.ne_of_gt hindent)
  apply Tame.lineFeed (by decide) (indent_append (n + 1) hds)

end Tame

/-! ### Characters -/

/-- A character that needs no escape may stand in YAML. -/
theorem of_needsEscape {ch : Char} (h : needsEscape ch = false) :
  isAllowed ch = true ∧ ch ≠ '\r'
  := by
  constructor
  · rw [needsEscape] at h
    rw [isAllowed]
    simp only [Bool.not_eq_false', Bool.or_eq_true, Bool.and_eq_true, beq_iff_eq, bne_iff_ne,
      decide_eq_true_eq] at h ⊢
    rcases h with ((((rfl | h) | h) | h) | h) | h
    all_goals first
      | decide
      | omega
  · rintro rfl
    exact absurd h (by decide)

/-- A character that stands for itself between double quotes may stand in YAML. -/
theorem of_isLiteral_tame {ch : Char} (h : isLiteral ch = true) :
  isAllowed ch = true ∧ ch ≠ '\r' ∧ ch ≠ '\n'
  := by
  refine ⟨?_, ?_, ?_⟩
  · rw [isLiteral] at h
    rw [isAllowed]
    simp only [Bool.or_eq_true, Bool.and_eq_true, beq_iff_eq, bne_iff_ne, decide_eq_true_eq] at h ⊢
    omega
  · rintro rfl
    exact absurd h (by decide)
  · rintro rfl
    exact absurd h (by decide)

/-- A character that is seen may stand in YAML. -/
theorem IsGraphic.tame {ch : Char} (h : IsGraphic ch) :
  isAllowed ch = true ∧ ch ≠ '\r' ∧ ch ≠ '\n'
  := by
  obtain ⟨hle, hge⟩ := h
  refine ⟨?_, ?_, ?_⟩
  · rw [isAllowed]
    simp only [Bool.or_eq_true, Bool.and_eq_true, decide_eq_true_eq]
    omega
  · rintro rfl
    exact absurd hle (by decide)
  · rintro rfl
    exact absurd hle (by decide)

/-! ### Texts -/

theorem tame_plainChars (fold : Bool) {indent : Nat} (column : Nat) (afterSpace : Bool)
    {cs : List Char} (hindent : 0 < indent) (hcs : ∀ ch ∈ cs, needsEscape ch = false ∧ ch ≠ '\n') :
  Tame (plainChars fold indent column afterSpace cs)
  := by
  induction cs generalizing column afterSpace with
  | nil => exact .nil
  | cons ch cs ih =>
      have hcs' : ∀ d ∈ cs, needsEscape d = false ∧ d ≠ '\n' := by
        intro d hd
        apply hcs d (List.mem_cons_of_mem _ hd)
      obtain ⟨hescape, hfeed⟩ := hcs ch List.mem_cons_self
      obtain ⟨hallowed, hreturn⟩ := of_needsEscape hescape
      rw [plainChars]
      split
      · apply Tame.newLine_append hindent (ih _ _ hcs')
      · apply Tame.cons hallowed hreturn hfeed (ih _ _ hcs')

/-- A line break that comes after another is written as it is. -/
theorem exists_singleChars_lineBreak (fold : Bool) (indent column : Nat) {c : Char} (cs : List Char)
    (hc : isWrittenBreak c = true) :
  ∃ tail, singleChars fold indent column .lineBreak (c :: cs) = c :: tail
  := by
  have hquote : (c == '\x27') = false := by
    rw [beq_eq_false_iff_ne]
    rintro rfl
    exact absurd hc (by decide)
  rw [singleChars]
  simp only [hquote, hc, bne_self_eq_false, Bool.and_false, Bool.false_eq_true, if_false, if_true,
    List.nil_append]
  split
  · exact ⟨_, rfl⟩
  · exact ⟨_, rfl⟩

/-- A line break may be put before others, if no hyphen comes after it. -/
theorem Tame.break_cons {c d : Char} {cs : List Char} (hc : needsEscape c = false) (hd : d ≠ '-')
    (hcs : Tame (d :: cs)) :
  Tame (c :: d :: cs)
  := by
  obtain ⟨hallowed, hreturn⟩ := of_needsEscape hc
  by_cases hfeed : c = '\n'
  · subst hfeed
    exact .lineFeed hd hcs
  · exact .cons hallowed hreturn hfeed hcs

/-- A line break may be put before an indented line. -/
theorem Tame.break_append {c : Char} {indent : Nat} {cs : List Char} (hc : needsEscape c = false)
    (hindent : 0 < indent) (hcs : Tame cs) :
  Tame (c :: (List.replicate indent ' ' ++ cs))
  := by
  obtain ⟨n, rfl⟩ := Nat.exists_eq_succ_of_ne_zero (Nat.ne_of_gt hindent)
  exact Tame.break_cons hc (by decide) (Tame.indent_append (n + 1) hcs)

theorem tame_singleChars (fold : Bool) {indent : Nat} (column : Nat) (before : Before)
    {cs : List Char} (hindent : 0 < indent) (hcs : ∀ ch ∈ cs, needsEscape ch = false) :
  Tame (singleChars fold indent column before cs)
  := by
  induction cs generalizing column before with
  | nil => exact .nil
  | cons c cs ih =>
      have hcs' : ∀ d ∈ cs, needsEscape d = false := by
        intro d hd
        apply hcs d (List.mem_cons_of_mem _ hd)
      have hescape := hcs c List.mem_cons_self
      obtain ⟨hallowed, hreturn⟩ := of_needsEscape hescape
      rw [singleChars]
      split
      · apply Tame.cons (by decide) (by decide) (by decide)
        apply Tame.cons (by decide) (by decide) (by decide) (ih _ _ hcs')
      · split
        · rename_i hbreak
          have hhyphen : c ≠ '-' := by
            rintro rfl
            exact absurd hbreak (by decide)
          have hextra : ∀ {tail : List Char}, Tame (c :: tail) →
              Tame ((if (c == '\n' && before != .lineBreak) = true then ['\n'] else []) ++ c ::
                tail) := by
            intro tail htail
            split
            · exact .lineFeed hhyphen htail
            · apply htail
          simp only
          split
          · rename_i hnext
            apply hextra
            cases cs with
            | nil => cases hnext
            | cons d cs =>
                have hd : isWrittenBreak d = true := hnext
                have hrest := ih 0 .lineBreak hcs'
                obtain ⟨tail, htail⟩ := exists_singleChars_lineBreak fold indent 0 cs hd
                rw [htail] at hrest ⊢
                apply Tame.break_cons hescape _ hrest
                rintro rfl
                exact absurd hd (by decide)
          · rw [List.append_assoc]
            apply hextra
            apply Tame.break_append hescape hindent (ih _ _ hcs')
        · rename_i hbreak
          split
          · apply Tame.newLine_append hindent (ih _ _ hcs')
          · apply Tame.cons hallowed hreturn _ (ih _ _ hcs')
            rintro rfl
            exact absurd rfl hbreak

theorem tame_doubleChars (fold : Bool) {indent : Nat} (column : Nat) (first escaped : Bool)
    {cs : List Char} (hindent : 0 < indent) :
  Tame (doubleChars fold indent column first escaped cs)
  := by
  have hfold : ∀ {next : Option Char} {ds : List Char}, Tame ds →
      Tame (doubleFold indent next ++ ds) := by
    intro next ds hds
    rw [doubleFold, List.append_assoc, List.cons_append]
    apply Tame.cons (by decide) (by decide) (by decide)
    apply Tame.newLine_append hindent
    apply Tame.line_append _ hds
    intro c hc
    split at hc
    · rw [List.mem_singleton.mp hc]
      decide
    · cases hc
  induction cs generalizing column first escaped with
  | nil => exact .nil
  | cons ch cs ih =>
      cases hch : isLiteral ch with
      | true =>
          obtain ⟨hallowed, hreturn, hfeed⟩ := of_isLiteral_tame hch
          rcases doubleChars_literal fold indent column first escaped cs hch with heq | heq
          · rw [heq]
            apply Tame.cons hallowed hreturn hfeed (ih _ _ _)
          · rw [heq, List.append_assoc]
            apply hfold
            apply Tame.cons hallowed hreturn hfeed (ih _ _ _)
      | false =>
          rcases doubleChars_escape fold indent column first escaped cs hch
            with ⟨column', heq⟩ | ⟨-, heq⟩
          · rw [heq]
            apply Tame.line_append (fun d hd => (isGraphic_of_mem_escapeChars hd).tame) (ih _ _ _)
          · rw [heq, List.append_assoc]
            apply Tame.line_append (fun d hd => (isGraphic_of_mem_escapeChars hd).tame)
            apply hfold (ih _ _ _)

/-- A text is written with characters that may stand in YAML, on lines that cannot be taken for
marks. -/
theorem tame_writeText (isKey : Bool) {indent : Nat} (column : Nat) (text : String)
    (hindent : 0 < indent) :
  Tame (writeText isKey indent column text)
  := by
  rw [writeText]
  cases h : styleOf isKey text with
  | plain =>
      apply tame_plainChars _ _ _ hindent
      have hplain := (of_styleOf_eq_plain h).2
      simp only [allowsPlain, Bool.and_eq_true, Bool.not_eq_true'] at hplain
      obtain ⟨⟨-, hmultiline⟩, hescape⟩ := hplain
      intro ch hch
      constructor
      · simpa using List.any_eq_false.mp hescape ch hch
      · rintro rfl
        exact List.any_eq_false.mp hmultiline _ hch rfl
  | singleQuoted =>
      have hsingle := of_styleOf_eq_singleQuoted h
      simp only [allowsSingleQuotes, Bool.and_eq_true, Bool.not_eq_true'] at hsingle
      apply Tame.cons (by decide) (by decide) (by decide)
      apply Tame.append
      · apply tame_singleChars _ _ _ hindent
        intro ch hch
        simpa using List.any_eq_false.mp hsingle.2 ch hch
      · exact Tame.cons (by decide) (by decide) (by decide) .nil
  | doubleQuoted =>
      apply Tame.cons (by decide) (by decide) (by decide)
      apply Tame.append
      · apply tame_doubleChars _ _ _ _ hindent
      · exact Tame.cons (by decide) (by decide) (by decide) .nil

/-! ### Mappings -/

/-- Characters that may stand in YAML, without carriage returns, of which no line but the first
begins with three hyphens. -/
def Unmarked : List Char → Prop
  | [] => True
  | c :: cs => (isAllowed c = true ∧ c ≠ '\r') ∧
      (c = '\n' → ['-', '-', '-'].isPrefixOf cs = false) ∧ Unmarked cs

namespace Unmarked

variable {cs ds : List Char}

theorem isAllowed_of_mem (h : Unmarked cs) :
  ∀ c ∈ cs, isAllowed c = true
  := by
  induction cs with
  | nil => simp
  | cons c cs ih =>
      intro d hd
      rcases List.mem_cons.mp hd with rfl | hd
      · exact h.1.1
      · apply ih h.2.2 d hd

/-- A written text may be put before others. -/
theorem append_of_tame (hcs : Tame cs) (hds : Unmarked ds) :
  Unmarked (cs ++ ds)
  := by
  induction hcs with
  | nil => apply hds
  | cons hallowed hreturn hfeed _ ih =>
      refine ⟨⟨hallowed, hreturn⟩, ?_, ih⟩
      intro heq
      exact absurd heq hfeed
  | lineFeed hhyphen _ ih =>
      refine ⟨⟨by decide, by decide⟩, ?_, ih⟩
      intro _
      simp [List.isPrefixOf, Ne.symm hhyphen]

end Unmarked

/-- A key is written with its colon on lines that cannot be taken for marks. -/
theorem tame_writeKey (key : String) :
  Tame (writeKey key ++ [':', ' '])
  := by
  have hcolon : Tame [':', ' '] := Tame.cons (by decide) (by decide) (by decide)
    (Tame.cons (by decide) (by decide) (by decide) .nil)
  rw [writeKey]
  split
  · apply (tame_writeText true 0 key (by decide)).append hcolon
  · rw [List.cons_append, List.cons_append, List.append_assoc]
    apply Tame.cons (by decide) (by decide) (by decide)
    apply Tame.cons (by decide) (by decide) (by decide)
    apply (tame_writeText false 2 key (by decide)).append
    apply Tame.lineFeed (by decide) hcolon

/-- A mapping of texts is written with characters that may stand in YAML, on lines that cannot be
taken for the end of a header. -/
theorem unmarked_writeEntries (e : String × String) (entries : List (String × String)) :
  Unmarked (writeEntries true 0 (textEntries (e :: entries)))
  := by
  have hentry : ∀ {column : Nat} {rest : List Char}, Unmarked rest →
      Unmarked (writeKey e.1 ++ ':' :: ' ' :: (writeText false 2 column e.2 ++ rest)) := by
    intro column rest hrest
    have hvalue :=
      Unmarked.append_of_tame (tame_writeText false column e.2 (by decide : 0 < 2)) hrest
    have hkey := Unmarked.append_of_tame (tame_writeKey e.1) hvalue
    rw [List.append_assoc] at hkey
    apply hkey
  obtain ⟨column, heq⟩ := writeEntries_cons e entries
  rw [heq]
  apply hentry
  cases entries with
  | nil => exact True.intro
  | cons e' entries =>
      rw [writeEntries_false]
      obtain ⟨ch, tail, hstart⟩ := exists_startsLine_writeEntries e' entries
      refine ⟨by decide, ?_, unmarked_writeEntries e' entries⟩
      intro _
      exact (Bool.or_eq_false_iff.mp hstart.beginsWithMarker_eq_false).1
termination_by entries.length

end AgentBundles.Yaml
