import AgentBundles.Proofs.Yaml.Quoted
import AgentBundles.Yaml.Style

/-!
# Plain texts

A text that is written without quotes is read as itself: word by word, with the spaces between the
words, of which one may have been written as the end of a folded line.
-/

namespace AgentBundles.Yaml

/-! ### Reading words -/

/-- What is read from within a word on: the rest of the word, and the words after it. -/
def readPlainRest (column fuel : Nat) (c : Cursor) : List Char × Bool × Cursor :=
  let word := plainRun false c.rest
  let (spaces, broke, c') := readPlainSpaces (c.advance word.length)
  if spaces.isEmpty || c'.sees '#' || c'.column < column then
    (word, broke, c')
  else
    let (text, broke', c'') := readPlainWords false column fuel spaces broke c'
    (word ++ text, broke', c'')

/-- A word is read with what comes after it, and with the spaces before it. -/
theorem readPlainWords_eq (column fuel : Nat) (spaces : List Char) (broke : Bool) {c : Cursor}
    {ch : Char} {rest : List Char} (h : c.rest = ch :: rest) (hcomment : ch ≠ '#')
    (hch : stopsPlain false ch rest = false) :
  readPlainWords false column (fuel + 1) spaces broke c
    = (spaces ++ (readPlainRest column fuel c).1, (readPlainRest column fuel c).2)
  := by
  have hsees : c.sees '#' = false := by
    rw [Cursor.sees_eq h]
    apply beq_eq_false_iff_ne.mpr hcomment
  have hrun : (plainRun false c.rest).isEmpty = false := by
    rw [h, plainRun, hch]
    rfl
  simp only [readPlainWords, readPlainRest, hsees, hrun, Bool.false_eq_true, if_false,
    Bool.not_false, Bool.true_and]
  split
  · rfl
  · rw [List.append_assoc]

/-- What is read from within a word on, with any fuel that is not less than the rest of the text. -/
def ReadsPlain (column : Nat) (c : Cursor) (text : List Char) (broke : Bool) (c' : Cursor) : Prop :=
  ∀ fuel, c.rest.length ≤ fuel → readPlainRest column fuel c = (text, broke, c')

/-- What comes after the last word of a plain text. -/
structure EndsPlain (column : Nat) (c : Cursor) (broke : Bool) (c' : Cursor) : Prop where
  plainRun_eq_nil : plainRun false c.rest = []
  exists_spaces : ∃ spaces, readPlainSpaces c = (spaces, broke, c') ∧
    (spaces.isEmpty || c'.sees '#' || c'.column < column) = true

/-- White space between words: what it counts as, and where it leads. -/
structure Gap (column : Nat) (c : Cursor) (spaces : List Char) (c' : Cursor) : Prop where
  plainRun_eq_nil : plainRun false c.rest = []
  exists_broke : ∃ broke, readPlainSpaces c = (spaces, broke, c')
  ne_nil : spaces ≠ []
  column_le : column ≤ c'.column
  length_lt : c'.rest.length < c.rest.length

/-- An indent is skipped. -/
theorem readPlainBreaks_spaces {c : Cursor} {n fuel : Nat} {cs rest : List Char} {ch : Char}
    (h : c.rest = List.replicate n ' ' ++ cs) (hcs : Solid cs ch rest) (hfuel : n < fuel) :
  readPlainBreaks fuel c = (some [], c.advance n)
  := by
  induction n generalizing c fuel with
  | zero =>
      cases fuel with
      | zero => cases hfuel
      | succ fuel =>
          have hcons : c.rest = ch :: rest := h.trans hcs.eq
          have hsees : c.sees ' ' = false := by
            rw [Cursor.sees_eq hcons]
            exact (Bool.or_eq_false_iff.mp hcs.isSpaceOrTab_eq_false).1
          have hnone : c.readBreak? = none := by
            apply Cursor.readBreak?_eq_none
            intro d hd
            rw [hcons] at hd
            cases hd
            apply hcs.isBreak_eq_false
          simp only [readPlainBreaks, hsees, Bool.false_eq_true, if_false, hnone]
          rfl
  | succ n ih =>
      cases fuel with
      | zero => cases hfuel
      | succ fuel =>
          have hcons : c.rest = ' ' :: (List.replicate n ' ' ++ cs) := h
          have hsees : c.sees ' ' = true := Cursor.sees_eq hcons ' '
          rw [readPlainBreaks, if_pos hsees, Cursor.advance_succ]
          apply ih (Cursor.rest_step_of_eq hcons) (Nat.lt_of_succ_lt_succ hfuel)

/-- A plain text ends at the end of everything. -/
theorem endsPlain_of_nil (column : Nat) {c : Cursor} (h : c.rest = []) :
  EndsPlain column c false c
  := by
  have hspan : c.span (· == ' ') = ([], c) := by
    rw [Cursor.span, h]
    rfl
  have hnone : c.readBreak? = none := by
    apply Cursor.readBreak?_eq_none
    intro ch hch
    rw [h] at hch
    cases hch
  constructor
  · rw [h]
    rfl
  · use []
    simp only [readPlainSpaces, hspan, hnone]
    simp

/-- A plain text ends before the colon after a key. -/
theorem endsPlain_of_colon (column : Nat) {c : Cursor} {rest : List Char}
    (h : c.rest = ':' :: ' ' :: rest) :
  EndsPlain column c false c
  := by
  have hspan : c.span (· == ' ') = ([], c) := by
    rw [Cursor.span, h]
    rfl
  have hnone : c.readBreak? = none := by
    apply Cursor.readBreak?_eq_none
    intro ch hch
    rw [h] at hch
    cases hch
    decide
  constructor
  · rw [h]
    rfl
  · use []
    simp only [readPlainSpaces, hspan, hnone]
    simp

/-- A plain text ends with its line, if the next one is not indented. -/
theorem endsPlain_of_lineFeed {c : Cursor} {cs rest : List Char} {ch : Char}
    (h : c.rest = '\n' :: cs) (hcs : Solid cs ch rest) (hmarker : atMarker cs = false) :
  EndsPlain 1 c true c.step
  := by
  have hstep := Cursor.rest_step_of_eq h
  have hspan : c.span (· == ' ') = ([], c) := by
    rw [Cursor.span, h]
    rfl
  have hbreak : c.readBreak? = some ('\n', c.step) :=
    Cursor.readBreak?_eq_some h (by decide) (by decide)
  have hbreaks : readPlainBreaks (c.step.rest.length + 1) c.step = (some [], c.step) := by
    apply readPlainBreaks_spaces _ hcs (Nat.succ_pos _)
    apply hstep
  constructor
  · rw [h]
    rfl
  · use [' ']
    rw [hstep] at hbreaks
    simp only [readPlainSpaces, hspan, hbreak, hstep, hmarker, hbreaks, Bool.false_eq_true,
      if_false, Cursor.column_step_of_lineFeed h]
    exact ⟨rfl, by simp⟩

namespace ReadsPlain

variable {column : Nat} {c c' c'' : Cursor} {text : List Char} {broke : Bool}

/-- Nothing is read at the end. -/
theorem ends (h : EndsPlain column c broke c') :
  ReadsPlain column c [] broke c'
  := by
  intro fuel _
  obtain ⟨spaces, hspaces, hend⟩ := h.exists_spaces
  simp only [readPlainRest, h.plainRun_eq_nil, List.length_nil, Cursor.advance_zero, hspaces, hend,
    if_true]

/-- A character that does not end a word stands for itself. -/
theorem char {ch : Char} {rest : List Char} (h : c.rest = ch :: rest)
    (hch : stopsPlain false ch rest = false) (hrest : ReadsPlain column c.step text broke c') :
  ReadsPlain column c (ch :: text) broke c'
  := by
  intro fuel hfuel
  have hlength : c.step.rest.length ≤ fuel := by
    rw [Cursor.rest_step_of_eq h]
    rw [h, List.length_cons] at hfuel
    omega
  have hrun : plainRun false c.rest = ch :: plainRun false c.step.rest := by
    rw [h, plainRun, hch, Cursor.rest_step_of_eq h]
    rfl
  have hread := hrest fuel hlength
  simp only [readPlainRest] at hread ⊢
  rw [hrun, List.length_cons, Cursor.advance_succ]
  split
  · rename_i hend
    rw [if_pos hend] at hread
    cases hread
    rfl
  · rename_i hend
    rw [if_neg hend] at hread
    cases hread
    rfl

/-- White space between words stands for what it counts as. -/
theorem gap {spaces : List Char} {ch : Char} {rest : List Char} (h : Gap column c spaces c'')
    (hrest' : c''.rest = ch :: rest) (hcomment : ch ≠ '#') (hch : stopsPlain false ch rest = false)
    (hrest : ReadsPlain column c'' text broke c') :
  ReadsPlain column c (spaces ++ text) broke c'
  := by
  intro fuel hfuel
  have hlt := h.length_lt
  cases fuel with
  | zero => omega
  | succ fuel =>
      obtain ⟨broke', hspaces⟩ := h.exists_broke
      have hempty : spaces.isEmpty = false := by
        rw [List.isEmpty_eq_false_iff]
        apply h.ne_nil
      have hsees : c''.sees '#' = false := by
        rw [Cursor.sees_eq hrest']
        apply beq_eq_false_iff_ne.mpr hcomment
      have hcolumn : decide (c''.column < column) = false := by
        rw [decide_eq_false_iff_not, Nat.not_lt]
        apply h.column_le
      have hlength : c''.rest.length ≤ fuel := by omega
      have hwords : readPlainWords false column (fuel + 1) spaces broke' c''
          = (spaces ++ text, broke, c') := by
        rw [readPlainWords_eq column fuel spaces broke' hrest' hcomment hch, hrest fuel hlength]
      simp only [readPlainRest, h.plainRun_eq_nil, List.length_nil, Cursor.advance_zero, hspaces,
        hempty, hsees, hcolumn, Bool.or_self, Bool.false_eq_true, if_false, hwords]
      rfl

end ReadsPlain

/-! ### White space -/

/-- At least one space leads beyond the first column. -/
theorem column_pos_of_spaces {c : Cursor} {n : Nat} {rest : List Char}
    (h : c.rest = List.replicate (n + 1) ' ' ++ rest) :
  1 ≤ (c.advance (n + 1)).column
  := by
  have hcons : c.rest = ' ' :: (List.replicate n ' ' ++ rest) := h
  have hstep : c.step.column = c.column + 1 := Cursor.column_step hcons (by decide) (by decide)
  have hle := Cursor.column_le_column_advance (Cursor.rest_step_of_eq hcons) (by
    intro ch hch
    rw [(List.mem_replicate.mp hch).2]
    decide)
  rw [List.length_replicate] at hle
  rw [Cursor.advance_succ]
  omega

/-- Spaces stand for themselves. -/
theorem gap_of_spaces {column : Nat} {c : Cursor} {n : Nat} {cs rest : List Char} {ch : Char}
    (hcolumn : column ≤ 1) (h : c.rest = List.replicate (n + 1) ' ' ++ cs)
    (hcs : Solid cs ch rest) :
  Gap column c (List.replicate (n + 1) ' ') (c.advance (n + 1))
  := by
  have hrest : (c.advance (n + 1)).rest = cs := by
    have heq := Cursor.rest_advance_of_eq h
    rw [List.length_replicate] at heq
    apply heq
  constructor
  · rw [h]
    rfl
  · use false
    have hspan : c.span (· == ' ') = (List.replicate (n + 1) ' ', c.advance (n + 1)) := by
      have hspan := Cursor.span_eq (p := (· == ' ')) h (by
        intro d hd
        rw [(List.mem_replicate.mp hd).2]
        rfl) (by
        intro d hd
        rw [hcs.eq] at hd
        cases hd
        exact (Bool.or_eq_false_iff.mp hcs.isSpaceOrTab_eq_false).1)
      rw [List.length_replicate] at hspan
      apply hspan
    have hnone : (c.advance (n + 1)).readBreak? = none := by
      apply Cursor.readBreak?_eq_none
      intro d hd
      rw [hrest, hcs.eq] at hd
      cases hd
      apply hcs.isBreak_eq_false
    simp only [readPlainSpaces, hspan, hnone]
  · simp
  · apply Nat.le_trans hcolumn (column_pos_of_spaces h)
  · rw [hrest, h, List.length_append, List.length_replicate]
    omega

/-- The end of a folded line counts as a space. -/
theorem gap_of_newLine {column : Nat} {c : Cursor} {indent : Nat} {cs rest : List Char} {ch : Char}
    (hcolumn : column ≤ 1) (hindent : 0 < indent) (h : c.rest = newLine indent ++ cs)
    (hcs : Solid cs ch rest) :
  Gap column c [' '] (c.advance (newLine indent).length)
  := by
  obtain ⟨n, rfl⟩ := Nat.exists_eq_succ_of_ne_zero (Nat.ne_of_gt hindent)
  have hcons : c.rest = '\n' :: (List.replicate (n + 1) ' ' ++ cs) := h
  have hstep := Cursor.rest_step_of_eq hcons
  have hlength : (newLine (n + 1)).length = n + 1 + 1 := by
    rw [newLine, List.length_cons, List.length_replicate]
  constructor
  · rw [hcons]
    rfl
  · use true
    have hspan : c.span (· == ' ') = ([], c) := by
      have hnil : c.rest = [] ++ '\n' :: (List.replicate (n + 1) ' ' ++ cs) := hcons
      rw [Cursor.span_eq hnil]
      · rfl
      · intro d hd
        cases hd
      · intro d hd
        cases hd
        rfl
    have hbreak : c.readBreak? = some ('\n', c.step) :=
      Cursor.readBreak?_eq_some hcons (by decide) (by decide)
    have hmarker : atMarker c.step.rest = false := by
      rw [hstep]
      apply atMarker_eq_false
      · decide
      · decide
    have hbreaks : readPlainBreaks (c.step.rest.length + 1) c.step
        = (some [], c.step.advance (n + 1)) := by
      apply readPlainBreaks_spaces hstep hcs
      rw [hstep, List.length_append, List.length_replicate]
      omega
    simp only [readPlainSpaces, hspan, hbreak, hmarker, Bool.false_eq_true, if_false, hbreaks]
    rw [hlength, Cursor.advance_succ]
    rfl
  · simp
  · rw [hlength, Cursor.advance_succ]
    apply Nat.le_trans hcolumn (column_pos_of_spaces hstep)
  · rw [Cursor.rest_advance_of_eq h, h, List.length_append, hlength]
    omega

/-! ### Reading what was written -/

/-- The rest of a plain text; `white` tells whether white space comes before it. -/
structure PlainText (white : Bool) (cs : List Char) : Prop where
  hasEnd_eq_false : hasEnd white cs = false
  not_white : ∀ ch ∈ cs, ch ≠ '\t' ∧ isBreak ch = false
  getLast?_ne : cs.getLast? ≠ some ' '

namespace PlainText

variable {white : Bool} {ch : Char} {cs : List Char}

theorem tail (h : PlainText white (ch :: cs)) :
  PlainText (atWhite [ch]) cs
  := by
  have hend := h.hasEnd_eq_false
  rw [hasEnd, Bool.or_eq_false_iff] at hend
  constructor
  · apply hend.2
  · intro d hd
    apply h.not_white d (List.mem_cons_of_mem _ hd)
  · cases cs with
    | nil => simp
    | cons d cs =>
        have hlast := h.getLast?_ne
        rwa [List.getLast?_cons_cons] at hlast

/-- A character other than a space begins no white space. -/
theorem solid (h : PlainText white (ch :: cs)) (hspace : ch ≠ ' ') (rest : List Char) :
  Solid (ch :: rest) ch rest
  := by
  obtain ⟨htab, hbreak⟩ := h.not_white ch List.mem_cons_self
  constructor
  · rfl
  · rw [isSpaceOrTab, Bool.or_eq_false_iff, beq_eq_false_iff_ne, beq_eq_false_iff_ne]
    exact ⟨hspace, htab⟩
  · apply hbreak

/-- A colon comes before a character that is not white. -/
theorem exists_of_colon (h : PlainText white (':' :: cs)) :
  ∃ d ds, cs = d :: ds ∧ atWhite [d] = false
  := by
  have hend := h.hasEnd_eq_false
  rw [hasEnd, Bool.or_eq_false_iff, Bool.or_eq_false_iff] at hend
  have hwhite : atWhite cs = false := hend.1.1
  cases cs with
  | nil => cases hwhite
  | cons d ds => exact ⟨d, ds, rfl, hwhite⟩

/-- After white space there is no comment. -/
theorem ne_comment (h : PlainText true (ch :: cs)) :
  ch ≠ '#'
  := by
  have hend := h.hasEnd_eq_false
  rw [hasEnd, Bool.or_eq_false_iff, Bool.or_eq_false_iff, Bool.and_true,
    beq_eq_false_iff_ne] at hend
  exact hend.1.2

/-- Spaces come before another character. -/
theorem exists_spaces (h : PlainText true cs) (hne : cs ≠ []) :
  ∃ n d ds, cs = List.replicate n ' ' ++ d :: ds ∧ d ≠ ' ' ∧ PlainText true (d :: ds)
  := by
  induction cs with
  | nil => exact absurd rfl hne
  | cons d ds ih =>
      by_cases hd : d = ' '
      · subst hd
        have htail : PlainText true ds := h.tail
        have hne' : ds ≠ [] := by
          rintro rfl
          apply h.getLast?_ne rfl
        obtain ⟨n, e, es, rfl, he⟩ := ih htail hne'
        use n + 1, e, es, rfl
      · use 0, d, ds, rfl

end PlainText

/-- What a character other than a space is written as. -/
theorem plainChars_cons_of_ne (fold : Bool) (indent column : Nat) (afterSpace : Bool) {ch : Char}
    (cs : List Char) (hch : ch ≠ ' ') :
  plainChars fold indent column afterSpace (ch :: cs)
    = ch :: plainChars fold indent (column + 1) false cs
  := by
  have hch' : (ch == ' ') = false := beq_eq_false_iff_ne.mpr hch
  rw [plainChars, hch']
  rfl

/-- After a space, spaces are written as they are. -/
theorem plainChars_spaces (fold : Bool) (indent column n : Nat) (cs : List Char) :
  plainChars fold indent column true (List.replicate n ' ' ++ cs)
    = List.replicate n ' ' ++ plainChars fold indent (column + n) true cs
  := by
  induction n generalizing column with
  | zero => rfl
  | succ n ih =>
      rw [List.replicate_succ, List.cons_append, plainChars]
      simp only [Bool.not_true, Bool.and_false, Bool.false_and, Bool.false_eq_true, if_false,
        beq_self_eq_true]
      rw [ih, Nat.add_assoc, Nat.add_comm 1 n]
      rfl

/-- What spaces between words are written as. -/
theorem plainChars_gap (fold : Bool) (indent column n : Nat) (cs : List Char) :
  plainChars fold indent column false (List.replicate (n + 1) ' ' ++ cs)
      = List.replicate (n + 1) ' ' ++ plainChars fold indent (column + (n + 1)) true cs ∨
    n = 0 ∧ plainChars fold indent column false (List.replicate (n + 1) ' ' ++ cs)
      = newLine indent ++ plainChars fold indent indent true cs
  := by
  rw [List.replicate_succ, List.cons_append, plainChars]
  split
  · rename_i hfold
    apply Or.inr
    cases n with
    | zero => exact ⟨rfl, rfl⟩
    | succ n => simp [List.replicate_succ] at hfold
  · apply Or.inl
    rw [beq_self_eq_true, plainChars_spaces, Nat.add_assoc, Nat.add_comm 1 n]
    rfl

/-- A character other than a space goes on a plain text. -/
theorem PlainText.stopsPlain_eq_false {white : Bool} {ch : Char} {cs : List Char}
    (h : PlainText white (ch :: cs)) (hspace : ch ≠ ' ') (fold : Bool) (indent column : Nat)
    (rest : List Char) :
  stopsPlain false ch (plainChars fold indent column false cs ++ rest) = false
  := by
  have hsolid := h.solid hspace []
  have hwhite : (ch == ' ' || ch == '\t' || isBreak ch) = false := by
    rw [Bool.or_eq_false_iff]
    exact ⟨hsolid.isSpaceOrTab_eq_false, hsolid.isBreak_eq_false⟩
  rw [stopsPlain, hwhite, Bool.false_and, Bool.false_and, Bool.false_or, Bool.or_false,
    Bool.or_false]
  by_cases hcolon : ch = ':'
  · subst hcolon
    obtain ⟨d, ds, rfl, hd⟩ := h.exists_of_colon
    have hne : d ≠ ' ' := by
      rintro rfl
      exact absurd hd (by decide)
    rw [plainChars_cons_of_ne _ _ _ _ _ hne]
    apply hd
  · rw [beq_eq_false_iff_ne.mpr hcolon, Bool.false_and]

/-- A text that is written without quotes is read up to what comes after it. -/
theorem readsPlain_plainChars {fold : Bool} {indent column' column : Nat} {white afterSpace : Bool}
    {cs rest : List Char} {c c' : Cursor} {broke : Bool} (hcolumn : column ≤ 1)
    (hindent : 0 < indent) (hcs : PlainText white cs)
    (hspace : afterSpace = true → cs.head? ≠ some ' ')
    (hc : c.rest = plainChars fold indent column' afterSpace cs ++ rest)
    (hends : EndsPlain column (c.advance (plainChars fold indent column' afterSpace cs).length)
      broke c') :
  ReadsPlain column c cs broke c'
  := by
  cases cs with
  | nil => apply ReadsPlain.ends hends
  | cons ch cs =>
      by_cases hch : ch = ' '
      · subst hch
        have hafter : afterSpace = false := by
          cases afterSpace with
          | false => rfl
          | true => exact absurd rfl (hspace rfl)
        subst hafter
        have htail : PlainText true cs := hcs.tail
        have hne : cs ≠ [] := by
          rintro rfl
          apply hcs.getLast?_ne rfl
        obtain ⟨n, d, ds, rfl, hd, hds⟩ := htail.exists_spaces hne
        -- Whether or not the line is folded, the rest is read by induction.
        have hnext : ∀ {ws : List Char} {column'' : Nat},
            plainChars fold indent column' false (' ' :: (List.replicate n ' ' ++ d :: ds))
              = ws ++ plainChars fold indent column'' true (d :: ds) →
            Gap column c (List.replicate (n + 1) ' ') (c.advance ws.length) →
            ReadsPlain column c (List.replicate (n + 1) ' ' ++ d :: ds) broke c' := by
          intro ws column'' heq hgap
          rw [heq] at hc hends
          rw [List.append_assoc] at hc
          rw [List.length_append, ← Cursor.advance_advance] at hends
          have hrest := Cursor.rest_advance_of_eq hc
          have hread : ReadsPlain column (c.advance ws.length) (d :: ds) broke c' := by
            apply readsPlain_plainChars hcolumn hindent hds _ hrest hends
            intro _
            simpa using hd
          rw [plainChars_cons_of_ne _ _ _ _ _ hd] at hrest
          apply ReadsPlain.gap hgap hrest hds.ne_comment (hds.stopsPlain_eq_false hd _ _ _ _) hread
        have hsolid : ∀ column'', ∃ tail,
            Solid (plainChars fold indent column'' true (d :: ds) ++ rest) d tail := by
          intro column''
          rw [plainChars_cons_of_ne _ _ _ _ _ hd]
          exact ⟨_, hds.solid hd _⟩
        rcases plainChars_gap fold indent column' n (d :: ds) with heq | ⟨rfl, heq⟩
        · obtain ⟨tail, hsolid⟩ := hsolid (column' + (n + 1))
          apply hnext heq
          rw [List.length_replicate]
          apply gap_of_spaces hcolumn _ hsolid
          rw [hc]
          exact (congrArg (· ++ rest) heq).trans (List.append_assoc _ _ _)
        · obtain ⟨tail, hsolid⟩ := hsolid indent
          apply hnext heq
          apply gap_of_newLine hcolumn hindent _ hsolid
          rw [hc]
          exact (congrArg (· ++ rest) heq).trans (List.append_assoc _ _ _)
      · rw [plainChars_cons_of_ne _ _ _ _ _ hch] at hc hends
        have hstop := hcs.stopsPlain_eq_false hch fold indent (column' + 1) rest
        have hrest : c.step.rest = plainChars fold indent (column' + 1) false cs ++ rest :=
          Cursor.rest_step_of_eq hc
        apply ReadsPlain.char hc hstop
        apply readsPlain_plainChars hcolumn hindent hcs.tail _ hrest hends
        intro hfalse
        cases hfalse
termination_by cs.length

/-! ### Texts that need no quotes -/

/-- A text that needs no quotes is a plain text that begins with no space. -/
structure Unquoted (ch : Char) (cs : List Char) : Prop where
  plain : PlainText false (ch :: cs)
  beginsOtherwise_eq_false : beginsOtherwise (ch :: cs) = false
  ne_space : ch ≠ ' '

/-- A character that needs no escape and breaks no line in writing is no tab, and breaks no line in
reading. -/
theorem not_white_of_needsEscape {ch : Char} (hescape : needsEscape ch = false)
    (hbreak : isWrittenBreak ch = false) :
  ch ≠ '\t' ∧ isBreak ch = false
  := by
  rw [isWrittenBreak, Bool.or_eq_false_iff, Bool.or_eq_false_iff] at hbreak
  constructor
  · rintro rfl
    exact absurd hescape (by decide)
  · have hreturn : (ch == '\r') = false := by
      rw [beq_eq_false_iff_ne]
      rintro rfl
      exact absurd hescape (by decide)
    rw [isBreak, hbreak.1.1, hreturn, hbreak.1.2, hbreak.2]
    rfl

theorem unquoted_of_allowsPlain {cs : List Char} (h : allowsPlain cs = true) :
  ∃ ch tail, cs = ch :: tail ∧ Unquoted ch tail
  := by
  simp only [allowsPlain, Bool.and_eq_true, Bool.not_eq_true'] at h
  obtain ⟨⟨⟨⟨⟨⟨hmarker, hbegins⟩, hend⟩, hhead⟩, hlast⟩, hmultiline⟩, hescape⟩ := h
  cases cs with
  | nil => cases hhead
  | cons ch tail =>
      use ch, tail, rfl
      have hbegins' := hbegins
      rw [beginsOtherwise, Bool.or_eq_false_iff] at hbegins'
      constructor
      · constructor
        · have hcolon : (ch == ':' && atWhite tail) = false := by
            by_cases hcolon : ch = ':'
            · simpa [hcolon] using hbegins'.2
            · rw [beq_eq_false_iff_ne.mpr hcolon, Bool.false_and]
          rw [hasEnd, hcolon, Bool.and_false, Bool.false_or, Bool.false_or]
          apply hend
        · intro d hd
          apply not_white_of_needsEscape
          · simpa using List.any_eq_false.mp hescape d hd
          · simpa using List.any_eq_false.mp hmultiline d hd
        · intro heq
          rw [heq] at hlast
          cases hlast
      · apply hbegins
      · rintro rfl
        cases hhead

namespace Unquoted

variable {ch : Char} {cs : List Char}

theorem ne_comment (h : Unquoted ch cs) :
  ch ≠ '#'
  := by
  rintro rfl
  exact absurd h.beginsOtherwise_eq_false (by simp [beginsOtherwise])

/-- A text that needs no quotes is read from its first character on. -/
theorem readPlain_eq {fold : Bool} {indent column' column : Nat} {rest : List Char} {c c' : Cursor}
    {broke : Bool} (h : Unquoted ch cs) (hcolumn : column ≤ 1) (hindent : 0 < indent)
    (hc : c.rest = plainChars fold indent column' false (ch :: cs) ++ rest)
    (hends : EndsPlain column (c.advance (plainChars fold indent column' false (ch :: cs)).length)
      broke c') :
  readPlain false column c = (ch :: cs, broke, c')
  := by
  have hread : ReadsPlain column c (ch :: cs) broke c' := by
    apply readsPlain_plainChars hcolumn hindent h.plain _ hc hends
    intro hfalse
    cases hfalse
  rw [plainChars_cons_of_ne _ _ _ _ _ h.ne_space] at hc
  have hstop := h.plain.stopsPlain_eq_false h.ne_space fold indent (column' + 1) rest
  rw [readPlain, readPlainWords_eq column _ [] false hc h.ne_comment hstop, hread _ (Nat.le_refl _)]
  rfl

end Unquoted

end AgentBundles.Yaml
