import AgentBundles.Proofs.Yaml.Quoted
import AgentBundles.Yaml.Style

/-!
# Single quotes

A text that is written between single quotes is read as itself, except for next-line characters: one
of them alone counts as a space, the first one of a row of line breaks is lost, and the others are
read as line feeds.
-/

namespace AgentBundles.Yaml

/-- The next-line character. -/
def nextLine : Char := Char.ofNat 0x85

/-- Whether a text goes on with a line break. -/
def atBreak (cs : List Char) : Bool := (cs.head?.map isWrittenBreak).getD false

/-- What a text is read as that is written between single quotes; `inRow` tells whether a line break
came before. -/
def reread (inRow : Bool) : List Char → List Char
  | [] => []
  | c :: cs =>
    if isWrittenBreak c then
      if inRow then Cursor.asBreak c :: reread true cs
      else if c == nextLine then (if atBreak cs then reread true cs else ' ' :: reread true cs)
      else c :: reread true cs
    else c :: reread false cs

/-- Texts without next-line characters are read as themselves. -/
theorem reread_eq_self {cs : List Char} (h : nextLine ∉ cs) (inRow : Bool) :
  reread inRow cs = cs
  := by
  induction cs generalizing inRow with
  | nil => rfl
  | cons c cs ih =>
      have hne : c ≠ nextLine := by
        rintro rfl
        apply h List.mem_cons_self
      have hcs : nextLine ∉ cs := by
        intro hmem
        apply h (List.mem_cons_of_mem _ hmem)
      rw [reread, ih hcs true, ih hcs false, beq_eq_false_iff_ne.mpr hne]
      split
      · rename_i hbreak
        have has : Cursor.asBreak c = c := by
          rw [Cursor.asBreak]
          split
          · rfl
          · rename_i hsep
            rw [isWrittenBreak, Bool.or_eq_true, Bool.or_eq_true] at hbreak
            rcases hbreak with (hc | hc) | hc
            · apply (eq_of_beq hc).symm
            · exact absurd (eq_of_beq hc) hne
            · exact absurd hc hsep
        rw [has]
        simp
      · rfl

/-- No next-line character is read. -/
theorem nextLine_not_mem_reread (inRow : Bool) (cs : List Char) :
  nextLine ∉ reread inRow cs
  := by
  induction cs generalizing inRow with
  | nil => apply List.not_mem_nil
  | cons c cs ih =>
      rw [reread]
      split
      · split
        · rw [List.mem_cons, not_or]
          refine ⟨?_, ih true⟩
          rw [Cursor.asBreak]
          split
          · rename_i hsep
            rintro rfl
            exact absurd hsep (by decide)
          · decide
        · split
          · split
            · apply ih true
            · rw [List.mem_cons, not_or]
              exact ⟨by decide, ih true⟩
          · rename_i hne
            rw [List.mem_cons, not_or]
            refine ⟨?_, ih true⟩
            rintro rfl
            apply hne (beq_self_eq_true _)
      · rename_i hbreak
        rw [List.mem_cons, not_or]
        refine ⟨?_, ih false⟩
        rintro rfl
        exact absurd (by decide) hbreak

/-- A text that is not empty is not read as an empty one. -/
theorem reread_ne_nil {cs : List Char} (h : cs ≠ []) :
  reread false cs ≠ []
  := by
  cases cs with
  | nil => exact absurd rfl h
  | cons c cs =>
      rw [reread]
      split
      · rw [if_neg Bool.false_ne_true]
        split
        · split
          · rename_i hnext
            cases cs with
            | nil => cases hnext
            | cons d cs =>
                have hd : isWrittenBreak d = true := hnext
                rw [reread, if_pos hd]
                apply List.cons_ne_nil
          · apply List.cons_ne_nil
        · apply List.cons_ne_nil
      · apply List.cons_ne_nil

/-! ### Characters that single quotes hold -/

/-- Among characters that need no escape, the breaks that are written are those that are read, and
there are no tabs. -/
theorem of_needsEscape_eq_false {c : Char} (h : needsEscape c = false) :
  isBreak c = isWrittenBreak c ∧ c ≠ '\r' ∧ c ≠ '\t'
  := by
  have hreturn : c ≠ '\r' := by
    rintro rfl
    exact absurd h (by decide)
  have htab : c ≠ '\t' := by
    rintro rfl
    exact absurd h (by decide)
  refine ⟨?_, hreturn, htab⟩
  rw [isBreak, isWrittenBreak, beq_eq_false_iff_ne.mpr hreturn, Bool.or_false]

/-- What is known of a text that single quotes can hold and that begins with a character. -/
structure Held (c : Char) (cs : List Char) : Prop where
  needsEscape_eq_false : needsEscape c = false
  no_space_after_break : isWrittenBreak c = true → cs.head? ≠ some ' '
  no_break_after_space : c = ' ' → atBreak cs = false
  rest : allowsSingleQuotes cs = true

theorem held_of_allowsSingleQuotes {c : Char} {cs : List Char}
    (h : allowsSingleQuotes (c :: cs) = true) :
  Held c cs
  := by
  rw [allowsSingleQuotes, Bool.and_eq_true, Bool.and_eq_true, Bool.not_eq_true', Bool.not_eq_true',
    Bool.not_eq_true', List.any_cons, Bool.or_eq_false_iff] at h
  obtain ⟨⟨hbreak, hspace⟩, hc, hcs⟩ := h
  cases cs with
  | nil =>
      exact {
        needsEscape_eq_false := hc
        no_space_after_break := by simp
        no_break_after_space := fun _ => rfl
        rest := rfl }
  | cons d cs =>
      rw [hasPair, Bool.or_eq_false_iff, Bool.and_eq_false_iff] at hbreak hspace
      exact {
        needsEscape_eq_false := hc
        no_space_after_break := by
          intro h hd
          cases hd
          rcases hbreak.1 with hbreak | hbreak
          · rw [h] at hbreak
            cases hbreak
          · cases hbreak
        no_break_after_space := by
          rintro rfl
          rcases hspace.1 with hspace | hspace
          · cases hspace
          · apply hspace
        rest := by
          rw [allowsSingleQuotes, hbreak.2, hspace.2, hcs]
          rfl }

/-! ### Writing -/

/-- A character that needs no escape, and is neither space nor line break, is not white. -/
theorem not_white {c : Char} (hc : needsEscape c = false) (hspace : c ≠ ' ')
    (hbreak : isWrittenBreak c = false) :
  isSpaceOrTab c = false ∧ isBreak c = false
  := by
  obtain ⟨heq, -, htab⟩ := of_needsEscape_eq_false hc
  rw [heq, isSpaceOrTab, beq_eq_false_iff_ne.mpr hspace, beq_eq_false_iff_ne.mpr htab]
  exact ⟨rfl, hbreak⟩

/-- Before a text that begins with no white space, or the closing quote, what is written begins with
none. -/
theorem exists_solid (fold : Bool) (indent column : Nat) (before : Before) {cs : List Char}
    (rest : List Char) (h : allowsSingleQuotes cs = true) (hspace : cs.head? ≠ some ' ')
    (hbreak : atBreak cs = false) :
  ∃ ch tail, Solid (singleChars fold indent column before cs ++ '\x27' :: rest) ch tail
  := by
  cases cs with
  | nil =>
      use '\x27', rest
      exact ⟨rfl, by decide, by decide⟩
  | cons c cs =>
      have hheld := held_of_allowsSingleQuotes h
      have hc : c ≠ ' ' := by
        rintro rfl
        apply hspace rfl
      have hb : isWrittenBreak c = false := hbreak
      obtain ⟨hwhite, hbreak'⟩ := not_white hheld.needsEscape_eq_false hc hb
      by_cases hquote : c = '\x27'
      · subst hquote
        rw [singleChars]
        exact ⟨_, _, rfl, by decide, by decide⟩
      · rw [singleChars]
        simp only [beq_eq_false_iff_ne.mpr hquote, beq_eq_false_iff_ne.mpr hc, hb, Bool.false_and,
          Bool.false_eq_true, if_false]
        exact ⟨_, _, rfl, hwhite, hbreak'⟩

/-- After a space that is written as it is, spaces come before a character that is not white. -/
theorem exists_spaces_solid (fold : Bool) (indent column : Nat) {cs : List Char} (rest : List Char)
    (h : allowsSingleQuotes (' ' :: cs) = true) :
  ∃ spaces ch tail, singleChars fold indent column .space cs ++ '\x27' :: rest
    = spaces ++ ch :: tail ∧ (∀ b ∈ spaces, isSpaceOrTab b = true) ∧ isSpaceOrTab ch = false ∧
    isBreak ch = false
  := by
  induction cs generalizing column with
  | nil =>
      use [], '\x27', rest, rfl
      simp
      decide
  | cons c cs ih =>
      have hheld := held_of_allowsSingleQuotes h
      by_cases hc : c = ' '
      · subst hc
        obtain ⟨spaces, ch, tail, heq, hspaces, hch⟩ := ih (column + 1) hheld.rest
        use ' ' :: spaces, ch, tail
        constructor
        · have hwritten : singleChars fold indent column .space (' ' :: cs)
              = ' ' :: singleChars fold indent (column + 1) .space cs := by
            rw [singleChars]
            have hbreak : isWrittenBreak ' ' = false := by decide
            simp [hbreak]
          rw [hwritten, List.cons_append, heq]
          rfl
        · use by simpa [isSpaceOrTab] using hspaces
      · have hspace : (c :: cs).head? ≠ some ' ' := by simpa using hc
        obtain ⟨ch, tail, hsolid⟩ := exists_solid fold indent column .space rest hheld.rest hspace
          (hheld.no_break_after_space rfl)
        use [], ch, tail, hsolid.eq
        exact ⟨by simp, hsolid.isSpaceOrTab_eq_false, hsolid.isBreak_eq_false⟩

/-- A row of line breaks is written as it is, with the indent after it. -/
theorem singleChars_row (fold : Bool) (indent column : Nat) {row cs : List Char} (hne : row ≠ [])
    (hrow : ∀ b ∈ row, isWrittenBreak b = true) (hcs : atBreak cs = false) :
  singleChars fold indent column .lineBreak (row ++ cs)
    = row ++ List.replicate indent ' ' ++ singleChars fold indent indent .lineBreak cs
  := by
  induction row generalizing column with
  | nil => exact absurd rfl hne
  | cons b row ih =>
      have hb := hrow b List.mem_cons_self
      have hquote : b ≠ '\x27' := by
        rintro rfl
        exact absurd hb (by decide)
      rw [List.cons_append, singleChars]
      simp only [beq_eq_false_iff_ne.mpr hquote, hb, bne_self_eq_false, Bool.and_false,
        Bool.false_eq_true, if_false, if_true, List.nil_append]
      cases row with
      | nil =>
          have hnext : (([] ++ cs).head?.map isWrittenBreak).getD false = false := hcs
          rw [hnext]
          rfl
      | cons d row =>
          have hd : isWrittenBreak d = true := hrow d (List.mem_cons_of_mem _ List.mem_cons_self)
          have hnext : ((d :: row ++ cs).head?.map isWrittenBreak).getD false = true := hd
          rw [hnext, if_pos rfl, ih 0 (List.cons_ne_nil _ _)]
          · rfl
          · intro e he
            apply hrow e (List.mem_cons_of_mem _ he)

/-- The first break of a row, which begins with a line feed twice. -/
theorem singleChars_break (fold : Bool) (indent column : Nat) {before : Before} {b : Char}
    {row cs : List Char} (hb : isWrittenBreak b = true) (hrow : ∀ b ∈ row, isWrittenBreak b = true)
    (hcs : atBreak cs = false) (hbefore : before ≠ .lineBreak) :
  singleChars fold indent column before (b :: (row ++ cs))
    = (if b == '\n' then ['\n'] else []) ++ (b :: row) ++ List.replicate indent ' ' ++
      singleChars fold indent indent .lineBreak cs
  := by
  have hquote : b ≠ '\x27' := by
    rintro rfl
    exact absurd hb (by decide)
  have hextra : (before != .lineBreak) = true := by
    rw [bne_iff_ne]
    apply hbefore
  rw [singleChars]
  simp only [beq_eq_false_iff_ne.mpr hquote, hb, hextra, Bool.and_true, Bool.false_eq_true,
    if_false, if_true]
  cases row with
  | nil =>
      have hnext : (([] ++ cs).head?.map isWrittenBreak).getD false = false := hcs
      rw [hnext, if_neg Bool.false_ne_true]
      simp only [List.append_assoc, List.cons_append, List.nil_append]
  | cons d row =>
      have hd : isWrittenBreak d = true := hrow d List.mem_cons_self
      have hnext : ((d :: row ++ cs).head?.map isWrittenBreak).getD false = true := hd
      rw [hnext, if_pos rfl, singleChars_row fold indent 0 (List.cons_ne_nil _ _) hrow hcs]
      simp only [List.append_assoc, List.cons_append]

/-! ### Reading what was written -/

/-- In a row, breaks are read one by one. -/
theorem reread_row {row cs : List Char} (hrow : ∀ b ∈ row, isWrittenBreak b = true)
    (hcs : atBreak cs = false) :
  reread true (row ++ cs) = row.map Cursor.asBreak ++ reread false cs
  := by
  induction row with
  | nil =>
      cases cs with
      | nil => rfl
      | cons c cs =>
          have hc : isWrittenBreak c = false := hcs
          rw [List.nil_append, List.map_nil, List.nil_append, reread, reread, hc]
          rfl
  | cons b row ih =>
      rw [List.cons_append, reread, hrow b List.mem_cons_self, if_pos rfl, if_pos rfl, ih]
      · rfl
      · intro d hd
        apply hrow d (List.mem_cons_of_mem _ hd)

/-- Every line break that is written is one for the reader. -/
theorem isBreak_of_isWrittenBreak {b : Char} (h : isWrittenBreak b = true) :
  isBreak b = true ∧ b ≠ '\r'
  := by
  constructor
  · rw [isWrittenBreak, Bool.or_eq_true, Bool.or_eq_true] at h
    rw [isBreak]
    rcases h with (h | h) | h
    all_goals simp [h]
  · rintro rfl
    exact absurd h (by decide)

/-- A row that begins with a line feed counts as the row after it, if another line feed is written
before it. -/
theorem foldBreaks_row_of_feed {row cs : List Char} (hrow : ∀ b ∈ row, isWrittenBreak b = true)
    (hcs : atBreak cs = false) :
  foldBreaks (Cursor.asBreak '\n') (('\n' :: row).map Cursor.asBreak) ++ reread false cs
    = reread false ('\n' :: (row ++ cs))
  := by
  have hwritten : isWrittenBreak '\n' = true := by decide
  have hnext : ('\n' == nextLine) = false := by decide
  have hfold : foldBreaks (Cursor.asBreak '\n') (('\n' :: row).map Cursor.asBreak)
      = '\n' :: row.map Cursor.asBreak := rfl
  rw [hfold, reread, hwritten, hnext, if_pos rfl, if_neg Bool.false_ne_true,
    if_neg Bool.false_ne_true, reread_row hrow hcs]
  rfl

/-- A row that begins with a next-line character counts as the row after it, or as a space if there
is none. -/
theorem foldBreaks_row_of_nextLine {row cs : List Char} (hrow : ∀ b ∈ row, isWrittenBreak b = true)
    (hcs : atBreak cs = false) :
  foldBreaks (Cursor.asBreak nextLine) (row.map Cursor.asBreak) ++ reread false cs
    = reread false (nextLine :: (row ++ cs))
  := by
  have has : Cursor.asBreak nextLine = '\n' := by decide
  have hwritten : isWrittenBreak nextLine = true := by decide
  rw [reread, hwritten, if_pos rfl, if_neg Bool.false_ne_true, reread_row hrow hcs, has,
    beq_self_eq_true, if_pos rfl]
  cases row with
  | nil =>
      rw [List.nil_append, hcs, if_neg Bool.false_ne_true]
      rfl
  | cons d row =>
      have hd : atBreak (d :: row ++ cs) = true := hrow d List.mem_cons_self
      rw [hd, if_pos rfl]
      rfl

/-- A row that begins with a separator counts as what it is. -/
theorem foldBreaks_row_of_separator {b : Char} {row cs : List Char} (hb : isSeparator b = true)
    (hrow : ∀ b ∈ row, isWrittenBreak b = true) (hcs : atBreak cs = false) :
  foldBreaks (Cursor.asBreak b) (row.map Cursor.asBreak) ++ reread false cs
    = reread false (b :: (row ++ cs))
  := by
  have hfeed : b ≠ '\n' := by
    rintro rfl
    exact absurd hb (by decide)
  have hnext : b ≠ nextLine := by
    rintro rfl
    exact absurd hb (by decide)
  have hwritten : isWrittenBreak b = true := by
    rw [isWrittenBreak, hb, Bool.or_true]
  have has : Cursor.asBreak b = b := by
    rw [Cursor.asBreak, hb]
    rfl
  have hfold : foldBreaks b (row.map Cursor.asBreak) = b :: row.map Cursor.asBreak := by
    rw [foldBreaks, bne_iff_ne.mpr hfeed]
    rfl
  rw [reread, hwritten, if_pos rfl, if_neg Bool.false_ne_true, reread_row hrow hcs, has, hfold,
    beq_eq_false_iff_ne.mpr hnext]
  rfl

/-- What a row that is written counts as together is what it is read as. -/
theorem exists_row {b : Char} {row cs : List Char} (hb : isWrittenBreak b = true)
    (hrow : ∀ b ∈ row, isWrittenBreak b = true) (hcs : atBreak cs = false) {indent : Nat}
    (hindent : 0 < indent) :
  ∃ first, ∃ r : Row,
    (if b == '\n' then ['\n'] else []) ++ (b :: row) ++ List.replicate indent ' '
      = first :: r.chars ∧
    isBreak first = true ∧ first ≠ '\r' ∧
    foldBreaks (Cursor.asBreak first) (r.breaks.map Cursor.asBreak) ++ reread false cs
      = reread false (b :: (row ++ cs))
  := by
  obtain ⟨hbreak, hreturn⟩ := isBreak_of_isWrittenBreak hb
  have hrow' : ∀ d ∈ row, isBreak d = true ∧ d ≠ '\r' :=
    fun d hd => isBreak_of_isWrittenBreak (hrow d hd)
  by_cases hfeed : b = '\n'
  · subst hfeed
    have hall : ∀ d ∈ '\n' :: row, isBreak d = true ∧ d ≠ '\r' :=
      List.forall_mem_cons.mpr ⟨⟨hbreak, hreturn⟩, hrow'⟩
    exact ⟨'\n', ⟨'\n' :: row, indent, hall, hindent⟩, rfl, hbreak, hreturn,
      foldBreaks_row_of_feed hrow hcs⟩
  · refine ⟨b, ⟨row, indent, hrow', hindent⟩, ?_, hbreak, hreturn, ?_⟩
    · rw [beq_eq_false_iff_ne.mpr hfeed]
      rfl
    · rw [isWrittenBreak, Bool.or_eq_true, Bool.or_eq_true, beq_iff_eq, or_iff_right hfeed,
        beq_iff_eq] at hb
      rcases hb with rfl | hsep
      · exact foldBreaks_row_of_nextLine hrow hcs
      · exact foldBreaks_row_of_separator hsep hrow hcs

/-- A text begins with a row of breaks, which may be empty, after which no break comes. -/
theorem exists_row_append (cs : List Char) :
  ∃ row tail, cs = row ++ tail ∧ (∀ b ∈ row, isWrittenBreak b = true) ∧ atBreak tail = false
  := by
  induction cs with
  | nil => exact ⟨[], [], rfl, by simp, rfl⟩
  | cons c cs ih =>
      cases hc : isWrittenBreak c with
      | true =>
          obtain ⟨row, tail, rfl, hrow, htail⟩ := ih
          exact ⟨c :: row, tail, rfl, by simpa [hc] using hrow, htail⟩
      | false => exact ⟨[], c :: cs, rfl, by simp, hc⟩

theorem allowsSingleQuotes_of_append {cs ds : List Char}
    (h : allowsSingleQuotes (cs ++ ds) = true) :
  allowsSingleQuotes ds = true
  := by
  induction cs with
  | nil => apply h
  | cons c cs ih => apply ih (held_of_allowsSingleQuotes h).rest

/-- What comes after a row of breaks is no space. -/
theorem head?_ne_space_of_row {b : Char} {row cs : List Char} (hb : isWrittenBreak b = true)
    (hrow : ∀ b ∈ row, isWrittenBreak b = true) (h : allowsSingleQuotes (b :: (row ++ cs)) = true) :
  cs.head? ≠ some ' '
  := by
  induction row generalizing b with
  | nil => apply (held_of_allowsSingleQuotes h).no_space_after_break hb
  | cons d row ih =>
      apply ih (hrow d List.mem_cons_self)
      · intro e he
        apply hrow e (List.mem_cons_of_mem _ he)
      · apply (held_of_allowsSingleQuotes h).rest

/-- Whether a space is written as a line break. -/
def foldsSpace (fold : Bool) (column : Nat) (before : Before) (cs : List Char) : Bool :=
  before != .nothing && before != .space && !cs.isEmpty && cs.head? != some ' ' &&
    lineWidth < column && fold

/-- What a character other than a quote, a line break or a folded space is written as. -/
theorem singleChars_cons (fold : Bool) (indent column : Nat) (before : Before) {ch : Char}
    {cs : List Char} (hquote : ch ≠ '\x27') (hbreak : isWrittenBreak ch = false)
    (hfold : ch = ' ' → foldsSpace fold column before cs = false) :
  singleChars fold indent column before (ch :: cs)
    = [ch] ++ singleChars fold indent (column + 1) (if ch == ' ' then .space else .other) cs
  := by
  rw [singleChars, beq_eq_false_iff_ne.mpr hquote, hbreak]
  by_cases hspace : ch = ' '
  · subst hspace
    have hnot := hfold rfl
    rw [foldsSpace] at hnot
    simp only [beq_self_eq_true, Bool.true_and, hnot]
    rfl
  · simp only [beq_eq_false_iff_ne.mpr hspace, Bool.false_and]
    rfl

/-- What a folded space is written as. -/
theorem singleChars_fold {fold : Bool} (indent : Nat) {column : Nat} {before : Before}
    {cs : List Char} (hfold : foldsSpace fold column before cs = true) :
  singleChars fold indent column before (' ' :: cs)
    = newLine indent ++ singleChars fold indent indent .space cs
  := by
  have hbreak : isWrittenBreak ' ' = false := by decide
  have hquote : (' ' == '\x27') = false := by decide
  rw [foldsSpace] at hfold
  rw [singleChars, hbreak, hquote]
  simp only [beq_self_eq_true, Bool.true_and, hfold]
  rfl

/-- A quote is written twice. -/
theorem singleChars_quote (fold : Bool) (indent column : Nat) (before : Before) (cs : List Char) :
  singleChars fold indent column before ('\x27' :: cs)
    = ['\x27', '\x27'] ++ singleChars fold indent (column + 2) .other cs
  := by
  rw [singleChars]
  rfl

/-- A space that is written as a line break comes before no other space. -/
theorem head?_ne_space_of_foldsSpace {fold : Bool} {column : Nat} {before : Before} {cs : List Char}
    (h : foldsSpace fold column before cs = true) :
  cs.head? ≠ some ' '
  := by
  rw [foldsSpace] at h
  simp only [Bool.and_eq_true, bne_iff_ne] at h
  exact h.1.1.2

/-- A space that is written as a line break is read as a space. -/
theorem ReadsAs.foldedSpace {indent : Nat} {written text : List Char}
    (h : ReadsAs '\x27' written text) (hindent : 0 < indent)
    (hsolid : ∀ rest, ∃ ch tail, Solid (written ++ '\x27' :: rest) ch tail) :
  ReadsAs '\x27' (newLine indent ++ written) (' ' :: text)
  := h.row ⟨[], indent, by simp, hindent⟩ (Or.inl rfl) (by decide) (by decide) hsolid

/-- A text that is written between single quotes is read as `reread` says. -/
theorem readsAs_singleChars {fold : Bool} {indent column : Nat} {before : Before} {cs : List Char}
    (h : allowsSingleQuotes cs = true) (hindent : 0 < indent)
    (hbefore : before = .lineBreak → atBreak cs = false) :
  ReadsAs '\x27' (singleChars fold indent column before cs) (reread false cs)
  := by
  cases cs with
  | nil =>
      rw [singleChars]
      exact ReadsAs.nil _
  | cons ch cs =>
      have hheld := held_of_allowsSingleQuotes h
      have hsingle : IsQuote '\x27' := Or.inl rfl
      by_cases hquote : ch = '\x27'
      · subst hquote
        rw [singleChars_quote]
        exact (readsAs_singleChars hheld.rest hindent (by simp)).quotes
      · cases hbreak : isWrittenBreak ch with
        | true =>
            obtain ⟨row, tail, rfl, hrow, htail⟩ := exists_row_append cs
            have hbefore' : before ≠ .lineBreak := by
              intro heq
              have hnot : isWrittenBreak ch = false := hbefore heq
              rw [hbreak] at hnot
              cases hnot
            have htail' := allowsSingleQuotes_of_append hheld.rest
            have hnext : ReadsAs '\x27' (singleChars fold indent indent .lineBreak tail)
                (reread false tail) :=
              readsAs_singleChars htail' hindent fun _ => htail
            obtain ⟨first, r, hr, hfirst, hreturn, hread⟩ := exists_row hbreak hrow htail hindent
            rw [singleChars_break fold indent column hbreak hrow htail hbefore', hr, ← hread]
            apply hnext.row r hsingle hfirst hreturn
            intro rest
            exact exists_solid fold indent indent .lineBreak rest htail'
              (head?_ne_space_of_row hbreak hrow h) htail
        | false =>
            have hread : reread false (ch :: cs) = ch :: reread false cs := by
              rw [reread, hbreak]
              rfl
            have hnext : ∀ column' before', before' ≠ .lineBreak →
                ReadsAs '\x27' (singleChars fold indent column' before' cs) (reread false cs) := by
              intro column' before' hne
              exact readsAs_singleChars hheld.rest hindent (absurd · hne)
            rw [hread]
            by_cases hspace : ch = ' '
            · subst hspace
              cases hfold : foldsSpace fold column before cs with
              | true =>
                  rw [singleChars_fold indent hfold]
                  apply (hnext _ _ (by decide)).foldedSpace hindent
                  intro rest
                  exact exists_solid fold indent indent .space rest hheld.rest
                    (head?_ne_space_of_foldsSpace hfold) (hheld.no_break_after_space rfl)
              | false =>
                  rw [singleChars_cons fold indent column before hquote hbreak fun _ => hfold]
                  apply (hnext _ _ (by decide)).space hsingle
                  intro rest
                  exact exists_spaces_solid fold indent (column + 1) rest h
            · obtain ⟨hblank, hbreak'⟩ := not_white hheld.needsEscape_eq_false hspace hbreak
              rw [singleChars_cons fold indent column before hquote hbreak (absurd · hspace),
                beq_eq_false_iff_ne.mpr hspace, if_neg Bool.false_ne_true]
              exact (hnext _ _ (by decide)).char hquote (fun heq => absurd heq (by decide))
                hblank hbreak'
termination_by cs.length

end AgentBundles.Yaml
