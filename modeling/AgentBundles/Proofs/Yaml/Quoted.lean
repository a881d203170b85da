import AgentBundles.Proofs.Outcome
import AgentBundles.Proofs.Yaml.Cursor
import AgentBundles.Yaml.Scalar
import AgentBundles.Yaml.Tag

/-!
# Reading between quotes

`Reads quote c text c'` says that reading between quotes from `c` on gives `text` and ends at `c'`.
The lemmas say what is read of a text that begins with a given part, once it is known what is read
of the rest. `ReadsAs quote written text` says that `written` is read as `text` wherever a closing
quote comes after it, and is put together in the same way.
-/

namespace AgentBundles.Yaml

/-- What is read from a cursor to a closing quote, with any fuel that exceeds the rest of the
text. -/
def Reads (quote : Char) (c : Cursor) (text : List Char) (c' : Cursor) : Prop :=
  ∀ fuel, c.rest.length < fuel → readQuoted quote fuel c = .ok (text, c')

/-- The two quotes. -/
def IsQuote (quote : Char) : Prop := quote = '\x27' ∨ quote = '\x22'

namespace Reads

variable {quote : Char} {c c' : Cursor} {text : List Char}

theorem length_rest_step {ch : Char} {rest : List Char} (h : c.rest = ch :: rest) {fuel : Nat}
    (hfuel : c.rest.length < fuel + 1) :
  c.step.rest.length < fuel
  := by
  rw [Cursor.rest_step_of_eq h]
  rw [h, List.length_cons] at hfuel
  omega

/-- A closing quote ends a text. -/
theorem close {rest : List Char} (h : c.rest = quote :: rest)
    (hrest : quote = '\x27' → rest.head? ≠ some '\x27') :
  Reads quote c [] c.step
  := by
  intro fuel hfuel
  cases fuel with
  | zero => cases hfuel
  | succ fuel =>
      have hpair : (quote == '\x27' && rest.head? == some '\x27') = false := by
        by_cases hq : quote = '\x27'
        · simpa [hq] using hrest hq
        · simp [hq]
      simp only [readQuoted, h, beq_self_eq_true, if_true]
      rw [hpair]
      rfl

/-- Two single quotes stand for one. -/
theorem quotes {rest : List Char} (h : c.rest = '\x27' :: '\x27' :: rest)
    (hrest : Reads '\x27' (c.advance 2) text c') :
  Reads '\x27' c ('\x27' :: text) c'
  := by
  intro fuel hfuel
  cases fuel with
  | zero => cases hfuel
  | succ fuel =>
      have hlength : (c.advance 2).rest.length < fuel := by
        rw [Cursor.rest_advance, h]
        rw [h, List.length_cons, List.length_cons] at hfuel
        simp only [List.drop_succ_cons, List.drop_zero]
        omega
      simp only [readQuoted, h, beq_self_eq_true, if_true, List.head?_cons, Bool.and_self]
      rw [hrest fuel hlength]
      rfl

/-- A character that is neither a quote, nor begins an escape, nor is white stands for itself. -/
theorem char {ch : Char} {rest : List Char} (h : c.rest = ch :: rest) (hquote : ch ≠ quote)
    (hescape : quote = '\x22' → ch ≠ '\\') (hblank : isSpaceOrTab ch = false)
    (hbreak : isBreak ch = false) (hrest : Reads quote c.step text c') :
  Reads quote c (ch :: text) c'
  := by
  intro fuel hfuel
  cases fuel with
  | zero => cases hfuel
  | succ fuel =>
      have hescape' : (ch == '\\' && quote == '\x22') = false := by
        by_cases hq : quote = '\x22'
        · simpa [hq] using hescape hq
        · simp [hq]
      have hwhite : (ch == ' ' || ch == '\t' || isBreak ch) = false := by
        rw [hbreak, Bool.or_false]
        apply hblank
      simp only [readQuoted, h, beq_eq_false_iff_ne.mpr hquote, hescape', hwhite,
        Bool.false_eq_true, if_false]
      rw [hrest fuel (length_rest_step h hfuel)]
      rfl

/-- What an escape stands for comes before what is read after it. -/
theorem escape {rest part : List Char} {c'' : Cursor} (h : c.rest = '\\' :: rest)
    (hpart : readEscape c.step = .ok (part, c'')) (hlength : c''.rest.length ≤ rest.length)
    (hrest : Reads '\x22' c'' text c') :
  Reads '\x22' c (part ++ text) c'
  := by
  intro fuel hfuel
  cases fuel with
  | zero => cases hfuel
  | succ fuel =>
      have hlength' : c''.rest.length < fuel := by
        rw [h, List.length_cons] at hfuel
        omega
      have hquote : ('\\' == '\x22') = false := by decide
      simp only [readQuoted, h, hquote, beq_self_eq_true, Bool.and_self, Bool.false_eq_true,
        if_false, if_true, hpart, ok_bind]
      rw [hrest fuel hlength']
      rfl

/-- White space before a character that breaks no line stands for itself. -/
theorem readQuoted_white {s ch : Char} {rest cs tail : List Char} (hquote : IsQuote quote)
    (h : c.rest = s :: rest) (hs : isSpaceOrTab s = true) (hcs : s :: rest = cs ++ ch :: tail)
    (hall : ∀ b ∈ cs, isSpaceOrTab b = true) (hch : isSpaceOrTab ch = false)
    (hbreak : isBreak ch = false) (fuel : Nat) :
  readQuoted quote (fuel + 1) c
    = (readQuoted quote fuel (c.advance cs.length)).map fun r => (cs ++ r.1, r.2)
  := by
  have hspaces : readQuotedSpaces c = .ok (cs, c.advance cs.length) := by
    have hspan : c.span (fun ch => ch == ' ' || ch == '\t') = (cs, c.advance cs.length) := by
      apply Cursor.span_eq (h.trans hcs) hall
      intro d hd
      cases hd
      apply hch
    have hrest : (c.advance cs.length).rest = ch :: tail := Cursor.rest_advance_of_eq (h.trans hcs)
    have hnone : (c.advance cs.length).readBreak? = none := by
      apply Cursor.readBreak?_eq_none
      intro d hd
      rw [hrest] at hd
      cases hd
      apply hbreak
    simp only [readQuotedSpaces, hspan, hrest, hnone]
  have hwhite : (s == ' ' || s == '\t' || isBreak s) = true := by
    rw [Bool.or_eq_true]
    apply Or.inl hs
  have hnot : (s == quote) = false ∧ (s == '\\') = false := by
    rcases (Bool.or_eq_true _ _).mp hs with hs | hs
    · obtain rfl := eq_of_beq hs
      rcases hquote with rfl | rfl
      · decide
      · decide
    · obtain rfl := eq_of_beq hs
      rcases hquote with rfl | rfl
      · decide
      · decide
  simp only [readQuoted, h, hnot, hwhite, Bool.false_and, Bool.false_eq_true, if_false, if_true,
    hspaces, ok_bind]
  cases readQuoted quote fuel (c.advance cs.length) with
  | error e => rfl
  | ok r => rfl

/-- A space stands for itself, if no line break comes after it and the spaces that follow. -/
theorem space {ch : Char} {rest cs tail : List Char} (hquote : IsQuote quote)
    (h : c.rest = ' ' :: rest) (hcs : rest = cs ++ ch :: tail)
    (hall : ∀ b ∈ cs, isSpaceOrTab b = true) (hch : isSpaceOrTab ch = false)
    (hbreak : isBreak ch = false) (hrest : Reads quote c.step text c') :
  Reads quote c (' ' :: text) c'
  := by
  intro fuel hfuel
  cases fuel with
  | zero => cases hfuel
  | succ fuel =>
      have hlength := length_rest_step h hfuel
      have hcons : ' ' :: rest = (' ' :: cs) ++ ch :: tail := by
        rw [hcs]
        rfl
      have hall' : ∀ b ∈ ' ' :: cs, isSpaceOrTab b = true := by
        intro b hb
        rcases List.mem_cons.mp hb with rfl | hb
        · rfl
        · apply hall b hb
      rw [readQuoted_white hquote h rfl hcons hall' hch hbreak]
      cases cs with
      | nil =>
          rw [List.length_singleton, Cursor.advance_one, hrest fuel hlength]
          rfl
      | cons s cs =>
          -- The reader takes all white space at once, here and one character further on.
          have hstep := hrest (fuel + 1) (Nat.lt_succ_of_lt hlength)
          have hrest' : c.step.rest = s :: (cs ++ ch :: tail) :=
            (Cursor.rest_step_of_eq h).trans hcs
          rw [readQuoted_white hquote hrest' (hall s List.mem_cons_self) rfl hall hch hbreak]
            at hstep
          rw [List.length_cons, Cursor.advance_succ]
          cases hread : readQuoted quote fuel (c.step.advance (s :: cs).length) with
          | error e =>
              rw [hread] at hstep
              cases hstep
          | ok r =>
              rw [hread] at hstep
              cases hstep
              rfl

end Reads

/-! ### Line breaks -/

/-- Characters that begin with one that is not white. -/
structure Solid (cs : List Char) (ch : Char) (rest : List Char) : Prop where
  eq : cs = ch :: rest
  isSpaceOrTab_eq_false : isSpaceOrTab ch = false
  isBreak_eq_false : isBreak ch = false

/-- A character that breaks a line is no space or tab. -/
theorem isSpaceOrTab_of_isBreak {b : Char} (h : isBreak b = true) :
  isSpaceOrTab b = false
  := by
  rw [← Bool.not_eq_true, isSpaceOrTab, Bool.or_eq_true]
  rintro (hb | hb)
  · obtain rfl := eq_of_beq hb
    exact absurd h (by decide)
  · obtain rfl := eq_of_beq hb
    exact absurd h (by decide)

/-- A line that begins with another character than a hyphen or point has no mark. -/
theorem atMarker_eq_false {b : Char} {rest : List Char} (hhyphen : b ≠ '-') (hpoint : b ≠ '.') :
  atMarker (b :: rest) = false
  := by
  have hhyphen' : ('-' == b) = false := beq_eq_false_iff_ne.mpr hhyphen.symm
  have hpoint' : ('.' == b) = false := beq_eq_false_iff_ne.mpr hpoint.symm
  simp [atMarker, atMarkerOf, List.isPrefixOf, hhyphen', hpoint']

theorem atMarker_of_isBreak {b : Char} {rest : List Char} (h : isBreak b = true) :
  atMarker (b :: rest) = false
  := by
  apply atMarker_eq_false
  · rintro rfl
    exact absurd h (by decide)
  · rintro rfl
    exact absurd h (by decide)

/-- Line breaks in a row, and the indent of the line after them. -/
structure Row where
  breaks : List Char
  indent : Nat
  isBreak_of_mem : ∀ b ∈ breaks, isBreak b = true ∧ b ≠ '\r'
  indent_pos : 0 < indent

namespace Row

/-- The characters of a row. -/
def chars (r : Row) : List Char := r.breaks ++ List.replicate r.indent ' '

theorem length_chars (r : Row) :
  r.chars.length = r.breaks.length + r.indent
  := by
  rw [chars, List.length_append, List.length_replicate]

end Row

/-- All breaks of a row are read. -/
theorem readQuotedBreaks_eq {c : Cursor} (r : Row) {ch : Char} {rest : List Char}
    (h : c.rest = r.chars ++ ch :: rest) (hch : isSpaceOrTab ch = false)
    (hbreak : isBreak ch = false) {fuel : Nat} (hfuel : r.breaks.length < fuel) :
  readQuotedBreaks fuel c = .ok (r.breaks.map Cursor.asBreak, c.advance r.chars.length)
  := by
  obtain ⟨breaks, indent, hbreaks, hindent⟩ := r
  induction breaks generalizing c fuel with
  | nil =>
      cases fuel with
      | zero => cases hfuel
      | succ fuel =>
          have hspaces : (Row.mk [] indent hbreaks hindent).chars = List.replicate indent ' ' := rfl
          rw [hspaces] at h ⊢
          have hmarker : atMarker c.rest = false := by
            cases indent with
            | zero => exact absurd hindent (Nat.lt_irrefl 0)
            | succ indent =>
                rw [h]
                apply atMarker_eq_false
                · decide
                · decide
          have hskip : c.skip (fun ch => ch == ' ' || ch == '\t')
              = c.advance (List.replicate indent ' ').length := by
            apply Cursor.skip_eq h
            · intro d hd
              rw [(List.mem_replicate.mp hd).2]
              rfl
            · intro d hd
              cases hd
              apply hch
          have hnone : (c.advance (List.replicate indent ' ').length).readBreak? = none := by
            apply Cursor.readBreak?_eq_none
            intro d hd
            rw [Cursor.rest_advance_of_eq h] at hd
            cases hd
            apply hbreak
          simp only [readQuotedBreaks, hmarker, Bool.false_eq_true, if_false, hskip, hnone]
          rfl
  | cons b breaks ih =>
      cases fuel with
      | zero => cases hfuel
      | succ fuel =>
          obtain ⟨hb, hreturn⟩ := hbreaks b List.mem_cons_self
          have hrest : c.rest = b :: (breaks ++ List.replicate indent ' ' ++ ch :: rest) := h
          have hskip : c.skip (fun ch => ch == ' ' || ch == '\t') = c := by
            have hnil : c.rest = [] ++ b :: (breaks ++ List.replicate indent ' ' ++ ch :: rest) :=
              hrest
            rw [Cursor.skip_eq hnil]
            · rfl
            · intro d hd
              cases hd
            · intro d hd
              cases hd
              apply isSpaceOrTab_of_isBreak hb
          have hbreaks' : ∀ b ∈ breaks, isBreak b = true ∧ b ≠ '\r' := by
            intro d hd
            apply hbreaks d (List.mem_cons_of_mem _ hd)
          have hstep := ih hbreaks' (Cursor.rest_step_of_eq hrest) (Nat.lt_of_succ_lt_succ hfuel)
          simp only [readQuotedBreaks, hskip, Cursor.readBreak?_eq_some hrest hb hreturn, hstep,
            ok_bind]
          rw [hrest, atMarker_of_isBreak hb]
          rfl

/-- The breaks of a row are read as what they count as together. -/
theorem Reads.row {quote : Char} {c c' : Cursor} {text : List Char} {b : Char} (r : Row) {ch : Char}
    {rest : List Char} (hquote : IsQuote quote) (h : c.rest = b :: r.chars ++ ch :: rest)
    (hb : isBreak b = true) (hreturn : b ≠ '\r') (hch : isSpaceOrTab ch = false)
    (hbreak : isBreak ch = false) (hrest : Reads quote (c.advance (b :: r.chars).length) text c') :
  Reads quote c (foldBreaks (Cursor.asBreak b) (r.breaks.map Cursor.asBreak) ++ text) c'
  := by
  intro fuel hfuel
  cases fuel with
  | zero => cases hfuel
  | succ fuel =>
      have hcons : c.rest = b :: (r.chars ++ ch :: rest) := h
      have hspan : c.span (fun ch => ch == ' ' || ch == '\t') = ([], c) := by
        have hnil : c.rest = [] ++ b :: (r.chars ++ ch :: rest) := hcons
        rw [Cursor.span_eq hnil]
        · rfl
        · intro d hd
          cases hd
        · intro d hd
          cases hd
          apply isSpaceOrTab_of_isBreak hb
      have hbreaks : r.breaks.length < c.step.rest.length + 1 := by
        rw [Cursor.rest_step_of_eq hcons, List.length_append, Row.length_chars]
        omega
      have hspaces : readQuotedSpaces c
          = .ok (foldBreaks (Cursor.asBreak b) (r.breaks.map Cursor.asBreak),
            c.advance (b :: r.chars).length) := by
        simp only [readQuotedSpaces, hspan, hcons, Cursor.readBreak?_eq_some hcons hb hreturn,
          readQuotedBreaks_eq r (Cursor.rest_step_of_eq hcons) hch hbreak hbreaks, ok_bind]
        rfl
      have hwhite : (b == ' ' || b == '\t' || isBreak b) = true := by
        rw [hb, Bool.or_true]
      have hnot : (b == quote) = false ∧ (b == '\\') = false := by
        rw [beq_eq_false_iff_ne, beq_eq_false_iff_ne]
        constructor
        · rintro rfl
          rcases hquote with rfl | rfl
          · exact absurd hb (by decide)
          · exact absurd hb (by decide)
        · rintro rfl
          exact absurd hb (by decide)
      have hlength : (c.advance (b :: r.chars).length).rest.length < fuel := by
        rw [Cursor.rest_advance_of_eq h]
        rw [h, List.length_append, List.length_cons] at hfuel
        omega
      simp only [readQuoted, hcons, hnot, hwhite, Bool.false_and, Bool.false_eq_true, if_false,
        if_true, hspaces, ok_bind]
      rw [hrest fuel hlength]
      rfl

/-! ### What stands before a closing quote -/

/-- Characters that are read as a text, up to the closing quote after them. -/
def ReadsAs (quote : Char) (written text : List Char) : Prop :=
  ∀ (c : Cursor) (rest : List Char), c.rest = written ++ quote :: rest →
    (quote = '\x27' → rest.head? ≠ some '\x27') →
    Reads quote c text (c.advance (written.length + 1))

namespace ReadsAs

variable {quote : Char} {written text : List Char}

theorem nil (quote : Char) :
  ReadsAs quote [] []
  := fun _ _ hc hrest => Reads.close hc hrest

/-- What a first part is read as comes before what is read after it. -/
theorem append (ws part : List Char) (h : ReadsAs quote written text)
    (hpart : ∀ {c c' : Cursor} {rest : List Char}, c.rest = ws ++ (written ++ quote :: rest) →
      Reads quote (c.advance ws.length) text c' → Reads quote c (part ++ text) c') :
  ReadsAs quote (ws ++ written) (part ++ text)
  := by
  intro c rest hc hrest
  rw [List.append_assoc] at hc
  rw [← Cursor.advance_append]
  apply hpart hc
  exact h _ _ (Cursor.rest_advance_of_eq hc) hrest

/-- A single quote is written twice. -/
theorem quotes (h : ReadsAs '\x27' written text) :
  ReadsAs '\x27' (['\x27', '\x27'] ++ written) ('\x27' :: text)
  := h.append ['\x27', '\x27'] ['\x27'] fun hc hread => Reads.quotes hc hread

/-- A character that has no meaning between quotes. -/
theorem char {ch : Char} (h : ReadsAs quote written text) (hquote : ch ≠ quote)
    (hescape : quote = '\x22' → ch ≠ '\\') (hblank : isSpaceOrTab ch = false)
    (hbreak : isBreak ch = false) :
  ReadsAs quote ([ch] ++ written) (ch :: text)
  := h.append [ch] [ch] fun hc hread => Reads.char hc hquote hescape hblank hbreak hread

/-- A space, after which no line break comes before a solid character. -/
theorem space (h : ReadsAs quote written text) (hquote : IsQuote quote)
    (hspaces : ∀ rest, ∃ spaces ch tail, written ++ quote :: rest = spaces ++ ch :: tail ∧
      (∀ b ∈ spaces, isSpaceOrTab b = true) ∧ isSpaceOrTab ch = false ∧ isBreak ch = false) :
  ReadsAs quote ([' '] ++ written) (' ' :: text)
  := by
  apply h.append [' '] [' ']
  intro c c' rest hc hread
  obtain ⟨spaces, ch, tail, heq, hall, hch, hbreak⟩ := hspaces rest
  exact Reads.space hquote hc heq hall hch hbreak hread

/-- A row of line breaks before a solid character. -/
theorem row {b : Char} (r : Row) (h : ReadsAs quote written text) (hquote : IsQuote quote)
    (hb : isBreak b = true) (hreturn : b ≠ '\r')
    (hsolid : ∀ rest, ∃ ch tail, Solid (written ++ quote :: rest) ch tail) :
  ReadsAs quote (b :: r.chars ++ written)
    (foldBreaks (Cursor.asBreak b) (r.breaks.map Cursor.asBreak) ++ text)
  := by
  apply h.append
  intro c c' rest hc hread
  obtain ⟨ch, tail, hwritten⟩ := hsolid rest
  rw [hwritten.eq] at hc
  exact Reads.row r hquote hc hb hreturn hwritten.isSpaceOrTab_eq_false
    hwritten.isBreak_eq_false hread

end ReadsAs

end AgentBundles.Yaml
