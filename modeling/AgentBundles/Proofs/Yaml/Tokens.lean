import AgentBundles.Proofs.Yaml.Keys

/-!
# The tokens of a mapping

The tokens that are read of a mapping of texts that was written: the start of the mapping, four
tokens for each entry, and its end. A key too far from the colon after it is a fault.
-/

namespace AgentBundles.Yaml

/-- The tokens of an entry. -/
def entryTokens (e : String × String) : List Token :=
  [.key, writtenToken (isSimpleKey (.str e.1)) e.1, .value, writtenToken false e.2]

namespace Reader

/-! ### One step of reading -/

/-- No place is dropped while all are near enough. -/
theorem dropStale_eq {r : Reader} (h : ∀ p ∈ r.places, r.isStale p = false) :
  r.dropStale = .ok r
  := by
  have hany : (r.places.any fun p => r.isStale p && p.required) = false := by
    rw [List.any_eq_false]
    intro p hp
    rw [h p hp]
    exact Bool.false_ne_true
  have hfilter : (r.places.filter fun p => !r.isStale p) = r.places := by
    rw [List.filter_eq_self]
    intro p hp
    rw [h p hp]
    rfl
  rw [dropStale, hany, if_neg Bool.false_ne_true, hfilter]

/-- Places that are too far back are dropped, if other things than keys may begin there. -/
theorem dropStale_eq_filter {r : Reader} (h : ∀ p ∈ r.places, p.required = false) :
  r.dropStale = .ok { r with places := r.places.filter fun p => !r.isStale p }
  := by
  have hany : (r.places.any fun p => r.isStale p && p.required) = false := by
    rw [List.any_eq_false]
    intro p hp
    rw [h p hp, Bool.and_false]
    exact Bool.false_ne_true
  rw [dropStale, hany, if_neg Bool.false_ne_true]

/-- No block ends before a column that is not less than its indent. -/
theorem closeBlocks_eq {r : Reader} {column : Int} (h : r.indent ≤ column) :
  r.closeBlocks column = r
  := by
  rw [closeBlocks]
  split
  · rfl
  · cases r.indents with
    | nil => rfl
    | cons i is =>
        rw [closeBlocks.go, if_neg (Int.not_lt.mpr h)]

/-- One more token is read. -/
theorem run_succ {r s r' : Reader} {fuel : Nat} {ch : Char} {rest : List Char}
    (hskip : skipToToken (r.cursor.rest.length + 1) r = s)
    (hfresh : ∀ p ∈ s.places, s.isStale p = false) (hindent : s.indent ≤ s.cursor.column)
    (hrest : s.cursor.rest = ch :: rest) (hread : s.readToken ch rest = .ok r') :
  run (fuel + 1) r = run fuel r'
  := by
  rw [run, hskip, dropStale_eq hfresh]
  simp only [closeBlocks_eq hindent, hrest, hread]

/-- What is skipped and dropped before the first token makes no difference. -/
theorem run_congr {r s t : Reader} {fuel : Nat}
    (hr : (skipToToken (r.cursor.rest.length + 1) r).dropStale = .ok t)
    (hs : (skipToToken (s.cursor.rest.length + 1) s).dropStale = .ok t) :
  run (fuel + 1) r = run (fuel + 1) s
  := by
  rw [run, run, hr, hs]

/-- Spaces before a token are skipped. -/
theorem skipToToken_spaces {r : Reader} {n : Nat} {cs rest : List Char} {ch : Char} (fuel : Nat)
    (h : r.cursor.rest = List.replicate n ' ' ++ cs) (hcs : Solid cs ch rest)
    (hcomment : ch ≠ '#') :
  skipToToken (fuel + 1) r = { r with cursor := r.cursor.advance n }
  := by
  have hspaces : r.cursor.skipSpaces = r.cursor.advance n := by
    have hskip := Cursor.skip_eq (p := (· == ' ')) h (by
      intro d hd
      rw [(List.mem_replicate.mp hd).2]
      rfl) (by
      intro d hd
      rw [hcs.eq] at hd
      cases hd
      exact (Bool.or_eq_false_iff.mp hcs.isSpaceOrTab_eq_false).1)
    rw [List.length_replicate] at hskip
    apply hskip
  have hrest : (r.cursor.advance n).rest = ch :: rest := by
    have heq := Cursor.rest_advance_of_eq h
    rw [List.length_replicate] at heq
    rw [heq, hcs.eq]
  have hsees : (r.cursor.advance n).sees '#' = false := by
    rw [Cursor.sees_eq hrest]
    apply beq_eq_false_iff_ne.mpr hcomment
  have hnone : (r.cursor.advance n).readBreak? = none := by
    apply Cursor.readBreak?_eq_none
    intro d hd
    rw [hrest] at hd
    cases hd
    apply hcs.isBreak_eq_false
  simp only [skipToToken, hspaces, Cursor.skipComment, hsees, Bool.false_eq_true, if_false, hnone]

/-- A line that starts with a token goes on with it. -/
theorem skipToToken_eq {r : Reader} {cs rest : List Char} {ch : Char} (fuel : Nat)
    (h : r.cursor.rest = cs) (hcs : Solid cs ch rest) (hcomment : ch ≠ '#') :
  skipToToken (fuel + 1) r = r
  := by
  have hspaces : r.cursor.rest = List.replicate 0 ' ' ++ cs := h
  apply skipToToken_spaces fuel hspaces hcs hcomment

/-- After the end of a line, a key may begin. -/
theorem skipToToken_lineFeed {r : Reader} {cs rest : List Char} {ch : Char} (fuel : Nat)
    (h : r.cursor.rest = '\n' :: cs) (hcs : Solid cs ch rest) (hcomment : ch ≠ '#') :
  skipToToken (fuel + 2) r
    = { r with cursor := r.cursor.step, keyAllowed := r.keyAllowed || !r.inFlow }
  := by
  have hspaces : r.cursor.skipSpaces = r.cursor := by
    rw [Cursor.skipSpaces, Cursor.skip, Cursor.span, h]
    rfl
  have hcomment' : r.cursor.skipComment = r.cursor := by
    rw [Cursor.skipComment, Cursor.sees_eq h]
    rfl
  have hbreak : r.cursor.readBreak? = some ('\n', r.cursor.step) :=
    Cursor.readBreak?_eq_some h (by decide) (by decide)
  rw [skipToToken]
  simp only [hspaces, hcomment', hbreak]
  have hstep : r.cursor.step.rest = cs := Cursor.rest_step_of_eq h
  apply skipToToken_eq fuel hstep hcs hcomment

/-- Nothing is skipped at the end. -/
theorem skipToToken_nil {r : Reader} (fuel : Nat) (h : r.cursor.rest = []) :
  skipToToken (fuel + 1) r = r
  := by
  have hspaces : r.cursor.skipSpaces = r.cursor := by
    rw [Cursor.skipSpaces, Cursor.skip, Cursor.span, h]
    rfl
  have hcomment : r.cursor.skipComment = r.cursor := by
    rw [Cursor.skipComment, Cursor.sees, h]
    rfl
  have hnone : r.cursor.readBreak? = none := by
    apply Cursor.readBreak?_eq_none
    intro d hd
    rw [h] at hd
    cases hd
  simp only [skipToToken, hspaces, hcomment, hnone]

/-! ### Reading a text -/

/-- The reader where the first or another line of a mapping starts. -/
def lineStart (first : Bool) (tokens : List Token) (c : Cursor) : Reader where
  cursor := c
  depth := 0
  indent := if first then -1 else 0
  indents := if first then [] else [-1]
  keyAllowed := true
  places := []
  tokens := tokens

/-- The reader within a line of a mapping, where a key may begin or not. -/
def within (keyAllowed : Bool) (tokens : List Token) (c : Cursor) : Reader :=
  { lineStart false tokens c with keyAllowed := keyAllowed }

/-- The place of a key that began at a cursor. -/
def placeAt (required : Bool) (tokens : List Token) (c : Cursor) : KeyPlace :=
  ⟨0, tokens.length, required, c.index, c.line, c.column⟩

/-- The place that is noted where a key may begin. -/
def placesAt (keyAllowed : Bool) (tokens : List Token) (c : Cursor) : List KeyPlace :=
  if keyAllowed then [placeAt false tokens c] else []

theorem savePlace_within {keyAllowed : Bool} {tokens : List Token} {c : Cursor}
    (hcolumn : c.column ≠ 0) :
  (within keyAllowed tokens c).savePlace
    = .ok { within keyAllowed tokens c with places := placesAt keyAllowed tokens c }
  := by
  cases keyAllowed with
  | false => rfl
  | true =>
      have hne : (0 : Int) ≠ c.column := by omega
      simp [within, lineStart, savePlace, dropPlace, place?, otherPlaces, placesAt, placeAt,
        inFlow, hne]

/-- The place after a text that comes after a space. -/
def textEnd (column : Nat) (text : String) (c : Cursor) : Cursor :=
  c.step.advance (writeText false 2 column text).length

theorem rest_textEnd {column : Nat} {text : String} {rest : List Char} {c : Cursor}
    (h : c.rest = ' ' :: (writeText false 2 column text ++ rest)) :
  (textEnd column text c).rest = rest
  := Cursor.rest_advance_of_eq (Cursor.rest_step_of_eq h)

/-- A text after a space is read, with the end of its line if it has no quotes. -/
theorem run_text {keyAllowed : Bool} {tokens : List Token} {text : String} {column : Nat}
    {rest : List Char} {c c' : Cursor} {broke : Bool} {fuel : Nat}
    (h : c.rest = ' ' :: (writeText false 2 column text ++ rest)) (hrest : rest.head? ≠ some '\x27')
    (hplain : styleOf false text = .plain → EndsPlain 1 (textEnd column text c) broke c')
    (hquoted : styleOf false text ≠ .plain → broke = false ∧ c' = textEnd column text c) :
  run (fuel + 1) (within keyAllowed tokens c)
    = run fuel { within broke (writtenToken false text :: tokens) c' with
      places := placesAt keyAllowed tokens c.step }
  := by
  have htext := Cursor.rest_step_of_eq h
  obtain ⟨ch, tail, hsolid, hcomment⟩ := exists_solid_writeText false 2 column text rest
  have hcolumn : c.step.column ≠ 0 := by
    rw [Cursor.column_step h (by decide) (by decide)]
    apply Nat.succ_ne_zero
  have hmarker : (within keyAllowed tokens c.step).cursor.column = 0 →
      atMarker (within keyAllowed tokens c.step).cursor.rest = false := by
    intro hzero
    exact absurd hzero hcolumn
  have hindent : ((within keyAllowed tokens c.step).indent + 1).toNat ≤ 1 := Nat.le_refl 1
  have hends : (within keyAllowed tokens c.step).EndsText false 2 column text broke c' := by
    rw [EndsText]
    split
    · rename_i hstyle
      apply hplain hstyle
    · rename_i hstyle
      apply hquoted hstyle
  obtain ⟨d, ds, hds, hread⟩ :=
    readToken_writeText rfl hindent (by decide) (by decide) hmarker htext hrest
    (savePlace_within hcolumn) hends
  apply run_succ (s := within keyAllowed tokens c.step) _ _ _ hds hread
  · have hspaces : (within keyAllowed tokens c).cursor.rest
        = List.replicate 1 ' ' ++ (writeText false 2 column text ++ rest) := h
    apply skipToToken_spaces _ hspaces hsolid hcomment
  · intro p hp
    cases hp
  · apply Int.natCast_nonneg

theorem required_of_mem_placesAt {keyAllowed : Bool} {tokens : List Token} {c : Cursor}
    {p : KeyPlace} (hp : p ∈ placesAt keyAllowed tokens c) :
  p.required = false
  := by
  cases keyAllowed with
  | false => cases hp
  | true =>
      rw [List.mem_singleton.mp hp]
      rfl

/-- On a later line, no place of a line is near enough. -/
theorem dropStale_within {keyAllowed broke : Bool} {tokens tokens' : List Token} {c c' : Cursor}
    (h : c.line < c'.line) :
  Reader.dropStale { within broke tokens' c' with places := placesAt keyAllowed tokens c }
    = .ok (within broke tokens' c')
  := by
  rw [dropStale_eq_filter (fun p hp => required_of_mem_placesAt hp)]
  cases keyAllowed with
  | false => rfl
  | true =>
      have hne : c.line ≠ c'.line := Nat.ne_of_lt h
      simp [isStale, placesAt, placeAt, within, lineStart, hne]

/-- Where a later line starts, no place is left. -/
theorem run_within_lineStart {keyAllowed : Bool} {tokens tokens' : List Token} {cs rest : List Char}
    {ch : Char} {c c' : Cursor} {fuel : Nat} (h : c'.rest = cs) (hcs : StartsLine cs ch rest)
    (hline : c.line < c'.line) :
  run (fuel + 1) { within true tokens' c' with places := placesAt keyAllowed tokens c }
    = run (fuel + 1) (lineStart false tokens' c')
  := by
  apply run_congr (t := lineStart false tokens' c')
  · rw [skipToToken_eq _ h hcs.toSolid hcs.ne_comment]
    apply dropStale_within hline
  · rw [skipToToken_eq _ h hcs.toSolid hcs.ne_comment]
    rfl

/-- After the end of a line, no place is left. -/
theorem run_within_lineFeed {keyAllowed : Bool} {tokens tokens' : List Token} {cs rest : List Char}
    {ch : Char} {c c' : Cursor} {fuel : Nat} (h : c'.rest = '\n' :: cs)
    (hcs : StartsLine cs ch rest) (hline : c.line ≤ c'.line) :
  run (fuel + 1) { within false tokens' c' with places := placesAt keyAllowed tokens c }
    = run (fuel + 1) (lineStart false tokens' c'.step)
  := by
  let r : Reader := { within false tokens' c' with places := placesAt keyAllowed tokens c }
  have hskip : skipToToken (c'.rest.length + 1) r
      = { r with cursor := c'.step, keyAllowed := true } := by
    have hlength : c'.rest.length + 1 = cs.length + 2 := by
      rw [h]
      rfl
    rw [hlength]
    apply skipToToken_lineFeed (r := r) cs.length h hcs.toSolid hcs.ne_comment
  have hline' : c.line < c'.step.line := by
    rw [Cursor.line_step_of_lineFeed h]
    apply Nat.lt_succ_of_le hline
  have hdrop : (skipToToken (c'.rest.length + 1) r).dropStale
      = .ok (lineStart false tokens' c'.step) := by
    rw [hskip]
    apply dropStale_within hline'
  apply run_congr hdrop
  rw [skipToToken_eq _ (Cursor.rest_step_of_eq h) hcs.toSolid hcs.ne_comment]
  rfl

/-- After a text another line may start, and no place is left. -/
theorem run_text_lineFeed {keyAllowed : Bool} {tokens : List Token} {text : String} {column : Nat}
    {cs rest : List Char} {ch : Char} {c : Cursor} {fuel : Nat}
    (h : c.rest = ' ' :: (writeText false 2 column text ++ '\n' :: cs))
    (hcs : StartsLine cs ch rest) :
  run (fuel + 2) (within keyAllowed tokens c)
    = run (fuel + 1)
      (lineStart false (writtenToken false text :: tokens) (textEnd column text c).step)
  := by
  have hend : (textEnd column text c).rest = '\n' :: cs := rest_textEnd h
  have hline : c.step.line ≤ (textEnd column text c).line := Cursor.line_le_line_advance c.step _
  by_cases hstyle : styleOf false text = .plain
  · -- Without quotes, the line feed is read with the text.
    have hplain : styleOf false text = .plain →
        EndsPlain 1 (textEnd column text c) true (textEnd column text c).step := by
      intro _
      apply endsPlain_of_lineFeed hend hcs.toSolid hcs.atMarker_eq_false
    rw [run_text h (by simp) hplain (fun hne => absurd hstyle hne)]
    apply run_within_lineStart (Cursor.rest_step_of_eq hend) hcs
    rw [Cursor.line_step_of_lineFeed hend]
    apply Nat.lt_succ_of_le hline
  · have hquoted : styleOf false text ≠ .plain → false = false ∧ textEnd column text c
        = textEnd column text c := by
      intro _
      exact ⟨rfl, rfl⟩
    rw [run_text h (by simp) (fun heq => absurd heq hstyle) hquoted]
    apply run_within_lineFeed hend hcs hline

/-- At the end of the text the mapping ends. -/
theorem run_end {r : Reader} {fuel : Nat} (hflow : r.depth = 0)
    (hplaces : ∀ p ∈ r.places, p.required = false) (hindent : r.indent = 0)
    (hindents : r.indents = [-1]) (h : r.cursor.rest = []) :
  ∃ s, run (fuel + 1) r = (s, none) ∧ s.tokens = .blockEnd :: r.tokens
  := by
  have hskip : skipToToken (r.cursor.rest.length + 1) r = r := skipToToken_nil _ h
  let s : Reader := { r with places := r.places.filter fun p => !r.isStale p }
  have hclose : s.closeBlocks s.cursor.column = s := by
    apply closeBlocks_eq
    have hs : s.indent = 0 := hindent
    rw [hs]
    apply Int.natCast_nonneg
  have hclosed : s.closeBlocks (-1)
      = { s with indent := -1, indents := [], tokens := .blockEnd :: r.tokens } := by
    simp [s, closeBlocks, closeBlocks.go, inFlow, hflow, hindent, hindents]
  have hplace : (s.place?.map (·.required)).getD false = false := by
    cases hfind : s.place? with
    | none => rfl
    | some p => exact hplaces p (List.mem_of_mem_filter (List.mem_of_find?_eq_some hfind))
  have hdrop : (s.closeBlocks (-1)).dropPlace
      = .ok { s with
        indent := -1, indents := [], tokens := .blockEnd :: r.tokens, places :=
        s.otherPlaces } := by
    rw [hclosed, dropPlace, if_neg]
    · rfl
    · intro hrequired
      exact Bool.false_ne_true (hplace.symm.trans hrequired)
  use { s with
    indent := -1, indents := [], tokens := .blockEnd :: r.tokens, places := s.otherPlaces }
  refine ⟨?_, rfl⟩
  have hstale : r.dropStale = .ok s := dropStale_eq_filter hplaces
  have hrest : s.cursor.rest = [] := h
  rw [run, hskip, hstale]
  simp only [hclose, hrest, hdrop]

/-- After the last text the mapping ends. -/
theorem run_text_end {keyAllowed : Bool} {tokens : List Token} {text : String} {column : Nat}
    {c : Cursor} {fuel : Nat} (h : c.rest = ' ' :: (writeText false 2 column text ++ [])) :
  ∃ r, run (fuel + 2) (within keyAllowed tokens c) = (r, none) ∧
    r.tokens = .blockEnd :: writtenToken false text :: tokens
  := by
  have hend : (textEnd column text c).rest = [] := rest_textEnd h
  have hplain : styleOf false text = .plain →
      EndsPlain 1 (textEnd column text c) false (textEnd column text c) := by
    intro _
    apply endsPlain_of_nil 1 hend
  have hquoted : styleOf false text ≠ .plain → false = false ∧ textEnd column text c
      = textEnd column text c := by
    intro _
    exact ⟨rfl, rfl⟩
  rw [run_text h (by simp) hplain hquoted]
  apply run_end rfl _ rfl rfl hend
  intro p hp
  apply required_of_mem_placesAt hp

/-! ### Reading a key -/

/-- The tokens with the start of the mapping before its first key. -/
def opened (first : Bool) (tokens : List Token) : List Token :=
  if first then .blockMappingStart :: tokens else tokens

/-- The reader after a key that stands before its colon. -/
def afterKey (first : Bool) (tokens : List Token) (key : String) (c : Cursor) : Reader :=
  { lineStart first tokens c with places := [placeAt (!first) tokens c], keyAllowed := false }.emit
    (writtenToken true key) (c.advance (writeText true 2 0 key).length)

theorem savePlace_lineStart {first : Bool} {tokens : List Token} {c : Cursor}
    (hcolumn : c.column = 0) :
  (lineStart first tokens c).savePlace
    = .ok { lineStart first tokens c with places := [placeAt (!first) tokens c] }
  := by
  cases first with
  | false => simp [lineStart, savePlace, dropPlace, place?, otherPlaces, placeAt, inFlow, hcolumn]
  | true => simp [lineStart, savePlace, dropPlace, place?, otherPlaces, placeAt, inFlow, hcolumn]

theorem indent_lineStart_le (first : Bool) (tokens : List Token) (c : Cursor) :
  (lineStart first tokens c).indent ≤ 0
  := by
  cases first with
  | false => exact Int.le_refl 0
  | true => exact Int.le_of_lt (Int.negSucc_lt_zero 0)

/-- The token of a key is read where a line starts. -/
theorem run_key {first : Bool} {tokens : List Token} {key : String} {rest : List Char} {c : Cursor}
    {fuel : Nat} (hcolumn : c.column = 0)
    (h : c.rest = writeText true 2 0 key ++ ':' :: ' ' :: rest) :
  run (fuel + 1) (lineStart first tokens c) = run fuel (afterKey first tokens key c)
  := by
  obtain ⟨ch, tail, hstart⟩ := exists_startsLine_writeText key (' ' :: rest)
  have hends : (lineStart first tokens c).EndsText true 2 0 key false
      (c.advance (writeText true 2 0 key).length) := by
    rw [EndsText]
    split
    · apply endsPlain_of_colon
      apply Cursor.rest_advance_of_eq h
    · exact ⟨rfl, rfl⟩
  have hindent := indent_lineStart_le first tokens c
  have hcolumn' : ((lineStart first tokens c).indent + 1).toNat ≤ 1 := by omega
  have hmarker : (lineStart first tokens c).cursor.column = 0 →
      atMarker (lineStart first tokens c).cursor.rest = false := by
    intro _
    have hmarker := hstart.atMarker_eq_false
    rw [← h] at hmarker
    apply hmarker
  obtain ⟨d, ds, hrest, hread⟩ :=
    readToken_writeText rfl hcolumn' (by decide) (by decide) hmarker h (by simp)
    (savePlace_lineStart hcolumn) hends
  apply run_succ (s := lineStart first tokens c) _ _ _ hrest hread
  · apply skipToToken_eq _ h hstart.toSolid hstart.ne_comment
  · intro p hp
    cases hp
  · have hzero : (lineStart first tokens c).cursor.column = 0 := hcolumn
    rw [hzero]
    apply hindent

/-- A key on one line is as far from its colon as it is long. -/
theorem isStale_afterKey {first : Bool} {tokens : List Token} {key : String} {rest : List Char}
    {c : Cursor} (hkey : isSimpleKey (.str key) = true)
    (h : c.rest = writeText true 2 0 key ++ rest) :
  (afterKey first tokens key c).isStale (placeAt (!first) tokens c)
    = decide (1024 < (writeText true 2 0 key).length)
  := by
  have hline : (c.advance (writeText true 2 0 key).length).line = c.line := by
    apply Cursor.line_advance h
    intro ch hch
    exact (isInline_of_mem_writeText hkey hch).1
  have hindex : (c.advance (writeText true 2 0 key).length).index
      = c.index + (writeText true 2 0 key).length :=
    Cursor.index_advance h
  simp [isStale, afterKey, placeAt, emit, hline, hindex]

/-- A token is put before the later ones. -/
theorem insertAt_append (later tokens : List Token) (t : Token) :
  insertAt (later ++ tokens) tokens.length t = later ++ t :: tokens
  := by
  rw [insertAt, List.length_append, Nat.add_sub_cancel, List.take_left, List.drop_left]

/-- A colon before a space is the mark of a value. -/
theorem readToken_colon {r : Reader} {rest : List Char} (hflow : r.depth = 0) :
  r.readToken ':' (' ' :: rest) = r.readValueMark
  := by
  simp [readToken, inFlow, hflow, atMarkerOf, atWhite, endsOr]

theorem solid_colon (rest : List Char) :
  Solid (':' :: ' ' :: rest) ':' (' ' :: rest)
  := (startsLine_mark (Or.inr rfl) (' ' :: rest)).toSolid

/-- The colon makes what came before it a key, if it is near enough. -/
theorem run_colon {first : Bool} {tokens : List Token} {key : String} {rest : List Char}
    {c : Cursor} {fuel : Nat} (hkey : isSimpleKey (.str key) = true) (hfits : KeyFits key)
    (hcolumn : c.column = 0) (h : c.rest = writeText true 2 0 key ++ ':' :: ' ' :: rest) :
  run (fuel + 1) (afterKey first tokens key c)
    = run fuel (within false (.value :: writtenToken true key :: .key :: opened first tokens)
        (c.advance (writeText true 2 0 key).length).step)
  := by
  have hrest : (afterKey first tokens key c).cursor.rest = ':' :: ' ' :: rest :=
    Cursor.rest_advance_of_eq h
  apply run_succ (s := afterKey first tokens key c) _ _ _ hrest
  · have hkeyMark := insertAt_append [writtenToken true key] tokens .key
    have hstart := insertAt_append [writtenToken true key, .key] tokens .blockMappingStart
    simp only [List.cons_append, List.nil_append] at hkeyMark hstart
    rw [readToken_colon rfl]
    cases first with
    | false =>
        simp [readValueMark, afterKey, within, lineStart, emit, place?, otherPlaces, placeAt,
          inFlow, openBlock, opened, hcolumn, hkeyMark]
    | true =>
        simp [readValueMark, afterKey, within, lineStart, emit, place?, otherPlaces, placeAt,
          inFlow, openBlock, opened, hcolumn, hkeyMark, hstart]
  · apply skipToToken_eq _ hrest (solid_colon rest) (by decide)
  · intro p hp
    rw [List.mem_singleton.mp hp, isStale_afterKey hkey h, decide_eq_false_iff_not]
    apply Nat.not_lt.mpr (hfits hkey)
  · apply Int.le_trans (indent_lineStart_le first tokens c)
    apply Int.natCast_nonneg

/-- The mark of a key is read where a line starts. -/
theorem run_keyMark {first : Bool} {tokens : List Token} {rest : List Char} {c : Cursor}
    {fuel : Nat} (hcolumn : c.column = 0) (h : c.rest = '?' :: ' ' :: rest) :
  run (fuel + 1) (lineStart first tokens c)
    = run fuel (within true (.key :: opened first tokens) c.step)
  := by
  have hsolid := (startsLine_mark (Or.inl rfl) (' ' :: rest)).toSolid
  apply run_succ (s := lineStart first tokens c) _ _ _ h
  · have hmark : (lineStart first tokens c).readToken '?' (' ' :: rest)
        = (lineStart first tokens c).readKeyMark := by
      simp [readToken, lineStart, inFlow, atMarkerOf, atWhite, endsOr]
    rw [hmark]
    cases first with
    | false =>
        simp [readKeyMark, within, lineStart, emit, needKeyAllowed, dropPlace, place?, otherPlaces,
          inFlow, openBlock, opened, hcolumn]
    | true =>
        simp [readKeyMark, within, lineStart, emit, needKeyAllowed, dropPlace, place?, otherPlaces,
          inFlow, openBlock, opened, hcolumn, insertAt]
  · apply skipToToken_eq _ h hsolid (by decide)
  · intro p hp
    cases hp
  · apply Int.le_trans (indent_lineStart_le first tokens c)
    apply Int.natCast_nonneg

/-- A colon that starts a line is the mark of the value of a marked key. -/
theorem run_valueMark {tokens : List Token} {rest : List Char} {c : Cursor} {fuel : Nat}
    (hcolumn : c.column = 0) (h : c.rest = ':' :: ' ' :: rest) :
  run (fuel + 1) (lineStart false tokens c) = run fuel (within true (.value :: tokens) c.step)
  := by
  apply run_succ (s := lineStart false tokens c) _ _ _ h
  · rw [readToken_colon rfl]
    simp [readValueMark, within, lineStart, emit, needKeyAllowed, place?, inFlow, openBlock,
      hcolumn]
  · apply skipToToken_eq _ h (solid_colon rest) (by decide)
  · intro p hp
    cases hp
  · apply Int.natCast_nonneg

/-- How many tokens are read of a key up to its colon, with the colon: the text, and the mark of a
key that has one. -/
def keySteps (key : String) : Nat :=
  if isSimpleKey (.str key) then 2 else 3

theorem keySteps_le (key : String) :
  keySteps key ≤ 3
  := by
  rw [keySteps]
  split
  · decide
  · decide

/-- The tokens of a key and its colon are read. -/
theorem run_writeKey {first : Bool} {tokens : List Token} {key : String} {rest : List Char}
    {c : Cursor} {fuel : Nat} (hfits : KeyFits key) (hcolumn : c.column = 0)
    (h : c.rest = writeKey key ++ ':' :: ' ' :: rest) :
  run (fuel + keySteps key) (lineStart first tokens c)
    = run fuel (within (!isSimpleKey (.str key))
        (.value :: writtenToken (isSimpleKey (.str key)) key :: .key :: opened first tokens)
        (c.advance (writeKey key).length).step)
  := by
  rw [writeKey] at h ⊢
  rw [keySteps]
  cases hkey : isSimpleKey (.str key) with
  | true =>
      simp only [hkey, if_true] at h
      simp only [if_true]
      rw [run_key hcolumn h, run_colon hkey hfits hcolumn h]
      rfl
  | false =>
      simp only [hkey, Bool.false_eq_true, if_false, List.cons_append, List.append_assoc,
        List.nil_append] at h
      have hmark := Cursor.rest_step_of_eq h
      have hend := rest_textEnd hmark
      have hcolon := Cursor.rest_step_of_eq hend
      have hlength : (c.advance ('?' :: ' ' :: (writeText false 2 2 key ++ ['\n'])).length)
          = (textEnd 2 key c.step).step := by
        rw [List.length_cons, List.length_cons, List.length_append, Cursor.advance_succ,
          Cursor.advance_succ, textEnd, ← Cursor.advance_advance]
        rfl
      simp only [Bool.false_eq_true, if_false, hlength]
      rw [run_keyMark hcolumn h, run_text_lineFeed hmark (startsLine_mark (Or.inr rfl) _),
        run_valueMark (Cursor.column_step_of_lineFeed hend) hcolon]
      rfl

/-- A key that stands too far before its colon is a fault. -/
theorem run_key_of_not_fits {first : Bool} {tokens : List Token} {key : String} {rest : List Char}
    {c : Cursor} {fuel : Nat} (hfits : ¬ KeyFits key) (hcolumn : c.column = 0)
    (h : c.rest = writeKey key ++ ':' :: ' ' :: rest) :
  ∃ r, run (fuel + 2) (lineStart first tokens c) = (r, some .malformed)
  := by
  rw [KeyFits, Classical.not_imp, Nat.not_le] at hfits
  obtain ⟨hkey, hlength⟩ := hfits
  rw [writeKey, if_pos hkey] at h
  have hrest : (afterKey first tokens key c).cursor.rest = ':' :: ' ' :: rest :=
    Cursor.rest_advance_of_eq h
  have hskip : skipToToken ((afterKey first tokens key c).cursor.rest.length + 1)
      (afterKey first tokens key c)
      = afterKey first tokens key c := skipToToken_eq _ hrest (solid_colon rest) (by decide)
  have hstale : (afterKey first tokens key c).isStale (placeAt (!first) tokens c) = true := by
    rw [isStale_afterKey hkey h]
    apply decide_eq_true hlength
  have hplaces : (afterKey first tokens key c).places = [placeAt (!first) tokens c] := rfl
  rw [run_key hcolumn h, run, hskip]
  cases first with
  | false =>
      have hdrop : (afterKey false tokens key c).dropStale = .error .malformed := by
        rw [dropStale, hplaces, List.any_cons, hstale]
        rfl
      rw [hdrop]
      exact ⟨_, rfl⟩
  | true =>
      let s : Reader := { afterKey true tokens key c with places := [] }
      have hdrop : (afterKey true tokens key c).dropStale = .ok s := by
        rw [dropStale, hplaces, List.any_cons, List.filter_cons, hstale]
        rfl
      have hclose : s.closeBlocks s.cursor.column = s := by
        apply closeBlocks_eq
        apply Int.le_trans (indent_lineStart_le true tokens c)
        apply Int.natCast_nonneg
      have hread : s.readToken ':' (' ' :: rest) = .error .malformed := by
        rw [readToken_colon rfl]
        rfl
      have hrest' : s.cursor.rest = ':' :: ' ' :: rest := hrest
      rw [hdrop]
      simp only [hclose, hrest', hread]
      exact ⟨_, rfl⟩

/-! ### Reading a mapping -/

/-- The tokens of an entry are read, with the line feed after it. -/
theorem run_entry_lineFeed {first : Bool} {tokens : List Token} {e : String × String} {column : Nat}
    {cs rest : List Char} {ch : Char} {c : Cursor} {fuel : Nat} (hfits : KeyFits e.1)
    (hcolumn : c.column = 0)
    (h : c.rest = writeKey e.1 ++ ':' :: ' ' :: (writeText false 2 column e.2 ++ '\n' :: cs))
    (hcs : StartsLine cs ch rest) :
  ∃ c', c'.column = 0 ∧ c'.rest = cs ∧
    run (fuel + 2 + keySteps e.1) (lineStart first tokens c)
      = run (fuel + 1) (lineStart false ((entryTokens e).reverse ++ opened first tokens) c')
  := by
  have hvalue := Cursor.rest_step_of_eq (Cursor.rest_advance_of_eq h)
  have hend := rest_textEnd hvalue
  use (textEnd column e.2 (c.advance (writeKey e.1).length).step).step
  refine ⟨Cursor.column_step_of_lineFeed hend, Cursor.rest_step_of_eq hend, ?_⟩
  rw [run_writeKey hfits hcolumn h, run_text_lineFeed hvalue hcs]
  rfl

/-- The tokens of the last entry are read, and the mapping ends. -/
theorem run_entry_end (first : Bool) (tokens : List Token) {e : String × String} {column : Nat}
    {c : Cursor} (fuel : Nat) (hfits : KeyFits e.1) (hcolumn : c.column = 0)
    (h : c.rest = writeKey e.1 ++ ':' :: ' ' :: (writeText false 2 column e.2 ++ [])) :
  ∃ r, run (fuel + 2 + keySteps e.1) (lineStart first tokens c) = (r, none) ∧
    r.tokens = .blockEnd :: ((entryTokens e).reverse ++ opened first tokens)
  := by
  rw [run_writeKey hfits hcolumn h]
  apply run_text_end (Cursor.rest_step_of_eq (Cursor.rest_advance_of_eq h))

/-- All tokens of a mapping of texts are read, if its keys fit. -/
theorem run_entries {e : String × String} {entries : List (String × String)} (first : Bool)
    (tokens : List Token) {c : Cursor} {fuel : Nat} (hkeys : ∀ e' ∈ e :: entries, KeyFits e'.1)
    (hcolumn : c.column = 0) (h : c.rest = writeEntries true 0 (textEntries (e :: entries)))
    (hfuel : 4 * (e :: entries).length < fuel) :
  ∃ r, run fuel (lineStart first tokens c) = (r, none) ∧
    r.tokens = .blockEnd :: (((e :: entries).flatMap entryTokens).reverse ++ opened first tokens)
  := by
  have hsteps := keySteps_le e.1
  obtain ⟨fuel, rfl⟩ : ∃ n, fuel = n + 2 + keySteps e.1 := by
    rw [List.length_cons] at hfuel
    exact ⟨fuel - keySteps e.1 - 2, by omega⟩
  have hfits := hkeys e List.mem_cons_self
  obtain ⟨column, heq⟩ := writeEntries_cons e entries
  rw [heq] at h
  cases entries with
  | nil =>
      obtain ⟨r, hrun, htokens⟩ := run_entry_end first tokens fuel hfits hcolumn h
      use r, hrun
      rw [htokens]
      simp
  | cons e' entries =>
      rw [writeEntries_false] at h
      obtain ⟨ch, tail, hstart⟩ := exists_startsLine_writeEntries e' entries
      obtain ⟨c', hcolumn', hrest', hrun'⟩ := run_entry_lineFeed hfits hcolumn h hstart
      rw [hrun']
      have hkeys' : ∀ d ∈ e' :: entries, KeyFits d.1 := by
        intro d hd
        apply hkeys d (List.mem_cons_of_mem _ hd)
      have hfuel' : 4 * (e' :: entries).length < fuel + 1 := by
        rw [List.length_cons] at hfuel
        omega
      obtain ⟨r, hrun, htokens⟩ :=
        run_entries false ((entryTokens e).reverse ++ opened first tokens) hkeys' hcolumn' hrest'
        hfuel'
      use r, hrun
      rw [htokens]
      simp [opened]
termination_by entries.length

/-- A mapping of texts with a key that does not fit is a fault. -/
theorem run_entries_of_not_fits {e : String × String} {entries : List (String × String)}
    (first : Bool) (tokens : List Token) {c : Cursor} {fuel : Nat}
    (hkeys : ∃ e' ∈ e :: entries, ¬ KeyFits e'.1) (hcolumn : c.column = 0)
    (h : c.rest = writeEntries true 0 (textEntries (e :: entries)))
    (hfuel : 4 * (e :: entries).length < fuel) :
  ∃ r, run fuel (lineStart first tokens c) = (r, some .malformed)
  := by
  have hsteps := keySteps_le e.1
  obtain ⟨column, heq⟩ := writeEntries_cons e entries
  rw [heq] at h
  by_cases hfits : KeyFits e.1
  · obtain ⟨fuel, rfl⟩ : ∃ n, fuel = n + 2 + keySteps e.1 := by
      rw [List.length_cons] at hfuel
      exact ⟨fuel - keySteps e.1 - 2, by omega⟩
    obtain ⟨d, hd, hnot⟩ := hkeys
    have hmem : d ∈ entries := by
      rcases List.mem_cons.mp hd with rfl | hmem
      · exact absurd hfits hnot
      · exact hmem
    cases entries with
    | nil => cases hmem
    | cons e' entries =>
        rw [writeEntries_false] at h
        obtain ⟨ch, tail, hstart⟩ := exists_startsLine_writeEntries e' entries
        obtain ⟨c', hcolumn', hrest', hrun'⟩ := run_entry_lineFeed hfits hcolumn h hstart
        rw [hrun']
        have hfuel' : 4 * (e' :: entries).length < fuel + 1 := by
          rw [List.length_cons] at hfuel
          omega
        apply run_entries_of_not_fits false _ ⟨d, hmem, hnot⟩ hcolumn' hrest' hfuel'
  · obtain ⟨fuel, rfl⟩ : ∃ n, fuel = n + 2 := by
      rw [List.length_cons] at hfuel
      exact ⟨fuel - 2, by omega⟩
    apply run_key_of_not_fits hfits hcolumn h
termination_by entries.length

end Reader

/-- A mapping of texts takes four characters for each entry, or more. -/
theorem length_writeEntries (e : String × String) (entries : List (String × String)) :
  4 * (e :: entries).length ≤ (writeEntries true 0 (textEntries (e :: entries))).length
  := by
  have hentry : ∀ (e : String × String) (column : Nat) (rest : List Char),
      4 + rest.length
        ≤ (writeKey e.1 ++ ':' :: ' ' :: (writeText false 2 column e.2 ++ rest)).length := by
    intro e column rest
    obtain ⟨ch, tail, hkey, -⟩ := exists_cons_writeKey e.1
    obtain ⟨ch', tail', hvalue⟩ := exists_cons_writeText false 2 column e.2
    rw [hkey, hvalue]
    simp only [List.length_append, List.length_cons]
    omega
  induction entries generalizing e with
  | nil =>
      obtain ⟨column, heq⟩ := writeEntries_cons e []
      rw [heq]
      apply Nat.le_trans _ (hentry e column _)
      apply Nat.le_add_right
  | cons e' entries ih =>
      obtain ⟨column, heq⟩ := writeEntries_cons e (e' :: entries)
      have hle := hentry e column (writeEntries false 0 (textEntries (e' :: entries)))
      have hrest := ih e'
      rw [heq]
      rw [writeEntries_false] at hle ⊢
      simp only [List.length_cons] at hle hrest ⊢
      omega

/-- A mapping of texts is read from the start of its first line. -/
theorem start_writeEntries (e : String × String) (entries : List (String × String)) :
  Reader.start (writeEntries true 0 (textEntries (e :: entries)))
    = Reader.lineStart true [] (Cursor.start (writeEntries true 0 (textEntries (e :: entries))))
  := by
  obtain ⟨column, heq⟩ := writeEntries_cons e entries
  obtain ⟨ch, tail, hkey, hne⟩ := exists_cons_writeKey e.1
  have hmark : (some ch == some byteOrderMark) = false := by simpa using hne
  rw [Reader.start, heq, hkey, List.cons_append, List.head?_cons, hmark]
  rfl

/-- The tokens of a mapping of texts that was written, if its keys fit. -/
theorem tokens_writeEntries {e : String × String} {entries : List (String × String)}
    (hkeys : ∀ e' ∈ e :: entries, KeyFits e'.1) :
  tokens (writeEntries true 0 (textEntries (e :: entries)))
    = (.blockMappingStart :: ((e :: entries).flatMap entryTokens ++ [.blockEnd]), none)
  := by
  let c := Cursor.start (writeEntries true 0 (textEntries (e :: entries)))
  obtain ⟨r, hrun, htokens⟩ := Reader.run_entries (c := c) true [] hkeys rfl rfl
    (Nat.lt_succ_of_le (length_writeEntries e entries))
  rw [tokens, start_writeEntries, hrun]
  simp [htokens, Reader.opened]

/-- The tokens of a mapping of texts with a key that does not fit end with a fault. -/
theorem tokens_writeEntries_of_not_fits {e : String × String} {entries : List (String × String)}
    (hkeys : ∃ e' ∈ e :: entries, ¬ KeyFits e'.1) :
  (tokens (writeEntries true 0 (textEntries (e :: entries)))).2 = some .malformed
  := by
  let c := Cursor.start (writeEntries true 0 (textEntries (e :: entries)))
  obtain ⟨r, hrun⟩ := Reader.run_entries_of_not_fits (c := c) true [] hkeys rfl rfl
    (Nat.lt_succ_of_le (length_writeEntries e entries))
  rw [tokens, start_writeEntries, hrun]

end AgentBundles.Yaml
