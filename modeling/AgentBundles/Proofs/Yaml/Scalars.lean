import AgentBundles.Proofs.Yaml.DoubleQuoted
import AgentBundles.Proofs.Yaml.Plain
import AgentBundles.Proofs.Yaml.SingleQuoted
import AgentBundles.Yaml.Node

/-!
# Written texts

Whatever the style in which a text is written, one scalar is read of it, and it stands for a text.
-/

namespace AgentBundles.Yaml

/-- The text that is read of a text that was written. -/
def readBack (isKey : Bool) (text : String) : String :=
  match styleOf isKey text with
  | .plain => text
  | .singleQuoted => String.ofList (reread false text.toList)
  | .doubleQuoted => text

/-- The token that is read of a text that was written. -/
def writtenToken (isKey : Bool) (text : String) : Token :=
  .scalar (readBack isKey text) (styleOf isKey text = .plain)

/-- Only a text that is a text by its form is written without quotes. -/
theorem of_styleOf_eq_plain {isKey : Bool} {text : String} (h : styleOf isKey text = .plain) :
  implicitTag text = .str ∧ allowsPlain text.toList = true
  := by
  rw [styleOf] at h
  split at h
  · rename_i hplain
    simp only [Bool.and_eq_true, decide_eq_true_eq] at hplain
    exact ⟨hplain.1.1, hplain.2⟩
  · split at h
    · cases h
    · cases h

theorem of_styleOf_eq_singleQuoted {isKey : Bool} {text : String}
    (h : styleOf isKey text = .singleQuoted) :
  allowsSingleQuotes text.toList = true
  := by
  rw [styleOf] at h
  split at h
  · cases h
  · split at h
    · rename_i hsingle
      exact (Bool.and_eq_true_iff.mp hsingle).1
    · cases h

/-- What was written for a text is a text. -/
theorem scalarTag_written (isKey : Bool) (text : String) :
  (Properties.mk none none).scalarTag (styleOf isKey text = .plain) (readBack isKey text) = .str
  := by
  rw [Properties.scalarTag, readBack]
  cases h : styleOf isKey text with
  | plain => exact (of_styleOf_eq_plain h).1
  | singleQuoted => rfl
  | doubleQuoted => rfl

/-- A text that is not empty is not read as an empty one. -/
theorem readBack_ne_empty (isKey : Bool) {text : String} (h : text ≠ "") :
  readBack isKey text ≠ ""
  := by
  rw [readBack]
  cases hstyle : styleOf isKey text with
  | plain => apply h
  | doubleQuoted => apply h
  | singleQuoted =>
      intro heq
      have hlist := congrArg String.toList heq
      rw [String.toList_ofList] at hlist
      apply reread_ne_nil _ hlist
      intro hnil
      apply h
      rw [← String.ofList_toList (s := text), hnil]

/-- Without a next-line character, a text is read as itself. -/
theorem readBack_eq_self (isKey : Bool) {text : String} (h : nextLine ∉ text.toList) :
  readBack isKey text = text
  := by
  rw [readBack]
  cases styleOf isKey text with
  | plain => rfl
  | doubleQuoted => rfl
  | singleQuoted => rw [reread_eq_self h, String.ofList_toList]

/-- A text that single quotes do not change: they do not hold it, or it has no next-line
character. -/
def Survives (isKey : Bool) (text : String) : Prop :=
  styleOf isKey text = .singleQuoted → nextLine ∉ text.toList

instance (isKey : Bool) : DecidablePred (Survives isKey) :=
    fun _ => inferInstanceAs (Decidable (_ → _))

/-- A text is read as itself exactly if single quotes do not change it. -/
theorem readBack_eq_self_iff {isKey : Bool} {text : String} :
  readBack isKey text = text ↔ Survives isKey text
  := by
  constructor
  · intro h hstyle
    rw [readBack, hstyle] at h
    rw [← h, String.toList_ofList]
    apply nextLine_not_mem_reread
  · intro h
    by_cases hstyle : styleOf isKey text = .singleQuoted
    · apply readBack_eq_self isKey (h hstyle)
    · rw [readBack]
      split
      · rfl
      · contradiction
      · rfl

/-- A text is read as itself, or as one without next-line characters. -/
theorem survives_or_nextLine_not_mem (isKey : Bool) (text : String) :
  Survives isKey text ∨ nextLine ∉ (readBack isKey text).toList
  := by
  by_cases hstyle : styleOf isKey text = .singleQuoted
  · apply Or.inr
    rw [readBack, hstyle, String.toList_ofList]
    apply nextLine_not_mem_reread
  · apply Or.inl
    intro h
    exact absurd h hstyle

/-! ### The beginning -/

/-- A written text begins with a character that is neither white nor begins a comment. -/
theorem exists_solid_writeText (isKey : Bool) (indent column : Nat) (text : String)
    (rest : List Char) :
  ∃ ch tail, Solid (writeText isKey indent column text ++ rest) ch tail ∧ ch ≠ '#'
  := by
  rw [writeText]
  cases h : styleOf isKey text with
  | plain =>
      obtain ⟨ch, tail, heq, hcs⟩ := unquoted_of_allowsPlain (of_styleOf_eq_plain h).2
      simp only [heq, plainChars_cons_of_ne _ _ _ _ _ hcs.ne_space]
      exact ⟨ch, _, hcs.plain.solid hcs.ne_space _, hcs.ne_comment⟩
  | singleQuoted => exact ⟨'\x27', _, ⟨rfl, by decide, by decide⟩, by decide⟩
  | doubleQuoted => exact ⟨'\x22', _, ⟨rfl, by decide, by decide⟩, by decide⟩

/-- Something is written even for an empty text. -/
theorem exists_cons_writeText (isKey : Bool) (indent column : Nat) (text : String) :
  ∃ ch tail, writeText isKey indent column text = ch :: tail
  := by
  obtain ⟨ch, tail, hsolid, -⟩ := exists_solid_writeText isKey indent column text []
  use ch, tail
  rw [← List.append_nil (writeText isKey indent column text), hsolid.eq]

/-! ### Reading the token -/

namespace Reader

/-- Where a written text ends, and whether a line break was read after it. -/
def EndsText (r : Reader) (isKey : Bool) (indent column : Nat) (text : String) (broke : Bool)
    (c' : Cursor) : Prop :=
  let c := r.cursor.advance (writeText isKey indent column text).length
  if styleOf isKey text = .plain then EndsPlain (r.indent + 1).toNat c broke c'
    else broke = false ∧ c' = c

/-- A text that goes on with no white space is written as one that does. -/
theorem atWhite_plainChars (fold : Bool) (indent column : Nat) (afterSpace : Bool) {cs : List Char}
    (h : atWhite cs = false) (rest : List Char) :
  atWhite (plainChars fold indent column afterSpace cs ++ rest) = false
  := by
  cases cs with
  | nil => cases h
  | cons ch cs =>
      have hne : ch ≠ ' ' := by
        rintro rfl
        cases h
      rw [plainChars_cons_of_ne _ _ _ _ _ hne]
      apply h

/-- A character that begins a plain text, with what follows it, is read as the start of one. -/
theorem readToken_plain {r : Reader} {ch : Char} {cs rest : List Char} (hflow : r.depth = 0)
    (hch : beginsOtherwise (ch :: cs) = false) (hsolid : atWhite [ch] = false)
    (hrest : (ch == '?' || ch == ':' || ch == '-') = true → atWhite cs = false →
      atWhite rest = false) (hmarker : r.cursor.column = 0 → atMarker (ch :: rest) = false) :
  r.readToken ch rest = r.readPlainToken
  := by
  rw [beginsOtherwise, Bool.or_eq_false_iff] at hch
  obtain ⟨hch, hmark⟩ := hch
  have hinFlow : r.inFlow = false := by
    rw [inFlow, hflow]
    rfl
  have hmarker' : (r.cursor.column == 0 && atMarkerOf '-' (ch :: rest)) = false ∧
      (r.cursor.column == 0 && atMarkerOf '.' (ch :: rest)) = false := by
    by_cases hcolumn : r.cursor.column = 0
    · have h := hmarker hcolumn
      rw [atMarker, Bool.or_eq_false_iff] at h
      simp [h.1, h.2]
    · simp [hcolumn]
  simp only [List.contains_eq_mem, List.mem_cons, List.not_mem_nil, or_false,
    decide_eq_false_iff_not, not_or] at hch
  by_cases hspecial : (ch == '?' || ch == ':' || ch == '-') = true
  · have hwhite : atWhite rest = false := by
      apply hrest hspecial
      rwa [hspecial, Bool.true_and] at hmark
    have hstarts : startsPlain false ch rest = true := by
      simp only [Bool.or_eq_true, beq_iff_eq] at hspecial
      rcases hspecial with (rfl | rfl) | rfl
      all_goals simp [startsPlain, hwhite]
    simp [readToken, hinFlow, hmarker', hch, hwhite, hstarts]
  · simp only [Bool.or_eq_true, beq_iff_eq, not_or] at hspecial
    have hstarts : startsPlain false ch rest = true := by
      simp [startsPlain, indicators, hsolid, hspecial, hch]
    simp [readToken, hinFlow, hmarker', hch, hspecial, hstarts]

/-- A quote begins a quoted text. -/
theorem readToken_quote {r : Reader} {quote : Char} {rest : List Char} (hflow : r.depth = 0)
    (hquote : IsQuote quote) :
  r.readToken quote rest = r.readInline (readQuotedToken quote)
  := by
  have hinFlow : r.inFlow = false := by
    rw [inFlow, hflow]
    rfl
  rcases hquote with rfl | rfl
  · simp [readToken, hinFlow, atMarkerOf]
  · simp [readToken, hinFlow, atMarkerOf]

/-- The token of a text between quotes. -/
theorem readToken_quoted {r : Reader} {quote : Char} {written text rest : List Char}
    {places : List KeyPlace} (hflow : r.depth = 0) (hquote : IsQuote quote)
    (hwritten : ReadsAs quote written text)
    (h : r.cursor.rest = quote :: written ++ [quote] ++ rest) (hrest : rest.head? ≠ some '\x27')
    (hsave : r.savePlace = .ok { r with places := places }) :
  ∃ ch tail, r.cursor.rest = ch :: tail ∧ r.readToken ch tail
    = .ok ({ r with places := places, keyAllowed := false }.emit
      (.scalar (String.ofList text) false) (r.cursor.advance (quote :: written ++ [quote]).length))
  := by
  have hcons : r.cursor.rest = quote :: (written ++ quote :: rest) := by
    rw [h, List.append_assoc]
    rfl
  have hread := hwritten r.cursor.step rest (Cursor.rest_step_of_eq hcons) fun _ => hrest
  have hlength : r.cursor.step.rest.length ≤ r.cursor.rest.length := by
    rw [Cursor.rest_step, List.length_tail]
    apply Nat.sub_le
  have htoken : readQuotedToken quote r.cursor = .ok (.scalar (String.ofList text) false,
      r.cursor.advance (quote :: written ++ [quote]).length) := by
    rw [readQuotedToken, hread _ (Nat.lt_succ_of_le hlength), List.length_append]
    rfl
  refine ⟨quote, _, hcons, ?_⟩
  rw [readToken_quote hflow hquote, readInline, hsave, ok_bind, htoken]
  rfl

/-- The token of a text that is written without quotes. -/
theorem readToken_plainChars {r : Reader} {fold : Bool} {indent column : Nat} {text : String}
    {places : List KeyPlace} {rest : List Char} {broke : Bool} {c' : Cursor} (hflow : r.depth = 0)
    (hcolumn : (r.indent + 1).toNat ≤ 1) (hindent : 0 < indent)
    (hmarker : r.cursor.column = 0 → atMarker r.cursor.rest = false)
    (hplain : allowsPlain text.toList = true)
    (h : r.cursor.rest = plainChars fold indent column false text.toList ++ rest)
    (hsave : r.savePlace = .ok { r with places := places })
    (hends : EndsPlain (r.indent + 1).toNat
      (r.cursor.advance (plainChars fold indent column false text.toList).length) broke c') :
  ∃ ch tail, r.cursor.rest = ch :: tail ∧ r.readToken ch tail
    = .ok ({ r with places := places, keyAllowed := broke }.emit (.scalar text true) c')
  := by
  obtain ⟨ch, tail, heq, hcs⟩ := unquoted_of_allowsPlain hplain
  rw [heq] at h hends
  have hread := hcs.readPlain_eq hcolumn hindent h hends
  rw [plainChars_cons_of_ne _ _ _ _ _ hcs.ne_space] at h
  refine ⟨ch, _, h, ?_⟩
  rw [readToken_plain hflow hcs.beginsOtherwise_eq_false]
  · have hinFlow : r.inFlow = false := by
      rw [inFlow, hflow]
      rfl
    have htext : String.ofList (ch :: tail) = text := by
      rw [← heq, String.ofList_toList]
    rw [readPlainToken, hsave, ok_bind]
    simp only [inFlow] at hinFlow ⊢
    rw [hinFlow, hread, htext]
    rfl
  · have hsolid := hcs.plain.solid hcs.ne_space tail
    rw [atWhite, endsOr, Bool.or_eq_false_iff]
    exact ⟨hsolid.isSpaceOrTab_eq_false, hsolid.isBreak_eq_false⟩
  · intro _ hwhite
    apply atWhite_plainChars _ _ _ _ hwhite
  · intro hzero
    rw [h] at hmarker
    apply hmarker hzero

/-- One token is read of a written text. -/
theorem readToken_writeText {r : Reader} {isKey : Bool} {indent column : Nat} {text : String}
    {places : List KeyPlace} {rest : List Char} {broke : Bool} {c' : Cursor} (hflow : r.depth = 0)
    (hcolumn : (r.indent + 1).toNat ≤ 1) (hindent : 0 < indent) (hwidth : indent < lineWidth)
    (hmarker : r.cursor.column = 0 → atMarker r.cursor.rest = false)
    (h : r.cursor.rest = writeText isKey indent column text ++ rest)
    (hrest : rest.head? ≠ some '\x27') (hsave : r.savePlace = .ok { r with places := places })
    (hends : r.EndsText isKey indent column text broke c') :
  ∃ ch tail, r.cursor.rest = ch :: tail ∧ r.readToken ch tail
    = .ok ({ r with places := places, keyAllowed := broke }.emit (writtenToken isKey text) c')
  := by
  rw [EndsText] at hends
  rw [writeText] at h hends
  rw [writtenToken, readBack]
  cases hstyle : styleOf isKey text with
  | plain =>
      simp only [hstyle, if_true] at h hends
      exact readToken_plainChars hflow hcolumn hindent hmarker (of_styleOf_eq_plain hstyle).2 h
        hsave hends
  | singleQuoted =>
      simp only [hstyle, reduceCtorEq, if_false] at h hends
      obtain ⟨rfl, rfl⟩ := hends
      have hwritten : ReadsAs '\x27' (singleChars (!isKey) indent (column + 1) .nothing text.toList)
          (reread false text.toList) :=
        readsAs_singleChars (of_styleOf_eq_singleQuoted hstyle) hindent (by simp)
      exact readToken_quoted hflow (Or.inl rfl) hwritten h hrest hsave
  | doubleQuoted =>
      simp only [hstyle, reduceCtorEq, if_false] at h hends
      obtain ⟨rfl, rfl⟩ := hends
      have hread :=
        readToken_quoted hflow (Or.inr rfl) (readsAs_doubleChars hindent hwidth) h hrest hsave
      rw [String.ofList_toList] at hread
      exact hread

end Reader

end AgentBundles.Yaml
