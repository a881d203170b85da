import AgentBundles.Proofs.Data.Entries
import AgentBundles.Proofs.Json.Characters

/-!
# JSON values

The text of a value is read as the value `reread`: its keys are texts, its pairs are lists, and of
entries with one key the last value stands.
-/

namespace AgentBundles.Json

/-! ### What is read back -/

/-- The text that a key is written as. -/
def keyString : Value → String
  | .str s => s
  | k => String.ofList (scalarText k)

mutual

/-- The value that the text of a value is read as. -/
def reread : Value → Value
  | .float x => .float (floatBack x)
  | .list items => .list (rereadItems items)
  | .pair a b => .list [reread a, reread b]
  | .map entries => .map (Entries.ofList (rereadEntries entries))
  | v => v

/-- The items that the text of a list is read as. -/
def rereadItems : List Value → List Value
  | [] => []
  | v :: vs => reread v :: rereadItems vs

/-- The entries that the text of a mapping is read as, before entries with one key are joined. -/
def rereadEntries : List (Value × Value) → List (Value × Value)
  | [] => []
  | (k, v) :: rest => (.str (keyString k), reread v) :: rereadEntries rest

end

theorem rereadItems_eq_map (items : List Value) :
  rereadItems items = items.map reread
  := by
  induction items with
  | nil => rfl
  | cons v vs ih => rw [rereadItems, ih, List.map_cons]

theorem rereadEntries_eq_map (entries : List (Value × Value)) :
  rereadEntries entries = entries.map fun e => (.str (keyString e.1), reread e.2)
  := by
  induction entries with
  | nil => rfl
  | cons e rest ih =>
      obtain ⟨k, v⟩ := e
      rw [rereadEntries, ih, List.map_cons]

/-! ### What can be written -/

theorem or_eq_none_iff {α : Type} {x y : Option α} :
  x.or y = none ↔ x = none ∧ y = none
  := by
  cases x with
  | none => simp
  | some a => simp

/-- A list can be written if its items can. -/
theorem unwritableItem?_eq_none_iff {items : List Value} :
  unwritableItem? items = none ↔ ∀ v ∈ items, unwritable? v = none
  := by
  induction items with
  | nil => simp [unwritableItem?]
  | cons v vs ih => rw [unwritableItem?, or_eq_none_iff, ih, List.forall_mem_cons]

/-- A mapping can be written if its keys and values can. -/
theorem unwritableField?_eq_none_iff {entries : List (Value × Value)} :
  unwritableField? entries = none ↔ ∀ e ∈ entries, unwritableKey? e.1 = none ∧
    unwritable? e.2 = none
  := by
  induction entries with
  | nil => simp [unwritableField?]
  | cons e rest ih =>
      obtain ⟨k, v⟩ := e
      rw [unwritableField?, or_eq_none_iff, or_eq_none_iff, ih, List.forall_mem_cons]

/-! ### Spacing -/

/-- Layouts that put only white space between the parts of a text. -/
structure Spacing (l : Layout) : Prop where
  line : ∀ depth, ∀ c ∈ l.line depth, isSpace c = true
  colon : ∃ spaces, l.colon = ':' :: spaces ∧ ∀ c ∈ spaces, isSpace c = true

theorem spacing_spread :
  Spacing .spread
  := by
  constructor
  · intro depth c hc
    rcases List.mem_cons.mp hc with rfl | hc
    · rfl
    · rw [List.eq_of_mem_replicate hc]
      rfl
  · exact ⟨[' '], rfl, List.all_eq_true.mp (by decide)⟩

/-- White space is skipped. -/
theorem skipSpace_append {spaces cs : List Char} (h : ∀ c ∈ spaces, isSpace c = true) :
  skipSpace (spaces ++ cs) = skipSpace cs
  := by
  rw [skipSpace, List.dropWhile_append_of_pos h, skipSpace]

theorem skipSpace_cons {c : Char} {cs : List Char} (h : isSpace c = false) :
  skipSpace (c :: cs) = c :: cs
  := by
  rw [skipSpace, List.dropWhile_cons_of_neg]
  rw [h]
  exact Bool.false_ne_true

/-- White space ends a number, and so does what separates the parts of a text. -/
theorem endsNumber_append {spaces cs : List Char} (h : ∀ c ∈ spaces, isSpace c = true)
    (hcs : EndsNumber cs) :
  EndsNumber (spaces ++ cs)
  := by
  cases spaces with
  | nil => apply hcs
  | cons c spaces =>
      have hc := h c List.mem_cons_self
      simp only [isSpace, Bool.or_eq_true, beq_iff_eq] at hc
      constructor
      · intro c' cs' heq
        injection heq with heq _
        rw [← heq]
        rcases hc with ((rfl | rfl) | rfl) | rfl
        all_goals decide
      · intro c' cs' heq
        injection heq with heq _
        rw [← heq]
        rcases hc with ((rfl | rfl) | rfl) | rfl
        all_goals decide

theorem endsNumber_cons {c : Char} (cs : List Char) (h : c = ',' ∨ c = ']' ∨ c = '}') :
  EndsNumber (c :: cs)
  := by
  constructor
  · intro c' cs' heq
    injection heq with heq _
    rw [← heq]
    rcases h with rfl | rfl | rfl
    all_goals decide
  · intro c' cs' heq
    injection heq with heq _
    rw [← heq]
    rcases h with rfl | rfl | rfl
    all_goals decide

/-! ### Keys -/

/-- What stands for itself is read up to the closing quote. -/
theorem readChars_plainChars {cs : List Char} (hcs : ∀ c ∈ cs, isPlainChar c = true)
    {start rest : List Char} {fuel : Nat} (hfuel : cs.length < fuel) :
  readChars start fuel (cs ++ '\x22' :: rest) = .ok (cs, rest)
  := by
  induction cs generalizing fuel with
  | nil =>
      cases fuel with
      | zero => cases hfuel
      | succ fuel => rfl
  | cons c cs ih =>
      cases fuel with
      | zero => cases hfuel
      | succ fuel =>
          obtain ⟨hc, hcs⟩ := List.forall_mem_cons.mp hcs
          rw [List.cons_append, readChars_plain hc, ih hcs (Nat.lt_of_succ_lt_succ hfuel)]
          rfl

/-- A key is read as its text. -/
theorem readString_keyText (k : Value) (rest : List Char) (hk : unwritableKey? k = none) :
  readString (keyText k ++ rest) = .ok (keyString k, rest)
  := by
  have hquoted : ∀ {cs : List Char}, (∀ c ∈ cs, isPlainChar c = true) →
      readString ('\x22' :: cs ++ ['\x22'] ++ rest) = .ok (String.ofList cs, rest) := by
    intro cs hcs
    have hchars : readChars ('\x22' :: (cs ++ '\x22' :: rest)) ((cs ++ '\x22' :: rest).length + 1)
        (cs ++ '\x22' :: rest) = .ok (cs, rest) := by
      apply readChars_plainChars hcs
      rw [List.length_append]
      omega
    have heq : '\x22' :: cs ++ ['\x22'] ++ rest = '\x22' :: (cs ++ '\x22' :: rest) := by simp
    rw [heq, readString, hchars]
    rfl
  have hnumber : ∀ {cs : List Char}, NumberText cs → ∀ c ∈ cs, isPlainChar c = true := by
    intro cs hcs c hc
    apply isPlainChar_of_isNumberChar (hcs.chars c hc)
  cases k with
  | str s => apply readString_stringText
  | null => exact hquoted (List.all_eq_true.mp (by decide))
  | bool b =>
      cases b with
      | true => exact hquoted (List.all_eq_true.mp (by decide))
      | false => exact hquoted (List.all_eq_true.mp (by decide))
  | int n => exact hquoted (hnumber (numberText_int n))
  | float x => exact hquoted (hnumber (numberText_float x))
  | date d => cases hk
  | instant t => cases hk
  | bytes bs => cases hk
  | list items => cases hk
  | pair a b => cases hk
  | map entries => cases hk
  | set members => cases hk
  | enclosing level => cases hk

/-! ### Beginnings -/

/-- The text of a value begins with a character that is neither white space nor a closing
bracket. -/
theorem exists_cons_layout (l : Layout) (depth : Nat) {v : Value} (hv : unwritable? v = none) :
  ∃ c cs, layout l depth v = c :: cs ∧ isSpace c = false ∧ c ≠ ']' ∧ c ≠ Char.ofNat 0xFEFF
  := by
  have hnumber : ∀ {cs : List Char}, NumberText cs →
      ∃ c cs', cs = c :: cs' ∧ isSpace c = false ∧ c ≠ ']' ∧ c ≠ Char.ofNat 0xFEFF := by
    intro cs hcs
    obtain ⟨c, cs', rfl⟩ := List.exists_cons_of_ne_nil hcs.nonempty
    have hc := hcs.chars c List.mem_cons_self
    have hne : ∀ d, isNumberChar d = false → c ≠ d := by
      intro d hd heq
      rw [heq, hd] at hc
      cases hc
    refine ⟨c, cs', rfl, ?_, hne ']' (by decide), hne _ (by decide)⟩
    simp only [isSpace, Bool.or_eq_false_iff, beq_eq_false_iff_ne]
    exact ⟨⟨⟨hne ' ' (by decide), hne '\t' (by decide)⟩, hne '\n' (by decide)⟩,
      hne '\r' (by decide)⟩
  cases v with
  | null => exact ⟨'n', _, rfl, by decide, by decide, by decide⟩
  | bool b =>
      cases b with
      | true => exact ⟨'t', _, rfl, by decide, by decide, by decide⟩
      | false => exact ⟨'f', _, rfl, by decide, by decide, by decide⟩
  | int n => exact hnumber (numberText_int n)
  | float x => exact hnumber (numberText_float x)
  | str s => exact ⟨'\x22', _, rfl, by decide, by decide, by decide⟩
  | list items =>
      cases items with
      | nil => exact ⟨'[', _, rfl, by decide, by decide, by decide⟩
      | cons v vs => exact ⟨'[', _, rfl, by decide, by decide, by decide⟩
  | pair a b => exact ⟨'[', _, rfl, by decide, by decide, by decide⟩
  | map entries =>
      cases entries with
      | nil => exact ⟨'{', _, rfl, by decide, by decide, by decide⟩
      | cons e rest => exact ⟨'{', _, rfl, by decide, by decide, by decide⟩
  | date d => cases hv
  | instant t => cases hv
  | bytes bs => cases hv
  | set members => cases hv
  | enclosing level => cases hv

/-- The text of a key begins with a quote. -/
theorem exists_cons_keyText (k : Value) :
  ∃ cs, keyText k = '\x22' :: cs
  := by
  rw [keyText.eq_def]
  split
  · exact ⟨_, rfl⟩
  · exact ⟨_, rfl⟩

/-- What begins like a number is read as a scalar. -/
theorem readValue_numberText {cs : List Char} (hcs : NumberText cs) (rest : List Char)
    (fuel : Nat) :
  readValue (fuel + 1) (cs ++ rest) = readScalar (cs ++ rest)
  := by
  obtain ⟨c, cs', rfl⟩ := List.exists_cons_of_ne_nil hcs.nonempty
  have hne : ∀ d, isNumberChar d = false → c ≠ d := by
    intro d hd heq
    have hc := hcs.chars c List.mem_cons_self
    rw [heq, hd] at hc
    cases hc
  rw [List.cons_append, readValue]
  · intro rest' heq
    injection heq with heq _
    apply hne '\x22' (by decide) heq
  · intro rest' heq
    injection heq with heq _
    apply hne '{' (by decide) heq
  · intro rest' heq
    injection heq with heq _
    apply hne '[' (by decide) heq

/-! ### Values -/

/-- The text of a value is read as what `reread` gives, wherever it stands. -/
def Reads (l : Layout) (v : Value) : Prop :=
  ∀ depth fuel rest, EndsNumber rest → 2 * (layout l depth v).length ≤ fuel →
    readValue fuel (layout l depth v ++ rest) = .ok (reread v, rest)

/-- The items of a list are read one after the other. -/
theorem readItems_layoutItems {l : Layout} (hl : Spacing l) {v : Value} {vs : List Value}
    (hv : ∀ v' ∈ v :: vs, unwritable? v' = none ∧ Reads l v') (depth depth' fuel : Nat)
    (rest : List Char) (hfuel : 2 * (layoutItems l depth (v :: vs)).length < fuel) :
  readItems fuel (skipSpace (layoutItems l depth (v :: vs) ++ (l.line depth' ++ ']' :: rest)))
    = .ok ((v :: vs).map reread, rest)
  := by
  induction vs generalizing v fuel with
  | nil =>
      obtain ⟨hwritable, hread⟩ := hv v List.mem_cons_self
      obtain ⟨c, cs, heq, hspace, -⟩ := exists_cons_layout l depth hwritable
      cases fuel with
      | zero => cases hfuel
      | succ fuel =>
          have hitem := hread depth fuel (l.line depth' ++ ']' :: rest)
            (endsNumber_append (hl.line depth') (endsNumber_cons rest (Or.inr (Or.inl rfl)))) (by
              simp only [layoutItems, List.length_append] at hfuel
              omega)
          have hskip : skipSpace (layout l depth v ++ (l.line depth' ++ ']' :: rest))
              = layout l depth v ++ (l.line depth' ++ ']' :: rest) := by
            rw [heq, List.cons_append, skipSpace_cons hspace]
          rw [layoutItems, List.append_assoc, skipSpace_append (hl.line depth), hskip, readItems,
            hitem, ok_bind]
          simp only [skipSpace_append (hl.line depth'),
            skipSpace_cons (show isSpace ']' = false from rfl)]
          rfl
  | cons v' vs ih =>
      obtain ⟨hwritable, hread⟩ := hv v List.mem_cons_self
      obtain ⟨c, cs, heq, hspace, -⟩ := exists_cons_layout l depth hwritable
      cases fuel with
      | zero => cases hfuel
      | succ fuel =>
          have hlayout : layoutItems l depth (v :: v' :: vs)
              = l.line depth ++ layout l depth v ++ ',' :: layoutItems l depth (v' :: vs) := by
            rw [layoutItems]
            exact List.cons_ne_nil v' vs
          rw [hlayout, List.length_append, List.length_append, List.length_cons] at hfuel
          have hitem := hread depth fuel
            (',' :: (layoutItems l depth (v' :: vs) ++ (l.line depth' ++ ']' :: rest)))
            (endsNumber_cons _ (Or.inl rfl)) (by omega)
          have hitems := ih (fun v'' h => hv v'' (List.mem_cons_of_mem v h)) fuel (by omega)
          have hskip : ∀ cs', skipSpace (layout l depth v ++ cs') = layout l depth v ++ cs' := by
            intro cs'
            rw [heq, List.cons_append, skipSpace_cons hspace]
          rw [hlayout, List.append_assoc, List.append_assoc, skipSpace_append (hl.line depth),
            hskip, List.cons_append, readItems, hitem, ok_bind]
          simp only [skipSpace_cons (show isSpace ',' = false from rfl), hitems, ok_bind]
          rfl

/-- The entries of a mapping are read one after the other. -/
theorem readEntries_layoutEntries {l : Layout} (hl : Spacing l) {e : Value × Value}
    {es : List (Value × Value)}
    (he : ∀ e' ∈ e :: es, unwritableKey? e'.1 = none ∧ unwritable? e'.2 = none ∧ Reads l e'.2)
    (depth depth' fuel : Nat) (rest : List Char)
    (hfuel : 2 * (layoutEntries l depth (e :: es)).length < fuel) :
  readEntries fuel (skipSpace (layoutEntries l depth (e :: es) ++ (l.line depth' ++ '}' :: rest)))
    = .ok ((e :: es).map fun e => (.str (keyString e.1), reread e.2), rest)
  := by
  obtain ⟨spaces, hcolon, hspaces⟩ := hl.colon
  have hquote : ∀ k cs, skipSpace (keyText k ++ cs) = keyText k ++ cs := by
    intro k cs
    obtain ⟨cs', heq⟩ := exists_cons_keyText k
    rw [heq, List.cons_append, skipSpace_cons rfl]
  have hvalue : ∀ {v : Value} (cs : List Char), unwritable? v = none →
      skipSpace (spaces ++ (layout l depth v ++ cs)) = layout l depth v ++ cs := by
    intro v cs hv
    obtain ⟨c, cs', heq, hspace, -⟩ := exists_cons_layout l depth hv
    rw [skipSpace_append hspaces, heq, List.cons_append, skipSpace_cons hspace]
  induction es generalizing e fuel with
  | nil =>
      obtain ⟨k, v⟩ := e
      obtain ⟨hkey, hwritable, (hread : Reads l v)⟩ := he (k, v) List.mem_cons_self
      cases fuel with
      | zero => cases hfuel
      | succ fuel =>
          rw [layoutEntries] at hfuel
          simp only [List.length_append] at hfuel
          have hitem := hread depth fuel (l.line depth' ++ '}' :: rest)
            (endsNumber_append (hl.line depth') (endsNumber_cons rest (Or.inr (Or.inr rfl))))
              (by omega)
          rw [layoutEntries, List.append_assoc, List.append_assoc, List.append_assoc,
            skipSpace_append (hl.line depth), hquote, readEntries, readString_keyText k _ hkey,
            ok_bind, hcolon]
          simp only [List.cons_append, skipSpace_cons (show isSpace ':' = false from rfl),
            hvalue _ hwritable, hitem, ok_bind, skipSpace_append (hl.line depth'),
            skipSpace_cons (show isSpace '}' = false from rfl)]
          rfl
  | cons e' es ih =>
      obtain ⟨k, v⟩ := e
      obtain ⟨hkey, hwritable, (hread : Reads l v)⟩ := he (k, v) List.mem_cons_self
      cases fuel with
      | zero => cases hfuel
      | succ fuel =>
          have hlayout : layoutEntries l depth ((k, v) :: e' :: es)
              = l.line depth ++ keyText k ++ l.colon ++ layout l depth v ++ ',' ::
                layoutEntries l depth (e' :: es) := by
            rw [layoutEntries]
            exact List.cons_ne_nil e' es
          rw [hlayout] at hfuel
          simp only [List.length_append, List.length_cons] at hfuel
          have hitem := hread depth fuel
            (',' :: (layoutEntries l depth (e' :: es) ++ (l.line depth' ++ '}' :: rest)))
            (endsNumber_cons _ (Or.inl rfl)) (by omega)
          have hitems := ih (fun e'' h => he e'' (List.mem_cons_of_mem (k, v) h)) fuel (by omega)
          rw [hlayout]
          simp only [List.append_assoc, List.cons_append]
          rw [skipSpace_append (hl.line depth), hquote, readEntries, readString_keyText k _ hkey,
            ok_bind, hcolon]
          simp only [List.cons_append, skipSpace_cons (show isSpace ':' = false from rfl),
            hvalue _ hwritable, hitem, ok_bind, skipSpace_cons (show isSpace ',' = false from rfl),
            hitems]
          rfl

/-- Items between brackets are read as a list. -/
theorem readValue_layoutItems {l : Layout} (hl : Spacing l) {v : Value} {vs : List Value}
    (hv : ∀ v' ∈ v :: vs, unwritable? v' = none ∧ Reads l v') (depth depth' fuel : Nat)
    (rest : List Char) (hfuel : 2 * (layoutItems l depth (v :: vs)).length < fuel) :
  readValue (fuel + 1) ('[' :: (layoutItems l depth (v :: vs) ++ (l.line depth' ++ ']' :: rest)))
    = .ok (.list ((v :: vs).map reread), rest)
  := by
  have hitems := readItems_layoutItems hl hv depth depth' fuel rest hfuel
  obtain ⟨c, cs, heq, hspace, hne, -⟩ := exists_cons_layout l depth (hv v List.mem_cons_self).1
  have hbegin : ∃ cs', skipSpace (layoutItems l depth (v :: vs) ++ (l.line depth' ++ ']' :: rest))
      = c :: cs' := by
    cases vs with
    | nil =>
        rw [layoutItems, List.append_assoc, skipSpace_append (hl.line depth), heq, List.cons_append,
          skipSpace_cons hspace]
        exact ⟨_, rfl⟩
    | cons v' vs =>
        rw [layoutItems, List.append_assoc, List.append_assoc,
          skipSpace_append (hl.line depth), heq, List.cons_append, skipSpace_cons hspace]
        · exact ⟨_, rfl⟩
        · exact List.cons_ne_nil v' vs
  obtain ⟨cs', hbegin⟩ := hbegin
  rw [hbegin] at hitems
  rw [readValue, hbegin]
  split
  · rename_i heq'
    injection heq' with heq' _
    exact absurd heq' hne
  · rw [hitems]
    rfl

/-- Entries between braces are read as a mapping. -/
theorem readValue_layoutEntries {l : Layout} (hl : Spacing l) {e : Value × Value}
    {es : List (Value × Value)}
    (he : ∀ e' ∈ e :: es, unwritableKey? e'.1 = none ∧ unwritable? e'.2 = none ∧ Reads l e'.2)
    (depth depth' fuel : Nat) (rest : List Char)
    (hfuel : 2 * (layoutEntries l depth (e :: es)).length < fuel) :
  readValue (fuel + 1) ('{' :: (layoutEntries l depth (e :: es) ++ (l.line depth' ++ '}' :: rest)))
    = .ok (.map (Entries.ofList ((e :: es).map fun e => (.str (keyString e.1), reread e.2))), rest)
  := by
  have hentries := readEntries_layoutEntries hl he depth depth' fuel rest hfuel
  obtain ⟨cs, hkey⟩ := exists_cons_keyText e.1
  have hbegin : ∃ cs', skipSpace (layoutEntries l depth (e :: es) ++ (l.line depth' ++ '}' :: rest))
      = '\x22' :: cs' := by
    obtain ⟨k, v⟩ := e
    cases es with
    | nil =>
        rw [layoutEntries, List.append_assoc, List.append_assoc, List.append_assoc,
          skipSpace_append (hl.line depth), hkey, List.cons_append, skipSpace_cons rfl]
        exact ⟨_, rfl⟩
    | cons e' es =>
        rw [layoutEntries]
        · simp only [List.append_assoc]
          rw [skipSpace_append (hl.line depth), hkey, List.cons_append, skipSpace_cons rfl]
          exact ⟨_, rfl⟩
        · exact List.cons_ne_nil e' es
  obtain ⟨cs', hbegin⟩ := hbegin
  rw [hbegin] at hentries
  rw [readValue, hbegin]
  split
  · rename_i heq
    injection heq with heq _
    exact absurd heq (by decide)
  · rw [hentries]
    rfl

/-- A list is read if its items are. -/
theorem reads_list {l : Layout} (hl : Spacing l) {items : List Value}
    (hitems : ∀ v ∈ items, unwritable? v = none ∧ Reads l v) :
  Reads l (.list items)
  := by
  intro depth fuel rest hrest hfuel
  cases fuel with
  | zero =>
      cases items with
      | nil => cases hfuel
      | cons v vs => cases hfuel
  | succ fuel =>
      cases items with
      | nil => rfl
      | cons v vs =>
          have hlayout : layout l depth (.list (v :: vs))
              = '[' :: layoutItems l (depth + 1) (v :: vs) ++ l.line depth ++ [']'] := by
            rw [layout]
            exact List.cons_ne_nil v vs
          rw [hlayout] at hfuel ⊢
          simp only [List.length_append, List.length_cons] at hfuel
          have hread := readValue_layoutItems hl hitems (depth + 1) depth fuel rest (by omega)
          rw [← rereadItems_eq_map] at hread
          simp only [List.cons_append, List.append_assoc, List.nil_append]
          apply hread

/-- A pair is read as a list of two if its members are read. -/
theorem reads_pair {l : Layout} (hl : Spacing l) {a b : Value}
    (ha : unwritable? a = none ∧ Reads l a) (hb : unwritable? b = none ∧ Reads l b) :
  Reads l (.pair a b)
  := by
  intro depth fuel rest hrest hfuel
  have hmembers : ∀ v ∈ [a, b], unwritable? v = none ∧ Reads l v := by
    intro v hv
    simp only [List.mem_cons, List.not_mem_nil, or_false] at hv
    rcases hv with rfl | rfl
    · apply ha
    · apply hb
  have hlayout : layout l depth (.pair a b) = layout l depth (.list [a, b]) := by
    simp [layout, layoutItems]
  rw [hlayout] at hfuel ⊢
  apply reads_list hl hmembers depth fuel rest hrest hfuel

/-- A mapping is read if its keys and values are. -/
theorem reads_map {l : Layout} (hl : Spacing l) {entries : List (Value × Value)}
    (hentries : ∀ e ∈ entries, unwritableKey? e.1 = none ∧ unwritable? e.2 = none ∧ Reads l e.2) :
  Reads l (.map entries)
  := by
  intro depth fuel rest hrest hfuel
  cases fuel with
  | zero =>
      cases entries with
      | nil => cases hfuel
      | cons e es => cases hfuel
  | succ fuel =>
      cases entries with
      | nil => rfl
      | cons e es =>
          have hlayout : layout l depth (.map (e :: es))
              = '{' :: layoutEntries l (depth + 1) (e :: es) ++ l.line depth ++ ['}'] := by
            rw [layout]
            exact List.cons_ne_nil e es
          rw [hlayout] at hfuel ⊢
          simp only [List.length_append, List.length_cons] at hfuel
          have hread := readValue_layoutEntries hl hentries (depth + 1) depth fuel rest (by omega)
          rw [← rereadEntries_eq_map] at hread
          simp only [List.cons_append, List.append_assoc, List.nil_append]
          apply hread

/-- A number is read if a scalar is read in its text. -/
theorem reads_number {l : Layout} {v : Value} (htext : NumberText (scalarText v))
    (hlayout : ∀ depth, layout l depth v = scalarText v)
    (hread : ∀ rest, EndsNumber rest → readScalar (scalarText v ++ rest) = .ok (reread v, rest)) :
  Reads l v
  := by
  intro depth fuel rest hrest hfuel
  rw [hlayout] at hfuel ⊢
  cases fuel with
  | zero =>
      have hpos := List.length_pos_iff.mpr htext.nonempty
      omega
  | succ fuel => rw [readValue_numberText htext, hread rest hrest]

theorem reads_str (l : Layout) (s : String) :
  Reads l (.str s)
  := by
  intro depth fuel rest hrest hfuel
  cases fuel with
  | zero => cases hfuel
  | succ fuel =>
      have hread := readString_stringText s rest
      have htext : stringText s ++ rest
          = '\x22' :: (s.toList.flatMap escaped ++ ['\x22'] ++ rest) := rfl
      have hlayout : layout l depth (.str s) = stringText s := rfl
      rw [htext] at hread
      rw [hlayout, htext, readValue, hread]
      rfl

/-- Every value that can be written is read as what `reread` gives. -/
theorem reads {l : Layout} (hl : Spacing l) {v : Value} (hv : unwritable? v = none) :
  Reads l v
  := by
  induction hsize : sizeOf v using Nat.strongRecOn generalizing v with
  | ind n ih =>
      cases v with
      | null =>
          exact reads_number ⟨by decide, List.all_eq_true.mp (by decide)⟩ (fun _ => rfl)
            (fun _ _ => rfl)
      | bool b =>
          cases b with
          | true =>
              exact reads_number ⟨by decide, List.all_eq_true.mp (by decide)⟩ (fun _ => rfl)
                (fun _ _ => rfl)
          | false =>
              exact reads_number ⟨by decide, List.all_eq_true.mp (by decide)⟩ (fun _ => rfl)
                (fun _ _ => rfl)
      | int m =>
          have hm : hasDecimalText m = true := by
            cases h : hasDecimalText m with
            | true => rfl
            | false =>
                rw [unwritable?, h] at hv
                cases hv
          apply reads_number (v := .int m) (numberText_int m) (fun _ => rfl)
          intro rest hrest
          apply readScalar_intText hm hrest
      | float x =>
          apply reads_number (v := .float x) (numberText_float x) (fun _ => rfl)
          intro rest hrest
          apply readScalar_floatText x hrest
      | str s => apply reads_str
      | list items =>
          apply reads_list hl
          intro v hmem
          have hwritable := unwritableItem?_eq_none_iff.mp hv v hmem
          have hlt := List.sizeOf_lt_of_mem hmem
          rw [Value.list.sizeOf_spec] at hsize
          exact ⟨hwritable, ih (sizeOf v) (by omega) hwritable rfl⟩
      | pair a b =>
          rw [unwritable?, or_eq_none_iff] at hv
          rw [Value.pair.sizeOf_spec] at hsize
          exact reads_pair hl ⟨hv.1, ih (sizeOf a) (by omega) hv.1 rfl⟩
            ⟨hv.2, ih (sizeOf b) (by omega) hv.2 rfl⟩
      | map entries =>
          apply reads_map hl
          intro e hmem
          obtain ⟨hkey, hwritable⟩ := unwritableField?_eq_none_iff.mp hv e hmem
          have hlt := List.sizeOf_lt_of_mem hmem
          obtain ⟨k, v⟩ := e
          rw [Value.map.sizeOf_spec] at hsize
          rw [Prod.mk.sizeOf_spec] at hlt
          exact ⟨hkey, hwritable, ih (sizeOf v) (by omega) hwritable rfl⟩
      | date d => cases hv
      | instant t => cases hv
      | bytes bs => cases hv
      | set members => cases hv
      | enclosing level => cases hv

/-- A written value is read as what `reread` gives, whatever white space is after it. -/
theorem read_layout {l : Layout} (hl : Spacing l) {v : Value} (hv : unwritable? v = none)
    {spaces : List Char} (hspaces : ∀ c ∈ spaces, isSpace c = true) :
  read (String.ofList (layout l 0 v ++ spaces)) = .ok (reread v)
  := by
  obtain ⟨c, cs, hcons, hspace, -, hmark⟩ := exists_cons_layout l 0 hv
  have hends : EndsNumber spaces := by
    rw [← List.append_nil spaces]
    apply endsNumber_append hspaces endsNumber_nil
  have hread := reads hl hv 0 (2 * (layout l 0 v ++ spaces).length + 2) spaces hends (by
    rw [List.length_append]
    omega)
  have hskip : skipSpace spaces = [] := by
    rw [← List.append_nil spaces, skipSpace_append hspaces]
    rfl
  have hhead : ((c :: (cs ++ spaces)).head? == some (Char.ofNat 0xFEFF)) = false := by
    rw [beq_eq_false_iff_ne]
    intro heq
    injection heq with heq
    exact hmark heq
  rw [hcons, List.cons_append] at hread ⊢
  rw [read, String.toList_ofList, readDocument, hhead, skipSpace_cons hspace, hread]
  simp only [Bool.false_eq_true, if_false, ok_bind, hskip]
  rfl

theorem read_write {v : Value} (hv : unwritable? v = none) :
  read (write v ++ "\n") = .ok (reread v)
  := by
  have htext : write v ++ "\n" = String.ofList (layout .spread 0 v ++ ['\n']) := by
    rw [String.ofList_append]
    rfl
  rw [htext]
  apply read_layout spacing_spread hv
  exact List.all_eq_true.mp (by decide)

end AgentBundles.Json
