import AgentBundles.Proofs.Json.Numbers
import AgentBundles.Proofs.Json.Strings
import AgentBundles.Proofs.Number.Digits
import Mathlib.Data.Bool.AllAny

/-!
# The characters of JSON text

The text of a value has line feeds for line ends, and for the rest characters of ASCII that are seen
or spaces: all others are escaped in its strings.
-/

namespace AgentBundles.Json

/-- Characters that JSON text is written with. -/
def IsWritten (c : Char) : Prop := c = '\n' ∨ 0x20 ≤ c.toNat ∧ c.toNat ≤ 0x7E

instance : DecidablePred IsWritten := fun _ => inferInstanceAs (Decidable (_ ∨ _))

theorem isWritten_of_escapeOf? {letter c : Char} (h : escapeOf? letter = some c) :
  IsWritten letter
  := by
  have hletter : ∀ {d : Char}, IsWritten d → (letter == d) = true → IsWritten letter := by
    intro d hd heq
    rw [eq_of_beq heq]
    apply hd
  rw [escapeOf?] at h
  split at h
  · rename_i hself
    rw [Bool.or_eq_true, Bool.or_eq_true] at hself
    rcases hself with (hself | hself) | hself
    · exact hletter (by decide) hself
    · exact hletter (by decide) hself
    · exact hletter (by decide) hself
  · repeat' split at h
    · exact hletter (by decide) ‹(letter == 'b') = true›
    · exact hletter (by decide) ‹(letter == 'f') = true›
    · exact hletter (by decide) ‹(letter == 'n') = true›
    · exact hletter (by decide) ‹(letter == 'r') = true›
    · exact hletter (by decide) ‹(letter == 't') = true›
    · cases h

/-- A character of a number stands for itself in a string. -/
theorem isPlainChar_of_isNumberChar {c : Char} (hc : isNumberChar c = true) :
  isPlainChar c = true
  := by
  have hne : ∀ d, isNumberChar d = false → c ≠ d := by
    intro d hd heq
    rw [heq, hd] at hc
    cases hc
  have hbounds : 0x20 ≤ c.toNat ∧ c.toNat ≤ 0x7E := by
    simp only [isNumberChar, Text.isAsciiAlphanumeric, Text.isAsciiLetter, Text.isAsciiDigit,
      Bool.or_eq_true, Bool.and_eq_true, decide_eq_true_eq, beq_iff_eq, Char.le_def,
      UInt32.le_iff_toNat_le] at hc
    rcases hc with ((((h | h) | h) | rfl) | rfl) | rfl
    · exact ⟨Nat.le_trans (by decide) h.1, Nat.le_trans h.2 (by decide)⟩
    · exact ⟨Nat.le_trans (by decide) h.1, Nat.le_trans h.2 (by decide)⟩
    · exact ⟨Nat.le_trans (by decide) h.1, Nat.le_trans h.2 (by decide)⟩
    all_goals decide
  simp only [isPlainChar, Bool.and_eq_true, bne_iff_ne, decide_eq_true_eq]
  exact ⟨⟨⟨hne '\x22' (by decide), hne '\\' (by decide)⟩, hbounds.1⟩, hbounds.2⟩

theorem isWritten_of_isPlainChar {c : Char} (h : isPlainChar c = true) :
  IsWritten c
  := by
  rw [isPlainChar, Bool.and_eq_true, Bool.and_eq_true, decide_eq_true_eq, decide_eq_true_eq] at h
  exact Or.inr ⟨h.1.2, h.2⟩

theorem isWritten_unitEscape (n : Nat) :
  ∀ c ∈ unitEscape n, IsWritten c
  := by
  rw [unitEscape, List.forall_mem_cons, List.forall_mem_cons]
  refine ⟨by decide, by decide, ?_⟩
  intro c hc
  obtain ⟨d, hd, rfl⟩ := Text.exists_of_mem_hexDigits hc
  have hdigit : ∀ d < 16, IsWritten (Text.hexDigit d) := by decide
  apply hdigit d hd

theorem isWritten_escaped (ch : Char) :
  ∀ c ∈ escaped ch, IsWritten c
  := by
  rcases escaped_cases ch with ⟨letter, -, hletter, heq⟩ | ⟨hplain, heq⟩ | ⟨-, heq⟩ | ⟨-, heq⟩
  · rw [heq, List.forall_mem_cons, List.forall_mem_singleton]
    exact ⟨by decide, isWritten_of_escapeOf? hletter⟩
  · rw [heq, List.forall_mem_singleton]
    apply isWritten_of_isPlainChar hplain
  · rw [heq]
    apply isWritten_unitEscape
  · rw [heq, List.forall_mem_append]
    exact ⟨isWritten_unitEscape _, isWritten_unitEscape _⟩

theorem isWritten_stringText (s : String) :
  ∀ c ∈ stringText s, IsWritten c
  := by
  rw [stringText, List.cons_append, List.forall_mem_cons, List.forall_mem_append,
    List.forall_mem_singleton, List.forall_mem_flatMap]
  exact ⟨by decide, fun ch _ => isWritten_escaped ch, by decide⟩

theorem NumberText.isWritten {cs : List Char} (h : NumberText cs) :
  ∀ c ∈ cs, IsWritten c
  := by
  intro c hc
  apply isWritten_of_isPlainChar (isPlainChar_of_isNumberChar (h.chars c hc))

theorem isWritten_scalarText (v : Value) :
  ∀ c ∈ scalarText v, IsWritten c
  := by
  cases v with
  | null => exact List.all_iff_forall_prop.mp (by decide)
  | bool b => cases b <;> exact List.all_iff_forall_prop.mp (by decide)
  | int n => exact (numberText_int n).isWritten
  | float x => exact (numberText_float x).isWritten
  | str s => apply isWritten_stringText
  | date d => apply isWritten_stringText
  | instant t => apply isWritten_stringText
  | bytes bs => apply isWritten_stringText
  | list items => apply List.forall_mem_nil
  | pair a b => apply List.forall_mem_nil
  | map entries => apply List.forall_mem_nil
  | set members => apply List.forall_mem_nil
  | enclosing level => apply List.forall_mem_nil

theorem isWritten_keyText (k : Value) :
  ∀ c ∈ keyText k, IsWritten c
  := by
  rw [keyText.eq_def]
  split
  · apply isWritten_stringText
  · rw [List.cons_append, List.forall_mem_cons, List.forall_mem_append, List.forall_mem_singleton]
    exact ⟨by decide, isWritten_scalarText k, by decide⟩

theorem isWritten_line (depth : Nat) :
  ∀ c ∈ Layout.spread.line depth, IsWritten c
  := by
  rw [Layout.spread, List.forall_mem_cons]
  refine ⟨by decide, ?_⟩
  intro c hc
  rw [(List.mem_replicate.mp hc).2]
  decide

theorem isWritten_colon :
  ∀ c ∈ Layout.spread.colon, IsWritten c
  := List.all_iff_forall_prop.mp (by decide)

mutual

/-- The text of a value is written with such characters. -/
theorem isWritten_layout (depth : Nat) : ∀ v, ∀ c ∈ layout .spread depth v, IsWritten c
  | .list [] => by
      rw [layout]
      exact List.all_iff_forall_prop.mp (by decide)
  | .list (v :: vs) => by
      have hitems := isWritten_layoutItems (depth + 1) (v :: vs)
      simp only [layout, List.cons_append, List.forall_mem_cons, List.forall_mem_append]
      exact ⟨by decide, ⟨hitems, isWritten_line depth⟩, by decide, List.forall_mem_nil _⟩
  | .pair a b => by
      have ha := isWritten_layout (depth + 1) a
      have hb := isWritten_layout (depth + 1) b
      have hline := isWritten_line (depth + 1)
      simp only [layout, List.cons_append, List.forall_mem_cons, List.forall_mem_append]
      exact ⟨by decide, ⟨⟨⟨⟨hline, ha⟩, by decide, hline⟩, hb⟩, isWritten_line depth⟩, by decide,
        List.forall_mem_nil _⟩
  | .map [] => by
      rw [layout]
      exact List.all_iff_forall_prop.mp (by decide)
  | .map (e :: es) => by
      have hentries := isWritten_layoutEntries (depth + 1) (e :: es)
      simp only [layout, List.cons_append, List.forall_mem_cons, List.forall_mem_append]
      exact ⟨by decide, ⟨hentries, isWritten_line depth⟩, by decide, List.forall_mem_nil _⟩
  | .null => isWritten_scalarText .null
  | .bool b => isWritten_scalarText (.bool b)
  | .int n => isWritten_scalarText (.int n)
  | .float x => isWritten_scalarText (.float x)
  | .str s => isWritten_scalarText (.str s)
  | .date d => isWritten_scalarText (.date d)
  | .instant t => isWritten_scalarText (.instant t)
  | .bytes bs => isWritten_scalarText (.bytes bs)
  | .set members => isWritten_scalarText (.set members)
  | .enclosing level => isWritten_scalarText (.enclosing level)

theorem isWritten_layoutItems (depth : Nat) : ∀ vs, ∀ c ∈ layoutItems .spread depth vs, IsWritten c
  | [] => List.forall_mem_nil _
  | [v] => by
      rw [layoutItems, List.forall_mem_append]
      exact ⟨isWritten_line depth, isWritten_layout depth v⟩
  | v :: v' :: vs => by
      have hvs := isWritten_layoutItems depth (v' :: vs)
      rw [layoutItems, List.forall_mem_append, List.forall_mem_append, List.forall_mem_cons]
      · exact ⟨⟨isWritten_line depth, isWritten_layout depth v⟩, by decide, hvs⟩
      · exact List.cons_ne_nil _ _

theorem isWritten_layoutEntries (depth : Nat) : ∀ es, ∀ c ∈ layoutEntries .spread depth es,
    IsWritten c
  | [] => List.forall_mem_nil _
  | [(k, v)] => by
      simp only [layoutEntries, List.forall_mem_append]
      exact ⟨⟨⟨isWritten_line depth, isWritten_keyText k⟩, isWritten_colon⟩,
        isWritten_layout depth v⟩
  | (k, v) :: e :: es => by
      have hes := isWritten_layoutEntries depth (e :: es)
      simp only [layoutEntries, List.forall_mem_append, List.forall_mem_cons]
      exact ⟨⟨⟨⟨isWritten_line depth, isWritten_keyText k⟩, isWritten_colon⟩,
        isWritten_layout depth v⟩, by decide, hes⟩

end

/-- Values are written with line feeds and with characters of ASCII that are seen or spaces. -/
theorem isWritten_write (v : Value) :
  ∀ c ∈ (write v).toList, IsWritten c
  := by
  rw [write, String.toList_ofList]
  apply isWritten_layout

theorem return_not_mem_write (v : Value) :
  '\r' ∉ (write v).toList
  := by
  intro hmem
  exact absurd (isWritten_write v _ hmem) (by decide)

end AgentBundles.Json
