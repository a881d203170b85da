import Mathlib.Tactic.Common
import AgentBundles.Yaml.Cursor

/-!
# Moving a cursor

What is left after a cursor has moved over some characters, and its line and column.
-/

namespace AgentBundles.Yaml

namespace Cursor

@[simp]
theorem advance_zero (c : Cursor) :
  c.advance 0 = c
  := rfl

theorem advance_succ (c : Cursor) (n : Nat) :
  c.advance (n + 1) = c.step.advance n
  := rfl

theorem advance_one (c : Cursor) :
  c.advance 1 = c.step
  := rfl

/-- Moving on after having moved is moving all the way. -/
theorem advance_advance (c : Cursor) (m n : Nat) :
  (c.advance m).advance n = c.advance (m + n)
  := by
  induction m generalizing c with
  | zero => rw [advance_zero, Nat.zero_add]
  | succ m ih => rw [advance_succ, ih, Nat.succ_add, advance_succ]

/-- Moving over characters and then over others and one more is moving over all of them. -/
theorem advance_append (c : Cursor) (cs ds : List Char) :
  (c.advance cs.length).advance (ds.length + 1) = c.advance ((cs ++ ds).length + 1)
  := by
  rw [advance_advance, List.length_append, Nat.add_assoc]

theorem rest_step (c : Cursor) :
  c.step.rest = c.rest.tail
  := by
  rw [step]
  split
  · rename_i h
    rw [h]
    rfl
  · rename_i h
    rw [h]
    split
    · rfl
    · split
      · rfl
      · rfl

@[simp]
theorem rest_advance (c : Cursor) (n : Nat) :
  (c.advance n).rest = c.rest.drop n
  := by
  induction n generalizing c with
  | zero => rfl
  | succ n ih => rw [advance_succ, ih, rest_step, List.drop_tail]

/-- After as many characters as it begins with, the rest of a text is what follows them. -/
theorem rest_advance_of_eq {c : Cursor} {cs rest : List Char} (h : c.rest = cs ++ rest) :
  (c.advance cs.length).rest = rest
  := by
  rw [rest_advance, h, List.drop_left]

theorem rest_step_of_eq {c : Cursor} {ch : Char} {rest : List Char} (h : c.rest = ch :: rest) :
  c.step.rest = rest
  := by
  rw [rest_step, h]
  rfl

/-- A character that breaks no line leaves the line as it is. -/
theorem line_step {c : Cursor} {ch : Char} {rest : List Char} (h : c.rest = ch :: rest)
    (hbreak : isBreak ch = false) :
  c.step.line = c.line
  := by
  rw [step, h]
  simp only [hbreak, Bool.false_and, Bool.false_eq_true, if_false]
  split
  · rfl
  · rfl

/-- A character that breaks no line does not lead to a lower column. -/
theorem column_le_column_step {c : Cursor} {ch : Char} {rest : List Char} (h : c.rest = ch :: rest)
    (hbreak : isBreak ch = false) :
  c.column ≤ c.step.column
  := by
  rw [step, h]
  simp only [hbreak, Bool.false_and, Bool.false_eq_true, if_false]
  split
  · apply Nat.le_refl
  · apply Nat.le_succ

/-- A character that is neither a line break nor a byte order mark takes a column. -/
theorem column_step {c : Cursor} {ch : Char} {rest : List Char} (h : c.rest = ch :: rest)
    (hbreak : isBreak ch = false) (hmark : ch ≠ byteOrderMark) :
  c.step.column = c.column + 1
  := by
  rw [step, h]
  simp [hbreak, hmark]

/-- Every character counts. -/
theorem index_step {c : Cursor} {ch : Char} {rest : List Char} (h : c.rest = ch :: rest) :
  c.step.index = c.index + 1
  := by
  rw [step, h]
  simp only
  split
  · rfl
  · split
    · rfl
    · rfl

/-- Characters that break no line leave the line as it is. -/
theorem line_advance {c : Cursor} {cs rest : List Char} (h : c.rest = cs ++ rest)
    (hbreak : ∀ ch ∈ cs, isBreak ch = false) :
  (c.advance cs.length).line = c.line
  := by
  induction cs generalizing c with
  | nil => rfl
  | cons ch cs ih =>
      rw [List.length_cons, advance_succ, ih (rest_step_of_eq h)]
      · apply line_step h (hbreak ch List.mem_cons_self)
      · intro d hd
        apply hbreak d (List.mem_cons_of_mem _ hd)

/-- Characters that break no line do not lead to a lower column. -/
theorem column_le_column_advance {c : Cursor} {cs rest : List Char} (h : c.rest = cs ++ rest)
    (hbreak : ∀ ch ∈ cs, isBreak ch = false) :
  c.column ≤ (c.advance cs.length).column
  := by
  induction cs generalizing c with
  | nil => apply Nat.le_refl
  | cons ch cs ih =>
      rw [List.length_cons, advance_succ]
      apply Nat.le_trans (column_le_column_step h (hbreak ch List.mem_cons_self))
      apply ih (rest_step_of_eq h)
      intro d hd
      apply hbreak d (List.mem_cons_of_mem _ hd)

theorem index_advance {c : Cursor} {cs rest : List Char} (h : c.rest = cs ++ rest) :
  (c.advance cs.length).index = c.index + cs.length
  := by
  induction cs generalizing c with
  | nil => rfl
  | cons ch cs ih =>
      rw [List.length_cons, advance_succ, ih (rest_step_of_eq h), index_step h]
      omega

/-- A line break leads to the first column. -/
theorem column_step_of_lineFeed {c : Cursor} {rest : List Char} (h : c.rest = '\n' :: rest) :
  c.step.column = 0
  := by
  rw [step, h]
  rfl

theorem line_step_of_lineFeed {c : Cursor} {rest : List Char} (h : c.rest = '\n' :: rest) :
  c.step.line = c.line + 1
  := by
  rw [step, h]
  rfl

theorem line_le_line_step (c : Cursor) :
  c.line ≤ c.step.line
  := by
  rw [step]
  split
  · apply Nat.le_refl
  · split
    · apply Nat.le_succ
    · split
      · apply Nat.le_refl
      · apply Nat.le_refl

/-- A cursor moves to no line before its own. -/
theorem line_le_line_advance (c : Cursor) (n : Nat) :
  c.line ≤ (c.advance n).line
  := by
  induction n generalizing c with
  | zero => apply Nat.le_refl
  | succ n ih =>
      rw [advance_succ]
      apply Nat.le_trans c.line_le_line_step (ih c.step)

/-! ### Looking ahead -/

theorem sees_eq {c : Cursor} {ch : Char} {rest : List Char} (h : c.rest = ch :: rest) (d : Char) :
  c.sees d = (ch == d)
  := by
  rw [sees, h]
  rfl

/-- The characters up to the first one that is refused. -/
theorem span_eq {c : Cursor} {p : Char → Bool} {cs rest : List Char} (h : c.rest = cs ++ rest)
    (hcs : ∀ ch ∈ cs, p ch = true) (hrest : ∀ ch, rest.head? = some ch → p ch = false) :
  c.span p = (cs, c.advance cs.length)
  := by
  have htaken : c.rest.takeWhile p = cs := by
    rw [h, List.takeWhile_append_of_pos hcs]
    cases rest with
    | nil => simp
    | cons ch rest =>
        have hch := hrest ch rfl
        simp [hch]
  rw [span, htaken]

theorem skip_eq {c : Cursor} {p : Char → Bool} {cs rest : List Char} (h : c.rest = cs ++ rest)
    (hcs : ∀ ch ∈ cs, p ch = true) (hrest : ∀ ch, rest.head? = some ch → p ch = false) :
  c.skip p = c.advance cs.length
  := by
  rw [skip, span_eq h hcs hrest]

/-- There is no line break at the end of a text, or before another character. -/
theorem readBreak?_eq_none {c : Cursor} (h : ∀ ch, c.rest.head? = some ch → isBreak ch = false) :
  c.readBreak? = none
  := by
  rw [readBreak?]
  split
  · rename_i heq
    have hr := h '\r' (by rw [heq]; rfl)
    exact absurd hr (by decide)
  · rename_i ch _ _ heq
    rw [h ch (by rw [heq]; rfl)]
    rfl
  · rfl

/-- What a line break counts as in a scalar. -/
def asBreak (ch : Char) : Char :=
  if isSeparator ch then ch else '\n'

/-- A line break other than a carriage return is read alone. -/
theorem readBreak?_eq_some {c : Cursor} {ch : Char} {rest : List Char} (h : c.rest = ch :: rest)
    (hbreak : isBreak ch = true) (hreturn : ch ≠ '\r') :
  c.readBreak? = some (asBreak ch, c.step)
  := by
  rw [readBreak?, h]
  split
  · rename_i heq
    cases heq
    exact absurd rfl hreturn
  · rename_i heq
    cases heq
    rw [if_pos hbreak]
    rfl
  · rename_i heq
    cases heq

end Cursor

end AgentBundles.Yaml
