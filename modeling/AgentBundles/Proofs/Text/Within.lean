import Mathlib.Data.List.DropRight
import Mathlib.Tactic.Common
import AgentBundles.Text.Blank
import AgentBundles.Text.Split

/-!
# Texts within texts

A text without blanks at its ends that stands in another one still stands there when the blanks at
the ends of the other one are taken off. Texts that are joined stand in the result.
-/

namespace AgentBundles.Text

/-! ### Blank ends -/

theorem dropWhile_eq_self_of_prefix {p : Char → Bool} {xs ys : List Char} (h : xs <+: ys)
    (hys : ys.dropWhile p = ys) :
  xs.dropWhile p = xs
  := by
  rw [List.dropWhile_eq_self_iff] at hys ⊢
  intro hpos
  have hlength : xs.length ≤ ys.length := h.length_le
  have heq : xs[0] = ys[0] := h.getElem hpos
  rw [heq]
  apply hys (Nat.lt_of_lt_of_le hpos hlength)

/-- Nothing is taken off exactly if nothing is taken off at either end. -/
theorem stripBy_eq_self_iff {p : Char → Bool} {xs : List Char} :
  stripBy p xs = xs ↔ xs.dropWhile p = xs ∧ xs.rdropWhile p = xs
  := by
  have hstrip : stripBy p xs = (xs.dropWhile p).rdropWhile p := rfl
  constructor
  · intro h
    have hprefix : xs <+: xs.dropWhile p := by
      nth_rewrite 1 [← h]
      apply List.rdropWhile_prefix
    have hdrop : xs.dropWhile p = xs :=
      (List.dropWhile_suffix p).eq_of_length
        (Nat.le_antisymm (List.dropWhile_suffix p).length_le hprefix.length_le)
    rw [hstrip, hdrop] at h
    exact ⟨hdrop, h⟩
  · rintro ⟨hdrop, hrdrop⟩
    rw [hstrip, hdrop, hrdrop]

/-- What is taken off is taken off at once. -/
@[simp]
theorem stripBy_stripBy (p : Char → Bool) (xs : List Char) :
  stripBy p (stripBy p xs) = stripBy p xs
  := by
  rw [stripBy_eq_self_iff]
  constructor
  · apply dropWhile_eq_self_of_prefix (List.rdropWhile_prefix p _)
    apply List.dropWhile_idempotent
  · apply List.rdropWhile_idempotent

theorem isInfix_dropWhile {p : Char → Bool} {xs ys : List Char} (h : xs <:+: ys)
    (hxs : xs.dropWhile p = xs) :
  xs <:+: ys.dropWhile p
  := by
  obtain ⟨before, after, rfl⟩ := h
  rw [List.append_assoc, List.dropWhile_append]
  split
  · cases xs with
    | nil => apply List.nil_infix
    | cons x xs =>
        have hx : ¬ p x = true := (List.dropWhile_eq_self_iff.mp hxs) (Nat.zero_lt_succ _)
        rw [List.cons_append, List.dropWhile_cons_of_neg hx, ← List.cons_append]
        apply (List.prefix_append _ _).isInfix
  · rw [← List.append_assoc]
    apply List.infix_append

/-- What stands in a list and has nothing to take off stands there when the ends are taken off. -/
theorem isInfix_stripBy {p : Char → Bool} {xs ys : List Char} (h : xs <:+: ys)
    (hxs : stripBy p xs = xs) :
  xs <:+: stripBy p ys
  := by
  obtain ⟨hdrop, hrdrop⟩ := stripBy_eq_self_iff.mp hxs
  have hreverse : xs.reverse.dropWhile p = xs.reverse := by
    rw [List.rdropWhile, List.reverse_eq_iff] at hrdrop
    apply hrdrop
  rw [stripBy, ← List.reverse_infix, List.reverse_reverse]
  apply isInfix_dropWhile _ hreverse
  rw [List.reverse_infix]
  apply isInfix_dropWhile h hdrop

/-- A text that stands in another one and has no blanks at its ends stands there when the blanks at
the ends of the other one are taken off. -/
theorem isInfix_strip {xs ys : List Char} (h : xs <:+: ys) (hxs : strip xs = xs) :
  xs <:+: strip ys
  := isInfix_stripBy h hxs

@[simp]
theorem strip_toList_trim (s : String) :
  strip (trim s).toList = (trim s).toList
  := by
  rw [trim, String.toList_ofList]
  apply stripBy_stripBy

/-- A blank before a text and one after it are taken off with its own. -/
theorem strip_cons_concat {a b : Char} (ha : isBlank a = true) (hb : isBlank b = true)
    (xs : List Char) :
  strip (a :: (xs ++ [b])) = strip xs
  := by
  have hstrip : ∀ ys, strip ys = (ys.dropWhile isBlank).rdropWhile isBlank := fun _ => rfl
  rw [hstrip, hstrip, List.dropWhile_cons_of_pos ha, List.dropWhile_append]
  split
  · rename_i hempty
    rw [List.isEmpty_iff.mp hempty, List.dropWhile_cons_of_pos hb]
    rfl
  · apply List.rdropWhile_concat_pos
    apply hb

/-! ### Joined texts -/

/-- A text that is joined with others stands in the result. -/
theorem isInfix_join {sep s : String} {ss : List String} (h : s ∈ ss) :
  s.toList <:+: (join sep ss).toList
  := by
  induction ss with
  | nil => cases h
  | cons t ss ih =>
      cases ss with
      | nil =>
          rw [List.mem_singleton.mp h]
          apply List.infix_refl
      | cons u ss =>
          rw [join, String.toList_append, String.toList_append]
          rcases List.mem_cons.mp h with rfl | h
          · apply (List.prefix_append _ _).isInfix.trans (List.prefix_append _ _).isInfix
          · apply (ih h).trans (List.suffix_append _ _).isInfix

/-- A character of fields with separators between them is a separator or one of a field. -/
theorem mem_intercalate {sep : Char} {fs : List (List Char)} {c : Char}
    (h : c ∈ [sep].intercalate fs) :
  c = sep ∨ ∃ f ∈ fs, c ∈ f
  := by
  induction fs with
  | nil => cases h
  | cons f fs ih =>
      cases fs with
      | nil =>
          rw [List.intercalate_singleton] at h
          exact Or.inr ⟨f, List.mem_cons_self, h⟩
      | cons g gs =>
          rw [List.intercalate_cons_cons, List.mem_append, List.mem_append, List.mem_singleton] at h
          rcases h with (h | rfl) | h
          · exact Or.inr ⟨f, List.mem_cons_self, h⟩
          · exact Or.inl rfl
          · rcases ih h with heq | ⟨f', hf', hc⟩
            · exact Or.inl heq
            · exact Or.inr ⟨f', List.mem_cons_of_mem _ hf', hc⟩

theorem rdropWhile_cons (p : Char → Bool) (c : Char) (cs : List Char) :
  (c :: cs).rdropWhile p = if p c = true ∧ cs.rdropWhile p = [] then [] else c :: cs.rdropWhile p
  := by
  rw [List.rdropWhile, List.rdropWhile, List.reverse_cons, List.dropWhile_append]
  cases hrest : cs.reverse.dropWhile p with
  | nil =>
      cases hc : p c with
      | true => simp [hc]
      | false => simp [hc]
  | cons d ds => simp

theorem rdropWhile_append {p : Char → Bool} {xs ys : List Char} (hne : ys ≠ [])
    (hys : ys.rdropWhile p = ys) :
  (xs ++ ys).rdropWhile p = xs ++ ys
  := by
  rw [List.rdropWhile_eq_self_iff] at hys ⊢
  intro h
  rw [List.getLast_append_of_right_ne_nil _ _ hne]
  apply hys hne

/-- Texts with nothing to take off at their ends have nothing to take off when they are joined. -/
theorem rdropWhile_join {p : Char → Bool} {sep : String} {ss : List String} (hne : ss ≠ [])
    (h : ∀ s ∈ ss, s ≠ "" ∧ s.toList.rdropWhile p = s.toList) :
  join sep ss ≠ "" ∧ (join sep ss).toList.rdropWhile p = (join sep ss).toList
  := by
  induction ss with
  | nil => apply absurd rfl hne
  | cons s ss ih =>
      cases ss with
      | nil => apply h s List.mem_cons_self
      | cons t ss =>
          obtain ⟨hrest, hend⟩ :=
            ih (List.cons_ne_nil _ _) fun u hu => h u (List.mem_cons_of_mem _ hu)
          have hchars : (join sep (t :: ss)).toList ≠ [] := by simpa using hrest
          rw [join]
          constructor
          · rw [ne_eq, ← String.toList_eq_nil_iff, String.toList_append, List.append_eq_nil_iff]
            rintro ⟨-, hnil⟩
            apply hchars hnil
          · rw [String.toList_append]
            apply rdropWhile_append hchars hend

end AgentBundles.Text
