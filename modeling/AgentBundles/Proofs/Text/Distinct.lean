import Mathlib.Data.List.Induction
import Mathlib.Data.List.Lex
import Mathlib.Data.List.Nodup
import Mathlib.Data.String.Basic
import Mathlib.Tactic.Common
import AgentBundles.Text.Split

/-!
# Items each once, and items in order

`distinct xs` holds the members of `xs`, each once, and is `xs` itself when nothing in `xs` occurs
twice. A list that is sorted by names that are all different has these names in increasing order,
and no other list of the same items has.
-/

namespace AgentBundles.Text

/-! ### Items each once -/

variable {α : Type} [BEq α] [LawfulBEq α]

/-- Going on from `kept`, the members are those of `kept` and of the list. -/
theorem mem_keepFrom (kept xs : List α) (x : α) :
  x ∈ xs.foldl (fun kept x => if kept.contains x then kept else kept ++ [x]) kept
    ↔ x ∈ kept ∨ x ∈ xs
  := by
  induction xs generalizing kept with
  | nil => simp
  | cons y ys ih =>
      rw [List.foldl_cons, ih, List.mem_cons]
      split
      · rename_i h
        constructor
        · rintro (hk | hys)
          · apply Or.inl hk
          · apply Or.inr (Or.inr hys)
        · rintro (hk | rfl | hys)
          · apply Or.inl hk
          · apply Or.inl (List.contains_iff_mem.mp h)
          · apply Or.inr hys
      · rw [List.mem_append, List.mem_singleton, or_assoc]

/-- Going on from a list without repetitions gives a list without repetitions. -/
theorem nodup_keepFrom (kept xs : List α) (hk : kept.Nodup) :
  (xs.foldl (fun kept x => if kept.contains x then kept else kept ++ [x]) kept).Nodup
  := by
  induction xs generalizing kept with
  | nil => apply hk
  | cons y ys ih =>
      rw [List.foldl_cons]
      apply ih
      split
      · apply hk
      · rename_i h
        apply List.nodup_append.mpr
        use hk, List.nodup_singleton y
        rintro a ha b hb rfl
        rw [List.mem_singleton] at hb
        apply h
        rw [List.contains_iff_mem, ← hb]
        apply ha

/-- Going on from `kept` with items that do not occur twice, in `kept` or among each other,
adds them all. -/
theorem keepFrom_eq_append (kept xs : List α) (h : (kept ++ xs).Nodup) :
  xs.foldl (fun kept x => if kept.contains x then kept else kept ++ [x]) kept = kept ++ xs
  := by
  induction xs generalizing kept with
  | nil => simp
  | cons y ys ih =>
      have hy : kept.contains y = false := by
        rw [Bool.eq_false_iff, ne_eq, List.contains_iff_mem]
        intro hmem
        apply (List.nodup_append.mp h).2.2 y hmem y List.mem_cons_self rfl
      rw [List.foldl_cons, hy, if_neg Bool.false_ne_true, ih]
      · simp
      · simpa using h

@[simp]
theorem mem_distinct {xs : List α} {x : α} :
  x ∈ distinct xs ↔ x ∈ xs
  := by
  rw [distinct, mem_keepFrom]
  simp

theorem nodup_distinct (xs : List α) :
  (distinct xs).Nodup
  := nodup_keepFrom [] xs List.nodup_nil

/-- Nothing is taken from a list without repetitions. -/
theorem distinct_of_nodup {xs : List α} (h : xs.Nodup) :
  distinct xs = xs
  := keepFrom_eq_append [] xs h

/-- An item at the end that did not occur before stays there. -/
theorem distinct_concat_of_not_mem {xs : List α} {x : α} (h : x ∉ xs) :
  distinct (xs ++ [x]) = distinct xs ++ [x]
  := by
  have hx : (distinct xs).contains x = false := by
    rw [Bool.eq_false_iff, ne_eq, List.contains_iff_mem, mem_distinct]
    apply h
  rw [distinct, List.foldl_append, List.foldl_cons, List.foldl_nil, ← distinct, hx]
  rfl

/-- An item at the end that did occur before is dropped. -/
theorem distinct_concat_of_mem {xs : List α} {x : α} (h : x ∈ xs) :
  distinct (xs ++ [x]) = distinct xs
  := by
  have hx : (distinct xs).contains x = true := by
    rw [List.contains_iff_mem, mem_distinct]
    apply h
  rw [distinct, List.foldl_append, List.foldl_cons, List.foldl_nil, ← distinct, hx]
  rfl

omit [LawfulBEq α] in
/-- What is kept of the items up to some place does not depend on repetitions before it. -/
theorem distinct_append_congr {xs ys : List α} (h : distinct xs = distinct ys) (zs : List α) :
  distinct (xs ++ zs) = distinct (ys ++ zs)
  := by
  rw [distinct, distinct, List.foldl_append, List.foldl_append, ← distinct, ← distinct, h]

/-- Items that all occurred before are dropped. -/
theorem distinct_append_of_subset {xs ys : List α} (h : ys ⊆ xs) :
  distinct (xs ++ ys) = distinct xs
  := by
  induction ys using List.reverseRecOn with
  | nil => rw [List.append_nil]
  | append_singleton ys y ih =>
      obtain ⟨hys, hy⟩ := List.append_subset.mp h
      rw [← List.append_assoc, distinct_concat_of_mem, ih hys]
      apply List.mem_append_left
      apply hy
      apply List.mem_singleton_self

/-- What comes of a list, item by item, is the same without the repetitions in the list. -/
theorem distinct_append_flatMap_distinct {β : Type} [BEq β] [LawfulBEq β] (f : α → List β)
    (xs : List β) (ys : List α) :
  distinct (xs ++ (distinct ys).flatMap f) = distinct (xs ++ ys.flatMap f)
  := by
  induction ys using List.reverseRecOn with
  | nil => rfl
  | append_singleton ys y ih =>
      rw [List.flatMap_append, List.flatMap_singleton, ← List.append_assoc]
      by_cases hy : y ∈ ys
      · have hsub : f y ⊆ xs ++ ys.flatMap f := by
          intro b hb
          apply List.mem_append_right
          exact List.mem_flatMap.mpr ⟨y, hy, hb⟩
        rw [distinct_concat_of_mem hy, ih, distinct_append_of_subset hsub]
      · rw [distinct_concat_of_not_mem hy, List.flatMap_append, List.flatMap_singleton,
          ← List.append_assoc]
        apply distinct_append_congr ih

/-- The items that some property selects may be selected before repetitions are taken away, as well
as after it. -/
theorem filter_distinct (p : α → Bool) (xs : List α) :
  (distinct xs).filter p = distinct (xs.filter p)
  := by
  induction xs using List.reverseRecOn with
  | nil => rfl
  | append_singleton xs x ih =>
      rw [List.filter_append, List.filter_singleton]
      cases hp : p x with
      | false =>
          by_cases hx : x ∈ xs
          · rw [distinct_concat_of_mem hx, ih, cond_false, List.append_nil]
          · rw [distinct_concat_of_not_mem hx, List.filter_append, ih, List.filter_singleton, hp]
            simp
      | true =>
          rw [cond_true]
          by_cases hx : x ∈ xs
          · rw [distinct_concat_of_mem hx, ih,
              distinct_concat_of_mem (List.mem_filter.mpr ⟨hx, hp⟩)]
          · rw [distinct_concat_of_not_mem hx, List.filter_append, ih, List.filter_singleton, hp,
              distinct_concat_of_not_mem fun h => hx (List.mem_of_mem_filter h), cond_true]

/-- The items that some property selects stand in the order in which they first occur in the whole
list. -/
theorem pairwise_idxOf_distinct_filter [DecidableEq α] (p : α → Bool) (xs : List α) :
  (distinct (xs.filter p)).Pairwise fun a b => xs.idxOf a < xs.idxOf b
  := by
  induction xs using List.reverseRecOn with
  | nil => apply List.Pairwise.nil
  | append_singleton xs x ih =>
      have hmem : ∀ a ∈ distinct (xs.filter p), a ∈ xs := by
        intro a ha
        exact (List.mem_filter.mp (mem_distinct.mp ha)).1
      have hold : (distinct (xs.filter p)).Pairwise fun a b => (xs ++ [x]).idxOf a
          < (xs ++ [x]).idxOf b := by
        apply ih.imp_of_mem
        intro a b ha hb hlt
        rw [List.idxOf_append_of_mem (hmem a ha), List.idxOf_append_of_mem (hmem b hb)]
        apply hlt
      rw [List.filter_append, List.filter_singleton]
      cases hp : p x with
      | false => simpa using hold
      | true =>
          rw [cond_true]
          by_cases hx : x ∈ xs.filter p
          · rw [distinct_concat_of_mem hx]
            apply hold
          · rw [distinct_concat_of_not_mem hx]
            apply List.pairwise_append.mpr
            refine ⟨hold, List.pairwise_singleton _ _, ?_⟩
            intro a ha b hb
            have hnew : x ∉ xs := fun h => hx (List.mem_filter.mpr ⟨h, hp⟩)
            rw [List.mem_singleton.mp hb, List.idxOf_append_of_mem (hmem a ha),
              List.idxOf_append_of_notMem hnew]
            apply Nat.lt_add_right
            apply List.idxOf_lt_length_of_mem (hmem a ha)

theorem length_distinct_le (xs : List α) :
  (distinct xs).length ≤ xs.length
  := by
  induction xs using List.reverseRecOn with
  | nil => apply Nat.le_refl
  | append_singleton xs x ih =>
      by_cases hx : x ∈ xs
      · rw [distinct_concat_of_mem hx, List.length_append]
        apply Nat.le_add_right_of_le ih
      · rw [distinct_concat_of_not_mem hx, List.length_append, List.length_append]
        apply Nat.add_le_add_right ih

/-- A list that loses nothing has no repetitions. -/
theorem nodup_of_length_distinct {xs : List α} (h : (distinct xs).length = xs.length) :
  xs.Nodup
  := by
  induction xs using List.reverseRecOn with
  | nil => apply List.nodup_nil
  | append_singleton xs x ih =>
      by_cases hx : x ∈ xs
      · rw [distinct_concat_of_mem hx, List.length_append, List.length_singleton] at h
        have hle := length_distinct_le xs
        omega
      · rw [distinct_concat_of_not_mem hx, List.length_append, List.length_append] at h
        have hnodup := ih (Nat.add_right_cancel h)
        rw [List.nodup_append]
        use hnodup, List.nodup_singleton x
        rintro a ha b hb rfl
        rw [List.mem_singleton] at hb
        apply hx
        rw [← hb]
        apply ha

/-- The items that are kept are the first ones of their kind. -/
theorem distinct_eq_eraseDups (xs : List α) :
  distinct xs = xs.eraseDups
  := by
  induction xs using List.reverseRecOn with
  | nil => rfl
  | append_singleton xs x ih =>
      rw [List.eraseDups_append, ← ih]
      by_cases hx : x ∈ xs
      · rw [distinct_concat_of_mem hx]
        simp [List.removeAll, hx]
      · rw [distinct_concat_of_not_mem hx]
        simp [List.removeAll, hx, List.eraseDups_cons]

/-- Repetitions may be taken away before a function is applied, as well as after it. -/
theorem distinct_map_distinct {β : Type} [BEq β] [LawfulBEq β] (f : α → β) (xs : List α) :
  distinct ((distinct xs).map f) = distinct (xs.map f)
  := by
  rw [List.map_eq_flatMap, List.map_eq_flatMap]
  apply distinct_append_flatMap_distinct (fun x => [f x]) [] xs

/-! ### Items in the order of their names -/

variable {α : Type}

theorem le_eq_true_iff {s t : String} :
  le s t = true ↔ s ≤ t
  := by
  rw [le, Bool.not_eq_true', decide_eq_false_iff_not, not_lt]

theorem listLe_eq_true_iff {ss ts : List String} :
  listLe ss ts = true ↔ ss ≤ ts
  := by
  rw [← not_lt]
  induction ss generalizing ts with
  | nil => simp [listLe]
  | cons s ss ih =>
      cases ts with
      | nil => simp [listLe]
      | cons t ts =>
          rw [listLe, List.cons_lt_cons_iff, Bool.or_eq_true, Bool.and_eq_true, decide_eq_true_eq,
            beq_iff_eq, ih]
          rcases lt_trichotomy s t with hlt | rfl | hgt
          · simp [hlt, hlt.ne', not_lt_of_gt hlt]
          · simp
          · simp [hgt, hgt.ne', not_lt_of_gt hgt]

section

variable {β : Type} [LinearOrder β] (key : α → β) {before : α → α → Bool}
  (hbefore : ∀ x y, before x y = true ↔ key x ≤ key y)

include hbefore

/-- Sorting by keys puts these in order. -/
theorem pairwise_le_mergeSort_of_key (xs : List α) :
  (xs.mergeSort before).Pairwise fun x y => key x ≤ key y
  := by
  have hsorted : (xs.mergeSort before).Pairwise fun x y => before x y = true := by
    apply List.pairwise_mergeSort
    · intro x y z hxy hyz
      rw [hbefore] at hxy hyz ⊢
      apply le_trans hxy hyz
    · intro x y
      rw [Bool.or_eq_true, hbefore, hbefore]
      apply le_total
  apply hsorted.imp
  intro x y hle
  apply (hbefore x y).mp hle

/-- Sorting by different keys puts these in increasing order. -/
theorem pairwise_lt_mergeSort_of_key {xs : List α} (h : (xs.map key).Nodup) :
  (xs.mergeSort before).Pairwise fun x y => key x < key y
  := by
  have hkeys : ((xs.mergeSort before).map key).Nodup :=
    ((List.mergeSort_perm _ _).map key).nodup_iff.mpr h
  rw [List.Nodup, List.pairwise_map] at hkeys
  apply ((pairwise_le_mergeSort_of_key key hbefore xs).and hkeys).imp
  rintro x y ⟨hle, hne⟩
  apply lt_of_le_of_ne hle hne

end

/-- Sorting by names puts these in order. -/
theorem pairwise_le_mergeSort (key : α → String) (xs : List α) :
  (xs.mergeSort fun x y => le (key x) (key y)).Pairwise fun x y => key x ≤ key y
  := pairwise_le_mergeSort_of_key key (fun _ _ => le_eq_true_iff) xs

/-- Sorting by different names puts these in increasing order. -/
theorem pairwise_lt_mergeSort (key : α → String) {xs : List α} (h : (xs.map key).Nodup) :
  (xs.mergeSort fun x y => le (key x) (key y)).Pairwise fun x y => key x < key y
  := pairwise_lt_mergeSort_of_key key (fun _ _ => le_eq_true_iff) h

/-- Items stand in one way only in the increasing order of their names. -/
theorem eq_of_perm_of_pairwise_lt (key : α → String) {xs ys : List α}
    (hxs : xs.Pairwise fun x y => key x < key y) (hys : ys.Pairwise fun x y => key x < key y)
    (hperm : xs.Perm ys) :
  xs = ys
  := by
  apply hperm.eq_of_pairwise _ hxs hys
  intro x y _ _ hxy hyx
  exact absurd hyx (lt_asymm hxy)

end AgentBundles.Text
