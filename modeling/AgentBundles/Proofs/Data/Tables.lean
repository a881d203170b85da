import Mathlib.Data.List.Induction
import Mathlib.Data.List.Nodup
import Mathlib.Tactic.Common
import AgentBundles.Data.Table

/-!
# Tables

What stands under a name of a table: after pairs were written one by one the last one of the name,
and after values were added to lists all of them.
-/

namespace AgentBundles.Table

variable {α : Type}

/-! ### Names that occur once -/

/-- The value under a name that occurs once. -/
theorem get?_of_mem {t : Table α} (hnodup : t.names.Nodup) {name : String} {value : α}
    (h : (name, value) ∈ t) :
  t.get? name = some value
  := by
  induction t with
  | nil => cases h
  | cons e t ih =>
      obtain ⟨hne, hnodup⟩ := List.nodup_cons.mp hnodup
      rcases List.mem_cons.mp h with rfl | h
      · simp [get?]
      · have hfalse : (e.1 == name) = false := by
          rw [beq_eq_false_iff_ne]
          intro heq
          have hmem : name ∈ t.map (·.1) := List.mem_map_of_mem h
          rw [← heq] at hmem
          exact hne hmem
        rw [get?, List.find?_cons, hfalse]
        apply ih hnodup h

theorem has_iff {t : Table α} {name : String} :
  t.has name = true ↔ name ∈ t.names
  := by
  simp [has, names]

/-- A new name is put at the end. -/
theorem insert_of_not_mem {t : Table α} {name : String} {value : α} (h : name ∉ t.names) :
  insert name value t = t ++ [(name, value)]
  := by
  induction t with
  | nil => rfl
  | cons e t ih =>
      rw [names, List.map_cons, List.mem_cons, not_or] at h
      rw [insert, beq_eq_false_iff_ne.mpr (Ne.symm h.1), if_neg Bool.false_ne_true, ih h.2,
        List.cons_append]

theorem mem_of_get? {t : Table α} {name : String} {value : α} (h : t.get? name = some value) :
  (name, value) ∈ t
  := by
  rw [get?, Option.map_eq_some_iff] at h
  obtain ⟨e, he, rfl⟩ := h
  have hname : e.1 = name := by simpa using List.find?_some he
  rw [← hname]
  apply List.mem_of_find?_eq_some he

/-- Pairs with different names are a table. -/
theorem ofList_of_nodup {pairs : Table α} (h : pairs.names.Nodup) :
  ofList pairs = pairs
  := by
  have hfoldl : ∀ {pairs t : Table α}, (t.names ++ pairs.names).Nodup →
      pairs.foldl (fun t p => insert p.1 p.2 t) t = t ++ pairs := by
    intro pairs
    induction pairs with
    | nil =>
        intro t _
        rw [List.foldl_nil, List.append_nil]
    | cons p pairs ih =>
        intro t hnodup
        have hnew : p.1 ∉ t.names := by
          intro hmem
          exact (List.nodup_append.mp hnodup).2.2 p.1 hmem p.1 List.mem_cons_self rfl
        rw [List.foldl_cons, insert_of_not_mem hnew, ih]
        · rw [List.append_assoc]
          rfl
        · rw [names, List.map_append, List.append_assoc]
          apply hnodup
  exact hfoldl (t := []) h

/-! ### Tables written pair by pair -/

theorem get?_cons (e : String × α) (t : Table α) (name : String) :
  get? (e :: t) name = if e.1 = name then some e.2 else t.get? name
  := by
  rw [get?, List.find?_cons]
  by_cases h : e.1 = name
  · rw [h, beq_self_eq_true, if_pos rfl]
    rfl
  · rw [beq_false_of_ne h, if_neg h]
    rfl

theorem get?_append (t u : Table α) (name : String) :
  get? (t ++ u) name = (t.get? name).or (u.get? name)
  := by
  rw [get?, get?, get?, List.find?_append]
  cases t.find? fun e => e.1 == name with
  | none => rfl
  | some e => rfl

theorem get?_insert (t : Table α) (name : String) (value : α) (other : String) :
  (insert name value t).get? other = if name = other then some value else t.get? other
  := by
  induction t with
  | nil => rw [insert, get?_cons]
  | cons e t ih =>
      rw [insert]
      split
      · rename_i heq
        rw [beq_iff_eq] at heq
        rw [get?_cons, get?_cons, heq]
        split
        · rfl
        · rfl
      · rename_i hne
        rw [beq_iff_eq] at hne
        rw [get?_cons, ih, get?_cons]
        by_cases hother : e.1 = other
        · subst hother
          rw [if_pos rfl, if_pos rfl, if_neg fun h => hne h.symm]
        · rw [if_neg hother, if_neg hother]

/-- Of the pairs with one name the last counts. -/
theorem get?_ofList (pairs : List (String × α)) (name : String) :
  (ofList pairs).get? name = get? pairs.reverse name
  := by
  induction pairs using List.reverseRecOn with
  | nil => rfl
  | append_singleton pairs e ih =>
      have hinsert : ofList (pairs ++ [e]) = insert e.1 e.2 (ofList pairs) := by
        rw [ofList, List.foldl_append]
        rfl
      rw [hinsert, get?_insert, ih, List.reverse_append, List.reverse_singleton,
        List.singleton_append, get?_cons]

theorem has_eq_isSome (t : Table α) (name : String) :
  t.has name = (t.get? name).isSome
  := by
  rw [has, get?, Option.isSome_map, List.isSome_find?]

/-- A table of the values of a function holds them under the names. -/
theorem get?_map (f : String → α) (names : List String) (name : String) :
  get? (names.map fun n => (n, f n)) name = if name ∈ names then some (f name) else none
  := by
  induction names with
  | nil => rfl
  | cons n names ih =>
      rw [List.map_cons, get?_cons, ih]
      by_cases h : n = name
      · simp [h]
      · have h' : ¬ name = n := fun heq => h heq.symm
        simp [h, h']

/-- A pair of a table stands there from before, or is the one that was written. -/
theorem mem_insert {t : Table α} {name : String} {value : α} {e : String × α}
    (h : e ∈ t.insert name value) :
  e = (name, value) ∨ e ∈ t
  := by
  induction t with
  | nil => exact Or.inl (List.mem_singleton.mp h)
  | cons d t ih =>
      rw [insert] at h
      split at h
      · rcases List.mem_cons.mp h with rfl | h
        · exact Or.inl rfl
        · exact Or.inr (List.mem_cons_of_mem d h)
      · rcases List.mem_cons.mp h with rfl | h
        · exact Or.inr List.mem_cons_self
        · exact (ih h).imp_right (List.mem_cons_of_mem d)

/-- The pairs of a table are among those that were written. -/
theorem ofList_subset (pairs : List (String × α)) :
  ofList pairs ⊆ pairs
  := by
  induction pairs using List.reverseRecOn with
  | nil => apply List.Subset.refl
  | append_singleton pairs p ih =>
      intro e he
      rw [ofList, List.foldl_append] at he
      rcases mem_insert he with rfl | he
      · apply List.mem_append_right
        apply List.mem_singleton_self
      · apply List.mem_append_left
        apply ih he

/-- A value is added under one name only. -/
theorem getD_get?_push (t : Table (List α)) (name : String) (value : α) (other : String) :
  ((t.push name value).get? other).getD []
    = (t.get? other).getD [] ++ if name = other then [value] else []
  := by
  rw [push, get?_insert]
  by_cases h : name = other
  · simp [h]
  · simp [h]

end AgentBundles.Table
