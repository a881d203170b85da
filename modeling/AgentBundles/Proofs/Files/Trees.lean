import Mathlib.Data.List.Induction
import Mathlib.Data.List.Nodup
import AgentBundles.Proofs.Files.Paths
import AgentBundles.Proofs.Text.Distinct

/-!
# Sound file trees

A sound tree has one entry for a place, names that files can have, and a directory above everything.
What is at a place after something was put into a tree or taken out of it, and what lies below a
place.
-/

namespace AgentBundles.Tree

variable {t : Tree}

/-! ### Changes -/

theorem get?_of_ne_nil {place : Place} (h : place ≠ []) :
  t.get? place = (t.entries.find? fun e => e.1 == place).map (·.2)
  := by
  cases place with
  | nil => exact absurd rfl h
  | cons n place => rfl

theorem find?_insertEntry_self (place : Place) (node : Node) (es : List (Place × Node)) :
  (insertEntry place node es).find? (fun e => e.1 == place) = some (place, node)
  := by
  induction es with
  | nil => simp [insertEntry]
  | cons e es ih =>
      rw [insertEntry]
      split
      · simp
      · rename_i hne
        rw [List.find?_cons, Bool.eq_false_iff.mpr hne]
        apply ih

theorem find?_insertEntry_of_ne {place q : Place} (h : q ≠ place) (node : Node)
    (es : List (Place × Node)) :
  (insertEntry place node es).find? (fun e => e.1 == q) = es.find? fun e => e.1 == q
  := by
  have hplace : (place == q) = false := beq_eq_false_iff_ne.mpr (Ne.symm h)
  induction es with
  | nil => simp [insertEntry, hplace]
  | cons e es ih =>
      rw [insertEntry]
      split
      · rename_i heq
        rw [List.find?_cons, List.find?_cons, eq_of_beq heq, hplace]
      · rw [List.find?_cons, List.find?_cons, ih]

theorem get?_insert_self {place : Place} (h : place ≠ []) (node : Node) :
  (t.insert place node).get? place = some node
  := by
  rw [get?_of_ne_nil h, insert, find?_insertEntry_self]
  rfl

theorem get?_insert_of_ne {place q : Place} (h : q ≠ place) (node : Node) :
  (t.insert place node).get? q = t.get? q
  := by
  by_cases hq : q = []
  · rw [hq]
    rfl
  · rw [get?_of_ne_nil hq, get?_of_ne_nil hq, insert, find?_insertEntry_of_ne h]

/-- A place and what is below it are gone once they are erased. -/
theorem get?_erase_below {place q : Place} (hq : q ≠ []) (h : place <+: q) :
  (t.erase place).get? q = none
  := by
  rw [get?_of_ne_nil hq, Option.map_eq_none_iff, List.find?_eq_none]
  rintro e he heq
  rw [erase, List.mem_filter, Option.isNone_iff_eq_none, relative?_eq_none_iff, eq_of_beq heq] at he
  exact he.2 h

/-- What is not below an erased place stays. -/
theorem get?_erase_elsewhere {place q : Place} (h : ¬ place <+: q) :
  (t.erase place).get? q = t.get? q
  := by
  by_cases hq : q = []
  · rw [hq]
    rfl
  · rw [get?_of_ne_nil hq, get?_of_ne_nil hq, erase, List.find?_filter]
    congr 2
    funext e
    by_cases heq : e.1 = q
    · simp [heq, relative?_eq_none_iff.mpr h]
    · simp [heq]

/-- Erasing puts nothing into a tree. -/
theorem get?_of_get?_erase {place q : Place} {node : Node}
    (h : (t.erase place).get? q = some node) :
  t.get? q = some node
  := by
  by_cases hq : q = []
  · rw [hq] at h ⊢
    apply h
  · by_cases hbelow : place <+: q
    · rw [get?_erase_below hq hbelow] at h
      cases h
    · rw [get?_erase_elsewhere hbelow] at h
      apply h

/-! ### Sound trees -/

/-- Trees with one entry for a place, names that files can have, and a directory above
everything. -/
structure Sound (t : Tree) : Prop where
  nodup : (t.entries.map (·.1)).Nodup
  isName : ∀ e ∈ t.entries, ∀ n ∈ e.1, IsName n
  ne_nil : ∀ e ∈ t.entries, e.1 ≠ []
  parent : ∀ {place : Place} {name : String} {node : Node}, t.get? (place ++ [name]) = some node →
    t.get? place = some .directory

/-- An entry is found under its place. -/
theorem mem_entries_of_get? {place : Place} {node : Node} (hne : place ≠ [])
    (h : t.get? place = some node) :
  (place, node) ∈ t.entries
  := by
  rw [get?_of_ne_nil hne, Option.map_eq_some_iff] at h
  obtain ⟨e, he, rfl⟩ := h
  have heq : e.1 = place :=
    eq_of_beq (List.find?_some (p := fun e : Place × Node => e.1 == place) he)
  rw [← heq]
  apply List.mem_of_find?_eq_some he

theorem insertEntry_eq_append {place : Place} {node : Node} {es : List (Place × Node)}
    (h : place ∉ es.map (·.1)) :
  insertEntry place node es = es ++ [(place, node)]
  := by
  induction es with
  | nil => rfl
  | cons e es ih =>
      rw [List.map_cons, List.mem_cons, not_or] at h
      rw [insertEntry, beq_eq_false_iff_ne.mpr (Ne.symm h.1), if_neg Bool.false_ne_true, ih h.2,
        List.cons_append]

theorem map_fst_insertEntry {place : Place} {node : Node} {es : List (Place × Node)}
    (h : place ∈ es.map (·.1)) :
  (insertEntry place node es).map (·.1) = es.map (·.1)
  := by
  induction es with
  | nil => cases h
  | cons e es ih =>
      rw [insertEntry]
      split
      · rename_i heq
        rw [List.map_cons, List.map_cons, eq_of_beq heq]
      · rename_i hne
        rcases List.mem_cons.mp h with heq | hmem
        · exact absurd (beq_iff_eq.mpr heq.symm) hne
        · rw [List.map_cons, List.map_cons, ih hmem]

/-- The places of a tree into which something was put are those of the tree, and the one where it
was put. -/
theorem mem_places_insert {place q : Place} {node : Node} :
  q ∈ (t.insert place node).entries.map (·.1) ↔ q = place ∨ q ∈ t.entries.map (·.1)
  := by
  by_cases h : place ∈ t.entries.map (·.1)
  · rw [insert, map_fst_insertEntry h]
    constructor
    · exact Or.inr
    · rintro (rfl | hmem)
      · apply h
      · apply hmem
  · rw [insert, insertEntry_eq_append h, List.map_append, List.mem_append, or_comm]
    simp

namespace Sound

variable (h : t.Sound)

include h

theorem get?_eq_some_iff {place : Place} {node : Node} (hne : place ≠ []) :
  t.get? place = some node ↔ (place, node) ∈ t.entries
  := by
  constructor
  · apply mem_entries_of_get? hne
  · intro hmem
    have hsome : (t.get? place).isSome = true := by
      rw [get?_of_ne_nil hne, Option.isSome_map, List.find?_isSome]
      exact ⟨_, hmem, BEq.rfl⟩
    obtain ⟨node', hnode'⟩ := Option.isSome_iff_exists.mp hsome
    have heq := List.inj_on_of_nodup_map h.nodup (mem_entries_of_get? hne hnode') hmem rfl
    rw [hnode', (Prod.mk.inj heq).2]

theorem isName_of_get? {place : Place} {node : Node} (hnode : t.get? place = some node) :
  ∀ n ∈ place, IsName n
  := by
  intro n hn
  have hne : place ≠ [] := List.ne_nil_of_mem hn
  apply h.isName _ (mem_entries_of_get? hne hnode) n hn

/-- Above everything is a directory. -/
theorem directory_of_get? {place rest : Place} {node : Node} (hne : rest ≠ [])
    (hnode : t.get? (place ++ rest) = some node) :
  t.get? place = some .directory
  := by
  induction rest using List.reverseRecOn generalizing node with
  | nil => exact absurd rfl hne
  | append_singleton rest n ih =>
      rw [← List.append_assoc] at hnode
      have hparent := h.parent hnode
      by_cases hrest : rest = []
      · rw [hrest, List.append_nil] at hparent
        apply hparent
      · apply ih hrest hparent

theorem directory_of_prefix {place above : Place} (hplace : t.get? place = some .directory)
    (habove : above <+: place) :
  t.get? above = some .directory
  := by
  obtain ⟨rest, rfl⟩ := habove
  by_cases hrest : rest = []
  · rw [hrest, List.append_nil] at hplace
    apply hplace
  · apply h.directory_of_get? hrest hplace

/-- Something may be put into a directory; a directory stays one. -/
theorem insert {place : Place} {name : String} {node : Node}
    (hplace : t.get? place = some .directory) (hname : IsName name)
    (hnode : node = .directory ∨ t.get? (place ++ [name]) ≠ some .directory) :
  (t.insert (place ++ [name]) node).Sound
  := by
  have hne : place ++ [name] ≠ [] := List.append_ne_nil_of_right_ne_nil _ (List.cons_ne_nil _ _)
  have hself : place ≠ place ++ [name] := by simp
  constructor
  · by_cases hmem : place ++ [name] ∈ t.entries.map (·.1)
    · rw [Tree.insert, map_fst_insertEntry hmem]
      apply h.nodup
    · rw [Tree.insert, insertEntry_eq_append hmem, List.map_append, List.nodup_append_comm]
      exact List.nodup_cons.mpr ⟨hmem, h.nodup⟩
  · intro e he n hn
    rcases mem_places_insert.mp (List.mem_map_of_mem he) with heq | hmem
    · rw [heq] at hn
      rcases List.mem_append.mp hn with hn | hn
      · apply h.isName_of_get? hplace n hn
      · rw [List.mem_singleton.mp hn]
        apply hname
    · obtain ⟨e', he', heq⟩ := List.mem_map.mp hmem
      rw [← heq] at hn
      apply h.isName e' he' n hn
  · intro e he
    rcases mem_places_insert.mp (List.mem_map_of_mem he) with heq | hmem
    · rw [heq]
      apply hne
    · obtain ⟨e', he', heq⟩ := List.mem_map.mp hmem
      rw [← heq]
      apply h.ne_nil e' he'
  · intro q m node' hq
    by_cases heq : q ++ [m] = place ++ [name]
    · obtain ⟨rfl, -⟩ := List.append_inj' heq rfl
      rw [get?_insert_of_ne hself]
      apply hplace
    · rw [get?_insert_of_ne heq] at hq
      have hdirectory := h.parent hq
      by_cases hqplace : q = place ++ [name]
      · rw [hqplace] at hdirectory ⊢
        rw [get?_insert_self hne]
        rcases hnode with rfl | hnode
        · rfl
        · exact absurd hdirectory hnode
      · rw [get?_insert_of_ne hqplace]
        apply hdirectory

theorem erase (place : Place) :
  (t.erase place).Sound
  := by
  have hsublist : (t.erase place).entries.Sublist t.entries := List.filter_sublist
  constructor
  · apply (hsublist.map _).nodup h.nodup
  · intro e he
    apply h.isName e (hsublist.subset he)
  · intro e he
    apply h.ne_nil e (hsublist.subset he)
  · intro q m node hq
    have hout : ¬ place <+: q ++ [m] := by
      intro hbelow
      rw [get?_erase_below (List.append_ne_nil_of_right_ne_nil _ (List.cons_ne_nil _ _)) hbelow]
        at hq
      cases hq
    rw [get?_erase_elsewhere hout] at hq
    rw [get?_erase_elsewhere fun hbelow => hout (hbelow.trans (List.prefix_append _ _))]
    apply h.parent hq

/-! ### What is below a place -/

theorem mem_below_iff {place rest : Place} {node : Node} :
  (rest, node) ∈ t.below place ↔ rest ≠ [] ∧ t.get? (place ++ rest) = some node
  := by
  rw [below, List.mem_mergeSort, List.mem_filterMap]
  constructor
  · rintro ⟨e, he, heq⟩
    split at heq
    · rename_i n names hrelative
      cases heq
      have hplace := relative?_eq_some_iff.mp hrelative
      refine ⟨List.cons_ne_nil _ _, ?_⟩
      rw [← hplace, h.get?_eq_some_iff (h.ne_nil e he)]
      apply he
    · cases heq
  · rintro ⟨hrest, hnode⟩
    obtain ⟨n, names, rfl⟩ := List.exists_cons_of_ne_nil hrest
    have hne : place ++ n :: names ≠ [] := List.append_ne_nil_of_right_ne_nil _ hrest
    refine ⟨_, mem_entries_of_get? hne hnode, ?_⟩
    simp only [relative?_append]

theorem nodup_below (place : Place) :
  ((t.below place).map (·.1)).Nodup
  := by
  rw [below, ((List.mergeSort_perm _ _).map _).nodup_iff, List.map_filterMap, List.Nodup,
    List.pairwise_filterMap]
  have hnodup := h.nodup
  rw [List.Nodup, List.pairwise_map] at hnodup
  apply hnodup.imp
  intro e e' hne rest hrest rest' hrest' heq
  subst heq
  obtain ⟨f, hf, rfl⟩ := Option.map_eq_some_iff.mp hrest
  obtain ⟨f', hf', hsame⟩ := Option.map_eq_some_iff.mp hrest'
  apply hne
  split at hf
  · rename_i hrelative
    cases hf
    split at hf'
    · rename_i hrelative'
      cases hf'
      -- both places are `place` with the same names below it
      rw [relative?_eq_some_iff.mp hrelative, relative?_eq_some_iff.mp hrelative']
      apply congrArg (place ++ ·) hsame.symm
    · cases hf'
  · cases hf

/-- What is below a place stands in the order of the places there. -/
theorem pairwise_lt_below (place : Place) :
  (t.below place).Pairwise fun e f => e.1 < f.1
  := by
  have hnodup := h.nodup_below place
  rw [below, ((List.mergeSort_perm _ _).map _).nodup_iff] at hnodup
  apply Text.pairwise_lt_mergeSort_of_key Prod.fst (fun _ _ => Text.listLe_eq_true_iff) hnodup

end Sound

/-- A tree is sound if there is a directory right above each of its entries. -/
theorem sound_iff {t : Tree} :
  t.Sound ↔ (t.entries.map (·.1)).Nodup ∧ (∀ e ∈ t.entries, ∀ n ∈ e.1, IsName n) ∧
    (∀ e ∈ t.entries, e.1 ≠ []) ∧ ∀ e ∈ t.entries, t.get? e.1.dropLast = some .directory
  := by
  constructor
  · intro h
    refine ⟨h.nodup, h.isName, h.ne_nil, ?_⟩
    intro e he
    have hnode := (h.get?_eq_some_iff (h.ne_nil e he)).mpr he
    rw [← List.dropLast_append_getLast (h.ne_nil e he)] at hnode
    apply h.parent hnode
  · rintro ⟨hnodup, hname, hne, hparent⟩
    constructor
    · apply hnodup
    · apply hname
    · apply hne
    · intro place name node hnode
      have hdirectory := hparent _ (mem_entries_of_get? (List.concat_ne_nil name place) hnode)
      rw [List.dropLast_concat] at hdirectory
      apply hdirectory

instance (t : Tree) : Decidable t.Sound := decidable_of_iff _ sound_iff.symm

end AgentBundles.Tree
