import Mathlib.Data.List.Chain
import Mathlib.Data.List.Nodup
import Mathlib.Data.List.Perm.Subperm
import Mathlib.Logic.Relation
import Mathlib.Tactic.Common
import AgentBundles.Catalog.Basic

/-!
# Categories above categories

The categories above one are those that its parent and the parents of parents lead to. A chain of
parents may run into a circle, where it stops at the first category that it holds already, so that
it holds them all.
-/

namespace AgentBundles.Catalog

variable {c : Catalog} {category : String} {seen : List String}

/-- The parent of a category. -/
def HasParent (c : Catalog) (category parent : String) : Prop := c.parent? category = some parent

/-- Parents lead from a category to another one, or nowhere. -/
def LeadsUp (c : Catalog) : String → String → Prop := Relation.ReflTransGen c.HasParent

theorem hasParent_iff {parent : String} :
  c.HasParent category parent ↔ ∃ k, c.categories.get? category = some k ∧ k.parent = some parent ∧
    parent ≠ ""
  := by
  rw [HasParent, parent?, Option.filter_eq_some_iff, Option.bind_eq_some_iff, ← exists_and_right]
  simp [and_assoc]

/-- A category with a parent is defined. -/
theorem HasParent.mem_names {parent : String} (h : c.HasParent category parent) :
  category ∈ c.categories.names
  := by
  obtain ⟨k, hk, -⟩ := hasParent_iff.mp h
  obtain ⟨e, he, -⟩ := Option.map_eq_some_iff.mp hk
  have hname : e.1 = category := by simpa using List.find?_some he
  rw [← hname]
  apply List.mem_map_of_mem (List.mem_of_find?_eq_some he)

/-- What is in a list is before its last item or this item. -/
theorem mem_dropLast_or_eq {α : Type} {xs : List α} {last x : α} (hlast : xs.getLast? = some last)
    (hx : x ∈ xs) :
  x ∈ xs.dropLast ∨ x = last
  := by
  obtain ⟨front, rfl⟩ := List.getLast?_eq_some_iff.mp hlast
  rw [List.dropLast_concat]
  simpa using hx

/-- A chain of parents from one category up to another one, each category once. -/
structure Chain (c : Catalog) (bottom top : String) (seen : List String) : Prop where
  head?_eq : seen.head? = some bottom
  getLast?_eq : seen.getLast? = some top
  isChain : seen.IsChain c.HasParent
  nodup : seen.Nodup

namespace Chain

variable {bottom top parent : String}

theorem singleton (c : Catalog) (category : String) :
  Chain c category category [category]
  := ⟨rfl, rfl, .singleton _, List.nodup_singleton _⟩

/-- A chain goes on with the parent of its last category. -/
theorem concat (h : Chain c bottom top seen) (hparent : c.HasParent top parent)
    (hnew : parent ∉ seen) :
  Chain c bottom parent (seen ++ [parent])
  := by
  constructor
  · rw [List.head?_append, h.head?_eq]
    rfl
  · apply List.getLast?_concat
  · rw [List.isChain_append]
    refine ⟨h.isChain, .singleton _, ?_⟩
    intro a ha b hb
    rw [h.getLast?_eq] at ha
    cases ha
    cases hb
    apply hparent
  · rw [List.nodup_append_comm]
    exact List.nodup_cons.mpr ⟨hnew, h.nodup⟩

/-- Every category of a chain but the last one has its parent in the chain. -/
theorem exists_parent (h : Chain c bottom top seen) {k : String} (hk : k ∈ seen.dropLast) :
  ∃ parent ∈ seen, c.HasParent k parent
  := by
  have hchain := h.isChain
  clear h
  induction seen with
  | nil => cases hk
  | cons a rest ih =>
      cases rest with
      | nil => cases hk
      | cons b rest =>
          obtain ⟨hparent, hchain⟩ := List.isChain_cons_cons.mp hchain
          rcases List.mem_cons.mp hk with rfl | hk
          · exact ⟨b, List.mem_cons_of_mem _ List.mem_cons_self, hparent⟩
          · obtain ⟨parent, hmem, hparent⟩ := ih hk hchain
            exact ⟨parent, List.mem_cons_of_mem _ hmem, hparent⟩

/-- There are no more categories in a chain than are defined, and one. -/
theorem length_le (h : Chain c bottom top seen) :
  seen.length ≤ c.categories.length + 1
  := by
  have hdefined : seen.dropLast ⊆ c.categories.names := by
    intro k hk
    obtain ⟨parent, -, hparent⟩ := h.exists_parent hk
    apply hparent.mem_names
  have hlength :=
    (List.subperm_of_subset (h.nodup.sublist (List.dropLast_sublist seen)) hdefined).length_le
  rw [List.length_dropLast, Table.names, List.length_map] at hlength
  omega

/-- What parents lead to from the bottom of a chain is in the chain, or what they lead to from its
top. -/
theorem leadsUp_iff (h : Chain c bottom top seen) {k : String} :
  c.LeadsUp bottom k ↔ k ∈ seen ∨ c.LeadsUp top k
  := by
  induction seen generalizing bottom with
  | nil => cases h.head?_eq
  | cons a rest ih =>
      obtain rfl : a = bottom := by
        have hhead := h.head?_eq
        injection hhead
      cases rest with
      | nil =>
          obtain rfl : a = top := by
            have hlast := h.getLast?_eq
            injection hlast
          rw [List.mem_singleton]
          constructor
          · exact Or.inr
          · rintro (rfl | hup)
            · apply Relation.ReflTransGen.refl
            · apply hup
      | cons b rest =>
          obtain ⟨hparent, hchain⟩ := List.isChain_cons_cons.mp h.isChain
          have hrest : Chain c b top (b :: rest) :=
            ⟨rfl, h.getLast?_eq, hchain, (List.nodup_cons.mp h.nodup).2⟩
          have hstep : c.LeadsUp a k ↔ k = a ∨ c.LeadsUp b k := by
            rw [LeadsUp, Relation.ReflTransGen.cases_head_iff, eq_comm]
            apply or_congr_right
            constructor
            · rintro ⟨b', hb', hup⟩
              obtain rfl : b' = b := Option.some.inj (hb'.symm.trans hparent)
              apply hup
            · intro hup
              exact ⟨b, hparent, hup⟩
          rw [hstep, ih hrest, List.mem_cons (b := a), or_assoc]

/-- From a top whose parent is in the chain, parents lead to categories of the chain only. -/
theorem mem_of_leadsUp_top (h : Chain c bottom top seen)
    (hparent : ∀ parent, c.HasParent top parent → parent ∈ seen) {k : String}
    (hup : c.LeadsUp top k) :
  k ∈ seen
  := by
  induction hup with
  | refl => apply List.mem_of_getLast? h.getLast?_eq
  | @tail a b _ hb ih =>
      rcases mem_dropLast_or_eq h.getLast?_eq ih with hmem | rfl
      · obtain ⟨b', hb', hparent'⟩ := h.exists_parent hmem
        obtain rfl : b' = b := Option.some.inj (hparent'.symm.trans hb)
        apply hb'
      · apply hparent b hb

end Chain

/-! ### Climbing -/

/-- A step up adds the parent of the last category to a chain, if the chain does not hold it yet. -/
inductive Climbs (c : Catalog) : List String → List String → Prop
  | up {seen : List String} {top parent : String} : seen.getLast? = some top →
      c.HasParent top parent → parent ∉ seen → Climbs c seen (seen ++ [parent])

/-- There is one way up at most. -/
theorem Climbs.unique {next next' : List String} (h : c.Climbs seen next)
    (h' : c.Climbs seen next') :
  next = next'
  := by
  obtain ⟨htop, hparent, -⟩ := h
  obtain ⟨htop', hparent', -⟩ := h'
  obtain rfl := Option.some.inj (htop.symm.trans htop')
  obtain rfl := Option.some.inj (hparent.symm.trans hparent')
  rfl

/-- A step up makes a longer chain of a chain. -/
theorem Chain.climbs {bottom top : String} {next : List String} (h : Chain c bottom top seen)
    (hstep : c.Climbs seen next) :
  ∃ top', Chain c bottom top' next
  := by
  obtain ⟨htop, hparent, hnew⟩ := hstep
  obtain rfl := Option.some.inj (h.getLast?_eq.symm.trans htop)
  exact ⟨_, h.concat hparent hnew⟩

/-- Steps up make a chain of a category. -/
theorem exists_chain (h : Relation.ReflTransGen c.Climbs [category] seen) :
  ∃ top, Chain c category top seen
  := by
  induction h with
  | refl => exact ⟨category, Chain.singleton c category⟩
  | tail _ hstep ih =>
      obtain ⟨top, htop⟩ := ih
      apply htop.climbs hstep

/-- Parents lead to the categories of a chain from which there is no way up, and to no others. -/
theorem Chain.mem_iff_leadsUp {bottom top : String} (h : Chain c bottom top seen)
    (hend : ∀ next, ¬ c.Climbs seen next) {k : String} :
  k ∈ seen ↔ c.LeadsUp bottom k
  := by
  rw [h.leadsUp_iff]
  refine (or_iff_left_of_imp (h.mem_of_leadsUp_top ?_)).symm
  intro parent hparent
  by_contra hnew
  exact hend _ (.up h.getLast?_eq hparent hnew)

/-- The categories above one are found step by step, until there is no way up. -/
theorem climbs_ancestors {bottom : String} {fuel : Nat} (h : Chain c bottom category seen)
    (hfuel : c.categories.length + 2 ≤ fuel + seen.length) :
  Relation.ReflTransGen c.Climbs seen (c.ancestors seen category fuel) ∧
    ∀ next, ¬ c.Climbs (c.ancestors seen category fuel) next
  := by
  induction fuel generalizing seen category with
  | zero =>
      have hlength := h.length_le
      omega
  | succ fuel ih =>
      have hstop : (∀ parent, c.HasParent category parent → parent ∈ seen) →
          ∀ next, ¬ c.Climbs seen next := by
        rintro hparent _ ⟨htop, hup, hnew⟩
        obtain rfl := Option.some.inj (h.getLast?_eq.symm.trans htop)
        exact hnew (hparent _ hup)
      rw [ancestors]
      split
      · rename_i parent hparent
        split
        · rename_i hseen
          refine ⟨Relation.ReflTransGen.refl, hstop ?_⟩
          intro parent' hparent'
          obtain rfl : parent' = parent := Option.some.inj (hparent'.symm.trans hparent)
          apply List.contains_iff_mem.mp hseen
        · rename_i hseen
          have hnew : parent ∉ seen := mt List.contains_iff_mem.mpr hseen
          obtain ⟨hclimbs, hend⟩ :=
            ih (h.concat hparent hnew) (by rw [List.length_append, List.length_singleton]; omega)
          exact ⟨Relation.ReflTransGen.head (.up h.getLast?_eq hparent hnew) hclimbs, hend⟩
      · rename_i hnone
        refine ⟨Relation.ReflTransGen.refl, hstop ?_⟩
        intro parent hparent
        cases hnone.symm.trans hparent

theorem climbs_lineage (c : Catalog) (category : String) :
  Relation.ReflTransGen c.Climbs [category] (c.lineage category) ∧
    ∀ next, ¬ c.Climbs (c.lineage category) next
  := climbs_ancestors (Chain.singleton c category) (by simp)

/-- The lineage of a category is what parents lead to from it. -/
theorem mem_lineage_iff {k : String} :
  k ∈ c.lineage category ↔ c.LeadsUp category k
  := by
  obtain ⟨hclimbs, hend⟩ := climbs_lineage c category
  obtain ⟨top, hchain⟩ := exists_chain hclimbs
  apply hchain.mem_iff_leadsUp hend

end AgentBundles.Catalog
