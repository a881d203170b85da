import Mathlib.Data.Finset.Card
import Mathlib.Tactic.Common
import AgentBundles.Catalog.Build

/-!
# Covered rules

`dropCovered` keeps a rule exactly if no rule before it, and none after it, covers it.  It drops no
rule without leaving one that says as much: the skills of a dropped rule are among those of a rule
of the same kind that stays.  What is left says the same in fewer rules, none of which says what
another one says, and so nothing more can be dropped.
-/

namespace AgentBundles.Catalog

/-- A rule that covers another is symmetric, of the same kind, and has all its skills; one that
comes later has more. -/
theorem isCoveredBy_eq_true_iff {before : Bool} {r s : Rule} :
  isCoveredBy before r s = true
    ↔ ∃ k xs ys, symmetric? r = some (k, xs) ∧ symmetric? s = some (k, ys) ∧ xs ⊆ ys ∧
      (before = true ∨ ¬ ys ⊆ xs)
  := by
  have hsubset : ∀ xs ys : List String, isSubset xs ys = true ↔ xs ⊆ ys := by
    intro xs ys
    simp [isSubset, List.subset_def]
  rw [isCoveredBy]
  split
  · rename_i k xs l ys hr hs
    rw [Bool.and_eq_true, Bool.and_eq_true, Bool.or_eq_true, beq_iff_eq, hsubset, Bool.not_eq_true',
      ← Bool.not_eq_true, hsubset, hr, hs]
    constructor
    · rintro ⟨⟨rfl, h⟩, h'⟩
      use k, xs, ys
    · rintro ⟨k', xs', ys', hr', hs', h, h'⟩
      cases hr'
      cases hs'
      exact ⟨⟨rfl, h⟩, h'⟩
  · rename_i hnone
    constructor
    · intro h
      cases h
    · rintro ⟨k, xs, ys, hr, hs, -⟩
      cases hnone k xs k ys hr hs

/-- Whether a rule stays between the rules before it and those after it. -/
def Uncovered (before : List Rule) (r : Rule) (after : List Rule) : Prop :=
  (∀ s ∈ before, isCoveredBy true r s = false) ∧ ∀ s ∈ after, isCoveredBy false r s = false

/-- The rules kept after `earlier` are those at the uncovered places. -/
theorem mem_dropCoveredAfter {earlier rules : List Rule} {r : Rule} :
  r ∈ dropCoveredAfter earlier rules
    ↔ ∃ before after, rules = before ++ r :: after ∧ Uncovered (earlier ++ before) r after
  := by
  induction rules generalizing earlier with
  | nil => simp [dropCoveredAfter]
  | cons s rest ih =>
      have hlater : r ∈ dropCoveredAfter (earlier ++ [s]) rest
          ↔ ∃ before after, rest = before ++ r :: after ∧
          Uncovered (earlier ++ s :: before) r after := by
        rw [ih]
        simp
      have hhere : Uncovered earlier s rest
          ↔ (earlier.any (isCoveredBy true s) || rest.any (isCoveredBy false s)) = false := by
        simp [Uncovered]
      rw [dropCoveredAfter]
      constructor
      · intro h
        split at h
        · obtain ⟨before, after, rfl, hr⟩ := hlater.mp h
          exact ⟨s :: before, after, rfl, hr⟩
        · rename_i hkept
          rcases List.mem_cons.mp h with rfl | h
          · use [], rest, rfl
            rw [List.append_nil]
            apply hhere.mpr
            simpa using hkept
          · obtain ⟨before, after, rfl, hr⟩ := hlater.mp h
            exact ⟨s :: before, after, rfl, hr⟩
      · rintro ⟨before, after, heq, hr⟩
        cases before with
        | nil =>
            cases heq
            rw [List.append_nil] at hr
            rw [hhere.mp hr]
            apply List.mem_cons_self
        | cons t before =>
            cases heq
            have hmem := hlater.mpr ⟨before, after, rfl, hr⟩
            split
            · apply hmem
            · apply List.mem_cons_of_mem _ hmem

/-- A rule is kept exactly if it stands at a place where no other rule covers it. -/
theorem mem_dropCovered {rules : List Rule} {r : Rule} :
  r ∈ dropCovered rules ↔ ∃ before after, rules = before ++ r :: after ∧ Uncovered before r after
  := by
  rw [dropCovered, mem_dropCoveredAfter]
  simp

/-- The kept rules are rules of the list. -/
theorem dropCovered_subset (rules : List Rule) :
  dropCovered rules ⊆ rules
  := by
  intro r hr
  obtain ⟨before, after, rfl, -⟩ := mem_dropCovered.mp hr
  apply List.mem_append_right
  apply List.mem_cons_self

/-- Only symmetric rules are covered. -/
theorem isCoveredBy_of_symmetric?_eq_none {r : Rule} (hnone : symmetric? r = none) (before : Bool)
    (s : Rule) :
  isCoveredBy before r s = false
  := by
  rw [← Bool.not_eq_true, isCoveredBy_eq_true_iff]
  rintro ⟨k, xs, ys, hsome, -⟩
  rw [hnone] at hsome
  cases hsome

/-- A rule that is not symmetric is kept. -/
theorem mem_dropCovered_of_symmetric?_eq_none {rules : List Rule} {r : Rule} (hr : r ∈ rules)
    (hnone : symmetric? r = none) :
  r ∈ dropCovered rules
  := by
  obtain ⟨before, after, rfl⟩ := List.append_of_mem hr
  apply mem_dropCovered.mpr
  use before, after, rfl
  constructor
  · intro s _
    apply isCoveredBy_of_symmetric?_eq_none hnone
  · intro s _
    apply isCoveredBy_of_symmetric?_eq_none hnone

/-- The skills of the symmetric rules of a list. -/
def symmetricSkills (rules : List Rule) : Finset String :=
  (rules.flatMap fun r => ((symmetric? r).map (·.2)).getD []).toFinset

theorem subset_symmetricSkills {rules : List Rule} {r : Rule} (hr : r ∈ rules) {k : SymmetricKind}
    {xs : List String} (hxs : symmetric? r = some (k, xs)) :
  xs.toFinset ⊆ symmetricSkills rules
  := by
  intro x hx
  rw [symmetricSkills, List.mem_toFinset, List.mem_flatMap]
  use r, hr
  rw [hxs]
  apply List.mem_toFinset.mp hx

theorem toFinset_subset_of_subset {xs ys : List String} (h : xs ⊆ ys) :
  xs.toFinset ⊆ ys.toFinset
  := by
  intro x hx
  apply List.mem_toFinset.mpr (h (List.mem_toFinset.mp hx))

/-- At every place of a symmetric rule, some rule of the same kind that is kept has all its
skills: what covers a rule that is not kept has more skills, or comes before it. -/
theorem exists_kept_of_append {rules before after : List Rule} {r : Rule}
    (heq : rules = before ++ r :: after) {k : SymmetricKind} {xs : List String}
    (hr : symmetric? r = some (k, xs)) :
  ∃ s ∈ dropCovered rules, ∃ ys, symmetric? s = some (k, ys) ∧ xs ⊆ ys
  := by
  by_cases huncovered : Uncovered before r after
  · use r, mem_dropCovered.mpr ⟨before, after, heq, huncovered⟩, xs, hr
    apply List.Subset.refl
  · have hcover : (∃ s ∈ before, isCoveredBy true r s = true) ∨
        ∃ s ∈ after, isCoveredBy false r s = true := by
      simpa [Uncovered, or_iff_not_imp_left] using huncovered
    rcases hcover with ⟨s, hs, hrs⟩ | ⟨s, hs, hrs⟩
    · obtain ⟨k', xs', ys, hr', hys, hsub, -⟩ := isCoveredBy_eq_true_iff.mp hrs
      cases hr.symm.trans hr'
      obtain ⟨b₁, b₂, hb⟩ := List.append_of_mem hs
      have hcard := Finset.card_le_card (toFinset_subset_of_subset hsub)
      have hlength : b₁.length < before.length := by
        rw [hb]
        simp
      have hrules : rules = b₁ ++ s :: (b₂ ++ r :: after) := by
        simp [heq, hb]
      obtain ⟨t, ht, zs, hzs, hsub'⟩ := exists_kept_of_append hrules hys
      use t, ht, zs, hzs
      apply List.Subset.trans hsub hsub'
    · obtain ⟨k', xs', ys, hr', hys, hsub, hmore⟩ := isCoveredBy_eq_true_iff.mp hrs
      cases hr.symm.trans hr'
      obtain ⟨a₁, a₂, ha⟩ := List.append_of_mem hs
      have hlt : xs.toFinset.card < ys.toFinset.card := by
        apply Finset.card_lt_card
        use toFinset_subset_of_subset hsub
        simpa [Finset.subset_iff, List.subset_def] using hmore
      have hle : ys.toFinset.card ≤ (symmetricSkills rules).card :=
        Finset.card_le_card (subset_symmetricSkills (by simp [heq, ha]) hys)
      have hrules : rules = (before ++ r :: a₁) ++ s :: a₂ := by
        simp [heq, ha]
      obtain ⟨t, ht, zs, hzs, hsub'⟩ := exists_kept_of_append hrules hys
      use t, ht, zs, hzs
      apply List.Subset.trans hsub hsub'
termination_by ((symmetricSkills rules).card - xs.toFinset.card, before.length)
decreasing_by
  · rw [Prod.lex_def]
    simp only
    omega
  · rw [Prod.lex_def]
    simp only
    omega

/-- The skills of a symmetric rule are among those of a rule of the same kind that is kept. -/
theorem exists_kept {rules : List Rule} {r : Rule} (hr : r ∈ rules) {k : SymmetricKind}
    {xs : List String} (hxs : symmetric? r = some (k, xs)) :
  ∃ s ∈ dropCovered rules, ∃ ys, symmetric? s = some (k, ys) ∧ xs ⊆ ys
  := by
  obtain ⟨before, after, heq⟩ := List.append_of_mem hr
  apply exists_kept_of_append heq hxs

/-! ### What is left -/

/-- Two skills stand together in a rule of a kind. -/
def Paired (k : SymmetricKind) (rules : List Rule) (a b : String) : Prop :=
  ∃ r ∈ rules, ∃ skills, symmetric? r = some (k, skills) ∧ a ∈ skills ∧ b ∈ skills

/-- Neither of two rules of one kind has all the skills of the other. -/
def Incomparable (r s : Rule) : Prop :=
  ∀ k xs ys, symmetric? r = some (k, xs) → symmetric? s = some (k, ys) → ¬ xs ⊆ ys ∧ ¬ ys ⊆ xs

/-- Rules of one kind about the same skills. -/
def Equivalent (r s : Rule) : Prop :=
  ∃ k xs ys, symmetric? r = some (k, xs) ∧ symmetric? s = some (k, ys) ∧ xs ⊆ ys ∧ ys ⊆ xs

/-- Rules that say what a list of rules says without saying it twice: they stand in the order of the
list, with all rules that are not symmetric; the same skills stand together, and all skills of a
symmetric rule in one rule; none has all the skills of another one, and each is the first one of the
list about its skills. -/
structure Reduced (rules kept : List Rule) : Prop where
  sublist : kept.Sublist rules
  others : (kept.filter fun r => symmetric? r = none) = rules.filter fun r => symmetric? r = none
  paired_iff : ∀ k a b, Paired k kept a b ↔ Paired k rules a b
  covered : ∀ r ∈ rules, ∀ k xs, symmetric? r = some (k, xs) →
    ∃ s ∈ kept, ∃ ys, symmetric? s = some (k, ys) ∧ xs ⊆ ys
  incomparable : kept.Pairwise Incomparable
  first : ∀ r ∈ kept, ∃ before after, rules = before ++ r :: after ∧ ∀ s ∈ before, ¬ Equivalent s r

theorem dropCoveredAfter_sublist (earlier rules : List Rule) :
  (dropCoveredAfter earlier rules).Sublist rules
  := by
  induction rules generalizing earlier with
  | nil => apply List.Sublist.refl
  | cons r rest ih =>
      rw [dropCoveredAfter]
      split
      · apply (ih _).cons
      · apply (ih _).cons_cons

/-- All rules that are not symmetric are kept, in their order. -/
theorem filter_dropCoveredAfter (earlier rules : List Rule) :
  ((dropCoveredAfter earlier rules).filter fun r => symmetric? r = none)
    = rules.filter fun r => symmetric? r = none
  := by
  induction rules generalizing earlier with
  | nil => rfl
  | cons r rest ih =>
      rw [dropCoveredAfter]
      split
      · rename_i hcovered
        have hsome : ¬ symmetric? r = none := by
          intro hnone
          simp [isCoveredBy_of_symmetric?_eq_none hnone] at hcovered
        rw [ih, List.filter_cons_of_neg (by simpa using hsome)]
      · rw [List.filter_cons, List.filter_cons, ih]

/-- A rule before another one and the other one are incomparable if neither covers the other. -/
theorem incomparable_of_not_covered {r s : Rule} (hsr : isCoveredBy true s r = false)
    (hrs : isCoveredBy false r s = false) :
  Incomparable r s
  := by
  intro k xs ys hr hs
  have hyx : ¬ ys ⊆ xs := by
    intro hsub
    have hcovered : isCoveredBy true s r = true :=
      isCoveredBy_eq_true_iff.mpr ⟨k, ys, xs, hs, hr, hsub, Or.inl rfl⟩
    rw [hsr] at hcovered
    cases hcovered
  refine ⟨?_, hyx⟩
  intro hsub
  have hcovered : isCoveredBy false r s = true :=
    isCoveredBy_eq_true_iff.mpr ⟨k, xs, ys, hr, hs, hsub, Or.inr hyx⟩
  rw [hrs] at hcovered
  cases hcovered

/-- Incomparable rules do not cover each other. -/
theorem Incomparable.not_covered {r s : Rule} (h : Incomparable r s) :
  isCoveredBy true s r = false ∧ isCoveredBy false r s = false
  := by
  rw [← Bool.not_eq_true, ← Bool.not_eq_true, isCoveredBy_eq_true_iff, isCoveredBy_eq_true_iff]
  constructor
  · rintro ⟨k, ys, xs, hs, hr, hsub, -⟩
    exact (h k xs ys hr hs).2 hsub
  · rintro ⟨k, xs, ys, hr, hs, hsub, -⟩
    exact (h k xs ys hr hs).1 hsub

/-- The kept rules are incomparable: a kept rule is covered neither by the rules before it nor by
those after it. -/
theorem pairwise_dropCoveredAfter (earlier rules : List Rule) :
  (dropCoveredAfter earlier rules).Pairwise Incomparable
  := by
  induction rules generalizing earlier with
  | nil => apply List.Pairwise.nil
  | cons r rest ih =>
      rw [dropCoveredAfter]
      split
      · apply ih
      · rename_i hkept
        apply List.Pairwise.cons _ (ih _)
        intro s hs
        obtain ⟨before, after, hrest, hbefore, -⟩ := mem_dropCoveredAfter.mp hs
        apply incomparable_of_not_covered
        · apply hbefore
          simp
        · simp only [Bool.or_eq_true, List.any_eq_true, not_or, not_exists, not_and,
            Bool.not_eq_true] at hkept
          apply hkept.2
          simp [hrest]

/-- Nothing is dropped from incomparable rules. -/
theorem dropCoveredAfter_eq_self (earlier : List Rule) {rules : List Rule}
    (h : (earlier ++ rules).Pairwise Incomparable) :
  dropCoveredAfter earlier rules = rules
  := by
  induction rules generalizing earlier with
  | nil => rfl
  | cons r rest ih =>
      have hrest : dropCoveredAfter (earlier ++ [r]) rest = rest := by
        apply ih
        simpa using h
      obtain ⟨-, htail, hacross⟩ := List.pairwise_append.mp h
      have huncovered : (earlier.any (isCoveredBy true r) || rest.any (isCoveredBy false r))
          = false := by
        rw [Bool.or_eq_false_iff, List.any_eq_false, List.any_eq_false]
        constructor
        · intro s hs
          rw [(hacross s hs r List.mem_cons_self).not_covered.1]
          exact Bool.false_ne_true
        · intro s hs
          rw [((List.pairwise_cons.mp htail).1 s hs).not_covered.2]
          exact Bool.false_ne_true
      rw [dropCoveredAfter, huncovered, hrest]
      rfl

/-- The same skills stand together in the kept rules as in all rules. -/
theorem paired_dropCovered_iff {rules : List Rule} {k : SymmetricKind} {a b : String} :
  Paired k (dropCovered rules) a b ↔ Paired k rules a b
  := by
  constructor
  · rintro ⟨r, hr, hskills⟩
    exact ⟨r, dropCovered_subset rules hr, hskills⟩
  · rintro ⟨r, hr, skills, hskills, ha, hb⟩
    obtain ⟨s, hs, skills', hskills', hsub⟩ := exists_kept hr hskills
    exact ⟨s, hs, skills', hskills', hsub ha, hsub hb⟩

/-- A kept rule is the first one about its skills. -/
theorem first_of_mem_dropCovered {rules : List Rule} {r : Rule} (hr : r ∈ dropCovered rules) :
  ∃ before after, rules = before ++ r :: after ∧ ∀ s ∈ before, ¬ Equivalent s r
  := by
  obtain ⟨before, after, heq, hbefore, -⟩ := mem_dropCovered.mp hr
  refine ⟨before, after, heq, ?_⟩
  rintro s hs ⟨k, ys, xs, hys, hxs, -, hsub⟩
  have hcovered : isCoveredBy true r s = true :=
    isCoveredBy_eq_true_iff.mpr ⟨k, xs, ys, hxs, hys, hsub, Or.inl rfl⟩
  rw [hbefore s hs] at hcovered
  cases hcovered

/-- Dropping covered rules leaves rules that say the same and of which none says what another one
says, and dropping them again changes nothing. -/
theorem reduced_dropCovered (rules : List Rule) :
  Reduced rules (dropCovered rules) ∧ dropCovered (dropCovered rules) = dropCovered rules
  := by
  have hincomparable : (dropCovered rules).Pairwise Incomparable :=
    pairwise_dropCoveredAfter [] rules
  constructor
  · exact {
      sublist := dropCoveredAfter_sublist [] rules
      others := filter_dropCoveredAfter [] rules
      paired_iff := fun _ _ _ => paired_dropCovered_iff
      covered := fun r hr k xs hxs => exists_kept hr hxs
      incomparable := hincomparable
      first := fun r hr => first_of_mem_dropCovered hr }
  · exact dropCoveredAfter_eq_self [] hincomparable

/-- The first of two equal conflicts stays, unless a wider one comes later. -/
example :
    dropCovered [.conflicts ["a", "b"] "first", .discourages ["a", "b"] "",
      .conflicts ["b", "a", "b"] "second"]
      = [.conflicts ["a", "b"] "first", .discourages ["a", "b"] ""] ∧
    dropCovered [.conflicts ["a", "b"] "first", .conflicts ["b", "a"] "",
      .conflicts ["c", "b", "a"] "wider"]
      = [.conflicts ["c", "b", "a"] "wider"] := by decide

end AgentBundles.Catalog
