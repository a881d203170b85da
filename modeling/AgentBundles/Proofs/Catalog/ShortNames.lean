import AgentBundles.Proofs.Compile.Bundle
import AgentBundles.Proofs.Selection.Suggestions

/-!
# Looking up short names

A catalog finds the same skill and the same rules under a short name as under the identifier that it
stands for. The lookups that leave out the skill that is asked for leave out the text that they are
asked with: under a short name, a skill is an alternative to itself and conflicts with itself, as
soon as it is in a group of alternatives or in a conflict at all.
-/

namespace AgentBundles

/-- The skills of a group of alternatives. -/
def Rule.grouped : Rule → List String
  | .alternatives _ skills => skills
  | _ => []

namespace Catalog

variable {c : Catalog}

/-- A skill is in a group of alternatives. -/
def HasAlternatives (c : Catalog) (x : String) : Prop :=
  ∃ purpose skills, .alternatives purpose skills ∈ c.rules ∧ x ∈ skills

/-- A skill is in a conflict. -/
def HasConflicts (c : Catalog) (x : String) : Prop :=
  ∃ skills reason, .conflicts skills reason ∈ c.rules ∧ x ∈ skills

/-! ### Alternatives -/

/-- Going through rules, the skills of groups are added, each once and without the one that is asked
for. -/
theorem foldl_addAlternatives (name : String) (rules : List Rule) (found : List String) :
  rules.foldl (addAlternatives name) found
    = ((rules.flatMap Rule.grouped).filter (· != name)).foldl
        (fun found s => if found.contains s then found else found ++ [s]) found
  := by
  induction rules generalizing found with
  | nil => rfl
  | cons r rules ih =>
      have hrule : addAlternatives name found r
          = (r.grouped.filter (· != name)).foldl (fun found s => if found.contains s then found
            else found ++ [s]) found := by
        rw [List.foldl_filter]
        cases r with
        | alternatives purpose skills =>
            rw [addAlternatives, Rule.grouped]
            congr 1
            funext found s
            by_cases hs : s = name
            · simp [hs]
            · simp [hs]
        | _ => rfl
      rw [List.foldl_cons, ih, hrule, List.flatMap_cons, List.filter_append, List.foldl_append]

/-- The alternatives under a name are the skills that are grouped with what the name stands for,
each once and without the name. -/
theorem alternativesFor_eq (name : String) :
  c.alternativesFor name
    = Text.distinct
      (((c.rules.filter (·.mentions (c.resolve name))).flatMap Rule.grouped).filter (· != name))
  := by
  rw [alternativesFor, rulesFor_eq_filter, foldl_addAlternatives]
  rfl

theorem mem_alternativesFor_iff {name y : String} :
  y ∈ c.alternativesFor name
    ↔ y ≠ name ∧ ∃ purpose skills, .alternatives purpose skills ∈ c.rules ∧
    c.resolve name ∈ skills ∧ y ∈ skills
  := by
  rw [alternativesFor_eq, Text.mem_distinct, List.mem_filter, bne_iff_ne, and_comm]
  apply and_congr_right
  intro _
  simp only [List.mem_flatMap, List.mem_filter]
  constructor
  · rintro ⟨r, ⟨hr, hmentions⟩, hy⟩
    cases r with
    | alternatives purpose skills =>
        exact ⟨purpose, skills, hr, List.contains_iff_mem.mp hmentions, hy⟩
    | _ => cases hy
  · rintro ⟨purpose, skills, hr, hname, hy⟩
    exact ⟨_, ⟨hr, List.contains_iff_mem.mpr hname⟩, hy⟩

/-- Without groups there are no alternatives. -/
theorem alternativesFor_eq_nil {name : String} (h : ¬ c.HasAlternatives (c.resolve name)) :
  c.alternativesFor name = []
  := by
  rw [List.eq_nil_iff_forall_not_mem]
  intro y hy
  obtain ⟨-, purpose, skills, hr, hname, -⟩ := mem_alternativesFor_iff.mp hy
  exact h ⟨purpose, skills, hr, hname⟩

section

variable {a x : String}

/-- Under a short name, a skill is an alternative to itself as soon as it has any. -/
theorem mem_alternativesFor_shortName_iff (ha : c.resolve a = x) :
  x ∈ c.alternativesFor a ↔ a ≠ x ∧ c.HasAlternatives x
  := by
  rw [mem_alternativesFor_iff, ha, ne_comm]
  simp only [HasAlternatives, and_self]

variable (ha : c.resolve a = x) (hx : c.resolve x = x)

include ha hx

/-- But for the two names, the alternatives under them are the same and in the same order. -/
theorem filter_alternativesFor_shortName :
  (c.alternativesFor a).filter (· != x) = (c.alternativesFor x).filter (· != a)
  := by
  rw [alternativesFor_eq, alternativesFor_eq, ha, hx, Text.filter_distinct, Text.filter_distinct,
    List.filter_filter, List.filter_filter]
  congr 2
  funext y
  apply Bool.and_comm

theorem alternativesFor_shortName_iff :
  c.alternativesFor a = c.alternativesFor x ↔ a = x ∨ ¬ c.HasAlternatives x
  := by
  constructor
  · intro heq
    by_contra hnot
    rw [not_or, not_not] at hnot
    have hmem : x ∈ c.alternativesFor a := (mem_alternativesFor_shortName_iff ha).mpr hnot
    rw [heq] at hmem
    exact (mem_alternativesFor_iff.mp hmem).1 rfl
  · rintro (rfl | hnone)
    · rfl
    · rw [alternativesFor_eq_nil (by rwa [ha]), alternativesFor_eq_nil (by rwa [hx])]

/-! ### Conflicts -/

/-- Beside skills that stand for themselves, the name of a skill conflicts with whatever the skill
conflicts with, and a short name with the skill itself too, as soon as it is in a conflict. -/
theorem conflictsWithAny_shortName_iff {selected : List String}
    (hselected : ∀ s ∈ selected, c.resolve s = s) :
  c.conflictsWithAny a selected = true
    ↔ c.conflictsWithAny x selected = true ∨ a ≠ x ∧ x ∈ selected ∧ c.HasConflicts x
  := by
  rw [conflictsWithAny_iff, conflictsWithAny_iff, ha, hx]
  constructor
  · rintro ⟨skills, reason, hr, hmem, s, hs, hne, hss⟩
    by_cases hsx : s = x
    · subst hsx
      exact Or.inr ⟨hne.symm, hss, skills, reason, hr, hmem⟩
    · exact Or.inl ⟨skills, reason, hr, hmem, s, hs, hsx, hss⟩
  · rintro (⟨skills, reason, hr, hmem, s, hs, hne, hss⟩ | ⟨hne, hxs, skills, reason, hr, hmem⟩)
    · refine ⟨skills, reason, hr, hmem, s, hs, ?_, hss⟩
      -- The selected skills stand for themselves, so none of them is the short name.
      rintro rfl
      exact hne ((hselected s hss).symm.trans ha)
    · exact ⟨skills, reason, hr, hmem, x, hmem, hne.symm, hxs⟩

theorem conflictsWithAny_shortName_eq_iff {selected : List String}
    (hselected : ∀ s ∈ selected, c.resolve s = s) :
  c.conflictsWithAny a selected = c.conflictsWithAny x selected
    ↔ a = x ∨ x ∉ selected ∨ ¬ c.HasConflicts x ∨ c.conflictsWithAny x selected = true
  := by
  rw [Bool.eq_iff_iff, conflictsWithAny_shortName_iff ha hx hselected]
  tauto

end

/-- Nothing conflicts with the name that it is asked with. -/
theorem conflictsWithAny_self (name : String) :
  c.conflictsWithAny name [name] = false
  := by
  rw [Bool.eq_false_iff, ne_eq, conflictsWithAny_iff]
  rintro ⟨-, -, -, -, s, -, hne, hs⟩
  exact hne (List.mem_singleton.mp hs)

/-- Under a short name for a skill, a catalog finds the skill and its rules. The alternatives are
those of the skill, but for the two names; they are the same exactly if the short name is the
identifier or the skill has no alternatives, and else the skill is among its own alternatives.
Whether there is a conflict with a selection is answered as for the skill, exactly unless the short
name is not the identifier, the skill is itself selected and in a conflict, and it conflicts with no
other selected skill. Under its identifier, a skill is neither its own alternative nor in a conflict
with itself. -/
theorem lookups_of_shortName (c : Catalog) {a x : String} (ha : c.resolve a = x)
    (hskill : c.contains x = true) (hx : c.resolve x = x) {selected : List String}
    (hselected : ∀ s ∈ selected, c.resolve s = s) :
  (∃ s, c.skill? a = some s ∧ c.skill? x = some s ∧ s.id = x) ∧
    c.rulesFor a = c.rulesFor x ∧
    (c.alternativesFor a).filter (· != x) = (c.alternativesFor x).filter (· != a) ∧
    (x ∈ c.alternativesFor a ↔ a ≠ x ∧ c.HasAlternatives x) ∧
    (c.alternativesFor a = c.alternativesFor x ↔ a = x ∨ ¬ c.HasAlternatives x) ∧
    (c.conflictsWithAny a selected = c.conflictsWithAny x selected
      ↔ a = x ∨ x ∉ selected ∨ ¬ c.HasConflicts x ∨ c.conflictsWithAny x selected = true) ∧
    x ∉ c.alternativesFor x ∧ c.conflictsWithAny x [x] = false
  := by
  have hrules : c.rulesFor a = c.rulesFor x := by
    rw [rulesFor_eq_filter, rulesFor_eq_filter, ha, hx]
  obtain ⟨s, hs, hid⟩ := skill?_of_resolve_eq hskill hx
  have hsa : c.skill? a = some s := by
    rw [skill?, ha]
    rwa [skill?, hx] at hs
  refine ⟨⟨s, hsa, hs, hid⟩, hrules, filter_alternativesFor_shortName ha hx,
    mem_alternativesFor_shortName_iff ha, alternativesFor_shortName_iff ha hx,
    conflictsWithAny_shortName_eq_iff ha hx hselected, ?_, conflictsWithAny_self x⟩
  intro hmem
  exact (mem_alternativesFor_iff.mp hmem).1 rfl

/-! ### Frameworks that may take each other's place -/

/-- A matrix in which two frameworks conflict and are alternatives. -/
def alternativesMatrix : Record.Matrix :=
  { frameworkMatrix with
    relations := { frameworkMatrix.relations with alternatives := [⟨"Views", ["r", "vue"]⟩] } }

/-- Two frameworks that conflict and are alternatives. -/
def alternatives : Catalog :=
  { frameworks with
    rules := [.conflicts ["react", "vue"] "Choose one", .alternatives "Views" ["react", "vue"],
      .exclusiveCategory "framework" ["react", "vue"]] }

theorem build_alternatives :
  build alternativesMatrix [frameworkRecord "react", frameworkRecord "vue"] = .ok alternatives
  := rfl

/-- Beside the other framework, a framework is looked up under its short name as under its
identifier, but for its alternatives. -/
theorem lookups_of_shortName_alternatives :
  alternatives.resolve "r" = "react" ∧ alternatives.contains "react" = true ∧
    alternatives.resolve "react" = "react" ∧ alternatives.rulesFor "r"
      = alternatives.rulesFor "react" ∧
    alternatives.conflictsWithAny "r" ["vue"] = alternatives.conflictsWithAny "react" ["vue"] ∧
    alternatives.alternativesFor "r" ≠ alternatives.alternativesFor "react"
  := by
  have hselected : ∀ s ∈ ["vue"], alternatives.resolve s = s := by decide
  obtain ⟨-, hrules, -, -, halternatives, hconflicts, -⟩ :=
    lookups_of_shortName alternatives (a := "r") (x := "react") rfl rfl rfl hselected
  refine ⟨rfl, rfl, rfl, hrules, hconflicts.mpr (Or.inr (Or.inl (by decide))), ?_⟩
  intro heq
  rcases halternatives.mp heq with heq | hnone
  · exact absurd heq (by decide)
  · exact hnone ⟨"Views", ["react", "vue"], by decide, by decide⟩

/-- Under its short name, a framework is an alternative to itself and conflicts with itself. -/
theorem shortName_conflicts_with_itself :
  ∃ c, build alternativesMatrix [frameworkRecord "react", frameworkRecord "vue"] = .ok c ∧
    c.contains "react" = true ∧ c.resolve "r" = "react" ∧ c.resolve "react" = "react" ∧
    c.alternativesFor "r" = ["react", "vue"] ∧ c.alternativesFor "react" = ["vue"] ∧
    c.conflictsWithAny "r" ["react"] = true ∧ c.conflictsWithAny "react" ["react"] = false
  := ⟨alternatives, build_alternatives, rfl, rfl, rfl, rfl, rfl, rfl, rfl⟩

end Catalog

end AgentBundles
