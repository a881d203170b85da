import Mathlib.Data.List.Nodup
import Mathlib.Tactic.Common
import AgentBundles.Proofs.Catalog.Covering
import AgentBundles.Proofs.Text.Distinct
import AgentBundles.Catalog.Basic
import AgentBundles.Proofs.Data.Tables

/-!
# Built catalogs

What is known of a catalog once it could be built: its skills, categories and short names are those
of the records, its rules are the relations of the records that no other covers and the rules of its
categories, no two skills share an identifier, every skill has a slug in kebab case, and every
relation speaks of skills that are there.

A catalog keeps its rules under the skills that they mention. What it keeps under a skill are the
rules that mention it, in their order, and each as often as it is a rule, however often it mentions
the skill.
-/

namespace AgentBundles

/-- The identifier that a short name of a matrix stands for; other texts stand for themselves. -/
def Record.Matrix.resolve (m : Record.Matrix) (name : String) : String :=
  (m.aliases.get? name).getD name

namespace Catalog

/-- A skill that is found is one of the catalog and has the identifier. -/
theorem mem_of_find?_eq_some {c : Catalog} {id : String} {s : Skill} (h : c.find? id = some s) :
  s ∈ c.skills ∧ s.id = id
  := by
  rw [find?] at h
  use List.mem_of_find?_eq_some h
  simpa using List.find?_some h

/-- The relations of a matrix and of the metadata of skills as rules, in order. -/
def relationRules (m : Record.Matrix) (records : List Record.Skill) : List Rule :=
  (matrixRules m.resolve m.relations).map (·.2) ++ records.flatMap (metadataRules m.resolve)

/-- What a catalog that could be built has to do with its records. -/
structure Built (m : Record.Matrix) (records : List Record.Skill) (c : Catalog) : Prop where
  ids_nodup : (records.map (·.id)).Nodup
  slug_isKebabName : ∀ r ∈ records, Slug.isKebabName (Slug.ofId r.id) = true
  references_known : ∀ r ∈ relationRules m records, ∀ id ∈ r.references, id ∈ records.map (·.id)
  skills_eq : c.skills = records.map Skill.ofRecord
  categories_eq : c.categories = m.categories.mapValues categoryOfRecord
  aliases_eq : c.aliases = m.aliases
  rules_eq : c.rules = dropCovered (relationRules m records) ++ categoryRules c.skills c.categories
  suggestedStacks_eq : c.suggestedStacks =
    Table.ofList ((m.suggestedStacks.map (resolveStack m.resolve)).map fun s => (s.id, s))

/-- Records without a fault have identifiers that occur once and are not among those seen before,
and slugs in kebab case. -/
theorem firstFault?_eq_none {seen : List String} {records : List Record.Skill}
    (h : firstFault? seen records = none) :
  (∀ r ∈ records, r.id ∉ seen) ∧ (records.map (·.id)).Nodup ∧
    ∀ r ∈ records, Slug.isKebabName (Slug.ofId r.id) = true
  := by
  induction records generalizing seen with
  | nil => simp
  | cons r rest ih =>
      rw [firstFault?] at h
      split at h
      · cases h
      · rename_i hseen
        simp only at h
        split at h
        · rename_i hslug
          obtain ⟨hnew, hnodup, hslugs⟩ := ih h
          rw [List.contains_iff_mem] at hseen
          refine ⟨?_, ?_, ?_⟩
          · intro s hs
            rcases List.mem_cons.mp hs with rfl | hs
            · apply hseen
            · intro hmem
              apply hnew s hs (List.mem_cons_of_mem _ hmem)
          · rw [List.map_cons, List.nodup_cons]
            constructor
            · rw [List.mem_map]
              rintro ⟨s, hs, heq⟩
              apply hnew s hs
              rw [heq]
              apply List.mem_cons_self
            · apply hnodup
          · intro s hs
            rcases List.mem_cons.mp hs with rfl | hs
            · apply hslug
            · apply hslugs s hs
        · cases h

/-- Nothing is missing at a place exactly if all that is referred to there is known. -/
theorem missingAt_eq_nil_iff {known : List String} {place : String} {ids : List String} :
  missingAt known place ids = [] ↔ ∀ id ∈ ids, id ∈ known
  := by
  rw [missingAt, List.map_eq_nil_iff, List.filter_eq_nil_iff]
  simp

/-- If no reference is missing, every relation speaks of skills that are there. -/
theorem references_known_of_missingReferences {m : Record.Matrix} {records : List Record.Skill}
    (h : missingReferences m.resolve m records = []) (r : Rule) (hr : r ∈ relationRules m records) :
  ∀ id ∈ r.references, id ∈ records.map (·.id)
  := by
  have hnone : ∀ ref, ref ∉ missingReferences m.resolve m records := by
    intro ref
    rw [h]
    apply List.not_mem_nil
  simp only [missingReferences, Text.mem_distinct, List.mem_append, not_or] at hnone
  rcases List.mem_append.mp hr with hr | hr
  · obtain ⟨p, hp, rfl⟩ := List.mem_map.mp hr
    have hnil : missingInRule (records.map (·.id)) p = [] := by
      apply List.eq_nil_iff_forall_not_mem.mpr
      intro ref href
      apply (hnone ref).1.1
      apply List.mem_flatMap.mpr
      use p, hp, href
    apply missingAt_eq_nil_iff.mp hnil
  · obtain ⟨s, hs, hr⟩ := List.mem_flatMap.mp hr
    have hnil : missingInRule (records.map (·.id)) (metadataPlace s, r) = [] := by
      apply List.eq_nil_iff_forall_not_mem.mpr
      intro ref href
      apply (hnone ref).1.2
      apply List.mem_flatMap.mpr
      use s, hs
      apply List.mem_append_left
      apply List.mem_flatMap.mpr
      use r, hr, href
    apply missingAt_eq_nil_iff.mp hnil

/-- A catalog that `build` returns is built from its records. -/
theorem built_of_build {m : Record.Matrix} {records : List Record.Skill} {c : Catalog}
    (h : build m records = .ok c) :
  Built m records c
  := by
  rw [build] at h
  simp only at h
  split at h
  · cases h
  · rename_i hfault
    obtain ⟨-, hnodup, hslugs⟩ := firstFault?_eq_none hfault
    split at h
    · cases h
    · rename_i hmissing
      have hknown := references_known_of_missingReferences (m := m) hmissing
      cases h
      exact {
        ids_nodup := hnodup
        slug_isKebabName := hslugs
        references_known := hknown
        skills_eq := rfl
        categories_eq := rfl
        aliases_eq := rfl
        rules_eq := rfl
        suggestedStacks_eq := rfl }

namespace Built

variable {m : Record.Matrix} {records : List Record.Skill} {c : Catalog}

/-- A built catalog resolves names as its matrix does. -/
theorem resolve_eq (h : Built m records c) :
  c.resolve = m.resolve
  := by
  funext name
  rw [resolve, h.aliases_eq]
  rfl

/-- The identifiers of the skills are those of the records. -/
theorem skillIds_eq (h : Built m records c) :
  c.skills.map (·.id) = records.map (·.id)
  := by
  rw [h.skills_eq, List.map_map]
  rfl

/-- A built catalog contains the identifiers of its records and no others. -/
theorem contains_iff (h : Built m records c) {id : String} :
  c.contains id = true ↔ ∃ r ∈ records, r.id = id
  := by
  rw [Catalog.contains, h.skills_eq, List.any_map, List.any_eq_true]
  simp [Skill.ofRecord]

/-- Skills of a built catalog with one identifier are one skill. -/
theorem eq_of_id_eq (h : Built m records c) {s t : Skill} (hs : s ∈ c.skills) (ht : t ∈ c.skills)
    (heq : s.id = t.id) :
  s = t
  := by
  have hnodup := h.ids_nodup
  rw [← h.skillIds_eq] at hnodup
  apply List.inj_on_of_nodup_map hnodup hs ht heq

/-- Every skill of a built catalog is found under its identifier. -/
theorem find?_id (h : Built m records c) {s : Skill} (hs : s ∈ c.skills) :
  c.find? s.id = some s
  := by
  have hfound : (c.find? s.id).isSome = true := by
    rw [Catalog.find?, List.find?_isSome]
    use s, hs
    apply beq_self_eq_true
  obtain ⟨t, ht⟩ := Option.isSome_iff_exists.mp hfound
  rw [ht]
  congr 1
  obtain ⟨htc, hid⟩ := mem_of_find?_eq_some ht
  apply h.eq_of_id_eq htc hs hid

/-- The members of a category are identifiers of skills. -/
theorem contains_of_mem_members {id category : String} (hid : id ∈ members c.skills category) :
  c.contains id = true
  := by
  obtain ⟨s, hs, rfl⟩ := List.mem_map.mp hid
  rw [Catalog.contains, List.any_eq_true]
  use s, List.mem_of_mem_filter hs
  apply beq_self_eq_true

/-- The identifiers that a rule of a built catalog mentions are those of skills. -/
theorem contains_of_mem_references (h : Built m records c) {r : Rule} (hr : r ∈ c.rules)
    {id : String} (hid : id ∈ r.references) :
  c.contains id = true
  := by
  rw [h.rules_eq, categoryRules, List.mem_append, List.mem_append, List.mem_map, List.mem_map] at hr
  rcases hr with hr | ⟨k, -, rfl⟩ | ⟨e, -, rfl⟩
  · apply h.contains_iff.mpr
    apply List.mem_map.mp
    apply h.references_known r (dropCovered_subset _ hr) id hid
  · apply contains_of_mem_members hid
  · apply contains_of_mem_members hid

end Built

/-! ### The index of rules -/

section

variable {c : Catalog}

/-- Going through different skills, a rule is added once under each of them. -/
theorem getD_get?_foldl_push {ids : List String} (hnodup : ids.Nodup) (index : Table (List Rule))
    (r : Rule) (id : String) :
  ((ids.foldl (fun index id => index.push id r) index).get? id).getD []
    = (index.get? id).getD [] ++ if id ∈ ids then [r] else []
  := by
  induction ids generalizing index with
  | nil => simp
  | cons i ids ih =>
      obtain ⟨hi, hnodup⟩ := List.nodup_cons.mp hnodup
      rw [List.foldl_cons, ih hnodup, Table.getD_get?_push]
      by_cases heq : i = id
      · subst heq
        simp [hi]
      · simp [heq, Ne.symm heq]

/-- A rule is added once under each skill that it mentions. -/
theorem getD_get?_indexRule (index : Table (List Rule)) (r : Rule) (id : String) :
  ((indexRule index r).get? id).getD [] = (index.get? id).getD [] ++ if r.mentions id then [r]
    else []
  := by
  rw [indexRule, getD_get?_foldl_push (Text.nodup_distinct _)]
  simp [Rule.mentions]

/-- Going through rules, those that mention a skill are added under it in their order. -/
theorem getD_get?_foldl_indexRule (rules : List Rule) (index : Table (List Rule)) (id : String) :
  ((rules.foldl indexRule index).get? id).getD [] = (index.get? id).getD [] ++ rules.filter
    (·.mentions id)
  := by
  induction rules generalizing index with
  | nil => simp
  | cons r rules ih =>
      rw [List.foldl_cons, ih, getD_get?_indexRule, List.filter_cons, List.append_assoc]
      split
      · rfl
      · rfl

/-- The rules that the index has for a skill are those that mention it. -/
theorem rulesFor_eq_filter (name : String) :
  c.rulesFor name = c.rules.filter (·.mentions (c.resolve name))
  := by
  rw [rulesFor, ruleIndex, getD_get?_foldl_indexRule]
  rfl

end

/-! ### A small catalog -/

/-- A record of a framework. -/
def frameworkRecord (id : String) : Record.Skill where
  id := id
  description := "A framework"
  content := "Use it."
  metadata :=
    { category := "framework"
      exclusive := true
      author := ""
      version := none
      shortName := none
      shortDescription := none
      usageGuidance := none
      tags := []
      compatibleWith := []
      conflictsWith := []
      requires := []
      requiresSetup := []
      providesSetupFor := [] }
  resources := []
  path := ""

/-- A matrix with a conflict that goes by a short name. -/
def frameworkMatrix : Record.Matrix where
  version := "1.0.0"
  categories := []
  relations :=
    { conflicts := [⟨["r", "vue"], "Choose one"⟩]
      discourages := []
      recommends := []
      requires := []
      alternatives := [] }
  suggestedStacks := []
  aliases := [("r", "react")]

/-- Two frameworks that conflict with each other. -/
def frameworks : Catalog where
  version := "1.0.0"
  skills := [.ofRecord (frameworkRecord "react"), .ofRecord (frameworkRecord "vue")]
  categories := []
  rules :=
    [.conflicts ["react", "vue"] "Choose one", .exclusiveCategory "framework" ["react", "vue"]]
  aliases := [("r", "react")]
  suggestedStacks := []

theorem build_frameworks :
  build frameworkMatrix [frameworkRecord "react", frameworkRecord "vue"] = .ok frameworks
  := rfl

end Catalog

end AgentBundles
