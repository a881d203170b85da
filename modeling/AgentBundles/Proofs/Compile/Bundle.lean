import Mathlib.Tactic.Common
import AgentBundles.Compile.Bundle
import AgentBundles.Proofs.Outcome
import AgentBundles.Proofs.Selection.Acceptance
import AgentBundles.Proofs.Text.Distinct

/-!
# Compiled bundles

What is known of a bundle that could be compiled: its documents are those of its agents, one for
each profile, then those of its skills, one list for each selected or preloaded identifier, then the
hooks.

The selection that validation gives is resolved once, and its identifiers are resolved again when
skills are looked up, when it is validated again, and when it is compiled. All of these keep to the
skills of the selection exactly if the short names of the catalog do not lead from its identifiers
any further.
-/

namespace AgentBundles

/-! ### Compiled bundles -/

namespace Compile

/-- The skill that is compiled for an identifier is the one that the catalog has for it. -/
theorem skillOf_eq_ok_iff {c : Catalog} {id : String} {s : Skill} :
  skillOf c id = .ok s ↔ c.skill? id = some s
  := by
  rw [skillOf]
  split
  · rename_i s' hs
    simp [hs]
  · rename_i hs
    simp [hs]

/-- What an agent is compiled from: the identifiers of the skills that it preloads and of those that
concern it, and the skills that its document holds and those that its index lists. -/
structure AgentParts (c : Catalog) (s : ValidatedSelection) (p : AgentProfile)
    (templates : Table String) (routing : Routing) (a : AgentCompilation)
    (ids relevant : List String) (preloaded indexed : List Skill) : Prop where
  preloadedIds_eq : preloadedIds c p templates = .ok ids
  relevant_eq : routing.relevant c p.name s.selection.ids = .ok relevant
  preloaded_eq : ids.mapM (skillOf c) = .ok preloaded
  indexed_eq : ((Text.distinct (ids ++ relevant)).filter fun id => !ids.contains id).mapM
    (skillOf c) = .ok indexed
  path_eq : a.document.path = agentPath p.name
  content_eq : a.document.content = Header.render (header p preloaded)
    (joinSections (sections p templates (skillTexts preloaded) (skillIndex indexed)))
  contributors_eq : a.document.contributors = Text.distinct (ids ++ relevant)
  warnings_eq : a.warnings = warnings p templates (skillTexts preloaded) (skillIndex indexed)

/-- An agent is compiled exactly from its parts. -/
theorem agent_eq_ok_iff {c : Catalog} {s : ValidatedSelection} {p : AgentProfile}
    {templates : Table String} {routing : Routing} {a : AgentCompilation} :
  agent c s p templates routing = .ok a ↔
    ∃ ids relevant preloaded indexed,
      AgentParts c s p templates routing a ids relevant preloaded indexed
  := by
  constructor
  · intro h
    rw [agent] at h
    obtain ⟨ids, hids, h⟩ := bind_eq_ok_iff.mp h
    obtain ⟨relevant, hrelevant, h⟩ := bind_eq_ok_iff.mp h
    obtain ⟨preloaded, hpreloaded, h⟩ := bind_eq_ok_iff.mp h
    obtain ⟨indexed, hindexed, h⟩ := bind_eq_ok_iff.mp h
    cases h
    exact ⟨ids, relevant, preloaded, indexed, hids, mapError_eq_ok_iff.mp hrelevant, hpreloaded,
      hindexed, rfl, rfl, rfl, rfl⟩
  · rintro ⟨ids, relevant, preloaded, indexed, h⟩
    obtain ⟨⟨path, content, contributors⟩, ws⟩ := a
    obtain ⟨hids, hrelevant, hpreloaded, hindexed, rfl, rfl, rfl, rfl⟩ := h
    rw [agent, hids, ok_bind, mapError_eq_ok_iff.mpr hrelevant, ok_bind, hpreloaded, ok_bind]
    dsimp only
    rw [hindexed]
    rfl

/-- The parts that a bundle is compiled from. -/
theorem bundle_parts {c : Catalog} {s : ValidatedSelection} {profiles : List AgentProfile}
    {templates : Table String} {name : String} {routing : Routing} {hooks : Value}
    {b : CompiledBundle} (h : bundle c s profiles templates name routing hooks = .ok b) :
  ∃ as ss hs, agents c s templates routing [] profiles = .ok as ∧
    skills c [] (Text.distinct (s.selection.ids ++ as.flatMap fun a => a.document.contributors))
      = .ok ss ∧
    hooksDocument hooks = .ok hs ∧
    b.documents = as.map (·.document) ++ ss.flatMap skillDocuments ++ hs
  := by
  rw [bundle] at h
  obtain ⟨as, has, h⟩ := bind_eq_ok_iff.mp h
  obtain ⟨ss, hss, h⟩ := bind_eq_ok_iff.mp h
  obtain ⟨hs, hhs, h⟩ := bind_eq_ok_iff.mp h
  cases h
  use as, ss, hs, has, hss, hhs

/-- The skills that are compiled are the ones that the catalog has for the identifiers, in their
order. -/
theorem mapM_skillOf_of_skills {c : Catalog} {seen : Table String} {ids : List String}
    {ss : List Skill} (h : skills c seen ids = .ok ss) :
  ids.mapM (skillOf c) = .ok ss
  := by
  induction ids generalizing seen ss with
  | nil =>
      cases h
      rfl
  | cons id ids ih =>
      rw [skills] at h
      obtain ⟨t, ht, h⟩ := bind_eq_ok_iff.mp h
      split at h
      · cases h
      · obtain ⟨ss', hss', h⟩ := bind_eq_ok_iff.mp h
        cases h
        rw [List.mapM_cons, ht, ok_bind, ih hss']
        rfl

/-- There is a skill with its own slug for each identifier that skills are compiled for. -/
theorem skill?_of_mem_skills {c : Catalog} {seen : Table String} {ids : List String}
    {ss : List Skill} (h : skills c seen ids = .ok ss) {id : String} (hid : id ∈ ids) :
  ∃ s ∈ ss, c.skill? id = some s
  := by
  have hmapM := mapM_skillOf_of_skills h
  obtain ⟨s, hs⟩ := exists_mapM_eq_ok_iff.mp ⟨ss, hmapM⟩ id hid
  exact ⟨s, (mem_of_mapM_eq_ok hmapM).mpr ⟨id, hid, hs⟩, skillOf_eq_ok_iff.mp hs⟩

end Compile

/-! ### Resolved selections -/

namespace Catalog

variable {c : Catalog}

/-- What validation gives for a selection stands for itself: its identifiers resolve to themselves
and are those of the skills found for them, validating it again gives the same selection, and a
bundle that is compiled for it has the documents of the skills with its identifiers. -/
structure Faithful (c : Catalog) (s : Selection String) : Prop where
  resolves : ∀ i ∈ (c.validate s).selection.ids, c.contains i = true →
    c.resolve i = i ∧ ∃ t, c.skill? i = some t ∧ t.id = i
  revalidates : (c.validate (c.validate s).selection).selection = (c.validate s).selection
  compiles : ∀ v profiles templates name routing hooks b, (c.validate s).validated? = some v →
    Compile.bundle c v profiles templates name routing hooks = .ok b →
    ∀ i ∈ v.selection.ids, ∃ t ∈ c.skills, t.id = i ∧ Compile.skillDocuments t ⊆ b.documents

/-- A validated selection is the resolved one. -/
theorem selection_of_validated?_eq_some {s : Selection String} {v : ValidatedSelection}
    (h : (c.validate s).validated? = some v) :
  v.selection = c.resolveSelection s
  := by
  rw [SelectionResult.validated?] at h
  split at h
  · cases h
    rfl
  · cases h

/-- An identifier that resolves to itself is that of the skill found for it. -/
theorem skill?_of_resolve_eq {i : String} (hcontains : c.contains i = true) (hi : c.resolve i = i) :
  ∃ t, c.skill? i = some t ∧ t.id = i
  := by
  have hsome : (c.find? i).isSome = true := by
    rw [find?, List.find?_isSome]
    apply List.any_eq_true.mp hcontains
  obtain ⟨t, ht⟩ := Option.isSome_iff_exists.mp hsome
  use t
  rw [skill?, hi]
  use ht, (mem_of_find?_eq_some ht).2

/-- A list without repetitions is resolved to itself exactly if all of its items are. -/
theorem distinct_map_eq_self_iff {f : String → String} {ids : List String} (h : ids.Nodup) :
  Text.distinct (ids.map f) = ids ↔ ∀ i ∈ ids, f i = i
  := by
  constructor
  · intro heq
    have hlength : (Text.distinct (ids.map f)).length = (ids.map f).length := by
      rw [heq, List.length_map]
    rw [Text.distinct_of_nodup (Text.nodup_of_length_distinct hlength)] at heq
    apply List.map_inj_left.mp
    rw [heq, List.map_id']
  · intro hf
    rw [List.map_congr_left hf, List.map_id']
    apply Text.distinct_of_nodup h

/-- The resolved selection resolves to itself exactly if its identifiers do. -/
theorem resolveSelection_eq_self_iff {s : Selection String} (h : s.ids.Nodup) :
  c.resolveSelection s = s ↔ ∀ i ∈ s.ids, c.resolve i = i
  := by
  rw [← distinct_map_eq_self_iff h]
  constructor
  · intro heq
    apply congrArg Selection.ids heq
  · intro heq
    cases s
    apply congrArg Selection.mk heq

/-- A bundle has the documents of the skills of a selection whose identifiers resolve to
themselves. -/
theorem skillDocuments_subset {v : ValidatedSelection} {profiles : List AgentProfile}
    {templates : Table String} {name : String} {routing : Routing} {hooks : Value}
    {b : CompiledBundle}
    (h : Compile.bundle c v profiles templates name routing hooks = .ok b) {i : String}
    (hi : i ∈ v.selection.ids) (hresolve : c.resolve i = i) :
  ∃ t ∈ c.skills, t.id = i ∧ Compile.skillDocuments t ⊆ b.documents
  := by
  obtain ⟨as, ss, hs, -, hskills, -, hdocuments⟩ := Compile.bundle_parts h
  have hmem :
      i ∈ Text.distinct (v.selection.ids ++ as.flatMap fun a => a.document.contributors) := by
    rw [Text.mem_distinct]
    apply List.mem_append_left _ hi
  obtain ⟨t, ht, hit⟩ := Compile.skill?_of_mem_skills hskills hmem
  rw [skill?, hresolve] at hit
  obtain ⟨htc, hid⟩ := mem_of_find?_eq_some hit
  use t, htc, hid
  intro d hd
  rw [hdocuments]
  apply List.mem_append_left
  apply List.mem_append_right
  apply List.mem_flatMap.mpr ⟨t, ht, hd⟩

/-- A selection is dealt with faithfully exactly if the identifiers that it is resolved to resolve
to themselves. -/
theorem faithful_iff (s : Selection String) :
  Faithful c s ↔ ∀ i ∈ (c.resolveSelection s).ids, c.resolve i = i
  := by
  have hnodup : (c.resolveSelection s).ids.Nodup := Text.nodup_distinct _
  constructor
  · intro h
    apply (resolveSelection_eq_self_iff hnodup).mp h.revalidates
  · intro h
    exact {
      resolves := by
        intro i hi hcontains
        exact ⟨h i hi, skill?_of_resolve_eq hcontains (h i hi)⟩
      revalidates := (resolveSelection_eq_self_iff hnodup).mpr h
      compiles := by
        intro v profiles templates name routing hooks b hv hb i hi
        apply skillDocuments_subset hb hi
        apply h
        rw [← selection_of_validated?_eq_some hv]
        apply hi }

/-- A catalog deals with a selection faithfully exactly if what the selection is resolved to
resolves to itself, and with all selections exactly if resolving twice is resolving once. -/
theorem faithful_iff_resolve_resolve (c : Catalog) :
  (∀ s, Faithful c s ↔ ∀ i ∈ (c.resolveSelection s).ids, c.resolve i = i) ∧
    ((∀ s, Faithful c s) ↔ ∀ name, c.resolve (c.resolve name) = c.resolve name)
  := by
  use faithful_iff
  constructor
  · intro h name
    apply (faithful_iff ⟨[name]⟩).mp (h ⟨[name]⟩)
    apply List.mem_singleton_self
  · intro h s
    apply (faithful_iff s).mpr
    intro i hi
    rw [resolveSelection, Selection.map, Selection.ofList, Text.mem_distinct] at hi
    obtain ⟨name, -, rfl⟩ := List.mem_map.mp hi
    apply h

/-- Short names may lead on: here one leads to a skill whose identifier is itself a short name for
another skill, and the skill that is selected is not the one that is found for it. -/
theorem not_faithful_of_chained_aliases :
  ∃ c, build { frameworkMatrix with aliases := [("r", "react"), ("react", "vue")] }
      [frameworkRecord "react", frameworkRecord "vue"] = .ok c ∧
    (c.validate (.ofList ["r"])).ok = true ∧ (c.validate (.ofList ["r"])).selection = ⟨["react"]⟩ ∧
    c.contains "react" = true ∧ c.resolve "react" = "vue" ∧ ¬ Faithful c (.ofList ["r"])
  := by
  refine ⟨_, rfl, rfl, rfl, rfl, rfl, ?_⟩
  intro h
  obtain ⟨hresolve, -⟩ := h.resolves "react" List.mem_cons_self rfl
  have hne : "vue" ≠ "react" := by decide
  apply hne hresolve

end Catalog

end AgentBundles
