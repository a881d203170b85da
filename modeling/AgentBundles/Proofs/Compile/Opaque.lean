import AgentBundles.Proofs.Compile.Sections

/-!
# The texts of skills

The compiler does not look into the texts of skills. Whether an agent can be compiled, what goes
into it and what it is warned of are the same for catalogs whose skills differ in their texts only,
and the texts stand in the document as they are: the places that are filled are those of the
templates, and what is put in is not looked through again.
-/

namespace AgentBundles

/-- A record without its texts. -/
def Record.Skill.withoutTexts (r : Record.Skill) : Record.Skill :=
  { r with
    description := ""
    content := ""
    resources := []
    metadata := { r.metadata with shortDescription := none, usageGuidance := none } }

namespace Catalog

/-- Catalogs with the same short names and categories, and with skills of the same identifiers and
categories. -/
structure Alike (c c' : Catalog) : Prop where
  aliases_eq : c.aliases = c'.aliases
  categories_eq : c.categories = c'.categories
  skills : List.Forall₂ (fun t t' => t.id = t'.id ∧ t.category = t'.category) c.skills c'.skills

/-- Catalogs of records that differ in their texts only are alike. -/
theorem alike_of_build {m : Record.Matrix} {records records' : List Record.Skill} {c c' : Catalog}
    (hc : build m records = .ok c) (hc' : build m records' = .ok c')
    (h : records.map (·.withoutTexts) = records'.map (·.withoutTexts)) :
  Alike c c'
  := by
  have hbuilt := built_of_build hc
  have hbuilt' := built_of_build hc'
  constructor
  · rw [hbuilt.aliases_eq, hbuilt'.aliases_eq]
  · rw [hbuilt.categories_eq, hbuilt'.categories_eq]
  · rw [hbuilt.skills_eq, hbuilt'.skills_eq, List.forall₂_map_left_iff, List.forall₂_map_right_iff]
    clear hc hc' hbuilt hbuilt'
    induction records generalizing records' with
    | nil =>
        rw [List.map_nil, eq_comm, List.map_eq_nil_iff] at h
        rw [h]
        apply List.Forall₂.nil
    | cons r records ih =>
        obtain ⟨r', records', rfl, hr, hrecords⟩ := List.map_eq_cons_iff.mp h.symm
        apply List.Forall₂.cons _ (ih hrecords.symm)
        have hid : r'.withoutTexts.id = r.withoutTexts.id := by rw [hr]
        have hcategory : r'.withoutTexts.metadata.category
            = r.withoutTexts.metadata.category := by rw [hr]
        exact ⟨hid.symm, hcategory.symm⟩

namespace Alike

variable {c c' : Catalog}

theorem resolve_eq (h : Alike c c') (name : String) :
  c.resolve name = c'.resolve name
  := by
  rw [resolve, resolve, h.aliases_eq]

theorem contains_eq (h : Alike c c') (id : String) :
  c.contains id = c'.contains id
  := by
  have hskills := h.skills
  rw [contains, contains]
  generalize c.skills = ts at hskills ⊢
  generalize c'.skills = ts' at hskills ⊢
  induction hskills with
  | nil => rfl
  | cons ht _ ih => rw [List.any_cons, List.any_cons, ht.1, ih]

theorem parent?_eq (h : Alike c c') (category : String) :
  c.parent? category = c'.parent? category
  := by
  rw [parent?, parent?, h.categories_eq]

theorem ancestors_eq (h : Alike c c') (seen : List String) (category : String) (fuel : Nat) :
  c.ancestors seen category fuel = c'.ancestors seen category fuel
  := by
  induction fuel generalizing seen category with
  | zero => rfl
  | succ fuel ih =>
      rw [ancestors, ancestors, h.parent?_eq]
      split
      · rw [ih]
      · rfl

theorem lineage_eq (h : Alike c c') (category : String) :
  c.lineage category = c'.lineage category
  := by
  rw [lineage, lineage, h.ancestors_eq, h.categories_eq]

/-- Skills are found in both catalogs or in none, and are of the same category. -/
theorem skill? (h : Alike c c') (name : String) :
  Option.Rel (fun t t' => t.category = t'.category) (c.skill? name) (c'.skill? name)
  := by
  have hskills := h.skills
  rw [Catalog.skill?, Catalog.skill?, h.resolve_eq, find?, find?]
  generalize c.skills = ts at hskills ⊢
  generalize c'.skills = ts' at hskills ⊢
  induction hskills with
  | nil => apply Option.Rel.none
  | @cons t t' ts ts' ht _ ih =>
      rw [List.find?_cons, List.find?_cons, ht.1]
      split
      · exact Option.Rel.some ht.2
      · apply ih

theorem relevant_eq (h : Alike c c') (routing : Routing) (agent : String) (ids : List String) :
  routing.relevant c agent ids = routing.relevant c' agent ids
  := by
  rw [Routing.relevant, Routing.relevant]
  split
  · rfl
  · rename_i categories hcategories
    congr 2
    funext id
    have hskill := h.skill? id
    generalize c.skill? id = t? at hskill ⊢
    generalize c'.skill? id = t'? at hskill ⊢
    cases hskill with
    | none => rw [h.resolve_eq]
    | some ht =>
        dsimp only
        rw [Routing.covers, Routing.covers, ht, h.lineage_eq]

theorem preloadedIds_eq (h : Alike c c') (p : AgentProfile) (templates : Table String) :
  Compile.preloadedIds c p templates = Compile.preloadedIds c' p templates
  := by
  have hresolve : c.resolve = c'.resolve := funext h.resolve_eq
  have hcontains : c.contains = c'.contains := funext h.contains_eq
  rw [Compile.preloadedIds, Compile.preloadedIds, hresolve, hcontains]

/-- The skills of identifiers are there in both catalogs, or there is the same fault in both. -/
theorem mapM_skillOf (h : Alike c c') (ids : List String) :
  (∃ f, ids.mapM (Compile.skillOf c) = .error f ∧ ids.mapM (Compile.skillOf c') = .error f) ∨
    ∃ ts ts', ids.mapM (Compile.skillOf c) = .ok ts ∧ ids.mapM (Compile.skillOf c') = .ok ts'
  := by
  induction ids with
  | nil => exact Or.inr ⟨[], [], rfl, rfl⟩
  | cons id ids ih =>
      rw [List.mapM_cons, List.mapM_cons, Compile.skillOf, Compile.skillOf, h.resolve_eq]
      have hskill := h.skill? id
      generalize c.skill? id = t? at hskill ⊢
      generalize c'.skill? id = t'? at hskill ⊢
      cases hskill with
      | none => exact Or.inl ⟨_, rfl, rfl⟩
      | @some t t' _ =>
          rw [ok_bind, ok_bind]
          rcases ih with ⟨f, hf, hf'⟩ | ⟨ts, ts', hts, hts'⟩
          · rw [hf, hf']
            exact Or.inl ⟨f, rfl, rfl⟩
          · rw [hts, hts']
            exact Or.inr ⟨t :: ts, t' :: ts', rfl, rfl⟩

end Alike

end Catalog

namespace Compile

variable {p : AgentProfile} {templates : Table String} {skills index : String}

/-! ### What is left in a template -/

/-- The names that every template of a profile has a text for. -/
def scalarNames : List String := ["name", "description"]

/-- The warnings about the places of a template whose names are not among some. -/
def warningsOutside (p : AgentProfile) (templates : Table String) (scope : List String)
    (id : String) :
    List CompileWarning :=
  ((Template.places (templateText templates id)).filter fun name => !scope.contains name).map
    fun name => ⟨p.name, id, name⟩

theorem warningsIn_eq {context : Table String} {scope : List String}
    (h : ∀ name, context.get? name = none ↔ name ∉ scope) (id : String) :
  warningsIn p templates context id = warningsOutside p templates scope id
  := by
  rw [warningsIn, warningsOutside, Template.unfilled]
  congr 1
  apply List.filter_congr
  intro name _
  rw [Bool.eq_iff_iff, Option.isNone_iff_eq_none, h, Bool.not_eq_true', ← Bool.not_eq_true,
    List.contains_iff_mem]

theorem get?_scalarContext_eq_none_iff {name : String} :
  (scalarContext p).get? name = none ↔ name ∉ scalarNames
  := by
  rw [← Option.isNone_iff_eq_none, ← Option.isSome_eq_false_iff, ← Table.has_eq_isSome,
    ← Bool.not_eq_true, not_iff_not, Table.has_iff]
  rfl

theorem get?_baseContext_eq_none_iff {name : String} :
  (baseContext p templates skills index).get? name = none
    ↔ name ∉ scalarNames ++ p.partialIds ++ sectionNames
  := by
  by_cases hsection : name ∈ sectionNames
  · have hhas : (baseContext p templates skills index).has name = true :=
      has_baseContext_of_mem hsection
    rw [Table.has_eq_isSome, Option.isSome_iff_ne_none] at hhas
    simp [hhas, hsection]
  · rw [get?_baseContext_of_not_mem hsection]
    split
    · rename_i hid
      simp [hid]
    · rename_i hid
      rw [get?_scalarContext_eq_none_iff]
      simp [hid, hsection]

/-- The warnings are about the places of the partials, which take in the name and the description of
the agent, and then about those of the base template, which also takes in the partials and the
sections. -/
theorem warnings_eq (p : AgentProfile) (templates : Table String) (skills index : String) :
  warnings p templates skills index
    = p.partialIds.flatMap (warningsOutside p templates scalarNames) ++
      warningsOutside p templates (scalarNames ++ p.partialIds ++ sectionNames) p.settings.template
  := by
  have hpartials : warningsIn p templates (scalarContext p)
      = warningsOutside p templates scalarNames :=
    funext (warningsIn_eq fun _ => get?_scalarContext_eq_none_iff)
  rw [warnings, hpartials, warningsIn_eq fun _ => get?_baseContext_eq_none_iff]

/-! ### What is put in -/

/-- How the body of a document is made: the partials and the base template are read once, from their
own texts, and filled; what is put in at the places of the base template, and what follows it, are
partials, the texts of the preloaded skills, and the index of the others, as they are. -/
structure Renders (p : AgentProfile) (templates : Table String) (preloaded indexed : List Skill)
    (body : String) :
    Prop where
  partials : ∀ id ∈ p.partialIds, ∃ ps, Template.Scans (templateText templates id).toList ps ∧
    renderPartial p templates id
      = String.ofList (Text.strip (ps.flatMap (·.fill (scalarContext p).get?)))
  base : ∃ ps rest, Template.Scans (templateText templates p.settings.template).toList ps ∧
    body = joinSections (String.ofList (Text.strip (ps.flatMap (·.fill
      (baseContext p templates (skillTexts preloaded) (skillIndex indexed)).get?))) :: rest) ∧
    ∀ text ∈ rest, text = skillTexts preloaded ∨ text = skillIndex indexed ∨
      ∃ id ∈ p.partialIds, text = renderPartial p templates id
  skills : ∀ t ∈ preloaded, Shows body (Text.trim t.content)

theorem renders (p : AgentProfile) (templates : Table String) (preloaded indexed : List Skill) :
  Renders p templates preloaded indexed
    (joinSections (sections p templates (skillTexts preloaded) (skillIndex indexed)))
  := by
  constructor
  · intro id _
    exact ⟨_, Template.scans_iff.mpr rfl, rfl⟩
  · refine ⟨_, _, Template.scans_iff.mpr rfl, rfl, ?_⟩
    have hpartial : ∀ {text group ids}, ids ⊆ p.partialIds →
        text ∈ remaining (takenIn p templates (skillTexts preloaded) (skillIndex indexed)) group
          (renderPartial p templates) ids →
        ∃ id ∈ p.partialIds, text = renderPartial p templates id := by
      intro text group ids hids htext
      obtain ⟨-, id, hid, -, rfl⟩ := mem_remaining_iff.mp htext
      exact ⟨id, hids hid, rfl⟩
    intro text htext
    rcases List.mem_append.mp htext with htext | htext
    · rcases List.mem_append.mp htext with htext | htext
      · rcases List.mem_append.mp htext with htext | htext
        · exact Or.inr (Or.inr (hpartial (List.subset_append_left _ _) htext))
        · exact Or.inl (mem_unless_iff.mp htext).2
      · exact Or.inr (Or.inl (mem_unless_iff.mp htext).2)
    · exact Or.inr (Or.inr (hpartial (List.subset_append_right _ _) htext))
  · intro t ht
    apply shows_skill ht

/-! ### Two compilations -/

theorem exists_agentParts {c : Catalog} {s : ValidatedSelection} {routing : Routing}
    {ids relevant : List String} {preloaded indexed : List Skill}
    (hids : preloadedIds c p templates = .ok ids)
    (hrelevant : routing.relevant c p.name s.selection.ids = .ok relevant)
    (hpreloaded : ids.mapM (skillOf c) = .ok preloaded)
    (hindexed : ((Text.distinct (ids ++ relevant)).filter fun id => !ids.contains id).mapM
      (skillOf c) = .ok indexed) :
  ∃ a, AgentParts c s p templates routing a ids relevant preloaded indexed
  := ⟨⟨⟨_, _, _⟩, _⟩, hids, hrelevant, hpreloaded, hindexed, rfl, rfl, rfl, rfl⟩

/-- In catalogs that are alike an agent has the same fault, or it is compiled from the same
identifiers. -/
theorem fault_or_parts {c c' : Catalog} (halike : Catalog.Alike c c') {s s' : ValidatedSelection}
    (hs : s.selection.ids = s'.selection.ids) (p : AgentProfile) (templates : Table String)
    (routing : Routing) :
  (∃ f, agent c s p templates routing = .error f ∧ agent c' s' p templates routing = .error f) ∨
    ∃ a a' ids relevant preloaded preloaded' indexed indexed',
      AgentParts c s p templates routing a ids relevant preloaded indexed ∧
      AgentParts c' s' p templates routing a' ids relevant preloaded' indexed'
  := by
  have hids := halike.preloadedIds_eq p templates
  have hrelevant : routing.relevant c p.name s.selection.ids
      = routing.relevant c' p.name s'.selection.ids := by
    rw [hs]
    apply halike.relevant_eq
  simp only [agent_eq_error_iff]
  cases hids' : preloadedIds c' p templates with
  | error f => exact Or.inl ⟨f, Or.inl (hids.trans hids'), Or.inl rfl⟩
  | ok ids =>
      rw [hids'] at hids
      cases hrelevant' : routing.relevant c' p.name s'.selection.ids with
      | error id =>
          exact Or.inl ⟨.unknownSkill id,
            Or.inr ⟨ids, hids, Or.inl ⟨id, hrelevant.trans hrelevant', rfl⟩⟩,
            Or.inr ⟨ids, rfl, Or.inl ⟨id, rfl, rfl⟩⟩⟩
      | ok relevant =>
          rw [hrelevant'] at hrelevant
          rcases halike.mapM_skillOf ids
            with ⟨f, hf, hf'⟩ | ⟨preloaded, preloaded', hpreloaded, hpreloaded'⟩
          · exact Or.inl ⟨f, Or.inr ⟨ids, hids, Or.inr ⟨relevant, hrelevant, Or.inl hf⟩⟩,
              Or.inr ⟨ids, rfl, Or.inr ⟨relevant, rfl, Or.inl hf'⟩⟩⟩
          · rcases halike.mapM_skillOf
              ((Text.distinct (ids ++ relevant)).filter fun id => !ids.contains id) with
              ⟨f, hf, hf'⟩ | ⟨indexed, indexed', hindexed, hindexed'⟩
            · exact Or.inl
                ⟨f, Or.inr ⟨ids, hids,
                Or.inr ⟨relevant, hrelevant, Or.inr ⟨preloaded, hpreloaded, hf⟩⟩⟩,
                Or.inr ⟨ids, rfl, Or.inr ⟨relevant, rfl, Or.inr ⟨preloaded', hpreloaded', hf'⟩⟩⟩⟩
            · obtain ⟨a, ha⟩ := exists_agentParts hids hrelevant hpreloaded hindexed
              obtain ⟨a', ha'⟩ := exists_agentParts hids' hrelevant' hpreloaded' hindexed'
              exact Or.inr ⟨a, a', ids, relevant, preloaded, preloaded', indexed, indexed', ha, ha'⟩

/-- Agents that are compiled from catalogs of records that differ in their texts only have the same
faults, or the same skills go into them and they have the same warnings, which are about the places
of the templates and not about those in the texts of skills. -/
theorem agent_opaque {m : Record.Matrix} {records records' : List Record.Skill} {c c' : Catalog}
    (hc : Catalog.build m records = .ok c) (hc' : Catalog.build m records' = .ok c')
    (h : records.map (·.withoutTexts) = records'.map (·.withoutTexts)) {s s' : ValidatedSelection}
    (hs : s.selection.ids = s'.selection.ids) (p : AgentProfile) (templates : Table String)
    (routing : Routing) :
  (∃ f, agent c s p templates routing = .error f ∧ agent c' s' p templates routing = .error f) ∨
    ∃ a a', agent c s p templates routing = .ok a ∧ agent c' s' p templates routing = .ok a' ∧
      a.document.contributors = a'.document.contributors ∧ a.warnings = a'.warnings ∧
      a.warnings = p.partialIds.flatMap (warningsOutside p templates scalarNames) ++
        warningsOutside p templates (scalarNames ++ p.partialIds ++ sectionNames)
          p.settings.template ∧
      ∃ ids relevant preloaded preloaded' indexed indexed' body body',
        AgentParts c s p templates routing a ids relevant preloaded indexed ∧
        a.document.content = Header.render (header p preloaded) body ∧
        Renders p templates preloaded indexed body ∧
        AgentParts c' s' p templates routing a' ids relevant preloaded' indexed' ∧
        a'.document.content = Header.render (header p preloaded') body' ∧
        Renders p templates preloaded' indexed' body'
  := by
  rcases fault_or_parts (Catalog.alike_of_build hc hc' h) hs p templates routing with
    hfault | ⟨a, a', ids, relevant, preloaded, preloaded', indexed, indexed', hparts, hparts'⟩
  · exact Or.inl hfault
  · have hwarnings := hparts.warnings_eq.trans (warnings_eq p templates _ _)
    have hwarnings' := hparts'.warnings_eq.trans (warnings_eq p templates _ _)
    refine Or.inr ⟨a, a', agent_eq_ok_iff.mpr ⟨_, _, _, _, hparts⟩,
      agent_eq_ok_iff.mpr ⟨_, _, _, _, hparts'⟩, ?_, ?_, hwarnings, ids, relevant, preloaded,
      preloaded', indexed, indexed', _, _, hparts, hparts.content_eq, ?_, hparts',
      hparts'.content_eq, ?_⟩
    · rw [hparts.contributors_eq, hparts'.contributors_eq]
    · rw [hwarnings, hwarnings']
    · apply renders
    · apply renders

/-- A framework whose text is that of a place. -/
def bracedRecord : Record.Skill :=
    { Catalog.frameworkRecord "vue" with content := "\x7b\x7b name \x7d\x7d" }

/-- The text of a place in a skill is left as it is: the document shows it, and there is no warning
about it. -/
theorem agent_opaque_braced :
  ∃ c, Catalog.build Catalog.frameworkMatrix [Catalog.frameworkRecord "react", bracedRecord]
    = .ok c ∧ ∃ a a', agent Catalog.frameworks ⟨.ofList ["react"], []⟩ webWriter writerTemplates []
      = .ok a ∧ agent c ⟨.ofList ["react"], []⟩ webWriter writerTemplates [] = .ok a' ∧
      a.warnings = a'.warnings ∧ a'.warnings = [] ∧ ∃ preloaded body, a'.document.content
        = Header.render (header webWriter preloaded) body ∧ Shows body "\x7b\x7b name \x7d\x7d"
  := by
  obtain ⟨c, hc⟩ : ∃ c, Catalog.build Catalog.frameworkMatrix [Catalog.frameworkRecord "react",
      bracedRecord] = .ok c :=
    ⟨_, rfl⟩
  let s : ValidatedSelection := ⟨.ofList ["react"], []⟩
  have hs : s.selection.ids = s.selection.ids := rfl
  rcases agent_opaque Catalog.build_frameworks hc rfl hs webWriter writerTemplates [] with
    ⟨f, hf, -⟩ | ⟨a, a', ha, ha', -, hsame, hwarnings, ids, relevant, preloaded, preloaded',
      indexed, indexed', body, body', -, -, -, hparts, hcontent, hrenders⟩
  · cases hf
  · refine ⟨c, hc, a, a', ha, ha', hsame, ?_, preloaded', body', hcontent, ?_⟩
    · rw [← hsame, hwarnings]
      decide +kernel
    · have hids := hparts.preloadedIds_eq
      have hpreloaded := hparts.preloaded_eq
      cases hc
      cases hids
      cases hpreloaded
      have htext : Text.trim bracedRecord.content = "\x7b\x7b name \x7d\x7d" := by decide +kernel
      rw [← htext]
      apply hrenders.skills (.ofRecord bracedRecord) List.mem_cons_self

end Compile

end AgentBundles
