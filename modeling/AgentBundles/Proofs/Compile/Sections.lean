import AgentBundles.Proofs.Catalog.Built
import AgentBundles.Proofs.Compile.Closed
import AgentBundles.Proofs.Data.Tables
import AgentBundles.Proofs.Template.Places

/-!
# The sections of an agent

The document of an agent shows the texts of its preloaded skills, the index of the others, and its
partials: in the place that the base template has for them, or after it. One partial is left out:
the one that goes by the name of another section, if the base template has a place of this name but
none for the group of the partial. The place gets the text of the section, and the partial counts as
taken in.
-/

namespace AgentBundles

namespace Compile

/-! ### What keeps an agent from being compiled -/

/-- An agent cannot be compiled if something in its profile is missing, or an identifier is not that
of a skill. -/
theorem agent_eq_error_iff {c : Catalog} {s : ValidatedSelection} {p : AgentProfile}
    {templates : Table String} {routing : Routing} {f : CompileFault} :
  agent c s p templates routing = .error f ↔
    preloadedIds c p templates = .error f ∨ ∃ ids, preloadedIds c p templates = .ok ids ∧
      ((∃ id, routing.relevant c p.name s.selection.ids = .error id ∧ .unknownSkill id = f) ∨
        ∃ relevant, routing.relevant c p.name s.selection.ids = .ok relevant ∧
          (ids.mapM (skillOf c) = .error f ∨
            ∃ preloaded, ids.mapM (skillOf c) = .ok preloaded ∧
              ((Text.distinct (ids ++ relevant)).filter fun id => !ids.contains id).mapM (skillOf c)
                = .error f))
  := by
  have hdone : ∀ (ids : List String) (f : CompileFault) (g : List Skill → AgentCompilation),
      (do let indexed ← ids.mapM (skillOf c); return g indexed) = .error f
      ↔ ids.mapM (skillOf c) = .error f := by
    intro ids f g
    rw [bind_eq_error_iff]
    apply or_iff_left
    rintro ⟨_, -, h⟩
    cases h
  rw [agent, bind_eq_error_iff]
  apply or_congr_right
  apply exists_congr
  intro ids
  apply and_congr_right
  intro _
  rw [bind_eq_error_iff, mapError_eq_error_iff]
  apply or_congr_right
  apply exists_congr
  intro relevant
  rw [mapError_eq_ok_iff]
  apply and_congr_right
  intro _
  rw [bind_eq_error_iff]
  apply or_congr_right
  apply exists_congr
  intro preloaded
  apply and_congr_right
  intro _
  apply hdone

/-! ### The texts that the base template takes in -/

/-- The names of the sections, under which the base template takes them in. -/
def sectionNames : List String := ["skills", "skill_index", "core_partials", "ending_partials"]

variable {p : AgentProfile} {templates : Table String} {skills index : String}

/-- Under the names of sections the base template gets the sections, under identifiers of partials
the partials, and else the name and the description of the agent. -/
theorem get?_baseContext (name : String) :
  (baseContext p templates skills index).get? name =
    if name = "ending_partials" then
      some (joinSections (p.settings.endingPartials.map (renderPartial p templates)))
    else if name = "core_partials" then
      some (joinSections (p.settings.partials.map (renderPartial p templates)))
    else if name = "skill_index" then some index
    else if name = "skills" then some skills
    else if name ∈ p.partialIds then some (renderPartial p templates name)
    else (scalarContext p).get? name
  := by
  have hscalars : Table.get? (scalarContext p).reverse name = (scalarContext p).get? name := by
    have hne : "name" ≠ "description" := by decide
    by_cases hname : "name" = name
    · subst hname
      simp [scalarContext, Table.get?_cons, hne.symm]
    · simp [scalarContext, Table.get?_cons, hname]
  rw [baseContext, Table.get?_ofList, List.reverse_append, List.reverse_append, Table.get?_append,
    Table.get?_append, ← List.map_reverse, Table.get?_map, hscalars]
  simp only [List.reverse_cons, List.reverse_nil, List.nil_append, List.cons_append,
    Table.get?_cons, List.mem_reverse, eq_comm (b := name)]
  split_ifs
  all_goals rfl

theorem get?_baseContext_of_not_mem {name : String} (h : name ∉ sectionNames) :
  (baseContext p templates skills index).get? name =
    if name ∈ p.partialIds then some (renderPartial p templates name)
      else (scalarContext p).get? name
  := by
  simp only [sectionNames, List.mem_cons, List.not_mem_nil, or_false, not_or] at h
  obtain ⟨hskills, hindex, hcore, hending⟩ := h
  rw [get?_baseContext, if_neg hending, if_neg hcore, if_neg hindex, if_neg hskills]

theorem has_baseContext_of_mem {name : String} (h : name ∈ sectionNames) :
  (baseContext p templates skills index).has name = true
  := by
  rw [Table.has_eq_isSome, get?_baseContext]
  simp only [sectionNames, List.mem_cons, List.not_mem_nil, or_false] at h
  rcases h with rfl | rfl | rfl | rfl
  all_goals rfl

/-! ### What a document shows -/

/-- A text stands in the body of a document. -/
def Shows (body text : String) : Prop :=
  text.toList <:+: (Text.trim body).toList

theorem isInfix_joinSections {ss : List String} {s : String} (h : s ∈ ss) :
  s.toList <:+: (joinSections ss).toList
  := by
  by_cases hs : s = ""
  · rw [hs]
    apply List.nil_infix
  · apply Text.isInfix_join (List.mem_filter.mpr ⟨h, _⟩)
    simpa using hs

/-- A text without blanks at its ends is shown if it stands in a section. -/
theorem shows_joinSections {ss : List String} {s text : String} (hs : s ∈ ss)
    (h : text.toList <:+: s.toList) (hstrip : Text.strip text.toList = text.toList) :
  Shows (joinSections ss) text
  := by
  rw [Shows, Text.trim, String.toList_ofList]
  apply Text.isInfix_strip (h.trans (isInfix_joinSections hs)) hstrip

theorem indexLine_end (t : Skill) :
  indexLine t ≠ "" ∧ (indexLine t).toList.rdropWhile Text.isBlank = (indexLine t).toList
  := by
  have hline : (indexLine t).toList
      = ("- `" ++ t.slug ++ "`: " ++ orElse t.usageGuidance t.description).toList.rdropWhile
        Text.isBlank := by
    rw [indexLine, Text.trimEnd, String.toList_ofList]
    rfl
  constructor
  · rw [ne_eq, ← String.toList_eq_nil_iff, hline, List.rdropWhile_eq_nil_iff]
    intro hblank
    have hhyphen : Text.isBlank '-' = true := hblank '-' (by simp)
    cases hhyphen
  · rw [hline]
    apply List.rdropWhile_idempotent

/-- The index of skills has no blanks at its ends. -/
@[simp]
theorem strip_toList_skillIndex (ts : List Skill) :
  Text.strip (skillIndex ts).toList = (skillIndex ts).toList
  := by
  rw [skillIndex]
  split
  · rfl
  · rename_i hne
    have hlines : ts.map indexLine ≠ [] := by simpa using hne
    have hends : ∀ s ∈ ts.map indexLine, s ≠ "" ∧ s.toList.rdropWhile Text.isBlank = s.toList := by
      rw [List.forall_mem_map]
      intro t _
      apply indexLine_end t
    obtain ⟨hrest, hend⟩ := @Text.rdropWhile_join Text.isBlank "\n" _ hlines hends
    obtain ⟨line, lines, heq⟩ := List.exists_cons_of_ne_nil hlines
    rw [heq] at hrest hend ⊢
    rw [Text.join, Text.join, String.toList_append, String.toList_append, Text.strip,
      Text.stripBy_eq_self_iff]
    constructor
    · rfl
    · apply Text.rdropWhile_append
      · simp
      · rw [String.toList_append]
        apply Text.rdropWhile_append _ hend
        simpa using hrest

/-! ### The sections -/

/-- The names of the places of the base template. -/
def basePlaces (p : AgentProfile) (templates : Table String) : List String :=
  Template.places (templateText templates p.settings.template)

/-- The names of the places of the base template that have a text. -/
def takenIn (p : AgentProfile) (templates : Table String) (skills index : String) : List String :=
  (basePlaces p templates).filter (baseContext p templates skills index).has

theorem mem_takenIn_iff {name : String} (h : name ∈ sectionNames) :
  name ∈ takenIn p templates skills index ↔ name ∈ basePlaces p templates
  := by
  rw [takenIn, List.mem_filter]
  apply and_iff_left (has_baseContext_of_mem h)

/-- The partials of a group are left to stand after the base template if it has no place for the
group, but for those that it has a place for. -/
theorem mem_remaining_iff {taken : List String} {group : String} {rendered : String → String}
    {ids : List String} {text : String} :
  text ∈ remaining taken group rendered ids ↔ group ∉ taken ∧ ∃ id ∈ ids, id ∉ taken ∧
    rendered id = text
  := by
  rw [remaining]
  split
  · rename_i hgroup
    rw [List.contains_iff_mem] at hgroup
    simp [hgroup]
  · rename_i hgroup
    rw [List.contains_iff_mem] at hgroup
    simp [hgroup, and_assoc]

/-- A section is left to stand after the base template if that has not taken it in. -/
theorem mem_unless_iff {taken : List String} {name shown text : String} :
  text ∈ (if taken.contains name then [] else [shown]) ↔ name ∉ taken ∧ text = shown
  := by
  split
  · rename_i h
    rw [List.contains_iff_mem] at h
    simp [h]
  · rename_i h
    rw [List.contains_iff_mem] at h
    simp [h]

theorem sections_eq (p : AgentProfile) (templates : Table String) (skills index : String) :
  sections p templates skills index
    = [Template.fill (baseContext p templates skills index).get?
      (templateText templates p.settings.template)] ++ remaining (takenIn p templates skills index)
        "core_partials" (renderPartial p templates) p.settings.partials ++
      (if (takenIn p templates skills index).contains "skills" then [] else [skills]) ++
      (if (takenIn p templates skills index).contains "skill_index" then [] else [index]) ++
      remaining (takenIn p templates skills index) "ending_partials" (renderPartial p templates)
        p.settings.endingPartials
  := rfl

/-- The sections are the filled base template and those that it does not take in. -/
theorem mem_sections_iff {text : String} :
  text ∈ sections p templates skills index ↔
    text = Template.fill (baseContext p templates skills index).get?
      (templateText templates p.settings.template) ∨
    text ∈ remaining (takenIn p templates skills index) "core_partials" (renderPartial p templates)
      p.settings.partials ∨
    ("skills" ∉ basePlaces p templates ∧ text = skills) ∨
      ("skill_index" ∉ basePlaces p templates ∧ text = index) ∨
    text ∈ remaining (takenIn p templates skills index) "ending_partials"
      (renderPartial p templates) p.settings.endingPartials
  := by
  have hskills : "skills" ∈ takenIn p templates skills index ↔ _ := mem_takenIn_iff (by decide)
  have hindex : "skill_index" ∈ takenIn p templates skills index ↔ _ := mem_takenIn_iff (by decide)
  rw [sections_eq, ← hskills, ← hindex]
  simp only [List.mem_append, List.mem_singleton, mem_unless_iff, or_assoc]

/-- What the base template takes in is shown. -/
theorem shows_of_place {name value text : String} (hplace : name ∈ basePlaces p templates)
    (hvalue : (baseContext p templates skills index).get? name = some value)
    (h : text.toList <:+: value.toList) (hstrip : Text.strip text.toList = text.toList) :
  Shows (joinSections (sections p templates skills index)) text
  := by
  apply shows_joinSections (mem_sections_iff.mpr (Or.inl rfl)) _ hstrip
  apply Template.isInfix_fill hplace hvalue h hstrip

/-- A section is shown in the place of its name, or else after the base template. -/
theorem shows_section {name shown text : String}
    (hvalue : (baseContext p templates skills index).get? name = some shown)
    (hsection : name ∉ basePlaces p templates → shown ∈ sections p templates skills index)
    (h : text.toList <:+: shown.toList) (hstrip : Text.strip text.toList = text.toList) :
  Shows (joinSections (sections p templates skills index)) text
  := by
  by_cases hplace : name ∈ basePlaces p templates
  · apply shows_of_place hplace hvalue h hstrip
  · apply shows_joinSections (hsection hplace) h hstrip

/-- A partial is shown with its group, in its own place, or after the base template, unless its
place gets another text. -/
theorem shows_partial {group id : String} {ids : List String} (hgroup : group ∈ sectionNames)
    (hvalue : (baseContext p templates skills index).get? group
      = some (joinSections (ids.map (renderPartial p templates))))
    (hsection :
      ∀ text ∈ remaining (takenIn p templates skills index) group (renderPartial p templates) ids,
      text ∈ sections p templates skills index) (hid : id ∈ ids) (hids : ids ⊆ p.partialIds)
    (h : id ∈ sectionNames → id ∈ basePlaces p templates → group ∈ basePlaces p templates) :
  Shows (joinSections (sections p templates skills index)) (renderPartial p templates id)
  := by
  have hstrip : Text.strip (renderPartial p templates id).toList
      = (renderPartial p templates id).toList :=
    Template.strip_toList_fill _ _
  by_cases hplace : group ∈ basePlaces p templates
  · apply shows_of_place hplace hvalue _ hstrip
    apply isInfix_joinSections (List.mem_map_of_mem hid)
  · by_cases htaken : id ∈ takenIn p templates skills index
    · have hbase : id ∈ basePlaces p templates := List.mem_of_mem_filter htaken
      have hname : id ∉ sectionNames := fun hname => hplace (h hname hbase)
      apply shows_of_place hbase _ (List.infix_refl _) hstrip
      rw [get?_baseContext_of_not_mem hname, if_pos (hids hid)]
    · apply shows_joinSections (hsection _ _) (List.infix_refl _) hstrip
      apply mem_remaining_iff.mpr
      rw [mem_takenIn_iff hgroup]
      exact ⟨hplace, id, hid, htaken, rfl⟩

/-- A partial is hidden if it goes by the name of a section, the base template has a place of this
name, and it has none for the groups that the partial is in. -/
def Hidden (p : AgentProfile) (templates : Table String) (id : String) : Prop :=
  id ∈ sectionNames ∧ id ∈ basePlaces p templates ∧
    (id ∈ p.settings.partials → "core_partials" ∉ basePlaces p templates) ∧
    (id ∈ p.settings.endingPartials → "ending_partials" ∉ basePlaces p templates)

/-- A partial that is not hidden is shown. -/
theorem shows_of_not_hidden {id : String} (hid : id ∈ p.partialIds) (h : ¬ Hidden p templates id) :
  Shows (joinSections (sections p templates skills index)) (renderPartial p templates id)
  := by
  have hcore : id ∈ p.settings.partials →
      (id ∈ sectionNames → id ∈ basePlaces p templates → "core_partials" ∈ basePlaces p templates) →
      Shows (joinSections (sections p templates skills index)) (renderPartial p templates id) := by
    intro hmem
    apply shows_partial (by decide) _ _ hmem (List.subset_append_left _ _)
    · rw [get?_baseContext]
      rfl
    · intro text htext
      apply mem_sections_iff.mpr (Or.inr (Or.inl htext))
  have hending : id ∈ p.settings.endingPartials →
      (id ∈ sectionNames → id ∈ basePlaces p templates →
        "ending_partials" ∈ basePlaces p templates) →
      Shows (joinSections (sections p templates skills index)) (renderPartial p templates id) := by
    intro hmem
    apply shows_partial (by decide) _ _ hmem (List.subset_append_right _ _)
    · rw [get?_baseContext]
      rfl
    · intro text htext
      apply mem_sections_iff.mpr (Or.inr (Or.inr (Or.inr (Or.inr htext))))
  by_cases hplaced : id ∈ sectionNames ∧ id ∈ basePlaces p templates
  · rw [Hidden, ← and_assoc, and_iff_right hplaced, not_and_or] at h
    simp only [Classical.not_imp, not_not] at h
    rcases h with ⟨hmem, hplace⟩ | ⟨hmem, hplace⟩
    · apply hcore hmem fun _ _ => hplace
    · apply hending hmem fun _ _ => hplace
  · have hnone : ∀ {q : Prop}, id ∈ sectionNames → id ∈ basePlaces p templates → q :=
      fun hname hbase => absurd ⟨hname, hbase⟩ hplaced
    rcases List.mem_append.mp hid with hmem | hmem
    · apply hcore hmem hnone
    · apply hending hmem hnone

/-- The texts of the preloaded skills are shown. -/
theorem shows_skill {preloaded : List Skill} {t : Skill} (ht : t ∈ preloaded) :
  Shows (joinSections (sections p templates (skillTexts preloaded) index)) (Text.trim t.content)
  := by
  have hvalue : (baseContext p templates (skillTexts preloaded) index).get? "skills"
      = some (skillTexts preloaded) := by
    rw [get?_baseContext]
    rfl
  apply shows_section hvalue _ _ (Text.strip_toList_trim _)
  · intro hplace
    apply mem_sections_iff.mpr (Or.inr (Or.inr (Or.inl ⟨hplace, rfl⟩)))
  · apply isInfix_joinSections (List.mem_map_of_mem ht)

/-- The index of the other skills is shown. -/
theorem shows_index {indexed : List Skill} :
  Shows (joinSections (sections p templates skills (skillIndex indexed))) (skillIndex indexed)
  := by
  have hvalue : (baseContext p templates skills (skillIndex indexed)).get? "skill_index"
      = some (skillIndex indexed) := by
    rw [get?_baseContext]
    rfl
  apply shows_section hvalue _ (List.infix_refl _) (strip_toList_skillIndex _)
  intro hplace
  apply mem_sections_iff.mpr (Or.inr (Or.inr (Or.inr (Or.inl ⟨hplace, rfl⟩))))

/-! ### Hidden partials -/

theorem preloadedIds_congr {c : Catalog} {templates' : Table String}
    (h : ∀ id ∈ p.templateIds, templates.has id = templates'.has id) :
  preloadedIds c p templates = preloadedIds c p templates'
  := by
  have hmissing : p.templateIds.filter (fun id => !templates.has id)
      = p.templateIds.filter fun id => !templates'.has id := by
    apply List.filter_congr
    intro id hid
    rw [h id hid]
  rw [preloadedIds, preloadedIds, hmissing]

/-- The templates of an agent that could be compiled are all there. -/
theorem has_of_preloadedIds_eq_ok {c : Catalog} {ids : List String}
    (h : preloadedIds c p templates = .ok ids) {id : String} (hid : id ∈ p.templateIds) :
  templates.has id = true
  := by
  rw [preloadedIds] at h
  split at h
  · cases h
  · rename_i hnone
    rw [Bool.not_eq_true', Bool.not_eq_false, List.isEmpty_iff, List.filter_eq_nil_iff] at hnone
    simpa using hnone id hid

/-- Templates that are the same but for one. -/
def SameBut (id : String) (templates templates' : Table String) : Prop :=
  ∀ other, other ≠ id → templates.get? other = templates'.get? other

variable {templates' : Table String} {id : String}

theorem SameBut.templateText_eq (h : SameBut id templates templates') {other : String}
    (hne : other ≠ id) :
  templateText templates other = templateText templates' other
  := by
  rw [templateText, templateText, h other hne]

theorem SameBut.renderPartial_eq (h : SameBut id templates templates') {other : String}
    (hne : other ≠ id) :
  renderPartial p templates other = renderPartial p templates' other
  := by
  rw [renderPartial, renderPartial, h.templateText_eq hne]

theorem SameBut.map_renderPartial_eq (h : SameBut id templates templates') {ids : List String}
    (hids : id ∉ ids) :
  ids.map (renderPartial p templates) = ids.map (renderPartial p templates')
  := by
  apply List.map_congr_left
  intro other hother
  apply h.renderPartial_eq
  rintro rfl
  apply hids hother

/-- The base template takes in the same texts whatever the text of a hidden partial is. -/
theorem Hidden.get?_baseContext_eq (hidden : Hidden p templates id)
    (h : SameBut id templates templates') {name : String} (hname : name ∈ basePlaces p templates) :
  (baseContext p templates skills index).get? name
    = (baseContext p templates' skills index).get? name
  := by
  obtain ⟨hsection, -, hcore, hending⟩ := hidden
  rw [get?_baseContext, get?_baseContext]
  split_ifs with h1 h2 h3 h4 h5
  · rw [h.map_renderPartial_eq fun hmem => hending hmem (h1 ▸ hname)]
  · rw [h.map_renderPartial_eq fun hmem => hcore hmem (h2 ▸ hname)]
  · rfl
  · rfl
  · rw [h.renderPartial_eq]
    rintro rfl
    simp [sectionNames, h1, h2, h3, h4] at hsection
  · rfl

/-- The sections are the same whatever the text of a hidden partial is. -/
theorem Hidden.sections_eq (hidden : Hidden p templates id) (h : SameBut id templates templates')
    (hbase : p.settings.template ≠ id) :
  sections p templates skills index = sections p templates' skills index
  := by
  have htemplate := h.templateText_eq hbase
  have hplaces : basePlaces p templates
      = basePlaces p templates' := by rw [basePlaces, basePlaces, htemplate]
  have hfill : Template.fill (baseContext p templates skills index).get?
      (templateText templates p.settings.template)
      = Template.fill (baseContext p templates' skills index).get?
        (templateText templates' p.settings.template) := by
    rw [← htemplate]
    apply Template.fill_congr
    intro name hname
    apply hidden.get?_baseContext_eq h hname
  have htaken : takenIn p templates skills index = takenIn p templates' skills index := by
    rw [takenIn, takenIn, ← hplaces]
    apply List.filter_congr
    intro name hname
    rw [Table.has_eq_isSome, Table.has_eq_isSome, hidden.get?_baseContext_eq h hname]
  have hid : id ∈ takenIn p templates' skills index := by
    rw [← htaken, mem_takenIn_iff hidden.1]
    apply hidden.2.1
  have hremaining : ∀ group ids, remaining (takenIn p templates' skills index) group
      (renderPartial p templates) ids
      = remaining (takenIn p templates' skills index) group (renderPartial p templates') ids := by
    intro group ids
    rw [remaining, remaining]
    split
    · rfl
    · apply h.map_renderPartial_eq
      simp [hid]
  rw [Compile.sections_eq, Compile.sections_eq, hfill, htaken, hremaining, hremaining]

/-- The document of an agent shows the texts of its preloaded skills, the index of the others, and
its partials, but for those that are hidden: whatever their texts are, the document is the same. -/
theorem agent_shows_sections {c : Catalog} {s : ValidatedSelection} {routing : Routing}
    {a : AgentCompilation} (h : agent c s p templates routing = .ok a) :
  ∃ ids relevant preloaded indexed body,
    AgentParts c s p templates routing a ids relevant preloaded indexed ∧
    a.document.content = Header.render (header p preloaded) body ∧
    (∀ name ∈ p.settings.preloadedSkills, ∃ t,
      c.skill? (c.resolve name) = some t ∧ Shows body (Text.trim t.content)) ∧
    Shows body (skillIndex indexed) ∧
    (∀ id ∈ p.partialIds, ¬ Hidden p templates id → Shows body (renderPartial p templates id)) ∧
    (∀ id, Hidden p templates id → p.settings.template ≠ id → ∀ templates',
      SameBut id templates templates' → templates'.has id = true →
      ∃ a', agent c s p templates' routing = .ok a' ∧ a'.document = a.document)
  := by
  obtain ⟨ids, relevant, preloaded, indexed, hparts⟩ := agent_eq_ok_iff.mp h
  refine ⟨ids, relevant, preloaded, indexed, _, hparts, hparts.content_eq, ?_, shows_index, ?_, ?_⟩
  · intro name hname
    have hid : c.resolve name ∈ ids := by
      rw [of_preloadedIds_eq_ok hparts.preloadedIds_eq, Text.mem_distinct]
      apply List.mem_map_of_mem hname
    obtain ⟨t, ht⟩ := exists_mapM_eq_ok_iff.mp ⟨_, hparts.preloaded_eq⟩ _ hid
    exact ⟨t, skillOf_eq_ok_iff.mp ht,
      shows_skill ((mem_of_mapM_eq_ok hparts.preloaded_eq).mpr ⟨_, hid, ht⟩)⟩
  · intro id hid hidden
    apply shows_of_not_hidden hid hidden
  · intro id hidden hbase templates' hsame hhas
    have hids : preloadedIds c p templates' = .ok ids := by
      rw [← hparts.preloadedIds_eq]
      apply preloadedIds_congr
      intro other hother
      by_cases heq : other = id
      · rw [heq, hhas, has_of_preloadedIds_eq_ok hparts.preloadedIds_eq (heq ▸ hother)]
      · rw [Table.has_eq_isSome, Table.has_eq_isSome, hsame other heq]
    refine ⟨⟨a.document, warnings p templates' (skillTexts preloaded) (skillIndex indexed)⟩,
      ?_, rfl⟩
    apply agent_eq_ok_iff.mpr
    refine ⟨ids, relevant, preloaded, indexed, hids, hparts.relevant_eq, hparts.preloaded_eq,
      hparts.indexed_eq, hparts.path_eq, ?_, hparts.contributors_eq, rfl⟩
    rw [← hidden.sections_eq hsame hbase]
    apply hparts.content_eq

/-- A profile with a partial that goes by the name of a section. -/
def webWriter : AgentProfile where
  name := "web-writer"
  settings := { webDeveloper.settings with partials := ["tone", "skills"] }

/-- Templates of which the first has a place for the skills. -/
def writerTemplates : Table String :=
  [("agent", "Write.\n\n\x7b\x7b skills \x7d\x7d"), ("tone", "Be brief."), ("skills", "Ask!")]

/-- The document of the profile shows its other partial, and the skill that it preloads. -/
theorem agent_shows_sections_webWriter :
  ∃ a body, agent Catalog.frameworks ⟨.ofList ["react"], []⟩ webWriter writerTemplates [] = .ok a ∧
    (∃ preloaded, a.document.content = Header.render (header webWriter preloaded) body) ∧
    Shows body "Be brief." ∧ Shows body "Use it."
  := by
  obtain ⟨a, ha⟩ : ∃ a, agent Catalog.frameworks ⟨.ofList ["react"], []⟩ webWriter writerTemplates
      [] = .ok a := ⟨_, rfl⟩
  obtain ⟨ids, relevant, preloaded, indexed, body, -, hcontent, hskills, -, hpartials, -⟩ :=
    agent_shows_sections ha
  refine ⟨a, body, ha, ⟨preloaded, hcontent⟩, ?_, ?_⟩
  · have hshown := hpartials "tone" (by decide) fun h => absurd h.1 (by decide)
    have htext : renderPartial webWriter writerTemplates "tone" = "Be brief." := by decide +kernel
    rw [htext] at hshown
    apply hshown
  · obtain ⟨t, ht, hshown⟩ := hskills "vue" List.mem_cons_self
    cases ht
    apply hshown

/-- The partial that goes by the name of a section is not shown. -/
theorem not_shows_hidden :
  ¬ ∀ (c : Catalog) (s : ValidatedSelection) (p : AgentProfile) (templates : Table String)
    (routing : Routing) (a : AgentCompilation), agent c s p templates routing = .ok a →
    ∀ (preloaded : List Skill) (body : String), a.document.content
      = Header.render (header p preloaded) body →
    ∀ id ∈ p.partialIds, Shows body (renderPartial p templates id)
  := by
  intro h
  have hshown := h Catalog.frameworks ⟨.ofList ["react"], []⟩ webWriter writerTemplates
    [] _ rfl _ _ rfl "skills" (by decide)
  have hmark : '!' ∈ (renderPartial webWriter writerTemplates "skills").toList := by decide +kernel
  have hbody := hshown.subset hmark
  revert hbody
  decide +kernel

end Compile

end AgentBundles
