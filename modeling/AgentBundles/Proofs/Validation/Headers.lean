import AgentBundles.Compile.Bundle
import AgentBundles.Proofs.Header
import AgentBundles.Proofs.Schema.Reread
import AgentBundles.Proofs.Text.Paths
import AgentBundles.Validation.Bundle

/-!
# Validating headers that were compiled

The documents of agents and skills have no issues: their headers are read back as mappings of texts,
which fit the schemas.
-/

namespace AgentBundles

open Yaml (textEntries readBack KeyFits nextLine)

/-! ### Texts that are read back -/

/-- The fields that texts under names are read as. -/
def backFields (texts : List (String × String)) : List (String × Value) :=
  texts.map fun e => (e.1, .str (readBack false e.2))

theorem fields_backFields {texts : List (String × String)} (hnodup : (texts.map (·.1)).Nodup) :
  Fields (backFields texts)
  := by
  constructor
  · rw [backFields, List.map_map]
    apply hnodup
  · rw [backFields, List.forall_mem_map]
    intro e _
    rfl

theorem mem_backFields {texts : List (String × String)} {name : String} {v : Value} :
  (name, v) ∈ backFields texts ↔ ∃ t, (name, t) ∈ texts ∧ v = .str (readBack false t)
  := by
  rw [backFields, List.mem_map]
  constructor
  · rintro ⟨⟨name', t⟩, hmem, heq⟩
    cases heq
    exact ⟨t, hmem, rfl⟩
  · rintro ⟨t, hmem, rfl⟩
    exact ⟨(name, t), hmem, rfl⟩

/-! ### Compiled headers -/

/-- The names of the fields of compiled headers. -/
def headerNames : List String :=
  ["name", "description", "tools", "disallowedTools", "model", "permissionMode", "skills"]

theorem keyFits_of_mem_headerNames {name : String} (h : name ∈ headerNames) :
  KeyFits name ∧ nextLine ∉ name.toList
  := by
  have hall : ∀ name ∈ headerNames, KeyFits name ∧ nextLine ∉ name.toList := by decide
  apply hall name h

/-- Texts under some of the names are read back as texts under these names. -/
theorem parse_render_texts {entries : Entries} {texts : List (String × String)}
    (hkept : Header.kept entries = textEntries texts) (hne : texts ≠ [])
    (hnames : (texts.map (·.1)).Sublist headerNames) (body : String) :
  Header.parse (Header.render entries body) = .ok (some (.ofFields (backFields texts)))
  := by
  have hkeys : ∀ e ∈ texts, KeyFits e.1 ∧ nextLine ∉ e.1.toList := by
    intro e he
    apply keyFits_of_mem_headerNames (hnames.subset (List.mem_map_of_mem he))
  have hback : ∀ e ∈ texts, (Yaml.entryBack e).1 = e.1 := by
    intro e he
    apply Yaml.readBack_eq_self _ (hkeys e he).2
  have hentries : textEntries (texts.map Yaml.entryBack)
      = (backFields texts).map fun f => (.str f.1, f.2) := by
    rw [textEntries, backFields, List.map_map, List.map_map]
    apply List.map_congr_left
    intro e he
    simp only [Function.comp, hback e he]
    rfl
  have hnodup : (texts.map fun e => (Yaml.entryBack e).1).Nodup := by
    rw [List.map_congr_left hback]
    apply hnames.nodup (by decide)
  cases texts with
  | nil => exact absurd rfl hne
  | cons e texts =>
      rw [Value.ofFields, ← hentries]
      apply Header.parse_render hkept _ hnodup
      intro e' he'
      exact (hkeys e' he').1

namespace Validation

/-- A header that fits its schema has no issues but those of its name. -/
theorem headerIssues_of_fits {d : DocumentSchema} {content : String} {v : Value}
    (hparse : Header.parse content = .ok (some v)) (hfits : d.schema.violations v = [])
    (location : String) :
  headerIssues d content location = .ok (some v, nameIssues v location)
  := by
  have hviolations := DocumentSchema.violations_eq_nil_iff.mpr hfits
  rw [headerIssues, hparse]
  simp only [Except.mapError, ok_bind, hviolations, List.all_nil, if_true, DocumentSchema.issues,
    List.map_nil, List.nil_append]
  rfl

/-- A name in kebab case has no issues. -/
theorem nameIssues_eq_nil {v : Value} {name : String} (hfield : v.field? "name" = some (.str name))
    (hname : Slug.isKebabName name = true) (location : String) :
  nameIssues v location = []
  := by
  rw [nameIssues, text?, hfield]
  simp only [hname, Bool.or_true, if_true]

/-! ### Skills -/

theorem deprecationIssues_eq_nil {v : Value} (h : ∀ name ∈ deprecatedFields, v.field? name = none)
    (location : String) :
  deprecationIssues v location = []
  := by
  rw [deprecationIssues, List.map_eq_nil_iff, List.filter_eq_nil_iff]
  intro name hname
  rw [h name hname]
  exact Bool.false_ne_true

/-- The segments of the path of the text of a skill. -/
theorem segments_skillPath {slug : String} (hslug : '/' ∉ slug.toList) :
  Text.segments (Compile.skillPath slug Compile.skillFile) = ["skills", slug, Compile.skillFile]
  := by
  have hpath : Compile.skillPath slug Compile.skillFile
      = "skills" ++ "/" ++ (slug ++ "/" ++ Compile.skillFile) := by
    simp [Compile.skillPath, ← String.toList_inj]
  rw [hpath, Text.segments_append (by decide), Text.segments_append hslug,
    Text.segments_of_not_mem (by decide)]

/-- A skill whose name is that of its directory has no issues of its directory. -/
theorem directoryIssues_eq_nil {v : Value} {slug : String}
    (hfield : v.field? "name" = some (.str slug)) (hslug : '/' ∉ slug.toList) :
  directoryIssues v (Compile.skillPath slug Compile.skillFile) = []
  := by
  have hdirectory : skillDirectory? (Compile.skillPath slug Compile.skillFile) = some slug := by
    rw [skillDirectory?, segments_skillPath hslug]
    rfl
  have hstated : stated? v "name" = some (.str slug) := by
    rw [stated?, hfield]
    rfl
  have hsame : (Value.str slug).sameKey (.str slug) = true := Entries.sameKey_str_iff.mpr rfl
  rw [directoryIssues, hdirectory, hstated]
  simp only [hsame, if_true]

/-- The fields that the header of a skill is read as. -/
def skillFields (name description : String) : List (String × Value) :=
  [("name", .str name), ("description", .str description)]

theorem fields_skillFields (name description : String) :
  Fields (skillFields name description)
  := by
  constructor
  · simp [skillFields]
  · intro f hf
    simp only [skillFields, List.mem_cons, List.not_mem_nil, or_false] at hf
    rcases hf with rfl | rfl
    all_goals rfl

/-- A name and a description that are not empty fit the schema of the headers of skills. -/
theorem fits_skillHeader {name description : String} (hname : name ≠ "")
    (hdescription : description ≠ "") :
  Schema.skillHeader.schema.violations (.ofFields (skillFields name description)) = []
  := by
  apply (fields_skillFields name description).violations_record_eq_nil
  · intro field hfield
    simp only [List.mem_cons, List.not_mem_nil, or_false] at hfield
    rcases hfield with rfl | rfl
    · exact ⟨_, List.mem_cons_self⟩
    · exact ⟨_, List.mem_cons_of_mem _ List.mem_cons_self⟩
  · intro s hs v hv
    simp only [skillFields, List.mem_cons, List.not_mem_nil, or_false, Prod.mk.injEq] at hs hv
    rcases hv with ⟨hfield, rfl⟩ | ⟨hfield, rfl⟩
    · rcases hs with rfl | rfl | rfl | rfl | rfl
      · apply violations_someText hname
      all_goals exact absurd hfield (by decide)
    · rcases hs with rfl | rfl | rfl | rfl | rfl
      · exact absurd hfield (by decide)
      · apply violations_someText hdescription
      all_goals exact absurd hfield (by decide)
  · intro h
    cases h

theorem ne_empty_of_isKebabName {name : String} (h : Slug.isKebabName name = true) :
  name ≠ ""
  := by
  rintro rfl
  cases h

/-- The text of a skill has no issues. -/
theorem skillIssues_render {slug description : String} (hslug : Slug.isKebabName slug = true)
    (hdescription : description ≠ "") (body : String) :
  skillIssues
    (Header.render [(.str "name", .str slug), (.str "description", .str description)] body)
    (Compile.skillPath slug Compile.skillFile) = .ok []
  := by
  have hkept : Header.kept [(.str "name", .str slug), (.str "description", .str description)]
      = textEntries [("name", slug), ("description", description)] := rfl
  have hnames : (["name", "description"] : List String).Sublist headerNames := by decide
  have hparse := parse_render_texts hkept (List.cons_ne_nil _ _) hnames body
  have hback : readBack false slug = slug :=
    Yaml.readBack_eq_self false (Slug.not_mem_kebabName hslug (by decide) (by decide) (by decide))
  have hfields : backFields [("name", slug), ("description", description)]
      = skillFields slug (readBack false description) := by
    rw [backFields, List.map_cons, List.map_cons, List.map_nil, hback, skillFields]
  have hfits :=
    fits_skillHeader (ne_empty_of_isKebabName hslug) (Yaml.readBack_ne_empty false hdescription)
  have hskill := fields_skillFields slug (readBack false description)
  have hname := hskill.field?_eq_some_iff.mpr List.mem_cons_self
  have hdeprecated : ∀ name ∈ deprecatedFields,
      (Value.ofFields (skillFields slug (readBack false description))).field? name = none := by
    intro name hname
    apply hskill.field?_eq_none
    simp only [deprecatedFields, List.mem_cons, List.not_mem_nil, or_false] at hname
    rcases hname with rfl | rfl | rfl
    all_goals simp [skillFields]
  rw [hfields] at hparse
  rw [skillIssues, headerIssues_of_fits hparse hfits, ok_bind]
  simp only [nameIssues_eq_nil hname hslug, deprecationIssues_eq_nil hdeprecated,
    directoryIssues_eq_nil hname (Slug.not_mem_kebabName hslug (by decide) (by decide) (by decide))]
  rfl

/-! ### Agents -/

/-- The text under a name in a header for a list, if it says anything. -/
def listText (name : String) (items : List String) : List (String × String) :=
  if (Text.join ", " items).isEmpty then [] else [(name, Text.join ", " items)]

/-- The text under a name in a header, if there is one. -/
def optionText (name : String) (s? : Option String) : List (String × String) :=
  s?.toList.map fun s => (name, s)

/-- The texts in the header of an agent that preloads skills. -/
def agentTexts (p : AgentProfile) (preloaded : List Skill) : List (String × String) :=
  ("name", p.name) :: ("description", p.settings.description) ::
    (listText "tools" p.settings.tools ++ (listText "disallowedTools" p.settings.disallowedTools ++
      (optionText "model" p.settings.model ++
        (optionText "permissionMode" p.settings.permissionMode ++ listText "skills"
          (preloaded.map (·.slug))))))

theorem kept_cons_cons (e e' : Value × Value) (rest : Entries) :
  Header.kept (e :: e' :: rest) = Header.kept [e] ++ Header.kept (e' :: rest)
  := by
  rw [Header.kept, ← List.singleton_append, List.filter_append]
  rfl

theorem kept_headerList (name : String) (items : List String) :
  Header.kept [(.str name, Compile.headerList items)] = textEntries (listText name items)
  := by
  rw [Compile.headerList, listText]
  split
  · rfl
  · rfl

theorem kept_headerText (name : String) (s? : Option String) :
  Header.kept [(.str name, Compile.headerText s?)] = textEntries (optionText name s?)
  := by
  cases s? with
  | none => rfl
  | some s => rfl

/-- The texts of the header of an agent are what is written of it. -/
theorem kept_header (p : AgentProfile) (preloaded : List Skill) :
  Header.kept (Compile.header p preloaded) = textEntries (agentTexts p preloaded)
  := by
  simp only [Compile.header, kept_cons_cons, kept_headerList, kept_headerText]
  simp only [agentTexts, textEntries, List.map_cons, List.map_append]
  rfl

theorem listText_sublist (name : String) (items : List String) :
  ((listText name items).map (·.1)).Sublist [name]
  := by
  rw [listText]
  split
  · apply List.nil_sublist
  · apply List.Sublist.refl

theorem optionText_sublist (name : String) (s? : Option String) :
  ((optionText name s?).map (·.1)).Sublist [name]
  := by
  cases s? with
  | none => apply List.nil_sublist
  | some s => apply List.Sublist.refl

/-- The texts of the header of an agent stand under some of the names of compiled headers, in
order. -/
theorem agentTexts_sublist (p : AgentProfile) (preloaded : List Skill) :
  ((agentTexts p preloaded).map (·.1)).Sublist headerNames
  := by
  simp only [agentTexts, List.map_cons, List.map_append]
  apply List.Sublist.cons_cons
  apply List.Sublist.cons_cons
  apply List.Sublist.append (listText_sublist "tools" _)
  apply List.Sublist.append (listText_sublist "disallowedTools" _)
  apply List.Sublist.append (optionText_sublist "model" _)
  apply List.Sublist.append (optionText_sublist "permissionMode" _)
  apply listText_sublist

theorem name_of_mem_listText {name field text : String} {items : List String}
    (h : (name, text) ∈ listText field items) :
  name = field
  := List.mem_singleton.mp ((listText_sublist field items).subset (List.mem_map_of_mem h))

theorem name_of_mem_optionText {name field text : String} {s? : Option String}
    (h : (name, text) ∈ optionText field s?) :
  name = field
  := List.mem_singleton.mp ((optionText_sublist field s?).subset (List.mem_map_of_mem h))

/-- The mode in the header of an agent is that of its profile. -/
theorem permissionMode_of_mem_agentTexts {p : AgentProfile} {preloaded : List Skill} {t : String}
    (h : ("permissionMode", t) ∈ agentTexts p preloaded) :
  p.settings.permissionMode = some t
  := by
  simp only [agentTexts, List.mem_cons, List.mem_append, Prod.mk.injEq] at h
  rcases h with ⟨h, -⟩ | ⟨h, -⟩ | h | h | h | h | h
  · exact absurd h (by decide)
  · exact absurd h (by decide)
  · exact absurd (name_of_mem_listText h) (by decide)
  · exact absurd (name_of_mem_listText h) (by decide)
  · exact absurd (name_of_mem_optionText h) (by decide)
  · simpa [optionText] using h
  · exact absurd (name_of_mem_listText h) (by decide)

/-- The header of an agent lists the slugs of the skills that it preloads, and nothing if it
preloads none. -/
theorem skills_of_mem_agentTexts {p : AgentProfile} {preloaded : List Skill} {t : String}
    (h : ("skills", t) ∈ agentTexts p preloaded) :
  t = Text.join ", " (preloaded.map (·.slug)) ∧ t ≠ ""
  := by
  simp only [agentTexts, List.mem_cons, List.mem_append, Prod.mk.injEq] at h
  rcases h with ⟨h, -⟩ | ⟨h, -⟩ | h | h | h | h | h
  · exact absurd h (by decide)
  · exact absurd h (by decide)
  · exact absurd (name_of_mem_listText h) (by decide)
  · exact absurd (name_of_mem_listText h) (by decide)
  · exact absurd (name_of_mem_optionText h) (by decide)
  · exact absurd (name_of_mem_optionText h) (by decide)
  · rw [listText] at h
    split at h
    · cases h
    · rename_i hempty
      cases List.mem_singleton.mp h
      refine ⟨rfl, ?_⟩
      intro hnil
      rw [hnil] at hempty
      exact hempty rfl

/-- The slugs of the skills that an agent preloads stand in its header, if they say anything. -/
theorem skills_mem_agentTexts {p : AgentProfile} {preloaded : List Skill}
    (h : Text.join ", " (preloaded.map (·.slug)) ≠ "") :
  ("skills", Text.join ", " (preloaded.map (·.slug))) ∈ agentTexts p preloaded
  := by
  have hlisted : ("skills", Text.join ", " (preloaded.map (·.slug))) ∈ listText "skills"
      (preloaded.map (·.slug)) := by
    rw [listText, if_neg (by simpa using h)]
    apply List.mem_singleton_self
  simp only [agentTexts, List.mem_cons, List.mem_append, hlisted, or_true]

/-- Modes are read back as themselves. -/
theorem readBack_permissionMode {mode : String} (h : mode ∈ Schema.permissionModes) :
  readBack false mode = mode
  := by
  apply Yaml.readBack_eq_self
  simp only [Schema.permissionModes, List.mem_cons, List.not_mem_nil, or_false] at h
  rcases h with rfl | rfl | rfl | rfl | rfl
  all_goals decide

/-- Profiles as they have to be for their documents to be valid. -/
structure ValidProfile (p : AgentProfile) : Prop where
  isKebabName_name : Slug.isKebabName p.name = true
  description_ne : p.settings.description ≠ ""
  permissionMode_mem : ∀ mode, p.settings.permissionMode = some mode → mode ∈ Schema.permissionModes

/-- The header of an agent with a valid profile fits its schema when it is read back. -/
theorem fits_agentHeader {p : AgentProfile} (hp : ValidProfile p) (preloaded : List Skill) :
  Schema.agentHeader.schema.violations (.ofFields (backFields (agentTexts p preloaded))) = []
  := by
  have hnames := agentTexts_sublist p preloaded
  have hfields := fields_backFields (hnames.nodup (by decide))
  have hname : ("name", .str (readBack false p.name)) ∈ backFields (agentTexts p preloaded) :=
    mem_backFields.mpr ⟨_, List.mem_cons_self, rfl⟩
  have hdescription : ("description", .str (readBack false p.settings.description)) ∈ backFields
      (agentTexts p preloaded) :=
    mem_backFields.mpr ⟨_, List.mem_cons_of_mem _ List.mem_cons_self, rfl⟩
  apply hfields.violations_record_eq_nil
  · intro field hfield
    simp only [List.mem_cons, List.not_mem_nil, or_false] at hfield
    rcases hfield with rfl | rfl
    · exact ⟨_, hname⟩
    · exact ⟨_, hdescription⟩
  · intro s hs v hv
    obtain ⟨t, ht, rfl⟩ := mem_backFields.mp hv
    simp only [List.mem_cons, List.not_mem_nil, or_false] at hs
    rcases hs with rfl | rfl | rfl | rfl | rfl | rfl | rfl | rfl
    · rw [hfields.eq_of_mem hv hname]
      apply violations_someText
      apply Yaml.readBack_ne_empty false (ne_empty_of_isKebabName hp.isKebabName_name)
    · rw [hfields.eq_of_mem hv hdescription]
      apply violations_someText
      apply Yaml.readBack_ne_empty false hp.description_ne
    · apply violations_textOrTexts
    · apply violations_textOrTexts
    · apply violations_anyText
    · have hmode := hp.permissionMode_mem t (permissionMode_of_mem_agentTexts ht)
      rw [readBack_permissionMode hmode, Schema.violations_text_eq_nil_iff]
      refine ⟨t, rfl, ?_⟩
      intro r hr
      have hcontains : Schema.permissionModes.contains t = true := List.contains_iff_mem.mpr hmode
      rw [List.mem_singleton.mp hr]
      simp only [TextRule.violations, hcontains, if_true]
    · apply violations_textOrTexts
    · apply violations_anyText
  · have hsubset : ∀ name ∈ headerNames,
        name ∈ ["name", "description", "tools", "disallowedTools", "model", "permissionMode",
          "skills", "color"] := by
      decide
    rintro - ⟨name, v⟩ hv
    obtain ⟨t, ht, -⟩ := mem_backFields.mp hv
    exact hsubset name (hnames.subset (List.mem_map_of_mem ht))

/-- The document of an agent with a valid profile has no issues. -/
theorem agentIssues_render {p : AgentProfile} (hp : ValidProfile p) (preloaded : List Skill)
    (body location : String) :
  agentIssues (Header.render (Compile.header p preloaded) body) location = .ok []
  := by
  have hnames := agentTexts_sublist p preloaded
  have hparse := parse_render_texts (kept_header p preloaded) (List.cons_ne_nil _ _) hnames body
  have hback : readBack false p.name = p.name :=
    Yaml.readBack_eq_self false
      (Slug.not_mem_kebabName hp.isKebabName_name (by decide) (by decide) (by decide))
  have hmem : ("name", .str p.name) ∈ backFields (agentTexts p preloaded) :=
    mem_backFields.mpr ⟨p.name, List.mem_cons_self, by rw [hback]⟩
  have hfield := (fields_backFields (hnames.nodup (by decide))).field?_eq_some_iff.mpr hmem
  rw [agentIssues, headerIssues_of_fits hparse (fits_agentHeader hp preloaded), ok_bind]
  simp only [nameIssues_eq_nil hfield hp.isKebabName_name]
  rfl

end Validation

end AgentBundles
