import AgentBundles.Proofs.Validation.Headers

/-!
# Validating manifests that were written

A manifest is read back as it was written, and it has no issue but a missing description if its
name, its version, its author and its entry points are as they have to be.
-/

namespace AgentBundles

/-- Metadata as they have to be for the manifest to be valid. -/
structure BundleMetadata.Valid (d : BundleMetadata) : Prop where
  isKebabName_name : Slug.isKebabName d.name = true
  version_valid : d.version = "" ∨ Version.isSemantic d.version = true

namespace Manifest

open Validation (ne_empty_of_isKebabName)

variable {m : Manifest}

/-- The fields that a manifest is written as. -/
def fields (m : Manifest) : List (String × Value) :=
  [("name", .str m.name), ("version", .str m.version)] ++ stated "description" m.description ++
    authorField m.author ++ [("license", .str m.license)] ++ listed "keywords" m.keywords ++
    present "skills" m.skills ++ present "agents" m.agents ++ present "hooks" m.hooks

theorem toValue_eq (m : Manifest) :
  m.toValue = .ofFields m.fields
  := rfl

theorem mem_stated {name field : String} {s? : Option String} {v : Value} :
  (name, v) ∈ stated field s? ↔ name = field ∧ ∃ s, s? = some s ∧ s ≠ "" ∧ v = .str s
  := by
  rw [stated.eq_def]
  cases s? with
  | none => simp
  | some s =>
      by_cases h : s = ""
      · simp [h]
      · simp [h]

theorem mem_present {name field : String} {s? : Option String} {v : Value} :
  (name, v) ∈ present field s? ↔ name = field ∧ ∃ s, s? = some s ∧ v = .str s
  := by
  cases s? with
  | none => simp [present]
  | some s => simp [present]

theorem mem_listed {name field : String} {ss : List String} {v : Value} :
  (name, v) ∈ listed field ss ↔ name = field ∧ ss ≠ [] ∧ v = .ofStrings ss
  := by
  rw [listed]
  cases ss with
  | nil => simp
  | cons s ss => simp

theorem mem_authorField {name : String} {a? : Option Author} {v : Value} :
  (name, v) ∈ authorField a? ↔ name = "author" ∧ ∃ a, a? = some a ∧ v = a.toValue
  := by
  cases a? with
  | none => simp [authorField]
  | some a => simp [authorField]

/-- The fields of a manifest. -/
theorem mem_fields {name : String} {v : Value} :
  (name, v) ∈ m.fields ↔
    (name = "name" ∧ v = .str m.name) ∨ (name = "version" ∧ v = .str m.version) ∨
    (name = "description" ∧ ∃ s, m.description = some s ∧ s ≠ "" ∧ v = .str s) ∨
    (name = "author" ∧ ∃ a, m.author = some a ∧ v = a.toValue) ∨
    (name = "license" ∧ v = .str m.license) ∨
    (name = "keywords" ∧ m.keywords ≠ [] ∧ v = .ofStrings m.keywords) ∨
    (name = "skills" ∧ ∃ s, m.skills = some s ∧ v = .str s) ∨
    (name = "agents" ∧ ∃ s, m.agents = some s ∧ v = .str s) ∨
    (name = "hooks" ∧ ∃ s, m.hooks = some s ∧ v = .str s)
  := by
  simp only [fields, List.mem_append, List.mem_cons, List.not_mem_nil, or_false, Prod.mk.injEq,
    mem_stated, mem_present, mem_listed, mem_authorField, or_assoc]

/-! ### Fields -/

theorem stated_sublist (field : String) (s? : Option String) :
  ((stated field s?).map (·.1)).Sublist [field]
  := by
  rw [stated.eq_def]
  cases s? with
  | none => apply List.nil_sublist
  | some s =>
      dsimp only
      split
      · apply List.nil_sublist
      · apply List.Sublist.refl

theorem present_sublist (field : String) (s? : Option String) :
  ((present field s?).map (·.1)).Sublist [field]
  := by
  cases s? with
  | none => apply List.nil_sublist
  | some s => apply List.Sublist.refl

theorem listed_sublist (field : String) (ss : List String) :
  ((listed field ss).map (·.1)).Sublist [field]
  := by
  rw [listed]
  split
  · apply List.nil_sublist
  · apply List.Sublist.refl

theorem authorField_sublist (a? : Option Author) :
  ((authorField a?).map (·.1)).Sublist ["author"]
  := by
  cases a? with
  | none => apply List.nil_sublist
  | some a => apply List.Sublist.refl

theorem fields_sublist (m : Manifest) :
  (m.fields.map (·.1)).Sublist
    ["name", "version", "description", "author", "license", "keywords", "skills", "agents", "hooks"]
  := by
  simp only [fields, List.map_append]
  have hlisted :=
    List.Sublist.append (List.Sublist.refl ["license"]) (listed_sublist "keywords" m.keywords)
  have hauthor :=
    List.Sublist.append (stated_sublist "description" m.description) (authorField_sublist m.author)
  have hhead := List.Sublist.append (List.Sublist.refl ["name", "version"])
    (List.Sublist.append hauthor hlisted)
  have htail := List.Sublist.append (List.Sublist.append hhead (present_sublist "skills" m.skills))
    (List.Sublist.append (present_sublist "agents" m.agents) (present_sublist "hooks" m.hooks))
  simp only [List.append_assoc, List.cons_append, List.nil_append] at htail ⊢
  apply htail

/-- The fields that an author is written as. -/
def authorFields (a : Author) : List (String × Value) :=
  [("name", .str a.name)] ++ present "email" a.email

theorem mem_authorFields {a : Author} {name : String} {v : Value} :
  (name, v) ∈ authorFields a ↔ (name = "name" ∧ v = .str a.name) ∨
    (name = "email" ∧ ∃ s, a.email = some s ∧ v = .str s)
  := by
  simp only [authorFields, List.mem_append, List.mem_cons, List.not_mem_nil, or_false,
    Prod.mk.injEq, mem_present]

theorem nodup_authorFields (a : Author) :
  ((authorFields a).map (·.1)).Nodup
  := by
  have hsublist :=
    List.Sublist.append (List.Sublist.refl ["name"]) (present_sublist "email" a.email)
  rw [authorFields, List.map_append]
  apply hsublist.nodup
  decide

theorem kept_of_mem_authorFields {a : Author} {name : String} {v : Value}
    (hmem : (name, v) ∈ authorFields a) :
  Json.Kept v
  := by
  rcases mem_authorFields.mp hmem with ⟨-, rfl⟩ | ⟨-, s, -, rfl⟩
  all_goals apply Json.kept_str

theorem fields_authorFields (a : Author) :
  Fields (authorFields a)
  := Json.fields_of_kept (nodup_authorFields a) fun _ hf => kept_of_mem_authorFields hf

/-- An author is read back as written. -/
theorem kept_author (a : Author) :
  Json.Kept a.toValue
  := Json.kept_ofFields (nodup_authorFields a) fun _ hf => kept_of_mem_authorFields hf

/-- The values in a manifest can be written and are read back as written. -/
theorem kept_of_mem_fields {name : String} {v : Value} (hmem : (name, v) ∈ m.fields) :
  Json.Kept v
  := by
  rcases mem_fields.mp hmem with ⟨-, rfl⟩ | ⟨-, rfl⟩ | ⟨-, s, -, -, rfl⟩ | ⟨-, a, -, rfl⟩ | ⟨-,
    rfl⟩ | ⟨-, -, rfl⟩ | ⟨-, s, -, rfl⟩ | ⟨-, s, -, rfl⟩ | ⟨-, s, -, rfl⟩
  · apply Json.kept_str
  · apply Json.kept_str
  · apply Json.kept_str
  · apply kept_author
  · apply Json.kept_str
  · apply Json.kept_ofStrings
  · apply Json.kept_str
  · apply Json.kept_str
  · apply Json.kept_str

theorem nodup_fields (m : Manifest) :
  (m.fields.map (·.1)).Nodup
  := by
  apply (fields_sublist m).nodup
  decide

theorem fields_fields (m : Manifest) :
  Fields m.fields
  := Json.fields_of_kept (nodup_fields m) fun _ hf => kept_of_mem_fields hf

/-- A manifest is read back as it was written. -/
theorem read_write (m : Manifest) :
  Json.read m.write = .ok m.toValue
  := by
  have hkept : Json.Kept m.toValue :=
    Json.kept_ofFields (nodup_fields m) fun _ hf => kept_of_mem_fields hf
  rw [write, Json.read_write hkept.unwritable?_eq_none, hkept.reread_eq]

/-- The manifest of files is read from the text at its path. -/
theorem manifestOf_of_get? {files : Table String} (h : files.get? path = some m.write) :
  ∃ entries, m.toValue = .map entries ∧
    Validation.manifestOf files = .ok (entries, Validation.manifestIssues (.map entries) path)
  := by
  have hread : Json.read m.write = .ok (.map (m.fields.map fun f => (.str f.1, f.2))) :=
    read_write m
  refine ⟨_, rfl, ?_⟩
  rw [Validation.manifestOf, h]
  simp only [Validation.jsonOf, hread, ok_bind]
  rfl

/-! ### Issues -/

/-- Manifests as they have to be to have no errors. -/
structure Valid (m : Manifest) : Prop where
  isKebabName_name : Slug.isKebabName m.name = true
  isSemantic_version : Version.isSemantic m.version = true
  author_name_ne : ∀ a, m.author = some a → a.name ≠ ""
  skills_relative : ∀ s, m.skills = some s → Text.startsWith s "./" = true
  agents_relative : ∀ s, m.agents = some s → Text.startsWith s "./" = true
  hooks_relative : ∀ s, m.hooks = some s → Text.startsWith s "./" = true

theorem violations_relativePath (note : String) {s : String} (h : Text.startsWith s "./" = true) :
  (Schema.relativePath note).violations (.str s) = []
  := by
  simp only [Schema.relativePath, Schema.violations, TextRule.violations, h, List.flatMap_cons,
    List.flatMap_nil, if_true, List.append_nil]

/-- An author with a name fits the schema of authors. -/
theorem violations_author {a : Author} (h : a.name ≠ "") :
  (Schema.record ["name"] [("name", Schema.someText), ("email", Schema.anyText),
    ("url", Schema.anyText)] .forbidden).violations a.toValue = []
  := by
  apply (fields_authorFields a).violations_record_eq_nil
  · intro name hname
    rw [List.mem_singleton.mp hname]
    exact ⟨_, List.mem_cons_self⟩
  · intro s hs v hv
    simp only [List.mem_cons, List.not_mem_nil, or_false] at hs
    rcases mem_authorFields.mp hv with ⟨hfield, rfl⟩ | ⟨hfield, t, -, rfl⟩
    · rcases hs with rfl | rfl | rfl
      · apply violations_someText h
      all_goals exact absurd hfield (by decide)
    · rcases hs with rfl | rfl | rfl
      · exact absurd hfield (by decide)
      all_goals apply violations_anyText
  · rintro - ⟨name, v⟩ hv
    rcases mem_authorFields.mp hv with ⟨hfield, -⟩ | ⟨hfield, -⟩
    all_goals simp [hfield]

/-- A valid manifest fits the schema of manifests. -/
theorem violations_plugin (hm : m.Valid) :
  Schema.plugin.schema.violations m.toValue = []
  := by
  rw [toValue_eq]
  apply (fields_fields m).violations_record_eq_nil
  · intro name hname
    rw [List.mem_singleton.mp hname]
    exact ⟨.str m.name, mem_fields.mpr (Or.inl ⟨rfl, rfl⟩)⟩
  · intro s hs v hv
    rw [mem_fields] at hv
    simp only [List.mem_cons, List.not_mem_nil, or_false] at hs
    rcases hs with rfl | rfl | rfl | rfl | rfl | rfl | rfl | rfl | rfl | rfl | rfl
    · obtain rfl : v = .str m.name := by simpa using hv
      rw [Schema.violations]
      apply violations_someText (ne_empty_of_isKebabName hm.isKebabName_name)
    · obtain rfl : v = .str m.version := by simpa using hv
      rw [Schema.violations]
      apply violations_anyText
    · obtain ⟨t, -, -, rfl⟩ : ∃ t, m.description = some t ∧ t ≠ "" ∧ v = .str t := by simpa using hv
      apply violations_anyText
    · obtain ⟨a, ha, rfl⟩ : ∃ a, m.author = some a ∧ v = a.toValue := by simpa using hv
      apply violations_author (hm.author_name_ne a ha)
    · obtain rfl : v = .str m.license := by simpa using hv
      apply violations_anyText
    · simp at hv
    · simp at hv
    · obtain ⟨-, rfl⟩ : m.keywords ≠ [] ∧ v = .ofStrings m.keywords := by simpa using hv
      apply violations_texts
    · obtain ⟨t, ht, rfl⟩ : ∃ t, m.skills = some t ∧ v = .str t := by simpa using hv
      apply violations_relativePath _ (hm.skills_relative t ht)
    · obtain ⟨t, ht, rfl⟩ : ∃ t, m.agents = some t ∧ v = .str t := by simpa using hv
      apply violations_relativePath _ (hm.agents_relative t ht)
    · obtain ⟨t, ht, rfl⟩ : ∃ t, m.hooks = some t ∧ v = .str t := by simpa using hv
      apply violations_relativePath _ (hm.hooks_relative t ht)
  · intro h
    cases h

/-- The description of a manifest is empty if it is not written or null. -/
theorem isEmpty_description (m : Manifest) :
  ((m.toValue.field? "description").getD .null).isEmpty = (m.description.getD "").isEmpty
  := by
  rw [toValue_eq]
  by_cases h : m.description.getD "" = ""
  · have hnone : (Value.ofFields m.fields).field? "description" = none := by
      cases hfield : (Value.ofFields m.fields).field? "description" with
      | none => rfl
      | some v =>
          obtain ⟨t, ht, hne, -⟩ : ∃ t, m.description = some t ∧ t ≠ "" ∧ v = .str t := by
            simpa [mem_fields] using (fields_fields m).field?_eq_some_iff.mp hfield
          rw [ht] at h
          exact absurd h hne
    rw [hnone, h]
    rfl
  · cases hdescription : m.description with
    | none =>
        rw [hdescription] at h
        exact absurd rfl h
    | some t =>
        rw [hdescription] at h
        have hfield : (Value.ofFields m.fields).field? "description" = some (.str t) := by
          rw [(fields_fields m).field?_eq_some_iff, mem_fields]
          exact Or.inr (Or.inr (Or.inl ⟨rfl, t, hdescription, h, rfl⟩))
        rw [hfield]
        rfl

/-- A valid manifest has no issue but a missing description. -/
theorem manifestIssues_toValue (hm : m.Valid) (location : String) :
  Validation.manifestIssues m.toValue location
    = if (m.description.getD "").isEmpty then
        [.warning location "Missing description (recommended for discoverability)"]
      else []
  := by
  have hfields := fields_fields m
  have hname : (Value.ofFields m.fields).field? "name" = some (.str m.name) :=
    hfields.field?_eq_some_iff.mpr (mem_fields.mpr (Or.inl ⟨rfl, rfl⟩))
  have hversion : (Value.ofFields m.fields).field? "version" = some (.str m.version) :=
    hfields.field?_eq_some_iff.mpr (mem_fields.mpr (Or.inr (Or.inl ⟨rfl, rfl⟩)))
  have hissues : Schema.plugin.issues m.toValue location = [] := by
    rw [DocumentSchema.issues, DocumentSchema.violations_eq_nil_iff.mpr (violations_plugin hm),
      List.map_nil]
  have hversionIssues : Validation.versionIssues m.toValue location = [] := by
    rw [Validation.versionIssues, Validation.text?, toValue_eq, hversion]
    simp only [hm.isSemantic_version, if_true]
  have hnameIssues : Validation.nameIssues m.toValue location = [] := by
    rw [toValue_eq]
    apply Validation.nameIssues_eq_nil hname hm.isKebabName_name
  have hparts : Validation.manifestIssues m.toValue location
      = Schema.plugin.issues m.toValue location ++
        (Validation.nameIssues m.toValue location ++ Validation.versionIssues m.toValue location ++
        Validation.descriptionIssues m.toValue location) := rfl
  rw [hparts, hissues, hnameIssues, hversionIssues, Validation.descriptionIssues,
    isEmpty_description]
  rfl

/-! ### Entry points -/

/-- The text of an entry point of a manifest is the declared path. -/
theorem text?_present {kind : String} {path? : Option String}
    (h : ∀ v, (kind, v) ∈ m.fields ↔ ∃ s, path? = some s ∧ v = .str s) :
  Validation.text? m.toValue kind = path? ∧ (Validation.stated? m.toValue kind).isNone
    = path?.isNone
  := by
  rw [Validation.text?, Validation.stated?, toValue_eq]
  cases hfield : (Value.ofFields m.fields).field? kind with
  | none =>
      cases path? with
      | none => exact ⟨rfl, rfl⟩
      | some s =>
          have hmem := (fields_fields m).field?_eq_some_iff.mpr ((h (.str s)).mpr ⟨s, rfl, rfl⟩)
          rw [hfield] at hmem
          cases hmem
  | some v =>
      obtain ⟨s, rfl, rfl⟩ := (h v).mp ((fields_fields m).field?_eq_some_iff.mp hfield)
      exact ⟨rfl, rfl⟩

theorem text?_skills (m : Manifest) :
  Validation.text? m.toValue "skills" = m.skills ∧ (Validation.stated? m.toValue "skills").isNone
    = m.skills.isNone
  := by
  apply text?_present
  intro v
  simp [mem_fields]

theorem text?_agents (m : Manifest) :
  Validation.text? m.toValue "agents" = m.agents ∧ (Validation.stated? m.toValue "agents").isNone
    = m.agents.isNone
  := by
  apply text?_present
  intro v
  simp [mem_fields]

theorem text?_hooks (m : Manifest) :
  Validation.text? m.toValue "hooks" = m.hooks ∧ (Validation.stated? m.toValue "hooks").isNone
    = m.hooks.isNone
  := by
  apply text?_present
  intro v
  simp [mem_fields]

/-! ### Manifests of metadata -/

/-- The manifest of valid metadata is valid. -/
theorem valid_describe {d : BundleMetadata} (hd : d.Valid) (paths : List String) :
  (describe d paths).Valid
  := by
  have hdeclare : ∀ {needed : Bool} {path s : String}, declare needed path = some s →
      Text.startsWith s "./" = true := by
    intro needed path s h
    rw [declare] at h
    split at h
    · cases h
      apply Text.startsWith_append
    · cases h
  constructor
  · apply hd.isKebabName_name
  · have hversion : (describe d paths).version = if d.version.isEmpty then defaultVersion
        else d.version := rfl
    rw [hversion]
    split
    · decide
    · rename_i hne
      rcases hd.version_valid with hempty | hsemantic
      · rw [hempty] at hne
        exact absurd rfl hne
      · apply hsemantic
  · intro a ha
    have hauthor : (describe d paths).author
        = (d.author.filter fun a => !a.isEmpty).map fun a => ⟨a, d.authorEmail⟩ := rfl
    rw [hauthor, Option.map_eq_some_iff] at ha
    obtain ⟨name, hname, rfl⟩ := ha
    rw [Option.filter_eq_some_iff] at hname
    rintro rfl
    cases hname.2
  · intro s hs
    apply hdeclare hs
  · intro s hs
    apply hdeclare hs
  · intro s hs
    apply hdeclare hs

end Manifest

end AgentBundles
