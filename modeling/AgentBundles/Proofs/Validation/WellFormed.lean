import Mathlib.Data.List.DropRight
import AgentBundles.Proofs.Validation.Grammars
import AgentBundles.Proofs.Validation.Passing

/-!
# Well-formed bundles

What a bundle has to be, document by document, and that validation finds errors in exactly the
bundles that are something else, but that a line feed may end a name or a version, and that digits
of other scripts may stand in a version.
-/

namespace AgentBundles

/-! ### Paths of documents -/

/-- The path of a directory is a path without the slashes at the end of it. -/
def IsTrimmed (path directory : String) : Prop :=
  directory.toList.getLast? ≠ some '/' ∧ ∃ n, path.toList = directory.toList ++ List.replicate n '/'

/-- The path of the text of a skill, in a directory of its own below that of all skills. -/
def IsSkillIn (directory path : String) : Prop :=
  ∃ part, '/' ∉ part.toList ∧ path = directory ++ "/" ++ part ++ "/SKILL.md"

/-- The path of an agent in the directory of all agents. -/
def IsAgentIn (directory path : String) : Prop :=
  ∃ part, '/' ∉ part.toList ∧ (∃ stem, part = stem ++ ".md") ∧ path = directory ++ "/" ++ part

theorem isTrimmed_iff {path directory : String} :
  IsTrimmed path directory ↔ Text.trimSlashes path = directory
  := by
  have htrim : (Text.trimSlashes path).toList = path.toList.rdropWhile (· == '/') :=
    String.toList_ofList
  rw [← String.toList_inj, htrim, IsTrimmed]
  constructor
  · rintro ⟨hlast, n, hpath⟩
    have hself : directory.toList.rdropWhile (· == '/') = directory.toList := by
      rw [List.rdropWhile_eq_self_iff]
      intro hne hslash
      apply hlast
      rw [List.getLast?_eq_some_getLast hne, beq_iff_eq.mp hslash]
    rw [hpath]
    clear hpath
    induction n with
    | zero => rw [List.replicate_zero, List.append_nil, hself]
    | succ n ih =>
        rw [List.replicate_succ', ← List.append_assoc, List.rdropWhile_concat_pos _ _ _ rfl, ih]
  · intro h
    rw [← h]
    constructor
    · intro hlast
      have hne : path.toList.rdropWhile (· == '/') ≠ [] := by
        intro hnil
        rw [hnil] at hlast
        cases hlast
      rw [List.getLast?_eq_some_getLast hne, Option.some.injEq] at hlast
      apply List.rdropWhile_last_not _ _ hne
      rw [hlast]
      rfl
    · have hslashes : path.toList.rtakeWhile (· == '/')
          = List.replicate (path.toList.rtakeWhile (· == '/')).length '/' := by
        rw [List.eq_replicate_length]
        intro c hc
        have hslash := List.mem_rtakeWhile_imp hc
        exact beq_iff_eq.mp hslash
      use (path.toList.rtakeWhile (· == '/')).length
      rw [← hslashes, List.rdropWhile_append_rtakeWhile]

namespace Validation

theorem any_below?_iff {directory path : String} {isText : String → Bool} :
  (below? directory path).any isText = true ↔ ∃ relative, isText relative = true ∧
    path = directory ++ relative
  := by
  constructor
  · intro h
    rw [below?] at h
    split at h
    · rename_i hstarts
      obtain ⟨relative, rfl⟩ := Text.startsWith_eq_true_iff.mp hstarts
      rw [Text.dropStart_append] at h
      exact ⟨relative, h, rfl⟩
    · cases h
  · rintro ⟨relative, h, rfl⟩
    rw [below?_append]
    apply h

theorem isSkillText_iff {relative : String} :
  isSkillText relative = true ↔ ∃ part, '/' ∉ part.toList ∧
    relative = part ++ "/" ++ Compile.skillFile
  := by
  rw [isSkillText]
  constructor
  · intro h
    split at h
    · rename_i part file hsegments
      have hpart : part ∈ Text.segments relative := by
        rw [hsegments]
        apply List.mem_cons_self
      refine ⟨part, Text.slash_not_mem_of_mem_segments hpart, ?_⟩
      rw [← Text.join_segments relative, hsegments, beq_iff_eq.mp h]
      rfl
    · cases h
  · rintro ⟨part, hpart, rfl⟩
    rw [Text.segments_append hpart, Text.segments_of_not_mem (by decide)]
    rfl

theorem isAgentText_iff {relative : String} :
  isAgentText relative = true ↔ '/' ∉ relative.toList ∧ ∃ stem, relative = stem ++ ".md"
  := by
  rw [isAgentText, Bool.and_eq_true, beq_iff_eq, List.length_eq_one_iff]
  apply and_congr
  · constructor
    · rintro ⟨segment, hsegments⟩
      rw [← Text.eq_of_segments_eq_singleton hsegments]
      apply Text.slash_not_mem_of_mem_segments (s := relative)
      rw [hsegments]
      apply List.mem_cons_self
    · intro h
      exact ⟨relative, Text.segments_of_not_mem h⟩
  · constructor
    · intro h
      rw [Text.endsWith, List.isPrefixOf_iff_prefix, List.reverse_prefix] at h
      obtain ⟨stem, hstem⟩ := h
      use String.ofList stem
      rw [← String.toList_inj, String.toList_append, String.toList_ofList, hstem]
    · rintro ⟨stem, rfl⟩
      apply Text.endsWith_append

theorem isSkillPath_iff {directory path : String} :
  isSkillPath (directory ++ "/") path = true ↔ IsSkillIn directory path
  := by
  rw [isSkillPath, any_below?_iff, IsSkillIn]
  simp only [isSkillText_iff]
  constructor
  · rintro ⟨_, ⟨part, hpart, rfl⟩, rfl⟩
    refine ⟨part, hpart, ?_⟩
    simp [← String.toList_inj, Compile.skillFile]
  · rintro ⟨part, hpart, rfl⟩
    refine ⟨_, ⟨part, hpart, rfl⟩, ?_⟩
    simp [← String.toList_inj, Compile.skillFile]

theorem isAgentPath_iff {directory path : String} :
  isAgentPath (directory ++ "/") path = true ↔ IsAgentIn directory path
  := by
  rw [isAgentPath, any_below?_iff, IsAgentIn]
  simp only [isAgentText_iff, and_assoc]

/-! ### Declared paths -/

/-- A manifest declares a path, which stands behind `./`, for a kind of content. -/
def Declares (manifest : Value) (kind path : String) : Prop :=
  manifest.field? kind = some (.str ("./" ++ path))

/-- The directory of a kind of documents is the declared one, or else the usual one. -/
def IsDirectoryOf (manifest : Value) (kind usual directory : String) : Prop :=
  (∃ path, Declares manifest kind path ∧ IsTrimmed path directory) ∨
    (manifest.field? kind = none ∧ directory = usual)

theorem entryPath_append (path : String) :
  entryPath ("./" ++ path) = path
  := by
  rw [entryPath, Text.startsWith_append, if_pos rfl]
  apply Text.dropStart_append

section

variable {manifest : Value} (h : Schema.plugin.schema.Accepts manifest) {kind : String}
  (hkind : kind ∈ ["skills", "agents", "hooks"])

include h hkind

/-- What a manifest that fits its schema declares stands behind `./`. -/
theorem exists_declares {v : Value} (hfield : manifest.field? kind = some v) :
  ∃ path, v = .str ("./" ++ path)
  := by
  have haccepts : ∀ {note}, (Schema.relativePath note).Accepts v →
      ∃ path, v = .str ("./" ++ path) := by
    intro note haccepts
    rw [Schema.relativePath, Schema.Accepts, Schema.Accepts] at haccepts
    obtain ⟨s, rfl, hrule⟩ := haccepts
    obtain ⟨path, rfl⟩ := hrule _ List.mem_cons_self
    exact ⟨path, rfl⟩
  rw [Schema.plugin, Schema.Accepts] at h
  obtain ⟨entries, -, -, hfields, -⟩ := h
  simp only [Schema.AcceptsFields] at hfields
  obtain ⟨-, -, -, -, -, -, -, -, hskills, hagents, hhooks, -⟩ := hfields
  simp only [List.mem_cons, List.not_mem_nil, or_false] at hkind
  rcases hkind with rfl | rfl | rfl
  · apply haccepts (hskills v hfield)
  · apply haccepts (hagents v hfield)
  · apply haccepts (hhooks v hfield)

theorem declared_iff {declared : String} :
  text? manifest kind = some declared ↔ ∃ path, declared = "./" ++ path ∧
    Declares manifest kind path
  := by
  rw [text?_eq_some_iff]
  constructor
  · intro hfield
    obtain ⟨path, heq⟩ := exists_declares h hkind hfield
    cases heq
    exact ⟨path, rfl, hfield⟩
  · rintro ⟨path, rfl, hdeclares⟩
    exact hdeclares

theorem undeclared_iff :
  text? manifest kind = none ↔ manifest.field? kind = none
  := by
  cases hfield : manifest.field? kind with
  | none => simp [text?, hfield]
  | some v =>
      obtain ⟨path, rfl⟩ := exists_declares h hkind hfield
      simp [text?, hfield]

/-- The directory of a kind that validation looks in. -/
theorem directoryOf_eq_iff {usual directory : String} :
  directoryOf manifest kind (usual ++ "/") = directory ++ "/"
    ↔ IsDirectoryOf manifest kind usual directory
  := by
  have hcancel : ∀ s t : String, s ++ "/" = t ++ "/" ↔ s = t := by
    intro s t
    rw [← String.toList_inj, ← String.toList_inj, String.toList_append, String.toList_append,
      List.append_cancel_right_eq]
  rw [directoryOf, IsDirectoryOf]
  cases htext : text? manifest kind with
  | none =>
      have hnone := (undeclared_iff h hkind).mp htext
      dsimp only
      rw [hcancel, hnone]
      simp [Declares, hnone, eq_comm]
  | some declared =>
      obtain ⟨path, rfl, hdeclares⟩ := (declared_iff h hkind).mp htext
      dsimp only
      rw [entryDirectory, hcancel, entryPath_append, ← isTrimmed_iff]
      constructor
      · intro htrimmed
        exact Or.inl ⟨path, hdeclares, htrimmed⟩
      · rintro (⟨path', hdeclares', htrimmed⟩ | ⟨hnone, -⟩)
        · have hsame : "./" ++ path = "./" ++ path' := by
            rw [Declares, hdeclares] at hdeclares'
            injection hdeclares' with heq
            injection heq
          rw [← entryPath_append path, hsame, entryPath_append]
          apply htrimmed
        · rw [hdeclares] at hnone
          cases hnone

end

/-! ### Headers -/

/-- A document has a header that fits a schema and has a name of a language. -/
def HasHeader (IsName : List Char → Prop) (d : DocumentSchema) (content : String) : Prop :=
  ∃ v name, Header.parse content = .ok (some v) ∧ d.schema.Accepts v ∧
    v.field? "name" = some (.str name) ∧ IsName name.toList

theorem HasHeader.mono {IsName IsName' : List Char → Prop} {d : DocumentSchema} {content : String}
    (h : HasHeader IsName d content) (hname : ∀ cs, IsName cs → IsName' cs) :
  HasHeader IsName' d content
  := by
  obtain ⟨v, name, hparse, haccepts, hfield, hnamed⟩ := h
  exact ⟨v, name, hparse, haccepts, hfield, hname _ hnamed⟩

/-- Documents whose schema asks for a name have no errors exactly if they have a header that fits
it, with a name that is in kebab case but for a line feed that may come after it. -/
theorem headerIssues_iff {d : DocumentSchema} {content location : String}
    (hname : ∀ v, d.schema.Accepts v → ∃ name, v.field? "name" = some (.str name) ∧ name ≠ "") :
  (∃ v? issues, headerIssues d content location = .ok (v?, issues) ∧ NoErrors issues)
    ↔ HasHeader (Text.MayEndLine Slug.IsKebabCase) d content
  := by
  constructor
  · rintro ⟨v?, issues, h, hnone⟩
    rw [headerIssues] at h
    obtain ⟨header?, hparse, h⟩ := bind_eq_ok_iff.mp h
    rw [mapError_eq_ok_iff] at hparse
    cases header? with
    | none =>
        cases h
        cases hnone _ (List.mem_singleton_self _)
    | some v =>
        dsimp only at h
        split at h
        · cases h
          obtain ⟨hissues, hnameIssues⟩ := noErrors_append_iff.mp hnone
          have haccepts := noErrors_issues_iff.mp hissues
          obtain ⟨name, hfield, hne⟩ := hname v haccepts
          have hkebab := (noErrors_nameIssues_iff hfield hne).mp hnameIssues
          exact ⟨v, name, hparse, haccepts, hfield, Slug.isKebabName_iff.mp hkebab⟩
        · cases h
  · rintro ⟨v, name, hparse, haccepts, hfield, hkebab⟩
    have hfits := (Schema.violations_eq_nil_iff _ _).mpr haccepts
    refine ⟨_, _, headerIssues_of_fits hparse hfits location, ?_⟩
    rw [nameIssues_eq_nil hfield (Slug.isKebabName_iff.mpr hkebab)]
    apply noErrors_nil

theorem noErrors_deprecationIssues (v : Value) (location : String) :
  NoErrors (deprecationIssues v location)
  := by
  rw [deprecationIssues, NoErrors, List.forall_mem_map]
  intro name _
  rfl

theorem noErrors_directoryIssues (v : Value) (location : String) :
  NoErrors (directoryIssues v location)
  := by
  rw [directoryIssues]
  split
  · split
    · apply noErrors_nil
    · apply noErrors_warning
  · apply noErrors_nil

/-- What is found beside the schema and the name of a skill is no error. -/
theorem passes_skillIssues_iff {content : String} (location : String) :
  Passes (skillIssues content location)
    ↔ HasHeader (Text.MayEndLine Slug.IsKebabCase) Schema.skillHeader content
  := by
  rw [← headerIssues_iff fun v h => exists_name h (by decide) fun _ => id, skillIssues]
  constructor
  · rintro ⟨issues, h, hnone⟩
    obtain ⟨⟨v?, found⟩, hheader, h⟩ := bind_eq_ok_iff.mp h
    refine ⟨v?, found, hheader, ?_⟩
    cases v? with
    | none =>
        cases h
        apply hnone
    | some v =>
        cases h
        rw [noErrors_append_iff, noErrors_append_iff] at hnone
        exact hnone.1.1
  · rintro ⟨v?, issues, hheader, hnone⟩
    rw [hheader, ok_bind]
    cases v? with
    | none => exact ⟨_, rfl, hnone⟩
    | some v =>
        refine ⟨_, rfl, ?_⟩
        rw [noErrors_append_iff, noErrors_append_iff]
        exact ⟨⟨hnone, noErrors_deprecationIssues v location⟩, noErrors_directoryIssues v location⟩

theorem passes_agentIssues_iff {content : String} (location : String) :
  Passes (agentIssues content location)
    ↔ HasHeader (Text.MayEndLine Slug.IsKebabCase) Schema.agentHeader content
  := by
  rw [← headerIssues_iff fun v h => exists_name h (by decide) fun _ => id, agentIssues]
  constructor
  · rintro ⟨issues, h, hnone⟩
    obtain ⟨⟨v?, found⟩, hheader, h⟩ := bind_eq_ok_iff.mp h
    cases h
    exact ⟨v?, found, hheader, hnone⟩
  · rintro ⟨v?, issues, hheader, hnone⟩
    rw [hheader, ok_bind]
    exact ⟨issues, rfl, hnone⟩

theorem passes_documentIssues_iff {skills agents : String} {file : String × String} :
  Passes (documentIssues (skills ++ "/") (agents ++ "/") file)
    ↔ (IsSkillIn skills file.1 →
      HasHeader (Text.MayEndLine Slug.IsKebabCase) Schema.skillHeader file.2) ∧
      (¬ IsSkillIn skills file.1 → IsAgentIn agents file.1 →
        HasHeader (Text.MayEndLine Slug.IsKebabCase) Schema.agentHeader file.2)
  := by
  rw [documentIssues, ← isSkillPath_iff, ← isAgentPath_iff, ← passes_skillIssues_iff file.1,
    ← passes_agentIssues_iff file.1]
  split
  · rename_i hskill
    simp [hskill]
  · rename_i hskill
    split
    · rename_i hagent
      simp [hskill, hagent]
    · rename_i hagent
      have hpasses : Passes (.ok []) := ⟨[], rfl, noErrors_nil⟩
      simp [hskill, hagent, hpasses]

/-! ### Hooks -/

theorem passes_hooksEntryIssues_iff {files : Table String} {path : String} :
  Passes (hooksEntryIssues files ("./" ++ path))
    ↔ ∃ text v, files.get? path = some text ∧ (∃ c ∈ text.toList, Text.isBlank c = false) ∧
    Json.read text = .ok v ∧
      Schema.hooks.schema.Accepts v
  := by
  rw [hooksEntryIssues, entryPath_append]
  constructor
  · rintro ⟨issues, h, hnone⟩
    split at h
    · cases h
      cases hnone _ (List.mem_singleton_self _)
    · rename_i text htext
      split at h
      · cases h
        cases hnone _ (List.mem_singleton_self _)
      · rename_i hblank
        obtain ⟨found, hfound, h⟩ := bind_eq_ok_iff.mp h
        rw [jsonOf] at hfound
        split at hfound
        · rename_i v hread
          cases hfound
          cases h
          refine ⟨text, v, htext, ?_, hread, noErrors_issues_iff.mp hnone⟩
          simpa [Text.allBlank] using hblank
        · split at hfound
          · cases hfound
            cases h
            cases hnone _ (List.mem_singleton_self _)
          · cases hfound
  · rintro ⟨text, v, htext, hblank, hread, haccepts⟩
    have hnotBlank : Text.allBlank text = false := by
      simpa [Text.allBlank] using hblank
    refine ⟨hooksIssues v path, ?_, noErrors_issues_iff.mpr haccepts⟩
    rw [htext]
    dsimp only
    rw [hnotBlank, jsonOf, hread]
    rfl

/-! ### Entry points -/

/-- Validation looks in one directory for each kind of documents. -/
theorem exists_directoryOf (manifest : Value) (kind usual : String) :
  ∃ directory, directoryOf manifest kind (usual ++ "/") = directory ++ "/"
  := by
  rw [directoryOf]
  cases text? manifest kind with
  | none => exact ⟨usual, rfl⟩
  | some declared => exact ⟨Text.trimSlashes (entryPath declared), rfl⟩

section

variable {manifest : Value} (h : Schema.plugin.schema.Accepts manifest) {files : Table String}

include h

theorem declared_directory_iff {kind usual directory : String}
    (hkind : kind ∈ ["skills", "agents", "hooks"])
    (hdirectory : directoryOf manifest kind usual = directory ++ "/") {isText : String → Bool} :
  (∀ declared, text? manifest kind = some declared →
      ∃ path ∈ files.names, (below? (entryDirectory declared) path).any isText = true)
    ↔ (manifest.field? kind ≠ none → ∃ path ∈ files.names,
      (below? (directory ++ "/") path).any isText = true)
  := by
  rw [ne_eq, ← undeclared_iff h hkind, ← hdirectory, directoryOf]
  cases text? manifest kind with
  | none => simp
  | some declared => simp

/-- The entry points of a manifest that fits its schema have no errors exactly if there is a
document in each declared directory, and the declared file of hooks holds hooks. -/
theorem passes_entryIssues_iff_declared {skills agents : String}
    (hskills : directoryOf manifest "skills" Manifest.skillsDirectory = skills ++ "/")
    (hagents : directoryOf manifest "agents" Manifest.agentsDirectory = agents ++ "/") :
  Passes (entryIssues files manifest)
    ↔ (manifest.field? "skills" ≠ none → ∃ path ∈ files.names, IsSkillIn skills path) ∧
      (manifest.field? "agents" ≠ none → ∃ path ∈ files.names, IsAgentIn agents path) ∧
      ∀ path, Declares manifest "hooks" path → ∃ text v, files.get? path = some text ∧
        (∃ c ∈ text.toList, Text.isBlank c = false) ∧ Json.read text = .ok v ∧
        Schema.hooks.schema.Accepts v
  := by
  have hhooks :
      (∀ declared, text? manifest "hooks" = some declared →
          Passes (hooksEntryIssues files declared))
        ↔ ∀ path, Declares manifest "hooks" path →
          Passes (hooksEntryIssues files ("./" ++ path)) := by
    have hdeclared : ∀ declared, text? manifest "hooks" = some declared
        ↔ ∃ path, declared = "./" ++ path ∧ Declares manifest "hooks" path :=
          fun _ => declared_iff h (by decide)
    simp only [hdeclared]
    constructor
    · intro hall path hpath
      exact hall _ ⟨path, rfl, hpath⟩
    · rintro hall _ ⟨path, rfl, hpath⟩
      exact hall path hpath
  simp only [← isSkillPath_iff, ← isAgentPath_iff, ← passes_hooksEntryIssues_iff]
  rw [passes_entryIssues_iff, declared_directory_iff h (by decide) hskills,
    declared_directory_iff h (by decide) hagents, hhooks]
  rfl

end

end Validation

/-! ### Bundles -/

open Validation

/-- What a bundle with some files has to be, if its names and its version are to be texts of two
languages: its manifest fits, there is what the manifest declares, and every skill and agent has a
header. A path in both directories may be that of a skill; it is that of an agent only if it is
not. -/
structure WellFormed (IsName IsVersion : List Char → Prop) (files : Table String)
    (manifest : Entries) (skills agents : String) : Prop where
  manifest_read : ∃ text, files.get? Manifest.path = some text ∧
    Json.read text = .ok (.map manifest)
  manifest_accepted : Schema.plugin.schema.Accepts (.map manifest)
  name : ∃ name, (Value.map manifest).field? "name" = some (.str name) ∧ IsName name.toList
  version : ∀ version, (Value.map manifest).field? "version" = some (.str version) →
    IsVersion version.toList
  skills_directory : IsDirectoryOf (.map manifest) "skills" "skills" skills
  agents_directory : IsDirectoryOf (.map manifest) "agents" "agents" agents
  skills_declared : (Value.map manifest).field? "skills" ≠ none →
    ∃ path ∈ files.names, IsSkillIn skills path
  agents_declared : (Value.map manifest).field? "agents" ≠ none →
    ∃ path ∈ files.names, IsAgentIn agents path
  hooks_declared : ∀ path, Declares (.map manifest) "hooks" path →
    ∃ text v, files.get? path = some text ∧ (∃ c ∈ text.toList, Text.isBlank c = false) ∧
      Json.read text = .ok v ∧ Schema.hooks.schema.Accepts v
  skill_headers : ∀ f ∈ files, IsSkillIn skills f.1 → HasHeader IsName Schema.skillHeader f.2
  agent_headers : ∀ f ∈ files, ¬ IsSkillIn skills f.1 → IsAgentIn agents f.1 →
    HasHeader IsName Schema.agentHeader f.2

theorem WellFormed.mono {IsName IsName' IsVersion IsVersion' : List Char → Prop}
    {files : Table String} {manifest : Entries} {skills agents : String}
    (h : WellFormed IsName IsVersion files manifest skills agents)
    (hname : ∀ cs, IsName cs → IsName' cs) (hversion : ∀ cs, IsVersion cs → IsVersion' cs) :
  WellFormed IsName' IsVersion' files manifest skills agents
  := by
  obtain ⟨name, hfield, hnamed⟩ := h.name
  exact { h with
    name := ⟨name, hfield, hname _ hnamed⟩
    version := fun version hfield => hversion _ (h.version version hfield)
    skill_headers := fun f hf hskill => (h.skill_headers f hf hskill).mono hname
    agent_headers := fun f hf hskill hagent => (h.agent_headers f hf hskill hagent).mono hname }

/-- Validation finds no errors in exactly the well-formed bundles. -/
theorem Bundle.isValid_iff_wellFormed {b : Bundle} :
  b.IsValid ↔ ∃ manifest skills agents, WellFormed (Text.MayEndLine Slug.IsKebabCase)
    (Text.MayEndLine (Version.IsVersion Text.isDigit)) b.files manifest skills agents
  := by
  rw [isValid_iff]
  constructor
  · rintro ⟨manifest, issues, hmanifest, hissues, hentries, hdocuments⟩
    obtain ⟨text, htext, hread, hnone⟩ := text_of_manifestOf hmanifest hissues
    obtain ⟨haccepts, ⟨name, hfield, hname⟩, hversion⟩ := noErrors_manifestIssues_iff.mp hnone
    obtain ⟨skills, hskills⟩ := exists_directoryOf (.map manifest) "skills" "skills"
    obtain ⟨agents, hagents⟩ := exists_directoryOf (.map manifest) "agents" "agents"
    obtain ⟨hskillsEntry, hagentsEntry, hhooks⟩ :=
      (passes_entryIssues_iff_declared haccepts hskills hagents).mp hentries
    have hheaders : ∀ f ∈ b.files, Passes (documentIssues (skills ++ "/") (agents ++ "/") f) := by
      rw [← hskills, ← hagents]
      apply hdocuments
    refine ⟨manifest, skills, agents, ?_⟩
    exact {
      manifest_read := ⟨text, htext, hread⟩
      manifest_accepted := haccepts
      name := ⟨name, hfield, Slug.isKebabName_iff.mp hname⟩
      version := fun version hfield => Version.isSemantic_iff.mp (hversion version hfield)
      skills_directory := (directoryOf_eq_iff haccepts (by decide)).mp hskills
      agents_directory := (directoryOf_eq_iff haccepts (by decide)).mp hagents
      skills_declared := hskillsEntry
      agents_declared := hagentsEntry
      hooks_declared := hhooks
      skill_headers := fun f hf => (passes_documentIssues_iff.mp (hheaders f hf)).1
      agent_headers := fun f hf => (passes_documentIssues_iff.mp (hheaders f hf)).2 }
  · rintro ⟨manifest, skills, agents, h⟩
    obtain ⟨text, htext, hread⟩ := h.manifest_read
    obtain ⟨name, hfield, hname⟩ := h.name
    have hskills := (directoryOf_eq_iff h.manifest_accepted (by decide)).mpr h.skills_directory
    have hagents := (directoryOf_eq_iff h.manifest_accepted (by decide)).mpr h.agents_directory
    refine ⟨manifest, manifestIssues (.map manifest) Manifest.path, ?_, ?_, ?_, ?_⟩
    · rw [manifestOf, htext]
      dsimp only
      rw [jsonOf, hread]
      rfl
    · rw [noErrors_manifestIssues_iff]
      exact ⟨h.manifest_accepted, ⟨name, hfield, Slug.isKebabName_iff.mpr hname⟩,
        fun version hfield => Version.isSemantic_iff.mpr (h.version version hfield)⟩
    · rw [passes_entryIssues_iff_declared h.manifest_accepted hskills hagents]
      exact ⟨h.skills_declared, h.agents_declared, h.hooks_declared⟩
    · intro f hf
      have hpasses := passes_documentIssues_iff.mpr ⟨h.skill_headers f hf, h.agent_headers f hf⟩
      rw [← hskills, ← hagents] at hpasses
      apply hpasses

/-- Validation accepts bundles that are well-formed, but for line feeds at the end of names and
versions and for digits of other scripts in versions, and no others; it ends with a report that
accepts each well-formed bundle. -/
theorem Bundle.ok_iff_wellFormed (b : Bundle) :
  (∀ r, b.validate = .ok r →
    (r.ok = true ↔ ∃ manifest skills agents, WellFormed (Text.MayEndLine Slug.IsKebabCase)
    (Text.MayEndLine (Version.IsVersion Text.isDigit)) b.files manifest skills agents)) ∧
  ∀ manifest skills agents,
    WellFormed Slug.IsKebabCase (Version.IsVersion Text.isAsciiDigit) b.files manifest skills
      agents → ∃ r, b.validate = .ok r ∧ r.ok = true
  := by
  constructor
  · intro r hr
    rw [← isValid_iff_wellFormed]
    constructor
    · intro hok
      exact ⟨r, hr, hok⟩
    · rintro ⟨r', hr', hok⟩
      rw [hr] at hr'
      cases hr'
      apply hok
  · intro manifest skills agents h
    have hname : ∀ cs, Slug.IsKebabCase cs → Text.MayEndLine Slug.IsKebabCase cs := fun _ => Or.inl
    have hversion : ∀ cs, Version.IsVersion Text.isAsciiDigit cs →
        Text.MayEndLine (Version.IsVersion Text.isDigit) cs := by
      intro cs hcs
      exact Or.inl (hcs.mono fun _ => Text.isDigit_of_isAsciiDigit)
    exact isValid_iff_wellFormed.mpr ⟨manifest, skills, agents, h.mono hname hversion⟩

/-! ### A small bundle -/

/-- A manifest that declares skills. -/
def Manifest.named (name : String) : Entries :=
    [(.str "name", .str name), (.str "skills", .str "./skills/")]

/-- The text of a skill. -/
def Compile.someSkill : String :=
  Header.render [(.str "name", .str "react"), (.str "description", .str "A library")] ""

/-- A bundle under some name with a skill. -/
def Bundle.named (name : String) : Bundle where
  files :=
    [(Manifest.path, Json.write (.map (Manifest.named name)) ++ "\n"),
     ("skills/react/SKILL.md", Compile.someSkill)]
  location := none

theorem Manifest.read_named (name : String) :
  Json.read (Json.write (.map (Manifest.named name)) ++ "\n") = .ok (.map (Manifest.named name))
  := by
  apply Json.read_write
  rfl

theorem Manifest.accepts_named {name : String} (hne : name ≠ "") :
  Schema.plugin.schema.Accepts (.map (Manifest.named name))
  := by
  rw [Schema.plugin, Schema.Accepts]
  refine ⟨_, rfl, List.forall_mem_singleton.mpr rfl, ?_, fun h => by cases h⟩
  simp only [Schema.AcceptsFields]
  refine ⟨?name, ?version, ?description, ?author, ?license, ?homepage, ?repository, ?keywords,
    ?skills, ?agents, ?hooks, trivial⟩
  case name =>
    rintro v ⟨⟩
    rw [Schema.Accepts, Schema.someText, Schema.Accepts]
    exact ⟨name, rfl, List.forall_mem_singleton.mpr hne⟩
  case skills =>
    rintro v ⟨⟩
    rw [Schema.relativePath, Schema.Accepts, Schema.Accepts]
    exact ⟨"./skills/", rfl, List.forall_mem_singleton.mpr ⟨"skills/", rfl⟩⟩
  all_goals rintro v ⟨⟩

theorem Compile.hasHeader_someSkill :
  HasHeader Slug.IsKebabCase Schema.skillHeader someSkill
  := by
  have hkept : Header.kept [(.str "name", .str "react"), (.str "description", .str "A library")]
      = Yaml.textEntries [("name", "react"), ("description", "A library")] := rfl
  have hparse := parse_render_texts hkept (List.cons_ne_nil _ _) (by decide) ""
  have hback : backFields [("name", "react"), ("description", "A library")]
      = skillFields "react" "A library" := by
    have hname : Yaml.readBack false "react" = "react" := by decide
    have hdescription : Yaml.readBack false "A library" = "A library" := by decide
    simp only [backFields, List.map_cons, List.map_nil, hname, hdescription, skillFields]
  rw [hback] at hparse
  refine ⟨_, "react", hparse, ?_, rfl, ?_⟩
  · rw [← Schema.violations_eq_nil_iff]
    apply fits_skillHeader
    all_goals decide
  · rw [← Slug.isKebab_iff]
    decide

/-- The bundle is well-formed if its name and that of the skill are names. -/
theorem Bundle.wellFormed_named {IsName IsVersion : List Char → Prop} {name : String}
    (hne : name ≠ "") (hname : IsName name.toList)
    (hskill : HasHeader IsName Schema.skillHeader Compile.someSkill) :
  WellFormed IsName IsVersion (named name).files (Manifest.named name) "skills" "agents"
  where
  manifest_read := ⟨_, rfl, Manifest.read_named name⟩
  manifest_accepted := Manifest.accepts_named hne
  name := ⟨name, rfl, hname⟩
  version := by
    intro version hfield
    cases hfield
  skills_directory := Or.inl ⟨"skills/", rfl, isTrimmed_iff.mpr (by decide)⟩
  agents_directory := Or.inr ⟨rfl, rfl⟩
  skills_declared :=
    fun _ => ⟨"skills/react/SKILL.md", by simp [named, Table.names], "react", by decide, by decide⟩
  agents_declared := fun h => absurd rfl h
  hooks_declared := by
    intro path hpath
    cases hpath
  skill_headers := by
    have hmanifest : ¬ IsSkillIn "skills" Manifest.path := by
      rw [← isSkillPath_iff]
      decide
    intro f hf hin
    simp only [named, List.mem_cons, List.not_mem_nil, or_false] at hf
    rcases hf with rfl | rfl
    · exact absurd hin hmanifest
    · exact hskill
  agent_headers := by
    have hnone : ∀ path ∈ [Manifest.path, "skills/react/SKILL.md"], ¬ IsAgentIn "agents" path := by
      simp only [← isAgentPath_iff]
      decide
    intro f hf _ hin
    apply absurd hin (hnone _ _)
    apply List.mem_map_of_mem (f := (·.1)) hf

/-- Validation accepts a well-formed bundle. -/
theorem Bundle.ok_iff_wellFormed_demo :
  WellFormed Slug.IsKebabCase (Version.IsVersion Text.isAsciiDigit) (named "demo").files
    (Manifest.named "demo") "skills" "agents" ∧ ∃ r, (named "demo").validate = .ok r ∧ r.ok = true
  := by
  have hname : Slug.IsKebabCase "demo".toList := by
    rw [← Slug.isKebab_iff]
    decide
  have h : WellFormed Slug.IsKebabCase (Version.IsVersion Text.isAsciiDigit) (named "demo").files
      (Manifest.named "demo") "skills" "agents" :=
        wellFormed_named (by decide) hname Compile.hasHeader_someSkill
  exact ⟨h, (ok_iff_wellFormed (named "demo")).2 _ _ _ h⟩

/-- Validation accepts a bundle whose name ends in a line feed, and that is not well-formed. -/
theorem Bundle.ok_not_wellFormed :
  (∃ r, (named "demo\n").validate = .ok r ∧ r.ok = true) ∧ ∀ manifest skills agents,
    ¬ WellFormed Slug.IsKebabCase (Version.IsVersion Text.isAsciiDigit)
      (named "demo\n").files manifest skills agents
  := by
  constructor
  · apply isValid_iff_wellFormed.mpr
    refine ⟨_, _, _, wellFormed_named (by decide) (Slug.isKebabName_iff.mp (by decide)) ?_⟩
    apply Compile.hasHeader_someSkill.mono
    exact fun _ => Or.inl
  · intro manifest skills agents h
    obtain ⟨text, htext, hread⟩ := h.manifest_read
    obtain ⟨name, hfield, hname⟩ := h.name
    have hmanifest : manifest = Manifest.named "demo\n" := by
      cases htext
      rw [Manifest.read_named] at hread
      injection hread with heq
      injection heq with heq
      exact heq.symm
    rw [hmanifest] at hfield
    cases hfield
    apply hname.feed_not_mem
    decide

end AgentBundles
