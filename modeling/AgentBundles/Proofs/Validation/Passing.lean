import AgentBundles.Proofs.Outcome
import AgentBundles.Proofs.Validation.Compiled
import AgentBundles.Validation.Bundle

/-!
# Bundles without errors

A bundle has no errors if its manifest, what the manifest declares, and every document of it have
none; what is undeclared or missing beside is only warned about. From this a bundle with more files
has no errors either, if none of them is a document of its own.
-/

namespace AgentBundles

namespace Validation

/-- No issue is an error. -/
def NoErrors (issues : List Issue) : Prop := ∀ i ∈ issues, i.isError = false

theorem noErrors_append_iff {issues issues' : List Issue} :
  NoErrors (issues ++ issues') ↔ NoErrors issues ∧ NoErrors issues'
  := List.forall_mem_append

theorem noErrors_nil :
  NoErrors []
  := by
  intro i hi
  cases hi

theorem noErrors_warning (location message : String) :
  NoErrors [.warning location message]
  := by
  intro i hi
  rw [List.mem_singleton.mp hi]
  rfl

/-- A check has an outcome without errors. -/
def Passes (c : Checked (List Issue)) : Prop := ∃ issues, c = .ok issues ∧ NoErrors issues

/-! ### Manifests -/

/-- The check by a schema finds no errors in exactly the values that the schema accepts. -/
theorem noErrors_issues_iff {d : DocumentSchema} {v : Value} {location : String} :
  NoErrors (d.issues v location) ↔ d.schema.Accepts v
  := by
  rw [← Schema.violations_eq_nil_iff, ← DocumentSchema.violations_eq_nil_iff, DocumentSchema.issues]
  constructor
  · intro h
    rw [← List.map_eq_nil_iff, List.eq_nil_iff_forall_not_mem]
    intro i hi
    have herror := h i hi
    obtain ⟨x, -, rfl⟩ := List.mem_map.mp hi
    cases herror
  · intro h
    rw [h]
    apply noErrors_nil

/-- A record whose schema needs a name that is not empty has one. -/
theorem exists_name {needed : List String} {fields : List (String × Schema)} {others : OtherFields}
    {v : Value} {s : Schema} (h : (Schema.record needed (("name", s) :: fields) others).Accepts v)
    (hneeded : "name" ∈ needed) (hs : ∀ w, s.Accepts w → Schema.someText.Accepts w) :
  ∃ name, v.field? "name" = some (.str name) ∧ name ≠ ""
  := by
  obtain ⟨w, hfield⟩ := Schema.accepts_needed h hneeded
  have haccepts := hs w (Schema.accepts_field h List.mem_cons_self hfield)
  rw [Schema.someText, Schema.Accepts] at haccepts
  obtain ⟨name, rfl, hrules⟩ := haccepts
  exact ⟨name, hfield, hrules _ List.mem_cons_self⟩

theorem noErrors_nameIssues_iff {v : Value} {name location : String}
    (hfield : v.field? "name" = some (.str name)) (hne : name ≠ "") :
  NoErrors (nameIssues v location) ↔ Slug.isKebabName name = true
  := by
  constructor
  · intro h
    rw [nameIssues, text?, hfield] at h
    dsimp only at h
    split at h
    · rename_i hname
      simpa [hne] using hname
    · cases h _ (List.mem_singleton_self _)
  · intro hname
    rw [nameIssues_eq_nil hfield hname]
    apply noErrors_nil

theorem text?_eq_some_iff {v : Value} {name s : String} :
  text? v name = some s ↔ v.field? name = some (.str s)
  := by
  rw [text?]
  split
  · rename_i hfield
    rw [hfield]
    simp
  · rename_i hnot
    constructor
    · intro h
      cases h
    · intro h
      exact absurd h (hnot s)

theorem noErrors_versionIssues_iff {v : Value} {location : String} :
  NoErrors (versionIssues v location)
    ↔ ∀ version, v.field? "version" = some (.str version) → Version.isSemantic version = true
  := by
  simp only [← text?_eq_some_iff, versionIssues]
  cases text? v "version" with
  | none => simp [NoErrors]
  | some version =>
      cases hsemantic : Version.isSemantic version with
      | true => simp [NoErrors, hsemantic]
      | false => simp [NoErrors, hsemantic, Issue.error, Issue.isError]

theorem noErrors_descriptionIssues (v : Value) (location : String) :
  NoErrors (descriptionIssues v location)
  := by
  rw [descriptionIssues]
  split
  · apply noErrors_warning
  · apply noErrors_nil

/-- A manifest has no errors exactly if it fits its schema, with a name in kebab case and a semantic
version, if any. -/
theorem noErrors_manifestIssues_iff {entries : Entries} {location : String} :
  NoErrors (manifestIssues (.map entries) location)
    ↔ Schema.plugin.schema.Accepts (.map entries) ∧
      (∃ name, (Value.map entries).field? "name" = some (.str name) ∧ Slug.isKebabName name
        = true) ∧
      ∀ version, (Value.map entries).field? "version" = some (.str version) →
        Version.isSemantic version = true
  := by
  rw [manifestIssues]
  simp only [noErrors_append_iff, noErrors_issues_iff, noErrors_versionIssues_iff]
  apply and_congr_right
  intro haccepts
  obtain ⟨name, hfield, hne⟩ := exists_name haccepts (by decide) fun _ => id
  rw [noErrors_nameIssues_iff hfield hne, hfield]
  constructor
  · rintro ⟨⟨hname, hversion⟩, -⟩
    exact ⟨⟨name, rfl, hname⟩, hversion⟩
  · rintro ⟨⟨name', heq, hname⟩, hversion⟩
    cases heq
    exact ⟨⟨hname, hversion⟩, noErrors_descriptionIssues _ location⟩

theorem accepts_of_manifest {v : Value} {location : String}
    (h : NoErrors (manifestIssues v location)) :
  Schema.plugin.schema.Accepts v
  := by
  rw [manifestIssues.eq_def, noErrors_append_iff] at h
  apply noErrors_issues_iff.mp h.1

/-- A manifest without errors names its bundle in kebab case. -/
theorem isKebabName_of_manifest {v : Value} {location name : String}
    (h : NoErrors (manifestIssues v location)) (hfield : v.field? "name" = some (.str name)) :
  Slug.isKebabName name = true
  := by
  obtain ⟨entries, rfl, -⟩ := accepts_of_manifest h
  obtain ⟨-, ⟨name', hfield', hname⟩, -⟩ := noErrors_manifestIssues_iff.mp h
  rw [hfield] at hfield'
  cases hfield'
  apply hname

/-- A manifest is read without errors only from a text that holds it. -/
theorem text_of_manifestOf {files : Table String} {manifest : Entries} {issues : List Issue}
    (h : manifestOf files = .ok (manifest, issues)) (hnone : NoErrors issues) :
  ∃ t, files.get? Manifest.path = some t ∧ Json.read t = .ok (.map manifest) ∧
    NoErrors (manifestIssues (.map manifest) Manifest.path)
  := by
  rw [manifestOf] at h
  cases htext : files.get? Manifest.path with
  | none =>
      rw [htext] at h
      cases h
      cases hnone _ List.mem_cons_self
  | some t =>
      rw [htext] at h
      obtain ⟨found, hfound, h⟩ := bind_eq_ok_iff.mp h
      rw [jsonOf] at hfound
      cases hread : Json.read t with
      | error f =>
          rw [hread] at hfound
          dsimp only at hfound
          split at hfound
          · cases hfound
            cases h
            cases hnone _ List.mem_cons_self
          · cases hfound
      | ok v =>
          rw [hread] at hfound
          cases hfound
          cases v with
          | map entries =>
              cases h
              exact ⟨t, rfl, hread, hnone⟩
          | _ =>
              cases h
              obtain ⟨_, ⟨⟩, -⟩ := accepts_of_manifest hnone

/-! ### Warnings -/

theorem noErrors_undeclaredIssues (manifest : Value) (kind location : String) (there : Bool) :
  NoErrors (undeclaredIssues manifest kind location there)
  := by
  rw [undeclaredIssues]
  split
  · apply noErrors_warning
  · apply noErrors_nil

/-- What is not declared is no error. -/
theorem noErrors_undeclared (files : Table String) (manifest : Entries) (skills agents : String) :
  NoErrors (undeclared files manifest skills agents)
  := by
  rw [undeclared]
  split
  · apply noErrors_nil
  · rw [noErrors_append_iff, noErrors_append_iff]
    exact ⟨⟨noErrors_undeclaredIssues _ _ _ _, noErrors_undeclaredIssues _ _ _ _⟩,
      noErrors_undeclaredIssues _ _ _ _⟩

theorem noErrors_readmeIssues (files : Table String) :
  NoErrors (readmeIssues files)
  := by
  rw [readmeIssues]
  split
  · apply noErrors_nil
  · apply noErrors_warning

/-! ### Entry points -/

/-- A declared directory has no errors exactly if there is a document of its kind in it. -/
theorem noErrors_directoryEntryIssues_iff {paths : List String} {kind declared : String}
    {isText : String → Bool} :
  NoErrors (directoryEntryIssues paths kind declared isText)
    ↔ ∃ path ∈ paths, (below? (entryDirectory declared) path).any isText = true
  := by
  constructor
  · intro h
    rw [directoryEntryIssues] at h
    split at h
    · have herror := h _ (List.mem_singleton_self _)
      cases herror
    · split at h
      · rename_i hany
        obtain ⟨relative, hrelative, htext⟩ := List.any_eq_true.mp hany
        obtain ⟨path, hpath, hbelow⟩ := List.mem_filterMap.mp hrelative
        refine ⟨path, hpath, ?_⟩
        rw [hbelow]
        apply htext
      · have herror := h _ (List.mem_singleton_self _)
        cases herror
  · rintro ⟨path, hpath, htext⟩
    rw [directoryEntryIssues_eq_nil hpath htext]
    apply noErrors_nil

theorem passes_declaredIssues_iff {manifest : Value} {kind : String}
    {issues : String → Checked (List Issue)} :
  Passes (declaredIssues manifest kind issues) ↔ ∀ declared, text? manifest kind = some declared →
    Passes (issues declared)
  := by
  rw [declaredIssues]
  cases text? manifest kind with
  | none => simp [Passes, NoErrors]
  | some declared => simp

theorem passes_entryIssues_iff {files : Table String} {manifest : Value} :
  Passes (entryIssues files manifest)
    ↔ (∀ declared, text? manifest "skills" = some declared →
        ∃ path ∈ files.names, (below? (entryDirectory declared) path).any isSkillText = true) ∧
      (∀ declared, text? manifest "agents" = some declared →
        ∃ path ∈ files.names, (below? (entryDirectory declared) path).any isAgentText = true) ∧
      ∀ declared, text? manifest "hooks" = some declared → Passes (hooksEntryIssues files declared)
  := by
  have hdirectory : ∀ {kind : String} {isText : String → Bool},
      Passes (declaredIssues manifest kind fun declared => .ok
        (directoryEntryIssues files.names kind declared isText))
        ↔ ∀ declared, text? manifest kind = some declared →
          ∃ path ∈ files.names, (below? (entryDirectory declared) path).any isText = true := by
    intro kind isText
    rw [passes_declaredIssues_iff]
    simp only [Passes, Except.ok.injEq, exists_eq_left', noErrors_directoryEntryIssues_iff]
  rw [← hdirectory, ← hdirectory, ← passes_declaredIssues_iff, entryIssues]
  constructor
  · rintro ⟨issues, h, hnone⟩
    obtain ⟨skills, hskills, h⟩ := bind_eq_ok_iff.mp h
    obtain ⟨agents, hagents, h⟩ := bind_eq_ok_iff.mp h
    obtain ⟨hooks, hhooks, h⟩ := bind_eq_ok_iff.mp h
    cases h
    obtain ⟨hfirst, hnone⟩ := noErrors_append_iff.mp hnone
    obtain ⟨hnoneSkills, hnoneAgents⟩ := noErrors_append_iff.mp hfirst
    exact ⟨⟨skills, hskills, hnoneSkills⟩, ⟨agents, hagents, hnoneAgents⟩, hooks, hhooks, hnone⟩
  · rintro ⟨⟨skills, hskills, hnoneSkills⟩, ⟨agents, hagents, hnoneAgents⟩, hooks, hhooks, hnone⟩
    refine ⟨skills ++ agents ++ hooks, ?_, ?_⟩
    · rw [hskills, ok_bind, hagents, ok_bind, hhooks, ok_bind]
      rfl
    · rw [noErrors_append_iff, noErrors_append_iff]
      exact ⟨⟨hnoneSkills, hnoneAgents⟩, hnone⟩

/-- Every file passes a check exactly if all of them can be checked and nothing that is found is an
error. -/
theorem forall_passes_iff {check : String × String → Checked (List Issue)} {files : Table String} :
  (∀ f ∈ files, Passes (check f)) ↔ ∃ documents, files.mapM check = .ok documents ∧
    NoErrors documents.flatten
  := by
  constructor
  · intro h
    have hall : ∀ f ∈ files, ∃ issues, check f = .ok issues := by
      intro f hf
      obtain ⟨issues, hissues, -⟩ := h f hf
      exact ⟨issues, hissues⟩
    obtain ⟨documents, hdocuments⟩ := exists_mapM_eq_ok_iff.mpr hall
    refine ⟨documents, hdocuments, ?_⟩
    intro i hi
    obtain ⟨issues, hissues, hi⟩ := List.mem_flatten.mp hi
    obtain ⟨f, hf, hfound⟩ := (mem_of_mapM_eq_ok hdocuments).mp hissues
    obtain ⟨issues', hissues', hnone⟩ := h f hf
    rw [hfound] at hissues'
    cases hissues'
    apply hnone i hi
  · rintro ⟨documents, hdocuments, hnone⟩ f hf
    obtain ⟨issues, hissues⟩ := exists_mapM_eq_ok_iff.mp ⟨documents, hdocuments⟩ f hf
    refine ⟨issues, hissues, ?_⟩
    intro i hi
    apply hnone
    rw [List.mem_flatten]
    exact ⟨issues, (mem_of_mapM_eq_ok hdocuments).mpr ⟨f, hf, hissues⟩, hi⟩

end Validation

/-! ### Bundles -/

open Validation

theorem Report.ok_iff {r : Report} :
  r.ok = true ↔ NoErrors r.issues
  := by
  rw [Report.ok, List.isEmpty_iff, Report.errors, List.filter_eq_nil_iff]
  simp only [NoErrors, Bool.not_eq_true]

/-- A report is about the bundle that was validated. -/
theorem bundle_of_validate {b : Bundle} {r : Report} (h : b.validate = .ok r) :
  r.bundle = b
  := by
  obtain ⟨manifest, issues, entries, documents, -, -, -, rfl⟩ := Bundle.validate_eq_ok_iff.mp h
  rfl

/-- A bundle was validated without errors. -/
def Bundle.IsValid (b : Bundle) : Prop := ∃ r, b.validate = .ok r ∧ r.ok = true

/-- A bundle has no errors exactly if its manifest, the entry points and every file have none. -/
theorem Bundle.isValid_iff {b : Bundle} :
  b.IsValid ↔ ∃ manifest issues, manifestOf b.files = .ok (manifest, issues) ∧ NoErrors issues ∧
    Passes (entryIssues b.files (.map manifest)) ∧
    ∀ f ∈ b.files,
      Passes (documentIssues (directoryOf (.map manifest) "skills" Manifest.skillsDirectory)
      (directoryOf (.map manifest) "agents" Manifest.agentsDirectory) f)
  := by
  have hsorted : ∀ {check : String × String → Checked (List Issue)},
      (∀ f ∈ b.files, Passes (check f)) ↔ ∀ f ∈ sortedFiles b.files, Passes (check f) := by
    simp only [sortedFiles, List.mem_mergeSort, implies_true]
  simp only [hsorted, forall_passes_iff]
  constructor
  · rintro ⟨r, h, hok⟩
    obtain ⟨manifest, issues, entries, documents, hmanifest, hentries, hdocuments, rfl⟩ :=
      validate_eq_ok_iff.mp h
    simp only [Report.ok_iff, noErrors_append_iff] at hok
    obtain ⟨⟨⟨⟨hissues, hnone⟩, hflat⟩, -⟩, -⟩ := hok
    exact ⟨manifest, issues, hmanifest, hissues, ⟨entries, hentries, hnone⟩, documents,
      hdocuments, hflat⟩
  · rintro ⟨manifest, issues, hmanifest, hissues, ⟨entries, hentries, hnone⟩, documents,
      hdocuments, hflat⟩
    refine ⟨_, validate_eq_ok_iff.mpr
      ⟨manifest, issues, entries, documents, hmanifest, hentries, hdocuments, rfl⟩, ?_⟩
    simp only [Report.ok_iff, noErrors_append_iff]
    exact ⟨⟨⟨⟨hissues, hnone⟩, hflat⟩, noErrors_undeclared _ _ _ _⟩, noErrors_readmeIssues _⟩

/-- A bundle with more files than another has no errors either, if the manifest and the hooks are
the same and the files have no errors of their own. -/
theorem Bundle.IsValid.of_subset {b b' : Bundle} (h : b.IsValid)
    (hnames : b.files.names ⊆ b'.files.names)
    (hmanifest : b'.files.get? Manifest.path = b.files.get? Manifest.path)
    (hhooks : ∀ manifest issues declared,
      manifestOf b.files = .ok (manifest, issues) → text? (.map manifest) "hooks" = some declared →
      b'.files.get? (entryPath declared) = b.files.get? (entryPath declared))
    (hdocuments : ∀ manifest issues, manifestOf b.files = .ok (manifest, issues) → ∀ f ∈ b'.files,
      Passes (documentIssues (directoryOf (.map manifest) "skills" Manifest.skillsDirectory)
      (directoryOf (.map manifest) "agents" Manifest.agentsDirectory) f)) :
  b'.IsValid
  := by
  obtain ⟨manifest, issues, hof, hissues, hentries, -⟩ := isValid_iff.mp h
  obtain ⟨hskills, hagents, hpasses⟩ := passes_entryIssues_iff.mp hentries
  refine isValid_iff.mpr ⟨manifest, issues, ?_, hissues,
    passes_entryIssues_iff.mpr ⟨?_, ?_, ?_⟩, ?_⟩
  · rw [manifestOf, hmanifest]
    apply hof
  · intro declared hdeclared
    obtain ⟨path, hpath, htext⟩ := hskills declared hdeclared
    exact ⟨path, hnames hpath, htext⟩
  · intro declared hdeclared
    obtain ⟨path, hpath, htext⟩ := hagents declared hdeclared
    exact ⟨path, hnames hpath, htext⟩
  · intro declared hdeclared
    have hentry := hpasses declared hdeclared
    rw [hooksEntryIssues] at hentry ⊢
    rw [hhooks manifest issues declared hof hdeclared]
    apply hentry
  · apply hdocuments manifest issues hof

end AgentBundles
