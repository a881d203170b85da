import AgentBundles.Proofs.Bundle.Assembled
import AgentBundles.Proofs.Schema.Reread
import AgentBundles.Proofs.Validation.Frame
import AgentBundles.Proofs.Validation.Manifests

/-!
# Validating compiled bundles

A bundle that was compiled and assembled with its manifest and readme has no issue but a missing
description.
-/

namespace AgentBundles

/-! ### Paths below directories -/

theorem below?_append (directory rest : String) :
  Validation.below? directory (directory ++ rest) = some rest
  := by
  rw [Validation.below?, if_pos (Text.startsWith_append directory rest), Text.dropStart_append]

theorem below?_eq_none {directory path : String} (h : Text.startsWith path directory = false) :
  Validation.below? directory path = none
  := by
  rw [Validation.below?, h, if_neg Bool.false_ne_true]

/-- Of the files of a skill only its text is at the path of one. -/
theorem isSkillPath_skillPath {slug : String} (hslug : '/' ∉ slug.toList) {file : String} :
  Validation.isSkillPath Manifest.skillsDirectory (Compile.skillPath slug file) = true
    ↔ file = Compile.skillFile
  := by
  have hdirectory : Compile.skillPath slug file
      = Manifest.skillsDirectory ++ (slug ++ "/" ++ file) :=
    Compile.skillPath_eq slug file
  rw [Validation.isSkillPath, hdirectory, below?_append, Option.any_some, Validation.isSkillText,
    Text.segments_append hslug]
  split
  · rename_i file' heq
    injection heq with _ heq
    rw [Text.eq_of_segments_eq_singleton heq, beq_iff_eq]
  · rename_i hne
    constructor
    · intro h
      cases h
    · rintro rfl
      exact absurd rfl (hne slug Compile.skillFile)

theorem isAgentText_append {name : String} (hname : '/' ∉ name.toList) :
  Validation.isAgentText (name ++ ".md") = true
  := by
  have hslash : '/' ∉ (name ++ ".md").toList := by
    rw [String.toList_append, List.mem_append, not_or]
    exact ⟨hname, by decide⟩
  rw [Validation.isAgentText, Text.segments_of_not_mem hslash, Text.endsWith_append]
  rfl

/-- The document of an agent is at the path of one. -/
theorem isAgentPath_agentPath {name : String} (hname : '/' ∉ name.toList) :
  Validation.isAgentPath Manifest.agentsDirectory (Compile.agentPath name) = true
  := by
  have hdirectory : Compile.agentPath name = Manifest.agentsDirectory ++ (name ++ ".md") := by
    rw [Compile.agentPath, Manifest.agentsDirectory, String.append_assoc]
  rw [Validation.isAgentPath, hdirectory, below?_append, Option.any_some, isAgentText_append hname]

/-- A path that begins with another character is not that of a skill or an agent. -/
theorem isSkillPath_eq_false {path : String} {c : Char} (hpath : path.toList.head? = some c)
    (hc : c ≠ 's') :
  Validation.isSkillPath Manifest.skillsDirectory path = false
  := by
  have hdirectory : Manifest.skillsDirectory.toList.head? = some 's' := rfl
  rw [Validation.isSkillPath,
    below?_eq_none (Text.startsWith_eq_false_of_head? hdirectory hpath (Ne.symm hc))]
  rfl

theorem isAgentPath_eq_false {path : String} {c : Char} (hpath : path.toList.head? = some c)
    (hc : c ≠ 'a') :
  Validation.isAgentPath Manifest.agentsDirectory path = false
  := by
  have hdirectory : Manifest.agentsDirectory.toList.head? = some 'a' := rfl
  rw [Validation.isAgentPath,
    below?_eq_none (Text.startsWith_eq_false_of_head? hdirectory hpath (Ne.symm hc))]
  rfl

/-- A file that is neither below the skills nor below the agents has no issues. -/
theorem documentIssues_other {path : String} {c : Char} (hpath : path.toList.head? = some c)
    (hs : c ≠ 's') (ha : c ≠ 'a') (content : String) :
  Validation.documentIssues Manifest.skillsDirectory Manifest.agentsDirectory (path, content)
    = .ok []
  := by
  rw [Validation.documentIssues, isSkillPath_eq_false hpath hs, isAgentPath_eq_false hpath ha]
  rfl

/-- A declared directory with a document of its kind has no issues. -/
theorem directoryEntryIssues_eq_nil {paths : List String} {declared path : String}
    {isText : String → Bool} (hmem : path ∈ paths)
    (h : (Validation.below? (Validation.entryDirectory declared) path).any isText = true)
    (kind : String) :
  Validation.directoryEntryIssues paths kind declared isText = []
  := by
  obtain ⟨relative, hbelow, htext⟩ := (Option.any_eq_true _ _).mp h
  have hrelative :
      relative ∈ paths.filterMap (Validation.below? (Validation.entryDirectory declared)) :=
    List.mem_filterMap.mpr ⟨path, hmem, hbelow⟩
  rw [Validation.directoryEntryIssues]
  split
  · rename_i hnil
    rw [hnil] at hrelative
    cases hrelative
  · rw [if_pos]
    exact List.any_eq_true.mpr ⟨relative, hrelative, htext⟩

/-- The directory of a kind is the usual one, declared or not. -/
theorem directoryOf_of_declare {manifest : Value} {kind directory : String} {needed : Bool}
    (htext : Validation.text? manifest kind = Manifest.declare needed directory)
    (hdirectory : Validation.entryDirectory ("./" ++ directory) = directory) :
  Validation.directoryOf manifest kind directory = directory
  := by
  rw [Validation.directoryOf, htext]
  cases needed with
  | false => rfl
  | true => apply hdirectory

theorem directoryOf_describe (b : CompiledBundle) (d : BundleMetadata) :
  Validation.directoryOf (Manifest.describe d b.paths).toValue "skills" Manifest.skillsDirectory
      = Manifest.skillsDirectory ∧
    Validation.directoryOf (Manifest.describe d b.paths).toValue "agents" Manifest.agentsDirectory
      = Manifest.agentsDirectory
  := by
  constructor
  · apply directoryOf_of_declare (Manifest.text?_skills _).1
    decide
  · apply directoryOf_of_declare (Manifest.text?_agents _).1
    decide

/-- Files below a directory are there only if there are documents below it. -/
theorem any_compiledFiles {directory : String}
    (hreadme : Text.startsWith Readme.path directory = false)
    (hmanifest : Text.startsWith Manifest.path directory = false) (b : CompiledBundle)
    (d : BundleMetadata) :
  ((compiledFiles b d).any fun f => Text.startsWith f.1 directory)
    = b.paths.any fun p => Text.startsWith p directory
  := by
  rw [compiledFiles, List.any_append, List.any_map, CompiledBundle.paths, List.any_map]
  simp only [List.any_cons, List.any_nil, hreadme, hmanifest, Bool.or_false]
  rfl

theorem undeclaredIssues_eq_nil {kind : String} {path? : Option String} {m : Manifest}
    {there : Bool} (hstated : (Validation.stated? m.toValue kind).isNone = path?.isNone)
    (hthere : there = true → path?.isSome = true) (location : String) :
  Validation.undeclaredIssues m.toValue kind location there = []
  := by
  rw [Validation.undeclaredIssues, hstated]
  cases there with
  | false => simp
  | true =>
      cases path? with
      | none => cases hthere rfl
      | some path => rfl

/-- Skills whose texts are valid: their slugs are names, and they have descriptions. -/
structure ValidSkill (s : Skill) : Prop where
  isKebabName_slug : Slug.isKebabName s.slug = true
  description_ne : s.description ≠ ""

/-- The documents of a valid skill have no issues. -/
theorem documentIssues_skill {s : Skill} (hlayable : Compile.Layable s) (hvalid : ValidSkill s)
    {d : Document} (hd : d ∈ Compile.skillDocuments s) :
  Validation.documentIssues Manifest.skillsDirectory Manifest.agentsDirectory (d.path, d.content)
    = .ok []
  := by
  rcases Compile.mem_skillDocuments hd with ⟨hpath, hcontent⟩ | ⟨r, hr, hpath⟩
  · have hskill := (isSkillPath_skillPath hlayable.slash_not_mem).mpr rfl
    rw [hpath, hcontent, Validation.documentIssues, if_pos hskill]
    apply Validation.skillIssues_render hvalid.isKebabName_slug hvalid.description_ne
  · have hskill : ¬ Validation.isSkillPath Manifest.skillsDirectory (Compile.skillPath s.slug r.1)
        = true := by
      rw [isSkillPath_skillPath hlayable.slash_not_mem]
      intro heq
      apply hlayable.skillFile_not_mem
      rw [← heq]
      exact List.mem_map_of_mem hr
    have hagent := isAgentPath_eq_false (Compile.head?_skillPath s.slug r.1) (by decide)
    rw [hpath, Validation.documentIssues, if_neg hskill, hagent]
    rfl

theorem slash_not_mem_name {p : AgentProfile} (hp : Validation.ValidProfile p) :
  '/' ∉ p.name.toList
  := by
  apply Slug.not_mem_kebabName hp.isKebabName_name
  all_goals decide

/-- The document of an agent with a valid profile has no issues. -/
theorem documentIssues_agent {p : AgentProfile} (hp : Validation.ValidProfile p) {d : Document}
    (hd : Compile.AgentDocument p d) :
  Validation.documentIssues Manifest.skillsDirectory Manifest.agentsDirectory (d.path, d.content)
    = .ok []
  := by
  obtain ⟨hpath, preloaded, body, hcontent⟩ := hd
  have hslash := slash_not_mem_name hp
  rw [hpath, hcontent, Validation.documentIssues,
    isSkillPath_eq_false (Compile.head?_agentPath p.name) (by decide), isAgentPath_agentPath hslash]
  apply Validation.agentIssues_render hp

namespace Compile.Parts

variable {profiles : List AgentProfile} {hooks : Value} {b : CompiledBundle} {as : List Document}
    {ss : List Skill}
  {hs : List Document} (h : Parts profiles hooks b as ss hs)

include h

/-! ### The manifest -/

/-- The manifest of a compiled bundle is read as it was written. -/
theorem manifestOf_compiledFiles (hss : ∀ s ∈ ss, Layable s) (d : BundleMetadata) :
  ∃ entries, (Manifest.describe d b.paths).toValue = .map entries ∧
    Validation.manifestOf (compiledFiles b d)
      = .ok (entries, Validation.manifestIssues (.map entries) Manifest.path)
  := by
  have hmem : (Manifest.path, (Manifest.describe d b.paths).write) ∈ compiledFiles b d := by
    rw [compiledFiles]
    apply List.mem_append_right
    exact List.mem_cons_of_mem _ List.mem_cons_self
  apply Manifest.manifestOf_of_get? (Table.get?_of_mem (h.nodup_names hss d) hmem)

/-! ### The documents -/

/-- No file of a compiled bundle has issues. -/
theorem documentIssues_compiledFiles (hss : ∀ s ∈ ss, Layable s) (hvalid : ∀ s ∈ ss, ValidSkill s)
    (hprofiles : ∀ p ∈ profiles, Validation.ValidProfile p) {d : BundleMetadata}
    {file : String × String} (hfile : file ∈ compiledFiles b d) :
  Validation.documentIssues Manifest.skillsDirectory Manifest.agentsDirectory file = .ok []
  := by
  rw [compiledFiles] at hfile
  rcases List.mem_append.mp hfile with hfile | hfile
  · obtain ⟨x, hx, rfl⟩ := List.mem_map.mp hfile
    rcases h.document_cases hx with ⟨p, hp, hagent⟩ | ⟨s, hs, hskill⟩ | hhooks
    · apply documentIssues_agent (hprofiles p hp) hagent
    · apply documentIssues_skill (hss s hs) (hvalid s hs) hskill
    · rw [(mem_hooksDocument h.hooksDocument_eq hhooks).2.1]
      apply documentIssues_other (c := 'h') rfl (by decide) (by decide)
  · simp only [List.mem_cons, List.not_mem_nil, or_false] at hfile
    rcases hfile with rfl | rfl
    · apply documentIssues_other (c := 'R') rfl (by decide) (by decide)
    · apply documentIssues_other (c := '.') rfl (by decide) (by decide)

/-! ### The entry points -/

/-- A path below the skills is that of a document of a skill. -/
theorem exists_skill_of_startsWith {path : String} (hpath : path ∈ b.paths)
    (hstarts : Text.startsWith path Manifest.skillsDirectory = true) :
  ∃ s ∈ ss, path ∈ (skillDocuments s).map (·.path)
  := by
  have hdirectory : Manifest.skillsDirectory.toList.head? = some 's' := rfl
  obtain ⟨x, hx, rfl⟩ := List.mem_map.mp hpath
  rcases h.document_cases hx with ⟨p, -, hagent, -⟩ | ⟨s, hs, hmem⟩ | hhooks
  · have hhead := head?_agentPath p.name
    rw [hagent, Text.startsWith_eq_false_of_head? hdirectory hhead (by decide)] at hstarts
    cases hstarts
  · exact ⟨s, hs, List.mem_map_of_mem hmem⟩
  · rw [(mem_hooksDocument h.hooksDocument_eq hhooks).2.1] at hstarts
    cases hstarts

/-- A path below the agents is that of the document of an agent. -/
theorem exists_profile_of_startsWith {path : String} (hpath : path ∈ b.paths)
    (hstarts : Text.startsWith path Manifest.agentsDirectory = true) :
  ∃ p ∈ profiles, path = agentPath p.name
  := by
  have hdirectory : Manifest.agentsDirectory.toList.head? = some 'a' := rfl
  obtain ⟨x, hx, rfl⟩ := List.mem_map.mp hpath
  rcases h.document_cases hx with ⟨p, hp, hagent, -⟩ | ⟨s, -, hmem⟩ | hhooks
  · exact ⟨p, hp, hagent⟩
  · obtain ⟨file, hfile⟩ := exists_file_of_mem_paths (List.mem_map_of_mem hmem)
    have hhead := head?_skillPath s.slug file
    rw [hfile, Text.startsWith_eq_false_of_head? hdirectory hhead (by decide)] at hstarts
    cases hstarts
  · rw [(mem_hooksDocument h.hooksDocument_eq hhooks).2.1] at hstarts
    cases hstarts

/-- The path of hooks is that of the document of hooks. -/
theorem exists_hooks_of_mem_paths (hpath : hooksPath ∈ b.paths) :
  ∃ x ∈ hs, x ∈ b.documents
  := by
  obtain ⟨x, hx, heq⟩ := List.mem_map.mp hpath
  rcases h.document_cases hx with ⟨p, -, hagent, -⟩ | ⟨s, -, hmem⟩ | hhooks
  · have hhead := head?_agentPath p.name
    rw [← hagent, heq] at hhead
    exact absurd hhead (by decide)
  · obtain ⟨file, hfile⟩ := exists_file_of_mem_paths (List.mem_map_of_mem hmem)
    have hhead := head?_skillPath s.slug file
    rw [← hfile, heq] at hhead
    exact absurd hhead (by decide)
  · exact ⟨x, hhooks, hx⟩

/-- The directory of skills is declared only with the text of a skill in it. -/
theorem skillsIssues_eq_nil (hss : ∀ s ∈ ss, Layable s) (d : BundleMetadata) :
  Validation.declaredIssues (Manifest.describe d b.paths).toValue "skills" (fun declared =>
    .ok (Validation.directoryEntryIssues (compiledFiles b d).names "skills" declared
      Validation.isSkillText)) = .ok []
  := by
  have hskills : (Manifest.describe d b.paths).skills
      = Manifest.declare (b.paths.any fun p => Text.startsWith p Manifest.skillsDirectory)
        Manifest.skillsDirectory := rfl
  rw [Validation.declaredIssues, (Manifest.text?_skills _).1, hskills]
  cases hany : b.paths.any fun p => Text.startsWith p Manifest.skillsDirectory with
  | false => rfl
  | true =>
      obtain ⟨path, hpath, hstarts⟩ := List.any_eq_true.mp hany
      obtain ⟨s, hs, -⟩ := h.exists_skill_of_startsWith hpath hstarts
      have hmem : skillPath s.slug skillFile ∈ (compiledFiles b d).names := by
        rw [names_compiledFiles, CompiledBundle.paths, h.documents_eq]
        apply List.mem_append_left
        rw [List.map_append, List.map_append, List.map_flatMap]
        apply List.mem_append_left
        apply List.mem_append_right
        exact List.mem_flatMap.mpr ⟨s, hs, List.mem_cons_self⟩
      have htext := (isSkillPath_skillPath (hss s hs).slash_not_mem).mpr rfl
      have hdirectory : Validation.entryDirectory ("./" ++ Manifest.skillsDirectory)
          = Manifest.skillsDirectory := by decide
      rw [Validation.isSkillPath, ← hdirectory] at htext
      rw [Manifest.declare, if_pos rfl]
      simp only [directoryEntryIssues_eq_nil hmem htext]

/-- The directory of agents is declared only with the document of an agent in it. -/
theorem agentsIssues_eq_nil (hprofiles : ∀ p ∈ profiles, Validation.ValidProfile p)
    (d : BundleMetadata) :
  Validation.declaredIssues (Manifest.describe d b.paths).toValue "agents" (fun declared =>
    .ok (Validation.directoryEntryIssues (compiledFiles b d).names "agents" declared
      Validation.isAgentText)) = .ok []
  := by
  have hagents : (Manifest.describe d b.paths).agents
      = Manifest.declare (b.paths.any fun p => Text.startsWith p Manifest.agentsDirectory)
        Manifest.agentsDirectory := rfl
  rw [Validation.declaredIssues, (Manifest.text?_agents _).1, hagents]
  cases hany : b.paths.any fun p => Text.startsWith p Manifest.agentsDirectory with
  | false => rfl
  | true =>
      obtain ⟨path, hpath, hstarts⟩ := List.any_eq_true.mp hany
      obtain ⟨p, hp, rfl⟩ := h.exists_profile_of_startsWith hpath hstarts
      have hmem : agentPath p.name ∈ (compiledFiles b d).names := by
        rw [names_compiledFiles]
        apply List.mem_append_left _ hpath
      have htext := isAgentPath_agentPath (slash_not_mem_name (hprofiles p hp))
      have hdirectory : Validation.entryDirectory ("./" ++ Manifest.agentsDirectory)
          = Manifest.agentsDirectory := by decide
      rw [Validation.isAgentPath, ← hdirectory] at htext
      rw [Manifest.declare, if_pos rfl]
      simp only [directoryEntryIssues_eq_nil hmem htext]

/-- Valid hooks have no issues when they are read. -/
theorem hooksEntryIssues_eq_nil (hss : ∀ s ∈ ss, Layable s) (hkeyed : hooks.Keyed)
    (hfits : hooks.isEmpty = true ∨ Schema.hooks.violations (.ofFields [("hooks", hooks)]) = [])
    (hpath : hooksPath ∈ b.paths) (d : BundleMetadata) :
  Validation.hooksEntryIssues (compiledFiles b d) ("./" ++ hooksPath) = .ok []
  := by
  obtain ⟨x, hx, hmem⟩ := h.exists_hooks_of_mem_paths hpath
  obtain ⟨-, hxpath, hempty, hwritable, hcontent⟩ := mem_hooksDocument h.hooksDocument_eq hx
  have hfile :
      (hooksPath, Json.write (.ofFields [("hooks", hooks)]) ++ "\n") ∈ compiledFiles b d := by
    rw [← hxpath, ← hcontent]
    apply List.mem_append_left
    exact List.mem_map.mpr ⟨x, hmem, rfl⟩
  have hget := Table.get?_of_mem (h.nodup_names hss d) hfile
  have hentry : Validation.entryPath ("./" ++ hooksPath) = hooksPath := by decide
  have hblank : Text.allBlank (Json.write (.ofFields [("hooks", hooks)]) ++ "\n") = false := by
    have hbrace : ∃ cs, (Json.write (.ofFields [("hooks", hooks)])).toList = '\x7b' :: cs := by
      rw [Json.write, String.toList_ofList, Value.ofFields, List.map_cons, Json.layout]
      · exact ⟨_, rfl⟩
      · exact List.cons_ne_nil _ _
    obtain ⟨cs, hcs⟩ := hbrace
    rw [Text.allBlank, String.toList_append, hcs]
    rfl
  have hviolations : Schema.hooks.violations (Json.reread (.ofFields [("hooks", hooks)])) = [] := by
    rcases hfits with hfits | hfits
    · rw [hempty] at hfits
      cases hfits
    · have hwhole : (Value.ofFields [("hooks", hooks)]).Keyed :=
        ⟨List.pairwise_singleton _ _, hkeyed, trivial⟩
      rw [DocumentSchema.violations_eq_nil_iff] at hfits ⊢
      apply Schema.violations_reread Schema.open_hooks hwritable hwhole hfits
  have hread := Json.read_write hwritable
  rw [Validation.hooksEntryIssues, hentry, hget]
  simp only [hblank, Bool.false_eq_true, if_false, Validation.jsonOf, hread, ok_bind,
    Validation.hooksIssues, DocumentSchema.issues, hviolations, List.map_nil]
  rfl

theorem hooksIssues_eq_nil (hss : ∀ s ∈ ss, Layable s) (hkeyed : hooks.Keyed)
    (hfits : hooks.isEmpty = true ∨ Schema.hooks.violations (.ofFields [("hooks", hooks)]) = [])
    (d : BundleMetadata) :
  Validation.declaredIssues (Manifest.describe d b.paths).toValue "hooks"
    (Validation.hooksEntryIssues (compiledFiles b d))
    = .ok []
  := by
  have hhooks : (Manifest.describe d b.paths).hooks
      = Manifest.declare (b.paths.contains hooksPath) hooksPath := rfl
  rw [Validation.declaredIssues, (Manifest.text?_hooks _).1, hhooks]
  cases hcontains : b.paths.contains hooksPath with
  | false => rfl
  | true =>
      rw [Manifest.declare, if_pos rfl]
      apply h.hooksEntryIssues_eq_nil hss hkeyed hfits (List.contains_iff_mem.mp hcontains)

/-! ### Everything -/

end Compile.Parts

theorem isSome_declare (needed : Bool) (path : String) :
  (Manifest.declare needed path).isSome = needed
  := by
  cases needed with
  | false => rfl
  | true => rfl

/-- All content of a compiled bundle is declared. -/
theorem undeclared_eq_nil (b : CompiledBundle) (d : BundleMetadata) {entries : Entries}
    (hentries : (Manifest.describe d b.paths).toValue = .map entries) :
  Validation.undeclared (compiledFiles b d) entries Manifest.skillsDirectory
    Manifest.agentsDirectory = []
  := by
  have hskills : ((compiledFiles b d).any fun f => Text.startsWith f.1 Manifest.skillsDirectory)
      = true → (Manifest.describe d b.paths).skills.isSome = true := by
    rw [any_compiledFiles (by decide) (by decide), Manifest.describe, isSome_declare]
    exact id
  have hagents : ((compiledFiles b d).any fun f => Text.startsWith f.1 Manifest.agentsDirectory)
      = true → (Manifest.describe d b.paths).agents.isSome = true := by
    rw [any_compiledFiles (by decide) (by decide), Manifest.describe, isSome_declare]
    exact id
  have hhooks : (compiledFiles b d).has Compile.hooksPath = true →
      (Manifest.describe d b.paths).hooks.isSome = true := by
    rw [Table.has_iff, names_compiledFiles, Manifest.describe, isSome_declare,
      List.contains_iff_mem]
    intro hmem
    rcases List.mem_append.mp hmem with hmem | hmem
    · apply hmem
    · exact absurd hmem (by decide)
  rw [Validation.undeclared]
  dsimp only
  split
  · rfl
  · rw [← hentries, undeclaredIssues_eq_nil (Manifest.text?_skills _).2 hskills,
      undeclaredIssues_eq_nil (Manifest.text?_agents _).2 hagents,
      undeclaredIssues_eq_nil (Manifest.text?_hooks _).2 hhooks]
    rfl

/-- Checks that find nothing find nothing together. -/
theorem exists_mapM_eq_ok {α β ε : Type} {f : α → Except ε (List β)} {xs : List α}
    (h : ∀ x ∈ xs, f x = .ok []) :
  ∃ yss, xs.mapM f = .ok yss ∧ yss.flatten = []
  := by
  induction xs with
  | nil => exact ⟨[], rfl, rfl⟩
  | cons x xs ih =>
      obtain ⟨hx, hxs⟩ := List.forall_mem_cons.mp h
      obtain ⟨yss, hmap, hflatten⟩ := ih hxs
      refine ⟨[] :: yss, ?_, ?_⟩
      · rw [List.mapM_cons, hx, ok_bind, hmap]
        rfl
      · rw [List.flatten_cons, hflatten, List.nil_append]

/-- A compiled bundle with its manifest and readme is read and found valid. -/
theorem Compile.Parts.validate_eq {profiles : List AgentProfile} {hooks : Value}
    {b : CompiledBundle} {as : List Document} {ss : List Skill} {hs : List Document}
    (h : Parts profiles hooks b as ss hs) (hss : ∀ s ∈ ss, Layable s)
    (hvalid : ∀ s ∈ ss, ValidSkill s) (hprofiles : ∀ p ∈ profiles, Validation.ValidProfile p)
    (hkeyed : hooks.Keyed)
    (hfits : hooks.isEmpty = true ∨ Schema.hooks.violations (.ofFields [("hooks", hooks)]) = [])
    {d : BundleMetadata} (hd : d.Valid) (location : Option Location) :
  Bundle.validate ⟨compiledFiles b d, location⟩
    = .ok ⟨⟨compiledFiles b d, location⟩,
        if (d.description.getD "").isEmpty then
          [.warning Manifest.path "Missing description (recommended for discoverability)"]
        else []⟩
  := by
  obtain ⟨entries, hentries, hmanifest⟩ := h.manifestOf_compiledFiles hss d
  have hissues := Manifest.manifestIssues_toValue (Manifest.valid_describe hd b.paths) Manifest.path
  obtain ⟨hskills, hagents⟩ := directoryOf_describe b d
  have hdocuments : ∀ file ∈ Validation.sortedFiles (compiledFiles b d),
      Validation.documentIssues Manifest.skillsDirectory Manifest.agentsDirectory file
        = .ok [] := by
    intro file hfile
    apply h.documentIssues_compiledFiles hss hvalid hprofiles (List.mem_mergeSort.mp hfile)
  obtain ⟨yss, hmap, hflatten⟩ := exists_mapM_eq_ok hdocuments
  have hentry : Validation.entryIssues (compiledFiles b d) (.map entries) = .ok [] := by
    rw [← hentries, Validation.entryIssues, h.skillsIssues_eq_nil hss d, ok_bind,
      h.agentsIssues_eq_nil hprofiles d, ok_bind, h.hooksIssues_eq_nil hss hkeyed hfits d]
    rfl
  have hreadme : Validation.readmeIssues (compiledFiles b d) = [] := by
    have hhas : (compiledFiles b d).has Readme.path = true := by
      rw [Table.has_iff, names_compiledFiles]
      apply List.mem_append_right
      exact List.mem_cons_self
    rw [Validation.readmeIssues, hhas]
    rfl
  rw [hentries] at hskills hagents hissues
  refine Bundle.validate_eq_ok_iff.mpr ⟨entries, _, [], yss, hmanifest, hentry, ?_, ?_⟩
  · rw [hskills, hagents]
    exact hmap
  · simp only [hskills, hagents, hflatten, hissues, hreadme, undeclared_eq_nil b d hentries,
      List.append_nil]
    rfl

/-! ### Catalogs -/

/-- Records as they are loaded: the files beside the text have different names, none of them that of
the text. -/
structure Record.Skill.Loaded (r : Record.Skill) : Prop where
  names_nodup : (r.resources.map (·.1)).Nodup
  skillFile_not_mem : Compile.skillFile ∉ r.resources.map (·.1)

/-- The skills of a catalog of loaded records can be laid out below their slugs. -/
theorem Catalog.Built.layable {m : Record.Matrix} {records : List Record.Skill} {c : Catalog}
    (hc : Catalog.Built m records c) (hrecords : ∀ r ∈ records, r.Loaded) {s : Skill}
    (hs : s ∈ c.skills) :
  Compile.Layable s ∧ Slug.isKebabName s.slug = true
  := by
  rw [hc.skills_eq] at hs
  obtain ⟨r, hr, rfl⟩ := List.mem_map.mp hs
  have hslug := hc.slug_isKebabName r hr
  refine ⟨?_, hslug⟩
  constructor
  · apply Slug.not_mem_kebabName hslug
    all_goals decide
  · apply (hrecords r hr).names_nodup
  · apply (hrecords r hr).skillFile_not_mem

/-- What is compiled is valid: a bundle that was compiled from valid profiles, skills with
descriptions and hooks that fit their schema can be assembled with its readme and manifest, and has
no issue but a missing description. -/
theorem Compile.validate_assembled {m : Record.Matrix} {records : List Record.Skill} {c : Catalog}
    (hc : Catalog.build m records = .ok c) (hrecords : ∀ r ∈ records, r.Loaded)
    {s : ValidatedSelection} {profiles : List AgentProfile} {templates : Table String}
    {name : String} {routing : Routing} {hooks : Value} {b : CompiledBundle}
    (hb : Compile.bundle c s profiles templates name routing hooks = .ok b)
    (hprofiles : ∀ p ∈ profiles, Validation.ValidProfile p)
    (hskills : ∀ t ∈ c.skills, Compile.skillDocuments t ⊆ b.documents → t.description ≠ "")
    (hkeyed : hooks.Keyed)
    (hfits : hooks.isEmpty = true ∨ Schema.hooks.violations (.ofFields [("hooks", hooks)]) = [])
    {d : BundleMetadata} (hd : d.Valid) (location : Option Location) :
  ∃ bundle, Bundle.assemble b.documents (some (Readme.document d b.paths))
    (Manifest.describe d b.paths) location
      = .ok bundle ∧
    bundle.validate = .ok ⟨bundle,
      if (d.description.getD "").isEmpty then
        [.warning Manifest.path "Missing description (recommended for discoverability)"]
      else []⟩
  := by
  have hbuilt := Catalog.built_of_build hc
  obtain ⟨as, ss, hs, hparts, hmem⟩ := Compile.exists_parts hb
  have hlayable : ∀ t ∈ ss, Compile.Layable t := by
    intro t ht
    apply (hbuilt.layable hrecords (hmem t ht)).1
  have hvalid : ∀ t ∈ ss, ValidSkill t := by
    intro t ht
    constructor
    · apply (hbuilt.layable hrecords (hmem t ht)).2
    · apply hskills t (hmem t ht)
      intro x hx
      rw [hparts.documents_eq]
      apply List.mem_append_left
      apply List.mem_append_right
      exact List.mem_flatMap.mpr ⟨t, ht, hx⟩
  refine ⟨⟨compiledFiles b d, location⟩, ?_, ?_⟩
  · apply hparts.assemble_eq hlayable
  · apply hparts.validate_eq hlayable hvalid hprofiles hkeyed hfits hd

/-! ### A small bundle -/

/-- Someone who knows one framework, described by a word that is not a text where it is written
bare. -/
def webDeveloper : AgentProfile where
  name := "web-developer"
  settings :=
    { description := "yes"
      template := "agent"
      partials := []
      endingPartials := []
      preloadedSkills := ["vue"]
      tools := ["Read", "Write"]
      disallowedTools := []
      model := some "null"
      permissionMode := some "plan" }

/-- A command before each use of a tool. -/
def toolHooks : Value :=
  .ofFields [("PreToolUse",
    .list [.ofFields
      [("hooks", .list [.ofFields [("type", .str "command"), ("command", .str "true")]])]])]

/-- Metadata without a version. -/
def webMetadata : BundleMetadata where
  name := "web"
  version := ""
  description := some "Frameworks"
  author := none
  authorEmail := none
  license := "MIT"
  keywords := []
  philosophy := none
  principles := []

/-- One framework is selected and the other one preloaded by an agent: both are compiled, and
nothing is wrong. -/
theorem Compile.validate_assembled_frameworks :
  ∃ b bundle, Compile.bundle Catalog.frameworks ⟨.ofList ["react"], []⟩ [webDeveloper]
    [("agent", "---")] "web" []
      toolHooks = .ok b ∧
    Bundle.assemble b.documents (some (Readme.document webMetadata b.paths))
      (Manifest.describe webMetadata b.paths) none
      = .ok bundle ∧
    bundle.validate = .ok ⟨bundle, []⟩
  := by
  obtain ⟨b, hb⟩ : ∃ b, Compile.bundle Catalog.frameworks ⟨.ofList ["react"], []⟩ [webDeveloper]
      [("agent", "---")] "web" [] toolHooks = .ok b := ⟨_, rfl⟩
  have hrecords : ∀ r ∈ [Catalog.frameworkRecord "react", Catalog.frameworkRecord "vue"],
      r.Loaded := by
    simp only [List.forall_mem_cons, List.not_mem_nil, false_imp_iff, implies_true, and_true]
    exact ⟨⟨List.nodup_nil, List.not_mem_nil⟩, ⟨List.nodup_nil, List.not_mem_nil⟩⟩
  have hprofiles : ∀ p ∈ [webDeveloper], Validation.ValidProfile p := by
    rw [List.forall_mem_singleton]
    constructor
    · decide
    · decide
    · rintro mode ⟨⟩
      decide
  have hskills : ∀ t ∈ Catalog.frameworks.skills, Compile.skillDocuments t ⊆ b.documents →
      t.description ≠ "" := by
    have hne : ∀ t ∈ Catalog.frameworks.skills, t.description ≠ "" := by decide
    intro t ht _
    apply hne t ht
  have hkeyed : toolHooks.Keyed := by
    have hdistinct : (Value.str "type").sameKey (.str "command") = false := by decide
    simp [toolHooks, Value.ofFields, Value.Keyed, Value.KeyedItems, Value.KeyedEntries,
      Entries.Separate, hdistinct]
  have hfits : Schema.hooks.violations (.ofFields [("hooks", toolHooks)]) = [] := by
    rw [DocumentSchema.violations_eq_nil_iff]
    decide
  have hd : webMetadata.Valid := ⟨by decide, Or.inl rfl⟩
  obtain ⟨bundle, hassemble, hvalidate⟩ :=
    Compile.validate_assembled Catalog.build_frameworks hrecords hb hprofiles hskills hkeyed
      (Or.inr hfits) hd none
  exact ⟨b, bundle, hb, hassemble, hvalidate⟩

end AgentBundles
