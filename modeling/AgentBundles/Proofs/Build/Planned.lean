import AgentBundles.Build.Stack
import AgentBundles.Proofs.Bundle.ReadBack

/-!
# Plans

What a plan is made of: the documents of its stack, a readme, and a manifest, under different paths.
A stack is planned if its agents, its skills, its hooks and what it states of itself are valid.
-/

namespace AgentBundles.Build

variable {w : Workshop} {d : Disk} {web : Web} {id : String} {q : Plan}

/-- The manifest of a plan: that of the documents, or one that goes on from the version of an
earlier bundle. -/
def manifestFor (w : Workshop) (d : Disk) (described : Manifest) (compiled : CompiledBundle)
    (path : FilePath) :
    Except Fault Manifest :=
  match w.bump with
  | none => .ok described
  | some part => carryVersion d described compiled path part

/-- A plan is made of a stack, its documents and a manifest. -/
structure Planned (w : Workshop) (d : Disk) (web : Web) (id : String) (q : Plan)
    (stack : Record.Stack) (compiled : CompiledBundle) (m : Manifest) : Prop where
  stack_eq : w.tree.stack d id = .ok stack
  compileStack_eq : compileStack w d web id stack = .ok compiled
  manifestFor_eq : manifestFor w d (.describe (.ofStack stack) compiled.paths) compiled
    (w.output.child stack.name) = .ok m
  files_eq : q.bundle.files = compiled.documents.map (fun x => (x.path, x.content)) ++
    [(Readme.path, (Readme.document (.ofStack stack) compiled.paths).content),
      (Manifest.path, m.write)]
  nodup_names : q.bundle.files.names.Nodup
  validate_eq : q.bundle.validate = .ok q.product.report
  report_ok : q.product.report.ok = true
  stack_id_eq : q.product.stack = id
  path_eq : q.product.path = w.output.child stack.name
  version_eq : q.product.version = m.version

/-- The agents of a stack have profiles. -/
theorem of_agentsOf {profiles : Table AgentProfile} {names : List String}
    {agents : List AgentProfile} (h : agentsOf profiles id names = .ok agents) :
  ∀ p ∈ agents, ∃ name, (name, p) ∈ profiles
  := by
  rw [agentsOf] at h
  split at h
  · cases h
    intro p hp
    obtain ⟨name, -, hname⟩ := List.mem_filterMap.mp hp
    exact ⟨name, Table.mem_of_get? hname⟩
  · cases h

/-- The hooks of a stack. -/
def hooksOf (stack : Record.Stack) : Value := .ofFields (stack.hooks.mapValues .list)

/-- The documents of a stack are those that its selection, its agents and their templates are
compiled to, and they can be encoded. -/
theorem compileStack_eq_ok_iff {stack : Record.Stack} {compiled : CompiledBundle} :
  compileStack w d web id stack = .ok compiled ↔
    ∃ selection agents templates,
      (w.catalog.validate (.ofList stack.skills)).validated? = some selection ∧
      agentsOf w.profiles id stack.agents = .ok agents ∧
      w.templates.fetch d web (agents.flatMap (·.templateIds)) = .ok templates ∧
      Compile.bundle w.catalog selection agents templates stack.name stack.routing (hooksOf stack)
        = .ok compiled ∧
      compiled.encodingFault? = none
  := by
  rw [compileStack]
  constructor
  · intro h
    split at h
    · rename_i selection hselection
      obtain ⟨agents, hagents, h⟩ := bind_eq_ok_iff.mp h
      obtain ⟨templates, htemplates, h⟩ := bind_eq_ok_iff.mp h
      obtain ⟨compiled', hcompiled, h⟩ := bind_eq_ok_iff.mp h
      split at h
      · cases h
      · rename_i hencoded
        cases h
        exact ⟨selection, agents, templates, hselection, hagents, mapError_eq_ok_iff.mp htemplates,
          mapError_eq_ok_iff.mp hcompiled, hencoded⟩
    · cases h
  · rintro ⟨selection, agents, templates, hselection, hagents, htemplates, hcompiled, hencoded⟩
    rw [hooksOf] at hcompiled
    simp only [hselection, hagents, ok_bind, htemplates, hcompiled, Except.mapError, hencoded]
    rfl

/-- The documents of a stack are the parts of a bundle whose agents have profiles and whose skills
are in the catalog. -/
theorem exists_parts_of_compileStack {stack : Record.Stack} {compiled : CompiledBundle}
    (h : compileStack w d web id stack = .ok compiled) :
  ∃ profiles as ss hs, Compile.Parts profiles (hooksOf stack) compiled as ss hs ∧
    (∀ p ∈ profiles, ∃ name, (name, p) ∈ w.profiles) ∧ ∀ t ∈ ss, t ∈ w.catalog.skills
  := by
  obtain ⟨selection, agents, templates, -, hagents, -, hcompiled, -⟩ :=
    compileStack_eq_ok_iff.mp h
  obtain ⟨as, ss, hs, hparts, hmem⟩ := Compile.exists_parts hcompiled
  exact ⟨agents, as, ss, hs, hparts, of_agentsOf hagents, hmem⟩

/-- Completes the plan of a stack, whose documents are compiled, with a manifest. -/
def complete (w : Workshop) (id : String) (stack : Record.Stack) (compiled : CompiledBundle)
    (m : Manifest) :
    Except Fault Plan := do
  let readme := Readme.document (.ofStack stack) compiled.paths
  let bundle ← (Bundle.assemble compiled.documents (some readme) m none).mapError .sharedPath
  let report ← bundle.validate.mapError .validation
  if report.ok then
    return ⟨⟨id, w.output.child stack.name, m.version, compiled.contentHash, report⟩, bundle⟩
  else
    throw (.stack id (report.errors.map (·.text)))

theorem plan_eq (w : Workshop) (d : Disk) (web : Web) (id : String) :
  plan w d web id = (do
    let stack ← (w.tree.stack d id).mapError .source
    let compiled ← compileStack w d web id stack
    let m ← manifestFor w d (.describe (.ofStack stack) compiled.paths) compiled
      (w.output.child stack.name)
    complete w id stack compiled m)
  := by
  rw [plan]
  congr 1
  funext stack
  congr 1
  funext compiled
  have hcomplete : ∀ m, complete w id stack compiled m = (do
      let bundle ← (Bundle.assemble compiled.documents
        (some (Readme.document (.ofStack stack) compiled.paths)) m none).mapError .sharedPath
      let report ← bundle.validate.mapError .validation
      if !report.ok then
        throw (.stack id (report.errors.map (·.text)))
      return ⟨⟨id, w.output.child stack.name, m.version, compiled.contentHash, report⟩,
        bundle⟩) := by
    intro m
    rw [complete]
    congr 1
    funext bundle
    congr 1
    funext report
    cases report.ok with
    | true => rfl
    | false => rfl
  simp only [hcomplete, manifestFor]
  cases w.bump with
  | none => rfl
  | some part => rfl

theorem exists_planned (h : plan w d web id = .ok q) :
  ∃ stack compiled m, Planned w d web id q stack compiled m
  := by
  rw [plan_eq] at h
  obtain ⟨stack, hstack, h⟩ := bind_eq_ok_iff.mp h
  obtain ⟨compiled, hcompiled, h⟩ := bind_eq_ok_iff.mp h
  obtain ⟨m, hm, h⟩ := bind_eq_ok_iff.mp h
  obtain ⟨bundle, hbundle, h⟩ := bind_eq_ok_iff.mp h
  obtain ⟨report, hreport, h⟩ := bind_eq_ok_iff.mp h
  split at h
  · rename_i hok
    cases h
    obtain ⟨profiles, as, ss, hs, hparts, -⟩ := exists_parts_of_compileStack hcompiled
    obtain ⟨hfiles, hnodup⟩ := hparts.of_assemble_eq_ok rfl (mapError_eq_ok_iff.mp hbundle)
    refine ⟨stack, compiled, m, ?_⟩
    constructor
    · apply mapError_eq_ok_iff.mp hstack
    · apply hcompiled
    · apply hm
    · apply hfiles
    · apply hnodup
    · apply mapError_eq_ok_iff.mp hreport
    · apply hok
    · rfl
    · rfl
    · rfl
  · cases h

/-- The documents of a bundle lie in the directories that belong to the compiler. -/
theorem isManaged_of_mem_documents {profiles : List AgentProfile} {hooks : Value}
    {b : CompiledBundle} {as : List Document} {ss : List Skill} {hs : List Document}
    (h : Compile.Parts profiles hooks b as ss hs) {x : Document} (hx : x ∈ b.documents) :
  Bundle.isManaged (Text.segments x.path) = true
  := by
  rcases h.document_cases hx with ⟨p, -, hpath, -⟩ | ⟨s, -, hmem⟩ | hmem
  · have heq : x.path = "agents" ++ "/" ++ (p.name ++ ".md") := by
      rw [hpath]
      simp [Compile.agentPath, ← String.toList_inj]
    rw [heq]
    apply Bundle.isManaged_segments (by decide) (by decide)
  · obtain ⟨file, hfile⟩ := Compile.exists_file_of_mem_paths (List.mem_map_of_mem hmem)
    have heq : x.path = "skills" ++ "/" ++ (s.slug ++ "/" ++ file) := by
      rw [hfile]
      simp [Compile.skillPath, ← String.toList_inj]
    rw [heq]
    apply Bundle.isManaged_segments (by decide) (by decide)
  · rw [(Compile.mem_hooksDocument h.hooksDocument_eq hmem).2.1]
    decide

theorem isOwned_of_isManaged {path : String} (h : Bundle.isManaged (Text.segments path) = true) :
  isOwned path = true
  := by
  obtain ⟨name, hname, below, -, heq⟩ := Bundle.isManaged_eq_true_iff.mp h
  rw [isOwned, heq]
  apply List.contains_iff_mem.mpr hname

/-- A manifest states the version of the stack if there is no earlier bundle, and else goes on from
its version. -/
theorem of_carryVersion {described m : Manifest} {compiled : CompiledBundle} {path : FilePath}
    {part : String} (h : carryVersion d described compiled path part = .ok m) :
  (d.isFile (path.child Manifest.path) = .ok false ∧ m = described) ∨
    (d.isFile (path.child Manifest.path) = .ok true ∧
      ∃ b earlier, Bundle.readFrom d path none = .ok b ∧ b.manifest = .ok earlier ∧
        m = { described with version := m.version } ∧
        if sameTable (ownedFiles b.files) (contents compiled) then m.version = earlier.version
        else raiseVersion earlier.version part = .ok m.version)
  := by
  rw [carryVersion] at h
  obtain ⟨isFile, hfile, h⟩ := bind_eq_ok_iff.mp h
  rw [mapError_eq_ok_iff] at hfile
  cases isFile with
  | false =>
      cases h
      exact Or.inl ⟨hfile, rfl⟩
  | true =>
      obtain ⟨b, hread, h⟩ := bind_eq_ok_iff.mp h
      obtain ⟨earlier, hearlier, h⟩ := bind_eq_ok_iff.mp h
      refine Or.inr ⟨hfile, b, earlier, mapError_eq_ok_iff.mp hread,
        mapError_eq_ok_iff.mp hearlier, ?_⟩
      dsimp only at h
      split at h
      · rename_i hsame
        cases h
        rw [if_pos hsame]
        exact ⟨rfl, rfl⟩
      · rename_i hdiffer
        rw [mapError_eq_ok_iff, Manifest.raiseVersion] at h
        rw [if_neg hdiffer]
        cases hversion : raiseVersion earlier.version part with
        | ok version =>
            rw [hversion] at h
            cases h
            exact ⟨rfl, rfl⟩
        | error f =>
            rw [hversion] at h
            cases h

/-- A manifest goes on from an earlier one with its version only. -/
theorem eq_of_manifestFor {described m : Manifest} {compiled : CompiledBundle} {path : FilePath}
    (h : manifestFor w d described compiled path = .ok m) :
  m = { described with version := m.version }
  := by
  rw [manifestFor] at h
  split at h
  · cases h
    rfl
  · rcases of_carryVersion h with ⟨-, rfl⟩ | ⟨-, b, earlier, -, -, hm, -⟩
    · rfl
    · apply hm

/-- The documents of a product under their paths. -/
def Product.documents (p : Product) : Table String := ownedFiles p.report.bundle.files

namespace Planned

variable {stack : Record.Stack} {compiled : CompiledBundle} {m : Manifest}
    (h : Planned w d web id q stack compiled m)

include h

theorem bundle_eq :
  q.product.report.bundle = q.bundle
  := bundle_of_validate h.validate_eq

/-- The documents of a product are those that were compiled for its stack. -/
theorem documents_eq :
  q.product.documents = compiled.documents.map fun x => (x.path, x.content)
  := by
  obtain ⟨profiles, as, ss, hs, hparts, -⟩ := exists_parts_of_compileStack h.compileStack_eq
  have howned : (compiled.documents.map fun x => (x.path, x.content)).filter (fun f => isOwned f.1)
      = compiled.documents.map fun x => (x.path, x.content) := by
    rw [List.filter_eq_self, List.forall_mem_map]
    intro x hx
    apply isOwned_of_isManaged (isManaged_of_mem_documents hparts hx)
  have hreadme : isOwned Readme.path = false := by decide
  have hmanifest : isOwned Manifest.path = false := by decide
  rw [Product.documents, h.bundle_eq, ownedFiles, h.files_eq, List.filter_append, howned]
  simp [hreadme, hmanifest]

theorem mem_manifest :
  (Manifest.path, m.write) ∈ q.bundle.files
  := by
  rw [h.files_eq]
  simp

theorem get?_manifest :
  q.bundle.files.get? Manifest.path = some m.write
  := Table.get?_of_mem h.nodup_names h.mem_manifest

/-- The name of a stack that can be built is in kebab case. -/
theorem isKebabName :
  Slug.isKebabName stack.name = true
  := by
  have hvalid : q.bundle.IsValid := ⟨_, h.validate_eq, h.report_ok⟩
  obtain ⟨entries, issues, hof, hissues, -⟩ := Bundle.isValid_iff.mp hvalid
  obtain ⟨entries', hentries, hof'⟩ := Manifest.manifestOf_of_get? h.get?_manifest
  rw [hof] at hof'
  injection hof' with hof'
  injection hof' with _ hof'
  rw [hof', ← hentries] at hissues
  have hname := Manifest.isKebabName_of_noErrors hissues
  rw [eq_of_manifestFor h.manifestFor_eq] at hname
  apply hname

end Planned

/-! ### Stacks that can be planned -/

/-- What a stack states of itself, but with another version. -/
def statedAs (stack : Record.Stack) (version : String) : BundleMetadata :=
  { BundleMetadata.ofStack stack with version := version }

/-- A plan is made of the stack, the documents and the manifest that are found. -/
theorem planned_of_plan {q : Plan} {stack : Record.Stack} {compiled : CompiledBundle} {m : Manifest}
    (h : plan w d web id = .ok q) (hstack : w.tree.stack d id = .ok stack)
    (hcompiled : compileStack w d web id stack = .ok compiled)
    (hm : manifestFor w d (.describe (.ofStack stack) compiled.paths) compiled
      (w.output.child stack.name) = .ok m) :
  Planned w d web id q stack compiled m
  := by
  obtain ⟨stack', compiled', m', hplanned⟩ := exists_planned h
  obtain rfl : stack' = stack := Except.ok.inj (hplanned.stack_eq.symm.trans hstack)
  obtain rfl : compiled' = compiled := Except.ok.inj (hplanned.compileStack_eq.symm.trans hcompiled)
  obtain rfl : m' = m := Except.ok.inj (hplanned.manifestFor_eq.symm.trans hm)
  apply hplanned

/-- A stack is planned if its agents, its skills, its hooks and what it states of itself are
valid. -/
theorem exists_plan {stack : Record.Stack} {compiled : CompiledBundle} {m : Manifest}
    (hstack : w.tree.stack d id = .ok stack)
    (hcompiled : compileStack w d web id stack = .ok compiled)
    (hm : manifestFor w d (.describe (.ofStack stack) compiled.paths) compiled
      (w.output.child stack.name) = .ok m)
    (hprofiles : ∀ e ∈ w.profiles, Validation.ValidProfile e.2)
    (hskills : ∀ s ∈ w.catalog.skills, Compile.Layable s ∧ ValidSkill s)
    (hkeyed : (hooksOf stack).Keyed)
    (hfits : (hooksOf stack).isEmpty = true ∨
      Schema.hooks.violations (.ofFields [("hooks", hooksOf stack)]) = [])
    (hname : Slug.isKebabName stack.name = true) (hversion : Version.isSemantic m.version = true) :
  ∃ q, plan w d web id = .ok q
  := by
  obtain ⟨profiles, as, ss, hs, hparts, hknown, hmem⟩ := exists_parts_of_compileStack hcompiled
  have hnotEmpty : m.version.isEmpty = false := by
    rw [Bool.eq_false_iff]
    intro hempty
    rw [String.isEmpty_iff.mp hempty] at hversion
    cases hversion
  -- The manifest is that of a stack that states the version to go on with.
  have hdescribe : m = Manifest.describe (statedAs stack m.version) compiled.paths := by
    have hcarried := eq_of_manifestFor hm
    rw [Manifest.describe, statedAs, hnotEmpty]
    exact hcarried
  have hprofile : ∀ p ∈ profiles, Validation.ValidProfile p := by
    intro p hp
    obtain ⟨name, hentry⟩ := hknown p hp
    apply hprofiles _ hentry
  have hlayable : ∀ s ∈ ss, Compile.Layable s := fun s hs => (hskills s (hmem s hs)).1
  have hskill : ∀ s ∈ ss, ValidSkill s := fun s hs => (hskills s (hmem s hs)).2
  have hstated : (statedAs stack m.version).Valid := ⟨hname, Or.inr hversion⟩
  have hassemble := hparts.assemble_eq hlayable (statedAs stack m.version) none
  have hvalidate := hparts.validate_eq hlayable hskill hprofile hkeyed hfits hstated none
  have hreadme : Readme.document (statedAs stack m.version) compiled.paths
      = Readme.document (.ofStack stack) compiled.paths := rfl
  rw [← hdescribe, hreadme] at hassemble
  rw [plan_eq, hstack, Except.mapError, ok_bind, hcompiled, ok_bind, hm, ok_bind, complete,
    hassemble, Except.mapError, ok_bind, hvalidate, Except.mapError, ok_bind, if_pos]
  · exact ⟨_, rfl⟩
  · split
    · rfl
    · rfl

end AgentBundles.Build
