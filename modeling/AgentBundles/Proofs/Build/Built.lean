import AgentBundles.Build.Run
import AgentBundles.Proofs.Build.Planned
import AgentBundles.Proofs.Bundle.Encoded
import AgentBundles.Proofs.Source.Skills

/-!
# Stacks that are built

A stack is planned before anything is written. If it cannot be built, no file has changed unless the
file system failed or its readme holds surrogates, which is found out once all else that belongs to
the compiler was removed. If it can be built, files have changed below the directory of its bundle
only. Once it was built, its documents are the only files in the directories of the compiler.
-/

namespace AgentBundles.Build

open Disk Disk.Action

variable {w : Workshop} {web : Web} {id : String} {d d' : Disk} {p : Product}

/-! ### Files that are left -/

/-- A stack is built by writing the bundle of its plan, which can be encoded. -/
theorem buildStack_eq_ok_iff :
  (buildStack w web id).outcome d = (.ok p, d')
    ↔ ∃ q, plan w d web id = .ok q ∧ q.product = p ∧ q.bundle.Encodes (d.resolve p.path) ∧
      (q.bundle.writeTo p.path).outcome d = (.ok (), d')
  := by
  rw [buildStack, outcome_bind_eq_ok_iff]
  constructor
  · rintro ⟨q, d₁, hplan, h⟩
    rw [outcome_look, Prod.mk.injEq] at hplan
    obtain ⟨hplan, rfl⟩ := hplan
    obtain ⟨_, d₂, hwrite, h⟩ := outcome_bind_eq_ok_iff.mp h
    rw [outcome_pure, Prod.mk.injEq, Except.ok.injEq] at h
    obtain ⟨rfl, rfl⟩ := h
    rw [outcome_adapt_eq_ok_iff, Bundle.encodeTo_eq_ok_iff] at hwrite
    exact ⟨q, hplan, rfl, hwrite⟩
  · rintro ⟨q, hplan, rfl, hwrite⟩
    rw [← Bundle.encodeTo_eq_ok_iff] at hwrite
    refine ⟨q, d, ?_, ?_⟩
    · rw [outcome_look, hplan]
    · exact outcome_bind_eq_ok_iff.mpr ⟨(), d', outcome_adapt_eq_ok_iff.mpr hwrite, rfl⟩

/-- A stack is not built if it cannot be planned or its bundle cannot be encoded and written. -/
theorem buildStack_eq_error_iff {f : Fault} :
  (buildStack w web id).outcome d = (.error f, d')
    ↔ (plan w d web id = .error f ∧ d = d') ∨ ∃ q e, plan w d web id = .ok q ∧
      (q.bundle.encodeTo q.product.path).outcome d = (.error e, d') ∧ .storage e = f
  := by
  rw [buildStack, outcome_bind_eq_error_iff, outcome_look, Prod.mk.injEq]
  apply or_congr_right
  constructor
  · rintro ⟨q, d₁, hplan, h⟩
    rw [Prod.mk.injEq] at hplan
    obtain ⟨hplan, rfl⟩ := hplan
    rcases outcome_bind_eq_error_iff.mp h with hwrite | ⟨_, d₂, -, h⟩
    · obtain ⟨e, hwrite, heq⟩ := outcome_adapt_eq_error_iff.mp hwrite
      exact ⟨q, e, hplan, hwrite, heq⟩
    · cases h
  · rintro ⟨q, e, hplan, hwrite, heq⟩
    refine ⟨q, d, by rw [hplan], outcome_bind_eq_error_iff.mpr (Or.inl ?_)⟩
    exact outcome_adapt_eq_error_iff.mpr ⟨e, hwrite, heq⟩

/-- Why the readme of a plan cannot be encoded. -/
def Plan.readmeFault? (q : Plan) : Option Text.EncodingFault :=
  (q.bundle.files.get? Readme.path).bind Text.Encoding.utf8.fault?

/-- The readme alone can keep a plan from being encoded: the documents were encoded for their
digest, and the manifest is ASCII. -/
theorem Planned.readmeFault?_eq_some {q : Plan} {stack : Record.Stack} {compiled : CompiledBundle}
    {m : Manifest} (h : Planned w d web id q stack compiled m) {f : String × String}
    (hf : f ∈ q.bundle.files) {x : Text.EncodingFault}
    (hx : Text.Encoding.utf8.fault? f.2 = some x) :
  q.readmeFault? = some x
  := by
  obtain ⟨-, -, -, -, -, -, -, hencoded⟩ := compileStack_eq_ok_iff.mp h.compileStack_eq
  rw [CompiledBundle.encodingFault?, List.findSome?_eq_none_iff, List.forall_mem_flatMap]
    at hencoded
  have hmem := hf
  rw [h.files_eq, List.mem_append, List.mem_cons, List.mem_singleton] at hmem
  rcases hmem with hdocument | rfl | rfl
  · obtain ⟨document, hmem, rfl⟩ := List.mem_map.mp hdocument
    rw [hencoded document hmem document.content (by simp)] at hx
    cases hx
  · rw [Plan.readmeFault?, Table.get?_of_mem h.nodup_names hf]
    exact hx
  · rw [m.utf8_fault?_write] at hx
    cases hx

/-- The directory of a bundle is that of its name in the output directory. -/
theorem resolve_child {name : String} (h : Slug.isKebabName name = true) (p : FilePath) :
  d.resolve (p.child name) = d.resolve p ++ [name]
  := by
  obtain ⟨hnormal, hsegments⟩ := Slug.segments_of_isKebabName h
  rw [Disk.resolve, hnormal.resolve_child, hsegments]
  rfl

/-- Building a stack changes files below the directory of its bundle only. -/
theorem confinedTo_of_buildStack (hd : d.Sound) (hout : w.output.Proper)
    (h : (buildStack w web id).outcome d = (.ok p, d')) :
  ConfinedTo (Bundle.Below (d.resolve p.path)) d d'
  := by
  obtain ⟨q, hplan, rfl, -, hwrite⟩ := buildStack_eq_ok_iff.mp h
  obtain ⟨stack, compiled, m, hplanned⟩ := exists_planned hplan
  have hpath : q.product.path.Proper := by
    rw [hplanned.path_eq]
    apply hout.child
  apply Bundle.confinedTo_writeTo hd hpath hwrite

/-- A bundle lies in the output directory under its name, which is in kebab case. -/
theorem exists_name_of_buildStack (h : (buildStack w web id).outcome d = (.ok p, d')) :
  ∃ name, Slug.isKebabName name = true ∧ p.path = w.output.child name
  := by
  obtain ⟨q, hplan, rfl, -⟩ := buildStack_eq_ok_iff.mp h
  obtain ⟨stack, compiled, m, hplanned⟩ := exists_planned hplan
  exact ⟨stack.name, hplanned.isKebabName, hplanned.path_eq⟩

/-- A stack that cannot be built leaves every file as it was, unless the file system failed or the
readme of its bundle cannot be encoded, and then too the files outside of the directory of its name;
and a stack that is built changes files below that directory only. Its name is in kebab case. -/
theorem buildStack_leaves_files (w : Workshop) (web : Web) (id : String) {d : Disk} (hd : d.Sound)
    (hout : w.output.Proper) :
  (∀ f d', (buildStack w web id).outcome d = (.error f, d') → f.kind.isOfSystem = false →
      (∀ place c, d'.HasFile place c ↔ d.HasFile place c) ∨
        ∃ q x name, plan w d web id = .ok q ∧ q.readmeFault? = some x ∧ f = .storage (.text x) ∧
          Slug.isKebabName name = true ∧ q.product.path = w.output.child name ∧
          ∀ place c, ¬ Bundle.Below (d.resolve w.output ++ [name]) place →
            (d'.HasFile place c ↔ d.HasFile place c)) ∧
    ∀ p d', (buildStack w web id).outcome d = (.ok p, d') →
      ∃ name, Slug.isKebabName name = true ∧ p.path = w.output.child name ∧
        ∀ place c, ¬ Bundle.Below (d.resolve w.output ++ [name]) place →
          (d'.HasFile place c ↔ d.HasFile place c)
  := by
  constructor
  · intro f d' h hkind
    rcases buildStack_eq_error_iff.mp h with ⟨-, rfl⟩ | ⟨q, e, hplan, hwrite, rfl⟩
    · exact Or.inl fun _ _ => Iff.rfl
    · obtain ⟨stack, compiled, m, hplanned⟩ := exists_planned hplan
      have hpath : q.product.path.Proper := by
        rw [hplanned.path_eq]
        apply hout.child
      rcases Bundle.of_encodeTo_eq_error hd hpath hwrite
        with hsame | hsystem | ⟨file, hfile, x, hx, rfl⟩
      · exact Or.inl fun _ => hsame.hasFile_iff not_false
      · have hfalse : e.kind.isOfSystem = false := hkind
        rw [hfalse] at hsystem
        cases hsystem
      · have hconfined := Bundle.confined_encoding.store hd hpath q.bundle
        rw [← Bundle.encodeTo, hwrite, hplanned.path_eq, resolve_child hplanned.isKebabName]
          at hconfined
        refine Or.inr ⟨q, x, stack.name, hplan, hplanned.readmeFault?_eq_some hfile hx, rfl,
          hplanned.isKebabName, hplanned.path_eq, ?_⟩
        intro place c hplace
        apply hconfined.hasFile_iff hplace
  · intro p d' h
    obtain ⟨name, hname, hpath⟩ := exists_name_of_buildStack h
    have hconfined := confinedTo_of_buildStack hd hout h
    rw [hpath, resolve_child hname] at hconfined
    refine ⟨name, hname, hpath, ?_⟩
    intro place c hplace
    apply hconfined.hasFile_iff hplace

/-! ### A small workshop -/

/-- A source tree with one agent, an output directory, and a note that someone has put beside its
bundle. -/
def smallEntries : List (Place × Node) := [
  (["kit"], .directory),
  (["kit", "skills-matrix.yaml"], .file (.text "version: 1.0.0\n")),
  (["kit", "skills"], .directory),
  (["kit", "agents.yaml"], .file (.text "agents:\n  reviewer:\n    description: Reviews\n")),
  (["kit", "templates"], .directory),
  (["kit", "templates", "agent.md"], .file (.text "Review everything.\n")),
  (["kit", "stacks"], .directory),
  (["kit", "stacks", "web"], .directory),
  (["kit", "stacks", "web", "config.yaml"], .file (.text "name: web\nagents: [reviewer]\n")),
  (["plugins"], .directory),
  (["plugins", "web"], .directory),
  (["plugins", "web", "NOTES.md"], .file (.text "Mine.\n"))]

/-- The source tree on a disk with more entries. -/
def diskWith (entries : List (Place × Node)) : Disk := ⟨⟨smallEntries ++ entries⟩, []⟩

/-- A disk where an agent is left of an earlier bundle. -/
def smallDisk : Disk := diskWith [
  (["plugins", "web", "agents"], .directory),
  (["plugins", "web", "agents", "writer.md"], .file (.text "Write.\n"))]

def smallSource : SourceTree := ⟨.ofText "kit", defaultFileLimit⟩

def reviewer : AgentProfile := ⟨"reviewer", ⟨"Reviews", "agent", [], [], [], [], [], none, none⟩⟩

/-- What the stacks of the small source tree share. -/
def smallWorkshop (bump : Option String) : Workshop where
  tree := smallSource
  catalog := ⟨"1.0.0", [], [], [], [], []⟩
  profiles := [("reviewer", reviewer)]
  templates := .directory ⟨smallSource.templatesRoot, defaultFileLimit⟩
  output := .ofText "plugins"
  bump := bump

theorem validProfile_smallWorkshop (bump : Option String) :
  ∀ e ∈ (smallWorkshop bump).profiles, Validation.ValidProfile e.2
  := by
  intro e he
  cases List.mem_singleton.mp he
  exact ⟨by decide, by decide, fun mode hmode => nomatch hmode⟩

/-- A web that does not answer. -/
def noWeb : Web := fun _ => .none

theorem sound_smallDisk :
  smallDisk.Sound
  := by decide +kernel

theorem proper_output_smallWorkshop (bump : Option String) :
  (smallWorkshop bump).output.Proper
  := FilePath.proper_ofText "plugins"

/-- A stack that is not there leaves every file as it was, and the stack that is there changes none
outside of `plugins/web`. -/
theorem buildStack_leaves_files_smallDisk :
  (∃ f d', (buildStack (smallWorkshop none) noWeb "docs").outcome smallDisk = (.error f, d') ∧
      ∀ place c, d'.HasFile place c ↔ smallDisk.HasFile place c) ∧
    ∀ p d', (buildStack (smallWorkshop none) noWeb "web").outcome smallDisk = (.ok p, d') →
      ∃ name, Slug.isKebabName name = true ∧ p.path = (smallWorkshop none).output.child name ∧
        ∀ place c, ¬ Bundle.Below (["plugins"] ++ [name]) place →
          (d'.HasFile place c ↔ smallDisk.HasFile place c)
  := by
  have hproper := proper_output_smallWorkshop none
  constructor
  · obtain ⟨f, hplan, hkind⟩ : ∃ f, plan (smallWorkshop none) smallDisk noWeb "docs" = .error f ∧
        f.kind.isOfSystem = false := by
      have hstack : smallSource.stack smallDisk "docs"
          = .error (.noFile (.ofPlace ["kit", "stacks", "docs", "config.yaml"])) := by rfl
      rw [plan_eq]
      refine ⟨_, congrArg (fun r => Except.mapError Fault.source r >>= _) hstack, ?_⟩
      rfl
    have hfails : (buildStack (smallWorkshop none) noWeb "docs").outcome smallDisk
        = (.error f, smallDisk) := by
      rw [buildStack, outcome_bind_eq_error_iff, outcome_look, hplan]
      exact Or.inl rfl
    rcases (buildStack_leaves_files (smallWorkshop none) noWeb "docs" sound_smallDisk hproper).1 f
      smallDisk hfails hkind with hsame | ⟨q, x, name, hq, -⟩
    · exact ⟨f, smallDisk, hfails, hsame⟩
    · rw [hplan] at hq
      cases hq
  · apply (buildStack_leaves_files (smallWorkshop none) noWeb "web" sound_smallDisk hproper).2

/-- A stack that states nothing but its name, its agents and a description. -/
def bareStack (name : String) (agents : List String) (description : Option String) : Record.Stack :=
  ⟨name, "1.0.0", none, none, description, [], agents, [], [], [], none, []⟩

/-- Whether a stack is a bare one. -/
def isBareStack (name : String) (agents : List String) (description : Option String)
    (s : Record.Stack) : Bool :=
  s.name == name && s.version == "1.0.0" && s.author.isNone && s.authorEmail.isNone &&
    s.description == description && s.skills.isEmpty && s.agents == agents && s.routing.isEmpty &&
    s.hooks.isEmpty && s.tags.isEmpty && s.philosophy.isNone && s.principles.isEmpty

theorem eq_ok_of_isBareStack {ε : Type} {r : Except ε Record.Stack} {name : String}
    {agents : List String} {description : Option String}
    (h : r.toOption.any (isBareStack name agents description) = true) :
  r = .ok (bareStack name agents description)
  := by
  cases r with
  | ok s =>
      obtain ⟨name, version, author, authorEmail, description, skills, agents, routing, hooks, tags,
        philosophy, principles⟩ := s
      simpa [Except.toOption, isBareStack, bareStack, and_assoc] using h
  | error e => cases h

/-- A stack whose description is two surrogates. -/
def rocketStack : Record.Stack :=
  bareStack "rocket" [] (some (.ofList [Text.charOfNumber 0xD83D, Text.charOfNumber 0xDE80]))

/-- The source tree with that stack on a disk with more entries; the YAML has a character as the
escapes of surrogates. -/
def rocketDiskWith (entries : List (Place × Node)) : Disk := diskWith ([
  (["kit", "stacks", "rocket"], .directory),
  (["kit", "stacks", "rocket", "config.yaml"],
    .file (.text "name: rocket\ndescription: \"\\ud83d\\ude80\"\n")),
  (["plugins", "rocket"], .directory)] ++ entries)

/-- A disk where an agent is left of an earlier bundle. -/
def rocketDisk : Disk := rocketDiskWith [
  (["plugins", "rocket", "agents"], .directory),
  (["plugins", "rocket", "agents", "writer.md"], .file (.text "Write.\n"))]

/-- A disk where the manifest was written. -/
def rocketManifestDisk (manifest : String) : Disk := rocketDiskWith [
  (["plugins", "rocket", ".claude-plugin"], .directory),
  (["plugins", "rocket", ".claude-plugin", "plugin.json"], .file (.text manifest))]

/-- A disk where the manifest was written and the readme was not. -/
def stoppedDisk (manifest : String) : Disk := rocketDiskWith [
  (["plugins", "rocket", ".claude-plugin"], .directory),
  (["plugins", "rocket", ".claude-plugin", "plugin.json"], .file (.text manifest)),
  (["plugins", "rocket", "README.md"], .file (.text ""))]

theorem stack_rocketDisk :
  smallSource.stack rocketDisk "rocket" = .ok rocketStack
  := by
  apply eq_ok_of_isBareStack
  decide +kernel

theorem compileStack_rocketDisk :
  compileStack (smallWorkshop none) rocketDisk noWeb "rocket" rocketStack
    = .ok ⟨"rocket", [], []⟩
  := by rfl

theorem segments_readme :
  Text.segments "README.md" = ["README.md"]
  := by decide +kernel

theorem segments_manifest :
  Text.segments ".claude-plugin/plugin.json" = [".claude-plugin", "plugin.json"]
  := by decide +kernel

theorem le_readme_manifest :
  Text.le "README.md" ".claude-plugin/plugin.json" = false
  := by decide +kernel

section

variable (readme manifest : String) (location : Option Location)

/-- The manifest of a bundle without documents comes before its readme. -/
theorem targets_rocketDisk :
  Bundle.Writer.encoding.targets
      ⟨[("README.md", readme), (".claude-plugin/plugin.json", manifest)], location⟩
      ["plugins", "rocket"]
    = .ok [(["plugins", "rocket", ".claude-plugin", "plugin.json"], manifest),
      (["plugins", "rocket", "README.md"], readme)]
  := by
  have hsorted : ([("README.md", readme), (".claude-plugin/plugin.json", manifest)].mergeSort
      fun f g => Text.le f.1 g.1)
      = [(".claude-plugin/plugin.json", manifest), ("README.md", readme)] := by
    simp [List.mergeSort, le_readme_manifest]
  rw [Bundle.targets_encoding_eq_ok_iff, Bundle.targets_eq (by decide)]
  · simp only [List.forall_mem_cons, hsorted, List.map_cons, List.map_nil, segments_readme,
      segments_manifest]
    exact ⟨⟨by decide +kernel, by decide +kernel, List.forall_mem_nil _⟩, rfl⟩
  · simp only [Table.names, List.map_cons, List.map_nil]
    decide
  · simp only [Table.names, List.map_cons, List.map_nil]
    decide

/-- A bundle without documents, whose readme cannot be encoded, is not written once its manifest
is. -/
theorem encodeTo_rocketDisk {x : Text.EncodingFault}
    (hreadme : Text.Encoding.utf8.fault? readme = some x)
    (hmanifest : Text.Encoding.utf8.fault? manifest = none) :
  (Bundle.encodeTo ⟨[("README.md", readme), (".claude-plugin/plugin.json", manifest)], location⟩
      (.child (.ofText "plugins") "rocket")).outcome rocketDisk
    = (.error (.text x), stoppedDisk manifest)
  := by
  have hdirectory : (Disk.makeDirectories (.child (.ofText "plugins") "rocket")).outcome rocketDisk
      = (.ok (), rocketDisk) :=
    outcome_makeDirectories_of_leadsTo rfl ⟨rfl, rfl⟩
  have hresolve : rocketDisk.resolve (.child (.ofText "plugins") "rocket")
      = ["plugins", "rocket"] := rfl
  have hremove : Bundle.removeAll ["plugins", "rocket"] ownedDirectories rocketDisk
      = rocketDiskWith [] := by rfl
  have hmake : (rocketDiskWith []).makeOne
      (FilePath.ofPlace ["plugins", "rocket", ".claude-plugin", "plugin.json"]).parent
      = .ok (rocketDiskWith [(["plugins", "rocket", ".claude-plugin"], .directory)]) := by rfl
  have hplugin : (rocketDiskWith [(["plugins", "rocket", ".claude-plugin"], .directory)]).write
      (.ofPlace ["plugins", "rocket", ".claude-plugin", "plugin.json"]) manifest
      = .ok (rocketManifestDisk manifest) := by rfl
  have hleads : (rocketManifestDisk manifest).LeadsTo
      (FilePath.ofPlace ["plugins", "rocket", "README.md"]).parent ["plugins", "rocket"] :=
    ⟨rfl, rfl⟩
  have hpage : (rocketManifestDisk manifest).write (.ofPlace ["plugins", "rocket", "README.md"]) ""
      = .ok (stoppedDisk manifest) := by rfl
  have hfirst := Bundle.outcome_encodeText_eq_ok_iff.mpr
    ⟨hmanifest, Bundle.outcome_writeText (outcome_makeDirectories_of_makeOne rfl hmake) hplugin⟩
  have hsecond := Bundle.outcome_encodeText_of_fault? hreadme
    (Bundle.outcome_writeText (outcome_makeDirectories_of_leadsTo rfl hleads) hpage)
  rw [Bundle.encodeTo, Bundle.Writer.outcome_store_of_makeDirectories hdirectory, hresolve,
    Bundle.Writer.outcome_fill, targets_rocketDisk, hremove]
  refine outcome_bind_eq_error_iff.mpr (Or.inr ⟨(), _, hfirst, ?_⟩)
  exact outcome_bind_eq_error_iff.mpr (Or.inl hsecond)

end

/-- A stack whose description cannot be encoded is not built, but an agent of the bundle before it
is gone. -/
theorem changes_files_rocketDisk :
  rocketDisk.Sound ∧ (smallWorkshop none).output.Proper ∧
    ∃ f d', (buildStack (smallWorkshop none) noWeb "rocket").outcome rocketDisk = (.error f, d') ∧
      f.kind.isOfSystem = false ∧ rocketDisk.HasFile ["plugins", "rocket", "agents", "writer.md"]
        (.text "Write.\n") ∧
      ∀ c, ¬ d'.HasFile ["plugins", "rocket", "agents", "writer.md"] c
  := by
  have hskills : ∀ s ∈ (smallWorkshop none).catalog.skills, Compile.Layable s ∧ ValidSkill s :=
    fun s hs => absurd hs List.not_mem_nil
  have hkeyed : (hooksOf rocketStack).Keyed := ⟨List.Pairwise.nil, trivial⟩
  obtain ⟨q, hplan⟩ :=
    exists_plan (w := smallWorkshop none) stack_rocketDisk compileStack_rocketDisk rfl
      (validProfile_smallWorkshop none) hskills hkeyed (Or.inl rfl) (by decide) (by decide)
  have hplanned := planned_of_plan hplan stack_rocketDisk compileStack_rocketDisk rfl
  obtain ⟨product, files, location⟩ := q
  obtain rfl : files = _ := hplanned.files_eq
  obtain ⟨x, hx⟩ : ∃ x,
      Text.Encoding.utf8.fault? (Readme.document (.ofStack rocketStack) []).content = some x := by
    apply Option.isSome_iff_exists.mp
    decide +kernel
  have hpath : product.path = .child (.ofText "plugins") "rocket" := hplanned.path_eq
  have hwrite := encodeTo_rocketDisk _ _ location hx
    (Manifest.utf8_fault?_write (.describe (.ofStack rocketStack) []))
  rw [← hpath] at hwrite
  refine ⟨by decide +kernel, proper_output_smallWorkshop none, _, _,
    buildStack_eq_error_iff.mpr (Or.inr ⟨_, _, hplan, hwrite, rfl⟩), rfl, rfl, ?_⟩
  intro c hc
  cases hc

/-! ### Documents -/

/-- Workshops whose catalog was loaded from a sound disk, and whose output directory has a path as
it is read from a text. -/
structure Workshop.Sound (w : Workshop) : Prop where
  output : w.output.Proper
  catalog : ∃ d : Disk, d.Sound ∧ w.tree.catalog d = .ok w.catalog

/-- What the stacks of a build share is loaded from the disk and has the output directory of the
settings. -/
theorem of_prepare_eq_ok {s : BuildSettings} {asked ids : List String} {bump : Option String}
    (h : prepare s asked bump d = .ok (w, ids)) :
  w.output = s.output ∧ w.tree.catalog d = .ok w.catalog
  := by
  obtain ⟨tree, -, h⟩ := bind_eq_ok_iff.mp h
  obtain ⟨catalog, hcatalog, h⟩ := bind_eq_ok_iff.mp h
  obtain ⟨profiles, -, h⟩ := bind_eq_ok_iff.mp h
  obtain ⟨ids', -, h⟩ := bind_eq_ok_iff.mp h
  obtain ⟨templates, -, h⟩ := bind_eq_ok_iff.mp h
  cases h
  exact ⟨rfl, mapError_eq_ok_iff.mp hcatalog⟩

theorem sound_of_prepare {s : BuildSettings} {asked ids : List String} {bump : Option String}
    (hd : d.Sound) (hout : s.output.Proper) (h : prepare s asked bump d = .ok (w, ids)) :
  w.Sound
  := by
  obtain ⟨houtput, hcatalog⟩ := of_prepare_eq_ok h
  exact ⟨houtput ▸ hout, d, hd, hcatalog⟩

/-- The documents of the agents of a product have normal paths. -/
def Product.HasNormalAgents (p : Product) : Prop :=
  ∀ path ∈ p.documents.names, Text.startsWith path Manifest.agentsDirectory = true → IsNormal path

/-- The files of a plan have normal paths if the documents of its agents have. -/
theorem Planned.isNormal_names {q : Plan} {stack : Record.Stack} {compiled : CompiledBundle}
    {m : Manifest} (h : Planned w d web id q stack compiled m) (hw : w.Sound)
    (hagents : q.product.HasNormalAgents) :
  ∀ path ∈ q.bundle.files.names, IsNormal path
  := by
  obtain ⟨profiles, as, ss, hs, hparts, -, hmem⟩ := exists_parts_of_compileStack h.compileStack_eq
  obtain ⟨d₀, hd₀, hcatalog⟩ := hw.catalog
  have hdocuments : ∀ x ∈ compiled.documents, IsNormal x.path := by
    intro x hx
    rcases hparts.document_cases hx with ⟨profile, -, hpath, -⟩ | ⟨s, hs, hskill⟩ | hhooks
    · apply hagents
      · rw [h.documents_eq, Table.names, List.map_map]
        apply List.mem_map_of_mem hx
      · rw [hpath, Compile.agentPath, String.append_assoc]
        apply Text.startsWith_append
    · apply (Catalog.of_loaded hd₀ hcatalog (hmem s hs)).2 x hskill
    · rw [(Compile.mem_hooksDocument hparts.hooksDocument_eq hhooks).2.1]
      decide
  have hreadme : IsNormal Readme.path := by decide
  have hmanifest : IsNormal Manifest.path := by decide
  rw [Table.names, h.files_eq, List.map_append, List.map_map, List.forall_mem_append,
    List.forall_mem_map]
  simp only [List.map_cons, List.map_nil, List.forall_mem_cons]
  exact ⟨hdocuments, hreadme, hmanifest, by simp⟩

/-- A product that was built was planned, and the bundle of its plan was written. -/
theorem exists_written (hw : w.Sound) (hd : d.Sound)
    (h : (buildStack w web id).outcome d = (.ok p, d')) (hagents : p.HasNormalAgents) :
  ∃ q stack compiled m, q.product = p ∧ Planned w d web id q stack compiled m ∧
    Bundle.Written q.bundle p.path d d'
  := by
  obtain ⟨q, hplan, rfl, -, hwrite⟩ := buildStack_eq_ok_iff.mp h
  obtain ⟨stack, compiled, m, hplanned⟩ := exists_planned hplan
  refine ⟨q, stack, compiled, m, rfl, hplanned, ?_⟩
  constructor
  · apply hd
  · rw [hplanned.path_eq]
    apply hw.output.child
  · apply hplanned.isNormal_names hw hagents
  · apply hplanned.nodup_names
  · apply List.mem_map_of_mem hplanned.mem_manifest
  · apply hwrite

/-- The documents of a product are those that were compiled for its stack, and lie in the
directories of the compiler. -/
theorem documents_of_buildStack (h : (buildStack w web id).outcome d = (.ok p, d')) :
  (∃ stack compiled, w.tree.stack d id = .ok stack ∧ compileStack w d web id stack = .ok compiled ∧
      p.path = w.output.child stack.name ∧
      p.documents = compiled.documents.map fun x => (x.path, x.content)) ∧
    ∀ f ∈ p.documents, Bundle.isManaged (Text.segments f.1) = true
  := by
  obtain ⟨q, hplan, rfl, -⟩ := buildStack_eq_ok_iff.mp h
  obtain ⟨stack, compiled, m, hplanned⟩ := exists_planned hplan
  obtain ⟨profiles, as, ss, hs, hparts, -⟩ := exists_parts_of_compileStack hplanned.compileStack_eq
  refine ⟨⟨stack, compiled, hplanned.stack_eq, hplanned.compileStack_eq, hplanned.path_eq,
    hplanned.documents_eq⟩, ?_⟩
  rw [hplanned.documents_eq, List.forall_mem_map]
  intro x hx
  apply isManaged_of_mem_documents hparts hx

/-- The files in the directories of the compiler below the path of a product are its documents. -/
def Product.IsKept (p : Product) (d : Disk) : Prop :=
  ∀ rest, Bundle.isManaged rest = true →
    ∀ c, d.HasFile (d.resolve p.path ++ rest) c ↔ ∃ f ∈ p.documents, Text.segments f.1 = rest ∧
      c = .text f.2

/-- A product that was built is kept. -/
theorem isKept_of_buildStack (hw : w.Sound) (hd : d.Sound)
    (h : (buildStack w web id).outcome d = (.ok p, d')) (hagents : p.HasNormalAgents) :
  p.IsKept d'
  := by
  have hconfined := confinedTo_of_buildStack hd hw.output h
  obtain ⟨q, stack, compiled, m, rfl, hplanned, hwritten⟩ := exists_written hw hd h hagents
  intro rest hrest c
  rw [hconfined.resolve_eq, hwritten.hasFile_iff]
  simp only [hrest, Bool.true_eq_false, false_and, and_false, or_false]
  have hmem : ∀ f : String × String, Text.segments f.1 = rest →
      (f ∈ q.product.documents ↔ f ∈ q.bundle.files) := by
    rintro f rfl
    rw [Product.documents, hplanned.bundle_eq, ownedFiles, List.mem_filter]
    simp only [isOwned_of_isManaged hrest, and_true]
  constructor
  · rintro ⟨f, hf, hpath, hc⟩
    exact ⟨f, (hmem f hpath).mpr hf, hpath, hc⟩
  · rintro ⟨f, hf, hpath, hc⟩
    exact ⟨f, (hmem f hpath).mp hf, hpath, hc⟩

/-- Two products have the same documents. -/
def SameDocuments (p q : Product) : Prop := ∀ f, f ∈ p.documents ↔ f ∈ q.documents

namespace Product.IsKept

variable {q : Product}

/-- A product is kept where another one with the same path and documents is. -/
theorem congr (h : q.IsKept d) (hpath : p.path = q.path) (hsame : SameDocuments p q) :
  p.IsKept d
  := by
  intro rest hrest c
  rw [hpath, h rest hrest]
  apply exists_congr
  intro f
  rw [hsame f]

/-- Two products that are kept at one path have the same documents. -/
theorem mem_documents (h : p.IsKept d) (h' : q.IsKept d) (hpath : p.path = q.path)
    (hmanaged : ∀ f ∈ p.documents, Bundle.isManaged (Text.segments f.1) = true) :
  ∀ f ∈ p.documents, f ∈ q.documents
  := by
  intro f hf
  have hfile := (h _ (hmanaged f hf) (.text f.2)).mpr ⟨f, hf, rfl, rfl⟩
  rw [hpath, h' _ (hmanaged f hf)] at hfile
  obtain ⟨g, hg, hsegments, htext⟩ := hfile
  have hname : g.1 = f.1 := by rw [← Text.join_segments g.1, hsegments, Text.join_segments]
  injection htext with htext
  have heq : g = f := Prod.ext hname htext.symm
  rw [← heq]
  apply hg

/-- A product is kept when files change below other directories of the output directory. -/
theorem of_confinedTo {output : FilePath} {name : String} (h : p.IsKept d)
    (hname : Slug.isKebabName name = true) (hpath : p.path = output.child name) {P : Place → Prop}
    (hconfined : ConfinedTo P d d')
    (hother : ∀ place, P place → ∃ other,
      other ≠ name ∧ Bundle.Below (d.resolve output ++ [other]) place) :
  p.IsKept d'
  := by
  intro rest hrest c
  rw [hconfined.resolve_eq, hconfined.hasFile_iff, h rest hrest]
  intro hplace
  obtain ⟨other, hne, below, -, heq⟩ := hother _ hplace
  rw [hpath, resolve_child hname, List.append_assoc, List.append_assoc] at heq
  injection List.append_cancel_left heq with heq _
  exact hne heq.symm

end Product.IsKept

end AgentBundles.Build
