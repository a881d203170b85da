import AgentBundles.Proofs.Build.Built

/-!
# Builds that succeed

A stack that is planned is built once its bundle is written. The stack of the small workshop is
built, and built again.
-/

namespace AgentBundles.Build

open Disk Disk.Action

/-! ### The small workshop -/

/-- The catalog of the small source tree has no skills. -/
theorem catalog_smallSource :
  smallSource.catalog smallDisk = .ok ⟨"1.0.0", [], [], [], [], []⟩
  := by
  have hmatrix : smallSource.matrix smallDisk
      = .ok ⟨"1.0.0", [], ⟨[], [], [], [], []⟩, [], []⟩ := by
    apply eq_ok_of_toOption
    decide +kernel
  have hbelow : smallDisk.below smallSource.skillsRoot = [] := by
    have hwalk : smallDisk.walk smallSource.skillsRoot = .ok ["kit", "skills"] := by rfl
    rw [List.eq_nil_iff_forall_not_mem]
    rintro ⟨rest, node⟩ hmem
    obtain ⟨hne, hnode⟩ := (Disk.mem_below_iff sound_smallDisk.tree hwalk).mp hmem
    have hentry := Tree.mem_entries_of_get? (List.append_ne_nil_of_right_ne_nil _ hne) hnode
    simp [smallDisk, diskWith, smallEntries, hne] at hentry
  have hskills : smallSource.skills smallDisk = .ok [] := by
    have hdirectory : smallDisk.isDirectory smallSource.skillsRoot = .ok true := by rfl
    rw [SourceTree.skills, SourceTree.skillPlaces, hbelow, hdirectory]
    rfl
  rw [SourceTree.catalog, hmatrix, ok_bind, hskills, ok_bind]
  rfl

theorem sound_smallWorkshop (bump : Option String) :
  (smallWorkshop bump).Sound
  := ⟨proper_output_smallWorkshop bump, smallDisk, sound_smallDisk, catalog_smallSource⟩

def webStack : Record.Stack := bareStack "web" ["reviewer"] none

/-- The stack is read on every disk with the small source tree. -/
theorem stack_diskWith (entries : List (Place × Node)) :
  smallSource.stack (diskWith entries) "web" = .ok webStack
  := by
  have hdocument : ∀ entries, smallSource.stack (diskWith entries) "web"
      = smallSource.document (diskWith entries) (.ofPlace ["kit", "stacks", "web", "config.yaml"])
        Record.Stack.ofValue := fun _ => by rfl
  have htext : ∀ entries,
      smallSource.text (diskWith entries) (.ofPlace ["kit", "stacks", "web", "config.yaml"])
      = .ok "name: web\nagents: [reviewer]\n" := fun _ => by rfl
  have hsame : smallSource.stack (diskWith entries) "web"
      = smallSource.stack (diskWith []) "web" := by
    rw [hdocument, hdocument, SourceTree.document, SourceTree.document, htext, htext]
  rw [hsame]
  apply eq_ok_of_isBareStack
  decide +kernel

/-- The document of the agent. -/
def reviewDocument : Document where
  path := "agents/reviewer.md"
  content := "---\nname: reviewer\ndescription: Reviews\n---\n\nReview everything.\n"
  contributors := []

def webBundle : CompiledBundle := ⟨"web", [reviewDocument], []⟩

/-- The stack is compiled to the document of its agent on every disk with the small source tree. -/
theorem compileStack_diskWith (bump : Option String) (entries : List (Place × Node)) :
  compileStack (smallWorkshop bump) (diskWith entries) noWeb "web" webStack = .ok webBundle
  := by
  have hfetch : (smallWorkshop bump).templates.fetch (diskWith entries) noWeb ["agent"]
      = .ok [("agent", "Review everything.\n")] := by rfl
  have hbundle : Compile.bundle (smallWorkshop none).catalog ⟨.ofList [], []⟩ [reviewer]
      [("agent", "Review everything.\n")] "web" [] (.ofFields []) = .ok webBundle := by
    apply eq_ok_of_toOption
    decide +kernel
  have hencoded : webBundle.encodingFault? = none := by decide +kernel
  exact compileStack_eq_ok_iff.mpr ⟨⟨.ofList [], []⟩, [reviewer],
    [("agent", "Review everything.\n")], rfl, rfl, hfetch, hbundle, hencoded⟩

/-- The directory of the bundle. -/
def webPath : FilePath := .child (.ofText "plugins") "web"

/-- A bundle with the document of the agent. -/
def smallBundle (agent readme manifest : String) : Bundle :=
  ⟨[("agents/reviewer.md", agent), ("README.md", readme), (".claude-plugin/plugin.json", manifest)],
    none⟩

/-- The bundle can be encoded if its readme can. -/
theorem encodes_smallBundle {readme : String} (hreadme : Text.Encoding.utf8.fault? readme = none)
    (m : Manifest) :
  (smallBundle reviewDocument.content readme m.write).Encodes ["plugins", "web"]
  := by
  have hagent : Text.Encoding.utf8.fault? reviewDocument.content = none := by decide +kernel
  constructor
  · simp only [smallBundle, List.forall_mem_cons]
    exact ⟨by decide +kernel, by decide +kernel, by decide +kernel, List.forall_mem_nil _⟩
  · simp only [smallBundle, List.forall_mem_cons]
    exact ⟨hagent, hreadme, m.utf8_fault?_write, List.forall_mem_nil _⟩

/-- A disk where the manifest of the bundle was written. -/
def manifestDisk (manifest : String) : Disk := diskWith [
  (["plugins", "web", ".claude-plugin"], .directory),
  (["plugins", "web", ".claude-plugin", "plugin.json"], .file (.text manifest))]

/-- A disk where the manifest and the readme of the bundle were written. -/
def pagesDisk (readme manifest : String) : Disk := diskWith [
  (["plugins", "web", ".claude-plugin"], .directory),
  (["plugins", "web", ".claude-plugin", "plugin.json"], .file (.text manifest)),
  (["plugins", "web", "README.md"], .file (.text readme))]

/-- A disk where the bundle was written. -/
def builtDisk (agent readme manifest : String) : Disk := diskWith [
  (["plugins", "web", ".claude-plugin"], .directory),
  (["plugins", "web", ".claude-plugin", "plugin.json"], .file (.text manifest)),
  (["plugins", "web", "README.md"], .file (.text readme)),
  (["plugins", "web", "agents"], .directory),
  (["plugins", "web", "agents", "reviewer.md"], .file (.text agent))]

section

variable (agent readme manifest : String)

theorem targets_smallBundle :
  Bundle.Writer.plain.targets (smallBundle agent readme manifest) ["plugins", "web"] = .ok [
    (["plugins", "web", ".claude-plugin", "plugin.json"], manifest),
    (["plugins", "web", "README.md"], readme), (["plugins", "web", "agents", "reviewer.md"], agent)]
  := by
  have hnames : (smallBundle agent readme manifest).files.names
      = ["agents/reviewer.md", "README.md", ".claude-plugin/plugin.json"] := rfl
  have hroot : ".." ∉ ["plugins", "web"] := by decide
  have hnormal : ∀ path ∈ (smallBundle agent readme manifest).files.names, IsNormal path := by
    rw [hnames]
    decide
  have hplain : ∀ path ∈ (smallBundle agent readme manifest).files.names,
      (FilePath.ofText path).isPlain = true := by
    rw [hnames]
    decide
  have hsorted : ((smallBundle agent readme manifest).files.mergeSort fun f g => Text.le f.1 g.1)
      = [(".claude-plugin/plugin.json", manifest), ("README.md", readme),
        ("agents/reviewer.md", agent)] := by
    have hagent : Text.le "agents/reviewer.md" "README.md" = false := by decide +kernel
    simp [smallBundle, List.mergeSort, hagent, le_readme_manifest]
  have hagents : Text.segments "agents/reviewer.md" = ["agents", "reviewer.md"] := by decide +kernel
  rw [Bundle.targets_eq hroot hnormal hplain, hsorted]
  simp only [List.map_cons, List.map_nil, hagents, segments_readme, segments_manifest,
    List.cons_append, List.nil_append]

/-- The bundle is written once its manifest and its readme are. -/
theorem outcome_writeTo_smallBundle {entries : List (Place × Node)} {d : Disk}
    (hmanifest :
      (Bundle.writeText ["plugins", "web", ".claude-plugin", "plugin.json"] manifest).outcome
      (Bundle.removeAll ["plugins", "web"] ownedDirectories (diskWith entries)) = (.ok (), d))
    (hreadme : (Bundle.writeText ["plugins", "web", "README.md"] readme).outcome d
      = (.ok (), pagesDisk readme manifest)) :
  ((smallBundle agent readme manifest).writeTo webPath).outcome (diskWith entries)
    = (.ok (), builtDisk agent readme manifest)
  := by
  have hleads : (diskWith entries).LeadsTo webPath ["plugins", "web"] := ⟨rfl, rfl⟩
  have hdirectory : (Bundle.makeDirectories webPath).outcome (diskWith entries)
      = (.ok (), diskWith entries) :=
    outcome_adapt_eq_ok_iff.mpr (outcome_makeDirectories_of_leadsTo rfl hleads)
  have hmake : (pagesDisk readme manifest).makeOne
      (FilePath.ofPlace ["plugins", "web", "agents", "reviewer.md"]).parent
      = .ok (diskWith [
        (["plugins", "web", ".claude-plugin"], .directory),
        (["plugins", "web", ".claude-plugin", "plugin.json"], .file (.text manifest)),
        (["plugins", "web", "README.md"], .file (.text readme)),
        (["plugins", "web", "agents"], .directory)]) := by rfl
  have hwrite : (diskWith [
        (["plugins", "web", ".claude-plugin"], .directory),
        (["plugins", "web", ".claude-plugin", "plugin.json"], .file (.text manifest)),
        (["plugins", "web", "README.md"], .file (.text readme)),
        (["plugins", "web", "agents"], .directory)]).write
          (.ofPlace ["plugins", "web", "agents", "reviewer.md"]) agent
      = .ok (builtDisk agent readme manifest) := by rfl
  have hagent := Bundle.outcome_writeText (outcome_makeDirectories_of_makeOne rfl hmake) hwrite
  rw [Bundle.writeTo, Bundle.Writer.outcome_store, hdirectory]
  apply Bundle.fill_plain_eq_ok_iff.mpr
  refine ⟨_, targets_smallBundle agent readme manifest, ?_⟩
  refine outcome_bind_eq_ok_iff.mpr ⟨(), _, hmanifest, ?_⟩
  refine outcome_bind_eq_ok_iff.mpr ⟨(), _, hreadme, ?_⟩
  exact outcome_bind_eq_ok_iff.mpr ⟨(), _, hagent, rfl⟩

/-- The bundle is written in place of what is left of an earlier one. -/
theorem writeTo_smallDisk :
  ((smallBundle agent readme manifest).writeTo webPath).outcome smallDisk
    = (.ok (), builtDisk agent readme manifest)
  := by
  have hremove : Bundle.removeAll ["plugins", "web"] ownedDirectories smallDisk
      = diskWith [] := by rfl
  have hmake :
      (diskWith []).makeOne
      (FilePath.ofPlace ["plugins", "web", ".claude-plugin", "plugin.json"]).parent
      = .ok (diskWith [(["plugins", "web", ".claude-plugin"], .directory)]) := by rfl
  have hmanifest : (diskWith [(["plugins", "web", ".claude-plugin"], .directory)]).write
      (.ofPlace ["plugins", "web", ".claude-plugin", "plugin.json"]) manifest
        = .ok (manifestDisk manifest) := by rfl
  have hleads : (manifestDisk manifest).LeadsTo
      (FilePath.ofPlace ["plugins", "web", "README.md"]).parent ["plugins", "web"] := ⟨rfl, rfl⟩
  have hreadme : (manifestDisk manifest).write (.ofPlace ["plugins", "web", "README.md"]) readme
      = .ok (pagesDisk readme manifest) := by rfl
  apply outcome_writeTo_smallBundle
  · rw [← smallDisk, hremove]
    exact Bundle.outcome_writeText (outcome_makeDirectories_of_makeOne rfl hmake) hmanifest
  · exact Bundle.outcome_writeText (outcome_makeDirectories_of_leadsTo rfl hleads) hreadme

/-- The bundle is written in place of one that was written before. -/
theorem writeTo_builtDisk (agent' readme' manifest' : String) :
  ((smallBundle agent readme manifest).writeTo webPath).outcome (builtDisk agent' readme' manifest')
    = (.ok (), builtDisk agent readme manifest)
  := by
  have hremove : Bundle.removeAll ["plugins", "web"] ownedDirectories
      (builtDisk agent' readme' manifest')
      = pagesDisk readme' manifest' := by rfl
  have hplugin : (pagesDisk readme' manifest').LeadsTo
      (FilePath.ofPlace ["plugins", "web", ".claude-plugin", "plugin.json"]).parent ["plugins",
        "web", ".claude-plugin"] :=
    ⟨rfl, rfl⟩
  have hmanifest : (pagesDisk readme' manifest').write
      (.ofPlace ["plugins", "web", ".claude-plugin", "plugin.json"]) manifest
      = .ok (pagesDisk readme' manifest) := by rfl
  have hleads : (pagesDisk readme' manifest).LeadsTo
      (FilePath.ofPlace ["plugins", "web", "README.md"]).parent ["plugins", "web"] := ⟨rfl, rfl⟩
  have hreadme : (pagesDisk readme' manifest).write
      (.ofPlace ["plugins", "web", "README.md"]) readme
      = .ok (pagesDisk readme manifest) := by rfl
  apply outcome_writeTo_smallBundle
  · rw [← builtDisk, hremove]
    exact Bundle.outcome_writeText (outcome_makeDirectories_of_leadsTo rfl hplugin) hmanifest
  · exact Bundle.outcome_writeText (outcome_makeDirectories_of_leadsTo rfl hleads) hreadme

end

/-- The stack is built on a disk on which its bundle can be written, with the version of the
manifest that is found for it. -/
theorem exists_buildStack {bump : Option String} {entries : List (Place × Node)} {m : Manifest}
    (hm : manifestFor (smallWorkshop bump) (diskWith entries)
      (.describe (.ofStack webStack) webBundle.paths) webBundle webPath = .ok m)
    (hversion : Version.isSemantic m.version = true)
    (hwrite : ∀ agent readme manifest,
      ((smallBundle agent readme manifest).writeTo webPath).outcome (diskWith entries)
      = (.ok (), builtDisk agent readme manifest)) :
  ∃ p readme manifest, (buildStack (smallWorkshop bump) noWeb "web").outcome (diskWith entries)
      = (.ok p, builtDisk reviewDocument.content readme manifest) ∧
    p.path = webPath ∧ p.version = m.version ∧
    p.documents = [(reviewDocument.path, reviewDocument.content)]
  := by
  have hstack : (smallWorkshop bump).tree.stack (diskWith entries) "web" = .ok webStack :=
    stack_diskWith entries
  have hcompiled := compileStack_diskWith bump entries
  have hskills : ∀ s ∈ (smallWorkshop bump).catalog.skills, Compile.Layable s ∧ ValidSkill s :=
    fun s hs => absurd hs List.not_mem_nil
  have hkeyed : (hooksOf webStack).Keyed := ⟨List.Pairwise.nil, trivial⟩
  obtain ⟨q, hplan⟩ := exists_plan hstack hcompiled hm (validProfile_smallWorkshop bump) hskills
    hkeyed (Or.inl rfl) (by decide) hversion
  have hplanned := planned_of_plan hplan hstack hcompiled hm
  refine ⟨q.product, (Readme.document (.ofStack webStack) webBundle.paths).content, m.write, ?_,
    hplanned.path_eq, hplanned.version_eq, hplanned.documents_eq⟩
  obtain ⟨product, files, location⟩ := q
  obtain rfl : files = _ := hplanned.files_eq
  have hpath : product.path = webPath := hplanned.path_eq
  have hreadme :
      Text.Encoding.utf8.fault? (Readme.document (.ofStack webStack) webBundle.paths).content
      = none := by
    decide +kernel
  have hencodes := encodes_smallBundle hreadme m
  refine buildStack_eq_ok_iff.mpr ⟨_, hplan, rfl, ?_⟩
  dsimp only
  rw [hpath]
  exact ⟨⟨hencodes.names, hencodes.texts⟩, hwrite _ _ _⟩

/-- The stack is built on the small disk with the version that it states. -/
theorem exists_buildStack_smallDisk (bump : Option String) :
  ∃ p readme manifest, (buildStack (smallWorkshop bump) noWeb "web").outcome smallDisk
      = (.ok p, builtDisk reviewDocument.content readme manifest) ∧
    p.path = webPath ∧ p.version = "1.0.0" ∧
    p.documents = [(reviewDocument.path, reviewDocument.content)]
  := by
  have hm : manifestFor (smallWorkshop bump) smallDisk
      (.describe (.ofStack webStack) webBundle.paths) webBundle webPath
      = .ok (.describe (.ofStack webStack) webBundle.paths) := by
    cases bump with
    | none => rfl
    | some part => rfl
  have hversion : Version.isSemantic "1.0.0" = true := by decide
  apply exists_buildStack hm hversion writeTo_smallDisk

/-- The document of the agent has a normal path. -/
theorem hasNormalAgents_of_documents_eq {p : Product}
    (h : p.documents = [(reviewDocument.path, reviewDocument.content)]) :
  p.HasNormalAgents
  := by
  intro path hpath _
  rw [h] at hpath
  cases List.mem_singleton.mp hpath
  decide

/-- The files on a disk with the small source tree are among its entries. -/
theorem mem_entries_of_hasFile {entries : List (Place × Node)} {place : Place} {c : Content}
    (h : (diskWith entries).HasFile place c) :
  (place, .file c) ∈ smallEntries ++ entries
  := by
  apply Tree.mem_entries_of_get? _ h
  rintro rfl
  cases h

/-- The files on a disk with the small source tree are texts if those that are added are. -/
theorem exists_textOf_diskWith {entries : List (Place × Node)}
    (hentries : ∀ e ∈ entries, ∀ c, e.2 = .file c → ∃ s, c = .text s) {place : Place} {c : Content}
    (h : (diskWith entries).HasFile place c) :
  ∃ s, textOf c = .ok s
  := by
  have hsmall : ∀ e ∈ smallEntries, ∀ c, e.2 = .file c → ∃ s, c = .text s := by simp [smallEntries]
  obtain ⟨s, rfl⟩ : ∃ s, c = .text s := by
    rcases List.mem_append.mp (mem_entries_of_hasFile h) with hmem | hmem
    · apply hsmall _ hmem c rfl
    · apply hentries _ hmem c rfl
  exact ⟨_, textOf_text s⟩

theorem exists_textOf_smallDisk {place : Place} {c : Content} (h : smallDisk.HasFile place c) :
  ∃ s, textOf c = .ok s
  := exists_textOf_diskWith (by simp) h

section

variable (agent readme manifest : String)

theorem exists_textOf_builtDisk {place : Place} {c : Content}
    (h : (builtDisk agent readme manifest).HasFile place c) :
  ∃ s, textOf c = .ok s
  := exists_textOf_diskWith (by simp) h

/-- The directory of the bundle can be reached. -/
theorem reaches_builtDisk :
  (builtDisk agent readme manifest).Reaches webPath
  := by
  constructor
  · exact ⟨rfl, rfl⟩
  · intro rest c h
    have hmem := mem_entries_of_hasFile h
    have hresolve : (builtDisk agent readme manifest).resolve webPath = ["plugins", "web"] := rfl
    have hrest : rest ∈ [["NOTES.md"], [".claude-plugin", "plugin.json"], ["README.md"],
        ["agents", "reviewer.md"]] := by
      rw [hresolve] at hmem
      simp [smallEntries] at hmem ⊢
      tauto
    have hshort :
        ∀ rest ∈ [["NOTES.md"], [".claude-plugin", "plugin.json"], ["README.md"],
        ["agents", "reviewer.md"]],
        (webPath.below rest).text.utf8ByteSize ≤ longestPath := by decide
    apply hshort rest hrest

end

end AgentBundles.Build
