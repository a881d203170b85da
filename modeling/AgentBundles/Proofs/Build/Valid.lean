import AgentBundles.Proofs.Build.Progress
import AgentBundles.Proofs.Validation.ReadBack

/-!
# Products that are validated on the disk

A bundle is validated before it is written. It is still valid when it is read back: its manifest and
its hooks are written without carriage returns, its documents have the same headers, and nothing
else is a document.
-/

namespace AgentBundles.Build

open Disk Disk.Action Validation

variable {w : Workshop} {web : Web} {id : String} {d d' : Disk} {p : Product} {q : Plan}

/-- Skills and agents are where they usually are, whatever version a manifest goes on from. -/
theorem directoryOf_of_manifestFor {metadata : BundleMetadata} {compiled : CompiledBundle}
    {path : FilePath} {m : Manifest}
    (h : manifestFor w d (.describe metadata compiled.paths) compiled path = .ok m) :
  directoryOf m.toValue "skills" Manifest.skillsDirectory = Manifest.skillsDirectory ∧
    directoryOf m.toValue "agents" Manifest.agentsDirectory = Manifest.agentsDirectory
  := by
  have hm := eq_of_manifestFor h
  constructor
  · have htext := (Manifest.text?_skills m).1
    rw [hm] at htext
    rw [hm]
    exact directoryOf_of_declare htext (by decide)
  · have htext := (Manifest.text?_agents m).1
    rw [hm] at htext
    rw [hm]
    exact directoryOf_of_declare htext (by decide)

namespace Planned

variable {stack : Record.Stack} {compiled : CompiledBundle} {m : Manifest}
    (h : Planned w d web id q stack compiled m)

include h

/-- A plan is validated with its manifest. -/
theorem toValue_eq {manifest : Entries} {issues : List Issue}
    (hof : manifestOf q.bundle.files = .ok (manifest, issues)) :
  m.toValue = .map manifest
  := by
  obtain ⟨entries, hentries, hof'⟩ := Manifest.manifestOf_of_get? h.get?_manifest
  rw [hof] at hof'
  injection hof' with hof'
  injection hof' with heq _
  rw [heq, hentries]

/-- Skills and agents are where they usually are. -/
theorem directoryOf_eq :
  directoryOf m.toValue "skills" Manifest.skillsDirectory = Manifest.skillsDirectory ∧
    directoryOf m.toValue "agents" Manifest.agentsDirectory = Manifest.agentsDirectory
  := directoryOf_of_manifestFor h.manifestFor_eq

/-- The hooks that are declared are among the files of a plan, without carriage returns. -/
theorem mem_hooks {declared : String} (hdeclared : text? m.toValue "hooks" = some declared) :
  ∃ s, (entryPath declared, s) ∈ q.bundle.files ∧ '\r' ∉ s.toList
  := by
  obtain ⟨profiles, as, ss, hs, hparts, -⟩ := exists_parts_of_compileStack h.compileStack_eq
  have hhooks : m.hooks = Manifest.declare (compiled.paths.contains Compile.hooksPath)
      Compile.hooksPath := by
    rw [eq_of_manifestFor h.manifestFor_eq]
    rfl
  rw [(Manifest.text?_hooks m).1, hhooks, Manifest.declare] at hdeclared
  split at hdeclared
  · rename_i hcontains
    obtain ⟨x, hx, hmem⟩ := hparts.exists_hooks_of_mem_paths (List.contains_iff_mem.mp hcontains)
    obtain ⟨-, hpath, -, -, hcontent⟩ := Compile.mem_hooksDocument hparts.hooksDocument_eq hx
    cases hdeclared
    have hentry : entryPath ("./" ++ Compile.hooksPath) = Compile.hooksPath := by decide
    refine ⟨x.content, ?_, ?_⟩
    · rw [hentry, ← hpath, h.files_eq]
      apply List.mem_append_left
      apply List.mem_map_of_mem hmem
    · rw [hcontent, String.toList_append, List.mem_append, not_or]
      exact ⟨Json.return_not_mem_write _, by decide⟩
  · cases hdeclared

/-- The documents of a plan have the same headers once they are read back. -/
theorem parse_unified (hw : w.Sound) {f : String × String} (hf : f ∈ q.bundle.files)
    (htext : isSkillPath Manifest.skillsDirectory f.1 = true ∨
      isAgentPath Manifest.agentsDirectory f.1 = true) :
  Header.parse (unified f.2) = Header.parse f.2
  := by
  obtain ⟨profiles, as, ss, hs, hparts, -, hmem⟩ := exists_parts_of_compileStack h.compileStack_eq
  obtain ⟨d₀, hd₀, hcatalog⟩ := hw.catalog
  have hslash : ∀ s ∈ ss, '/' ∉ s.slug.toList := by
    intro s hs
    apply Slug.not_mem_kebabName (Catalog.of_loaded hd₀ hcatalog (hmem s hs)).1
    all_goals decide
  have hpaths : compiled.paths.Nodup := by
    have hnodup := h.nodup_names
    rw [Table.names, h.files_eq, List.map_append, List.map_map] at hnodup
    apply (List.nodup_append.mp hnodup).1
  have hother : ∀ path ∈ [Readme.path, Manifest.path],
      ¬ (isSkillPath Manifest.skillsDirectory path = true ∨
        isAgentPath Manifest.agentsDirectory path = true) := by decide
  rw [h.files_eq] at hf
  rcases List.mem_append.mp hf with hf | hf
  · obtain ⟨x, hx, rfl⟩ := List.mem_map.mp hf
    apply hparts.parse_unified_content hslash hpaths hx htext
  · exact absurd htext (hother _ (List.mem_map_of_mem hf))

/-- The version that is read back is that of the product. -/
theorem exists_manifest_of_readsBack {b : Bundle}
    (hback : Bundle.ReadsBack q.bundle.files b.files) :
  ∃ m', b.manifest = .ok m' ∧ m'.version = q.product.version
  := by
  refine ⟨{ m with description := m.description.filter fun s => !s.isEmpty }, ?_, h.version_eq.symm⟩
  rw [Bundle.manifest, hback.get?_eq h.mem_manifest m.return_not_mem_write]
  apply Manifest.read_of_write

/-- A plan is valid still when its files are read back. -/
theorem isValid_of_readsBack (hw : w.Sound) {b : Bundle}
    (hback : Bundle.ReadsBack q.bundle.files b.files) :
  b.IsValid
  := by
  have hvalid : q.bundle.IsValid := ⟨_, h.validate_eq, h.report_ok⟩
  apply hvalid.of_subset
  · intro path hpath
    obtain ⟨f, hf, rfl⟩ := List.mem_map.mp hpath
    apply List.mem_map_of_mem (hback.mem f hf)
  · rw [h.get?_manifest, hback.get?_eq h.mem_manifest m.return_not_mem_write]
  · intro manifest issues declared hof hdeclared
    rw [← h.toValue_eq hof] at hdeclared
    obtain ⟨s, hs, hreturn⟩ := h.mem_hooks hdeclared
    rw [hback.get?_eq hs hreturn, Table.get?_of_mem h.nodup_names hs]
  · intro manifest issues hof f hf
    obtain ⟨manifest', issues', hof', -, -, hall⟩ := Bundle.isValid_iff.mp hvalid
    rw [hof] at hof'
    cases hof'
    rw [← h.toValue_eq hof, h.directoryOf_eq.1, h.directoryOf_eq.2] at hall ⊢
    rcases hback.cases f hf with ⟨g, hg, rfl⟩ | hmanaged
    · rw [documentIssues_congr (h.parse_unified hw hg)]
      apply hall g hg
    · rw [Passes, documentIssues_of_not_isManaged hmanaged]
      exact ⟨[], rfl, fun _ hi => absurd hi List.not_mem_nil⟩

end Planned

/-- A bundle that was built is valid on the disk and has the version of its product there, if its
agents have normal paths, the way to its directory does not lead through what is removed there, no
path from there to a file is too long, and the files that are not in the directories of the compiler
are texts. -/
theorem validatePath_of_buildStack (hw : w.Sound) (hd : d.Sound)
    (h : (buildStack w web id).outcome d = (.ok p, d')) (hagents : p.HasNormalAgents)
    (havoids : Bundle.Avoids d p.path)
    (hshort : ∀ rest c,
      d'.HasFile (d'.resolve p.path ++ rest) c →
      (p.path.below rest).text.utf8ByteSize ≤ longestPath)
    (htexts : ∀ rest c,
      Bundle.isManaged rest = false → d.HasFile (d.resolve p.path ++ rest) c →
      ∃ s, textOf c = .ok s) :
  ∃ r, validatePath d' p.path = .ok r ∧ r.ok = true ∧ ∃ m, r.bundle.manifest = .ok m ∧
    m.version = p.version
  := by
  have hconfined := confinedTo_of_buildStack hd hw.output h
  obtain ⟨q, stack, compiled, m, rfl, hplanned, hwritten⟩ := exists_written hw hd h hagents
  have hd' := (hconfined.sound hd).tree
  have hleads := Bundle.leadsTo_of_writeTo hd hwritten.proper havoids hwritten.writeTo_eq
  rw [← hconfined.resolve_eq] at hleads
  obtain ⟨b, hread⟩ : ∃ b, Bundle.readFrom d' q.product.path none = .ok b := by
    apply Bundle.exists_readFrom hd' (Bundle.isPlain_of_writeTo hwritten.writeTo_eq)
      ⟨hleads, fun {rest c} => hshort rest c⟩
    intro rest c hfile
    rw [hconfined.resolve_eq, hwritten.hasFile_iff] at hfile
    rcases hfile with ⟨f, -, -, rfl⟩ | ⟨-, hmanaged, hold⟩
    · exact ⟨_, textOf_text f.2⟩
    · apply htexts rest c hmanaged hold
  have hholds := hwritten.holds
  rw [← hconfined.resolve_eq] at hholds
  have hback := hholds.readsBack hd' hread
  obtain ⟨r, hvalidate, hok⟩ := hplanned.isValid_of_readsBack hw hback
  refine ⟨r, ?_, hok, ?_⟩
  · rw [validatePath, hread]
    exact congrArg (Except.mapError Fault.validation) hvalidate
  · rw [bundle_of_validate hvalidate]
    apply hplanned.exists_manifest_of_readsBack hback

/-- The bundle of the small workshop is valid on the disk. -/
theorem validatePath_of_buildStack_smallDisk :
  ∃ p d', (buildStack (smallWorkshop none) noWeb "web").outcome smallDisk = (.ok p, d') ∧
    ∃ r, validatePath d' p.path = .ok r ∧ r.ok = true ∧ ∃ m, r.bundle.manifest = .ok m ∧
      m.version = "1.0.0"
  := by
  obtain ⟨p, readme, manifest, hbuild, hpath, hversion, hdocuments⟩ :=
    exists_buildStack_smallDisk none
  have havoids : Bundle.Avoids smallDisk webPath := by decide
  have hreaches := reaches_builtDisk reviewDocument.content readme manifest
  rw [← hpath] at havoids hreaches
  refine ⟨p, _, hbuild, ?_⟩
  rw [← hversion]
  apply validatePath_of_buildStack (sound_smallWorkshop none) sound_smallDisk hbuild
    (hasNormalAgents_of_documents_eq hdocuments) havoids
  · intro rest c hfile
    apply hreaches.short hfile
  · intro rest c _ hfile
    apply exists_textOf_smallDisk hfile

end AgentBundles.Build
