import AgentBundles.Proofs.Build.Faults
import AgentBundles.Proofs.Build.Runs
import AgentBundles.Proofs.Build.Valid
import AgentBundles.Proofs.Publish.Index

/-!
# Builds and publications that end

What keeps a stack from being built, bundles from being validated, and a catalog index from being
published, with a fault that is not reported. Compiled bundles have no such fault, nor have the
manifests of bundles that are there.
-/

namespace AgentBundles

/-! ### Bundles on the disk -/

theorem Validation.isDocument_of_headerSchema? {skills agents path : String}
    {schema : DocumentSchema} (h : headerSchema? skills agents path = some schema) :
  isSkillPath skills path = true ∨ isAgentPath agents path = true
  := by
  rw [headerSchema?] at h
  split at h
  · rename_i hskill
    exact Or.inl hskill
  · split at h
    · rename_i hagent
      exact Or.inr hagent
    · cases h

/-- What makes a fault of a bundle that is not reported: the header of a skill or an agent in it. -/
inductive Bundle.Escapes (b : Bundle) : ValidationFault → Prop where
  | header {manifest : Entries} {issues : List Issue} {file : String × String}
      {schema : DocumentSchema} {f : Yaml.Fault} : Validation.manifestOf b.files
        = .ok (manifest, issues) → file ∈ b.files →
      Validation.headerSchema?
        (Validation.directoryOf (.map manifest) "skills" Manifest.skillsDirectory)
        (Validation.directoryOf (.map manifest) "agents" Manifest.agentsDirectory) file.1
          = some schema →
      Header.Slips file.2 f → Escapes b (.header f)

theorem Validation.isReported_of_textEnds {text : String} {f : ValidationFault}
    (h : TextEnds text f) :
  f.kind.isReported = true
  := by
  cases h with
  | json => apply Json.Fault.isReported

theorem Bundle.reports_validate (b : Bundle) :
  Reports ValidationFault.kind b.Escapes b.validate
  := by
  intro f hf
  cases ends_of_validate hf with
  | manifest _ hends => exact Or.inl (Validation.isReported_of_textEnds hends)
  | hooks _ _ _ _ hends => exact Or.inl (Validation.isReported_of_textEnds hends)
  | header hof hfile hschema hends =>
      cases hends with
      | unwritable => exact Or.inl rfl
      | @header lines rest f hblock hread hne =>
          apply (isReported_or_not Yaml.Fault.kind f).imp_right
          intro hkind
          exact .header hof hfile hschema ⟨lines, rest, hblock, hread, hne, hkind⟩

namespace Build

variable {d : Disk} {path : FilePath}

/-- What makes a fault of the bundle in a directory that is not reported. -/
inductive ReportEscapes (d : Disk) (path : FilePath) : Fault → Prop where
  | bundle {b : Bundle} {f : ValidationFault} : Bundle.readFrom d path none = .ok b → b.Escapes f →
      ReportEscapes d path (.validation f)

theorem reports_validatePath :
  Reports Fault.kind (ReportEscapes d path) (validatePath d path)
  := by
  rw [validatePath]
  apply reports_bind (reports_mapError fun f _ => Or.inl f.isReported)
  intro b hb
  apply reports_mapError
  intro f hf
  apply (b.reports_validate f hf).imp_right
  apply ReportEscapes.bundle (mapError_eq_ok_iff.mp hb)

end Build

/-! ### Manifests on the disk -/

theorem Disk.mem_below_of_get? {d : Disk} {p : FilePath} {root rest : Place} {node : Node}
    (hwalk : d.walk p = .ok root) (hne : rest ≠ []) (h : d.tree.get? (root ++ rest) = some node) :
  (rest, node) ∈ d.below p
  := by
  have hentry := Tree.mem_entries_of_get? (List.append_ne_nil_of_right_ne_nil root hne) h
  obtain ⟨name, names, rfl⟩ := List.exists_cons_of_ne_nil hne
  rw [below, hwalk]
  dsimp only
  rw [Tree.below, List.mem_mergeSort, List.mem_filterMap]
  exact ⟨_, hentry, by rw [relative?_append]⟩

/-- A bundle that was read has the files that are in its directory. -/
theorem Bundle.has_of_isFile {d : Disk} {p : FilePath} {location : Option Location} {b : Bundle}
    {path : String} (hpath : IsNormal path) (hread : readFrom d p location = .ok b)
    (hfile : d.isFile (p.child path) = .ok true) :
  ∃ s, b.files.get? path = some s
  := by
  obtain ⟨hdirectory, hbelow, -⟩ := readFrom_eq_ok_iff.mp hread
  obtain ⟨root, hwalk, -⟩ := Disk.leadsTo_of_isDirectory hdirectory
  obtain ⟨found, hfound, hfiles⟩ := filesBelow_eq_ok_iff.mp hbelow
  obtain ⟨c, hc⟩ := Disk.exists_hasFile_of_isFile hfile
  rw [Disk.resolve, hpath.resolve_child, ← Disk.resolve, Disk.resolve_of_walk hwalk] at hc
  have hmem := Disk.mem_below_of_get? hwalk (Text.segments_ne_nil path) hc
  obtain ⟨e?, he⟩ := exists_mapM_eq_ok_iff.mp ⟨found, hfound⟩ _ hmem
  have hpresent : path ∈ b.files.names := by
    obtain ⟨s, -, hs⟩ := map_eq_ok_iff.mp he
    rw [placeText_segments] at hs
    rw [Table.names, ← hfiles, List.mem_map]
    refine ⟨(path, s), List.mem_filterMap.mpr ⟨some (path, s), ?_, rfl⟩, rfl⟩
    rw [hs]
    exact (mem_of_mapM_eq_ok hfound).mpr ⟨_, hmem, he⟩
  rw [← Option.isSome_iff_exists, ← Table.has_eq_isSome, Table.has_iff]
  exact hpresent

/-- A manifest that is there can only be read with faults that are reported. -/
theorem Bundle.isReported_of_manifest {b : Bundle} {s : String}
    (h : b.files.get? Manifest.path = some s) {f : ManifestFault} (hf : b.manifest = .error f) :
  f.kind.isReported = true
  := by
  rw [manifest, h] at hf
  dsimp only at hf
  rw [Manifest.read] at hf
  split at hf
  · cases hf
    apply Json.Fault.isReported
  · obtain ⟨f', -, rfl⟩ := mapError_eq_error_iff.mp hf
    rfl

namespace Build

/-- Going on from the version of an earlier bundle has faults that are reported only. -/
theorem isReported_of_carryVersion {d : Disk} {m : Manifest} {compiled : CompiledBundle}
    {path : FilePath} {part : String} {f : Fault}
    (h : carryVersion d m compiled path part = .error f) :
  f.kind.isReported = true
  := by
  have hall : Reports Fault.kind (fun _ => False) (carryVersion d m compiled path part) := by
    rw [carryVersion]
    apply reports_bind (reports_mapError fun f _ => Or.inl f.isReported)
    intro is his
    cases is with
    | false => apply reports_ok
    | true =>
        apply reports_bind (reports_mapError fun f _ => Or.inl f.isReported)
        intro b hb
        apply reports_bind
        · apply reports_mapError
          intro f hf
          obtain ⟨s, hs⟩ :=
            Bundle.has_of_isFile (by decide) (mapError_eq_ok_iff.mp hb) (mapError_eq_ok_iff.mp his)
          exact Or.inl (Bundle.isReported_of_manifest hs hf)
        · intro earlier _
          dsimp only
          split
          · apply reports_ok
          · apply reports_mapError fun _ _ => Or.inl rfl
  simpa using hall f h

end Build

/-! ### Plans -/

theorem Header.not_slips_of_parse {text : String} {v? : Option Value} (h : parse text = .ok v?)
    (f : Yaml.Fault) :
  ¬ Slips text f
  := by
  rintro ⟨lines, rest, hblock, hslips⟩
  rw [parse_eq_error_iff.mpr ⟨lines, rest, hblock, hslips.read_eq, hslips.ne_malformed⟩] at h
  cases h

namespace Build

open Disk Disk.Action

variable {w : Workshop} {d : Disk} {web : Web} {id : String}

/-- Whatever ends the validation of a bundle that was compiled is reported: the headers of its
documents can be read. -/
theorem isReported_of_validate_compiled (hcatalog : ∃ t d, SourceTree.catalog t d = .ok w.catalog)
    {stack : Record.Stack} {compiled : CompiledBundle}
    (hcompiled : compileStack w d web id stack = .ok compiled) {metadata : BundleMetadata}
    {path : FilePath} {m : Manifest}
    (hm : manifestFor w d (.describe metadata compiled.paths) compiled path = .ok m)
    {readme : Document} (hreadme : readme.path = Readme.path) {bundle : Bundle}
    (hbundle : Bundle.assemble compiled.documents (some readme) m none = .ok bundle)
    {f : ValidationFault} (hf : bundle.validate = .error f) :
  f.kind.isReported = true
  := by
  rcases bundle.reports_validate f hf with hkind | ⟨hof, hfile, hschema, hslips⟩
  · exact hkind
  · obtain ⟨t, d₀, hcatalog⟩ := hcatalog
    obtain ⟨profiles, as, ss, hs, hparts, -, hmem⟩ := exists_parts_of_compileStack hcompiled
    obtain ⟨hfiles, hnodup⟩ := hparts.of_assemble_eq_ok hreadme hbundle
    have hmanifest : bundle.files.get? Manifest.path = some m.write := by
      apply Table.get?_of_mem hnodup
      rw [hfiles]
      simp
    obtain ⟨entries, hentries, hof'⟩ := Manifest.manifestOf_of_get? hmanifest
    rw [hof] at hof'
    cases hof'
    obtain ⟨hskills, hagents⟩ := directoryOf_of_manifestFor hm
    rw [hentries] at hskills hagents
    rw [hskills, hagents] at hschema
    have htext := Validation.isDocument_of_headerSchema? hschema
    have hslash : ∀ s ∈ ss, '/' ∉ s.slug.toList := by
      intro s hs
      apply Slug.not_mem_kebabName (Catalog.isKebabName_of_loaded hcatalog (hmem s hs))
      all_goals decide
    have hpaths : compiled.paths.Nodup := by
      rw [Table.names, hfiles, List.map_append, List.map_map] at hnodup
      apply (List.nodup_append.mp hnodup).1
    have hother : ∀ path ∈ [Readme.path, Manifest.path],
        ¬ (Validation.isSkillPath Manifest.skillsDirectory path = true ∨
        Validation.isAgentPath Manifest.agentsDirectory path = true) := by decide
    rw [hfiles] at hfile
    rcases List.mem_append.mp hfile with hfile | hfile
    · obtain ⟨x, hx, rfl⟩ := List.mem_map.mp hfile
      obtain ⟨entries, texts, body, hcontent, hkept, hne, hnames⟩ :=
        hparts.exists_render hslash hpaths hx htext
      dsimp only at hslips
      rw [hcontent] at hslips
      exact absurd hslips (Header.not_slips_of_parse (parse_render_texts hkept hne hnames body) _)
    · exact absurd htext (hother _ (List.mem_map_of_mem hfile))

/-- What keeps a stack from being planned with a fault that is not reported: its documents, its
templates, or what it is compiled from. -/
inductive PlanEscapes (w : Workshop) (d : Disk) (web : Web) (id : String) : Fault → Prop where
  | source {f : SourceFault} : f.Escapes w.tree d → PlanEscapes w d web id (.source f)
  | template {stack : Record.Stack} {agents : List AgentProfile} {f : TemplateFault} :
      w.tree.stack d id = .ok stack → agentsOf w.profiles id stack.agents = .ok agents →
      w.templates.Escapes web (agents.flatMap (·.templateIds)) f →
      PlanEscapes w d web id (.template f)
  | compile {stack : Record.Stack} {f : CompileFault} : w.tree.stack d id = .ok stack →
      f.Escapes w.catalog (hooksOf stack) → PlanEscapes w d web id (.compile f)

theorem reports_compileStack {stack : Record.Stack} (hstack : w.tree.stack d id = .ok stack) :
  Reports Fault.kind (PlanEscapes w d web id) (compileStack w d web id stack)
  := by
  rw [compileStack]
  split
  · rename_i selection hselection
    apply reports_bind
    · rw [agentsOf]
      split
      · apply reports_ok
      · apply reports_error (Or.inl rfl)
    · intro agents hagents
      apply reports_bind
      · apply reports_mapError
        intro f hf
        apply (TemplateSource.reports_fetch _ f hf).imp_right
        apply PlanEscapes.template hstack hagents
      · intro templates _
        apply reports_bind
        · apply reports_mapError
          intro f hf
          have hmem := Catalog.contains_of_validated? hselection
          apply (Compile.accounted_bundle hmem _ _ _ _ f hf).imp_right
          apply PlanEscapes.compile hstack
        · intro compiled _
          split
          · apply reports_error (Or.inl rfl)
          · apply reports_ok
  · apply reports_error (Or.inl rfl)

theorem reports_manifestFor {described : Manifest} {compiled : CompiledBundle} {path : FilePath} :
  Reports Fault.kind (PlanEscapes w d web id) (manifestFor w d described compiled path)
  := by
  rw [manifestFor]
  split
  · apply reports_ok
  · intro f hf
    exact Or.inl (isReported_of_carryVersion hf)

theorem reports_plan (hcatalog : ∃ t d, SourceTree.catalog t d = .ok w.catalog) :
  Reports Fault.kind (PlanEscapes w d web id) (plan w d web id)
  := by
  rw [plan_eq]
  apply reports_bind
  · apply reports_mapError
    intro f hf
    apply (SourceTree.accounted_stack id f hf).imp_right
    apply PlanEscapes.source
  · intro stack hstack
    apply reports_bind (reports_compileStack (mapError_eq_ok_iff.mp hstack))
    intro compiled hcompiled
    apply reports_bind reports_manifestFor
    intro m hm
    rw [complete]
    apply reports_bind (reports_mapError fun f _ => Or.inl rfl)
    intro bundle hbundle
    apply reports_bind
    · apply reports_mapError
      intro f hf
      have hassembled := mapError_eq_ok_iff.mp hbundle
      exact Or.inl (isReported_of_validate_compiled hcatalog hcompiled hm rfl hassembled hf)
    · intro report _
      split
      · apply reports_ok
      · apply reports_error (Or.inl rfl)

/-! ### Builds -/

/-- What keeps a build from starting with a fault that is not reported: its source tree, or the
settings of templates. -/
inductive PrepareEscapes (s : BuildSettings) (d : Disk) : Fault → Prop where
  | source {f : SourceFault} : f.Escapes ⟨s.source, defaultFileLimit⟩ d →
      PrepareEscapes s d (.source f)
  | templates {t : TemplateSettings} {f : Fault} : s.templates = some t → TemplatesEscape t f →
      PrepareEscapes s d f

variable {s : BuildSettings} {asked : List String} {bump : Option String}

theorem reports_prepare :
  Reports Fault.kind (PrepareEscapes s d) (prepare s asked bump d)
  := by
  have hsource : ∀ {α : Type} {x : Except SourceFault α},
      SourceTree.Accounted ⟨s.source, defaultFileLimit⟩ d x →
      Reports Fault.kind (PrepareEscapes s d) (x.mapError .source) := by
    intro α x hx
    apply reports_mapError
    intro f hf
    apply (hx f hf).imp_right
    apply PrepareEscapes.source
  rw [prepare]
  apply reports_bind (hsource (SourceTree.accounted_file _))
  intro tree htree
  obtain ⟨_, -, rfl⟩ := map_eq_ok_iff.mp (mapError_eq_ok_iff.mp (mapError_eq_ok_iff.mp htree))
  apply reports_bind (hsource SourceTree.accounted_catalog)
  intro catalog _
  apply reports_bind (hsource SourceTree.accounted_profiles)
  intro profiles _
  apply reports_bind
  · rw [stackIds]
    apply reports_ite
    · apply reports_error (Or.inl rfl)
    · apply reports_ok
  · intro ids _
    apply reports_bind
    · intro f hf
      apply (TemplateSource.reports_ofSettings _ d s.templates f hf).imp_right
      rintro ⟨t, ht, hescapes⟩
      exact .templates ht hescapes
    · intro templates _
      apply reports_ok

/-- What keeps a stack from being built is reported, or keeps it from being planned. -/
theorem escapes_of_buildStack (hcatalog : ∃ t d, SourceTree.catalog t d = .ok w.catalog) {d' : Disk}
    {f : Fault} (h : (buildStack w web id).outcome d = (.error f, d')) :
  f.kind.isReported = true ∨ PlanEscapes w d web id f
  := by
  rcases buildStack_eq_error_iff.mp h with ⟨hplan, -⟩ | ⟨q, e, -, -, rfl⟩
  · apply reports_plan hcatalog f hplan
  · exact Or.inl e.isReported

/-- A build of several stacks ends at the first one that cannot be built, after those before it were
built. -/
theorem exists_builds_of_mapM_eq_error {ids : List String} {d' : Disk} {f : Fault}
    (h : Action.outcome (ids.mapM (buildStack w web)) d = (.error f, d')) :
  ∃ before id after ps d₁, ids = before ++ id :: after ∧ Builds w web d before ps d₁ ∧
    (buildStack w web id).outcome d₁ = (.error f, d')
  := by
  induction ids generalizing d with
  | nil => cases h
  | cons id ids ih =>
      rw [List.mapM_cons] at h
      rcases outcome_bind_eq_error_iff.mp h with h | ⟨p, d₁, hfirst, h⟩
      · exact ⟨[], id, ids, [], d, rfl, Builds.nil d, h⟩
      · rcases outcome_bind_eq_error_iff.mp h with h | ⟨ps, d₂, -, h⟩
        · obtain ⟨before, id', after, ps, d₂, rfl, hbuilds, hlast⟩ := ih h
          exact ⟨id :: before, id', after, p :: ps, d₂, rfl, Builds.cons hfirst hbuilds, hlast⟩
        · cases h

/-- What ends a build with a fault that is not reported: something keeps it from starting, or one of
its stacks from being planned on the disk that those before it have left. -/
inductive RunEscapes (s : BuildSettings) (web : Web) (asked : List String) (bump : Option String)
    (d : Disk) :
    Fault → Prop where
  | prepare {f : Fault} : PrepareEscapes s d f → RunEscapes s web asked bump d f
  | plan {w : Workshop} {before after : List String} {id : String} {ps : List Product} {d' : Disk}
      {f : Fault} : Build.prepare s asked bump d = .ok (w, before ++ id :: after) →
      Builds w web d before ps d' → PlanEscapes w d' web id f → RunEscapes s web asked bump d f

theorem escapes_of_run {d' : Disk} {f : Fault}
    (h : (run s web asked bump).outcome d = (.error f, d')) :
  f.kind.isReported = true ∨ RunEscapes s web asked bump d f
  := by
  rcases outcome_bind_eq_error_iff.mp h with h | ⟨⟨w, ids⟩, d₁, hprepare, h⟩
  · rw [outcome_look, Prod.mk.injEq] at h
    apply (reports_prepare f h.1).imp_right
    apply RunEscapes.prepare
  · rw [outcome_look, Prod.mk.injEq] at hprepare
    obtain ⟨hprepare, rfl⟩ := hprepare
    obtain ⟨before, id, after, ps, d₁, rfl, hbuilds, hlast⟩ := exists_builds_of_mapM_eq_error h
    apply (escapes_of_buildStack ⟨_, _, (of_prepare_eq_ok hprepare).2⟩ hlast).imp_right
    apply RunEscapes.plan hprepare hbuilds

end Build

/-! ### Publications -/

namespace Publish

variable {categorize : Categorizer}

theorem isReported_of_accept {r : Report} (hr : r.bundle.validate = .ok r) {position : Nat}
    {f : Fault} (h : accept (.report r, position) = .error f) :
  f.kind.isReported = true
  := by
  rw [accept, hr] at h
  split at h
  · cases h
    rfl
  · dsimp only at h
    split at h
    · cases h
    · cases h
      rfl

theorem isReported_of_entriesOf (hcategorize : ∀ name, ∃ category, categorize name = .ok category)
    {root : String} {bs : List Bundle} (hbs : ∀ b ∈ bs, b.IsValid) {seen : List String} {f : Fault}
    (h : entriesOf root categorize seen bs = .error f) :
  f.kind.isReported = true
  := by
  induction bs generalizing seen with
  | nil => cases h
  | cons b bs ih =>
      obtain ⟨hb, hbs⟩ := List.forall_mem_cons.mp hbs
      obtain ⟨m, hm, -⟩ := hb.exists_manifest
      obtain ⟨category, hcategory⟩ := hcategorize m.name
      rw [entriesOf, hm, Except.mapError, ok_bind] at h
      dsimp only at h
      split at h
      · cases h
        rfl
      · rw [hcategory, ok_bind] at h
        rcases bind_eq_error_iff.mp h with h | ⟨es, -, ⟨⟩⟩
        apply ih hbs h

/-- A catalog index of reports that were just made has faults that are reported only. -/
theorem isReported_of_publish (hcategorize : ∀ name, ∃ category, categorize name = .ok category)
    {s : Settings} {reports : List Report} (hreports : ∀ r ∈ reports, r.bundle.validate = .ok r)
    {f : Fault} (h : publish s categorize (reports.map .report) = .error f) :
  f.kind.isReported = true
  := by
  rw [publish] at h
  rcases bind_eq_error_iff.mp h with h | ⟨bs, hbs, h⟩
  · obtain ⟨⟨submission, position⟩, hmem, h⟩ := exists_of_mapM_eq_error h
    obtain ⟨r, hr, rfl⟩ := List.mem_map.mp (List.fst_mem_of_mem_zipIdx hmem)
    apply isReported_of_accept (hreports r hr) h
  · obtain ⟨hholds, rfl⟩ := acceptAll_eq_ok_iff.mp hbs
    rcases bind_eq_error_iff.mp h with h | ⟨es, -, ⟨⟩⟩
    have hvalid : ∀ b ∈ reports.map (·.bundle), b.IsValid := by
      rw [List.forall_mem_map]
      intro r hr
      apply (hholds r hr).isValid
    cases hentries : entriesOf s.pluginRoot categorize [] (reports.map (·.bundle)) with
    | ok es =>
        rw [entries, hentries] at h
        cases h
    | error e =>
        rw [entries, hentries] at h
        cases h
        apply isReported_of_entriesOf hcategorize hvalid hentries

end Publish

namespace Build

open Disk Disk.Action

variable {d : Disk}

/-- The report on a bundle is one on its bundle. -/
theorem validate_of_validatePath {path : FilePath} {r : Report} (h : validatePath d path = .ok r) :
  r.bundle.validate = .ok r
  := by
  rw [validatePath] at h
  obtain ⟨b, -, h⟩ := bind_eq_ok_iff.mp h
  rw [mapError_eq_ok_iff] at h
  rw [bundle_of_validate h, h]

/-- What ends a publication with a fault that is not reported: one of the bundles in the output
directory. -/
inductive PublishEscapes (output : FilePath) (d : Disk) : Fault → Prop where
  | report {paths : List FilePath} {path : FilePath} {f : Fault} : bundlePaths d output
      = .ok paths → path ∈ paths → ReportEscapes d path f → PublishEscapes output d f

theorem reports_index {settings : CatalogSettings} {output : FilePath} :
  Reports Fault.kind (PublishEscapes output d) (index settings output d)
  := by
  rw [index]
  apply reports_bind
  · rw [bundlePaths]
    apply reports_bind (reports_mapError fun f _ => Or.inl f.isReported)
    intro is _
    apply reports_unless (fun _ => Or.inl rfl)
    intro _
    apply reports_ok
  · intro paths hpaths
    apply reports_bind
    · apply reports_mapM
      intro path hpath f hf
      apply (reports_validatePath f hf).imp_right
      apply PublishEscapes.report hpaths hpath
    · intro reports hreports
      apply reports_mapError
      intro f hf
      refine Or.inl (Publish.isReported_of_publish Publish.exists_category ?_ hf)
      intro r hr
      obtain ⟨path, -, hr⟩ := (mem_of_mapM_eq_ok hreports).mp hr
      apply validate_of_validatePath hr

theorem escapes_of_publish {s : BuildSettings} {d' : Disk} {f : Fault}
    (h : (publish s).outcome d = (.error f, d')) :
  f.kind.isReported = true ∨ PublishEscapes s.output d f
  := by
  rw [publish] at h
  split at h
  · rcases outcome_bind_eq_error_iff.mp h with h | ⟨x, d₁, -, h⟩
    · rw [outcome_look, Prod.mk.injEq] at h
      apply reports_index f h.1
    · rcases outcome_bind_eq_error_iff.mp h with h | ⟨_, d₂, -, h⟩
      · obtain ⟨f', -, rfl⟩ := outcome_adapt_eq_error_iff.mp h
        exact Or.inl f'.isReported
      · cases h
  · cases h
    exact Or.inl rfl

end Build

end AgentBundles
