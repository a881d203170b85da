import AgentBundles.Bundle.Basic
import AgentBundles.Proofs.Compile.Paths
import AgentBundles.Proofs.Data.Tables

/-!
# Assembled bundles

A compiled bundle can be assembled with its readme and its manifest: no two of the files have one
path.
-/

namespace AgentBundles

/-! ### Assembling -/

/-- Documents with different paths are put under their paths. -/
theorem addDocuments_eq {files : Table String} {ds : List Document}
    (h : (files.names ++ ds.map (·.path)).Nodup) :
  addDocuments files ds = .ok (files ++ ds.map fun d => (d.path, d.content))
  := by
  induction ds generalizing files with
  | nil => rw [addDocuments, List.map_nil, List.append_nil]
  | cons d ds ih =>
      have hnew : ¬ files.has d.path = true := by
        rw [Table.has_iff]
        intro hmem
        exact (List.nodup_append.mp h).2.2 d.path hmem d.path List.mem_cons_self rfl
      rw [addDocuments, if_neg hnew, ih]
      · rw [List.append_assoc]
        rfl
      · rw [Table.names, List.map_append, List.append_assoc]
        apply h

/-- Documents that could be put under their paths have different paths. -/
theorem of_addDocuments_eq_ok {files files' : Table String} {ds : List Document}
    (hnodup : files.names.Nodup) (h : addDocuments files ds = .ok files') :
  files' = files ++ ds.map (fun d => (d.path, d.content)) ∧ files'.names.Nodup
  := by
  induction ds generalizing files with
  | nil =>
      cases h
      rw [List.map_nil, List.append_nil]
      exact ⟨rfl, hnodup⟩
  | cons d ds ih =>
      rw [addDocuments] at h
      split at h
      · cases h
      · rename_i hnew
        rw [Table.has_iff] at hnew
        have hconcat : (Table.names (files ++ [(d.path, d.content)])).Nodup := by
          rw [Table.names, List.map_append]
          exact List.nodup_append_comm.mp (List.nodup_cons.mpr ⟨hnew, hnodup⟩)
        obtain ⟨rfl, hnames⟩ := ih hconcat h
        rw [List.append_assoc] at hnames ⊢
        exact ⟨rfl, hnames⟩

/-- The files of a compiled bundle with its readme and manifest. -/
def compiledFiles (b : CompiledBundle) (d : BundleMetadata) : Table String :=
  b.documents.map (fun x => (x.path, x.content)) ++
    [(Readme.path, (Readme.document d b.paths).content),
      (Manifest.path, (Manifest.describe d b.paths).write)]

theorem names_compiledFiles (b : CompiledBundle) (d : BundleMetadata) :
  (compiledFiles b d).names = b.paths ++ [Readme.path, Manifest.path]
  := by
  rw [compiledFiles, Table.names, List.map_append, List.map_map]
  rfl

namespace Compile.Parts

variable {profiles : List AgentProfile} {hooks : Value} {b : CompiledBundle} {as : List Document}
    {ss : List Skill}
  {hs : List Document} (h : Parts profiles hooks b as ss hs)

include h

/-- The paths of documents are not those of the readme and the manifest. -/
theorem ne_of_mem_paths {path : String} (hpath : path ∈ b.paths) :
  path ≠ Readme.path ∧ path ≠ Manifest.path
  := by
  obtain ⟨d, hd, rfl⟩ := List.mem_map.mp hpath
  have hhead : d.path.toList.head? = some 'a' ∨ d.path.toList.head? = some 's' ∨
      d.path.toList.head? = some 'h' := by
    rcases h.document_cases hd with ⟨p, -, hpath, -⟩ | ⟨s, -, hmem⟩ | hmem
    · rw [hpath]
      exact Or.inl (head?_agentPath p.name)
    · obtain ⟨file, hfile⟩ := exists_file_of_mem_paths (List.mem_map_of_mem hmem)
      rw [hfile]
      exact Or.inr (Or.inl (head?_skillPath s.slug file))
    · rw [(mem_hooksDocument h.hooksDocument_eq hmem).2.1]
      exact Or.inr (Or.inr rfl)
  constructor
  · intro heq
    rw [heq] at hhead
    exact absurd hhead (by decide)
  · intro heq
    rw [heq] at hhead
    exact absurd hhead (by decide)

/-- The paths of documents, of the readme and of the manifest are different. -/
theorem nodup_allPaths (hss : ∀ s ∈ ss, Layable s) :
  (b.paths ++ [Readme.path, Manifest.path]).Nodup
  := by
  rw [List.nodup_append]
  refine ⟨h.nodup_paths hss, by decide, ?_⟩
  intro path hpath path' hpath'
  obtain ⟨hreadme, hmanifest⟩ := h.ne_of_mem_paths hpath
  simp only [List.mem_cons, List.not_mem_nil, or_false] at hpath'
  rcases hpath' with rfl | rfl
  · apply hreadme
  · apply hmanifest

theorem nodup_names (hss : ∀ s ∈ ss, Layable s) (d : BundleMetadata) :
  (compiledFiles b d).names.Nodup
  := by
  rw [names_compiledFiles]
  apply h.nodup_allPaths hss

/-- A compiled bundle can be assembled with a readme and any manifest, and nothing of it is lost. -/
theorem assemble_with (hss : ∀ s ∈ ss, Layable s) {readme : Document}
    (hreadme : readme.path = Readme.path) (m : Manifest) (location : Option Location) :
  Bundle.assemble b.documents (some readme) m location
    = .ok ⟨b.documents.map (fun x => (x.path, x.content)) ++ [(Readme.path, readme.content),
      (Manifest.path, m.write)],
        location⟩
  := by
  have hnodup := h.nodup_allPaths hss
  have hsublist : (b.paths ++ [Readme.path]).Sublist (b.paths ++ [Readme.path, Manifest.path]) := by
    apply List.Sublist.append_left
    decide
  have hdocuments :
      (Table.names ([] : Table String) ++ (b.documents ++ [readme]).map (·.path)).Nodup := by
    rw [List.map_append, List.map_singleton, hreadme]
    apply hsublist.nodup hnodup
  have hnew : Manifest.path ∉ Table.names
      ((b.documents ++ [readme]).map fun x => (x.path, x.content)) := by
    rw [Table.names, List.map_map, List.map_append, List.mem_append, not_or]
    constructor
    · intro hmem
      exact (h.ne_of_mem_paths hmem).2 rfl
    · intro hmem
      have heq : Manifest.path = readme.path := List.mem_singleton.mp hmem
      rw [hreadme] at heq
      exact absurd heq (by decide)
  rw [Bundle.assemble, Option.toList_some, addDocuments_eq hdocuments, List.nil_append]
  simp only [Except.map]
  rw [Table.insert_of_not_mem hnew, List.map_append, List.append_assoc, ← hreadme]
  rfl

/-- A compiled bundle can be assembled with its readme and manifest. -/
theorem assemble_eq (hss : ∀ s ∈ ss, Layable s) (d : BundleMetadata) (location : Option Location) :
  Bundle.assemble b.documents (some (Readme.document d b.paths)) (Manifest.describe d b.paths)
    location
    = .ok ⟨compiledFiles b d, location⟩
  := h.assemble_with hss rfl (Manifest.describe d b.paths) location

/-- An assembled bundle has the files of its documents, its readme and its manifest under different
paths. -/
theorem of_assemble_eq_ok {readme : Document} (hreadme : readme.path = Readme.path) {m : Manifest}
    {location : Option Location} {bundle : Bundle}
    (hbundle : Bundle.assemble b.documents (some readme) m location = .ok bundle) :
  bundle.files = b.documents.map (fun x => (x.path, x.content)) ++
      [(Readme.path, readme.content), (Manifest.path, m.write)] ∧ bundle.files.names.Nodup
  := by
  rw [Bundle.assemble, Option.toList_some] at hbundle
  cases hfiles : addDocuments [] (b.documents ++ [readme]) with
  | error e =>
      rw [hfiles] at hbundle
      cases hbundle
  | ok files =>
      rw [hfiles] at hbundle
      cases hbundle
      have hempty : (Table.names ([] : Table String)).Nodup := List.nodup_nil
      obtain ⟨rfl, hnodup⟩ := of_addDocuments_eq_ok hempty hfiles
      have hnew : Manifest.path ∉ Table.names
          ([] ++ (b.documents ++ [readme]).map fun x => (x.path, x.content)) := by
        rw [List.nil_append, Table.names, List.map_map, List.map_append]
        intro hmem
        rcases List.mem_append.mp hmem with hmem | hmem
        · exact (h.ne_of_mem_paths hmem).2 rfl
        · have heq : Manifest.path = readme.path := List.mem_singleton.mp hmem
          rw [hreadme] at heq
          exact absurd heq (by decide)
      simp only [Table.insert_of_not_mem hnew]
      constructor
      · rw [List.nil_append, List.map_append, List.append_assoc, ← hreadme]
        rfl
      · rw [Table.names, List.map_append]
        exact List.nodup_append_comm.mp (List.nodup_cons.mpr ⟨hnew, hnodup⟩)

end Compile.Parts

end AgentBundles
