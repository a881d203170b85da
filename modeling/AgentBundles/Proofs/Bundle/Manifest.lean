import AgentBundles.Proofs.Bundle.ReadBack

/-!
# The manifest of an assembled bundle

Documents can be assembled exactly if their paths are different. A bundle that was assembled holds
them, its readme and its manifest, each at its path, and the manifest that is read from it is the
one that it was assembled with.
-/

namespace AgentBundles

/-! ### Paths of documents -/

/-- Documents are put under their paths exactly if these are different. -/
theorem addDocuments_eq_ok_iff {ds : List Document} {files : Table String} :
  addDocuments [] ds = .ok files
    ↔ (ds.map (·.path)).Nodup ∧ files = ds.map fun d => (d.path, d.content)
  := by
  have hempty : (Table.names ([] : Table String)).Nodup := List.nodup_nil
  constructor
  · intro h
    obtain ⟨rfl, hnodup⟩ := of_addDocuments_eq_ok hempty h
    rw [List.nil_append, Table.names, List.map_map] at hnodup
    exact ⟨hnodup, List.nil_append _⟩
  · rintro ⟨hnodup, rfl⟩
    apply addDocuments_eq
    apply hnodup

/-- The path for which documents are refused is one that two of them have. -/
theorem two_le_count_of_addDocuments {files : Table String} {ds : List Document} {e : SharedPath}
    (h : addDocuments files ds = .error e) :
  2 ≤ (files.names ++ ds.map (·.path)).count e.path
  := by
  induction ds generalizing files with
  | nil => cases h
  | cons d ds ih =>
      rw [addDocuments] at h
      split at h
      · rename_i hhas
        cases h
        have hthere : 0 < files.names.count d.path := List.count_pos_iff.mpr (Table.has_iff.mp hhas)
        rw [List.count_append, List.map_cons, List.count_cons_self]
        change 2 ≤ files.names.count d.path + ((ds.map (·.path)).count d.path + 1)
        omega
      · have htwice := ih h
        rw [Table.names, List.map_append, List.append_assoc] at htwice
        apply htwice

/-! ### Manifests that are written and read -/

namespace Manifest

variable {m : Manifest}

/-- What is left of a manifest when it is written and read: an empty description is none. -/
def settled (m : Manifest) : Manifest :=
  { m with description := m.description.filter fun s => !s.isEmpty }

/-- An empty text is not stated. -/
theorem stated_filter (name : String) (s? : Option String) :
  stated name (s?.filter fun s => !s.isEmpty) = stated name s?
  := by
  cases s? with
  | none => rfl
  | some s =>
      cases hempty : s.isEmpty with
      | true => simp [stated, Option.filter_some, hempty]
      | false => simp [Option.filter_some, hempty]

theorem toValue_settled (m : Manifest) :
  m.settled.toValue = m.toValue
  := by
  rw [toValue, settled, stated_filter]
  rfl

theorem settled_eq_self (h : m.description ≠ some "") :
  m.settled = m
  := by
  have hdescription : (m.description.filter fun s => !s.isEmpty) = m.description := by
    cases hs : m.description with
    | none => rfl
    | some s =>
        have hne : s ≠ "" := by
          rintro rfl
          exact h hs
        simp [hne]
  rw [settled, hdescription]

end Manifest

/-! ### Assembled bundles -/

namespace Bundle

variable {documents : List Document} {readme : Option Document}

/-- A bundle of documents, none of which is at the path of the manifest, has all of them and the
manifest at its end. -/
theorem assemble_eq_ok_iff (hpaths : ∀ d ∈ documents ++ readme.toList, d.path ≠ Manifest.path)
    {m : Manifest} {location : Option Location} {b : Bundle} :
  assemble documents readme m location = .ok b
    ↔ ((documents ++ readme.toList).map (·.path)).Nodup ∧
      b = ⟨(documents ++ readme.toList).map (fun d => (d.path, d.content)) ++
        [(Manifest.path, m.write)], location⟩
  := by
  have hnew : Manifest.path ∉ Table.names
      ((documents ++ readme.toList).map fun d => (d.path, d.content)) := by
    rw [Table.names, List.map_map, List.mem_map]
    rintro ⟨d, hd, heq⟩
    exact hpaths d hd heq
  rw [assemble, map_eq_ok_iff]
  simp only [addDocuments_eq_ok_iff, and_assoc]
  rw [exists_and_left, exists_eq_left, Table.insert_of_not_mem hnew]
  apply and_congr_right
  intro _
  exact eq_comm

/-- The manifest of an assembled bundle is the one that it was assembled with. Documents, none of
which is at the path of the manifest, are refused exactly if two of them have one path; else the
bundle has them, its readme and the manifest at their paths and nothing besides, and the manifest is
read from it as it was, but without an empty description, and is written as it was. -/
theorem manifest_of_assemble (hpaths : ∀ d ∈ documents ++ readme.toList, d.path ≠ Manifest.path)
    (m : Manifest) (location : Option Location) :
  ((∃ e, assemble documents readme m location = .error e)
    ↔ ¬ ((documents ++ readme.toList).map (·.path)).Nodup) ∧
    (∀ e, assemble documents readme m location = .error e →
      2 ≤ ((documents ++ readme.toList).map (·.path)).count e.path) ∧
    ∀ b, assemble documents readme m location = .ok b →
      b.files = (documents ++ readme.toList).map (fun d => (d.path, d.content)) ++
        [(Manifest.path, m.write)] ∧
      b.files.names.Nodup ∧ b.location = location ∧
      ∃ m', b.manifest = .ok m' ∧ m'.toValue = m.toValue ∧ (m.description ≠ some "" → m' = m) ∧
        m'.write = m.write
  := by
  refine ⟨?_, ?_, ?_⟩
  · have hok : (∃ b, assemble documents readme m location = .ok b)
        ↔ ((documents ++ readme.toList).map (·.path)).Nodup := by
      simp only [assemble_eq_ok_iff hpaths, exists_and_left, exists_eq, and_true]
    rw [← hok]
    cases assemble documents readme m location with
    | ok b => simp
    | error e => simp
  · intro e h
    rw [assemble] at h
    cases hfiles : addDocuments [] (documents ++ readme.toList) with
    | ok files =>
        rw [hfiles] at h
        cases h
    | error e' =>
        rw [hfiles] at h
        cases h
        apply two_le_count_of_addDocuments hfiles
  · intro b h
    obtain ⟨hnodup, rfl⟩ := (assemble_eq_ok_iff hpaths).mp h
    have hnames : (Table.names ((documents ++ readme.toList).map (fun d => (d.path, d.content)) ++
        [(Manifest.path, m.write)])).Nodup := by
      rw [Table.names, List.map_append, List.map_map]
      refine List.nodup_append_comm.mp (List.nodup_cons.mpr ⟨?_, hnodup⟩)
      intro hmem
      obtain ⟨d, hd, heq⟩ := List.mem_map.mp hmem
      exact hpaths d hd heq
    refine ⟨rfl, hnames, rfl, m.settled, ?_, m.toValue_settled, Manifest.settled_eq_self, ?_⟩
    · rw [manifest, Table.get?_of_mem hnames (List.mem_append_right _ List.mem_cons_self)]
      apply Manifest.read_of_write
    · rw [Manifest.write, Manifest.toValue_settled]
      rfl

/-- A manifest with letters outside of ASCII, an author without a name, and an empty description. -/
def greekManifest : Manifest where
  name := "λ 𝄞"
  version := ""
  description := some ""
  author := some ⟨"", none⟩
  license := "MIT"
  keywords := [""]
  skills := none
  agents := some "./agents/"
  hooks := none

/-- Two agents with a readme are assembled, and their manifest is read back without its description;
two agents at one path are refused. -/
theorem manifest_of_assemble_greek :
  (∃ b m', assemble [⟨"agents/a.md", "A", []⟩, ⟨"agents/b.md", "B", []⟩]
        (some ⟨"README.md", "", []⟩) greekManifest none = .ok b ∧
      b.manifest = .ok m' ∧ m'.toValue = greekManifest.toValue ∧ m'.write = greekManifest.write) ∧
    ∃ e, assemble [⟨"agents/a.md", "A", []⟩, ⟨"agents/a.md", "B", []⟩] none greekManifest none
      = .error e ∧ 2 ≤ (["agents/a.md", "agents/a.md"].count e.path)
  := by
  constructor
  · obtain ⟨-, -, hok⟩ := @manifest_of_assemble [⟨"agents/a.md", "A", []⟩, ⟨"agents/b.md", "B", []⟩]
      (some ⟨"README.md", "", []⟩) (by decide) greekManifest none
    obtain ⟨-, -, -, m', hm', hvalue, -, hwrite⟩ := hok _ rfl
    exact ⟨_, m', rfl, hm', hvalue, hwrite⟩
  · obtain ⟨hrefused, htwice, -⟩ :=
      @manifest_of_assemble [⟨"agents/a.md", "A", []⟩, ⟨"agents/a.md", "B", []⟩] none
      (by decide) greekManifest none
    obtain ⟨e, he⟩ := hrefused.mpr (by decide)
    exact ⟨e, he, htwice e he⟩

end Bundle

end AgentBundles
