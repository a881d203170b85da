import AgentBundles.Proofs.Catalog.Built
import AgentBundles.Proofs.Compile.Paths
import AgentBundles.Proofs.Files.Disks
import AgentBundles.Proofs.Validation.Grammars
import AgentBundles.Source.Documents

/-!
# Skills that were loaded

A skill is read in a directory where a file describes it and the header of its text has a name. The
files beside the text of a skill that was loaded from a sound disk have the paths of places, no two
of them the same, so that the documents of the skill have normal paths.
-/

namespace AgentBundles

namespace SourceTree

variable {t : SourceTree} {d : Disk}

/-- The text of a document is that of its file. -/
theorem read_of_text {path : FilePath} {s : String} (h : t.text d path = .ok s) :
  d.read path = .ok s
  := by
  rw [text] at h
  obtain ⟨is, -, h⟩ := bind_eq_ok_iff.mp h
  dsimp only at h
  split at h
  · cases h
  · split at h
    · cases h
    · apply mapError_eq_ok_iff.mp h

/-- Names that are the texts of places. -/
def IsPlaceText (name : String) : Prop :=
  ∃ place, place ≠ [] ∧ (∀ n ∈ place, IsName n) ∧ name = placeText place

/-- What is kept of items stands in the order of the items. -/
theorem filterMap_sublist_map {α β : Type} {f : α → Option β} {g : α → β}
    (h : ∀ x y, f x = some y → y = g x) (xs : List α) :
  (xs.filterMap f).Sublist (xs.map g)
  := by
  induction xs with
  | nil => apply List.Sublist.slnil
  | cons x xs ih =>
      rw [List.filterMap_cons, List.map_cons]
      split
      · apply ih.cons
      · rename_i y hy
        rw [h x y hy]
        apply ih.cons_cons

/-- The places of files that belong to a skill stand in the order of all that is below its
directory. -/
theorem resourcePlaces_sublist (d : Disk) (directory : FilePath) :
  (resourcePlaces d directory).Sublist ((d.below directory).map (·.1))
  := by
  apply filterMap_sublist_map
  intro e place hkept
  split at hkept
  · cases hkept
  · split at hkept
    · cases hkept
    · exact (Option.some.inj hkept).symm

/-- The places of texts of skills stand in the order of all that is below the directory of
skills. -/
theorem skillPlaces_sublist (t : SourceTree) (d : Disk) :
  ((t.skillPlaces d).map (· ++ [skillFile])).Sublist ((d.below t.skillsRoot).map (·.1))
  := by
  rw [skillPlaces, List.map_filterMap]
  apply filterMap_sublist_map
  intro e place hkept
  obtain ⟨front, hfront, rfl⟩ := Option.map_eq_some_iff.mp hkept
  split at hfront
  · rename_i hlast
    rw [← Option.some.inj hfront]
    apply List.dropLast_append_getLast? _ (eq_of_beq hlast)
  · cases hfront

/-- Files that belong to a skill have places with names that files can have. -/
theorem isName_of_mem_resourcePlaces (hd : d.tree.Sound) {directory : FilePath} {place : Place}
    (h : place ∈ resourcePlaces d directory) :
  place ≠ [] ∧ ∀ n ∈ place, IsName n
  := by
  obtain ⟨e, he, rfl⟩ := List.mem_map.mp ((resourcePlaces_sublist d directory).subset h)
  apply Disk.isName_of_mem_below hd he

/-- The files beside the text of a skill have the texts of their places for names. -/
theorem names_of_resources {directory : FilePath} {table : Table String}
    (h : t.resources d directory = .ok table) :
  table.names = (resourcePlaces d directory).map placeText
  := by
  apply map_eq_of_mapM_eq_ok h
  intro place _ e he
  obtain ⟨s, -, rfl⟩ := map_eq_ok_iff.mp he
  rfl

theorem isPlaceText_of_resources (hd : d.tree.Sound) {directory : FilePath} {table : Table String}
    (h : t.resources d directory = .ok table) :
  ∀ name ∈ table.names, IsPlaceText name
  := by
  rw [names_of_resources h, List.forall_mem_map]
  intro place hplace
  obtain ⟨hne, hnames⟩ := isName_of_mem_resourcePlaces hd hplace
  exact ⟨place, hne, hnames, rfl⟩

/-- No two files beside the text of a skill have one name. -/
theorem nodup_names_of_resources (hd : d.tree.Sound) {directory : FilePath} {table : Table String}
    (h : t.resources d directory = .ok table) :
  table.names.Nodup
  := by
  rw [names_of_resources h]
  apply Disk.nodup_map_placeText hd (resourcePlaces_sublist d directory)

/-- A skill as it is read in a directory: there is a file that describes it, its text has a header
with a name, and the files beside the text are read. -/
structure Reads (t : SourceTree) (d : Disk) (place : Place) (r : Record.Skill) : Prop where
  described : isFile d ((t.skillsRoot.below place).below [metadataFile]) = .ok true
  header : ∃ s header, t.text d ((t.skillsRoot.below place).below [skillFile]) = .ok s ∧
    Header.split s = .ok (header, r.content) ∧ nameIn? header = some r.id ∧
    descriptionIn header = .ok r.description
  metadata : t.document d ((t.skillsRoot.below place).below [metadataFile]) Record.Metadata.ofValue
    = .ok r.metadata
  resources : t.resources d (t.skillsRoot.below place) = .ok r.resources
  path_eq : r.path = placeText place

/-- In a directory there is no skill if there is no file that describes it, or no name in the header
of its text; else the skill is read. -/
theorem skill?_cases {place : Place} {r? : Option Record.Skill} (h : t.skill? d place = .ok r?) :
  (isFile d ((t.skillsRoot.below place).below [metadataFile]) = .ok false ∧ r? = none) ∨
    (∃ s header body, t.text d ((t.skillsRoot.below place).below [skillFile]) = .ok s ∧
      Header.split s = .ok (header, body) ∧ nameIn? header = none ∧ r? = none) ∨
    ∃ r, r? = some r ∧ t.Reads d place r
  := by
  rw [skill?] at h
  obtain ⟨is, his, h⟩ := bind_eq_ok_iff.mp h
  cases is with
  | false =>
      cases h
      exact Or.inl ⟨his, rfl⟩
  | true =>
      obtain ⟨s, hs, h⟩ := bind_eq_ok_iff.mp h
      obtain ⟨⟨header, body⟩, hsplit, h⟩ := bind_eq_ok_iff.mp h
      have hsplit := mapError_eq_ok_iff.mp hsplit
      dsimp only at h
      split at h
      · rename_i name hname
        obtain ⟨metadata, hmetadata, h⟩ := bind_eq_ok_iff.mp h
        obtain ⟨description, hdescription, h⟩ := bind_eq_ok_iff.mp h
        obtain ⟨resources, hresources, h⟩ := bind_eq_ok_iff.mp h
        cases h
        refine Or.inr (Or.inr ⟨_, rfl, his, ?_, hmetadata, hresources, rfl⟩)
        exact ⟨s, header, hs, hsplit, hname, hdescription⟩
      · rename_i hname
        cases h
        refine Or.inr (Or.inl ⟨s, header, body, hs, hsplit, ?_, rfl⟩)
        rw [Option.eq_none_iff_forall_ne_some]
        apply hname

/-- The skill in a directory is one that is read there. -/
theorem skill?_eq_some_iff {place : Place} {r : Record.Skill} :
  t.skill? d place = .ok (some r) ↔ t.Reads d place r
  := by
  constructor
  · intro h
    rcases skill?_cases h with ⟨-, hnone⟩ | ⟨-, -, -, -, -, -, hnone⟩ | ⟨r', hr, hreads⟩
    · cases hnone
    · cases hnone
    · cases hr
      apply hreads
  · intro h
    obtain ⟨s, header, hs, hsplit, hname, hdescription⟩ := h.header
    rw [skill?, h.described, ok_bind, Bool.not_true, if_neg Bool.false_ne_true, hs, ok_bind,
      mapError_eq_ok_iff.mpr hsplit, ok_bind]
    dsimp only
    rw [hname]
    dsimp only
    rw [h.metadata, ok_bind, hdescription, ok_bind, h.resources, ok_bind, ← h.path_eq]
    rfl

/-- Skills are read in the directory of skills, where there is something with the name of a text. -/
theorem of_skills_eq_ok {rs : List Record.Skill} (h : t.skills d = .ok rs) :
  d.isDirectory t.skillsRoot = .ok true ∧
    ∃ found, (t.skillPlaces d).mapM (t.skill? d) = .ok found ∧ found.filterMap id = rs
  := by
  rw [skills] at h
  obtain ⟨is, his, h⟩ := bind_eq_ok_iff.mp h
  cases is with
  | false => cases h
  | true =>
      obtain ⟨found, hfound, h⟩ := bind_eq_ok_iff.mp h
      cases h
      exact ⟨mapError_eq_ok_iff.mp his, found, hfound, rfl⟩

theorem isPlaceText_of_skills (hd : d.tree.Sound) {rs : List Record.Skill}
    (h : t.skills d = .ok rs) :
  ∀ r ∈ rs, ∀ name ∈ r.resources.names, IsPlaceText name
  := by
  obtain ⟨-, found, hfound, rfl⟩ := of_skills_eq_ok h
  intro r hr
  obtain ⟨r?, hr?, rfl⟩ := List.mem_filterMap.mp hr
  obtain ⟨place, -, hskill⟩ := (mem_of_mapM_eq_ok hfound).mp hr?
  apply isPlaceText_of_resources hd (skill?_eq_some_iff.mp hskill).resources

end SourceTree

/-- The documents of a skill that was loaded from a sound disk have normal paths. -/
theorem isNormal_skillPath {slug file : String} (hslug : Slug.isKebabName slug = true)
    (hfile : IsNormal file) :
  IsNormal (Compile.skillPath slug file)
  := by
  obtain ⟨hnormal, -⟩ := Slug.segments_of_isKebabName hslug
  have hpath : Compile.skillPath slug file = "skills" ++ "/" ++ (slug ++ "/" ++ file) := by
    simp [Compile.skillPath, ← String.toList_inj]
  rw [IsNormal, hpath, Text.segments_append (by decide), Text.segments_append_slash,
    List.forall_mem_cons, List.forall_mem_append]
  exact ⟨by decide, hnormal, hfile⟩

/-- The skills of a catalog that was loaded have slugs in kebab case. -/
theorem Catalog.isKebabName_of_loaded {t : SourceTree} {d : Disk} {c : Catalog}
    (h : t.catalog d = .ok c) {s : Skill} (hs : s ∈ c.skills) :
  Slug.isKebabName s.slug = true
  := by
  rw [SourceTree.catalog] at h
  obtain ⟨m, -, h⟩ := bind_eq_ok_iff.mp h
  obtain ⟨rs, -, h⟩ := bind_eq_ok_iff.mp h
  have hbuilt := built_of_build (mapError_eq_ok_iff.mp h)
  rw [hbuilt.skills_eq] at hs
  obtain ⟨r, hr, rfl⟩ := List.mem_map.mp hs
  apply hbuilt.slug_isKebabName r hr

/-- The skills of a catalog that was loaded from a sound disk have slugs in kebab case and documents
with normal paths. -/
theorem Catalog.of_loaded {t : SourceTree} {d : Disk} (hd : d.Sound) {c : Catalog}
    (h : t.catalog d = .ok c) {s : Skill} (hs : s ∈ c.skills) :
  Slug.isKebabName s.slug = true ∧ ∀ x ∈ Compile.skillDocuments s, IsNormal x.path
  := by
  have hslug := isKebabName_of_loaded h hs
  refine ⟨hslug, ?_⟩
  rw [SourceTree.catalog] at h
  obtain ⟨m, -, h⟩ := bind_eq_ok_iff.mp h
  obtain ⟨rs, hrs, h⟩ := bind_eq_ok_iff.mp h
  have hbuilt := built_of_build (mapError_eq_ok_iff.mp h)
  rw [hbuilt.skills_eq] at hs
  obtain ⟨r, hr, rfl⟩ := List.mem_map.mp hs
  intro x hx
  rcases Compile.mem_skillDocuments hx with ⟨hpath, -⟩ | ⟨e, he, hpath⟩
  · rw [hpath]
    apply isNormal_skillPath hslug (by decide)
  · obtain ⟨place, hne, hnames, hname⟩ :=
      SourceTree.isPlaceText_of_skills hd.tree hrs r hr e.1 (List.mem_map_of_mem he)
    rw [hpath, hname]
    apply isNormal_skillPath hslug (isNormal_placeText hne hnames)

end AgentBundles
