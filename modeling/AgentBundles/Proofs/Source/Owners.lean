import AgentBundles.Proofs.Source.Skills
import AgentBundles.Proofs.Validation.Compiled

/-!
# The files of a skill

Skills may be nested in one another. A file belongs to the nearest directory at or above its own
that holds the text of a skill, even if no skill could be made of that text. So the skills of a
source tree share no file, and what is nested in a skill is kept out of it.
-/

namespace AgentBundles

/-! ### Nearest directories -/

namespace Disk

variable {d : Disk} {place : Place} {name : String}

/-- A directory holds a file with a name. -/
def Holds (d : Disk) (place : Place) (name : String) : Prop :=
  ∃ c, d.HasFile (place ++ [name]) c

/-- Of the directories at or above that of a file, the nearest one that holds a file with a name. -/
structure Nearest (d : Disk) (name : String) (owner file : Place) : Prop where
  above : owner <+: file.dropLast
  holds : d.Holds owner name
  nearest : ∀ place, place <+: file.dropLast → d.Holds place name → place <+: owner

theorem Nearest.unique {owner owner' file : Place} (h : d.Nearest name owner file)
    (h' : d.Nearest name owner' file) :
  owner = owner'
  := by
  have hle := h'.nearest owner h.above h.holds
  apply hle.eq_of_length_le
  exact (h.nearest owner' h'.above h'.holds).length_le

/-- A directory that holds a file with a name is the nearest one for a file below it, unless one
between them holds such a file too. -/
theorem nearest_append_iff {rest : Place} (hrest : rest ≠ []) (hplace : d.Holds place name) :
  d.Nearest name place (place ++ rest)
    ↔ ∀ front, front ≠ [] → front <+: rest.dropLast → ¬ d.Holds (place ++ front) name
  := by
  have hdrop : (place ++ rest).dropLast = place ++ rest.dropLast :=
    List.dropLast_append_of_ne_nil hrest
  constructor
  · intro h front hne hfront hholds
    have habove := h.nearest (place ++ front)
      (by rw [hdrop]; exact (List.prefix_append_right_inj _).mpr hfront) hholds
    apply hne
    rw [← List.length_eq_zero_iff]
    have hlength := habove.length_le
    rw [List.length_append] at hlength
    omega
  · intro h
    refine ⟨?_, hplace, ?_⟩
    · rw [hdrop]
      apply List.prefix_append
    · intro q hq hholds
      rw [hdrop] at hq
      rcases List.prefix_or_prefix_of_prefix hq (List.prefix_append place rest.dropLast)
        with habove | ⟨front, rfl⟩
      · apply habove
      · by_cases hne : front = []
        · rw [hne, List.append_nil]
        · exact absurd hholds (h front hne ((List.prefix_append_right_inj _).mp hq))

end Disk

namespace SourceTree

variable {t : SourceTree} {d : Disk} {base place rest : Place} {r : Record.Skill}

/-! ### Texts of skills -/

/-- The skills of a source tree were read below a place: wherever there is something with the name
of a text, it was found whether there is a skill. -/
structure Searched (t : SourceTree) (d : Disk) (base : Place) : Prop where
  sound : d.tree.Sound
  isPlain : t.skillsRoot.isPlain = true
  leadsTo : d.LeadsTo t.skillsRoot base
  found : ∀ place ∈ t.skillPlaces d, ∃ r?, t.skill? d place = .ok r?

theorem searched_of_skills (hd : d.Sound) {rs : List Record.Skill} (h : t.skills d = .ok rs) :
  ∃ base, t.Searched d base
  := by
  obtain ⟨hdirectory, found, hfound, -⟩ := of_skills_eq_ok h
  obtain ⟨base, hleads⟩ := Disk.leadsTo_of_isDirectory hdirectory
  use base
  constructor
  · apply hd.tree
  · apply Disk.isPlain_of_isDirectory hdirectory
  · apply hleads
  · apply exists_mapM_eq_ok_iff.mp ⟨found, hfound⟩

namespace Searched

variable (h : t.Searched d base)

include h

theorem isName_of_get? {node : Node} (hnode : d.tree.get? (base ++ rest) = some node) :
  ∀ n ∈ rest, IsName n
  := fun n hn => h.sound.isName_of_get? hnode n (List.mem_append_right _ hn)

theorem mem_skillPlaces_iff :
  place ∈ t.skillPlaces d ↔ ∃ node, d.tree.get? (base ++ (place ++ [skillFile])) = some node
  := by
  rw [skillPlaces, List.mem_filterMap]
  constructor
  · rintro ⟨⟨rest, node⟩, hmem, heq⟩
    split at heq
    · rename_i hlast
      cases heq
      have hsplit := List.dropLast_append_getLast? _ (eq_of_beq hlast)
      obtain ⟨-, hnode⟩ := (Disk.mem_below_iff h.sound h.leadsTo.1).mp hmem
      refine ⟨node, ?_⟩
      rw [hsplit]
      apply hnode
    · cases heq
  · rintro ⟨node, hnode⟩
    refine ⟨(place ++ [skillFile], node), ?_, ?_⟩
    · apply (Disk.mem_below_iff h.sound h.leadsTo.1).mpr ⟨List.concat_ne_nil _ _, hnode⟩
    · simp

theorem isPlain_below (hplace : place ∈ t.skillPlaces d) :
  (t.skillsRoot.below place).isPlain = true
  := by
  obtain ⟨node, hnode⟩ := h.mem_skillPlaces_iff.mp hplace
  apply FilePath.isPlain_below h.isPlain
  intro n hn
  apply h.isName_of_get? hnode n (List.mem_append_left _ hn)

/-- Where there is something with the name of a text, the path of the file that describes the skill
is not too long. -/
theorem short (hplace : place ∈ t.skillPlaces d) :
  (t.skillsRoot.below (place ++ [metadataFile])).text.utf8ByteSize ≤ longestPath
  := by
  have hplain : ((t.skillsRoot.below place).below [metadataFile]).isPlain = true :=
    FilePath.isPlain_below (h.isPlain_below hplace) (by decide)
  obtain ⟨r?, hr⟩ := h.found place hplace
  rw [skill?] at hr
  obtain ⟨is, his, -⟩ := bind_eq_ok_iff.mp hr
  have hshort := Disk.short_of_isFile hplain (mapError_eq_ok_iff.mp his)
  rw [FilePath.below_below] at hshort
  apply hshort

theorem leadsTo_below (hplace : place ∈ t.skillPlaces d) :
  d.LeadsTo (t.skillsRoot.below place) (base ++ place)
  := by
  obtain ⟨node, hnode⟩ := h.mem_skillPlaces_iff.mp hplace
  rw [← List.append_assoc] at hnode
  have hdirectory := h.sound.directory_of_get? (List.cons_ne_nil _ _) hnode
  refine ⟨Disk.walk_below h.sound h.leadsTo.1 hdirectory ?_, hdirectory⟩
  have hne : (t.skillsRoot.below place).names ≠ [] := by simp [skillsRoot, FilePath.below]
  have hsize := FilePath.size_text_le_below hne [metadataFile]
  rw [FilePath.below_below] at hsize
  apply hsize.trans (h.short hplace)

/-- It can be told everywhere whether there is the text of a skill. -/
theorem holdsSkill_iff (hnames : ∀ n ∈ place, IsName n) :
  holdsSkill d (t.skillsRoot.below place) = true ↔ d.Holds (base ++ place) skillFile
  := by
  have hconcat : ∀ n ∈ place ++ [skillFile], IsName n := by
    rw [List.forall_mem_append]
    exact ⟨hnames, by decide⟩
  rw [holdsSkill, FilePath.below_below, Disk.Holds, List.append_assoc]
  constructor
  · intro hholds
    split at hholds
    · rename_i hfile
      obtain ⟨c, hc⟩ := Disk.exists_hasFile_of_isFile hfile
      rw [Disk.resolve, FilePath.resolve_below (up_not_mem_of_isName hconcat)] at hc
      rw [← Disk.resolve_of_walk h.leadsTo.1]
      exact ⟨c, hc⟩
    · cases hholds
  · -- The path of a text is not too long, since that of the description beside it, which is
    -- longer, could be looked up.
    rintro ⟨c, hc⟩
    have hplace := h.mem_skillPlaces_iff.mpr ⟨_, hc⟩
    have hsize := FilePath.size_text_below_concat_le (n := skillFile) (m := metadataFile)
      (by decide) t.skillsRoot place
    have hwalk := Disk.walk_below h.sound h.leadsTo.1 hc (hsize.trans (h.short hplace))
    rw [Disk.isFile_of_walk (FilePath.isPlain_below h.isPlain hconcat) hwalk hc]

/-! ### Files beside texts -/

/-- Something is nested unless no directory between it and the skill holds the text of one. -/
theorem isNested_eq_false_iff (hnames : ∀ n ∈ place ++ rest, IsName n) :
  isNested d (t.skillsRoot.below place) rest = false
    ↔ ∀ front, front ≠ [] → front <+: rest.dropLast → ¬ d.Holds (base ++ place ++ front) skillFile
  := by
  have hholds : ∀ n, holdsSkill d ((t.skillsRoot.below place).below (rest.take n)) = true
      ↔ d.Holds (base ++ place ++ rest.take n) skillFile := by
    intro n
    rw [FilePath.below_below, List.append_assoc]
    apply h.holdsSkill_iff
    intro m hm
    rcases List.mem_append.mp hm with hm | hm
    · apply hnames m (List.mem_append_left _ hm)
    · apply hnames m (List.mem_append_right _ (List.mem_of_mem_take hm))
  rw [isNested, List.any_eq_false]
  constructor
  · intro hnone front hne hfront
    have hlength := hfront.length_le
    rw [List.length_dropLast] at hlength
    have hpos := List.length_pos_of_ne_nil hne
    have htake : front = rest.take (front.length - 1 + 1) := by
      rw [Nat.sub_add_cancel hpos]
      apply List.prefix_iff_eq_take.mp (hfront.trans (List.dropLast_prefix rest))
    rw [htake, ← hholds]
    apply hnone
    rw [List.mem_range]
    omega
  · intro hnone n hn
    rw [List.mem_range] at hn
    rw [hholds]
    apply hnone
    · apply List.ne_nil_of_length_pos
      rw [List.length_take]
      omega
    · rw [List.dropLast_eq_take]
      apply List.take_prefix_take_left
      omega

/-- What belongs to a skill are the files below it that are not nested, but for its text and its
description. -/
theorem mem_resourcePlaces_iff (hplace : place ∈ t.skillPlaces d) :
  rest ∈ resourcePlaces d (t.skillsRoot.below place)
    ↔ rest ≠ [] ∧ (∃ c, d.HasFile (base ++ place ++ rest) c) ∧ rest ≠ [skillFile] ∧
    rest ≠ [metadataFile] ∧
      ∀ front, front ≠ [] → front <+: rest.dropLast → ¬ d.Holds (base ++ place ++ front) skillFile
  := by
  have hwalk := (h.leadsTo_below hplace).1
  have hnested : ∀ {rest : Place} {c : Content}, d.HasFile (base ++ place ++ rest) c →
      (isNested d (t.skillsRoot.below place) rest = false
        ↔ ∀ front, front ≠ [] → front <+: rest.dropLast →
        ¬ d.Holds (base ++ place ++ front) skillFile) := by
    intro rest c hfile
    apply h.isNested_eq_false_iff
    rw [Disk.HasFile, List.append_assoc] at hfile
    apply h.isName_of_get? hfile
  rw [resourcePlaces, List.mem_filterMap]
  constructor
  · rintro ⟨⟨rest, node⟩, hmem, heq⟩
    obtain ⟨hne, hnode⟩ := (Disk.mem_below_iff h.sound hwalk).mp hmem
    cases node with
    | directory => cases heq
    | file c =>
        dsimp only at heq
        split at heq
        · cases heq
        · rename_i hkept
          cases heq
          simp only [Bool.or_eq_true, beq_iff_eq, not_or, Bool.not_eq_true] at hkept
          exact ⟨hne, ⟨c, hnode⟩, hkept.1.1, hkept.1.2, (hnested hnode).mp hkept.2⟩
  · rintro ⟨hne, ⟨c, hfile⟩, hskill, hmetadata, hnone⟩
    refine ⟨(rest, .file c), (Disk.mem_below_iff h.sound hwalk).mpr ⟨hne, hfile⟩, ?_⟩
    simp [hskill, hmetadata, (hnested hfile).mpr hnone]

theorem textOf_of_text {c : Content} {s : String} (hplace : place ∈ t.skillPlaces d)
    (hfile : d.HasFile (base ++ place ++ rest) c)
    (hs : t.text d ((t.skillsRoot.below place).below rest) = .ok s) :
  Disk.textOf c = .ok s
  := Disk.textOf_of_read_below h.sound (h.leadsTo_below hplace).1 hfile (read_of_text hs)

/-- What belongs to a skill is among its files. -/
theorem exists_text_of_mem_resourcePlaces (hplace : place ∈ t.skillPlaces d)
    (hreads : t.Reads d place r) (hrest : rest ∈ resourcePlaces d (t.skillsRoot.below place)) :
  ∃ c s, d.HasFile (base ++ place ++ rest) c ∧ Disk.textOf c = .ok s ∧
    (placeText rest, s) ∈ r.resources
  := by
  obtain ⟨-, ⟨c, hfile⟩, -⟩ := (h.mem_resourcePlaces_iff hplace).mp hrest
  obtain ⟨e, he⟩ := exists_mapM_eq_ok_iff.mp ⟨_, hreads.resources⟩ rest hrest
  obtain ⟨s, hs, rfl⟩ := map_eq_ok_iff.mp he
  exact ⟨c, s, hfile, h.textOf_of_text hplace hfile hs,
    (mem_of_mapM_eq_ok hreads.resources).mpr ⟨rest, hrest, he⟩⟩

/-- The files of a skill belong to it. -/
theorem exists_place_of_mem_resources (hplace : place ∈ t.skillPlaces d)
    (hreads : t.Reads d place r) {e : String × String} (he : e ∈ r.resources) :
  ∃ rest ∈ resourcePlaces d (t.skillsRoot.below place), placeText rest = e.1 ∧
    ∃ c, d.HasFile (base ++ place ++ rest) c ∧ Disk.textOf c = .ok e.2
  := by
  obtain ⟨rest, hrest, he⟩ := (mem_of_mapM_eq_ok hreads.resources).mp he
  obtain ⟨s, hs, rfl⟩ := map_eq_ok_iff.mp he
  obtain ⟨-, ⟨c, hfile⟩, -⟩ := (h.mem_resourcePlaces_iff hplace).mp hrest
  exact ⟨rest, hrest, rfl, c, hfile, h.textOf_of_text hplace hfile hs⟩

end Searched

/-! ### Skills and their files -/

/-- A file is among those of a skill that was loaded from a place below `base`, under its path and
with its text. -/
def Has (d : Disk) (base place : Place) (r : Record.Skill) (file : Place) : Prop :=
  ∃ rest c s, file = base ++ place ++ rest ∧ d.HasFile file c ∧ Disk.textOf c = .ok s ∧
    (placeText rest, s) ∈ r.resources

/-- A skill was loaded from a place below `base`: it has the name and the body of the text there,
and the files that belong to it. -/
structure LoadedFrom (d : Disk) (base place : Place) (r : Record.Skill) : Prop where
  path_eq : r.path = placeText place
  text : ∃ c s header, d.HasFile (base ++ place ++ [skillFile]) c ∧ Disk.textOf c = .ok s ∧
    Header.split s = .ok (header, r.content) ∧ nameIn? header = some r.id
  described : d.Holds (base ++ place) metadataFile
  has_iff : ∀ file, Has d base place r file ↔ (∃ c, d.HasFile file c) ∧
    d.Nearest skillFile (base ++ place) file ∧ file ≠ base ++ place ++ [skillFile] ∧
    file ≠ base ++ place ++ [metadataFile]
  has_all : ∀ e ∈ r.resources, ∃ rest, e.1 = placeText rest ∧
    Has d base place r (base ++ place ++ rest)
  loaded : r.Loaded

/-- The files of a skill are those for which its directory is the nearest one with a text. -/
theorem Searched.has_iff (h : t.Searched d base) (hplace : place ∈ t.skillPlaces d)
    (hreads : t.Reads d place r) (hholds : d.Holds (base ++ place) skillFile) (file : Place) :
  Has d base place r file ↔ (∃ c, d.HasFile file c) ∧ d.Nearest skillFile (base ++ place) file ∧
    file ≠ base ++ place ++ [skillFile] ∧ file ≠ base ++ place ++ [metadataFile]
  := by
  constructor
  · rintro ⟨rest, c, s, rfl, hfile, -, hmem⟩
    have hne : rest ≠ [] := by
      rintro rfl
      rw [List.append_nil, Disk.HasFile, (h.leadsTo_below hplace).2] at hfile
      cases hfile
    have hname : ∀ n ∈ rest, IsName n :=
      fun n hn => h.sound.isName_of_get? hfile n (List.mem_append_right _ hn)
    -- The name of a file tells its place, so what was read under this name is the file itself.
    obtain ⟨rest', hrest, heq, -⟩ := h.exists_place_of_mem_resources hplace hreads hmem
    obtain ⟨hne', hname'⟩ := isName_of_mem_resourcePlaces h.sound hrest
    obtain rfl := placeText_injective hne' hne hname' hname heq
    obtain ⟨-, -, hskill, hmetadata, hnone⟩ := (h.mem_resourcePlaces_iff hplace).mp hrest
    refine ⟨⟨c, hfile⟩, (Disk.nearest_append_iff hne hholds).mpr hnone, ?_, ?_⟩
    · exact mt List.append_cancel_left hskill
    · exact mt List.append_cancel_left hmetadata
  · rintro ⟨⟨c, hfile⟩, hnearest, hskill, hmetadata⟩
    have hne : file ≠ [] := by
      rintro rfl
      cases hfile
    obtain ⟨front, hfront⟩ := hnearest.above
    obtain ⟨rest, rfl, hrest⟩ : ∃ rest, file = base ++ place ++ rest ∧ rest ≠ [] := by
      refine ⟨front ++ [file.getLast hne], ?_, List.concat_ne_nil _ _⟩
      rw [← List.append_assoc, hfront, List.dropLast_append_getLast]
    have hmem : rest ∈ resourcePlaces d (t.skillsRoot.below place) := by
      apply (h.mem_resourcePlaces_iff hplace).mpr
      refine ⟨hrest, ⟨c, hfile⟩, ?_, ?_, (Disk.nearest_append_iff hrest hholds).mp hnearest⟩
      · rintro rfl
        exact hskill rfl
      · rintro rfl
        exact hmetadata rfl
    obtain ⟨c', s, hfile', htext, hentry⟩ := h.exists_text_of_mem_resourcePlaces hplace hreads hmem
    exact ⟨rest, c', s, rfl, hfile', htext, hentry⟩

theorem Searched.loadedFrom (h : t.Searched d base) (hplace : place ∈ t.skillPlaces d)
    (hreads : t.Reads d place r) :
  LoadedFrom d base place r
  := by
  have hwalk := (h.leadsTo_below hplace).1
  have hresolve : ∀ {name : String}, name ≠ ".." →
      d.resolve ((t.skillsRoot.below place).below [name]) = base ++ place ++ [name] := by
    intro name hup
    apply Disk.resolve_below hwalk
    simp [hup.symm]
  obtain ⟨s, header, hs, hsplit, hname, -⟩ := hreads.header
  obtain ⟨c, hfile, htext⟩ := Disk.content_of_read (read_of_text hs)
  rw [hresolve (by decide)] at hfile
  have hdescribed := Disk.exists_hasFile_of_isFile (mapError_eq_ok_iff.mp hreads.described)
  rw [hresolve (by decide)] at hdescribed
  constructor
  · apply hreads.path_eq
  · exact ⟨c, s, header, hfile, htext, hsplit, hname⟩
  · apply hdescribed
  · apply h.has_iff hplace hreads ⟨c, hfile⟩
  · intro e he
    obtain ⟨rest, -, hname, c, hfile, htext⟩ := h.exists_place_of_mem_resources hplace hreads he
    exact ⟨rest, hname.symm, rest, c, e.2, rfl, hfile, htext, by rw [hname]; exact he⟩
  · constructor
    · apply nodup_names_of_resources h.sound hreads.resources
    · rw [List.mem_map]
      rintro ⟨e, he, heq⟩
      obtain ⟨rest, hrest, hname, -⟩ := h.exists_place_of_mem_resources hplace hreads he
      obtain ⟨-, -, hskill, -⟩ := (h.mem_resourcePlaces_iff hplace).mp hrest
      obtain ⟨hne, hnames⟩ := isName_of_mem_resourcePlaces h.sound hrest
      apply hskill
      apply placeText_injective hne (List.cons_ne_nil _ _) hnames (by decide)
      rw [hname, heq]
      rfl

/-- A directory holds the text of a skill with a name in its header, and a file that describes the
skill. -/
def IsSkill (d : Disk) (place : Place) : Prop :=
  (∃ c s header body name, d.HasFile (place ++ [skillFile]) c ∧ Disk.textOf c = .ok s ∧
    Header.split s = .ok (header, body) ∧ nameIn? header = some name) ∧ d.Holds place metadataFile

/-- Where no skill was found, there is none. -/
theorem Searched.not_isSkill (h : t.Searched d base) (hplace : place ∈ t.skillPlaces d)
    (hnone : t.skill? d place = .ok none) :
  ¬ IsSkill d (base ++ place)
  := by
  rintro ⟨⟨c, s, header, body, name, hfile, htext, hsplit, hname⟩, c', hfile'⟩
  rcases skill?_cases hnone
    with ⟨his, -⟩ | ⟨s', header', body', hs', hsplit', hname', -⟩ | ⟨r, hr, -⟩
  · have hplain : ((t.skillsRoot.below place).below [metadataFile]).isPlain = true :=
      FilePath.isPlain_below (h.isPlain_below hplace) (by decide)
    have htrue := Disk.eq_true_of_isFile_below h.sound (h.leadsTo_below hplace).1 hplain hfile'
      (mapError_eq_ok_iff.mp his)
    cases htrue
  · rw [h.textOf_of_text hplace hfile hs', Except.ok.injEq] at htext
    subst htext
    rw [hsplit', Except.ok.injEq, Prod.mk.injEq] at hsplit
    rw [← hsplit.1, hname'] at hname
    cases hname
  · cases hr

/-- The skills of a source tree are loaded from places below that of the directory of skills: from
those with the text of a skill that has a name in its header and with a file that describes the
skill, each from one, in the order of the paths of the texts. No file is among those of two of
them. -/
structure SkillsApart (t : SourceTree) (d : Disk) (base : Place) (places : List Place)
    (rs : List Record.Skill) : Prop where
  leadsTo : d.LeadsTo t.skillsRoot base
  loadedFrom : List.Forall₂ (LoadedFrom d base) places rs
  mem_iff : ∀ place, place ∈ places ↔ IsSkill d (base ++ place)
  sorted : places.Pairwise fun p q => p ++ [skillFile] < q ++ [skillFile]
  disjoint : (places.zip rs).Pairwise fun x y => ∀ file,
    ¬ (Has d base x.1 x.2 file ∧ Has d base y.1 y.2 file)

/-- Nested skills share no file: a file is among those of a skill exactly if the directory of the
skill is the nearest one with the text of a skill at or above the file, and the file is neither that
text nor what describes the skill. -/
theorem skills_share_no_file (hd : d.Sound) {rs : List Record.Skill} (h : t.skills d = .ok rs) :
  ∃ base places, t.SkillsApart d base places rs
  := by
  obtain ⟨base, hsearched⟩ := searched_of_skills hd h
  obtain ⟨-, found, hfound, rfl⟩ := of_skills_eq_ok h
  obtain ⟨places, hsublist, hplaces, hrest⟩ := exists_sublist_of_mapM_eq_ok hfound
  obtain ⟨hlength, hskill⟩ := List.forall₂_iff_zip.mp hplaces
  have hloaded : ∀ {place r}, (place, r) ∈ places.zip (found.filterMap id) →
      LoadedFrom d base place r := by
    intro place r hmem
    apply hsearched.loadedFrom (hsublist.subset (List.of_mem_zip hmem).1)
      (skill?_eq_some_iff.mp (hskill hmem))
  have hsorted : places.Pairwise fun p q => p ++ [skillFile] < q ++ [skillFile] := by
    have hbelow := Disk.pairwise_lt_below hd.tree t.skillsRoot
    rw [← List.pairwise_map] at hbelow ⊢
    apply hbelow.sublist ((hsublist.map _).trans (skillPlaces_sublist t d))
  use base, places
  constructor
  · apply hsearched.leadsTo
  · exact List.forall₂_iff_zip.mpr ⟨hlength, hloaded⟩
  · intro place
    constructor
    · intro hplace
      obtain ⟨r, hmem⟩ : ∃ r, (place, r) ∈ places.zip (found.filterMap id) := by
        rw [← List.map_fst_zip hlength.le] at hplace
        obtain ⟨x, hx, rfl⟩ := List.mem_map.mp hplace
        exact ⟨x.2, hx⟩
      have hfrom := hloaded hmem
      obtain ⟨c, s, header, hfile, htext, hsplit, hname⟩ := hfrom.text
      exact ⟨⟨c, s, header, r.content, r.id, hfile, htext, hsplit, hname⟩, hfrom.described⟩
    · intro hskill
      obtain ⟨⟨c, -, -, -, -, hfile, -⟩, -⟩ := id hskill
      rw [Disk.HasFile, List.append_assoc] at hfile
      have hplace := hsearched.mem_skillPlaces_iff.mpr ⟨_, hfile⟩
      rcases hrest place hplace with hmem | hnone
      · apply hmem
      · exact absurd hskill (hsearched.not_isSkill hplace hnone)
  · apply hsorted
  · have hne : (places.zip (found.filterMap id)).Pairwise fun x y => x.1 ≠ y.1 := by
      rw [← List.pairwise_map, List.map_fst_zip hlength.le]
      apply hsorted.imp
      rintro p q hlt rfl
      apply lt_irrefl _ hlt
    apply hne.imp_of_mem
    rintro ⟨p, r⟩ ⟨q, r'⟩ hx hy hpq file ⟨hp, hq⟩
    obtain ⟨-, hnearest, -⟩ := ((hloaded hx).has_iff file).mp hp
    obtain ⟨-, hnearest', -⟩ := ((hloaded hy).has_iff file).mp hq
    exact hpq (List.append_cancel_left (hnearest.unique hnearest'))

/-! ### A skill in a draft in a skill -/

/-- A skill with a draft below it, which nothing describes, and a skill below the draft. -/
def nestedDisk : Disk := ⟨⟨[
  (["skills"], .directory),
  (["skills", "web"], .directory),
  (["skills", "web", "SKILL.md"], .file (.text "---\nname: web\n---\nUse it.")),
  (["skills", "web", "draft"], .directory),
  (["skills", "web", "draft", "SKILL.md"], .file (.text "Later.")),
  (["skills", "web", "draft", "forms"], .directory),
  (["skills", "web", "draft", "forms", "SKILL.md"],
    .file (.text "---\nname: forms\n---\nUse them.")),
  (["skills", "web", "draft", "forms", "fields.md"], .file (.text "Fields.")),
  (["skills", "web", "draft", "forms", "metadata.yaml"], .file (.text "category: web")),
  (["skills", "web", "draft", "ideas.md"], .file (.text "Ideas.")),
  (["skills", "web", "metadata.yaml"], .file (.text "category: web")),
  (["skills", "web", "notes.md"], .file (.text "Notes."))]⟩, []⟩

/-- The source tree in the working directory. -/
def nestedTree : SourceTree := ⟨.ofText ".", defaultFileLimit⟩

/-- A skill is read if its text has a header with a name and a description that can be shown, and
the other files of its directory are read. -/
theorem exists_reads {s : String} {table : Table String}
    (hdescribed : isFile d ((t.skillsRoot.below place).below [metadataFile]) = .ok true)
    (htext : t.text d ((t.skillsRoot.below place).below [skillFile]) = .ok s)
    (hheader :
      ((Header.split s).toOption.any fun p => (nameIn? p.1).isSome &&
      (descriptionIn p.1).toOption.isSome) = true)
    (hmetadata :
      (t.document d ((t.skillsRoot.below place).below [metadataFile])
      Record.Metadata.ofValue).toOption.isSome = true)
    (hresources : t.resources d (t.skillsRoot.below place) = .ok table) :
  ∃ r, t.skill? d place = .ok (some r) ∧ r.resources = table
  := by
  rw [Option.any_eq_true] at hheader
  obtain ⟨⟨header, body⟩, hsplit, hheader⟩ := hheader
  rw [Bool.and_eq_true, Option.isSome_iff_exists, Option.isSome_iff_exists] at hheader
  obtain ⟨⟨name, hname⟩, description, hdescription⟩ := hheader
  obtain ⟨metadata, hmetadata⟩ := Option.isSome_iff_exists.mp hmetadata
  refine ⟨⟨name, description, body, metadata, table, placeText place⟩,
    skill?_eq_some_iff.mpr ?_, rfl⟩
  exact ⟨hdescribed,
    ⟨s, header, htext, eq_ok_of_toOption hsplit, hname, eq_ok_of_toOption hdescription⟩,
    eq_ok_of_toOption hmetadata, hresources, rfl⟩

/-- The skill has its notes, and the skill below the draft has its fields; the ideas of the draft
are no one's. -/
theorem skills_share_no_file_nestedDisk :
  ∃ rs base places, nestedDisk.Sound ∧ nestedTree.skills nestedDisk = .ok rs ∧
    nestedTree.SkillsApart nestedDisk base places rs ∧
    rs.map (·.resources) = [[("notes.md", "Notes.")], [("fields.md", "Fields.")]]
  := by
  have hd : nestedDisk.Sound := by decide +kernel
  have hbelow : nestedDisk.below nestedTree.skillsRoot = nestedDisk.tree.entries.tail.map fun e =>
      (e.1.drop 1, e.2) := by
    have hwalk : nestedDisk.walk nestedTree.skillsRoot = .ok ["skills"] := by rfl
    rw [Disk.below, hwalk]
    exact List.mergeSort_of_pairwise (by decide +kernel)
  have hweb : nestedDisk.below (nestedTree.skillsRoot.below ["web"])
      = (nestedDisk.tree.entries.drop 2).map fun e => (e.1.drop 2, e.2) := by
    have hwalk : nestedDisk.walk (nestedTree.skillsRoot.below ["web"])
        = .ok ["skills", "web"] := by rfl
    rw [Disk.below, hwalk]
    exact List.mergeSort_of_pairwise (by decide +kernel)
  have hforms : nestedDisk.below (nestedTree.skillsRoot.below ["web", "draft", "forms"])
      = ((nestedDisk.tree.entries.drop 6).take 3).map fun e => (e.1.drop 4, e.2) := by
    have hwalk : nestedDisk.walk (nestedTree.skillsRoot.below ["web", "draft", "forms"])
        = .ok ["skills", "web", "draft", "forms"] := by rfl
    rw [Disk.below, hwalk]
    exact List.mergeSort_of_pairwise (by decide +kernel)
  have hplaces : nestedTree.skillPlaces nestedDisk
      = [["web"], ["web", "draft"], ["web", "draft", "forms"]] := by
    rw [skillPlaces, hbelow]
    decide +kernel
  obtain ⟨r, hr, hnotes⟩ : ∃ r, nestedTree.skill? nestedDisk ["web"] = .ok (some r) ∧
      r.resources = [("notes.md", "Notes.")] := by
    have hresources : resourcePlaces nestedDisk (nestedTree.skillsRoot.below ["web"])
        = [["notes.md"]] := by
      rw [resourcePlaces, hweb]
      decide +kernel
    apply exists_reads (s := "---\nname: web\n---\nUse it.")
    · rfl
    · rfl
    · decide +kernel
    · decide +kernel
    · rw [resources, hresources]
      rfl
  have hdraft : nestedTree.skill? nestedDisk ["web", "draft"] = .ok none := by rfl
  obtain ⟨r', hr', hfields⟩ : ∃ r, nestedTree.skill? nestedDisk ["web", "draft", "forms"]
      = .ok (some r) ∧ r.resources = [("fields.md", "Fields.")] := by
    have hresources :
        resourcePlaces nestedDisk (nestedTree.skillsRoot.below ["web", "draft", "forms"])
        = [["fields.md"]] := by
      rw [resourcePlaces, hforms]
      decide +kernel
    apply exists_reads (s := "---\nname: forms\n---\nUse them.")
    · rfl
    · rfl
    · decide +kernel
    · decide +kernel
    · rw [resources, hresources]
      rfl
  have hskills : nestedTree.skills nestedDisk = .ok [r, r'] := by
    have hdirectory : nestedDisk.isDirectory nestedTree.skillsRoot = .ok true := by rfl
    rw [skills, hdirectory, hplaces]
    simp [List.mapM_cons, hr, hdraft, hr']
    rfl
  obtain ⟨base, places, hapart⟩ := skills_share_no_file hd hskills
  exact ⟨[r, r'], base, places, hd, hskills,
    hapart, by rw [List.map_cons, List.map_cons, hnotes, hfields]; rfl⟩

end SourceTree

end AgentBundles
