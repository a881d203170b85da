import AgentBundles.Proofs.Files.Trees
import AgentBundles.Proofs.Outcome

/-!
# Sound disks

Where a path leads to, what is read and written there, and what becomes of a disk in which
directories are made. A sound disk has a sound tree, and stays sound whatever is made or written
along paths.
-/

namespace AgentBundles

/-- Paths as they are read from texts: no name is empty, a dot or cut by a slash. -/
def FilePath.Proper (p : FilePath) : Prop :=
  ∀ n ∈ p.names, n ≠ "" ∧ n ≠ "." ∧ '/' ∉ n.toList

theorem FilePath.proper_ofText (s : String) :
  (FilePath.ofText s).Proper
  := by
  intro n hn
  rw [ofText, List.mem_filter] at hn
  obtain ⟨hmem, hkept⟩ := hn
  have hslash := Text.slash_not_mem_of_mem_segments hmem
  simp only [Bool.not_eq_true', Bool.or_eq_false_iff, beq_eq_false_iff_ne] at hkept
  refine ⟨?_, hkept.2, hslash⟩
  rintro rfl
  cases hkept.1

/-- A path with a text taken from it on is one that is read from texts, if the path is. -/
theorem FilePath.Proper.child {p : FilePath} (h : p.Proper) (s : String) :
  (p.child s).Proper
  := by
  rw [FilePath.child, append]
  split
  · apply proper_ofText
  · intro n hn
    rcases List.mem_append.mp hn with hn | hn
    · apply h n hn
    · apply proper_ofText s n hn

namespace Disk

variable {d : Disk} {p : FilePath} {place root rest : Place} {node : Node}

/-! ### Following paths -/

theorem enter_eq_ok_iff {here : Place} {name : String} :
  d.enter here name = .ok place
    ↔ d.tree.get? here = some .directory ∧ name.utf8ByteSize ≤ longestName ∧
    FilePath.enter here name = place
  := by
  rw [enter]
  split
  · rename_i hdirectory
    split
    · rename_i hlong
      simp [Nat.not_le.mpr hlong]
    · rename_i hshort
      simp [hdirectory, Nat.not_lt.mp hshort]
  · rename_i hfile
    simp [hfile]
  · rename_i hnone
    simp [hnone]

/-- Names that can be followed are short and lead where they say. -/
theorem of_foldlM_enter {names : List String} {here : Place}
    (h : names.foldlM d.enter here = .ok place) :
  place = names.foldl FilePath.enter here ∧ ∀ n ∈ names, n.utf8ByteSize ≤ longestName
  := by
  induction names generalizing here with
  | nil =>
      cases h
      exact ⟨rfl, by simp⟩
  | cons n names ih =>
      rw [List.foldlM_cons] at h
      obtain ⟨there, hthere, h⟩ := bind_eq_ok_iff.mp h
      obtain ⟨-, hshort, rfl⟩ := enter_eq_ok_iff.mp hthere
      obtain ⟨hplace, hnames⟩ := ih h
      exact ⟨hplace, List.forall_mem_cons.mpr ⟨hshort, hnames⟩⟩

/-- A path that can be followed is not too long, and leads to the place that it names. -/
theorem walk_eq_ok_iff :
  d.walk p = .ok place
    ↔ p.text.utf8ByteSize ≤ longestPath ∧
      p.names.foldlM d.enter (if p.isAbsolute then [] else d.directory) = .ok place
  := by
  rw [walk]
  split
  · rename_i hlong
    simp [Nat.not_le.mpr hlong]
  · rename_i hshort
    simp [Nat.not_lt.mp hshort]

theorem resolve_of_walk (h : d.walk p = .ok place) :
  d.resolve p = place
  := (of_foldlM_enter (walk_eq_ok_iff.mp h).2).1.symm

theorem short_of_walk (h : d.walk p = .ok place) :
  ∀ n ∈ p.names, n.utf8ByteSize ≤ longestName
  := (of_foldlM_enter (walk_eq_ok_iff.mp h).2).2

theorem find_eq_ok_iff :
  d.find p = .ok node ↔ ∃ place, d.walk p = .ok place ∧ d.tree.get? place = some node
  := by
  rw [find, bind_eq_ok_iff]
  apply exists_congr
  intro place
  apply and_congr_right
  intro _
  split
  · rename_i hnode
    rw [hnode]
    constructor
    · intro h
      cases h
      rfl
    · intro h
      cases h
      rfl
  · rename_i hnone
    rw [hnone]
    constructor
    · intro h
      cases h
    · intro h
      cases h

/-- A path leads to a directory. -/
def LeadsTo (d : Disk) (p : FilePath) (place : Place) : Prop :=
  d.walk p = .ok place ∧ d.tree.get? place = some .directory

/-- A path that passes a test which nothing does not pass leads to something that passes it. -/
theorem exists_node_of_find? {test : Option Node → Bool} (hnone : test none = false)
    (h : (d.find? p).map test = .ok true) :
  ∃ place node, d.walk p = .ok place ∧ d.tree.get? place = some node ∧ test (some node) = true
  := by
  rw [find?] at h
  split at h
  · split at h
    · rename_i node hnode
      obtain ⟨place, hwalk, hplace⟩ := find_eq_ok_iff.mp hnode
      rw [Except.map, Except.ok.injEq] at h
      exact ⟨place, node, hwalk, hplace, h⟩
    · cases h
    · rw [Except.map, hnone] at h
      cases h
  · rw [Except.map, hnone] at h
    cases h

theorem leadsTo_of_isDirectory (h : d.isDirectory p = .ok true) :
  ∃ place, d.LeadsTo p place
  := by
  obtain ⟨place, node, hwalk, hplace, hnode⟩ := exists_node_of_find? rfl h
  cases node with
  | directory => exact ⟨place, hwalk, hplace⟩
  | file c => cases hnode

theorem isPlain_of_isDirectory (h : d.isDirectory p = .ok true) :
  p.isPlain = true
  := by
  rw [isDirectory, find?] at h
  split at h
  · rename_i hplain
    apply hplain
  · cases h

/-- A directory that is asked for is one. -/
theorem requireDirectory_eq_ok_iff {what : String} :
  d.requireDirectory what p = .ok () ↔ d.isDirectory p = .ok true
  := by
  rw [requireDirectory, bind_eq_ok_iff]
  constructor
  · rintro ⟨is, his, h⟩
    cases is with
    | true => apply his
    | false => cases h
  · intro h
    exact ⟨true, h, rfl⟩

/-- Reading a path gives the text of the file at the place that it names. -/
theorem content_of_read {s : String} (h : d.read p = .ok s) :
  ∃ c, d.tree.get? (d.resolve p) = some (.file c) ∧ textOf c = .ok s
  := by
  rw [read] at h
  obtain ⟨c, hc, h⟩ := bind_eq_ok_iff.mp h
  rw [content] at hc
  split at hc
  · cases hc
  · split at hc
    · rename_i c' hfind
      cases hc
      obtain ⟨place, hwalk, hnode⟩ := find_eq_ok_iff.mp hfind
      rw [resolve_of_walk hwalk]
      exact ⟨c, hnode, h⟩
    · cases hc
    · cases hc

/-- A path can be written to if it leads into a directory, but not to a directory. -/
theorem of_write_eq_ok {s : String} {d' : Disk} (h : d.write p s = .ok d') :
  ∃ place, d.walk p = .ok place ∧ place ≠ [] ∧ d.tree.get? place ≠ some .directory ∧
    ((d.tree.get? place).isSome ∨ d.tree.get? place.dropLast = some .directory) ∧
    d' = d.withTree (d.tree.insert place (.file (.text s)))
  := by
  rw [write] at h
  split at h
  · cases h
  · split at h
    · cases h
    · rename_i place hwalk
      have hne : d.tree.get? place ≠ some .directory → place ≠ [] := by
        rintro hplace rfl
        exact hplace rfl
      split at h
      · cases h
      · rename_i c hfile
        cases h
        have hplace : d.tree.get? place ≠ some .directory := by simp [hfile]
        exact ⟨place, hwalk, hne hplace, hplace, Or.inl (by rw [hfile]; rfl), rfl⟩
      · rename_i hnone hdirectory
        cases h
        have hplace : d.tree.get? place ≠ some .directory := by simp [hnone]
        exact ⟨place, hwalk, hne hplace, hplace, Or.inr hdirectory, rfl⟩
      · cases h
      · cases h

/-- If no name of a path holds a zero character, the file system alone can keep a text from being
written to it. -/
theorem of_write_eq_error {s : String} {f : FileFault} (hplain : p.isPlain = true)
    (h : d.write p s = .error f) :
  ∃ cause text, f = .path cause text
  := by
  rw [write, hplain, Bool.not_true, if_neg Bool.false_ne_true] at h
  split at h
  · cases h
    exact ⟨_, _, rfl⟩
  · split at h
    all_goals
      cases h
      try exact ⟨_, _, rfl⟩

theorem of_makeOne_eq_ok {d' : Disk} (h : d.makeOne p = .ok d') :
  ∃ place, d.walk p = .ok place ∧ place ≠ [] ∧ d.tree.get? place = none ∧
    d.tree.get? place.dropLast = some .directory ∧ d' = d.withTree (d.tree.insert place .directory)
  := by
  rw [makeOne] at h
  obtain ⟨place, hwalk, h⟩ := bind_eq_ok_iff.mp h
  split at h
  · cases h
  · rename_i hnone hdirectory
    cases h
    refine ⟨place, hwalk, ?_, hnone, hdirectory, rfl⟩
    rintro rfl
    cases hnone
  · cases h
  · cases h

/-! ### Sound disks -/

/-- Disks whose tree is sound and whose working directory has a path of names that files can
have. -/
structure Sound (d : Disk) : Prop where
  tree : d.tree.Sound
  directory : ∀ n ∈ d.directory, IsName n

theorem sound_iff {d : Disk} :
  d.Sound ↔ d.tree.Sound ∧ ∀ n ∈ d.directory, IsName n
  := ⟨fun h => ⟨h.1, h.2⟩, fun h => ⟨h.1, h.2⟩⟩

instance (d : Disk) : Decidable d.Sound := decidable_of_iff _ sound_iff.symm

/-- In a sound tree names lead down to whatever is there. -/
theorem foldlM_enter_of_get? (h : d.tree.Sound) (hnode : d.tree.get? (root ++ rest) = some node) :
  rest.foldlM d.enter root = .ok (root ++ rest)
  := by
  induction rest generalizing root with
  | nil =>
      rw [List.append_nil]
      rfl
  | cons n rest ih =>
      have hn : IsName n := h.isName_of_get? hnode n (by simp)
      have henter : d.enter root n = .ok (root ++ [n]) := by
        rw [enter_eq_ok_iff]
        refine ⟨h.directory_of_get? (List.cons_ne_nil _ _) hnode, hn.short, ?_⟩
        rw [FilePath.enter, beq_eq_false_iff_ne.mpr hn.ne_up, if_neg Bool.false_ne_true]
      rw [List.foldlM_cons, henter, ok_bind, ih]
      · rw [List.append_assoc]
        rfl
      · rw [List.append_assoc]
        apply hnode

theorem walk_below (h : d.tree.Sound) (hwalk : d.walk p = .ok root)
    (hnode : d.tree.get? (root ++ rest) = some node)
    (hshort : (p.below rest).text.utf8ByteSize ≤ longestPath) :
  d.walk (p.below rest) = .ok (root ++ rest)
  := by
  rw [walk_eq_ok_iff]
  refine ⟨hshort, ?_⟩
  have hnames : (p.below rest).names = p.names ++ rest := rfl
  have hstart : (p.below rest).isAbsolute = p.isAbsolute := rfl
  rw [hnames, hstart, List.foldlM_append, (walk_eq_ok_iff.mp hwalk).2, ok_bind]
  apply foldlM_enter_of_get? h hnode

theorem walk_ofPlace (h : d.tree.Sound) (hnode : d.tree.get? place = some node)
    (hshort : (FilePath.ofPlace place).text.utf8ByteSize ≤ longestPath) :
  d.walk (.ofPlace place) = .ok place
  := by
  rw [walk_eq_ok_iff]
  refine ⟨hshort, ?_⟩
  have hfold : place.foldlM d.enter [] = .ok ([] ++ place) := foldlM_enter_of_get? h hnode
  apply hfold

/-- Where a path leads that was read from a text, there are names that files can have. -/
theorem Sound.isName_of_walk (h : d.Sound) (hp : p.Proper) (hplain : p.isPlain = true)
    (hwalk : d.walk p = .ok place) :
  ∀ n ∈ place, IsName n
  := by
  intro n hn
  rw [← resolve_of_walk hwalk] at hn
  rcases FilePath.mem_resolve hn with hmem | ⟨hmem, hup⟩
  · apply h.directory n hmem
  · obtain ⟨hempty, hdot, hslash⟩ := hp n hmem
    have hzero : '\x00' ∉ n.toList := by
      have := List.all_eq_true.mp hplain n hmem
      simpa using this
    exact ⟨hempty, hdot, hup, hslash, hzero, short_of_walk hwalk n hmem⟩

/-- Something put where a path leads into a directory leaves a sound disk sound. -/
theorem Sound.withTree_insert (h : d.Sound) (hplace : place ≠ []) (hnames : ∀ n ∈ place, IsName n)
    (hparent : d.tree.get? place.dropLast = some .directory)
    (hnode : node = .directory ∨ d.tree.get? place ≠ some .directory) :
  (d.withTree (d.tree.insert place node)).Sound
  := by
  have hsplit := List.dropLast_append_getLast hplace
  have hlast := hnames _ (List.getLast_mem hplace)
  rw [← hsplit] at hnode
  constructor
  · have htree := h.tree.insert hparent hlast hnode
    rw [hsplit] at htree
    apply htree
  · apply h.directory

theorem Sound.of_makeOne {d' : Disk} (h : d.Sound) (hp : p.Proper) (hplain : p.isPlain = true)
    (hmake : d.makeOne p = .ok d') :
  d'.Sound
  := by
  obtain ⟨place, hwalk, hne, hnone, hparent, rfl⟩ := of_makeOne_eq_ok hmake
  apply h.withTree_insert hne (h.isName_of_walk hp hplain hwalk) hparent (Or.inl rfl)

theorem Sound.of_write {s : String} {d' : Disk} (h : d.Sound) (hp : p.Proper)
    (hplain : p.isPlain = true) (hwrite : d.write p s = .ok d') :
  d'.Sound
  := by
  obtain ⟨place, hwalk, hne, hfile, hparent, rfl⟩ := of_write_eq_ok hwrite
  apply h.withTree_insert hne (h.isName_of_walk hp hplain hwalk) _ (Or.inr hfile)
  rcases hparent with hsome | hparent
  · obtain ⟨node, hnode⟩ := Option.isSome_iff_exists.mp hsome
    rw [← List.dropLast_append_getLast hne] at hnode
    apply h.tree.parent hnode
  · apply hparent

/-- A file with a content is at a place. -/
abbrev HasFile (d : Disk) (place : Place) (c : Content) : Prop :=
  d.tree.get? place = some (.file c)

theorem HasFile.unique {c c' : Content} (h : d.HasFile place c) (h' : d.HasFile place c') :
  c = c'
  := by
  rw [HasFile, h] at h'
  cases h'
  rfl

theorem read_of_walk {c : Content} (hplain : p.isPlain = true) (hwalk : d.walk p = .ok place)
    (h : d.HasFile place c) :
  d.read p = textOf c
  := by
  have hcontent : d.content p = .ok c := by
    rw [content, hplain, Bool.not_true, if_neg Bool.false_ne_true,
      find_eq_ok_iff.mpr ⟨place, hwalk, h⟩]
  rw [read, hcontent, ok_bind]

theorem isDirectory_of_leadsTo (hplain : p.isPlain = true) (h : d.LeadsTo p place) :
  d.isDirectory p = .ok true
  := by
  rw [isDirectory, find?, hplain, if_pos rfl, find_eq_ok_iff.mpr ⟨place, h⟩]
  rfl

theorem isFile_of_walk {c : Content} (hplain : p.isPlain = true) (hwalk : d.walk p = .ok place)
    (h : d.HasFile place c) :
  d.isFile p = .ok true
  := by
  rw [isFile, find?, hplain, if_pos rfl, find_eq_ok_iff.mpr ⟨place, hwalk, h⟩]
  rfl

theorem size_of_walk {c : Content} (hplain : p.isPlain = true) (hwalk : d.walk p = .ok place)
    (h : d.HasFile place c) :
  d.size p = c.bytes.length
  := by
  rw [size, find?, hplain, if_pos rfl, find_eq_ok_iff.mpr ⟨place, hwalk, h⟩]

theorem exists_hasFile_of_isFile (h : d.isFile p = .ok true) :
  ∃ c, d.HasFile (d.resolve p) c
  := by
  obtain ⟨place, node, hwalk, hplace, hnode⟩ := exists_node_of_find? rfl h
  rw [resolve_of_walk hwalk]
  cases node with
  | directory => cases hnode
  | file c => exact ⟨c, hplace⟩

/-- Of a path that is too long it cannot be said whether it leads to a file. -/
theorem short_of_isFile {is : Bool} (hplain : p.isPlain = true) (h : d.isFile p = .ok is) :
  p.text.utf8ByteSize ≤ longestPath
  := by
  by_contra hlong
  have hfind : d.find p = .error .nameTooLong := by
    rw [find, walk, if_pos (Nat.lt_of_not_le hlong)]
    rfl
  rw [isFile, find?, hplain, if_pos rfl, hfind] at h
  cases h

/-- A file below a directory is found if it can be said whether it is there. -/
theorem eq_true_of_isFile_below {c : Content} {is : Bool} (hd : d.tree.Sound)
    (hwalk : d.walk p = .ok root) (hplain : (p.below rest).isPlain = true)
    (hfile : d.HasFile (root ++ rest) c) (h : d.isFile (p.below rest) = .ok is) :
  is = true
  := by
  have hshort := short_of_isFile hplain h
  rw [isFile_of_walk hplain (walk_below hd hwalk hfile hshort) hfile, Except.ok.injEq] at h
  exact h.symm

/-- A path below one that leads somewhere names a place below that. -/
theorem resolve_below (hwalk : d.walk p = .ok root) (hup : ".." ∉ rest) :
  d.resolve (p.below rest) = root ++ rest
  := by
  rw [← resolve_of_walk hwalk]
  apply FilePath.resolve_below hup

/-- What is read of a file below a directory is its text. -/
theorem textOf_of_read_below {c : Content} {s : String} (hd : d.tree.Sound)
    (hwalk : d.walk p = .ok root) (hfile : d.HasFile (root ++ rest) c)
    (h : d.read (p.below rest) = .ok s) :
  textOf c = .ok s
  := by
  have hup : ".." ∉ rest :=
    up_not_mem_of_isName fun n hn => hd.isName_of_get? hfile n (List.mem_append_right _ hn)
  obtain ⟨c', hc', htext⟩ := content_of_read h
  rw [resolve_below hwalk hup] at hc'
  rw [hfile.unique hc']
  apply htext

/-! ### What is below a path -/

theorem mem_below_iff (hd : d.tree.Sound) (hwalk : d.walk p = .ok root) :
  (rest, node) ∈ d.below p ↔ rest ≠ [] ∧ d.tree.get? (root ++ rest) = some node
  := by
  rw [below, hwalk]
  apply hd.mem_below_iff

theorem pairwise_lt_below (hd : d.tree.Sound) (p : FilePath) :
  (d.below p).Pairwise fun e f => e.1 < f.1
  := by
  rw [below]
  split
  · apply hd.pairwise_lt_below
  · apply List.Pairwise.nil

/-- Whatever is below a path has names that files can have. -/
theorem isName_of_mem_below (hd : d.tree.Sound) {e : Place × Node} (he : e ∈ d.below p) :
  e.1 ≠ [] ∧ ∀ n ∈ e.1, IsName n
  := by
  rw [below] at he
  split at he
  · obtain ⟨hne, hnode⟩ := hd.mem_below_iff.mp he
    exact ⟨hne, fun n hn => hd.isName_of_get? hnode n (List.mem_append_right _ hn)⟩
  · cases he

/-- Different places below a path have different texts. -/
theorem nodup_map_placeText (hd : d.tree.Sound) {places : List Place}
    (h : places.Sublist ((d.below p).map (·.1))) :
  (places.map placeText).Nodup
  := by
  have hbelow : ((d.below p).map (·.1)).Nodup := by
    rw [List.Nodup, List.pairwise_map]
    apply (pairwise_lt_below hd p).imp
    intro e f hlt
    apply ne_of_lt hlt
  have hnames : ∀ place ∈ places, place ≠ [] ∧ ∀ n ∈ place, IsName n := by
    intro place hplace
    obtain ⟨e, he, rfl⟩ := List.mem_map.mp (h.subset hplace)
    apply isName_of_mem_below hd he
  apply (h.nodup hbelow).map_on
  intro place hplace place' hplace' heq
  obtain ⟨hne, hname⟩ := hnames place hplace
  obtain ⟨hne', hname'⟩ := hnames place' hplace'
  apply placeText_injective hne hne' hname hname' heq

/-! ### Directories that stay -/

/-- From one disk to another, the directories at certain places stay. -/
structure Keeps (P : Place → Prop) (d d' : Disk) : Prop where
  directory_eq : d'.directory = d.directory
  kept : ∀ {place : Place}, P place → d.tree.get? place = some .directory →
    d'.tree.get? place = some .directory

namespace Keeps

variable {P : Place → Prop}

theorem refl (d : Disk) :
  Keeps P d d
  := ⟨rfl, fun _ => id⟩

theorem trans {d₁ d₂ d₃ : Disk} (h : Keeps P d₁ d₂) (h' : Keeps P d₂ d₃) :
  Keeps P d₁ d₃
  := by
  constructor
  · rw [h'.directory_eq, h.directory_eq]
  · intro place hplace hdirectory
    apply h'.kept hplace (h.kept hplace hdirectory)

theorem mono {Q : Place → Prop} {d' : Disk} (h : Keeps P d d') (hPQ : ∀ place, Q place → P place) :
  Keeps Q d d'
  := ⟨h.directory_eq, fun hplace => h.kept (hPQ _ hplace)⟩

variable {d' : Disk} (h : Keeps P d d')
    (hP : ∀ names, names <+: p.names → P (d.resolve ⟨p.root, names⟩))

include h hP

/-- A path leads where it led if the directories on the way stay. -/
theorem walk_eq_ok (hwalk : d.walk p = .ok place) :
  d'.walk p = .ok place
  := by
  have hfold : ∀ {names : List String} {here : Place},
      (∀ front, front <+: names → P (front.foldl FilePath.enter here)) →
      names.foldlM d.enter here = .ok place → names.foldlM d'.enter here = .ok place := by
    intro names
    induction names with
    | nil =>
        intro here _
        exact id
    | cons n names ih =>
        intro here hway hnames
        rw [List.foldlM_cons] at hnames ⊢
        obtain ⟨there, hthere, hnames⟩ := bind_eq_ok_iff.mp hnames
        obtain ⟨hdirectory, hshort, rfl⟩ := enter_eq_ok_iff.mp hthere
        have hstays : d'.tree.get? here = some .directory :=
          h.kept (hway [] List.nil_prefix) hdirectory
        rw [enter_eq_ok_iff.mpr ⟨hstays, hshort, rfl⟩, ok_bind]
        apply ih _ hnames
        intro front hfront
        apply hway (n :: front) (List.cons_prefix_cons.mpr ⟨rfl, hfront⟩)
  rw [walk_eq_ok_iff] at hwalk ⊢
  rw [h.directory_eq]
  exact ⟨hwalk.1, hfold hP hwalk.2⟩

theorem leadsTo (hleads : d.LeadsTo p place) :
  d'.LeadsTo p place
  := by
  have hplace := hP p.names (List.prefix_refl _)
  have hresolve : d.resolve ⟨p.root, p.names⟩ = place := resolve_of_walk hleads.1
  rw [hresolve] at hplace
  exact ⟨h.walk_eq_ok hP hleads.1, h.kept hplace hleads.2⟩

end Keeps

/-- Writing a text leaves all directories. -/
theorem keeps_of_write {P : Place → Prop} {s : String} {d' : Disk} (hwrite : d.write p s = .ok d') :
  Keeps P d d'
  := by
  obtain ⟨place, -, -, hplace, -, rfl⟩ := of_write_eq_ok hwrite
  constructor
  · rfl
  · intro q _ hdirectory
    have hq : q ≠ place := by
      rintro rfl
      exact hplace hdirectory
    rw [withTree, Tree.get?_insert_of_ne hq]
    apply hdirectory

/-! ### Directories that are made -/

/-- Nothing but directories is new on a disk, and nothing is gone. -/
structure Grown (d d' : Disk) : Prop where
  directory_eq : d'.directory = d.directory
  kept : ∀ {place : Place} {node : Node}, d.tree.get? place = some node →
    d'.tree.get? place = some node
  made : ∀ {place : Place} {node : Node}, d'.tree.get? place = some node →
    d.tree.get? place = some node ∨ node = .directory

namespace Grown

theorem refl (d : Disk) :
  Grown d d
  := ⟨rfl, id, Or.inl⟩

theorem trans {d₁ d₂ d₃ : Disk} (h : Grown d₁ d₂) (h' : Grown d₂ d₃) :
  Grown d₁ d₃
  := by
  constructor
  · rw [h'.directory_eq, h.directory_eq]
  · intro place node hnode
    apply h'.kept (h.kept hnode)
  · intro place node hnode
    rcases h'.made hnode with hnode | hdirectory
    · apply h.made hnode
    · exact Or.inr hdirectory

variable {d' : Disk} (h : Grown d d')

include h

/-- The files are the same. -/
theorem hasFile_iff {c : Content} :
  d'.HasFile place c ↔ d.HasFile place c
  := by
  constructor
  · intro hfile
    rcases h.made hfile with hfile | hdirectory
    · apply hfile
    · cases hdirectory
  · apply h.kept

theorem keeps (P : Place → Prop) :
  Keeps P d d'
  := ⟨h.directory_eq, fun _ => h.kept⟩

/-- A path leads where it led. -/
theorem walk_eq_ok (hwalk : d.walk p = .ok place) :
  d'.walk p = .ok place
  := (h.keeps fun _ => True).walk_eq_ok (fun _ _ => trivial) hwalk

end Grown

theorem grown_withTree_insert (hnone : d.tree.get? place = none) :
  Grown d (d.withTree (d.tree.insert place .directory))
  := by
  have hne : place ≠ [] := by
    rintro rfl
    cases hnone
  constructor
  · rfl
  · intro q node hnode
    have hq : q ≠ place := by
      rintro rfl
      rw [hnone] at hnode
      cases hnode
    rw [withTree, Tree.get?_insert_of_ne hq]
    apply hnode
  · intro q node hnode
    by_cases hq : q = place
    · rw [hq, withTree, Tree.get?_insert_self hne] at hnode
      injection hnode with hnode
      exact Or.inr hnode.symm
    · rw [withTree, Tree.get?_insert_of_ne hq] at hnode
      exact Or.inl hnode

/-! ### Files that change -/

/-- From one disk to another, files are made, changed and removed at certain places only. -/
structure ConfinedTo (P : Place → Prop) (d d' : Disk) : Prop where
  directory_eq : d'.directory = d.directory
  sound : d.Sound → d'.Sound
  hasFile_iff : ∀ {place : Place}, ¬ P place → ∀ c, d'.HasFile place c ↔ d.HasFile place c

namespace ConfinedTo

variable {P Q : Place → Prop}

theorem refl (d : Disk) :
  ConfinedTo P d d
  := ⟨rfl, id, fun _ _ => Iff.rfl⟩

theorem trans {d₁ d₂ d₃ : Disk} (h : ConfinedTo P d₁ d₂) (h' : ConfinedTo P d₂ d₃) :
  ConfinedTo P d₁ d₃
  := by
  constructor
  · rw [h'.directory_eq, h.directory_eq]
  · intro hd
    apply h'.sound (h.sound hd)
  · intro place hplace c
    rw [h'.hasFile_iff hplace, h.hasFile_iff hplace]

theorem mono {d' : Disk} (h : ConfinedTo P d d') (hPQ : ∀ place, P place → Q place) :
  ConfinedTo Q d d'
  := by
  constructor
  · apply h.directory_eq
  · apply h.sound
  · intro place hplace c
    apply h.hasFile_iff fun hP => hplace (hPQ place hP)

theorem resolve_eq {d' : Disk} (h : ConfinedTo P d d') (p : FilePath) :
  d'.resolve p = d.resolve p
  := by
  rw [resolve, resolve, h.directory_eq]

end ConfinedTo

theorem confinedTo_of_makeOne {P : Place → Prop} {d' : Disk} (hp : p.Proper)
    (hplain : p.isPlain = true) (hmake : d.makeOne p = .ok d') :
  ConfinedTo P d d'
  := by
  obtain ⟨place, -, -, hnone, -, rfl⟩ := of_makeOne_eq_ok hmake
  constructor
  · rfl
  · intro hd
    apply hd.of_makeOne hp hplain hmake
  · intro q _ c
    apply (grown_withTree_insert hnone).hasFile_iff

/-- Writing changes the file at the place that the path names. -/
theorem confinedTo_of_write {s : String} {d' : Disk} (hp : p.Proper) (hplain : p.isPlain = true)
    (hwrite : d.write p s = .ok d') :
  ConfinedTo (· = d.resolve p) d d'
  := by
  constructor
  · obtain ⟨place, -, -, -, -, rfl⟩ := of_write_eq_ok hwrite
    rfl
  · intro hd
    apply hd.of_write hp hplain hwrite
  · intro q hq c
    obtain ⟨place, hwalk, -, -, -, rfl⟩ := of_write_eq_ok hwrite
    rw [resolve_of_walk hwalk] at hq
    rw [HasFile, HasFile, withTree, Tree.get?_insert_of_ne hq]

/-! ### Directories that are removed -/

theorem removeDirectory_cases (d : Disk) (p : FilePath) :
  d.removeDirectory p = d ∨
    ∃ place, d.walk p = .ok place ∧ d.tree.get? place = some .directory ∧
      d.removeDirectory p = d.withTree (d.tree.erase place)
  := by
  rw [removeDirectory]
  split
  · rename_i place hwalk
    split
    · rename_i hdirectory
      exact Or.inr ⟨place, hwalk, hdirectory, rfl⟩
    · exact Or.inl rfl
  · exact Or.inl rfl

/-- Removing a directory changes files below it only. -/
theorem confinedTo_removeDirectory (hp : d.resolve p ≠ []) :
  ConfinedTo (fun q => ∃ rest, rest ≠ [] ∧ q = d.resolve p ++ rest) d (d.removeDirectory p)
  := by
  rcases removeDirectory_cases d p with heq | ⟨place, hwalk, hdirectory, heq⟩
  · rw [heq]
    apply ConfinedTo.refl
  · rw [resolve_of_walk hwalk] at hp ⊢
    rw [heq]
    constructor
    · rfl
    · intro hd
      exact ⟨hd.tree.erase place, hd.directory⟩
    · intro q hq c
      by_cases hbelow : place <+: q
      · obtain ⟨rest, rfl⟩ := hbelow
        by_cases hrest : rest = []
        · rw [hrest, List.append_nil, HasFile, HasFile, hdirectory, withTree,
            Tree.get?_erase_below hp (List.prefix_refl _)]
          simp
        · exact absurd ⟨rest, hrest, rfl⟩ hq
      · rw [HasFile, HasFile, withTree, Tree.get?_erase_elsewhere hbelow]

/-- Removing a directory leaves those that are not below it. -/
theorem keeps_removeDirectory (d : Disk) (p : FilePath) :
  Keeps (fun q => ¬ d.resolve p <+: q) d (d.removeDirectory p)
  := by
  rcases removeDirectory_cases d p with heq | ⟨place, hwalk, -, heq⟩
  · rw [heq]
    apply Keeps.refl
  · rw [resolve_of_walk hwalk, heq]
    constructor
    · rfl
    · intro q hq hdirectory
      rw [withTree, Tree.get?_erase_elsewhere hq]
      apply hdirectory

/-- Removing a directory puts nothing on a disk. -/
theorem get?_of_removeDirectory (h : (d.removeDirectory p).tree.get? place = some node) :
  d.tree.get? place = some node
  := by
  rcases removeDirectory_cases d p with heq | ⟨q, hwalk, -, heq⟩
  · rw [heq] at h
    apply h
  · rw [heq] at h
    apply Tree.get?_of_get?_erase h

/-- A directory is gone with everything below it once it was removed. -/
theorem get?_removeDirectory_below {q : Place} (hd : d.tree.Sound)
    (hshort : (FilePath.ofPlace place).text.utf8ByteSize ≤ longestPath)
    (hdirectory : d.tree.get? place = some .directory) (hq : q ≠ []) (hbelow : place <+: q) :
  (d.removeDirectory (.ofPlace place)).tree.get? q = none
  := by
  have hremoved : d.removeDirectory (.ofPlace place) = d.withTree (d.tree.erase place) := by
    rw [removeDirectory, walk_ofPlace hd hdirectory hshort]
    simp only [hdirectory]
  rw [hremoved, withTree, Tree.get?_erase_below hq hbelow]

end Disk

end AgentBundles
