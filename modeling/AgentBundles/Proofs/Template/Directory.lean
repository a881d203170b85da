import AgentBundles.Proofs.Source.Skills
import AgentBundles.Template.Source

/-!
# Templates that are listed

The templates in a directory are listed under the paths of their files without the ending, and asked
for with it. The two go together for every file whose name has something before the ending. A file
whose name is the ending alone is listed under its whole name, which stands for another file.
-/

namespace AgentBundles

/-! ### Names without the ending -/

/-- Before an ending that is an extension there is the stem of the name. -/
theorem stem_append_ending {name : String} (h : name ≠ "") :
  stem (name ++ TemplateDirectory.ending) = name
  := by
  have hafter : (name ++ TemplateDirectory.ending).toList.reverse.takeWhile (· != '.')
      = ['d', 'm'] := by
    rw [String.toList_append, List.reverse_append]
    rfl
  have hlength : (name ++ TemplateDirectory.ending).toList.length = name.toList.length + 3 := by
    rw [String.toList_append, List.length_append]
    rfl
  have hpos : 0 < name.toList.length := by
    rw [List.length_pos_iff]
    exact mt String.toList_eq_nil_iff.mp h
  have hdot : ¬ (['d', 'm'].isEmpty || decide (name.toList.length + 3 - 2 ≤ 1)) = true := by
    simp only [List.isEmpty_cons, Bool.false_or, decide_eq_true_eq]
    omega
  have hextension : extension (name ++ TemplateDirectory.ending) = TemplateDirectory.ending := by
    have hstart : name.toList.length + 3 - ['d', 'm'].length - 1 = name.length := by
      rw [String.length_toList]
      rfl
    rw [extension, hafter, hlength]
    apply (if_neg hdot).trans
    rw [hstart, Text.dropStart_append]
  rw [stem, hextension]
  apply Text.dropEnd_append

namespace TemplateDirectory

variable {t : TemplateDirectory} {d : Disk} {base rest front : Place} {c : Content} {name : String}

/-! ### Files of templates -/

/-- A file below the directory whose name has the ending. -/
def IsTemplate (d : Disk) (base rest : Place) (c : Content) : Prop :=
  d.HasFile (base ++ rest) c ∧ ∃ front name, rest = front ++ [name ++ ending]

/-- The identifier under which the file at a place is listed. -/
def listedAs (rest : Place) : String := placeText (rest.dropLast ++ [stem (rest.getLastD "")])

/-- The place of the file that is asked for under the identifier of the file at a place. -/
def target (rest : Place) : Place := rest.dropLast ++ [stem (rest.getLastD "") ++ ending]

/-- The identifier and the ending make the path of the file that is asked for. -/
theorem listedAs_append_ending (rest : Place) :
  listedAs rest ++ ending = placeText (target rest)
  := by
  rw [listedAs, target, placeText_eq_join (List.concat_ne_nil _ _),
    placeText_eq_join (List.concat_ne_nil _ _), Text.join_concat_append]

/-- A file with something before the ending of its name is the one that is asked for. -/
theorem target_of_ne_empty (h : name ≠ "") :
  target (front ++ [name ++ ending]) = front ++ [name ++ ending]
  := by
  rw [target, List.dropLast_concat, List.getLastD_concat, stem_append_ending h]

/-- A name that is the ending alone is taken for what stands before the ending of another name. -/
theorem target_ending (front : Place) :
  target (front ++ [ending]) = front ++ [ending ++ ending]
  := by
  have hstem : stem ending = ending := by rfl
  rw [target, List.dropLast_concat, List.getLastD_concat, hstem]

namespace IsTemplate

/-- A template has something before the ending of its name, or its name is the ending alone. -/
theorem named_or_ending (h : IsTemplate d base rest c) :
  (∃ front name, name ≠ "" ∧ rest = front ++ [name ++ ending]) ∨ ∃ front, rest = front ++ [ending]
  := by
  obtain ⟨-, front, name, rfl⟩ := h
  by_cases hname : name = ""
  · rw [hname]
    exact Or.inr ⟨front, rfl⟩
  · exact Or.inl ⟨front, name, hname, rfl⟩

/-- No file is asked for whose name is the ending alone. -/
theorem getLast?_target_ne (h : IsTemplate d base rest c) :
  (target rest).getLast? ≠ some ending
  := by
  rcases h.named_or_ending with ⟨front, name, hname, rfl⟩ | ⟨front, rfl⟩
  · rw [target_of_ne_empty hname, List.getLast?_concat]
    intro heq
    have heq := Option.some.inj heq
    apply hname (String.append_eq_right_iff.mp heq)
  · rw [target_ending, List.getLast?_concat]
    decide

theorem target_eq_iff (h : IsTemplate d base rest c) :
  target rest = rest ↔ rest.getLast? ≠ some ending
  := by
  constructor
  · intro heq
    rw [← heq]
    apply h.getLast?_target_ne
  · intro hlast
    rcases h.named_or_ending with ⟨front, name, hname, rfl⟩ | ⟨front, rfl⟩
    · apply target_of_ne_empty hname
    · apply absurd _ hlast
      apply List.getLast?_concat

theorem isName (h : IsTemplate d base rest c) (hd : d.tree.Sound) :
  ∀ n ∈ rest, IsName n
  := fun n hn => hd.isName_of_get? h.1 n (List.mem_append_right _ hn)

theorem isName_target (h : IsTemplate d base rest c) (hd : d.tree.Sound) :
  ∀ n ∈ target rest, IsName n
  := by
  rcases h.named_or_ending with ⟨front, name, hname, rfl⟩ | ⟨front, rfl⟩
  · rw [target_of_ne_empty hname]
    apply h.isName hd
  · obtain ⟨hfront, -⟩ := List.forall_mem_append.mp (h.isName hd)
    rw [target_ending, List.forall_mem_append, List.forall_mem_singleton]
    exact ⟨hfront, by decide⟩

/-- Files are listed under one identifier exactly if the same file is asked for. -/
theorem listedAs_eq_iff {rest' : Place} {c' : Content} (h : IsTemplate d base rest c)
    (h' : IsTemplate d base rest' c') (hd : d.tree.Sound) :
  listedAs rest = listedAs rest' ↔ target rest = target rest'
  := by
  have happend : listedAs rest = listedAs rest'
      ↔ placeText (target rest) = placeText (target rest') := by
    rw [← listedAs_append_ending, ← listedAs_append_ending, String.append_left_inj]
  rw [happend]
  constructor
  · apply placeText_injective (List.concat_ne_nil _ _) (List.concat_ne_nil _ _) (h.isName_target hd)
      (h'.isName_target hd)
  · apply congrArg

/-- The path of the identifier is that of the file that is asked for. -/
theorem pathOf_listedAs (h : IsTemplate d base rest c) (hd : d.tree.Sound) (t : TemplateDirectory) :
  t.pathOf (listedAs rest) = t.root.below (target rest)
  := by
  have hne : target rest ≠ [] := List.concat_ne_nil _ _
  have hnames := h.isName_target hd
  rw [pathOf, listedAs_append_ending, (isNormal_placeText hne hnames).child_eq,
    segments_placeText hne hnames]

end IsTemplate

/-! ### What is found under an identifier -/

/-- What is found is the text of a file below the directory that is no larger than it may be. -/
theorem get_eq_ok_iff {id s : String} :
  t.get d id = .ok s
    ↔ (t.pathOf id).isPlain = true ∧ (∃ rest, d.resolve (t.pathOf id) = d.resolve t.root ++ rest) ∧
      d.isFile (.ofPlace (d.resolve (t.pathOf id))) = .ok true ∧
      (d.size (.ofPlace (d.resolve (t.pathOf id))) : Int) ≤ t.limit ∧
      d.read (.ofPlace (d.resolve (t.pathOf id))) = .ok s
  := by
  have hinside : (∃ rest, d.resolve (t.pathOf id) = d.resolve t.root ++ rest)
      ↔ (relative? (d.resolve t.root) (d.resolve (t.pathOf id))).isNone = false := by
    simp only [← relative?_eq_some_iff, Option.isNone_eq_false_iff, Option.isSome_iff_exists]
  rw [hinside, get]
  constructor
  · intro h
    split at h
    · cases h
    · rename_i hplain
      dsimp only at h
      split at h
      · cases h
      · rename_i hbelow
        obtain ⟨is, his, h⟩ := bind_eq_ok_iff.mp h
        split at h
        · cases h
        · rename_i hfile
          split at h
          · cases h
          · rename_i hlimit
            rw [Bool.not_eq_true, Bool.not_eq_false'] at hplain hfile
            rw [hfile] at his
            exact ⟨hplain, eq_false_of_ne_true hbelow, mapError_eq_ok_iff.mp his, not_lt.mp hlimit,
              mapError_eq_ok_iff.mp h⟩
  · rintro ⟨hplain, hbelow, hfile, hlimit, hread⟩
    rw [hplain, Bool.not_true, if_neg Bool.false_ne_true]
    dsimp only
    rw [hbelow, if_neg Bool.false_ne_true, hfile, Except.mapError, ok_bind, Bool.not_true,
      if_neg Bool.false_ne_true, if_neg (not_lt.mpr hlimit), hread, Except.mapError]

/-! ### The list of the identifiers -/

/-- The places of the files with the ending, in the order of all that is below the directory. -/
def places (t : TemplateDirectory) (d : Disk) : List Place :=
  (d.below t.root).filterMap fun e =>
    match e.2 with
    | .directory => none
    | .file _ => if Text.endsWith (e.1.getLastD "") ending then some e.1 else none

theorem identifiers_eq (t : TemplateDirectory) (d : Disk) :
  t.identifiers d = Text.sort ((t.places d).map listedAs)
  := by
  rw [identifiers, places, List.map_filterMap]
  congr 2
  funext e
  cases e.2 with
  | directory => rfl
  | file c =>
      dsimp only
      split
      · rfl
      · rfl

theorem identifiers_perm (t : TemplateDirectory) (d : Disk) :
  (t.identifiers d).Perm ((t.places d).map listedAs)
  := by
  rw [identifiers_eq]
  apply List.mergeSort_perm

/-- A directory of templates on a sound disk. -/
structure Opens (t : TemplateDirectory) (d : Disk) (base : Place) : Prop where
  sound : d.tree.Sound
  isPlain : t.root.isPlain = true
  leadsTo : d.LeadsTo t.root base

theorem exists_opens {root : FilePath} {limit : Int} (hd : d.Sound)
    (h : read d root limit = .ok t) :
  t.root = root ∧ t.limit = limit ∧ ∃ base, t.Opens d base
  := by
  obtain ⟨⟨⟩, hrequire, rfl⟩ := map_eq_ok_iff.mp h
  have his := Disk.requireDirectory_eq_ok_iff.mp hrequire
  obtain ⟨base, hbase⟩ := Disk.leadsTo_of_isDirectory his
  exact ⟨rfl, rfl, base, hd.tree, Disk.isPlain_of_isDirectory his, hbase⟩

namespace Opens

variable (h : t.Opens d base)

include h

theorem mem_places_iff :
  rest ∈ t.places d ↔ ∃ c, IsTemplate d base rest c
  := by
  rw [places, List.mem_filterMap]
  constructor
  · rintro ⟨⟨place, node⟩, hmem, heq⟩
    obtain ⟨hne, hnode⟩ := (Disk.mem_below_iff h.sound h.leadsTo.1).mp hmem
    cases node with
    | directory => cases heq
    | file c =>
        dsimp only at heq
        split at heq
        · rename_i hending
          cases heq
          obtain ⟨name, hname⟩ := Text.endsWith_eq_true_iff.mp hending
          refine ⟨c, hnode, rest.dropLast, name, ?_⟩
          rw [← hname, List.getLastD_eq_getLast?, List.getLast?_eq_some_getLast hne]
          exact (List.dropLast_append_getLast hne).symm
        · cases heq
  · rintro ⟨c, hfile, front, name, rfl⟩
    refine ⟨(front ++ [name ++ ending], .file c),
      (Disk.mem_below_iff h.sound h.leadsTo.1).mpr ⟨?_, hfile⟩, ?_⟩
    · apply List.concat_ne_nil
    · simp [Text.endsWith_append]

theorem nodup_places :
  (t.places d).Nodup
  := by
  have hsublist : (t.places d).Sublist ((d.below t.root).map (·.1)) := by
    apply SourceTree.filterMap_sublist_map
    intro e place hkept
    split at hkept
    · cases hkept
    · split at hkept
      · exact (Option.some.inj hkept).symm
      · cases hkept
  apply hsublist.nodup
  rw [List.Nodup, List.pairwise_map]
  apply (Disk.pairwise_lt_below h.sound t.root).imp
  intro e f hlt
  apply ne_of_lt hlt

theorem mem_identifiers_iff {id : String} :
  id ∈ t.identifiers d ↔ ∃ rest c, IsTemplate d base rest c ∧ listedAs rest = id
  := by
  rw [(identifiers_perm t d).mem_iff, List.mem_map]
  simp only [h.mem_places_iff, exists_and_right]

theorem resolve_listedAs (htemplate : IsTemplate d base rest c) :
  d.resolve (t.pathOf (listedAs rest)) = base ++ target rest
  := by
  have hnames := htemplate.isName_target h.sound
  rw [htemplate.pathOf_listedAs h.sound, Disk.resolve,
    FilePath.resolve_below (up_not_mem_of_isName hnames)]
  congr 1
  apply Disk.resolve_of_walk h.leadsTo.1

/-- What is found under an identifier has a path that is not too long. -/
theorem short_of_get {id s : String} (hresolve : d.resolve (t.pathOf id) = base ++ rest)
    (hfile : d.HasFile (base ++ rest) c) (hget : t.get d id = .ok s) :
  (FilePath.ofPlace (base ++ rest)).text.utf8ByteSize ≤ longestPath
  := by
  obtain ⟨-, -, his, -⟩ := get_eq_ok_iff.mp hget
  rw [hresolve] at his
  apply Disk.short_of_isFile _ his
  apply FilePath.isPlain_ofPlace (h.sound.isName_of_get? hfile)

/-- A template with something before the ending of its name is found under its identifier. -/
theorem get_listedAs {s : String} (htemplate : IsTemplate d base rest c)
    (hlast : rest.getLast? ≠ some ending) (htext : Disk.textOf c = .ok s)
    (hlimit : (c.bytes.length : Int) ≤ t.limit)
    (hshort : (FilePath.ofPlace (base ++ rest)).text.utf8ByteSize ≤ longestPath) :
  t.get d (listedAs rest) = .ok s
  := by
  have hplace := FilePath.isPlain_ofPlace (h.sound.isName_of_get? htemplate.1)
  have hwalk := Disk.walk_ofPlace h.sound htemplate.1 hshort
  have hresolve : d.resolve (t.pathOf (listedAs rest)) = base ++ rest := by
    rw [h.resolve_listedAs htemplate, htemplate.target_eq_iff.mpr hlast]
  rw [get_eq_ok_iff, hresolve, Disk.resolve_of_walk h.leadsTo.1,
    Disk.size_of_walk hplace hwalk htemplate.1, Disk.read_of_walk hplace hwalk htemplate.1]
  refine ⟨?_, ⟨rest, rfl⟩, Disk.isFile_of_walk hplace hwalk htemplate.1, hlimit, htext⟩
  rw [htemplate.pathOf_listedAs h.sound]
  apply FilePath.isPlain_below h.isPlain (htemplate.isName_target h.sound)

/-- One identifier of the list leads to a template, unless the name of the template is the ending
alone. -/
theorem existsUnique_iff (htemplate : IsTemplate d base rest c) :
  (∃! id, id ∈ t.identifiers d ∧ d.resolve (t.pathOf id) = base ++ rest)
    ↔ rest.getLast? ≠ some ending
  := by
  constructor
  · rintro ⟨id, ⟨hid, hresolve⟩, -⟩
    obtain ⟨rest', c', htemplate', rfl⟩ := h.mem_identifiers_iff.mp hid
    rw [h.resolve_listedAs htemplate'] at hresolve
    rw [← List.append_cancel_left hresolve]
    apply htemplate'.getLast?_target_ne
  · intro hlast
    have htarget := htemplate.target_eq_iff.mpr hlast
    refine ⟨listedAs rest, ⟨h.mem_identifiers_iff.mpr ⟨rest, c, htemplate, rfl⟩, ?_⟩, ?_⟩
    · rw [h.resolve_listedAs htemplate, htarget]
    · rintro id ⟨hid, hresolve⟩
      obtain ⟨rest', c', htemplate', rfl⟩ := h.mem_identifiers_iff.mp hid
      rw [h.resolve_listedAs htemplate'] at hresolve
      rw [htemplate'.listedAs_eq_iff htemplate h.sound, List.append_cancel_left hresolve, htarget]

/-- An identifier is listed twice if the ending alone is a name beside the ending with the
ending. -/
theorem nodup_identifiers_iff :
  (t.identifiers d).Nodup
    ↔ ∀ front c c', IsTemplate d base (front ++ [ending]) c →
    ¬ IsTemplate d base (front ++ [ending ++ ending]) c'
  := by
  rw [(identifiers_perm t d).nodup_iff, List.nodup_map_iff_inj_on h.nodup_places]
  simp only [h.mem_places_iff]
  constructor
  · intro hinj front c c' htemplate htemplate'
    have htarget : target (front ++ [ending]) = target (front ++ [ending ++ ending]) := by
      rw [target_ending, target_of_ne_empty (by decide)]
    have heq := hinj _ ⟨c, htemplate⟩ _ ⟨c', htemplate'⟩
      ((htemplate.listedAs_eq_iff htemplate' h.sound).mpr htarget)
    have hname : ending = ending ++ ending := List.singleton_inj.mp (List.append_cancel_left heq)
    revert hname
    decide
  · -- Two files have one target only if it is one of them, and the name of the other is the ending
    -- alone.
    rintro hapart rest ⟨c, htemplate⟩ rest' ⟨c', htemplate'⟩ heq
    rw [htemplate.listedAs_eq_iff htemplate' h.sound] at heq
    rcases htemplate.named_or_ending with ⟨front, name, hname, rfl⟩ | ⟨front, rfl⟩
    · rw [target_of_ne_empty hname] at heq
      rcases htemplate'.named_or_ending with ⟨front', name', hname', rfl⟩ | ⟨front', rfl⟩
      · rw [heq, target_of_ne_empty hname']
      · rw [target_ending] at heq
        rw [heq] at htemplate
        exact absurd htemplate (hapart front' c' c htemplate')
    · rw [target_ending] at heq
      rcases htemplate'.named_or_ending with ⟨front', name', hname', rfl⟩ | ⟨front', rfl⟩
      · rw [target_of_ne_empty hname'] at heq
        rw [← heq] at htemplate'
        exact absurd htemplate' (hapart front c c' htemplate)
      · rw [target_ending] at heq
        rw [(List.append_inj' heq rfl).1]

end Opens

/-! ### Listed and found -/

/-- All templates below a directory are texts and as large as they may be. -/
def Readable (t : TemplateDirectory) (d : Disk) (base : Place) : Prop :=
  ∀ rest c, IsTemplate d base rest c → (∃ s, Disk.textOf c = .ok s) ∧
    (c.bytes.length : Int) ≤ t.limit

/-- What is listed is what can be had: no identifier is listed twice, each gives the text of the
file for which it is listed, and each template is reached by one of them. -/
structure Faithful (t : TemplateDirectory) (d : Disk) (base : Place) : Prop where
  nodup : (t.identifiers d).Nodup
  gets : ∀ rest c, IsTemplate d base rest c → ∃ s, Disk.textOf c = .ok s ∧
    t.get d (listedAs rest) = .ok s
  reached : ∀ rest c, IsTemplate d base rest c → ∃! id, id ∈ t.identifiers d ∧
    d.resolve (t.pathOf id) = base ++ rest

/-- The list of a directory, and what is found under its identifiers. -/
structure Listing (t : TemplateDirectory) (d : Disk) (base : Place) : Prop where
  mem_iff : ∀ id, id ∈ t.identifiers d ↔ ∃ rest c, IsTemplate d base rest c ∧ listedAs rest = id
  nodup_iff : (t.identifiers d).Nodup
    ↔ ∀ front c c', IsTemplate d base (front ++ [ending]) c →
    ¬ IsTemplate d base (front ++ [ending ++ ending]) c'
  gets : ∀ rest c s, IsTemplate d base rest c → rest.getLast? ≠ some ending →
    Disk.textOf c = .ok s → (c.bytes.length : Int) ≤ t.limit →
    (FilePath.ofPlace (base ++ rest)).text.utf8ByteSize ≤ longestPath →
      t.get d (listedAs rest) = .ok s
  reached_iff : ∀ rest c, IsTemplate d base rest c →
    ((∃! id, id ∈ t.identifiers d ∧ d.resolve (t.pathOf id) = base ++ rest)
      ↔ rest.getLast? ≠ some ending)
  faithful_iff : t.Readable d base → (t.Faithful d base ↔ ∀ rest c, IsTemplate d base rest c →
    rest.getLast? ≠ some ending ∧ (FilePath.ofPlace (base ++ rest)).text.utf8ByteSize ≤ longestPath)

theorem Opens.faithful_iff (h : t.Opens d base) (hreadable : t.Readable d base) :
  t.Faithful d base ↔ ∀ rest c, IsTemplate d base rest c →
    rest.getLast? ≠ some ending ∧ (FilePath.ofPlace (base ++ rest)).text.utf8ByteSize ≤ longestPath
  := by
  constructor
  · intro hfaithful rest c htemplate
    have hlast := (h.existsUnique_iff htemplate).mp (hfaithful.reached rest c htemplate)
    have hresolve : d.resolve (t.pathOf (listedAs rest)) = base ++ rest := by
      rw [h.resolve_listedAs htemplate, htemplate.target_eq_iff.mpr hlast]
    obtain ⟨s, -, hget⟩ := hfaithful.gets rest c htemplate
    exact ⟨hlast, h.short_of_get hresolve htemplate.1 hget⟩
  · intro hnamed
    constructor
    · rw [h.nodup_identifiers_iff]
      intro front c c' htemplate
      apply absurd _ (hnamed _ c htemplate).1
      apply List.getLast?_concat
    · intro rest c htemplate
      obtain ⟨hlast, hshort⟩ := hnamed rest c htemplate
      obtain ⟨⟨s, hs⟩, hlimit⟩ := hreadable rest c htemplate
      exact ⟨s, hs, h.get_listedAs htemplate hlast hs hlimit hshort⟩
    · intro rest c htemplate
      rw [h.existsUnique_iff htemplate]
      exact (hnamed rest c htemplate).1

/-- Every template that is listed can be had under its identifier, and every template is reached by
one identifier, exactly if no name is the ending alone and no path is too long. -/
theorem listed_templates_open {root : FilePath} {limit : Int} (hd : d.Sound)
    (h : read d root limit = .ok t) :
  ∃ base, d.LeadsTo root base ∧ t.Listing d base
  := by
  obtain ⟨rfl, -, base, hopens⟩ := exists_opens hd h
  use base, hopens.leadsTo
  constructor
  · intro id
    apply hopens.mem_identifiers_iff
  · apply hopens.nodup_identifiers_iff
  · intro rest c s
    apply hopens.get_listedAs
  · intro rest c
    apply hopens.existsUnique_iff
  · apply hopens.faithful_iff

/-! ### Dotted names -/

/-- Templates with dots in their names, one of them with nothing but a dot before the ending. -/
def dottedDisk : Disk := ⟨⟨[
  (["templates"], .directory),
  (["templates", "a.b.md"], .file (.text "Dotted.")),
  (["templates", "agent.md"], .file (.text "Body.")),
  (["templates", "agent.txt"], .file (.text "Notes.")),
  (["templates", "partials"], .directory),
  (["templates", "partials", "..md"], .file (.text "Hidden."))]⟩, []⟩

/-- The directory of the templates with dots. -/
def dottedTemplates : TemplateDirectory := ⟨⟨"", ["templates"]⟩, 100⟩

theorem of_isTemplate_dottedDisk (h : IsTemplate dottedDisk ["templates"] rest c) :
  ((∃ s, Disk.textOf c = .ok s) ∧ (c.bytes.length : Int) ≤ dottedTemplates.limit) ∧
    rest.getLast? ≠ some ending ∧
    (FilePath.ofPlace (["templates"] ++ rest)).text.utf8ByteSize ≤ longestPath
  := by
  have hmem := Tree.mem_entries_of_get? (List.cons_ne_nil _ _) h.1
  simp only [dottedDisk, List.mem_cons, Prod.mk.injEq, List.cons.injEq, true_and, reduceCtorEq,
    and_false, Node.file.injEq, List.not_mem_nil, false_or, or_false] at hmem
  rcases hmem with ⟨rfl, rfl⟩ | ⟨rfl, rfl⟩ | ⟨rfl, rfl⟩ | ⟨rfl, rfl⟩
  all_goals exact ⟨⟨⟨_, rfl⟩, by decide⟩, by decide, by decide⟩

theorem listed_templates_open_dottedDisk :
  ∃ base, dottedDisk.Sound ∧ read dottedDisk dottedTemplates.root 100 = .ok dottedTemplates ∧
    dottedTemplates.Faithful dottedDisk base ∧ dottedTemplates.identifiers dottedDisk
      = ["a.b", "agent", "partials/."]
  := by
  have hd : dottedDisk.Sound := by decide +kernel
  have hread : read dottedDisk dottedTemplates.root 100 = .ok dottedTemplates := by rfl
  have hwalk : dottedDisk.walk dottedTemplates.root = .ok ["templates"] := by rfl
  obtain ⟨base, hleads, hlisting⟩ := listed_templates_open hd hread
  obtain rfl : ["templates"] = base := by
    have hwalk' := hleads.1
    rw [hwalk] at hwalk'
    exact Except.ok.inj hwalk'
  refine ⟨_, hd, hread, (hlisting.faithful_iff ?_).mpr ?_, ?_⟩
  · intro rest c htemplate
    exact (of_isTemplate_dottedDisk htemplate).1
  · intro rest c htemplate
    exact (of_isTemplate_dottedDisk htemplate).2
  · have hbelow : dottedDisk.below dottedTemplates.root
        = dottedDisk.tree.entries.tail.map fun e => (e.1.drop 1, e.2) := by
      rw [Disk.below, hwalk]
      exact List.mergeSort_of_pairwise (by decide +kernel)
    rw [identifiers, hbelow]
    exact List.mergeSort_of_pairwise (by decide +kernel)

/-! ### A name that is the ending alone -/

/-- A template whose name is the ending alone. -/
def bareDisk : Disk := ⟨⟨[
  (["templates"], .directory),
  (["templates", ".md"], .file (.text "Body."))]⟩, []⟩

/-- The one identifier that is listed is that of no template. -/
theorem missing_of_bareDisk :
  bareDisk.Sound ∧ read bareDisk dottedTemplates.root 100 = .ok dottedTemplates ∧
    dottedTemplates.identifiers bareDisk = [".md"] ∧
      dottedTemplates.get bareDisk ".md" = .error (.missing ".md")
  := by
  have hwalk : bareDisk.walk dottedTemplates.root = .ok ["templates"] := by rfl
  have hbelow : bareDisk.below dottedTemplates.root = [([".md"], .file (.text "Body."))] := by
    rw [Disk.below, hwalk]
    exact List.mergeSort_of_pairwise (by decide +kernel)
  refine ⟨by decide +kernel, by rfl, ?_, by rfl⟩
  rw [identifiers, hbelow]
  exact List.mergeSort_of_pairwise (by decide +kernel)

end TemplateDirectory

end AgentBundles
