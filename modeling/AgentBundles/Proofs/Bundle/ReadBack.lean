import AgentBundles.Proofs.Bundle.Stored
import AgentBundles.Proofs.Json.Characters
import AgentBundles.Proofs.Record.Fits
import AgentBundles.Proofs.Validation.Passing

/-!
# Bundles that are read back

What a bundle holds that is read from a directory: the texts of all files below it, with line feeds
for all line ends. If a bundle was written there, these are its own texts, and files that were in
none of the directories that belong to the compiler.
-/

namespace AgentBundles

/-! ### Line ends -/

/-- Characters without carriage returns are as they are read. -/
theorem unifyBreaks_of_not_mem {cs : List Char} (h : '\r' ∉ cs) :
  unifyBreaks cs = cs
  := by
  fun_induction unifyBreaks cs with
  | case1 => rfl
  | case2 cs ih => exact absurd List.mem_cons_self h
  | case3 cs _ ih => exact absurd List.mem_cons_self h
  | case4 c cs _ _ ih => rw [ih fun hmem => h (List.mem_cons_of_mem _ hmem)]

/-- What comes before a text without carriage returns at its end is as it is read. -/
theorem unifyBreaks_append {cs : List Char} (h : '\r' ∉ cs) (ds : List Char) :
  unifyBreaks (cs ++ ds) = cs ++ unifyBreaks ds
  := by
  induction cs with
  | nil => rfl
  | cons c cs ih =>
      rw [List.mem_cons, not_or] at h
      rw [List.cons_append, unifyBreaks, ih h.2]
      · rfl
      · rintro cs' rfl
        exact absurd rfl h.1
      · rintro rfl
        exact absurd rfl h.1

/-- The text that is read where a text was written. -/
def unified (s : String) : String := String.ofList (unifyBreaks s.toList)

theorem unified_of_not_mem {s : String} (h : '\r' ∉ s.toList) :
  unified s = s
  := by
  rw [unified, unifyBreaks_of_not_mem h, String.ofList_toList]

namespace Disk

theorem textOf_text (s : String) :
  textOf (.text s) = .ok (unified s)
  := rfl

/-- A path leads to a directory, and no path from there to a file is too long. -/
structure Reaches (d : Disk) (p : FilePath) : Prop where
  leadsTo : d.LeadsTo p (d.resolve p)
  short : ∀ {rest : Place} {c : Content}, d.HasFile (d.resolve p ++ rest) c →
    (p.below rest).text.utf8ByteSize ≤ longestPath

end Disk

/-! ### Files below a directory -/

namespace Bundle

open Disk

variable {d : Disk} {p : FilePath} {root : Place} {files : Table String}

/-- What is read where there is something below a directory: a file with its path, or nothing. -/
def readEntry (d : Disk) (p : FilePath) (e : Place × Node) :
    Except FileFault (Option (String × String)) :=
  match e.2 with
  | .directory => .ok none
  | .file _ => (d.read (p.below e.1)).map fun s => some (placeText e.1, s)

theorem filesBelow_eq_ok_iff :
  filesBelow d p = .ok files ↔ ∃ found, (d.below p).mapM (readEntry d p) = .ok found ∧
    found.filterMap id = files
  := by
  have hbind : filesBelow d p = (d.below p).mapM (readEntry d p) >>=
      fun found => .ok (found.filterMap id) := rfl
  rw [hbind, bind_eq_ok_iff]
  simp only [Except.ok.injEq]

theorem readEntry_eq_some_iff {e : Place × Node} {f : String × String} :
  readEntry d p e = .ok (some f)
    ↔ (∃ c, e.2 = .file c) ∧ placeText e.1 = f.1 ∧ d.read (p.below e.1) = .ok f.2
  := by
  rw [readEntry]
  cases e.2 with
  | directory => simp
  | file c =>
      cases d.read (p.below e.1) with
      | ok s => simp [Except.map, Prod.ext_iff]
      | error f => simp [Except.map]

/-- The files that are read below a directory are those that are there. -/
theorem mem_filesBelow_iff (hd : d.tree.Sound) (hwalk : d.walk p = .ok root)
    (h : filesBelow d p = .ok files) {f : String × String} :
  f ∈ files ↔ ∃ rest c, rest ≠ [] ∧ placeText rest = f.1 ∧ d.HasFile (root ++ rest) c ∧
    textOf c = .ok f.2
  := by
  obtain ⟨found, hfound, rfl⟩ := filesBelow_eq_ok_iff.mp h
  rw [List.mem_filterMap]
  constructor
  · rintro ⟨_, hmem, rfl⟩
    obtain ⟨e, he, hentry⟩ := (mem_of_mapM_eq_ok hfound).mp hmem
    obtain ⟨⟨c, hc⟩, hname, hs⟩ := readEntry_eq_some_iff.mp hentry
    have hmem : (e.1, .file c) ∈ d.below p := hc ▸ he
    obtain ⟨hne, hfile⟩ := (Disk.mem_below_iff hd hwalk).mp hmem
    exact ⟨e.1, c, hne, hname, hfile, textOf_of_read_below hd hwalk hfile hs⟩
  · rintro ⟨rest, c, hne, hname, hfile, htext⟩
    have hmem := (Disk.mem_below_iff hd hwalk).mpr ⟨hne, hfile⟩
    obtain ⟨f?, hentry⟩ := exists_mapM_eq_ok_iff.mp ⟨found, hfound⟩ _ hmem
    refine ⟨some f, (mem_of_mapM_eq_ok hfound).mpr ⟨_, hmem, ?_⟩, rfl⟩
    rw [readEntry_eq_some_iff]
    refine ⟨⟨c, rfl⟩, hname, ?_⟩
    cases hs : d.read (p.below rest) with
    | ok s =>
        have hsame := textOf_of_read_below hd hwalk hfile hs
        rw [htext, Except.ok.injEq] at hsame
        rw [hsame]
    | error e =>
        rw [readEntry, hs] at hentry
        cases hentry

/-- No two of the files that are read below a directory have one path. -/
theorem nodup_filesBelow (hd : d.tree.Sound) (h : filesBelow d p = .ok files) :
  files.names.Nodup
  := by
  obtain ⟨found, hfound, rfl⟩ := filesBelow_eq_ok_iff.mp h
  obtain ⟨es, hsublist, hes, -⟩ := exists_sublist_of_mapM_eq_ok hfound
  have hnames : (es.map (·.1)).map placeText = Table.names (found.filterMap id) := by
    rw [Table.names, List.map_map, ← List.forall₂_eq_eq_eq, List.forall₂_map_left_iff,
      List.forall₂_map_right_iff]
    apply hes.imp
    intro e f hentry
    apply (readEntry_eq_some_iff.mp hentry).2.1
  rw [← hnames]
  apply nodup_map_placeText hd (hsublist.map _)

/-- The files below a directory can be read if all of them are texts and can be reached. -/
theorem exists_filesBelow (hd : d.tree.Sound) (hplain : p.isPlain = true) (hp : d.Reaches p)
    (htext : ∀ {rest : Place} {c : Content}, d.HasFile (d.resolve p ++ rest) c → ∃ s,
      textOf c = .ok s) :
  ∃ files, filesBelow d p = .ok files
  := by
  have hall : ∀ e ∈ d.below p, ∃ f?, readEntry d p e = .ok f? := by
    rintro ⟨rest, node⟩ he
    obtain ⟨hne, hnode⟩ := (Disk.mem_below_iff hd hp.leadsTo.1).mp he
    cases node with
    | directory => exact ⟨none, rfl⟩
    | file c =>
        obtain ⟨s, hs⟩ := htext hnode
        have hbelow : (p.below rest).isPlain = true :=
          FilePath.isPlain_below hplain fun n hn => hd.isName_of_get? hnode n
            (List.mem_append_right _ hn)
        have hwalk := walk_below hd hp.leadsTo.1 hnode (hp.short hnode)
        refine ⟨some (placeText rest, s), ?_⟩
        rw [readEntry, read_of_walk hbelow hwalk hnode, hs]
        rfl
  obtain ⟨found, hfound⟩ := exists_mapM_eq_ok_iff.mpr hall
  exact ⟨_, filesBelow_eq_ok_iff.mpr ⟨found, hfound, rfl⟩⟩

/-- A bundle that is read from a directory has the files below it. -/
theorem readFrom_eq_ok_iff {location : Option Location} {b : Bundle} :
  readFrom d p location = .ok b
    ↔ d.isDirectory p = .ok true ∧ filesBelow d p = .ok b.files ∧ b.location = location
  := by
  rw [readFrom]
  cases hdirectory : d.requireDirectory "Bundle directory" p with
  | error f =>
      have hfalse : d.isDirectory p ≠ .ok true := by
        intro htrue
        rw [requireDirectory_eq_ok_iff.mpr htrue] at hdirectory
        cases hdirectory
      simp [hfalse, Except.mapError]
  | ok _ =>
      have htrue : d.isDirectory p = .ok true := requireDirectory_eq_ok_iff.mp hdirectory
      rw [ok_bind]
      cases filesBelow d p with
      | error f => simp [Except.mapError]
      | ok files =>
          rw [ok_bind]
          simp only [htrue, true_and, Except.ok.injEq]
          constructor
          · intro h
            cases h
            exact ⟨rfl, rfl⟩
          · rintro ⟨rfl, rfl⟩
            rfl

/-- A bundle that is read from a directory has the texts of the files there, under their paths. -/
theorem mem_readFrom_iff {location : Option Location} {b : Bundle} (hd : d.tree.Sound)
    (h : readFrom d p location = .ok b) {f : String × String} :
  f ∈ b.files ↔ ∃ c, d.HasFile (d.resolve p ++ Text.segments f.1) c ∧ textOf c = .ok f.2
  := by
  obtain ⟨hdirectory, hbelow, -⟩ := readFrom_eq_ok_iff.mp h
  obtain ⟨root, hwalk, -⟩ := leadsTo_of_isDirectory hdirectory
  rw [resolve_of_walk hwalk, mem_filesBelow_iff hd hwalk hbelow]
  constructor
  · rintro ⟨rest, c, hne, hname, hfile, htext⟩
    rw [← hname, segments_placeText hne]
    · exact ⟨c, hfile, htext⟩
    · intro n hn
      apply hd.isName_of_get? hfile n (List.mem_append_right _ hn)
  · rintro ⟨c, hfile, htext⟩
    exact ⟨_, c, Text.segments_ne_nil f.1, placeText_segments f.1, hfile, htext⟩

theorem nodup_readFrom {location : Option Location} {b : Bundle} (hd : d.tree.Sound)
    (h : readFrom d p location = .ok b) :
  b.files.names.Nodup
  := by
  obtain ⟨-, hbelow, -⟩ := readFrom_eq_ok_iff.mp h
  apply nodup_filesBelow hd hbelow

theorem hasFile_of_readFrom {location : Option Location} {b : Bundle} (hd : d.tree.Sound)
    (h : readFrom d p location = .ok b) {f : String × String} (hf : f ∈ b.files) :
  ∃ c, d.HasFile (d.resolve p ++ Text.segments f.1) c
  := by
  obtain ⟨c, hfile, -⟩ := (mem_readFrom_iff hd h).mp hf
  exact ⟨c, hfile⟩

/-- A directory can be read if all files below it are texts and can be reached. -/
theorem exists_readFrom (hd : d.tree.Sound) (hplain : p.isPlain = true) (hp : d.Reaches p)
    (htext : ∀ {rest : Place} {c : Content}, d.HasFile (d.resolve p ++ rest) c → ∃ s,
      textOf c = .ok s) (location : Option Location) :
  ∃ b, readFrom d p location = .ok b
  := by
  obtain ⟨files, hfiles⟩ := exists_filesBelow hd hplain hp htext
  exact ⟨⟨files, location⟩,
    readFrom_eq_ok_iff.mpr ⟨isDirectory_of_leadsTo hplain hp.leadsTo, hfiles, rfl⟩⟩

/-! ### Bundles that were written -/

/-- A directory holds the files of a bundle, and no others in the directories that belong to the
compiler. -/
structure Holds (d : Disk) (root : Place) (files : Table String) : Prop where
  hasFile : ∀ f ∈ files, d.HasFile (root ++ Text.segments f.1) (.text f.2)
  exists_file : ∀ {rest : Place} {c : Content}, isManaged rest = true → d.HasFile (root ++ rest) c →
    ∃ f ∈ files, Text.segments f.1 = rest

theorem Written.holds {b : Bundle} {d' : Disk} (h : Written b p d d') :
  Holds d' (d.resolve p) b.files
  := by
  constructor
  · intro f hf
    rw [h.hasFile_iff]
    exact Or.inl ⟨f, hf, rfl, rfl⟩
  · intro rest c hrest hfile
    rw [h.hasFile_iff] at hfile
    rcases hfile with ⟨f, hf, hpath, -⟩ | ⟨-, hmanaged, -⟩
    · exact ⟨f, hf, hpath⟩
    · rw [hrest] at hmanaged
      cases hmanaged

/-- Files are read as they were written, but for their line ends, together with files that were in
none of the directories that belong to the compiler. -/
structure ReadsBack (files files' : Table String) : Prop where
  nodup : files'.names.Nodup
  mem : ∀ f ∈ files, (f.1, unified f.2) ∈ files'
  cases : ∀ f ∈ files', (∃ g ∈ files, f = (g.1, unified g.2)) ∨
    isManaged (Text.segments f.1) = false

/-- A bundle is read back from a directory that holds its files. -/
theorem Holds.readsBack {b : Bundle} {location : Option Location} (hd : d.tree.Sound)
    (h : Holds d (d.resolve p) files) (hread : readFrom d p location = .ok b) :
  ReadsBack files b.files
  := by
  constructor
  · apply nodup_readFrom hd hread
  · intro f hf
    rw [mem_readFrom_iff hd hread]
    exact ⟨.text f.2, h.hasFile f hf, textOf_text f.2⟩
  · intro f hf
    obtain ⟨c, hfile, htext⟩ := (mem_readFrom_iff hd hread).mp hf
    by_cases hmanaged : isManaged (Text.segments f.1) = true
    · obtain ⟨g, hg, hpath⟩ := h.exists_file hmanaged hfile
      have hthere := h.hasFile g hg
      rw [hpath] at hthere
      rw [hfile.unique hthere, textOf_text, Except.ok.injEq] at htext
      refine Or.inl ⟨g, hg, ?_⟩
      apply Prod.ext
      · exact Text.segments_injective hpath.symm
      · exact htext.symm
    · exact Or.inr (Bool.eq_false_iff.mpr hmanaged)

/-- A text without carriage returns is read back as it was written. -/
theorem ReadsBack.get?_eq {files files' : Table String} (h : ReadsBack files files')
    {path s : String} (hmem : (path, s) ∈ files) (hreturn : '\r' ∉ s.toList) :
  files'.get? path = some s
  := by
  have hback := h.mem _ hmem
  rw [unified_of_not_mem hreturn] at hback
  apply Table.get?_of_mem h.nodup hback

end Bundle

/-! ### Manifests -/

namespace Record

theorem numbered_strings (ss : List String) :
  numbered string (ss.map .str) = .done ss
  := by
  have hall : ∀ n,
      Decoded.all (((ss.map Value.str).zipIdx n).map fun v => (string v.1).under (natText v.2))
      = .done ss := by
    induction ss with
    | nil =>
        intro n
        rfl
    | cons s ss ih =>
        intro n
        rw [List.map_cons, List.zipIdx_cons, List.map_cons, Decoded.all, ih (n + 1)]
        rfl
  apply hall 0

theorem tuple_ofStrings (ss : List String) :
  tuple string (.ofStrings ss) = .done ss
  := by
  have hmembers : (Value.ofStrings ss).members? = some (ss.map .str) := by
    have hwritable := (Json.kept_ofStrings ss).unwritable?_eq_none
    rw [Value.ofStrings] at hwritable ⊢
    rw [Value.members?]
    · apply Value.items?_list hwritable
    all_goals
      intros
      simp_all
  rw [tuple, hmembers]
  apply numbered_strings

end Record

namespace Manifest

variable {m : Manifest}

open Record

/-- A text that may be missing is read as it is stated. -/
theorem withDefault_optional {fields : List (String × Value)} (hfields : Fields fields)
    {name : String} {s? : Option String}
    (h : ∀ v, (name, v) ∈ fields ↔ ∃ s, s? = some s ∧ v = .str s) :
  withDefault (.ofFields fields) name none (optional string) = .done s?
  := by
  cases s? with
  | none =>
      apply withDefault_of_none
      apply hfields.field?_eq_none
      intro hmem
      obtain ⟨⟨n, v⟩, hv, rfl⟩ := List.mem_map.mp hmem
      obtain ⟨s, hs, -⟩ := (h v).mp hv
      cases hs
  | some s =>
      have hfield := hfields.field?_eq_some_iff.mpr ((h (.str s)).mpr ⟨s, rfl, rfl⟩)
      exact withDefault_of_field hfield rfl

/-- An author is read back as written. -/
theorem author_toValue (a : Author) :
  Record.author a.toValue = .done a
  := by
  have hfields := fields_authorFields a
  have hfield : (Value.ofFields (authorFields a)).field? "name" = some (.str a.name) :=
    hfields.field?_eq_some_iff.mpr (mem_authorFields.mpr (Or.inl ⟨rfl, rfl⟩))
  have hname : required (.ofFields (authorFields a)) "name" string = .done a.name :=
    required_of_field hfield rfl
  have hemail : withDefault (.ofFields (authorFields a)) "email" none (optional string)
      = .done a.email := by
    apply withDefault_optional hfields
    intro v
    simp [mem_authorFields]
  have hauthor : Record.author a.toValue
      = Author.mk <$> required (.ofFields (authorFields a)) "name" string <*>
      withDefault (.ofFields (authorFields a)) "email" none (optional string) := rfl
  rw [hauthor, hname, hemail]
  rfl

theorem author_of_fields (m : Manifest) :
  withDefault (.ofFields m.fields) "author" none (optional Record.author) = .done m.author
  := by
  have hfields := fields_fields m
  cases ha : m.author with
  | none =>
      apply withDefault_of_none
      apply hfields.field?_eq_none
      simp [mem_fields, ha]
  | some a =>
      have hthere : (Value.ofFields m.fields).field? "author" = some a.toValue := by
        rw [hfields.field?_eq_some_iff]
        simp [mem_fields, ha]
      have hread : optional Record.author a.toValue = (Record.author a.toValue).map some := rfl
      apply withDefault_of_field hthere
      rw [hread, author_toValue]
      rfl

theorem keywords_of_fields (m : Manifest) :
  withDefault (.ofFields m.fields) "keywords" [] (tuple string) = .done m.keywords
  := by
  have hfields := fields_fields m
  by_cases hempty : m.keywords = []
  · rw [hempty]
    apply withDefault_of_none
    apply hfields.field?_eq_none
    simp [mem_fields, hempty]
  · have hthere : (Value.ofFields m.fields).field? "keywords" = some (.ofStrings m.keywords) := by
      rw [hfields.field?_eq_some_iff]
      simp [mem_fields, hempty]
    apply withDefault_of_field hthere
    apply tuple_ofStrings

/-- A manifest is read as it was written, without an empty description. -/
theorem ofValue_toValue (m : Manifest) :
  ofValue m.toValue = .ok { m with description := m.description.filter fun s => !s.isEmpty }
  := by
  have hfields := fields_fields m
  have hfield : ∀ {name : String} {v : Value}, (name, v) ∈ m.fields →
      (Value.ofFields m.fields).field? name = some v :=
    hfields.field?_eq_some_iff.mpr
  have hname : required (.ofFields m.fields) "name" string = .done m.name := by
    have hthere := hfield (mem_fields.mpr (Or.inl ⟨rfl, rfl⟩))
    exact required_of_field hthere rfl
  have hversion : withDefault (.ofFields m.fields) "version" defaultVersion string
      = .done m.version := by
    have hthere := hfield (mem_fields.mpr (Or.inr (Or.inl ⟨rfl, rfl⟩)))
    exact withDefault_of_field hthere rfl
  have hlicense : withDefault (.ofFields m.fields) "license" defaultLicense string
      = .done m.license := by
    have hthere := hfield (mem_fields.mpr (Or.inr (Or.inr (Or.inr (Or.inr (Or.inl ⟨rfl, rfl⟩))))))
    exact withDefault_of_field hthere rfl
  have hdescription : withDefault (.ofFields m.fields) "description" none (optional string)
      = .done (m.description.filter fun s => !s.isEmpty) := by
    apply withDefault_optional hfields
    intro v
    simp [mem_fields, Option.filter_eq_some_iff, and_assoc]
  have hskills : withDefault (.ofFields m.fields) "skills" none (optional string)
      = .done m.skills := by
    apply withDefault_optional hfields
    intro v
    simp [mem_fields]
  have hagents : withDefault (.ofFields m.fields) "agents" none (optional string)
      = .done m.agents := by
    apply withDefault_optional hfields
    intro v
    simp [mem_fields]
  have hhooks : withDefault (.ofFields m.fields) "hooks" none (optional string)
      = .done m.hooks := by
    apply withDefault_optional hfields
    intro v
    simp [mem_fields]
  have hmanifest : Record.manifest m.toValue
      = Manifest.mk <$> required (.ofFields m.fields) "name" string <*>
      withDefault (.ofFields m.fields) "version" defaultVersion string <*>
      withDefault (.ofFields m.fields) "description" none (optional string) <*>
      withDefault (.ofFields m.fields) "author" none (optional Record.author) <*>
      withDefault (.ofFields m.fields) "license" defaultLicense string <*>
      withDefault (.ofFields m.fields) "keywords" [] (tuple string) <*>
      withDefault (.ofFields m.fields) "skills" none (optional string) <*>
      withDefault (.ofFields m.fields) "agents" none (optional string) <*>
      withDefault (.ofFields m.fields) "hooks" none (optional string) := rfl
  rw [ofValue, hmanifest, hname, hversion, hdescription, author_of_fields, hlicense,
    keywords_of_fields, hskills, hagents, hhooks]
  rfl

theorem read_of_write (m : Manifest) :
  read m.write = .ok { m with description := m.description.filter fun s => !s.isEmpty }
  := by
  rw [read, read_write]
  dsimp only
  rw [ofValue_toValue]
  rfl

theorem return_not_mem_write (m : Manifest) :
  '\r' ∉ m.write.toList
  := by
  rw [write, String.toList_append, List.mem_append, not_or]
  exact ⟨Json.return_not_mem_write m.toValue, by decide⟩

open Validation

/-- A manifest without errors names its bundle in kebab case. -/
theorem isKebabName_of_noErrors {location : String}
    (h : NoErrors (manifestIssues m.toValue location)) :
  Slug.isKebabName m.name = true
  := by
  have hfield : m.toValue.field? "name" = some (.str m.name) :=
    (fields_fields m).field?_eq_some_iff.mpr (mem_fields.mpr (Or.inl ⟨rfl, rfl⟩))
  apply isKebabName_of_manifest h hfield

end Manifest

end AgentBundles
