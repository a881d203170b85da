import AgentBundles.Bundle.Storage
import AgentBundles.Proofs.Bundle.Assembled
import AgentBundles.Proofs.Files.Actions

/-!
# Stored bundles

Which files are on a disk after a bundle was written below a directory, and after it could not be
written.
-/

namespace AgentBundles

/-- The kinds of the faults that the file system reports. -/
def FaultKind.isOfSystem : FaultKind → Bool
  | .missingFile => true
  | .fileExists => true
  | .notDirectory => true
  | .isDirectory => true
  | .fileName => true
  | _ => false

theorem FileCause.isOfSystem_kind (cause : FileCause) :
  cause.kind.isOfSystem = true
  := by
  cases cause
  all_goals rfl

namespace Bundle

open Disk Disk.Action

variable {root place : Place} {path : String} {d d' : Disk}

/-! ### Targets -/

theorem target_eq_ok_iff :
  target root path = .ok place
    ↔ (FilePath.ofText path).isPlain = true ∧
      ((FilePath.ofPlace root).append (.ofText path)).resolve root = place ∧ ∃ rest, rest ≠ [] ∧
      place = root ++ rest
  := by
  rw [target]
  cases hplain : (FilePath.ofText path).isPlain with
  | false => simp
  | true =>
      simp only [Bool.not_true, Bool.false_eq_true, if_false, true_and]
      split
      · rename_i n rest hrelative
        rw [relative?_eq_some_iff] at hrelative
        constructor
        · intro h
          cases h
          exact ⟨rfl, n :: rest, List.cons_ne_nil _ _, hrelative⟩
        · rintro ⟨rfl, -⟩
          rfl
      · rename_i hnone
        constructor
        · intro h
          cases h
        · rintro ⟨hresolve, rest, hrest, hplace⟩
          obtain ⟨n, rest, rfl⟩ := List.exists_cons_of_ne_nil hrest
          rw [hresolve, hplace, relative?_append] at hnone
          exact absurd rfl (hnone n rest)

/-- A name on the way to a target is one of the directory or of the path. -/
theorem mem_target {n : String} (h : target root path = .ok place) (hn : n ∈ place) :
  n ∈ root ∨ (n ∈ (FilePath.ofText path).names ∧ n ≠ "..")
  := by
  obtain ⟨-, hresolve, -⟩ := target_eq_ok_iff.mp h
  rw [← hresolve] at hn
  rcases FilePath.mem_resolve hn with hmem | ⟨hmem, hup⟩
  · exact Or.inl hmem
  · rw [FilePath.append] at hmem
    split at hmem
    · exact Or.inr ⟨hmem, hup⟩
    · rcases List.mem_append.mp hmem with hmem | hmem
      · exact Or.inl hmem
      · exact Or.inr ⟨hmem, hup⟩

/-- Places that are named by their own paths. -/
structure Writable (place : Place) : Prop where
  proper : (FilePath.ofPlace place).Proper
  isPlain : (FilePath.ofPlace place).isPlain = true
  up_not_mem : ".." ∉ place

theorem Writable.resolve_eq (h : Writable place) (d : Disk) :
  d.resolve (.ofPlace place) = place
  := FilePath.resolve_ofPlace h.up_not_mem d.directory

theorem writable_target (hroot : ∀ n ∈ root, IsName n) (h : target root path = .ok place) :
  Writable place
  := by
  have hplain := (target_eq_ok_iff.mp h).1
  constructor
  · intro n hn
    rcases mem_target h hn with hmem | ⟨hmem, -⟩
    · exact ⟨(hroot n hmem).ne_empty, (hroot n hmem).ne_dot, (hroot n hmem).slash_not_mem⟩
    · apply FilePath.proper_ofText path n hmem
  · apply List.all_eq_true.mpr
    intro n hn
    rcases mem_target h hn with hmem | ⟨hmem, -⟩
    · simpa using (hroot n hmem).zero_not_mem
    · apply List.all_eq_true.mp hplain n hmem
  · intro hup
    rcases mem_target h hup with hmem | ⟨-, hne⟩
    · exact (hroot _ hmem).ne_up rfl
    · exact hne rfl

theorem resolve_of_isNormal (hroot : ".." ∉ root) (hpath : IsNormal path) :
  ((FilePath.ofPlace root).append (.ofText path)).resolve root = root ++ Text.segments path
  := by
  have happend : (FilePath.ofPlace root).append (.ofText path)
      = (FilePath.ofPlace root).below (Text.segments path) := by
    rw [hpath.ofText_eq]
    rfl
  rw [happend, FilePath.resolve_below hpath.up_not_mem, FilePath.resolve_ofPlace hroot]

/-- The target of a normal path has its segments below the directory. -/
theorem eq_of_target (hroot : ".." ∉ root) (hpath : IsNormal path)
    (h : target root path = .ok place) :
  place = root ++ Text.segments path
  := by
  rw [← (target_eq_ok_iff.mp h).2.1, resolve_of_isNormal hroot hpath]

theorem target_of_isNormal (hroot : ".." ∉ root) (hpath : IsNormal path)
    (hplain : (FilePath.ofText path).isPlain = true) :
  target root path = .ok (root ++ Text.segments path)
  := target_eq_ok_iff.mpr ⟨hplain, resolve_of_isNormal hroot hpath, Text.segments path,
    Text.segments_ne_nil path, rfl⟩

/-- The targets of a bundle are those of its files. -/
theorem Writer.mem_targets {w : Writer} {b : Bundle} {ts : List (Place × String)}
    (h : w.targets b root = .ok ts) {t : Place × String} :
  t ∈ ts ↔ ∃ f ∈ b.files, w.target root f.1 = .ok t.1 ∧ f.2 = t.2
  := by
  rw [mem_of_mapM_eq_ok h]
  apply exists_congr
  intro f
  rw [List.mem_mergeSort]
  apply and_congr_right
  intro _
  cases w.target root f.1 with
  | ok place => simp [Except.map, Prod.ext_iff]
  | error e => simp [Except.map]

/-- The targets of a bundle with normal paths are the segments of the paths below the directory. -/
theorem targets_eq_map {b : Bundle} {ts : List (Place × String)} (hroot : ".." ∉ root)
    (hnormal : ∀ path ∈ b.files.names, IsNormal path) (h : Writer.plain.targets b root = .ok ts) :
  (b.files.mergeSort fun f g => Text.le f.1 g.1).map (fun f => (root ++ Text.segments f.1, f.2))
    = ts
  := by
  rw [← List.forall₂_eq_eq_eq, List.forall₂_map_left_iff]
  have hsorted : ∀ f ∈ b.files.mergeSort (fun f g => Text.le f.1 g.1), IsNormal f.1 := by
    intro f hf
    apply hnormal _ (List.mem_map_of_mem (List.mem_mergeSort.mp hf))
  refine List.Forall₂.imp ?_ ((List.forall₂_and_left _ _).mpr ⟨hsorted, mapM_eq_ok_iff.mp h⟩)
  rintro f t ⟨hf, ht⟩
  cases htarget : Writer.plain.target root f.1 with
  | ok place =>
      rw [htarget] at ht
      cases ht
      rw [eq_of_target hroot hf htarget]
  | error e =>
      rw [htarget] at ht
      cases ht

/-- Normal paths that a disk can have have targets. -/
theorem targets_eq {b : Bundle} (hroot : ".." ∉ root)
    (hnormal : ∀ path ∈ b.files.names, IsNormal path)
    (hplain : ∀ path ∈ b.files.names, (FilePath.ofText path).isPlain = true) :
  Writer.plain.targets b root
    = .ok ((b.files.mergeSort fun f g => Text.le f.1 g.1).map fun f =>
      (root ++ Text.segments f.1, f.2))
  := by
  obtain ⟨ts, hts⟩ : ∃ ts, Writer.plain.targets b root = .ok ts := by
    apply exists_mapM_eq_ok_iff.mpr
    intro f hf
    have hname : f.1 ∈ b.files.names := List.mem_map_of_mem (List.mem_mergeSort.mp hf)
    exact ⟨_, congrArg (Except.map _) (target_of_isNormal hroot (hnormal _ hname) (hplain _ hname))⟩
  rw [hts, targets_eq_map hroot hnormal hts]

theorem mem_targets_iff {b : Bundle} {ts : List (Place × String)} (hroot : ".." ∉ root)
    (hnormal : ∀ path ∈ b.files.names, IsNormal path) (h : Writer.plain.targets b root = .ok ts)
    {rest : Place} {s : String} :
  (root ++ rest, s) ∈ ts ↔ ∃ f ∈ b.files, Text.segments f.1 = rest ∧ f.2 = s
  := by
  rw [← targets_eq_map hroot hnormal h, List.mem_map]
  simp only [List.mem_mergeSort, Prod.mk.injEq, List.append_cancel_left_eq]

/-- The targets of different normal paths are different. -/
theorem nodup_targets {b : Bundle} {ts : List (Place × String)} (hroot : ".." ∉ root)
    (hnormal : ∀ path ∈ b.files.names, IsNormal path) (hnodup : b.files.names.Nodup)
    (h : Writer.plain.targets b root = .ok ts) :
  (ts.map (·.1)).Nodup
  := by
  have hinjective : Function.Injective fun path => root ++ Text.segments path := by
    intro path path' heq
    apply Text.segments_injective (List.append_cancel_left heq)
  have hsorted : ((b.files.mergeSort fun f g => Text.le f.1 g.1).map (·.1)).Nodup := by
    apply (List.Perm.map _ (List.mergeSort_perm _ _)).nodup_iff.mpr hnodup
  rw [← targets_eq_map hroot hnormal h, List.map_map]
  have hmap := hsorted.map hinjective
  rw [List.map_map] at hmap
  apply hmap

/-! ### Texts that are written -/

variable {s : String} {c : Content}

/-- Writing a text changes the file at its place. -/
theorem confinedTo_writeText (hplace : Writable place) (s : String) :
  Respects (ConfinedTo (· = place)) (writeText place s)
  := by
  have hparent : (FilePath.ofPlace place).parent.Proper := by
    intro n hn
    apply hplace.proper n (List.dropLast_subset _ hn)
  have hmade : Respects (ConfinedTo (· = place))
      (makeDirectories (FilePath.ofPlace place).parent) :=
    respects_adapt _ (confinedTo_makeDirectories hparent)
  refine respects_bind (R := ConfinedTo (· = place)) (fun _ _ _ => ConfinedTo.trans) hmade ?_
  intro _
  apply respects_change ConfinedTo.refl
  intro d d' h
  cases hwrite : d.write (.ofPlace place) s with
  | ok d₁ =>
      rw [hwrite] at h
      cases h
      have hconfined := confinedTo_of_write hplace.proper hplace.isPlain hwrite
      rw [hplace.resolve_eq] at hconfined
      apply hconfined
  | error f =>
      rw [hwrite] at h
      cases h

/-- The file system alone can keep a text from being written to a place. -/
theorem failsOnly_writeText (hplace : Writable place) (s : String) :
  FailsOnly (fun f => f.kind.isOfSystem = true) (writeText place s)
  := by
  have hsystem : ∀ f, (∃ cause text, f = .path cause text) →
      (StorageFault.file f).kind.isOfSystem = true := by
    rintro f ⟨cause, text, rfl⟩
    apply cause.isOfSystem_kind
  have hparent : (FilePath.ofPlace place).parent.isPlain = true := by
    apply List.all_eq_true.mpr
    intro n hn
    apply List.all_eq_true.mp hplace.isPlain n (List.dropLast_subset _ hn)
  have hmade : FailsOnly (fun f => f.kind.isOfSystem = true)
      (makeDirectories (FilePath.ofPlace place).parent) :=
    failsOnly_adapt (failsOnly_makeDirectories hparent) hsystem
  apply failsOnly_bind hmade
  intro _
  apply failsOnly_change
  intro d e he
  cases hwrite : d.write (.ofPlace place) s with
  | ok d' =>
      rw [hwrite] at he
      cases he
  | error f =>
      rw [hwrite] at he
      cases he
      apply hsystem f (of_write_eq_error hplace.isPlain hwrite)

/-- Writing a text leaves all directories. -/
theorem keeps_writeText (P : Place → Prop) (place : Place) (s : String) :
  Respects (Keeps P) (writeText place s)
  := by
  have hmade : Respects (Keeps P) (makeDirectories (FilePath.ofPlace place).parent) := by
    intro d
    apply (grown_makeDirectories (FilePath.ofPlace place).parent d).keeps
  refine respects_bind (R := Keeps P) (fun _ _ _ => Keeps.trans) hmade ?_
  intro _
  apply respects_change Keeps.refl
  intro d d' h
  cases hwrite : d.write (.ofPlace place) s with
  | ok d₁ =>
      rw [hwrite] at h
      cases h
      apply keeps_of_write hwrite
  | error f =>
      rw [hwrite] at h
      cases h

theorem outcome_writeText {d₁ : Disk} {s : String}
    (hparent : (Disk.makeDirectories (FilePath.ofPlace place).parent).outcome d = (.ok (), d₁))
    (hwrite : d₁.write (.ofPlace place) s = .ok d') :
  (writeText place s).outcome d = (.ok (), d')
  := by
  refine outcome_bind_eq_ok_iff.mpr ⟨(), d₁, outcome_adapt_eq_ok_iff.mpr hparent, ?_⟩
  rw [outcome_change_eq_ok_iff, hwrite]
  rfl

theorem hasFile_of_writeText (hplace : Writable place)
    (h : (writeText place s).outcome d = (.ok (), d')) :
  d'.HasFile place (.text s) ∧ (FilePath.ofPlace place).text.utf8ByteSize ≤ longestPath
  := by
  obtain ⟨_, d₁, -, h⟩ := outcome_bind_eq_ok_iff.mp h
  rw [outcome_change_eq_ok_iff] at h
  cases hwrite : d₁.write (.ofPlace place) s with
  | ok d₂ =>
      rw [hwrite] at h
      cases h
      obtain ⟨q, hwalk, hne, -, -, rfl⟩ := of_write_eq_ok hwrite
      have hq := resolve_of_walk hwalk
      rw [hplace.resolve_eq] at hq
      rw [hq]
      exact ⟨Tree.get?_insert_self hne _, hq ▸ (walk_eq_ok_iff.mp hwalk).1⟩
  | error f =>
      rw [hwrite] at h
      cases h

theorem confinedTo_forM_writeText {ts : List (Place × String)} (hts : ∀ t ∈ ts, Writable t.1) :
  Respects (ConfinedTo (· ∈ ts.map (·.1))) (ts.forM fun t => writeText t.1 t.2)
  := by
  apply respects_forM ConfinedTo.refl fun _ _ _ => ConfinedTo.trans
  intro t ht d
  apply (confinedTo_writeText (hts t ht) t.2 d).mono
  rintro q rfl
  apply List.mem_map_of_mem ht

/-- Once texts were written to different places, each of them is in its place. -/
theorem hasFile_of_forM_writeText {ts : List (Place × String)} (hts : ∀ t ∈ ts, Writable t.1)
    (hnodup : (ts.map (·.1)).Nodup)
    (h : (ts.forM fun t => writeText t.1 t.2).outcome d = (.ok (), d')) {t : Place × String}
    (ht : t ∈ ts) :
  d'.HasFile t.1 (.text t.2) ∧ (FilePath.ofPlace t.1).text.utf8ByteSize ≤ longestPath
  := by
  induction ts generalizing d with
  | nil => cases ht
  | cons u us ih =>
      obtain ⟨hu, hus⟩ := List.forall_mem_cons.mp hts
      obtain ⟨hnew, hnodup⟩ := List.nodup_cons.mp hnodup
      obtain ⟨_, d₁, hfirst, hrest⟩ := outcome_bind_eq_ok_iff.mp h
      rcases List.mem_cons.mp ht with rfl | ht
      · have hconfined := confinedTo_forM_writeText hus d₁
        rw [hrest] at hconfined
        rw [hconfined.hasFile_iff hnew]
        apply hasFile_of_writeText hu hfirst
      · apply ih hus hnodup hrest ht

/-! ### Texts that are removed -/

/-- Whether a place below a bundle lies in a directory that belongs to the compiler. -/
def isManaged : Place → Bool
  | name :: _ :: _ => ownedDirectories.contains name
  | _ => false

theorem isManaged_eq_true_iff {rest : Place} :
  isManaged rest = true ↔ ∃ name ∈ ownedDirectories, ∃ below, below ≠ [] ∧ rest = name :: below
  := by
  constructor
  · intro h
    match rest, h with
    | name :: n :: names, h =>
        exact ⟨name, List.contains_iff_mem.mp h, n :: names, List.cons_ne_nil _ _, rfl⟩
  · rintro ⟨name, hname, below, hbelow, rfl⟩
    obtain ⟨n, names, rfl⟩ := List.exists_cons_of_ne_nil hbelow
    apply List.contains_iff_mem.mpr hname

theorem isManaged_segments {name : String} (hname : name ∈ ownedDirectories)
    (hslash : '/' ∉ name.toList) (rest : String) :
  isManaged (Text.segments (name ++ "/" ++ rest)) = true
  := by
  rw [Text.segments_append hslash, isManaged_eq_true_iff]
  exact ⟨name, hname, Text.segments rest, Text.segments_ne_nil rest, rfl⟩

/-- The disk without directories below a place. -/
def removeAll (root : Place) (names : List String) (d : Disk) : Disk :=
  names.foldl (fun d name => d.removeDirectory (.ofPlace (root ++ [name]))) d

theorem ofPlace_concat_resolve {name : String} (hroot : ".." ∉ root) (hname : name ≠ "..")
    (d : Disk) :
  d.resolve (.ofPlace (root ++ [name])) = root ++ [name]
  := by
  apply FilePath.resolve_ofPlace
  simp [hroot, hname.symm]

/-- Removing directories below a place changes files in them only. -/
theorem confinedTo_removeAll (hroot : ".." ∉ root) (names : List String) (hup : ".." ∉ names)
    (d : Disk) :
  ConfinedTo (fun q => ∃ name ∈ names, ∃ below, below ≠ [] ∧ q = root ++ name :: below) d
    (removeAll root names d)
  := by
  induction names generalizing d with
  | nil => apply ConfinedTo.refl
  | cons name names ih =>
      rw [List.mem_cons, not_or] at hup
      have hresolve := ofPlace_concat_resolve hroot (Ne.symm hup.1) d
      have hfirst := confinedTo_removeDirectory (d := d) (p := .ofPlace (root ++ [name]))
        (by simp [hresolve])
      apply ConfinedTo.trans (hfirst.mono _) ((ih hup.2 _).mono _)
      · rintro q ⟨below, hbelow, rfl⟩
        refine ⟨name, List.mem_cons_self, below, hbelow, ?_⟩
        rw [hresolve, List.append_assoc]
        rfl
      · rintro q ⟨n, hn, hq⟩
        exact ⟨n, List.mem_cons_of_mem _ hn, hq⟩

/-- Removing directories below a place leaves those that are below none of them. -/
theorem keeps_removeAll (hroot : ".." ∉ root) (names : List String) (hup : ".." ∉ names)
    (d : Disk) :
  Keeps (fun q => ∀ name ∈ names, ¬ root ++ [name] <+: q) d (removeAll root names d)
  := by
  induction names generalizing d with
  | nil => apply Keeps.refl
  | cons name names ih =>
      rw [List.mem_cons, not_or] at hup
      have hfirst := keeps_removeDirectory d (.ofPlace (root ++ [name]))
      rw [ofPlace_concat_resolve hroot (Ne.symm hup.1)] at hfirst
      apply Keeps.trans (hfirst.mono _) ((ih hup.2 _).mono _)
      · intro q hq
        apply hq name List.mem_cons_self
      · intro q hq n hn
        apply hq n (List.mem_cons_of_mem _ hn)

/-- Removing directories puts nothing on a disk. -/
theorem get?_of_removeAll {names : List String} {node : Node}
    (h : (removeAll root names d).tree.get? place = some node) :
  d.tree.get? place = some node
  := by
  induction names generalizing d with
  | nil => apply h
  | cons name names ih => apply get?_of_removeDirectory (ih h)

section

variable (hroot : ".." ∉ root) {names : List String} (hup : ".." ∉ names) (hd : d.Sound)
  (hshort : ∀ name ∈ names, (FilePath.ofPlace (root ++ [name])).text.utf8ByteSize ≤ longestPath)
    {name : String}
  (hname : name ∈ names)

include hroot hup hd hshort hname

/-- Directories are gone once they were removed. -/
theorem get?_removeAll_of_directory (hdirectory : d.tree.get? (root ++ [name]) = some .directory) :
  (removeAll root names d).tree.get? (root ++ [name]) = none
  := by
  induction names generalizing d with
  | nil => cases hname
  | cons first names ih =>
      rw [List.mem_cons, not_or] at hup
      obtain ⟨hfirst, hnames⟩ := List.forall_mem_cons.mp hshort
      have hsound := (confinedTo_removeAll hroot [first] (by simp [hup.1]) d).sound hd
      by_cases hstill : (removeAll root [first] d).tree.get? (root ++ [name]) = some .directory
      · rcases List.mem_cons.mp hname with rfl | hname
        · have hgone := get?_removeDirectory_below hd.tree hfirst hdirectory
            (List.concat_ne_nil _ _) (List.prefix_refl _)
          rw [removeAll, List.foldl_cons, List.foldl_nil, hgone] at hstill
          cases hstill
        · apply ih hup.2 hsound hnames hname hstill
      · rw [Option.eq_none_iff_forall_ne_some]
        intro node hnode
        have hbefore := get?_of_removeAll (d := removeAll root [first] d) hnode
        have hold := get?_of_removeAll hbefore
        rw [hdirectory, Option.some.injEq] at hold
        rw [← hold] at hbefore
        exact hstill hbefore

/-- Nothing is left in directories that were removed. -/
theorem not_hasFile_removeAll {below : Place} (hbelow : below ≠ []) (c : Content) :
  ¬ (removeAll root names d).HasFile (root ++ name :: below) c
  := by
  intro h
  rw [List.append_cons] at h
  have hsound := (confinedTo_removeAll hroot names hup d).sound hd
  have hdirectory := hd.tree.directory_of_get? hbelow (get?_of_removeAll h)
  have hthere := hsound.tree.directory_of_get? hbelow h
  rw [get?_removeAll_of_directory hroot hup hd hshort hname hdirectory] at hthere
  cases hthere

end

/-- Once the directories that belong to the compiler are removed, the files that were in none of
them are left. -/
theorem hasFile_removeAll_iff (hroot : ".." ∉ root) (hd : d.Sound)
    (hshort : ∀ name ∈ ownedDirectories,
      (FilePath.ofPlace (root ++ [name])).text.utf8ByteSize ≤ longestPath) {rest : Place} :
  (removeAll root ownedDirectories d).HasFile (root ++ rest) c
    ↔ isManaged rest = false ∧ d.HasFile (root ++ rest) c
  := by
  have howned : ".." ∉ ownedDirectories := by decide
  by_cases hrest : isManaged rest = true
  · obtain ⟨name, hname, below, hbelow, rfl⟩ := isManaged_eq_true_iff.mp hrest
    simp only [hrest, Bool.true_eq_false, false_and, iff_false]
    apply not_hasFile_removeAll hroot howned hd hshort hname hbelow
  · rw [(confinedTo_removeAll hroot ownedDirectories howned d).hasFile_iff]
    · simp only [hrest, true_and]
    · rintro ⟨name, hname, below, hbelow, heq⟩
      apply hrest
      rw [isManaged_eq_true_iff]
      exact ⟨name, hname, below, hbelow, List.append_cancel_left heq⟩

theorem exists_text_ofPlace_append (root : Place) :
  ∃ front, ∀ rest, rest ≠ [] → (FilePath.ofPlace (root ++ rest)).text = front ++ Text.join "/" rest
  := by
  have hjoin : ∀ root : Place, ∃ front, ∀ rest, rest ≠ [] →
      Text.join "/" (root ++ rest) = front ++ Text.join "/" rest := by
    intro root
    induction root with
    | nil => exact ⟨"", by simp⟩
    | cons n root ih =>
        obtain ⟨front, hfront⟩ := ih
        refine ⟨n ++ "/" ++ front, ?_⟩
        intro rest hrest
        obtain ⟨m, names, heq⟩ :=
          List.exists_cons_of_ne_nil (List.append_ne_nil_of_right_ne_nil root hrest)
        rw [List.cons_append, heq, Text.join, ← heq, hfront rest hrest]
        simp only [String.append_assoc]
  obtain ⟨front, hfront⟩ := hjoin root
  refine ⟨"/" ++ front, ?_⟩
  intro rest hrest
  rw [String.append_assoc, ← hfront rest hrest]
  rfl

/-- The directories that belong to the compiler have shorter paths than the manifest. -/
theorem short_of_manifest
    (h : (FilePath.ofPlace (root ++ Text.segments Manifest.path)).text.utf8ByteSize ≤ longestPath) :
  ∀ name ∈ ownedDirectories, (FilePath.ofPlace (root ++ [name])).text.utf8ByteSize ≤ longestPath
  := by
  obtain ⟨front, hfront⟩ := exists_text_ofPlace_append root
  have hsize : (Text.join "/" (Text.segments Manifest.path)).utf8ByteSize = 26 := by decide
  have howned : ∀ name ∈ ownedDirectories, (Text.join "/" [name]).utf8ByteSize ≤ 26 := by decide
  rw [hfront _ (by decide), String.utf8ByteSize_append, hsize] at h
  intro name hname
  have hname' := howned name hname
  rw [hfront _ (List.cons_ne_nil _ _), String.utf8ByteSize_append]
  omega

/-! ### Bundles that are written -/

variable {b : Bundle} {p : FilePath}

/-- The places strictly below a place. -/
def Below (root place : Place) : Prop := ∃ rest, rest ≠ [] ∧ place = root ++ rest

namespace Writer

variable {w : Writer}

theorem outcome_store (w : Writer) (b : Bundle) (p : FilePath) (d : Disk) :
  (w.store b p).outcome d = match (makeDirectories p).outcome d with
    | (.ok _, d₁) => (w.fill b (d₁.resolve p)).outcome d₁
    | (.error e, d₁) => (.error e, d₁)
  := by
  rw [store, outcome_bind]
  obtain ⟨r, d₁⟩ := (makeDirectories p).outcome d
  cases r with
  | ok x => rfl
  | error e => rfl

theorem outcome_fill (w : Writer) (b : Bundle) (root : Place) (d : Disk) :
  (w.fill b root).outcome d = match w.targets b root with
    | .ok ts => (ts.forM fun t => w.put t.1 t.2).outcome (removeAll root ownedDirectories d)
    | .error e => (.error e, d)
  := by
  rw [fill, outcome_bind, outcome_look]
  cases w.targets b root with
  | ok ts => rfl
  | error e => rfl

/-- A directory is filled once the texts are put to their places. -/
theorem fill_eq_ok_iff :
  (w.fill b root).outcome d = (.ok (), d') ↔ ∃ ts, w.targets b root = .ok ts ∧
    (ts.forM fun t => w.put t.1 t.2).outcome (removeAll root ownedDirectories d) = (.ok (), d')
  := by
  rw [outcome_fill]
  cases w.targets b root with
  | ok ts => simp
  | error e => simp

/-- A directory that could not be filled is as it was, unless a text could not be put to its
place. -/
theorem of_fill_eq_error {e : StorageFault} (h : (w.fill b root).outcome d = (.error e, d')) :
  d' = d ∨ ∃ ts, w.targets b root = .ok ts ∧ ∃ t ∈ ts, ∃ d₁ d₂, (w.put t.1 t.2).outcome d₁
    = (.error e, d₂)
  := by
  rw [outcome_fill] at h
  split at h
  · rename_i ts hts
    have hfails : FailsOnly (fun f => ∃ t ∈ ts, ∃ d₁ d₂,
        (w.put t.1 t.2).outcome d₁ = (.error f, d₂)) (ts.forM fun t => w.put t.1 t.2) := by
      apply failsOnly_forM
      intro t ht d₁ f hf
      exact ⟨t, ht, d₁, ((w.put t.1 t.2).outcome d₁).2, Prod.ext hf rfl⟩
    exact Or.inr ⟨ts, hts, hfails _ e (congrArg Prod.fst h)⟩
  · cases h
    exact Or.inl rfl

/-- Writers that put no text anywhere but to the target of its path. -/
structure Confined (w : Writer) : Prop where
  target_eq {root place : Place} {path : String} : w.target root path = .ok place →
    Bundle.target root path = .ok place
  put {place : Place} (s : String) : Writable place →
    Respects (ConfinedTo (· = place)) (w.put place s)

theorem confined_plain :
  plain.Confined
  := ⟨id, fun s hplace => confinedTo_writeText hplace s⟩

namespace Confined

variable (hw : w.Confined) (hroot : ∀ n ∈ root, IsName n)

include hw hroot

theorem writable_of_mem_targets {ts : List (Place × String)} (hts : w.targets b root = .ok ts) :
  ∀ t ∈ ts, Writable t.1
  := by
  intro t ht
  obtain ⟨f, -, htarget, -⟩ := (mem_targets hts).mp ht
  apply writable_target hroot (hw.target_eq htarget)

/-- Filling a directory changes files below it only. -/
theorem fill :
  Respects (ConfinedTo (Below root)) (w.fill b root)
  := by
  have hup := up_not_mem_of_isName hroot
  apply respects_look_bind ConfinedTo.refl
  intro _ ts hts
  refine respects_bind (R := ConfinedTo (Below root)) (fun _ _ _ => ConfinedTo.trans) ?_ ?_
  · intro d
    apply (confinedTo_removeAll hup ownedDirectories (by decide) d).mono
    rintro q ⟨name, -, below, -, rfl⟩
    exact ⟨name :: below, List.cons_ne_nil _ _, rfl⟩
  · intro _
    apply respects_forM ConfinedTo.refl fun _ _ _ => ConfinedTo.trans
    intro t ht d
    apply (hw.put t.2 (hw.writable_of_mem_targets hroot hts t ht) d).mono
    rintro q rfl
    obtain ⟨f, -, htarget, -⟩ := (mem_targets hts).mp ht
    obtain ⟨-, -, rest, hrest, hplace⟩ := target_eq_ok_iff.mp (hw.target_eq htarget)
    exact ⟨rest, hrest, hplace⟩

end Confined

end Writer

/-- A directory that was made has a place of names that files can have. -/
theorem of_makeDirectories (hd : d.Sound) (hp : p.Proper) {d₁ : Disk}
    (h : (makeDirectories p).outcome d = (.ok (), d₁)) :
  (∀ n ∈ d.resolve p, IsName n) ∧ ConfinedTo (fun _ => False) d d₁
  := by
  have hmake := outcome_adapt_eq_ok_iff.mp h
  have hconfined : ConfinedTo (fun _ => False) d d₁ := by
    have hall := confinedTo_makeDirectories (P := fun _ => False) hp d
    rw [hmake] at hall
    apply hall
  obtain ⟨hplain, hleads⟩ := leadsTo_of_makeDirectories hmake
  exact ⟨(hconfined.sound hd).isName_of_walk hp hplain hleads.1, hconfined⟩

namespace Writer

variable {w : Writer}

/-- A bundle is written by filling its directory once that was made. -/
theorem outcome_store_of_makeDirectories {d₁ : Disk}
    (hmake : (Disk.makeDirectories p).outcome d = (.ok (), d₁)) :
  (w.store b p).outcome d = (w.fill b (d.resolve p)).outcome d₁
  := by
  have hgrown := grown_makeDirectories p d
  rw [hmake] at hgrown
  rw [outcome_store, makeDirectories, outcome_adapt_eq_ok_iff.mpr hmake]
  dsimp only
  rw [Disk.resolve, hgrown.directory_eq]
  rfl

/-- A bundle was written once its directory was made and filled. -/
theorem store_eq_ok_iff :
  (w.store b p).outcome d = (.ok (), d') ↔ ∃ d₁, (Disk.makeDirectories p).outcome d = (.ok (), d₁) ∧
    (w.fill b (d.resolve p)).outcome d₁ = (.ok (), d')
  := by
  constructor
  · intro h
    have hstore := h
    rw [outcome_store] at hstore
    split at hstore
    · rename_i d₁ hmake
      have hdisk := outcome_adapt_eq_ok_iff.mp hmake
      rw [outcome_store_of_makeDirectories hdisk] at h
      exact ⟨d₁, hdisk, h⟩
    · cases hstore
  · rintro ⟨d₁, hmake, h⟩
    rw [outcome_store_of_makeDirectories hmake]
    exact h

/-- A bundle could not be written if its directory could not be made or not be filled. -/
theorem of_store_eq_error {e : StorageFault} (hd : d.Sound) (hp : p.Proper)
    (h : (w.store b p).outcome d = (.error e, d')) :
  ConfinedTo (fun _ => False) d d' ∨
    (∀ n ∈ d.resolve p, IsName n) ∧
      ∃ d₁, ConfinedTo (fun _ => False) d d₁ ∧ (w.fill b (d.resolve p)).outcome d₁ = (.error e, d')
  := by
  rw [outcome_store] at h
  split at h
  · rename_i d₁ hmake
    obtain ⟨hroot, hconfined⟩ := of_makeDirectories hd hp hmake
    rw [hconfined.resolve_eq] at h
    exact Or.inr ⟨hroot, d₁, hconfined, h⟩
  · rename_i e' d₁ hmake
    have hall : ConfinedTo (fun _ => False) d ((makeDirectories p).outcome d).2 :=
      confinedTo_makeDirectories hp d
    rw [hmake] at hall
    cases h
    exact Or.inl hall

/-- Whatever comes of writing a bundle, files have changed below its directory only. -/
theorem Confined.store (hw : w.Confined) (hd : d.Sound) (hp : p.Proper) (b : Bundle) :
  ConfinedTo (Below (d.resolve p)) d ((w.store b p).outcome d).2
  := by
  cases h : (w.store b p).outcome d with
  | mk r d' =>
      cases r with
      | ok u =>
          obtain ⟨d₁, hmake, hfill⟩ := store_eq_ok_iff.mp h
          obtain ⟨hroot, hconfined⟩ := of_makeDirectories hd hp (outcome_adapt_eq_ok_iff.mpr hmake)
          have hfilled := hw.fill (b := b) hroot d₁
          rw [hfill] at hfilled
          apply ConfinedTo.trans (hconfined.mono fun _ => False.elim) hfilled
      | error e =>
          rcases of_store_eq_error hd hp h with hconfined | ⟨hroot, d₁, hconfined, hfill⟩
          · apply hconfined.mono fun _ => False.elim
          · have hfilled := hw.fill (b := b) hroot d₁
            rw [hfill] at hfilled
            apply ConfinedTo.trans (hconfined.mono fun _ => False.elim) hfilled

end Writer

/-- A directory is filled once the texts are written to their places. -/
theorem fill_plain_eq_ok_iff :
  (Writer.plain.fill b root).outcome d = (.ok (), d') ↔ ∃ ts, Writer.plain.targets b root = .ok ts ∧
    (ts.forM fun t => writeText t.1 t.2).outcome (removeAll root ownedDirectories d) = (.ok (), d')
  := Writer.fill_eq_ok_iff

/-- A bundle was written once its directory was made and filled. -/
theorem of_writeTo_eq_ok (h : (b.writeTo p).outcome d = (.ok (), d')) :
  ∃ d₁, (Disk.makeDirectories p).outcome d = (.ok (), d₁) ∧ d₁.directory = d.directory ∧
    (Writer.plain.fill b (d.resolve p)).outcome d₁ = (.ok (), d')
  := by
  obtain ⟨d₁, hmake, hfill⟩ := Writer.store_eq_ok_iff.mp h
  have hgrown := grown_makeDirectories p d
  rw [hmake] at hgrown
  exact ⟨d₁, hmake, hgrown.directory_eq, hfill⟩

theorem isPlain_of_writeTo (h : (b.writeTo p).outcome d = (.ok (), d')) :
  p.isPlain = true
  := by
  obtain ⟨d₁, hmake, -⟩ := of_writeTo_eq_ok h
  apply (leadsTo_of_makeDirectories hmake).1

theorem writeTo_eq_ok (hd : d.Sound) (hp : p.Proper) (h : (b.writeTo p).outcome d = (.ok (), d')) :
  (∀ n ∈ d.resolve p, IsName n) ∧
    ∃ d₁, ConfinedTo (fun _ => False) d d₁ ∧ (Writer.plain.fill b (d.resolve p)).outcome d₁
      = (.ok (), d')
  := by
  obtain ⟨d₁, hmake, -, hfill⟩ := of_writeTo_eq_ok h
  obtain ⟨hroot, hconfined⟩ := of_makeDirectories hd hp (outcome_adapt_eq_ok_iff.mpr hmake)
  exact ⟨hroot, d₁, hconfined, hfill⟩

/-- No name on the way along a path leads into a directory that belongs to the compiler. -/
def Avoids (d : Disk) (p : FilePath) : Prop :=
  ∀ names ∈ p.names.inits, ∀ name ∈ ownedDirectories, ¬ d.resolve p ++ [name]
    <+: d.resolve ⟨p.root, names⟩

instance (d : Disk) (p : FilePath) : Decidable (Avoids d p) :=
  inferInstanceAs (Decidable (∀ names ∈ p.names.inits, ∀ name ∈ ownedDirectories,
    ¬ d.resolve p ++ [name] <+: d.resolve ⟨p.root, names⟩))

/-- A path leads to the directory of a bundle that was written, if it does not lead through what is
removed there. -/
theorem leadsTo_of_writeTo (hd : d.Sound) (hp : p.Proper) (havoids : Avoids d p)
    (h : (b.writeTo p).outcome d = (.ok (), d')) :
  d'.LeadsTo p (d.resolve p)
  := by
  obtain ⟨d₁, hmake, hdirectory, hfill⟩ := of_writeTo_eq_ok h
  obtain ⟨hroot, -⟩ := of_makeDirectories hd hp (outcome_adapt_eq_ok_iff.mpr hmake)
  obtain ⟨ts, -, hwrite⟩ := fill_plain_eq_ok_iff.mp hfill
  have hremoved := keeps_removeAll (up_not_mem_of_isName hroot) ownedDirectories (by decide) d₁
  have hwritten : Respects (Keeps fun q => ∀ name ∈ ownedDirectories, ¬ d.resolve p ++ [name] <+: q)
      (ts.forM fun t => writeText t.1 t.2) := by
    apply respects_forM Keeps.refl fun _ _ _ => Keeps.trans
    intro t _
    apply keeps_writeText
  have hkept := hwritten (removeAll (d.resolve p) ownedDirectories d₁)
  rw [hwrite] at hkept
  apply (hremoved.trans hkept).leadsTo _ (leadsTo_of_makeDirectories hmake).2
  intro names hnames
  have hsame : d₁.resolve ⟨p.root, names⟩ = d.resolve ⟨p.root, names⟩ := by
    rw [Disk.resolve, hdirectory]
    rfl
  rw [hsame]
  apply havoids names ((List.mem_inits _ _).mpr hnames)

/-- Writing a bundle changes files below its directory only. -/
theorem confinedTo_writeTo (hd : d.Sound) (hp : p.Proper)
    (h : (b.writeTo p).outcome d = (.ok (), d')) :
  ConfinedTo (Below (d.resolve p)) d d'
  := by
  have hconfined := Writer.confined_plain.store hd hp b
  rw [← writeTo, h] at hconfined
  exact hconfined

/-- Once a bundle with different normal paths was written, each of its texts is in its place. -/
theorem hasFile_of_writeTo (hd : d.Sound) (hp : p.Proper)
    (hnormal : ∀ path ∈ b.files.names, IsNormal path) (hnodup : b.files.names.Nodup)
    (h : (b.writeTo p).outcome d = (.ok (), d')) {f : String × String} (hf : f ∈ b.files) :
  d'.HasFile (d.resolve p ++ Text.segments f.1) (.text f.2) ∧
    (FilePath.ofPlace (d.resolve p ++ Text.segments f.1)).text.utf8ByteSize ≤ longestPath
  := by
  obtain ⟨hroot, d₁, -, hfill⟩ := writeTo_eq_ok hd hp h
  obtain ⟨ts, hts, hwrite⟩ := fill_plain_eq_ok_iff.mp hfill
  have hup := up_not_mem_of_isName hroot
  have hmem := (mem_targets_iff hup hnormal hts).mpr ⟨f, hf, rfl, rfl⟩
  apply hasFile_of_forM_writeText (Writer.confined_plain.writable_of_mem_targets hroot hts)
    (nodup_targets hup hnormal hnodup hts) hwrite hmem

/-- A bundle whose files have different normal paths was written to a directory, and the paths there
of what is removed are not too long. -/
structure Stored (b : Bundle) (p : FilePath) (d d' : Disk) : Prop where
  sound : d.Sound
  proper : p.Proper
  isNormal : ∀ path ∈ b.files.names, IsNormal path
  nodup : b.files.names.Nodup
  short : ∀ name ∈ ownedDirectories, (FilePath.ofPlace (d.resolve p ++ [name])).text.utf8ByteSize
    ≤ longestPath
  writeTo_eq : (b.writeTo p).outcome d = (.ok (), d')

/-- Below the directory of a bundle that was written are its files, and those files from before that
neither have one of their paths nor lie in a directory that belongs to the compiler. -/
theorem Stored.hasFile_iff (h : Stored b p d d') {rest : Place} (c : Content) :
  d'.HasFile (d.resolve p ++ rest) c
    ↔ (∃ f ∈ b.files, Text.segments f.1 = rest ∧ c = .text f.2) ∨
      (∀ f ∈ b.files, Text.segments f.1 ≠ rest) ∧ isManaged rest = false ∧
      d.HasFile (d.resolve p ++ rest) c
  := by
  obtain ⟨hroot, d₁, hconfined, hfill⟩ := writeTo_eq_ok h.sound h.proper h.writeTo_eq
  obtain ⟨ts, hts, hwrite⟩ := fill_plain_eq_ok_iff.mp hfill
  have hup := up_not_mem_of_isName hroot
  have hwritable := Writer.confined_plain.writable_of_mem_targets hroot hts
  have hwritten : ∀ f ∈ b.files, d'.HasFile (d.resolve p ++ Text.segments f.1) (.text f.2) := by
    intro f hf
    apply (hasFile_of_writeTo h.sound h.proper h.isNormal h.nodup h.writeTo_eq hf).1
  by_cases hfile : ∃ f ∈ b.files, Text.segments f.1 = rest
  · obtain ⟨f, hf, rfl⟩ := hfile
    constructor
    · intro hc
      exact Or.inl ⟨f, hf, rfl, hc.unique (hwritten f hf)⟩
    · rintro (⟨g, hg, hpath, rfl⟩ | ⟨hnone, -⟩)
      · rw [← hpath]
        apply hwritten g hg
      · exact absurd rfl (hnone f hf)
  · have hnew : d.resolve p ++ rest ∉ ts.map (·.1) := by
      intro hmem
      obtain ⟨⟨q, s⟩, ht, rfl⟩ := List.mem_map.mp hmem
      obtain ⟨f, hf, hpath, -⟩ := (mem_targets_iff hup h.isNormal hts).mp ht
      exact hfile ⟨f, hf, hpath⟩
    have hrest := confinedTo_forM_writeText hwritable (removeAll (d.resolve p) ownedDirectories d₁)
    rw [hwrite] at hrest
    rw [hrest.hasFile_iff hnew, hasFile_removeAll_iff hup (hconfined.sound h.sound) h.short,
      hconfined.hasFile_iff id]
    constructor
    · rintro ⟨hmanaged, hold⟩
      exact Or.inr ⟨fun f hf hpath => hfile ⟨f, hf, hpath⟩, hmanaged, hold⟩
    · rintro (⟨f, hf, hpath, -⟩ | ⟨-, hmanaged, hold⟩)
      · exact absurd ⟨f, hf, hpath⟩ hfile
      · exact ⟨hmanaged, hold⟩

/-- A bundle whose files have different normal paths, one of them that of the manifest, was written
to a directory. -/
structure Written (b : Bundle) (p : FilePath) (d d' : Disk) : Prop where
  sound : d.Sound
  proper : p.Proper
  isNormal : ∀ path ∈ b.files.names, IsNormal path
  nodup : b.files.names.Nodup
  manifest_mem : Manifest.path ∈ b.files.names
  writeTo_eq : (b.writeTo p).outcome d = (.ok (), d')

/-- The paths of what is removed are not too long, since that of the manifest is not. -/
theorem Written.stored (h : Written b p d d') :
  Stored b p d d'
  := by
  obtain ⟨f, hf, hpath⟩ := List.mem_map.mp h.manifest_mem
  have hmanifest := (hasFile_of_writeTo h.sound h.proper h.isNormal h.nodup h.writeTo_eq hf).2
  rw [hpath] at hmanifest
  exact ⟨h.sound, h.proper, h.isNormal, h.nodup, short_of_manifest hmanifest, h.writeTo_eq⟩

theorem Written.hasFile_iff (h : Written b p d d') {rest : Place} (c : Content) :
  d'.HasFile (d.resolve p ++ rest) c
    ↔ (∃ f ∈ b.files, Text.segments f.1 = rest ∧ c = .text f.2) ∨
      (∀ f ∈ b.files, Text.segments f.1 ≠ rest) ∧ isManaged rest = false ∧
      d.HasFile (d.resolve p ++ rest) c
  := h.stored.hasFile_iff c

end Bundle

end AgentBundles
