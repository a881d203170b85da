import AgentBundles.Proofs.Bundle.ReadBack
import AgentBundles.Proofs.Files.Making

/-!
# Bundles in place of others

A bundle with a path that leads out of its directory is not written, and no file changes. Any other
bundle is written if nothing that stays in the directory is in its way. What is read there
afterwards are its texts, and those from before that neither have one of its paths nor belong to the
compiler.
-/

namespace AgentBundles.Bundle

open Disk Disk.Action

variable {root place : Place} {d d' : Disk}

/-! ### Texts that can be written -/

/-- A text can be written to a place: its path can be followed, no file is above it, and there is no
directory. -/
structure Takes (d : Disk) (place : Place) : Prop where
  isName : ∀ n ∈ place, IsName n
  short : (FilePath.ofPlace place).text.utf8ByteSize ≤ longestPath
  unblocked : d.Unblocked place.dropLast
  not_directory : d.tree.get? place ≠ some .directory

/-- A text can be written to a place that takes one, and then other places take texts as before. -/
theorem Takes.exists_writeText (hd : d.Sound) (h : Takes d place) (s : String) :
  ∃ d', (writeText place s).outcome d = (.ok (), d') ∧ d'.Sound ∧
    ∀ {other : Place}, Takes d other → ¬ place <+: other → ¬ other <+: place → Takes d' other
  := by
  rcases List.eq_nil_or_concat' place with rfl | ⟨front, name, rfl⟩
  · exact absurd rfl h.not_directory
  · have hunblocked := h.unblocked
    rw [List.dropLast_concat] at hunblocked
    obtain ⟨d₁, hparent, hmade⟩ :=
      exists_makeDirectories hd (fun n hn => h.isName n (List.mem_append_left _ hn))
      (Nat.le_trans (FilePath.size_text_ofPlace_le front [name]) h.short) hunblocked
    have hkept : ∀ {q : Place}, ¬ q <+: front → d.tree.get? q ≠ some .directory →
        d₁.tree.get? q ≠ some .directory := by
      intro q hq hnone hdirectory
      exact (hmade.above hdirectory).elim hnone hq
    have hself : d₁.tree.get? (front ++ [name]) ≠ some .directory := by
      apply hkept (concat_not_above front name) h.not_directory
    rw [← FilePath.parent_ofPlace_concat front name] at hparent
    have hwrite := write_ofPlace_eq_ok (s := s) hmade.sound.tree h.isName h.short hmade.made hself
    refine ⟨_, outcome_writeText hparent hwrite, ?_, ?_⟩
    · apply hmade.sound.withTree_insert (List.concat_ne_nil name front) h.isName _ (Or.inr hself)
      rw [List.dropLast_concat]
      apply hmade.made
    · intro other hother hafter hbefore
      constructor
      · apply hother.isName
      · apply hother.short
      · intro q hq c hfile
        have hne : q ≠ front ++ [name] := by
          rintro rfl
          exact hafter (hq.trans (List.dropLast_prefix _))
        rw [HasFile, withTree, Tree.get?_insert_of_ne hne] at hfile
        apply hother.unblocked q hq c (hmade.grown.hasFile_iff.mp hfile)
      · have hne : other ≠ front ++ [name] := by
          rintro rfl
          exact hafter (List.prefix_refl _)
        rw [withTree, Tree.get?_insert_of_ne hne]
        apply hkept _ hother.not_directory
        intro habove
        exact hbefore (habove.trans (List.prefix_append _ _))

/-- Texts can be written to places that take them if none of the places is above another. -/
theorem exists_forM_writeText {ts : List (Place × String)} (hd : d.Sound)
    (hts : ∀ t ∈ ts, Takes d t.1) (hapart : ts.Pairwise fun t u => ¬ t.1 <+: u.1 ∧ ¬ u.1 <+: t.1) :
  ∃ d', (ts.forM fun t => writeText t.1 t.2).outcome d = (.ok (), d')
  := by
  induction ts generalizing d with
  | nil => exact ⟨d, rfl⟩
  | cons t ts ih =>
      obtain ⟨ht, hts⟩ := List.forall_mem_cons.mp hts
      obtain ⟨hfirst, hapart⟩ := List.pairwise_cons.mp hapart
      obtain ⟨d₁, hwrite, hd₁, hothers⟩ := ht.exists_writeText hd t.2
      obtain ⟨d', hrest⟩ :=
        ih hd₁ (fun u hu => hothers (hts u hu) (hfirst u hu).1 (hfirst u hu).2) hapart
      exact ⟨d', outcome_bind_eq_ok_iff.mpr ⟨(), d₁, hwrite, hrest⟩⟩

/-! ### What stays -/

/-- Something below a directory that is in none of the directories there that belong to the
compiler. -/
def Remains (d : Disk) (root rest : Place) (node : Node) : Prop :=
  d.tree.get? (root ++ rest) = some node ∧
    ∀ name ∈ ownedDirectories, d.tree.get? (root ++ [name]) = some .directory → ¬ [name] <+: rest

/-- Only what remains is left once the directories that belong to the compiler are removed. -/
theorem remains_of_removeAll (hroot : ".." ∉ root) (hd : d.Sound)
    (hshort : ∀ name ∈ ownedDirectories,
      (FilePath.ofPlace (root ++ [name])).text.utf8ByteSize ≤ longestPath) {rest : Place}
    {node : Node} (h : (removeAll root ownedDirectories d).tree.get? (root ++ rest) = some node) :
  Remains d root rest node
  := by
  have howned : ".." ∉ ownedDirectories := by decide
  refine ⟨get?_of_removeAll h, ?_⟩
  rintro name hname hdirectory ⟨below, rfl⟩
  have hgone := get?_removeAll_of_directory hroot howned hd hshort hname hdirectory
  by_cases hbelow : below = []
  · rw [hbelow, List.append_nil, hgone] at h
    cases h
  · rw [← List.append_assoc] at h
    have hsound := (confinedTo_removeAll hroot ownedDirectories howned d).sound hd
    rw [hsound.tree.directory_of_get? hbelow h] at hgone
    cases hgone

/-- A text below a directory that is in none of the directories there that belong to the
compiler. -/
def Leaves (d : Disk) (root : Place) (f : String × String) : Prop :=
  isManaged (Text.segments f.1) = false ∧ ∃ c, d.HasFile (root ++ Text.segments f.1) c ∧
    textOf c = .ok f.2

/-- A bundle of texts that are read as they were written has its place in a directory: its paths are
normal, none is above another one, and no file is above a path and no directory at it that remains
there. Files that remain are texts. -/
structure Fits (b : Bundle) (root : Place) (d : Disk) : Prop where
  isNormal : ∀ path ∈ b.files.names, IsNormal path
  apart : ∀ path ∈ b.files.names, ∀ path' ∈ b.files.names,
    Text.segments path <+: Text.segments path' → path = path'
  not_file : ∀ path ∈ b.files.names, ∀ front, front <+: Text.segments path →
    front ≠ Text.segments path → ∀ c, ¬ Remains d root front (.file c)
  not_directory : ∀ path ∈ b.files.names, ¬ Remains d root (Text.segments path) .directory
  return_not_mem : ∀ f ∈ b.files, '\r' ∉ f.2.toList
  exists_text : ∀ {rest : Place} {c : Content}, isManaged rest = false →
    d.HasFile (root ++ rest) c → ∃ s, textOf c = .ok s

/-- The file system can follow the paths of a bundle in a directory, and those of all that is read
or removed there: their names are such as files can have, none is too long, and the directory is not
reached through what is removed. -/
structure InReach (b : Bundle) (p : FilePath) (d : Disk) : Prop where
  isName : ∀ path ∈ b.files.names, ∀ n ∈ Text.segments path, '\x00' ∉ n.toList ∧
    n.utf8ByteSize ≤ longestName
  short : ∀ path ∈ b.files.names,
    (FilePath.ofPlace (d.resolve p ++ Text.segments path)).text.utf8ByteSize ≤ longestPath ∧
      (p.below (Text.segments path)).text.utf8ByteSize ≤ longestPath
  short_left : ∀ {rest : Place} {c : Content}, isManaged rest = false →
    d.HasFile (d.resolve p ++ rest) c → (p.below rest).text.utf8ByteSize ≤ longestPath
  short_owned : ∀ name ∈ ownedDirectories,
    (FilePath.ofPlace (d.resolve p ++ [name])).text.utf8ByteSize ≤ longestPath
  avoids : Avoids d p

variable {b : Bundle} {p : FilePath}

theorem isName_of_inReach (hfits : Fits b root d) (hreach : InReach b p d) {path : String}
    (hpath : path ∈ b.files.names) :
  ∀ n ∈ Text.segments path, IsName n
  := by
  intro n hn
  obtain ⟨hempty, hdot, hup⟩ := hfits.isNormal path hpath n hn
  obtain ⟨hzero, hshort⟩ := hreach.isName path hpath n hn
  exact ⟨hempty, hdot, hup, Text.slash_not_mem_of_mem_segments hn, hzero, hshort⟩

/-! ### Directories that are filled -/

/-- No target of a bundle that fits into its directory is above another one. -/
theorem pairwise_targets {ts : List (Place × String)} (hup : ".." ∉ root) (hfits : Fits b root d)
    (hnodup : b.files.names.Nodup) (hts : Writer.plain.targets b root = .ok ts) :
  ts.Pairwise fun t u => ¬ t.1 <+: u.1 ∧ ¬ u.1 <+: t.1
  := by
  have hdistinct :
      (b.files.mergeSort fun f g => Text.le f.1 g.1).Pairwise fun f g => f.1 ≠ g.1 := by
    rw [← List.pairwise_map]
    apply ((List.mergeSort_perm _ _).map _).nodup_iff.mpr hnodup
  have hnames : ∀ f ∈ b.files.mergeSort (fun f g => Text.le f.1 g.1), f.1 ∈ b.files.names :=
    fun f hf => List.mem_map_of_mem (List.mem_mergeSort.mp hf)
  rw [← targets_eq_map hup hfits.isNormal hts, List.pairwise_map]
  apply hdistinct.imp_of_mem
  intro f g hf hg hne
  rw [List.prefix_append_right_inj, List.prefix_append_right_inj]
  constructor
  · intro habove
    exact hne (hfits.apart _ (hnames f hf) _ (hnames g hg) habove)
  · intro habove
    exact hne (hfits.apart _ (hnames g hg) _ (hnames f hf) habove).symm

section

variable (hd : d.Sound) (hroot : ∀ n ∈ d.resolve p, IsName n)
  (hdirectory : d.tree.get? (d.resolve p) = some .directory) (hfits : Fits b (d.resolve p) d)
    (hreach : InReach b p d)

include hd hroot hdirectory hfits hreach

/-- Once the directories that belong to the compiler are removed, the texts of a bundle can be
written. -/
theorem takes_removeAll {path : String} (hpath : path ∈ b.files.names) :
  Takes (removeAll (d.resolve p) ownedDirectories d) (d.resolve p ++ Text.segments path)
  := by
  have hup := up_not_mem_of_isName hroot
  have howned : ".." ∉ ownedDirectories := by decide
  constructor
  · intro n hn
    exact (List.mem_append.mp hn).elim (hroot n) (isName_of_inReach hfits hreach hpath n)
  · apply (hreach.short path hpath).1
  · intro q hq c hfile
    rw [List.dropLast_append_of_ne_nil (Text.segments_ne_nil path)] at hq
    rcases List.prefix_or_prefix_of_prefix hq (List.prefix_append _ _) with habove | ⟨front, rfl⟩
    · -- The directory itself is still there, and with it what is above it.
      have hthere : (removeAll (d.resolve p) ownedDirectories d).tree.get? (d.resolve p)
          = some .directory := by
        apply (keeps_removeAll hup ownedDirectories howned d).kept _ hdirectory
        intro name _
        apply concat_not_above
      have hsound := (confinedTo_removeAll hup ownedDirectories howned d).sound hd
      rw [HasFile, hsound.tree.directory_of_prefix hthere habove] at hfile
      cases hfile
    · rw [List.prefix_append_right_inj] at hq
      apply hfits.not_file path hpath front (hq.trans (List.dropLast_prefix _)) _ c
      · apply remains_of_removeAll hup hd hreach.short_owned hfile
      · rintro rfl
        have hlength := hq.length_le
        have hpos := List.length_pos_iff.mpr (Text.segments_ne_nil path)
        rw [List.length_dropLast] at hlength
        omega
  · intro hthere
    apply hfits.not_directory path hpath
    apply remains_of_removeAll hup hd hreach.short_owned hthere

/-- A directory can be filled with a bundle that fits into it. -/
theorem exists_fill (hnodup : b.files.names.Nodup) :
  ∃ d', (Writer.plain.fill b (d.resolve p)).outcome d = (.ok (), d')
  := by
  have hup := up_not_mem_of_isName hroot
  have hplain : ∀ path ∈ b.files.names, (FilePath.ofText path).isPlain = true := by
    intro path hpath
    rw [(hfits.isNormal path hpath).ofText_eq]
    apply List.all_eq_true.mpr
    intro n hn
    simpa using (hreach.isName path hpath n hn).1
  obtain ⟨ts, hts⟩ : ∃ ts, Writer.plain.targets b (d.resolve p) = .ok ts :=
    ⟨_, targets_eq hup hfits.isNormal hplain⟩
  have htakes : ∀ t ∈ ts, Takes (removeAll (d.resolve p) ownedDirectories d) t.1 := by
    intro t ht
    obtain ⟨f, hf, htarget, -⟩ := (Writer.mem_targets hts).mp ht
    have hname : f.1 ∈ b.files.names := List.mem_map_of_mem hf
    rw [eq_of_target hup (hfits.isNormal _ hname) htarget]
    apply takes_removeAll hd hroot hdirectory hfits hreach hname
  have hapart := pairwise_targets hup hfits hnodup hts
  have hsound := (confinedTo_removeAll hup ownedDirectories (by decide) d).sound hd
  obtain ⟨d', hwrite⟩ := exists_forM_writeText hsound htakes hapart
  exact ⟨d', fill_plain_eq_ok_iff.mpr ⟨ts, hts, hwrite⟩⟩

end

/-! ### Bundles that replace others -/

theorem outcome_writeTo_of_makeDirectories {d₁ : Disk}
    (hmake : (Disk.makeDirectories p).outcome d = (.ok (), d₁)) :
  (b.writeTo p).outcome d = (Writer.plain.fill b (d.resolve p)).outcome d₁
  := Writer.outcome_store_of_makeDirectories hmake

/-- A target that there is none of is a value that is not allowed. -/
theorem kind_of_target {path : String} {e : StorageFault} (h : target root path = .error e) :
  e.kind = .value
  := by
  rw [target] at h
  split at h
  · cases h
    rfl
  · split at h
    · cases h
    · cases h
      rfl

/-- Nothing is written if a path of a bundle leads out of the directory or to the directory
itself. -/
theorem fill_eq_error {path : String} (hpath : path ∈ b.files.names)
    (hout : ¬ Below root (((FilePath.ofPlace root).append (.ofText path)).resolve root)) :
  ∃ e, (Writer.plain.fill b root).outcome d = (.error e, d) ∧ e.kind = .value
  := by
  cases hts : Writer.plain.targets b root with
  | ok ts =>
      obtain ⟨f, hf, rfl⟩ := List.mem_map.mp hpath
      obtain ⟨t, ht⟩ := exists_mapM_eq_ok_iff.mp ⟨ts, hts⟩ f (List.mem_mergeSort.mpr hf)
      obtain ⟨place, hplace, -⟩ := map_eq_ok_iff.mp ht
      obtain ⟨-, hresolve, hbelow⟩ := target_eq_ok_iff.mp hplace
      rw [hresolve] at hout
      exact absurd hbelow hout
  | error e =>
      obtain ⟨f, -, he⟩ := exists_of_mapM_eq_error hts
      refine ⟨e, outcome_bind_eq_error_iff.mpr (Or.inl ?_), ?_⟩
      · rw [outcome_look, hts]
      · apply kind_of_target (map_eq_error_iff.mp he)

/-- What is read where a bundle was stored are its texts, and those from before that it left. -/
theorem Stored.mem_readFrom_iff (h : Stored b p d d') (hreturn : ∀ f ∈ b.files, '\r' ∉ f.2.toList)
    {location : Option Location} {b' : Bundle} (hread : readFrom d' p location = .ok b')
    (f : String × String) :
  f ∈ b'.files ↔ f ∈ b.files ∨ f.1 ∉ b.files.names ∧ Leaves d (d.resolve p) f
  := by
  have hwritten := confinedTo_writeTo h.sound h.proper h.writeTo_eq
  rw [Bundle.mem_readFrom_iff (hwritten.sound h.sound).tree hread, hwritten.resolve_eq]
  constructor
  · rintro ⟨c, hfile, htext⟩
    rcases (h.hasFile_iff c).mp hfile with ⟨g, hg, hpath, rfl⟩ | ⟨hnew, hmanaged, hold⟩
    · left
      rw [textOf_text, unified_of_not_mem (hreturn g hg), Except.ok.injEq] at htext
      rw [← Prod.ext (Text.segments_injective hpath) htext]
      apply hg
    · right
      refine ⟨?_, hmanaged, c, hold, htext⟩
      intro hmem
      obtain ⟨g, hg, hpath⟩ := List.mem_map.mp hmem
      exact hnew g hg (by rw [hpath])
  · rintro (hf | ⟨hnew, hmanaged, c, hold, htext⟩)
    · refine ⟨.text f.2, (h.hasFile_iff _).mpr (Or.inl ⟨f, hf, rfl, rfl⟩), ?_⟩
      rw [textOf_text, unified_of_not_mem (hreturn f hf)]
    · refine ⟨c, (h.hasFile_iff c).mpr (Or.inr ⟨?_, hmanaged, hold⟩), htext⟩
      intro g hg hpath
      apply hnew
      rw [← Text.segments_injective hpath]
      exact List.mem_map_of_mem hg

theorem avoids_of_directory_eq {d₁ : Disk} (h : d₁.directory = d.directory)
    (havoids : Avoids d₁ p) :
  Avoids d p
  := by
  simpa only [Avoids, Disk.resolve, h] using havoids

section

variable (hd : d.Sound) (hp : p.Proper) (hnodup : b.files.names.Nodup) {d₁ : Disk}
  (hmake : (Disk.makeDirectories p).outcome d = (.ok (), d₁))

include hd hp hnodup hmake

/-- A bundle that fits into the directory that was made for it is stored there. -/
theorem exists_stored (hfits : Fits b (d.resolve p) d₁) (hreach : InReach b p d₁) :
  ∃ d', Stored b p d d'
  := by
  obtain ⟨hroot, hconfined⟩ := of_makeDirectories hd hp (outcome_adapt_eq_ok_iff.mpr hmake)
  have hresolve : d₁.resolve p = d.resolve p := hconfined.resolve_eq p
  have hshort := hreach.short_owned
  have hleads := (leadsTo_of_makeDirectories hmake).2
  obtain ⟨d', hfill⟩ : ∃ d', (Writer.plain.fill b (d₁.resolve p)).outcome d₁ = (.ok (), d') := by
    rw [← hresolve] at hroot hleads hfits
    apply exists_fill (hconfined.sound hd) hroot hleads.2 hfits hreach hnodup
  rw [hresolve] at hfill hshort
  rw [← outcome_writeTo_of_makeDirectories hmake] at hfill
  exact ⟨d', hd, hp, hfits.isNormal, hnodup, hshort, hfill⟩

omit hnodup in
/-- The directory of a bundle that was stored can be read. -/
theorem Stored.exists_readFrom (hfits : Fits b (d.resolve p) d₁) (hreach : InReach b p d₁)
    (h : Stored b p d d') (location : Option Location) :
  ∃ b', readFrom d' p location = .ok b'
  := by
  obtain ⟨-, hconfined⟩ := of_makeDirectories hd hp (outcome_adapt_eq_ok_iff.mpr hmake)
  have hwritten := confinedTo_writeTo hd hp h.writeTo_eq
  have hresolve : d₁.resolve p = d.resolve p := hconfined.resolve_eq p
  have hreached : Reaches d' p := by
    have hleads := leadsTo_of_writeTo hd hp
      (avoids_of_directory_eq hconfined.directory_eq hreach.avoids) h.writeTo_eq
    constructor
    · rw [hwritten.resolve_eq]
      apply hleads
    · intro rest c hfile
      rw [hwritten.resolve_eq, h.hasFile_iff] at hfile
      rcases hfile with ⟨f, hf, rfl, -⟩ | ⟨-, hmanaged, hold⟩
      · apply (hreach.short f.1 (List.mem_map_of_mem hf)).2
      · rw [← hconfined.hasFile_iff id, ← hresolve] at hold
        apply hreach.short_left hmanaged hold
  apply Bundle.exists_readFrom (hwritten.sound hd).tree (isPlain_of_writeTo h.writeTo_eq) hreached
  intro rest c hfile
  rw [hwritten.resolve_eq, h.hasFile_iff] at hfile
  rcases hfile with ⟨f, -, -, rfl⟩ | ⟨-, hmanaged, hold⟩
  · exact ⟨_, textOf_text f.2⟩
  · rw [← hconfined.hasFile_iff id] at hold
    apply hfits.exists_text hmanaged hold

end

/-- A directory with an agent of an earlier bundle, and a note that someone has put beside it. -/
def notedDisk : Disk := ⟨⟨[
  (["out"], .directory),
  (["out", "NOTES.md"], .file (.text "Mine.\n")),
  (["out", "agents"], .directory),
  (["out", "agents", "old.md"], .file (.text "Old.\n"))]⟩, []⟩

def devBundle : Bundle := ⟨[("agents/dev.md", "New.\n")], none⟩

theorem hasFile_notedDisk {rest : Place} {c : Content} (h : notedDisk.HasFile (["out"] ++ rest) c) :
  (rest = ["NOTES.md"] ∧ c = .text "Mine.\n") ∨ (rest = ["agents", "old.md"] ∧ c = .text "Old.\n")
  := by
  have hmem :=
    Tree.mem_entries_of_get? (List.append_ne_nil_of_left_ne_nil (List.cons_ne_nil _ _) rest) h
  simpa [notedDisk] using hmem

theorem fits_devBundle :
  Fits devBundle ["out"] notedDisk
  := by
  have hnames : ∀ path ∈ devBundle.files.names, path = "agents/dev.md" := by decide
  constructor
  · decide
  · decide
  · intro path hpath front hfront _ c hremains
    rw [hnames path hpath] at hfront
    rcases hasFile_notedDisk hremains.1 with ⟨rfl, -⟩ | ⟨rfl, -⟩
    · exact absurd hfront (by decide)
    · exact absurd hfront (by decide)
  · intro path hpath hremains
    rw [hnames path hpath] at hremains
    cases hremains.1
  · decide
  · intro rest c _ hfile
    rcases hasFile_notedDisk hfile with ⟨-, rfl⟩ | ⟨-, rfl⟩
    · exact ⟨_, rfl⟩
    · exact ⟨_, rfl⟩

theorem inReach_devBundle :
  InReach devBundle (.ofText "out") notedDisk
  := by
  constructor
  · decide
  · decide
  · intro rest c _ hfile
    rcases hasFile_notedDisk hfile with ⟨rfl, -⟩ | ⟨rfl, -⟩
    · decide
    · decide
  · decide
  · decide

/-- A directory with no file in it, but with one for agents. -/
def bareDisk : Disk := ⟨⟨[(["out"], .directory), (["out", "agents"], .directory)]⟩, []⟩

/-- The directory with nothing in it. -/
def clearedDisk : Disk := ⟨⟨[(["out"], .directory)]⟩, []⟩

/-- A bundle of one text. -/
def single (name s : String) : Bundle := ⟨[(name, s)], none⟩

theorem fits_single {name s : String} (hslash : '/' ∉ name.toList) (hnormal : IsNormal name)
    (hname : name ≠ "agents") (hs : '\r' ∉ s.toList) :
  Fits (single name s) ["out"] bareDisk
  := by
  have hnames : ∀ path ∈ (single name s).files.names, path = name :=
    fun path => List.mem_singleton.mp
  have hnone : ∀ {rest : Place} {c : Content}, ¬ bareDisk.HasFile (["out"] ++ rest) c := by
    intro rest c hfile
    have hmem :=
      Tree.mem_entries_of_get? (List.append_ne_nil_of_left_ne_nil (List.cons_ne_nil _ _) rest) hfile
    simp [bareDisk] at hmem
  constructor
  · intro path hpath
    rw [hnames path hpath]
    apply hnormal
  · intro path hpath path' hpath' _
    rw [hnames path hpath, hnames path' hpath']
  · intro path _ front _ _ c hremains
    exact hnone hremains.1
  · intro path hpath hremains
    have hmem := Tree.mem_entries_of_get?
      (List.append_ne_nil_of_left_ne_nil (List.cons_ne_nil _ _) _) hremains.1
    rw [hnames path hpath, Text.segments_of_not_mem hslash] at hmem
    simp [bareDisk, hname] at hmem
  · intro f hf
    rw [List.mem_singleton.mp hf]
    apply hs
  · intro rest c _ hfile
    exact absurd hfile hnone

/-- A name of 256 characters. -/
def longName : String := String.ofList (List.replicate 256 'a')

theorem toList_longName :
  longName.toList = List.replicate 256 'a'
  := String.toList_ofList

/-- A bundle is not written if a name of its paths is too long. -/
theorem writeTo_single_ne_ok {name s : String} (hslash : '/' ∉ name.toList)
    (hnormal : IsNormal name) (hlong : longestName < name.utf8ByteSize) (d' : Disk) :
  ((single name s).writeTo (.ofText "out")).outcome bareDisk ≠ (.ok (), d')
  := by
  intro h
  have hd : bareDisk.Sound := by decide
  have hp := FilePath.proper_ofText "out"
  have hnames : ∀ path ∈ (single name s).files.names, IsNormal path := by
    intro path hpath
    rw [List.mem_singleton.mp hpath]
    apply hnormal
  have hfile := (hasFile_of_writeTo hd hp hnames (List.nodup_singleton _) h List.mem_cons_self).1
  rw [Text.segments_of_not_mem hslash] at hfile
  have hname := ((confinedTo_writeTo hd hp h).sound hd).tree.isName_of_get? hfile name (by simp)
  exact absurd hname.short (Nat.not_le.mpr hlong)

/-- A bundle is written to a directory that is reached through another one, which is removed. -/
theorem outcome_writeTo_bareDisk :
  ((single "NOTES.md" "x").writeTo (.ofText "out/agents/..")).outcome bareDisk
    = (.ok (), clearedDisk.withTree
      (clearedDisk.tree.insert ["out", "NOTES.md"] (.file (.text "x"))))
  := by
  have hmake : (Disk.makeDirectories (.ofText "out/agents/..")).outcome bareDisk
      = (.ok (), bareDisk) :=
    outcome_makeDirectories_of_leadsTo (by decide) (show bareDisk.LeadsTo _ ["out"] from ⟨rfl, rfl⟩)
  have hresolve : bareDisk.resolve (.ofText "out/agents/..") = ["out"] := by decide
  have htargets : Writer.plain.targets (single "NOTES.md" "x") ["out"]
      = .ok [(["out", "NOTES.md"], "x")] := by
    rw [Writer.targets, single, List.mergeSort_singleton]
    rfl
  have hremoved : removeAll ["out"] ownedDirectories bareDisk = clearedDisk := rfl
  have hparent : (Disk.makeDirectories (.ofPlace ["out"])).outcome clearedDisk
      = (.ok (), clearedDisk) :=
    outcome_makeDirectories_of_directory (by decide) (by decide) (by decide) rfl
  rw [outcome_writeTo_of_makeDirectories hmake, hresolve, fill_plain_eq_ok_iff]
  refine ⟨_, htargets, ?_⟩
  rw [hremoved]
  exact outcome_bind_eq_ok_iff.mpr ⟨(), _, outcome_writeText hparent rfl, rfl⟩

end AgentBundles.Bundle
