import AgentBundles.Proofs.Build.Progress
import AgentBundles.Proofs.Template.Directory

/-!
# Roots

Templates and stacks are asked for by identifiers, and bundles come with paths; an identifier or a
path may be any text. What is found under an identifier is in a file strictly below its root, and
does not depend on anything that is not there; and files are changed strictly below the directory of
a bundle only.
-/

namespace AgentBundles

/-- A place that is named relative to another one lies there or below. -/
theorem exists_rest_of_relative? {above place : Place}
    (h : ¬ (relative? above place).isNone = true) :
  ∃ rest, place = above ++ rest
  := by
  obtain ⟨rest, hrest⟩ := Option.ne_none_iff_exists'.mp (mt Option.isNone_iff_eq_none.mpr h)
  exact ⟨rest, relative?_eq_some_iff.mp hrest⟩

namespace Disk

variable {d d' : Disk} {p : FilePath} {root rest : Place}

/-! ### Disks that are the same below a place -/

/-- The same is at a place and below it, and relative paths start in the same directory. -/
structure SameBelow (root : Place) (d d' : Disk) : Prop where
  directory_eq : d'.directory = d.directory
  get?_eq : ∀ rest, d'.tree.get? (root ++ rest) = d.tree.get? (root ++ rest)

theorem SameBelow.resolve_eq (h : SameBelow root d d') (p : FilePath) :
  d'.resolve p = d.resolve p
  := by
  rw [resolve, resolve, h.directory_eq]

/-- From a place on, names lead to the same places below it. -/
theorem SameBelow.foldlM_enter_eq (h : SameBelow root d d') (hup : ".." ∉ rest) (front : Place) :
  rest.foldlM d'.enter (root ++ front) = rest.foldlM d.enter (root ++ front)
  := by
  induction rest generalizing front with
  | nil => rfl
  | cons n rest ih =>
      rw [List.mem_cons, not_or] at hup
      have henter : d'.enter (root ++ front) n = d.enter (root ++ front) n := by
        rw [enter, enter, h.get?_eq]
      rw [List.foldlM_cons, List.foldlM_cons, henter]
      cases hthere : d.enter (root ++ front) n with
      | error cause => rfl
      | ok there =>
          obtain ⟨-, -, rfl⟩ := enter_eq_ok_iff.mp hthere
          have hne : (n == "..") = false := beq_eq_false_iff_ne.mpr (Ne.symm hup.1)
          rw [ok_bind, ok_bind, FilePath.enter, hne, if_neg Bool.false_ne_true, List.append_assoc]
          apply ih hup.2

/-- The names of a place lead to it from the root of the tree. -/
def Reachable (d : Disk) (place : Place) : Prop :=
  place.foldlM d.enter [] = .ok place

theorem Sound.reachable (hd : d.Sound) (h : d.tree.get? root = some .directory) :
  d.Reachable root
  := by
  have hroot : d.tree.get? ([] ++ root) = some .directory := h
  apply foldlM_enter_of_get? hd.tree hroot

/-- What is in a directory can be reached, whether it is there or not. -/
theorem Sound.reachable_concat (hd : d.Sound) (h : d.tree.get? root = some .directory) {n : String}
    (hn : IsName n) :
  d.Reachable (root ++ [n])
  := by
  have hne : (n == "..") = false := beq_eq_false_iff_ne.mpr hn.ne_up
  have henter : d.enter root n = .ok (root ++ [n]) := by
    rw [enter_eq_ok_iff, FilePath.enter, hne, if_neg Bool.false_ne_true]
    exact ⟨h, hn.short, rfl⟩
  rw [Reachable, List.foldlM_append, hd.reachable h, ok_bind, List.foldlM_cons, henter]
  rfl

/-- Below a place that can be reached, paths lead to the same on disks that are the same there. -/
theorem SameBelow.find_eq (h : SameBelow root d d') (hroot : d.Reachable root)
    (hroot' : d'.Reachable root) (hup : ".." ∉ rest) :
  d'.find (.ofPlace (root ++ rest)) = d.find (.ofPlace (root ++ rest))
  := by
  have hstart : ∀ d : Disk, d.Reachable root → d.walk (.ofPlace (root ++ rest))
      = if longestPath < (FilePath.ofPlace (root ++ rest)).text.utf8ByteSize
        then .error .nameTooLong
        else rest.foldlM d.enter root := by
    intro d hd
    have hfold : (root ++ rest).foldlM d.enter [] = rest.foldlM d.enter root := by
      rw [List.foldlM_append, hd, ok_bind]
    rw [← hfold]
    rfl
  have hfold : rest.foldlM d'.enter root = rest.foldlM d.enter root := by
    have heq := h.foldlM_enter_eq hup []
    rw [List.append_nil] at heq
    apply heq
  have hwalk : d'.walk (.ofPlace (root ++ rest)) = d.walk (.ofPlace (root ++ rest)) := by
    rw [hstart d hroot, hstart d' hroot', hfold]
  rw [find, find, hwalk]
  cases hplace : d.walk (.ofPlace (root ++ rest)) with
  | error cause => rfl
  | ok place =>
      rw [hstart d hroot] at hplace
      split at hplace
      · cases hplace
      · obtain ⟨rfl, -⟩ := of_foldlM_enter hplace
        rw [ok_bind, ok_bind, foldl_enter hup, h.get?_eq]

/-- What is read of a path depends on what it leads to only. -/
theorem reads_eq (h : d'.find p = d.find p) :
  d'.isFile p = d.isFile p ∧ d'.size p = d.size p ∧ d'.read p = d.read p
  := by
  have hfind : d'.find? p = d.find? p := by rw [find?, find?, h]
  refine ⟨?_, ?_, ?_⟩
  · rw [isFile, isFile, hfind]
  · rw [size, size, hfind]
  · rw [read, read, content, content, h]

/-- No path of a sound disk names a place by two dots. -/
theorem Sound.up_not_mem_resolve (hd : d.Sound) (p : FilePath) :
  ".." ∉ d.resolve p
  := by
  intro hmem
  rcases FilePath.mem_resolve hmem with hmem | ⟨-, hne⟩
  · exact (hd.directory _ hmem).ne_up rfl
  · exact hne rfl

/-- A directory that was asked for is at the place that its path names. -/
theorem directory_of_requireDirectory {what : String} (h : d.requireDirectory what p = .ok ()) :
  d.tree.get? (d.resolve p) = some .directory
  := by
  obtain ⟨place, hwalk, hplace⟩ := leadsTo_of_isDirectory (requireDirectory_eq_ok_iff.mp h)
  rw [resolve_of_walk hwalk]
  apply hplace

end Disk

open Disk

variable {d d' : Disk}

/-! ### Templates -/

namespace TemplateDirectory

variable {t : TemplateDirectory} {id : String}

/-- A template that is found is the text of a file that is not above its root. -/
theorem exists_file_of_get (hd : d.Sound) {s : String} (h : t.get d id = .ok s) :
  ∃ rest c, d.HasFile (d.resolve t.root ++ rest) c ∧ textOf c = .ok s
  := by
  obtain ⟨-, ⟨rest, hrest⟩, -, -, hread⟩ := get_eq_ok_iff.mp h
  obtain ⟨c, hc, hs⟩ := content_of_read hread
  rw [Disk.resolve, FilePath.resolve_ofPlace (hd.up_not_mem_resolve _), hrest] at hc
  exact ⟨rest, c, hc, hs⟩

/-- What is found under an identifier depends on what is below the root only. -/
theorem get_eq (hd : d.Sound) (h : SameBelow (d.resolve t.root) d d')
    (hroot : d.Reachable (d.resolve t.root)) (hroot' : d'.Reachable (d.resolve t.root))
    (id : String) :
  t.get d' id = t.get d id
  := by
  rw [get, get]
  split
  · exact (error_bind _ _).trans (error_bind _ _).symm
  · dsimp only
    rw [h.resolve_eq, h.resolve_eq]
    split
    · exact (error_bind _ _).trans (error_bind _ _).symm
    · rename_i hinside
      obtain ⟨rest, hrest⟩ := exists_rest_of_relative? hinside
      have hup := hd.up_not_mem_resolve (t.pathOf id)
      rw [hrest, List.mem_append, not_or] at hup
      obtain ⟨hfile, hsize, hread⟩ := reads_eq (h.find_eq hroot hroot' hup.2)
      rw [hrest, hfile, hsize, hread]

end TemplateDirectory

/-! ### Stacks -/

namespace SourceTree

variable {t : SourceTree} {id : String}

/-- What a document describes by a value; by none it describes a record without fields. -/
def described : Value → Value
  | .null => .map []
  | v => v

theorem document_eq {α : Type} {p : FilePath} (h : d'.find p = d.find p)
    (read : Value → Except Record.Fault α) :
  t.document d' p read = t.document d p read
  := by
  obtain ⟨hfile, hsize, hread⟩ := reads_eq h
  rw [document, document, text, text, isFile, isFile, hfile, hsize, hread]

/-- The directory of the stacks is one of the source tree. -/
theorem resolve_stacksRoot (t : SourceTree) (d : Disk) :
  d.resolve t.stacksRoot = d.resolve t.root ++ ["stacks"]
  := FilePath.resolve_below (by decide) t.root d.directory

/-- The file of a stack is not the directory of the stacks, whatever the identifier is. -/
theorem resolve_stackFile_ne (t : SourceTree) (d : Disk) (id : String) :
  d.resolve ((t.stacksRoot.child id).below [stackFile]) ≠ d.resolve t.stacksRoot
  := by
  have hfile : d.resolve ((t.stacksRoot.child id).below [stackFile])
      = d.resolve (t.stacksRoot.child id) ++ [stackFile] :=
        FilePath.resolve_below (by decide) _ d.directory
  rw [hfile, resolve_stacksRoot]
  intro heq
  have hlast : [stackFile] = ["stacks"] := (List.append_inj' heq rfl).2
  revert hlast
  decide

/-- A stack that is found is described by a file below the directory of the stacks. -/
theorem exists_file_of_stack (hd : d.Sound) {r : Record.Stack} (h : t.stack d id = .ok r) :
  ∃ rest c s v, rest ≠ [] ∧ d.HasFile (d.resolve t.stacksRoot ++ rest) c ∧ textOf c = .ok s ∧
    Yaml.read s = .ok v ∧ Record.Stack.ofValue (described v) = .ok r
  := by
  rw [stack] at h
  dsimp only at h
  split at h
  · cases h
  · split at h
    · cases h
    · rename_i hinside
      obtain ⟨rest, hrest⟩ := exists_rest_of_relative? hinside
      have hne : rest ≠ [] := by
        rintro rfl
        rw [List.append_nil] at hrest
        exact resolve_stackFile_ne t d id hrest
      rw [document] at h
      obtain ⟨s, hs, h⟩ := bind_eq_ok_iff.mp h
      obtain ⟨v, hv, h⟩ := bind_eq_ok_iff.mp h
      obtain ⟨c, hc, hs⟩ := content_of_read (read_of_text hs)
      have hup := hd.up_not_mem_resolve ((t.stacksRoot.child id).below [stackFile])
      rw [Disk.resolve, FilePath.resolve_ofPlace hup, hrest] at hc
      exact ⟨rest, c, s, v, hne, hc, hs, mapError_eq_ok_iff.mp hv, mapError_eq_ok_iff.mp h⟩

/-- What is found under an identifier depends on what is below the directory of the stacks only. -/
theorem stack_eq (hd : d.Sound) (h : SameBelow (d.resolve t.stacksRoot) d d')
    (hroot : d.Reachable (d.resolve t.stacksRoot)) (hroot' : d'.Reachable (d.resolve t.stacksRoot))
    (id : String) :
  t.stack d' id = t.stack d id
  := by
  rw [stack, stack]
  dsimp only
  split
  · exact (error_bind _ _).trans (error_bind _ _).symm
  · rw [h.resolve_eq, h.resolve_eq]
    split
    · exact (error_bind _ _).trans (error_bind _ _).symm
    · rename_i hinside
      obtain ⟨rest, hrest⟩ := exists_rest_of_relative? hinside
      have hup := hd.up_not_mem_resolve ((t.stacksRoot.child id).below [stackFile])
      rw [hrest, List.mem_append, not_or] at hup
      rw [hrest]
      apply document_eq (h.find_eq hroot hroot' hup.2)

end SourceTree

/-! ### Identifiers and paths that lead nowhere else -/

/-- No identifier and no path leads out of its root. The template that is found under an identifier
is the text of a file strictly below the root of the templates, and a stack is described by one
strictly below the directory of the stacks; what comes of asking for either is the same on all disks
that have the same there. And whatever comes of writing a bundle, files are made, changed and
removed strictly below its directory only. -/
theorem confined_to_roots (hd : d.Sound) :
  (∀ root limit t, TemplateDirectory.read d root limit = .ok t → ∀ id,
      (∀ s, t.get d id = .ok s → ∃ rest c,
        rest ≠ [] ∧ d.HasFile (d.resolve root ++ rest) c ∧ textOf c = .ok s) ∧
      ∀ d', d'.Sound → SameBelow (d.resolve root) d d' → t.get d' id = t.get d id) ∧
    (∀ root limit t, SourceTree.read d root limit = .ok t → ∀ id,
      (∀ r, t.stack d id = .ok r → ∃ rest c s v,
        rest ≠ [] ∧ d.HasFile (d.resolve t.stacksRoot ++ rest) c ∧ textOf c = .ok s ∧
        Yaml.read s = .ok v ∧ Record.Stack.ofValue (SourceTree.described v) = .ok r) ∧
      ∀ d', d'.Sound → SourceTree.read d' root limit = .ok t →
        SameBelow (d.resolve t.stacksRoot) d d' → t.stack d' id = t.stack d id) ∧
    ∀ (b : Bundle) (path : String),
      ConfinedTo (Bundle.Below (d.resolve (.ofText path))) d
        ((b.writeTo (.ofText path)).outcome d).2
  := by
  refine ⟨?_, ?_, ?_⟩
  · intro root limit t ht id
    obtain ⟨_, hrequired, rfl⟩ := map_eq_ok_iff.mp ht
    have hdirectory := directory_of_requireDirectory hrequired
    constructor
    · intro s hs
      obtain ⟨rest, c, hc, htext⟩ := TemplateDirectory.exists_file_of_get hd hs
      refine ⟨rest, c, ?_, hc, htext⟩
      rintro rfl
      rw [List.append_nil, HasFile, hdirectory] at hc
      cases hc
    · intro d' hd' hsame
      have hdirectory' := hsame.get?_eq []
      rw [List.append_nil, hdirectory] at hdirectory'
      exact TemplateDirectory.get_eq (t := ⟨root, limit⟩) hd hsame (hd.reachable hdirectory)
        (hd'.reachable hdirectory') id
  · intro root limit t ht id
    have hstacks : IsName "stacks" := by decide
    have hread : ∀ d : Disk, d.Sound → SourceTree.read d root limit = .ok t →
        d.Reachable (d.resolve t.stacksRoot) := by
      intro d hd ht
      obtain ⟨_, hrequired, rfl⟩ := map_eq_ok_iff.mp (mapError_eq_ok_iff.mp ht)
      rw [SourceTree.resolve_stacksRoot]
      apply hd.reachable_concat (directory_of_requireDirectory hrequired) hstacks
    constructor
    · intro r hr
      apply SourceTree.exists_file_of_stack hd hr
    · intro d' hd' ht' hsame
      have hroot' := hread d' hd' ht'
      rw [hsame.resolve_eq] at hroot'
      exact SourceTree.stack_eq hd hsame (hread d hd ht) hroot' id
  · intro b path
    exact Bundle.Writer.confined_plain.store hd (FilePath.proper_ofText path) b

/-- The small disk with a file beside its directories. -/
def secretDisk : Disk :=
  Build.smallDisk.withTree (Build.smallDisk.tree.insert ["secret.md"] (.file (.text "Secret.\n")))

theorem sound_secretDisk :
  secretDisk.Sound
  := by
  apply Build.sound_smallDisk.withTree_insert (List.cons_ne_nil _ _) (by decide) rfl
    (Or.inr (by decide))

theorem sameBelow_secretDisk {name : String} (h : name ≠ "secret.md") (place : Place) :
  SameBelow (name :: place) Build.smallDisk secretDisk
  := by
  constructor
  · rfl
  · intro rest
    apply Tree.get?_insert_of_ne
    simp [h]

/-- A template and a stack are found below their roots, an identifier that leads to the file beside
them finds the same as without that file, and a bundle with a path that leads there changes files
below its directory only. -/
theorem confined_to_roots_smallDisk :
  (∃ t, TemplateDirectory.read Build.smallDisk (.ofText "kit/templates") defaultFileLimit = .ok t ∧
      (∃ rest c, rest ≠ [] ∧ Build.smallDisk.HasFile (["kit", "templates"] ++ rest) c ∧
        textOf c = .ok "Review everything.\n") ∧
      t.get secretDisk "../../secret" = t.get Build.smallDisk "../../secret") ∧
    (∃ rest c s, rest ≠ [] ∧ Build.smallDisk.HasFile (["kit", "stacks"] ++ rest) c ∧
      textOf c = .ok s) ∧
    Build.smallSource.stack secretDisk "../../secret.md"
      = Build.smallSource.stack Build.smallDisk "../../secret.md" ∧
    ConfinedTo (Bundle.Below ["plugins"]) secretDisk
      (((⟨[("../secret.md", "Open.\n")], none⟩ : Bundle).writeTo (.ofText "plugins")).outcome
        secretDisk).2
  := by
  obtain ⟨htemplates, hstacks, -⟩ := confined_to_roots Build.sound_smallDisk
  obtain ⟨-, -, hbundles⟩ := confined_to_roots sound_secretDisk
  have hroot : TemplateDirectory.read Build.smallDisk (.ofText "kit/templates") defaultFileLimit
      = .ok ⟨.ofText "kit/templates", defaultFileLimit⟩ := eq_ok_of_toOption (by decide +kernel)
  have htree : SourceTree.read Build.smallDisk (.ofText "kit") defaultFileLimit
      = .ok Build.smallSource :=
    eq_ok_of_toOption (by decide +kernel)
  have htree' : SourceTree.read secretDisk (.ofText "kit") defaultFileLimit
      = .ok Build.smallSource :=
    eq_ok_of_toOption (by decide +kernel)
  refine ⟨⟨_, hroot, ?_, ?_⟩, ?_, ?_, ?_⟩
  · apply (htemplates _ _ _ hroot "agent").1
    apply eq_ok_of_toOption (by decide +kernel)
  · apply (htemplates _ _ _ hroot "../../secret").2 _ sound_secretDisk
    apply sameBelow_secretDisk (by decide) ["templates"]
  · obtain ⟨rest, c, s, -, hrest, hc, hs, -⟩ :=
      (hstacks _ _ _ htree "web").1 _ (Build.stack_diskWith _)
    exact ⟨rest, c, s, hrest, hc, hs⟩
  · apply (hstacks _ _ _ htree "../../secret.md").2 _ sound_secretDisk htree'
    apply sameBelow_secretDisk (by decide) ["stacks"]
  · apply hbundles ⟨[("../secret.md", "Open.\n")], none⟩ "plugins"

end AgentBundles
