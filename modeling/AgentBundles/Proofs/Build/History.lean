import AgentBundles.Proofs.Build.Valid
import AgentBundles.Proofs.Bundle.Version

/-!
# Histories of a bundle

A bundle is built again and again in one directory. The first version is that of the stack; each
later one goes on from the version before, and is the same exactly if the documents are those that
are read back of the bundle before.
-/

namespace AgentBundles.Build

open Disk

/-! ### Versions -/

/-- Tables without a name twice are the same if they have the same members. -/
theorem sameTable_iff {t u : Table String} (ht : t.names.Nodup) (hu : u.names.Nodup) :
  sameTable t u = true ↔ ∀ f, f ∈ t ↔ f ∈ u
  := by
  have htable : sameTable t u = true ↔ t.length = u.length ∧ t ⊆ u := by
    rw [sameTable, Bool.and_eq_true, beq_iff_eq, List.all_eq_true]
    apply and_congr_right
    intro _
    apply forall_congr'
    intro f
    apply imp_congr_right
    intro _
    rw [beq_iff_eq]
    exact ⟨Table.mem_of_get?, Table.get?_of_mem hu⟩
  rw [htable]
  constructor
  · rintro ⟨hlength, hsubset⟩ f
    have hsubperm := List.subperm_of_subset (List.Nodup.of_map _ ht) hsubset
    apply (hsubperm.perm_of_length_le hlength.ge).mem_iff
  · intro hmem
    have hperm :=
      (List.perm_ext_iff_of_nodup (List.Nodup.of_map _ ht) (List.Nodup.of_map _ hu)).mpr hmem
    exact ⟨hperm.length_eq, hperm.subset⟩

/-- A manifest goes on from a bundle that can be read and whose version can be raised. -/
theorem exists_carryVersion {d : Disk} {earlier : Manifest} {path : FilePath} {part raised : String}
    {b : Bundle} (described : Manifest) (compiled : CompiledBundle)
    (hfile : d.isFile (path.child Manifest.path) = .ok true)
    (hread : Bundle.readFrom d path none = .ok b) (hearlier : b.manifest = .ok earlier)
    (hraised : raiseVersion earlier.version part = .ok raised) :
  ∃ m, carryVersion d described compiled path part = .ok m ∧
    (m.version = earlier.version ∨ m.version = raised)
  := by
  rw [carryVersion, hfile, Except.mapError, ok_bind, Bool.not_true, if_neg Bool.false_ne_true,
    hread, Except.mapError, ok_bind, hearlier, Except.mapError, ok_bind]
  dsimp only
  split
  · exact ⟨_, rfl, Or.inl rfl⟩
  · rw [Manifest.raiseVersion, hraised]
    exact ⟨_, rfl, Or.inr rfl⟩

/-- The version that a stack states. -/
def statedVersion (stack : Record.Stack) : String :=
  if stack.version.isEmpty then Manifest.defaultVersion else stack.version

/-- The documents of a product as they are read from the disk. -/
def Product.documentsBack (p : Product) : Table String :=
    p.documents.map fun f => (f.1, unified f.2)

theorem Product.documentsBack_eq {p : Product} (h : ∀ f ∈ p.documents, '\r' ∉ f.2.toList) :
  p.documentsBack = p.documents
  := by
  have hself : ∀ f ∈ p.documents, (f.1, unified f.2) = f := by
    intro f hf
    rw [unified_of_not_mem (h f hf)]
  rw [documentsBack, List.map_congr_left hself, List.map_id']

/-- No file stands where the compiler has a directory. -/
def Clear (d : Disk) (root : Place) : Prop :=
  ∀ name ∈ ownedDirectories, ∀ c, ¬ d.HasFile (root ++ [name]) c

namespace Planned

variable {w : Workshop} {d : Disk} {web : Web} {id : String} {q : Plan} {stack : Record.Stack}
    {compiled : CompiledBundle}
  {m : Manifest} (h : Planned w d web id q stack compiled m)

include h

theorem nodup_documents :
  q.product.documents.names.Nodup
  := by
  have hsublist : q.product.documents.Sublist q.bundle.files := by
    rw [Product.documents, h.bundle_eq]
    apply List.filter_sublist
  apply (hsublist.map _).nodup h.nodup_names

theorem contents_eq :
  contents compiled = q.product.documents
  := by
  have hnodup := h.nodup_documents
  rw [h.documents_eq] at hnodup ⊢
  apply Table.ofList_of_nodup hnodup

/-- A plan with a part to raise states the version of its stack, or goes on from that of the bundle
that is there. -/
theorem carryVersion_eq {part : String} (hbump : w.bump = some part) :
  carryVersion d (.describe (.ofStack stack) compiled.paths) compiled q.product.path part = .ok m
  := by
  have hm := h.manifestFor_eq
  rw [manifestFor, hbump, ← h.path_eq] at hm
  apply hm

/-- Where no manifest is, the version is that of the stack. -/
theorem version_of_not_hasFile {part : String} (hbump : w.bump = some part)
    (hnone : ∀ c, ¬ d.HasFile (d.resolve q.product.path ++ Text.segments Manifest.path) c) :
  q.product.version = statedVersion stack
  := by
  rw [h.version_eq]
  rcases of_carryVersion (h.carryVersion_eq hbump) with ⟨-, rfl⟩ | ⟨hfile, -⟩
  · rfl
  · obtain ⟨c, hc⟩ := exists_hasFile_of_isFile hfile
    have hnormal : IsNormal Manifest.path := by decide
    rw [Disk.resolve, hnormal.resolve_child] at hc
    exact absurd hc (hnone c)

/-- Where a manifest is, the version goes on from that of the bundle that is there. -/
theorem version_of_hasFile {part : String} (hbump : w.bump = some part) (hd : d.tree.Sound)
    {root : Place} (hplain : q.product.path.isPlain = true)
    (hwalk : d.walk q.product.path = .ok root) {c : Content}
    (hfile : d.HasFile (root ++ Text.segments Manifest.path) c) :
  ∃ b earlier, Bundle.readFrom d q.product.path none = .ok b ∧ b.manifest = .ok earlier ∧
    if sameTable (ownedFiles b.files) q.product.documents then q.product.version = earlier.version
    else raiseVersion earlier.version part = .ok q.product.version
  := by
  have hnormal : IsNormal Manifest.path := by decide
  have hbelow : (q.product.path.below (Text.segments Manifest.path)).isPlain = true :=
    FilePath.isPlain_below hplain (by decide)
  rcases of_carryVersion (h.carryVersion_eq hbump)
    with ⟨hnone, -⟩ | ⟨-, b, earlier, hread, hearlier, -, hversion⟩
  · rw [hnormal.child_eq] at hnone
    have hfalse := eq_true_of_isFile_below hd hwalk hbelow hfile hnone
    cases hfalse
  · rw [h.contents_eq, ← h.version_eq] at hversion
    exact ⟨b, earlier, hread, hearlier, hversion⟩

/-- The files of a plan lie below the directories of the compiler, not in place of them. -/
theorem segments_ne {f : String × String} (hf : f ∈ q.bundle.files) {name : String}
    (hname : name ∈ ownedDirectories) :
  Text.segments f.1 ≠ [name]
  := by
  have hother : ∀ path ∈ [Readme.path, Manifest.path], ∀ name ∈ ownedDirectories, Text.segments path
      ≠ [name] := by decide
  obtain ⟨profiles, as, ss, hs, hparts, -⟩ := exists_parts_of_compileStack h.compileStack_eq
  rw [h.files_eq] at hf
  rcases List.mem_append.mp hf with hf | hf
  · obtain ⟨x, hx, rfl⟩ := List.mem_map.mp hf
    have hmanaged := isManaged_of_mem_documents hparts hx
    intro heq
    dsimp only at heq
    rw [heq] at hmanaged
    cases hmanaged
  · apply hother _ (List.mem_map_of_mem hf) name hname

/-- What is clear of files stays so. -/
theorem clear {d' : Disk} {p : FilePath} (hwritten : Bundle.Written q.bundle p d d')
    (hclear : Clear d (d.resolve p)) :
  Clear d' (d.resolve p)
  := by
  intro name hname c hfile
  rw [hwritten.hasFile_iff] at hfile
  rcases hfile with ⟨f, hf, hpath, -⟩ | ⟨-, -, hold⟩
  · exact h.segments_ne hf hname hpath
  · exact hclear name hname c hold

end Planned

/-! ### Revisions -/

/-- A stack that was built in a directory, with a part of the version to raise if the bundle there
has other documents. -/
structure Revision (root : Place) where
  workshop : Workshop
  part : String
  web : Web
  id : String
  before : Disk
  product : Product
  after : Disk
  sound : workshop.Sound
  sound_before : before.Sound
  bump_eq : workshop.bump = some part
  buildStack_eq : (buildStack workshop web id).outcome before = (.ok product, after)
  resolve_eq : before.resolve product.path = root
  hasNormalAgents : product.HasNormalAgents

namespace Revision

variable {root : Place} {r s : Revision root} {rs : List (Revision root)}

theorem exists_written (r : Revision root) :
  ∃ q stack compiled m, q.product = r.product ∧
    Planned r.workshop r.before r.web r.id q stack compiled m ∧
    Bundle.Written q.bundle r.product.path r.before r.after
  := Build.exists_written r.sound r.sound_before r.buildStack_eq r.hasNormalAgents

theorem clear_after (h : Clear r.before root) :
  Clear r.after root
  := by
  obtain ⟨q, stack, compiled, m, -, hplanned, hwritten⟩ := r.exists_written
  have hclear : Clear r.before (r.before.resolve r.product.path) := by
    rw [r.resolve_eq]
    apply h
  have hafter := hplanned.clear hwritten hclear
  rw [r.resolve_eq] at hafter
  apply hafter

/-- Where no manifest is, the version is that of the stack. -/
theorem exists_stack_of_not_hasFile
    (h : ∀ c, ¬ r.before.HasFile (root ++ Text.segments Manifest.path) c) :
  ∃ stack, r.workshop.tree.stack r.before r.id = .ok stack ∧ r.product.version = statedVersion stack
  := by
  obtain ⟨q, stack, compiled, m, hproduct, hplanned, -⟩ := r.exists_written
  refine ⟨stack, hplanned.stack_eq, ?_⟩
  rw [← hproduct]
  apply hplanned.version_of_not_hasFile r.bump_eq
  rw [hproduct, r.resolve_eq]
  apply h

/-- One revision follows another: its path leads to the directory, in which no file has changed
between them. -/
structure Follows (r s : Revision root) : Prop where
  leadsTo : s.before.LeadsTo s.product.path root
  hasFile_iff : ∀ rest c, s.before.HasFile (root ++ rest) c ↔ r.after.HasFile (root ++ rest) c

/-- A revision on the disk that another one has left follows it, if the path of both does not lead
through what is removed there. -/
theorem follows_of_before_eq (hbefore : s.before = r.after)
    (hpath : s.product.path = r.product.path) (havoids : Bundle.Avoids r.before r.product.path) :
  Follows r s
  := by
  obtain ⟨q, stack, compiled, m, -, -, hwritten⟩ := r.exists_written
  have hleads :=
    Bundle.leadsTo_of_writeTo r.sound_before hwritten.proper havoids hwritten.writeTo_eq
  rw [r.resolve_eq, ← hpath, ← hbefore] at hleads
  refine ⟨hleads, ?_⟩
  intro rest c
  rw [hbefore]

/-- The version of a revision stays exactly if the documents are those that are read back of the one
before, and is raised if not. -/
structure Continues (r s : Revision root) : Prop where
  stays_iff : s.product.version = r.product.version ↔ ∀ f, f ∈ s.product.documents
    ↔ f ∈ r.product.documentsBack
  raised : ¬ (∀ f, f ∈ s.product.documents ↔ f ∈ r.product.documentsBack) →
    raiseVersion r.product.version s.part = .ok s.product.version

namespace Follows

variable (h : Follows r s)

include h

theorem clear_before (hclear : Clear r.after root) :
  Clear s.before root
  := by
  intro name hname c
  rw [h.hasFile_iff]
  apply hclear name hname c

/-- What the revision before has written is there still. -/
theorem holds {b : Bundle} (hwritten : Bundle.Written b r.product.path r.before r.after) :
  Bundle.Holds s.before root b.files
  := by
  have hafter := hwritten.holds
  rw [r.resolve_eq] at hafter
  constructor
  · intro f hf
    rw [h.hasFile_iff]
    apply hafter.hasFile f hf
  · intro rest c hrest hfile
    rw [h.hasFile_iff] at hfile
    apply hafter.exists_file hrest hfile

/-- What a revision reads in the directories of the compiler are the documents of the revision
before. -/
theorem mem_ownedFiles_iff (hclear : Clear r.after root) {b : Bundle}
    (hread : Bundle.readFrom s.before s.product.path none = .ok b) {q : Plan}
    (hproduct : q.product = r.product) (hbundle : q.product.report.bundle = q.bundle)
    (hback : Bundle.ReadsBack q.bundle.files b.files) {f : String × String} :
  f ∈ ownedFiles b.files ↔ f ∈ r.product.documentsBack
  := by
  have hdocuments : ∀ {g : String × String}, g ∈ r.product.documents
      ↔ g ∈ q.bundle.files ∧ isOwned g.1 = true := by
    intro g
    rw [← hproduct, Product.documents, hbundle, ownedFiles, List.mem_filter]
  rw [ownedFiles, List.mem_filter, Product.documentsBack, List.mem_map]
  constructor
  · rintro ⟨hf, howned⟩
    rcases hback.cases f hf with ⟨g, hg, rfl⟩ | hmanaged
    · exact ⟨g, hdocuments.mpr ⟨hg, howned⟩, rfl⟩
    · -- A path that is owned but not managed is that of a directory of the compiler.
      obtain ⟨c, hc⟩ := Bundle.hasFile_of_readFrom s.sound_before.tree hread hf
      rw [s.resolve_eq] at hc
      obtain ⟨name, rest, hsegments⟩ := List.exists_cons_of_ne_nil (Text.segments_ne_nil f.1)
      rw [isOwned, hsegments] at howned
      have hname : name ∈ ownedDirectories := List.contains_iff_mem.mp howned
      rw [hsegments] at hc hmanaged
      cases rest with
      | nil => exact absurd hc (h.clear_before hclear name hname c)
      | cons n rest =>
          rw [Bundle.isManaged_eq_true_iff.mpr ⟨name, hname, n :: rest, List.cons_ne_nil _ _, rfl⟩]
            at hmanaged
          cases hmanaged
  · rintro ⟨g, hg, rfl⟩
    obtain ⟨hg, howned⟩ := hdocuments.mp hg
    exact ⟨hback.mem g hg, howned⟩

/-- A revision goes on from the version of the one that it follows. -/
theorem continues (hclear : Clear r.after root) :
  Continues r s
  := by
  obtain ⟨q, stack, compiled, m, hproduct, hplanned, hwritten⟩ := r.exists_written
  obtain ⟨q', stack', compiled', m', hproduct', hplanned', hwritten'⟩ := s.exists_written
  have hholds := h.holds hwritten
  have hplain := Bundle.isPlain_of_writeTo hwritten'.writeTo_eq
  have hwalk := h.leadsTo.1
  rw [← hproduct'] at hplain hwalk
  have hmanifest := hholds.hasFile _ hplanned.mem_manifest
  obtain ⟨b, earlier, hread, hearlier, hversion⟩ :=
    hplanned'.version_of_hasFile s.bump_eq s.sound_before.tree hplain hwalk hmanifest
  rw [hproduct'] at hread hversion
  have hback : Bundle.ReadsBack q.bundle.files b.files := by
    apply Bundle.Holds.readsBack s.sound_before.tree _ hread
    rw [s.resolve_eq]
    apply hholds
  obtain ⟨earlier', hearlier', hsame⟩ := hplanned.exists_manifest_of_readsBack hback
  rw [hearlier, Except.ok.injEq] at hearlier'
  rw [hearlier', hsame, hproduct] at hversion
  have htables : sameTable (ownedFiles b.files) s.product.documents = true
      ↔ ∀ f, f ∈ s.product.documents ↔ f ∈ r.product.documentsBack := by
    have howned : (Table.names (ownedFiles b.files)).Nodup := by
      apply List.Nodup.sublist _ hback.nodup
      apply List.Sublist.map
      apply List.filter_sublist
    have hdocuments := hplanned'.nodup_documents
    rw [hproduct'] at hdocuments
    rw [sameTable_iff howned hdocuments]
    apply forall_congr'
    intro f
    rw [h.mem_ownedFiles_iff hclear hread hproduct hplanned.bundle_eq hback]
    apply Iff.comm
  by_cases heq : sameTable (ownedFiles b.files) s.product.documents = true
  · rw [if_pos heq] at hversion
    exact ⟨iff_of_true hversion (htables.mp heq), fun hne => absurd (htables.mp heq) hne⟩
  · rw [if_neg heq] at hversion
    exact ⟨iff_of_false (raiseVersion_ne hversion) fun hmem => heq (htables.mpr hmem),
      fun _ => hversion⟩

end Follows

/-! ### Histories -/

/-- In a history each version goes on from the one before. -/
theorem isChain_continues (h : (r :: rs).IsChain Follows) (hclear : Clear r.before root) :
  (r :: rs).IsChain Continues
  := by
  induction rs generalizing r with
  | nil => apply List.IsChain.singleton
  | cons s rs ih =>
      obtain ⟨hfollows, h⟩ := List.isChain_cons_cons.mp h
      have hafter := clear_after hclear
      exact List.isChain_cons_cons.mpr ⟨hfollows.continues hafter,
        ih h (hfollows.clear_before hafter)⟩

/-- Versions that go on from each other stay the same as long as the documents do, if these have no
carriage returns. -/
theorem version_eq_of_isChain (h : (r :: rs).IsChain Continues)
    (hreturn : ∀ s ∈ r :: rs, ∀ f ∈ s.product.documents, '\r' ∉ f.2.toList)
    (hsame : ∀ s ∈ rs, SameDocuments r.product s.product) :
  ∀ s ∈ rs, s.product.version = r.product.version
  := by
  induction rs generalizing r with
  | nil =>
      intro s hs
      cases hs
  | cons s rs ih =>
      obtain ⟨hcontinues, h⟩ := List.isChain_cons_cons.mp h
      obtain ⟨hfirst, hreturn⟩ := List.forall_mem_cons.mp hreturn
      obtain ⟨hnext, hsame⟩ := List.forall_mem_cons.mp hsame
      have hversion : s.product.version = r.product.version := by
        apply hcontinues.stays_iff.mpr
        intro f
        rw [Product.documentsBack_eq hfirst, hnext f]
      rw [List.forall_mem_cons]
      refine ⟨hversion, ?_⟩
      rw [← hversion]
      apply ih h hreturn
      intro t ht f
      rw [← hnext f, hsame t ht f]

/-- A history begins with the version of its stack; from then on a version stays exactly if the
documents are those that are read back of the revision before, and is raised if not. As long as
documents without carriage returns do not change, the version does not. -/
theorem versions_of_history (h : (r :: rs).IsChain Follows)
    (hnone : ∀ c, ¬ r.before.HasFile (root ++ Text.segments Manifest.path) c)
    (hclear : Clear r.before root) :
  (∃ stack, r.workshop.tree.stack r.before r.id = .ok stack ∧
      r.product.version = statedVersion stack) ∧
    (∀ s ∈ r :: rs, ∃ stack compiled, s.workshop.tree.stack s.before s.id = .ok stack ∧
      compileStack s.workshop s.before s.web s.id stack = .ok compiled ∧
      s.product.documents = compiled.documents.map fun x => (x.path, x.content)) ∧
    (r :: rs).IsChain Continues ∧
    ((∀ s ∈ r :: rs, ∀ f ∈ s.product.documents, '\r' ∉ f.2.toList) →
      (∀ s ∈ rs, SameDocuments r.product s.product) →
      ∀ s ∈ rs, s.product.version = r.product.version)
  := by
  have hcontinues := isChain_continues h hclear
  refine ⟨exists_stack_of_not_hasFile hnone, ?_, hcontinues, version_eq_of_isChain hcontinues⟩
  intro s _
  obtain ⟨stack, compiled, hstack, hcompiled, -, hdocuments⟩ :=
    (documents_of_buildStack s.buildStack_eq).1
  exact ⟨stack, compiled, hstack, hcompiled, hdocuments⟩

/-! ### A small history -/

theorem sound_after (r : Revision root) :
  r.after.Sound
  := (confinedTo_of_buildStack r.sound_before r.sound.output r.buildStack_eq).sound r.sound_before

/-- The stack of the small workshop is built in the place of what is left of an earlier bundle. -/
theorem exists_first :
  ∃ (r : Revision ["plugins", "web"]) (readme manifest : String), r.before = smallDisk ∧
    r.after = builtDisk reviewDocument.content readme manifest ∧ r.product.path = webPath ∧
    r.product.version = "1.0.0" ∧
    r.product.documents = [(reviewDocument.path, reviewDocument.content)]
  := by
  obtain ⟨p, readme, manifest, hbuild, hpath, hversion, hdocuments⟩ :=
    exists_buildStack_smallDisk (some "patch")
  have hresolve : smallDisk.resolve p.path = ["plugins", "web"] := by
    rw [hpath]
    rfl
  let r : Revision ["plugins", "web"] := {
    workshop := smallWorkshop (some "patch")
    part := "patch"
    web := noWeb
    id := "web"
    before := smallDisk
    product := p
    after := builtDisk reviewDocument.content readme manifest
    sound := sound_smallWorkshop _
    sound_before := sound_smallDisk
    bump_eq := rfl
    buildStack_eq := hbuild
    resolve_eq := hresolve
    hasNormalAgents := hasNormalAgents_of_documents_eq hdocuments }
  exact ⟨r, readme, manifest, rfl, rfl, hpath, hversion, hdocuments⟩

theorem raiseVersion_patch :
  raiseVersion "1.0.0" "patch" = .ok "1.0.1"
  := by
  have hread : Version.read? "1.0.0" = some ⟨1, 0, 0⟩ := by decide +kernel
  have hexcess : Version.excess? "1.0.0" = none := by decide +kernel
  have hpart : VersionPart.ofName? "patch" = some .patch := by decide +kernel
  have hwritable : (Version.raise ⟨1, 0, 0⟩ .patch).isWritable = true := by decide +kernel
  have htext : (Version.raise ⟨1, 0, 0⟩ .patch).text = "1.0.1" := by decide +kernel
  rw [raiseVersion, hread, hexcess, hpart]
  dsimp only
  rw [hwritable, htext, if_pos rfl]

/-- The version of the first bundle can be read and raised. -/
theorem exists_manifestFor_builtDisk {r : Revision ["plugins", "web"]} {readme manifest : String}
    (hafter : r.after = builtDisk reviewDocument.content readme manifest)
    (hversion : r.product.version = "1.0.0") :
  ∃ m, manifestFor (smallWorkshop (some "patch")) (builtDisk reviewDocument.content readme manifest)
      (.describe (.ofStack webStack) webBundle.paths) webBundle webPath = .ok m ∧
      Version.isSemantic m.version = true
  := by
  obtain ⟨q, stack, compiled, m, hproduct, hplanned, hwritten⟩ := r.exists_written
  have hsound := r.sound_after
  have hholds := hwritten.holds
  rw [r.resolve_eq] at hholds
  rw [hafter] at hsound hholds
  have hfile : (builtDisk reviewDocument.content readme manifest).isFile
      (webPath.child Manifest.path) = .ok true := by rfl
  obtain ⟨b, hread⟩ := Bundle.exists_readFrom hsound.tree rfl
    (reaches_builtDisk reviewDocument.content readme manifest)
      (exists_textOf_builtDisk reviewDocument.content readme manifest) none
  have hback : Bundle.ReadsBack q.bundle.files b.files := by
    apply Bundle.Holds.readsBack hsound.tree _ hread
    apply hholds
  obtain ⟨earlier, hearlier, hsame⟩ := hplanned.exists_manifest_of_readsBack hback
  rw [hproduct, hversion] at hsame
  have hraised : raiseVersion earlier.version "patch" = .ok "1.0.1" := by
    rw [hsame, raiseVersion_patch]
  obtain ⟨m', hm, hcases⟩ :=
    exists_carryVersion (.describe (.ofStack webStack) webBundle.paths) webBundle hfile hread
    hearlier hraised
  refine ⟨m', hm, ?_⟩
  rw [hsame] at hcases
  rcases hcases with heq | heq
  · rw [heq]
    decide
  · rw [heq]
    decide

/-- The stack of the small workshop is built in the place of its own bundle. -/
theorem exists_next {r : Revision ["plugins", "web"]} {readme manifest : String}
    (hbefore : r.before = smallDisk)
    (hafter : r.after = builtDisk reviewDocument.content readme manifest)
    (hpath : r.product.path = webPath) (hversion : r.product.version = "1.0.0") :
  ∃ s : Revision ["plugins", "web"], Follows r s ∧
    s.product.documents = [(reviewDocument.path, reviewDocument.content)]
  := by
  obtain ⟨m, hm, hsemantic⟩ := exists_manifestFor_builtDisk hafter hversion
  obtain ⟨p, readme', manifest', hbuild, hpath', -, hdocuments⟩ := exists_buildStack hm hsemantic
    fun agent' readme' manifest' => writeTo_builtDisk agent' readme' manifest' _ _ _
  rw [← builtDisk, ← hafter] at hbuild
  have hresolve : r.after.resolve p.path = ["plugins", "web"] := by
    rw [hpath', hafter]
    rfl
  let s : Revision ["plugins", "web"] := {
    workshop := smallWorkshop (some "patch")
    part := "patch"
    web := noWeb
    id := "web"
    before := r.after
    product := p
    after := builtDisk reviewDocument.content readme' manifest'
    sound := sound_smallWorkshop _
    sound_before := r.sound_after
    bump_eq := rfl
    buildStack_eq := hbuild
    resolve_eq := hresolve
    hasNormalAgents := hasNormalAgents_of_documents_eq hdocuments }
  have havoids : Bundle.Avoids r.before r.product.path := by
    rw [hbefore, hpath]
    decide
  have hsame : s.product.path = r.product.path := hpath'.trans hpath.symm
  exact ⟨s, follows_of_before_eq rfl hsame havoids, hdocuments⟩

/-- The stack of the small workshop is built twice, and its version stays. -/
theorem versions_of_history_smallDisk :
  ∃ r s : Revision ["plugins", "web"], Follows r s ∧ r.product.version = "1.0.0" ∧
    s.product.version = "1.0.0"
  := by
  obtain ⟨r, readme, manifest, hbefore, hafter, hpath, hversion, hr⟩ := exists_first
  obtain ⟨s, hfollows, hs⟩ := exists_next hbefore hafter hpath hversion
  have hchain : [r, s].IsChain Follows :=
    List.isChain_cons_cons.mpr ⟨hfollows, List.IsChain.singleton s⟩
  have hnone : ∀ c, ¬ r.before.HasFile (["plugins", "web"] ++ Text.segments Manifest.path) c := by
    intro c hfile
    rw [hbefore] at hfile
    cases hfile
  have hclear : Clear r.before ["plugins", "web"] := by
    intro name hname c hfile
    rw [hbefore] at hfile
    have hmem := mem_entries_of_hasFile hfile
    have hother : ∀ name ∈ ownedDirectories, ∀ e ∈ smallDisk.tree.entries,
        e.1 = ["plugins", "web", name] → e.2 = .directory := by decide
    cases hother name hname _ hmem rfl
  obtain ⟨-, -, -, hstays⟩ := versions_of_history hchain hnone hclear
  have hdocuments : ∀ t ∈ [r, s], t.product.documents
      = [(reviewDocument.path, reviewDocument.content)] := by
    simp only [List.forall_mem_cons]
    exact ⟨hr, hs, by simp⟩
  have hreturn : ∀ t ∈ [r, s], ∀ f ∈ t.product.documents, '\r' ∉ f.2.toList := by
    intro t ht f hf
    rw [hdocuments t ht] at hf
    cases List.mem_singleton.mp hf
    decide
  have hsame : ∀ t ∈ [s], SameDocuments r.product t.product := by
    intro t ht f
    cases List.mem_singleton.mp ht
    rw [hr, hs]
  have heq := hstays hreturn hsame s (List.mem_singleton.mpr rfl)
  exact ⟨r, s, hfollows, hversion, heq.trans hversion⟩

end Revision

end AgentBundles.Build
