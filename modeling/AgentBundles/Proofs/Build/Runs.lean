import AgentBundles.Proofs.Build.Progress

/-!
# Builds of several stacks

Each stack of a build is built on the disk that the stacks before it have left. A bundle is lost to
a later one of the same path, and to nothing else.
-/

namespace AgentBundles.Build

open Disk Disk.Action

variable {w : Workshop} {web : Web} {d d' : Disk} {ps : List Product}

/-- Products that were built one after the other. -/
inductive Builds (w : Workshop) (web : Web) : Disk → List String → List Product → Disk → Prop where
  | nil (d : Disk) : Builds w web d [] [] d
  | cons {d d₁ d' : Disk} {id : String} {ids : List String} {p : Product} {ps : List Product}
      (first : (buildStack w web id).outcome d = (.ok p, d₁)) (rest : Builds w web d₁ ids ps d') :
      Builds w web d (id :: ids) (p :: ps) d'

/-- The products of a build are built one after the other. -/
theorem outcome_mapM_eq_ok_iff {ids : List String} :
  Action.outcome (ids.mapM (buildStack w web)) d = (.ok ps, d') ↔ Builds w web d ids ps d'
  := by
  constructor
  · intro h
    induction ids generalizing d ps with
    | nil =>
        rw [List.mapM_nil, outcome_pure, Prod.mk.injEq, Except.ok.injEq] at h
        obtain ⟨rfl, rfl⟩ := h
        apply Builds.nil
    | cons id ids ih =>
        rw [List.mapM_cons] at h
        obtain ⟨p, d₁, hfirst, h⟩ := outcome_bind_eq_ok_iff.mp h
        obtain ⟨rest, d₂, hrest, h⟩ := outcome_bind_eq_ok_iff.mp h
        rw [outcome_pure, Prod.mk.injEq, Except.ok.injEq] at h
        obtain ⟨rfl, rfl⟩ := h
        exact Builds.cons hfirst (ih hrest)
  · intro h
    induction h with
    | nil => rfl
    | cons hfirst hrest ih =>
        rw [List.mapM_cons, outcome_bind_eq_ok_iff]
        exact ⟨_, _, hfirst, outcome_bind_eq_ok_iff.mpr ⟨_, _, ih, rfl⟩⟩

namespace Builds

variable {ids : List String} (h : Builds w web d ids ps d')

include h

/-- The products of a build are those of its stacks, in order; each of them has the documents that
were compiled for its stack. -/
theorem forall₂ :
  List.Forall₂ (fun id p => ∃ d d', (buildStack w web id).outcome d = (.ok p, d')) ids ps
  := by
  induction h with
  | nil => apply List.Forall₂.nil
  | cons hfirst _ ih => exact List.Forall₂.cons ⟨_, _, hfirst⟩ ih

theorem exists_buildStack_of_mem {p : Product} (hp : p ∈ ps) :
  ∃ id d d', (buildStack w web id).outcome d = (.ok p, d')
  := by
  induction h with
  | nil => cases hp
  | cons hfirst _ ih =>
      rcases List.mem_cons.mp hp with rfl | hp
      · exact ⟨_, _, _, hfirst⟩
      · apply ih hp

/-- A build changes files below the directories of its bundles only. -/
theorem confinedTo (hd : d.Sound) (hout : w.output.Proper) :
  ConfinedTo (fun place => ∃ p ∈ ps, Bundle.Below (d.resolve p.path) place) d d'
  := by
  induction h with
  | nil => apply ConfinedTo.refl
  | @cons d d₁ d' id ids p ps hfirst _ ih =>
      have hone := confinedTo_of_buildStack hd hout hfirst
      apply ConfinedTo.trans (hone.mono _) ((ih (hone.sound hd)).mono _)
      · intro place hplace
        exact ⟨p, List.mem_cons_self, hplace⟩
      · rintro place ⟨q, hq, hplace⟩
        rw [hone.resolve_eq] at hplace
        exact ⟨q, List.mem_cons_of_mem _ hq, hplace⟩

/-- A product is kept by a build that has no product of its path. -/
theorem isKept_of_ne (hd : d.Sound) (hout : w.output.Proper) {p : Product} {name : String}
    (hname : Slug.isKebabName name = true) (hpath : p.path = w.output.child name)
    (hne : ∀ q ∈ ps, q.path ≠ p.path) (hkept : p.IsKept d) :
  p.IsKept d'
  := by
  apply hkept.of_confinedTo hname hpath (h.confinedTo hd hout)
  rintro place ⟨q, hq, hplace⟩
  obtain ⟨id, d₁, d₂, hq'⟩ := h.exists_buildStack_of_mem hq
  obtain ⟨other, hother, hotherPath⟩ := exists_name_of_buildStack hq'
  rw [hotherPath, resolve_child hother] at hplace
  refine ⟨other, ?_, hplace⟩
  rintro rfl
  exact hne q hq (hotherPath.trans hpath.symm)

/-- A product of a build is kept if all products of its path have its documents. -/
theorem isKept (hw : w.Sound) (hd : d.Sound) (hagents : ∀ p ∈ ps, p.HasNormalAgents) {p : Product}
    (hp : p ∈ ps) (hsame : ∀ q ∈ ps, p.path = q.path → SameDocuments p q) :
  p.IsKept d'
  := by
  induction h generalizing p with
  | nil => cases hp
  | @cons d d₁ d' id ids r ps hfirst hrest ih =>
      obtain ⟨hnormal, hagents⟩ := List.forall_mem_cons.mp hagents
      obtain ⟨hr, hsame⟩ := List.forall_mem_cons.mp hsame
      have hd₁ := (confinedTo_of_buildStack hd hw.output hfirst).sound hd
      -- The last product of the path decides, so it is asked first whether there is one in the
      -- rest.
      by_cases hlater : ∃ q ∈ ps, p.path = q.path
      · obtain ⟨q, hq, hpath⟩ := hlater
        have hsameAs := hsame q hq hpath
        refine (ih hd₁ hagents hq ?_).congr hpath hsameAs
        intro q' hq' hpath' f
        rw [← hsameAs f]
        apply hsame q' hq' (hpath.trans hpath')
      · have hp : p = r := by
          rcases List.mem_cons.mp hp with hp | hp
          · apply hp
          · exact absurd ⟨p, hp, rfl⟩ hlater
        obtain ⟨name, hname, hpath⟩ := exists_name_of_buildStack hfirst
        subst hp
        apply hrest.isKept_of_ne hd₁ hw.output hname hpath _
          (isKept_of_buildStack hw hd hfirst hnormal)
        intro q hq heq
        exact hlater ⟨q, hq, heq.symm⟩

end Builds

/-- A build of several stacks gives one product for each of them, with the documents that were
compiled for it. Every bundle is kept to the end of the build exactly if stacks whose bundles have
one path have the same documents. -/
theorem run_keeps_iff {s : BuildSettings} {asked : List String} {bump : Option String}
    {products : List Product} (hd : d.Sound) (hout : s.output.Proper)
    (h : (run s web asked bump).outcome d = (.ok products, d'))
    (hagents : ∀ p ∈ products, p.HasNormalAgents) :
  (∃ w ids, prepare s asked bump d = .ok (w, ids) ∧
      List.Forall₂ (fun id p => ∃ d stack compiled, w.tree.stack d id = .ok stack ∧
        compileStack w d web id stack = .ok compiled ∧ p.path = w.output.child stack.name ∧
        p.documents = compiled.documents.map fun x => (x.path, x.content)) ids products) ∧
    ((∀ p ∈ products, p.IsKept d') ↔ ∀ p ∈ products, ∀ q ∈ products,
      p.path = q.path → SameDocuments p q)
  := by
  obtain ⟨⟨w, ids⟩, d₁, hprepare, hbuild⟩ := outcome_bind_eq_ok_iff.mp h
  rw [outcome_look, Prod.mk.injEq] at hprepare
  obtain ⟨hprepare, rfl⟩ := hprepare
  have hw := sound_of_prepare hd hout hprepare
  have hbuilds := outcome_mapM_eq_ok_iff.mp hbuild
  refine ⟨⟨w, ids, hprepare, ?_⟩, ?_⟩
  · apply hbuilds.forall₂.imp
    rintro id p ⟨d₁, d₂, hp⟩
    exact ⟨d₁, (documents_of_buildStack hp).1⟩
  · constructor
    · intro hkept p hp q hq hpath f
      obtain ⟨id, d₁, d₂, hp'⟩ := hbuilds.exists_buildStack_of_mem hp
      obtain ⟨id', d₁', d₂', hq'⟩ := hbuilds.exists_buildStack_of_mem hq
      constructor
      · apply (hkept p hp).mem_documents (hkept q hq) hpath (documents_of_buildStack hp').2
      · apply (hkept q hq).mem_documents (hkept p hp) hpath.symm (documents_of_buildStack hq').2
    · intro hsame p hp
      apply hbuilds.isKept hw hd hagents hp (hsame p hp)

/-! ### A small build -/

/-- A build of the small source tree. -/
def smallSettings : BuildSettings := ⟨.ofText "kit", .ofText "plugins", [], none, none⟩

theorem prepare_smallSettings {asked : List String} (hasked : asked ≠ []) (bump : Option String) :
  prepare smallSettings asked bump smallDisk = .ok (smallWorkshop bump, asked)
  := by
  have htree : SourceTree.read smallDisk smallSettings.source defaultFileLimit
      = .ok smallSource := by rfl
  have hprofiles : smallSource.profiles smallDisk = .ok [("reviewer", reviewer)] := by
    apply eq_ok_of_toOption
    decide +kernel
  have hids : stackIds smallSettings smallSource smallDisk asked = .ok asked := by
    obtain ⟨id, ids, rfl⟩ := List.exists_cons_of_ne_nil hasked
    rfl
  have htemplates : TemplateSource.ofSettings smallSource smallDisk smallSettings.templates
      = .ok (smallWorkshop bump).templates := by rfl
  rw [prepare, htree, Except.mapError, ok_bind, catalog_smallSource, Except.mapError, ok_bind,
    hprofiles, Except.mapError, ok_bind, hids, ok_bind, htemplates]
  rfl

/-- A stack that is asked for twice is built twice, and both bundles are kept. -/
theorem run_keeps_iff_smallDisk :
  ∃ p q d', (run smallSettings noWeb ["web", "web"] none).outcome smallDisk = (.ok [p, q], d') ∧
    p.IsKept d' ∧ q.IsKept d'
  := by
  have hm : ∀ agent readme manifest,
      manifestFor (smallWorkshop none) (builtDisk agent readme manifest)
      (.describe (.ofStack webStack) webBundle.paths) webBundle webPath
        = .ok (.describe (.ofStack webStack) webBundle.paths) := fun _ _ _ => rfl
  obtain ⟨p, readme, manifest, hfirst, -, -, hp⟩ := exists_buildStack_smallDisk none
  obtain ⟨q, readme', manifest', hsecond, -, -, hq⟩ :=
    exists_buildStack (hm reviewDocument.content readme manifest)
    (by decide) fun agent' readme' manifest' => writeTo_builtDisk agent' readme' manifest' _ _ _
  have hrun : (run smallSettings noWeb ["web", "web"] none).outcome smallDisk
      = (.ok [p, q], builtDisk reviewDocument.content readme' manifest') := by
    refine outcome_bind_eq_ok_iff.mpr ⟨(smallWorkshop none, ["web", "web"]), smallDisk, ?_, ?_⟩
    · rw [outcome_look, prepare_smallSettings (by simp)]
    · exact outcome_mapM_eq_ok_iff.mpr (Builds.cons hfirst (Builds.cons hsecond (Builds.nil _)))
  have hagents : ∀ r ∈ [p, q], r.HasNormalAgents := by
    simp only [List.forall_mem_cons]
    exact ⟨hasNormalAgents_of_documents_eq hp, hasNormalAgents_of_documents_eq hq, by simp⟩
  have hdocuments : ∀ r ∈ [p, q], r.documents
      = [(reviewDocument.path, reviewDocument.content)] := by
    simp only [List.forall_mem_cons]
    exact ⟨hp, hq, by simp⟩
  have hsame : ∀ r ∈ [p, q], ∀ s ∈ [p, q], r.path = s.path → SameDocuments r s := by
    intro r hr s hs _ f
    rw [hdocuments r hr, hdocuments s hs]
  have hkept :=
    (run_keeps_iff sound_smallDisk (FilePath.proper_ofText "plugins") hrun hagents).2.mpr hsame
  exact ⟨p, q, _, hrun, hkept p (by simp), hkept q (by simp)⟩

end AgentBundles.Build
