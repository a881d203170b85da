import AgentBundles.Proofs.Data.Tables
import AgentBundles.Proofs.Outcome
import AgentBundles.Proofs.Text.Distinct
import AgentBundles.Validation.Bundle

/-!
# Validation file by file

What is found in a document depends on the document alone, and nothing else depends on it: if the
text of one file is replaced by another one, its issues in the report are replaced, and all others
stay what and where they are.
-/

namespace AgentBundles

/-! ### Tables that differ under one name -/

/-- A file with another text, if it has the path. -/
def retext (path text : String) (f : String × String) : String × String :=
  if f.1 = path then (path, text) else f

@[simp]
theorem fst_retext (path text : String) (f : String × String) :
  (retext path text f).1 = f.1
  := by
  rw [retext]
  split
  · rename_i h
    rw [h]
  · rfl

theorem retext_of_ne {path text : String} {f : String × String} (h : f.1 ≠ path) :
  retext path text f = f
  := if_neg h

/-- Tables of texts with the same names, each once, that have the same texts but for one name. -/
structure SameBesides (path : String) (files files' : Table String) : Prop where
  nodup : files.names.Nodup
  nodup' : files'.names.Nodup
  mem_names_iff : ∀ other, other ∈ files.names ↔ other ∈ files'.names
  get?_eq : ∀ other, other ≠ path → files.get? other = files'.get? other

namespace SameBesides

variable {path text text' : String} {files files' : Table String}
    (h : SameBesides path files files')

include h

theorem names_perm :
  files.names.Perm files'.names
  := (List.perm_ext_iff_of_nodup h.nodup h.nodup').mpr h.mem_names_iff

theorem any_eq (p : String → Bool) :
  files.any (fun f => p f.1) = files'.any fun f => p f.1
  := by
  have hany : ∀ t : Table String, t.any (fun f => p f.1) = t.names.any p := by
    intro t
    rw [Table.names, List.any_map]
    rfl
  rw [hany, hany, h.names_perm.any_eq]

theorem has_eq (other : String) :
  files.has other = files'.has other
  := h.any_eq (· == other)

/-- The files of one table with the text of the other under the name are those of the other. -/
theorem perm_map (htext : files.get? path = some text) (htext' : files'.get? path = some text') :
  (files.map (retext path text')).Perm files'
  := by
  have hnames : (files.map (retext path text')).map (·.1) = files.names := by
    rw [List.map_map]
    apply List.map_congr_left
    intro f _
    apply fst_retext
  apply (List.perm_ext_iff_of_nodup (List.Nodup.of_map (·.1) (hnames ▸ h.nodup))
    (List.Nodup.of_map _ h.nodup')).mpr
  rintro ⟨other, t⟩
  rw [List.mem_map]
  by_cases hpath : other = path
  · subst hpath
    constructor
    · rintro ⟨f, -, heq⟩
      have hf : f.1 = other := by rw [← fst_retext other text' f, heq]
      rw [retext, if_pos hf] at heq
      rw [← heq]
      apply Table.mem_of_get? htext'
    · intro hmem
      have ht := Table.get?_of_mem h.nodup' hmem
      refine ⟨(other, text), Table.mem_of_get? htext, ?_⟩
      rw [retext, if_pos rfl, ← Option.some.inj (htext'.symm.trans ht)]
  · constructor
    · rintro ⟨f, hf, heq⟩
      have hne : f.1 ≠ path := by
        rw [← fst_retext path text' f, heq]
        apply hpath
      rw [retext_of_ne hne] at heq
      subst heq
      apply Table.mem_of_get?
      rw [← h.get?_eq _ hpath]
      apply Table.get?_of_mem h.nodup hf
    · intro hmem
      refine ⟨(other, t), Table.mem_of_get? ?_, retext_of_ne hpath⟩
      rw [h.get?_eq _ hpath]
      apply Table.get?_of_mem h.nodup' hmem

end SameBesides

namespace Validation

variable {path text text' : String} {files files' : Table String}
    (h : SameBesides path files files')

/-! ### What does not depend on the text -/

section

include h

theorem directoryEntryIssues_eq (kind declared : String) (isText : String → Bool) :
  directoryEntryIssues files.names kind declared isText
    = directoryEntryIssues files'.names kind declared isText
  := by
  have hperm := h.names_perm.filterMap (below? (entryDirectory declared))
  rw [directoryEntryIssues, directoryEntryIssues]
  generalize files.names.filterMap (below? (entryDirectory declared)) = below at hperm ⊢
  generalize files'.names.filterMap (below? (entryDirectory declared)) = below' at hperm ⊢
  cases below with
  | nil => rw [hperm.nil_eq]
  | cons relative below =>
      cases below' with
      | nil => cases hperm.eq_nil
      | cons relative' below' =>
          dsimp only
          rw [hperm.any_eq]

theorem manifestOf_eq (hpath : path ≠ Manifest.path) :
  manifestOf files = manifestOf files'
  := by
  rw [manifestOf, manifestOf, h.get?_eq _ hpath.symm]

theorem entryIssues_eq {manifest : Value}
    (hpath : ∀ declared, text? manifest "hooks" = some declared → path ≠ entryPath declared) :
  entryIssues files manifest = entryIssues files' manifest
  := by
  have hhooks : declaredIssues manifest "hooks" (hooksEntryIssues files)
      = declaredIssues manifest "hooks" (hooksEntryIssues files') := by
    rw [declaredIssues, declaredIssues]
    split
    · rename_i declared hdeclared
      rw [hooksEntryIssues, hooksEntryIssues, h.get?_eq _ (hpath declared hdeclared).symm]
    · rfl
  simp only [entryIssues, hhooks, directoryEntryIssues_eq h]

theorem undeclared_eq (manifest : Entries) (skills agents : String) :
  undeclared files manifest skills agents = undeclared files' manifest skills agents
  := by
  have hbelow : ∀ directory, files.any (fun f => Text.startsWith f.1 directory)
      = files'.any fun f => Text.startsWith f.1 directory := by
    intro directory
    apply h.any_eq fun other => Text.startsWith other directory
  simp only [undeclared, hbelow, h.has_eq]

theorem readmeIssues_eq :
  readmeIssues files = readmeIssues files'
  := by
  rw [readmeIssues, readmeIssues, h.has_eq]

/-- In the order of their paths the files are the same but for one text. -/
theorem exists_sortedFiles (htext : files.get? path = some text)
    (htext' : files'.get? path = some text') :
  ∃ front back, sortedFiles files = front ++ (path, text) :: back ∧
    sortedFiles files' = front ++ (path, text') :: back
  := by
  have hsorted := Text.pairwise_lt_mergeSort Prod.fst h.nodup
  have hmap : (sortedFiles files).map (retext path text') = sortedFiles files' := by
    apply Text.eq_of_perm_of_pairwise_lt Prod.fst
    · rw [List.pairwise_map]
      apply hsorted.imp
      intro f g hlt
      rw [fst_retext, fst_retext]
      apply hlt
    · apply Text.pairwise_lt_mergeSort Prod.fst h.nodup'
    · exact ((List.mergeSort_perm _ _).map _).trans
        ((h.perm_map htext htext').trans (List.mergeSort_perm _ _).symm)
  have hmem : (path, text) ∈ sortedFiles files := List.mem_mergeSort.mpr (Table.mem_of_get? htext)
  obtain ⟨front, back, hsplit⟩ := List.append_of_mem hmem
  rw [← sortedFiles, hsplit, List.pairwise_append, List.pairwise_cons] at hsorted
  obtain ⟨-, ⟨hback, -⟩, hfront⟩ := hsorted
  have hsame : ∀ {fs : List (String × String)}, (∀ f ∈ fs, f.1 ≠ path) →
      fs.map (retext path text') = fs := by
    intro fs hfs
    exact (List.map_congr_left fun f hf => retext_of_ne (hfs f hf)).trans (List.map_id fs)
  refine ⟨front, back, hsplit, ?_⟩
  rw [← hmap, hsplit, List.map_append, List.map_cons, hsame, hsame]
  · rw [retext, if_pos rfl]
  · intro f hf
    exact (hback f hf).ne'
  · intro f hf
    exact (hfront f hf _ List.mem_cons_self).ne

end

/-! ### What depends on the text -/

/-- An issue is within the document at a location if it is about the whole document or about a field
of it. -/
def Within (location : String) (i : Issue) : Prop :=
  i.location = location ∨ ∃ field, i.location = location ++ ":" ++ field

theorem within_field (location field : String) (severity : Severity) (message : String) :
  Within location ⟨severity, location ++ (":" ++ field), message⟩
  := Or.inr ⟨field, String.append_assoc.symm⟩

theorem within_nameIssues (v : Value) (location : String) :
  ∀ i ∈ nameIssues v location, Within location i
  := by
  intro i hi
  rw [nameIssues] at hi
  split at hi
  · split at hi
    · cases hi
    · rw [List.mem_singleton.mp hi]
      apply within_field location "name"
  · cases hi

theorem within_schemaIssues (d : DocumentSchema) (v : Value) (location : String) :
  ∀ i ∈ d.issues v location, Within location i
  := by
  rw [DocumentSchema.issues, List.forall_mem_map]
  intro x _
  rw [Within, Issue.ofViolation, Issue.error, Issue.locate]
  split
  · exact Or.inl rfl
  · exact Or.inr ⟨_, rfl⟩

theorem within_headerIssues {d : DocumentSchema} {content location : String}
    {header? : Option Value} {issues : List Issue}
    (h : headerIssues d content location = .ok (header?, issues)) :
  ∀ i ∈ issues, Within location i
  := by
  obtain ⟨v?, -, h⟩ := bind_eq_ok_iff.mp h
  cases v? with
  | none =>
      cases h
      rw [List.forall_mem_singleton]
      exact Or.inl rfl
  | some v =>
      dsimp only at h
      split at h
      · cases h
        rw [List.forall_mem_append]
        exact ⟨within_schemaIssues d v location, within_nameIssues v location⟩
      · cases h

theorem within_deprecationIssues (v : Value) (location : String) :
  ∀ i ∈ deprecationIssues v location, Within location i
  := by
  rw [deprecationIssues, List.forall_mem_map]
  intro name _
  rw [Issue.warning, String.append_assoc]
  apply within_field

theorem within_directoryIssues (v : Value) (location : String) :
  ∀ i ∈ directoryIssues v location, Within location i
  := by
  intro i hi
  rw [directoryIssues] at hi
  split at hi
  · split at hi
    · cases hi
    · rw [List.mem_singleton.mp hi]
      apply within_field location "name"
  · cases hi

/-- The issues of a document are within it. -/
theorem within_documentIssues {skills agents : String} {file : String × String}
    {issues : List Issue} (h : documentIssues skills agents file = .ok issues) :
  ∀ i ∈ issues, Within file.1 i
  := by
  rw [documentIssues] at h
  split at h
  · obtain ⟨⟨header?, found⟩, hheader, h⟩ := bind_eq_ok_iff.mp h
    have hfound := within_headerIssues hheader
    cases header? with
    | none =>
        cases h
        apply hfound
    | some v =>
        cases h
        rw [List.forall_mem_append, List.forall_mem_append]
        exact ⟨⟨hfound, within_deprecationIssues v _⟩, within_directoryIssues v _⟩
  · split at h
    · obtain ⟨⟨header?, found⟩, hheader, h⟩ := bind_eq_ok_iff.mp h
      cases h
      apply within_headerIssues hheader
    · cases h
      simp

/-- The issues that the document at a path has in a bundle with some manifest. They are within it,
and there are none if the path is neither that of a skill nor that of an agent. -/
structure IsBlock (manifest : Entries) (path text : String) (block : List Issue) : Prop where
  documentIssues_eq : documentIssues (directoryOf (.map manifest) "skills" Manifest.skillsDirectory)
    (directoryOf (.map manifest) "agents" Manifest.agentsDirectory) (path, text) = .ok block
  within : ∀ i ∈ block, Within path i
  eq_nil : isSkillPath (directoryOf (.map manifest) "skills" Manifest.skillsDirectory) path
    = false → isAgentPath (directoryOf (.map manifest) "agents" Manifest.agentsDirectory) path
      = false → block = []

theorem isBlock_of_documentIssues {manifest : Entries} {path text : String} {block : List Issue}
    (h : documentIssues (directoryOf (.map manifest) "skills" Manifest.skillsDirectory)
      (directoryOf (.map manifest) "agents" Manifest.agentsDirectory) (path, text) = .ok block) :
  IsBlock manifest path text block
  := by
  refine ⟨h, within_documentIssues h, ?_⟩
  intro hskill hagent
  rw [documentIssues, hskill, hagent] at h
  cases h
  rfl

/-! ### Reports -/

theorem mapM_append_cons_eq_ok_iff {α β ε : Type} {f : α → Except ε β} {xs ys : List α} {x : α}
    {zs : List β} :
  (xs ++ x :: ys).mapM f = .ok zs ↔
    ∃ front z back, xs.mapM f = .ok front ∧ f x = .ok z ∧ ys.mapM f = .ok back ∧
      zs = front ++ z :: back
  := by
  rw [List.mapM_append, bind_eq_ok_iff]
  simp only [List.mapM_cons, bind_eq_ok_iff]
  constructor
  · rintro ⟨front, hfront, rest, ⟨z, hz, back, hback, ⟨⟩⟩, ⟨⟩⟩
    exact ⟨front, z, back, hfront, hz, hback, rfl⟩
  · rintro ⟨front, z, back, hfront, hz, hback, rfl⟩
    exact ⟨front, hfront, z :: back, ⟨z, hz, back, hback, rfl⟩, rfl⟩

/-- Each of the items that are gone through gives a part of what is put together. -/
theorem exists_isInfix_flatten {α β ε : Type} {f : α → Except ε (List β)} {xs : List α}
    {yss : List (List β)} (h : xs.mapM f = .ok yss) {x : α} (hx : x ∈ xs) :
  ∃ ys, f x = .ok ys ∧ ys <:+: yss.flatten
  := by
  obtain ⟨ys, hys⟩ := exists_mapM_eq_ok_iff.mp ⟨_, h⟩ x hx
  obtain ⟨front, back, hsplit⟩ := List.append_of_mem ((mem_of_mapM_eq_ok h).mpr ⟨x, hx, hys⟩)
  refine ⟨ys, hys, front.flatten, back.flatten, ?_⟩
  rw [hsplit, List.flatten_append, List.flatten_cons, List.append_assoc]

/-- Each of the items before and after an item gives a part of what is put together before and after
it. -/
theorem exists_isInfix_flatten_of_ne {α β ε : Type} {f : α → Except ε (List β)} {xs ys : List α}
    {yss zss : List (List β)} (hfront : xs.mapM f = .ok yss) (hback : ys.mapM f = .ok zss) {x y : α}
    (hy : y ∈ xs ++ x :: ys) (hne : y ≠ x) :
  ∃ zs, f y = .ok zs ∧ (zs <:+: yss.flatten ∨ zs <:+: zss.flatten)
  := by
  rcases List.mem_append.mp hy with hy | hy
  · obtain ⟨zs, hzs, hpart⟩ := exists_isInfix_flatten hfront hy
    exact ⟨zs, hzs, Or.inl hpart⟩
  · obtain ⟨zs, hzs, hpart⟩ := exists_isInfix_flatten hback (List.mem_of_ne_of_mem hne hy)
    exact ⟨zs, hzs, Or.inr hpart⟩

/-- None of the issues within a path are among those that are elsewhere. -/
theorem filter_eq_nil_of_within {path : String} {keep : Issue → Bool}
    (hkeep : ∀ i, Within path i → keep i = false) {issues : List Issue}
    (h : ∀ i ∈ issues, Within path i) :
  issues.filter keep = []
  := by
  rw [List.filter_eq_nil_iff]
  intro i hi
  rw [hkeep i (h i hi)]
  apply Bool.false_ne_true

end Validation

open Validation

/-- A bundle has a report if its manifest, the entry points and all documents can be checked. -/
theorem Bundle.validate_eq_ok_iff {b : Bundle} {r : Report} :
  b.validate = .ok r ↔
    ∃ manifest issues entries documents, manifestOf b.files = .ok (manifest, issues) ∧
      entryIssues b.files (.map manifest) = .ok entries ∧
      (sortedFiles b.files).mapM
        (documentIssues (directoryOf (.map manifest) "skills" Manifest.skillsDirectory)
        (directoryOf (.map manifest) "agents" Manifest.agentsDirectory)) = .ok documents ∧
      r = ⟨b, issues ++ entries ++ documents.flatten ++
        undeclared b.files manifest (directoryOf (.map manifest) "skills" Manifest.skillsDirectory)
          (directoryOf (.map manifest) "agents" Manifest.agentsDirectory) ++ readmeIssues b.files⟩
  := by
  constructor
  · intro h
    rw [validate] at h
    obtain ⟨⟨manifest, issues⟩, hmanifest, h⟩ := bind_eq_ok_iff.mp h
    obtain ⟨entries, hentries, h⟩ := bind_eq_ok_iff.mp h
    obtain ⟨documents, hdocuments, h⟩ := bind_eq_ok_iff.mp h
    cases h
    exact ⟨manifest, issues, entries, documents, hmanifest, hentries, hdocuments, rfl⟩
  · rintro ⟨manifest, issues, entries, documents, hmanifest, hentries, hdocuments, rfl⟩
    rw [validate, hmanifest, ok_bind]
    dsimp only
    rw [hentries, ok_bind, hdocuments, ok_bind]
    rfl

/-- If the text of one file is replaced, which is neither the manifest nor the file of hooks that
the manifest declares, then so are its issues, and no others: those of the manifest and of any other
file are the same and in the same places. -/
theorem Bundle.validate_frame {b b' : Bundle} {path text text' : String}
    (h : SameBesides path b.files b'.files) (htext : b.files.get? path = some text)
    (htext' : b'.files.get? path = some text') (hmanifest : path ≠ Manifest.path)
    (hhooks : ∀ manifest issues declared,
      manifestOf b.files = .ok (manifest, issues) → text? (.map manifest) "hooks" = some declared →
      path ≠ entryPath declared) {r r' : Report} (hr : b.validate = .ok r)
    (hr' : b'.validate = .ok r') :
  ∃ manifest issues before block block' after, manifestOf b.files = .ok (manifest, issues) ∧
    r.issues = before ++ block ++ after ∧ r'.issues = before ++ block' ++ after ∧
    IsBlock manifest path text block ∧ IsBlock manifest path text' block' ∧ issues <+: before ∧
    (∀ f ∈ b.files, f.1 ≠ path → ∃ other,
      IsBlock manifest f.1 f.2 other ∧ (other <:+: before ∨ other <:+: after)) ∧
    ∀ keep : Issue → Bool, (∀ i, Within path i → keep i = false) →
      r.issues.filter keep = r'.issues.filter keep
  := by
  obtain ⟨manifest, issues, entries, documents, hissues, hentries, hdocuments, rfl⟩ :=
    validate_eq_ok_iff.mp hr
  obtain ⟨manifest', issues', entries', documents', hissues', hentries', hdocuments', rfl⟩ :=
    validate_eq_ok_iff.mp hr'
  cases hissues.symm.trans ((manifestOf_eq h hmanifest).trans hissues')
  cases hentries.symm.trans ((entryIssues_eq h (hhooks manifest issues · hissues)).trans hentries')
  obtain ⟨front, back, hsorted, hsorted'⟩ := exists_sortedFiles h htext htext'
  rw [hsorted, mapM_append_cons_eq_ok_iff] at hdocuments
  obtain ⟨dfront, block, dback, hfront, hblock, hback, rfl⟩ := hdocuments
  rw [hsorted', mapM_append_cons_eq_ok_iff] at hdocuments'
  obtain ⟨dfront', block', dback', hfront', hblock', hback', rfl⟩ := hdocuments'
  cases hfront.symm.trans hfront'
  cases hback.symm.trans hback'
  let after := dback.flatten ++ undeclared b.files manifest
    (directoryOf (.map manifest) "skills" Manifest.skillsDirectory)
    (directoryOf (.map manifest) "agents" Manifest.agentsDirectory) ++ readmeIssues b.files
  have hwithin := isBlock_of_documentIssues hblock
  have hwithin' := isBlock_of_documentIssues hblock'
  refine ⟨manifest, issues, issues ++ entries ++ dfront.flatten, block, block', after, hissues, ?_,
    ?_, hwithin, hwithin', ?_, ?_, ?_⟩
  · simp only [after, List.flatten_append, List.flatten_cons, List.append_assoc]
  · simp only [after, undeclared_eq h, readmeIssues_eq h, List.flatten_append, List.flatten_cons,
      List.append_assoc]
  · rw [List.append_assoc]
    apply List.prefix_append
  · intro f hf hne
    have hmem : f ∈ front ++ (path, text) :: back := by
      rw [← hsorted]
      exact List.mem_mergeSort.mpr hf
    have hdiffers : f ≠ (path, text) := mt (congrArg Prod.fst) hne
    obtain ⟨other, hother, hpart⟩ := exists_isInfix_flatten_of_ne hfront hback hmem hdiffers
    refine ⟨other, isBlock_of_documentIssues hother, hpart.imp ?_ ?_⟩
    · intro hpart
      exact hpart.trans (List.suffix_append _ _).isInfix
    · intro hpart
      exact hpart.trans ((List.prefix_append _ _).trans (List.prefix_append _ _)).isInfix
  · intro keep hkeep
    have hblocks := filter_eq_nil_of_within hkeep hwithin.within
    have hblocks' := filter_eq_nil_of_within hkeep hwithin'.within
    simp only [undeclared_eq h, readmeIssues_eq h, List.flatten_append, List.flatten_cons,
      List.filter_append, hblocks, hblocks']

/-- A skill with a text, and an agent without a header. -/
def Bundle.headless (text : String) : Bundle where
  files := [("agents/web.md", ""), ("skills/react/SKILL.md", text)]
  location := none

theorem Bundle.exists_validate_headless {text : String} {block : List Issue}
    (h : documentIssues "skills/" "agents/" ("skills/react/SKILL.md", text) = .ok block) :
  ∃ r, (headless text).validate = .ok r
  := by
  have hsorted : sortedFiles (headless text).files = (headless text).files := by
    apply List.mergeSort_of_pairwise
    simp only [headless, List.pairwise_cons, List.forall_mem_singleton]
    exact ⟨by decide, by simp⟩
  have hdocuments : (headless text).files.mapM (documentIssues "skills/" "agents/")
      = .ok [[.error "agents/web.md" "Missing or invalid YAML header block"], block] := by
    rw [headless, List.mapM_cons, List.mapM_cons, h]
    rfl
  rw [← hsorted] at hdocuments
  exact ⟨_, validate_eq_ok_iff.mpr ⟨[], _, [], _, rfl, rfl, hdocuments, rfl⟩⟩

/-- One thing or another is wrong with the skill, and all the rest is reported in both cases. -/
theorem Bundle.validate_frame_headless :
  ∃ r r' before after, (headless "---\nname: react\n---\n").validate = .ok r ∧
    (headless "").validate = .ok r' ∧
    r.issues = before ++ [.error "skills/react/SKILL.md" "'description' is a required property"] ++
    after ∧
    r'.issues = before ++ [.error "skills/react/SKILL.md" "Missing or invalid YAML header block"] ++
      after
  := by
  have hfirst : documentIssues "skills/" "agents/" ("skills/react/SKILL.md",
      "---\nname: react\n---\n")
      = .ok [.error "skills/react/SKILL.md" "'description' is a required property"] :=
    eq_ok_of_toOption (by decide +kernel)
  obtain ⟨r, hr⟩ := exists_validate_headless hfirst
  have hsecond : documentIssues "skills/" "agents/" ("skills/react/SKILL.md", "")
      = .ok [.error "skills/react/SKILL.md" "Missing or invalid YAML header block"] := rfl
  obtain ⟨r', hr'⟩ := exists_validate_headless hsecond
  have hsame : SameBesides "skills/react/SKILL.md" (headless "---\nname: react\n---\n").files
      (headless "").files := by
    refine ⟨by decide, by decide, fun _ => Iff.rfl, ?_⟩
    intro other hother
    simp only [headless, Table.get?_cons, if_neg hother.symm]
  obtain ⟨manifest, issues, before, block, block', after, hmanifest, heq, heq', hblock,
    hblock', -⟩ :=
    validate_frame hsame rfl rfl (by decide) (by rintro manifest issues declared ⟨⟩ ⟨⟩) hr hr'
  cases hmanifest
  cases hfirst.symm.trans hblock.documentIssues_eq
  cases hblock'.documentIssues_eq
  exact ⟨r, r', before, after, hr, hr', heq, heq'⟩

end AgentBundles
