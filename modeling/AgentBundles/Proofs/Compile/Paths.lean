import AgentBundles.Proofs.Catalog.Built
import AgentBundles.Proofs.Compile.Bundle
import AgentBundles.Proofs.Text.Paths

/-!
# The paths of compiled documents

A compiled bundle has one document under a path: agents have different names, skills have slugs that
are different and not cut by a slash, and the files beside the text of a skill have names of their
own.
-/

namespace AgentBundles.Compile

/-! ### Agents -/

theorem agentPath_injective {name name' : String} (h : agentPath name = agentPath name') :
  name = name'
  := by
  rw [agentPath, agentPath, String.append_left_inj, String.append_right_inj] at h
  apply h

theorem head?_agentPath (name : String) :
  (agentPath name).toList.head? = some 'a'
  := by
  simp [agentPath]

/-- Documents of agents: their path is that of a profile, and their header is made of the profile
and some skills. -/
def AgentDocument (p : AgentProfile) (d : Document) : Prop :=
  d.path = agentPath p.name ∧ ∃ preloaded body, d.content = Header.render (header p preloaded) body

theorem map_path_agentDocuments {profiles : List AgentProfile} {ds : List Document}
    (h : List.Forall₂ AgentDocument profiles ds) :
  ds.map (·.path) = (profiles.map (·.name)).map agentPath
  := by
  induction h with
  | nil => rfl
  | cons hp _ ih => rw [List.map_cons, List.map_cons, List.map_cons, ih, hp.1]

/-- The document that an agent is compiled to. -/
theorem agentDocument_of_agent {c : Catalog} {s : ValidatedSelection} {p : AgentProfile}
    {templates : Table String} {routing : Routing} {a : AgentCompilation}
    (h : agent c s p templates routing = .ok a) :
  AgentDocument p a.document
  := by
  obtain ⟨ids, relevant, preloaded, indexed, hparts⟩ := agent_eq_ok_iff.mp h
  exact ⟨hparts.path_eq, preloaded, _, hparts.content_eq⟩

/-- Agents are compiled to one document for each profile, and their names are different. -/
theorem agents_documents {c : Catalog} {s : ValidatedSelection} {templates : Table String}
    {routing : Routing} {seen : List String} {profiles : List AgentProfile}
    {as : List AgentCompilation} (h : agents c s templates routing seen profiles = .ok as) :
  List.Forall₂ (fun p a => AgentDocument p a.document) profiles as ∧
    (profiles.map (·.name)).Nodup ∧ ∀ p ∈ profiles, p.name ∉ seen
  := by
  induction profiles generalizing seen as with
  | nil =>
      cases h
      exact ⟨List.Forall₂.nil, List.nodup_nil, fun p hp => absurd hp List.not_mem_nil⟩
  | cons p ps ih =>
      rw [agents] at h
      split at h
      · cases h
      · rename_i hseen
        obtain ⟨a, ha, h⟩ := bind_eq_ok_iff.mp h
        obtain ⟨as', has, h⟩ := bind_eq_ok_iff.mp h
        cases h
        obtain ⟨hdocuments, hnodup, hnew⟩ := ih has
        refine ⟨List.Forall₂.cons (agentDocument_of_agent ha) hdocuments, ?_, ?_⟩
        · rw [List.map_cons, List.nodup_cons, List.mem_map]
          refine ⟨?_, hnodup⟩
          rintro ⟨q, hq, heq⟩
          apply hnew q hq
          rw [heq]
          apply List.mem_cons_self
        · intro q hq
          rcases List.mem_cons.mp hq with rfl | hq
          · intro hmem
            apply hseen (List.contains_iff_mem.mpr hmem)
          · intro hmem
            apply hnew q hq (List.mem_cons_of_mem _ hmem)

/-! ### Skills -/

/-- Skills are compiled if they are in the catalog, and their slugs are different. -/
theorem skills_spec {c : Catalog} {seen : Table String} {ids : List String} {ss : List Skill}
    (h : skills c seen ids = .ok ss) :
  (∀ s ∈ ss, s ∈ c.skills) ∧ (ss.map (·.slug)).Nodup ∧ ∀ s ∈ ss, seen.get? s.slug = none
  := by
  induction ids generalizing seen ss with
  | nil =>
      cases h
      exact ⟨fun s hs => absurd hs List.not_mem_nil, List.nodup_nil,
        fun s hs => absurd hs List.not_mem_nil⟩
  | cons id ids ih =>
      rw [skills] at h
      obtain ⟨s, hs, h⟩ := bind_eq_ok_iff.mp h
      split at h
      · cases h
      · rename_i hseen
        obtain ⟨ss', hss', h⟩ := bind_eq_ok_iff.mp h
        cases h
        obtain ⟨hmem, hnodup, hnew⟩ := ih hss'
        have hs' : s ∈ c.skills := (Catalog.mem_of_find?_eq_some (skillOf_eq_ok_iff.mp hs)).1
        have hnew' : ∀ t ∈ ss', t.slug ≠ s.slug ∧ seen.get? t.slug = none := by
          intro t ht
          have hget := hnew t ht
          rw [Table.get?, List.find?_cons] at hget
          split at hget
          · cases hget
          · rename_i hne
            exact ⟨Ne.symm (beq_eq_false_iff_ne.mp hne), hget⟩
        refine ⟨?_, ?_, ?_⟩
        · rw [List.forall_mem_cons]
          exact ⟨hs', hmem⟩
        · rw [List.map_cons, List.nodup_cons, List.mem_map]
          refine ⟨?_, hnodup⟩
          rintro ⟨t, ht, heq⟩
          apply (hnew' t ht).1 heq
        · rw [List.forall_mem_cons]
          exact ⟨hseen, fun t ht => (hnew' t ht).2⟩

theorem skillPath_eq (slug file : String) :
  skillPath slug file = "skills/" ++ (slug ++ "/" ++ file)
  := by
  simp [skillPath, ← String.toList_inj]

theorem head?_skillPath (slug file : String) :
  (skillPath slug file).toList.head? = some 's'
  := by
  simp [skillPath]

/-- The path of a file of a skill tells the slug and the file. -/
theorem skillPath_injective {slug slug' file file' : String} (hslug : '/' ∉ slug.toList)
    (hslug' : '/' ∉ slug'.toList) (h : skillPath slug file = skillPath slug' file') :
  slug = slug' ∧ file = file'
  := by
  rw [skillPath_eq, skillPath_eq, String.append_right_inj] at h
  have hsegments := congrArg Text.segments h
  rw [Text.segments_append hslug, Text.segments_append hslug'] at hsegments
  injection hsegments with heq _
  rw [heq, String.append_right_inj] at h
  exact ⟨heq, h⟩

/-- Skills whose files have different paths: no slash cuts the slug, and the files beside the text
have different names, none of them that of the text. -/
structure Layable (s : Skill) : Prop where
  slash_not_mem : '/' ∉ s.slug.toList
  names_nodup : (s.resources.map (·.1)).Nodup
  skillFile_not_mem : skillFile ∉ s.resources.map (·.1)

/-- A document of a skill is its text or one of the files beside it. -/
theorem mem_skillDocuments {s : Skill} {d : Document} (h : d ∈ skillDocuments s) :
  (d.path = skillPath s.slug skillFile ∧
    d.content = Header.render [(.str "name", .str s.slug), (.str "description", .str s.description)]
      s.content) ∨
    ∃ r ∈ s.resources, d.path = skillPath s.slug r.1
  := by
  rw [skillDocuments] at h
  rcases List.mem_cons.mp h with rfl | h
  · exact Or.inl ⟨rfl, rfl⟩
  · obtain ⟨r, hr, rfl⟩ := List.mem_map.mp h
    exact Or.inr ⟨r, List.mem_mergeSort.mp hr, rfl⟩

theorem exists_file_of_mem_paths {s : Skill} {path : String}
    (h : path ∈ (skillDocuments s).map (·.path)) :
  ∃ file, path = skillPath s.slug file
  := by
  obtain ⟨d, hd, rfl⟩ := List.mem_map.mp h
  rcases mem_skillDocuments hd with ⟨hpath, -⟩ | ⟨r, -, hpath⟩
  · exact ⟨skillFile, hpath⟩
  · exact ⟨r.1, hpath⟩

/-- The documents of a skill have different paths. -/
theorem nodup_skillDocuments {s : Skill} (hs : Layable s) :
  ((skillDocuments s).map (·.path)).Nodup
  := by
  rw [skillDocuments, List.map_cons, List.map_map, List.nodup_cons]
  constructor
  · intro hmem
    obtain ⟨r, hr, heq⟩ := List.mem_map.mp hmem
    have hfile := (skillPath_injective hs.slash_not_mem hs.slash_not_mem heq).2
    apply hs.skillFile_not_mem
    rw [← hfile]
    apply List.mem_map_of_mem (List.mem_mergeSort.mp hr)
  · have hsorted : ((s.resources.mergeSort fun a b => Text.le a.1 b.1).map (·.1)).Nodup := by
      apply (List.Perm.map _ (List.mergeSort_perm _ _)).nodup_iff.mpr hs.names_nodup
    have hpaths : ((s.resources.mergeSort fun a b => Text.le a.1 b.1).map (·.1)).map
        (skillPath s.slug)
        = (s.resources.mergeSort fun a b => Text.le a.1 b.1).map fun r => skillPath s.slug r.1 := by
      rw [List.map_map]
      rfl
    have hnodup := hsorted.map (f := skillPath s.slug)
      (fun file file' heq => (skillPath_injective hs.slash_not_mem hs.slash_not_mem heq).2)
    rw [hpaths] at hnodup
    apply hnodup

/-! ### Bundles -/

/-- The documents that a bundle is compiled to: those of agents, of skills, and of hooks. -/
structure Parts (profiles : List AgentProfile) (hooks : Value) (b : CompiledBundle)
    (as : List Document) (ss : List Skill) (hs : List Document) : Prop where
  documents_eq : b.documents = as ++ ss.flatMap skillDocuments ++ hs
  agents : List.Forall₂ AgentDocument profiles as
  names_nodup : (profiles.map (·.name)).Nodup
  slugs_nodup : (ss.map (·.slug)).Nodup
  hooksDocument_eq : hooksDocument hooks = .ok hs

/-- Agents, skills and hooks that could be compiled are the parts of a bundle with their
documents. -/
theorem parts_of_compiled {c : Catalog} {s : ValidatedSelection} {profiles : List AgentProfile}
    {templates : Table String} {routing : Routing} {hooks : Value} {ids : List String}
    {b : CompiledBundle} {as : List AgentCompilation} {ss : List Skill} {hs : List Document}
    (has : Compile.agents c s templates routing [] profiles = .ok as)
    (hss : skills c [] ids = .ok ss) (hhs : hooksDocument hooks = .ok hs)
    (hb : b.documents = as.map (·.document) ++ ss.flatMap skillDocuments ++ hs) :
  Parts profiles hooks b (as.map (·.document)) ss hs ∧ ∀ t ∈ ss, t ∈ c.skills
  := by
  obtain ⟨hagents, hnames, -⟩ := agents_documents has
  obtain ⟨hmem, hslugs, -⟩ := skills_spec hss
  refine ⟨?_, hmem⟩
  constructor
  · apply hb
  · rw [List.forall₂_map_right_iff]
    apply hagents
  · apply hnames
  · apply hslugs
  · apply hhs

/-- A bundle that could be compiled has parts, and its skills are in the catalog. -/
theorem exists_parts {c : Catalog} {s : ValidatedSelection} {profiles : List AgentProfile}
    {templates : Table String} {name : String} {routing : Routing} {hooks : Value}
    {b : CompiledBundle} (h : bundle c s profiles templates name routing hooks = .ok b) :
  ∃ as ss hs, Parts profiles hooks b as ss hs ∧ ∀ t ∈ ss, t ∈ c.skills
  := by
  obtain ⟨as, ss, hs, has, hss, hhs, hdocuments⟩ := bundle_parts h
  exact ⟨as.map (·.document), ss, hs, parts_of_compiled has hss hhs hdocuments⟩

/-- The document of hooks is where hooks are, and holds them. -/
theorem mem_hooksDocument {hooks : Value} {hs : List Document} (h : hooksDocument hooks = .ok hs)
    {d : Document} (hd : d ∈ hs) :
  hs = [d] ∧ d.path = hooksPath ∧ hooks.isEmpty = false ∧
    Json.unwritable? (.ofFields [("hooks", hooks)]) = none ∧
    d.content = Json.write (.ofFields [("hooks", hooks)]) ++ "\n"
  := by
  rw [hooksDocument] at h
  split at h
  · cases h
    cases hd
  · rename_i hempty
    dsimp only at h
    split at h
    · cases h
    · rename_i hwritable
      cases h
      rw [List.mem_singleton.mp hd]
      exact ⟨rfl, rfl, Bool.eq_false_iff.mpr hempty, hwritable, rfl⟩

/-- The documents of skills with different slugs have different paths. -/
theorem nodup_flatMap_skillDocuments {ss : List Skill} (hslugs : (ss.map (·.slug)).Nodup)
    (hss : ∀ s ∈ ss, Layable s) :
  ((ss.flatMap skillDocuments).map (·.path)).Nodup
  := by
  rw [List.map_flatMap, List.nodup_flatMap]
  constructor
  · intro s hs
    apply nodup_skillDocuments (hss s hs)
  · rw [List.Nodup, List.pairwise_map] at hslugs
    apply hslugs.imp_of_mem
    intro s t hs ht hne path hpath hpath'
    obtain ⟨file, hfile⟩ := exists_file_of_mem_paths hpath
    obtain ⟨file', hfile'⟩ := exists_file_of_mem_paths hpath'
    rw [hfile] at hfile'
    apply hne (skillPath_injective (hss s hs).slash_not_mem (hss t ht).slash_not_mem hfile').1

/-- The paths of the documents of skills begin as their directory does. -/
theorem head?_of_mem_skillPaths {ss : List Skill} {path : String}
    (h : path ∈ (ss.flatMap skillDocuments).map (·.path)) :
  path.toList.head? = some 's'
  := by
  rw [List.map_flatMap] at h
  obtain ⟨s, -, hpath⟩ := List.mem_flatMap.mp h
  obtain ⟨file, rfl⟩ := exists_file_of_mem_paths hpath
  apply head?_skillPath

/-- Lists of paths that begin with different characters share none. -/
theorem ne_of_head?_ne {paths paths' : List String} {c c' : Char}
    (h : ∀ path ∈ paths, path.toList.head? = some c)
    (h' : ∀ path ∈ paths', path.toList.head? = some c') (hne : c ≠ c') :
  ∀ path ∈ paths, ∀ path' ∈ paths', path ≠ path'
  := by
  rintro path hpath _ hpath' rfl
  have hc := h path hpath
  rw [h' path hpath'] at hc
  injection hc with hc
  exact hne hc.symm

namespace Parts

variable {profiles : List AgentProfile} {hooks : Value} {b : CompiledBundle} {as : List Document}
    {ss : List Skill}
  {hs : List Document} (h : Parts profiles hooks b as ss hs)

include h

/-- Every document of a bundle belongs to an agent, a skill or the hooks. -/
theorem document_cases {d : Document} (hd : d ∈ b.documents) :
  (∃ p ∈ profiles, AgentDocument p d) ∨ (∃ s ∈ ss, d ∈ skillDocuments s) ∨ d ∈ hs
  := by
  rw [h.documents_eq, List.mem_append, List.mem_append, List.mem_flatMap] at hd
  rcases hd with (hd | hd) | hd
  · exact Or.inl (exists_of_mem_of_forall₂ h.agents hd)
  · exact Or.inr (Or.inl hd)
  · exact Or.inr (Or.inr hd)

/-- No two documents have one path. -/
theorem nodup_paths (hss : ∀ s ∈ ss, Layable s) :
  b.paths.Nodup
  := by
  have hagents : (as.map (·.path)).Nodup := by
    rw [map_path_agentDocuments h.agents]
    apply h.names_nodup.map
    intro name name' heq
    apply agentPath_injective heq
  have hhooks : (hs.map (·.path)).Nodup := by
    cases hs with
    | nil => apply List.nodup_nil
    | cons d hs =>
        rw [(mem_hooksDocument h.hooksDocument_eq List.mem_cons_self).1]
        apply List.nodup_singleton
  have hagentHead : ∀ path ∈ as.map (·.path), path.toList.head? = some 'a' := by
    rw [map_path_agentDocuments h.agents, List.forall_mem_map]
    intro name _
    apply head?_agentPath
  have hhooksHead : ∀ path ∈ hs.map (·.path), path.toList.head? = some 'h' := by
    rw [List.forall_mem_map]
    intro d hd
    rw [(mem_hooksDocument h.hooksDocument_eq hd).2.1]
    rfl
  rw [CompiledBundle.paths, h.documents_eq, List.map_append, List.map_append, List.nodup_append,
    List.nodup_append]
  refine ⟨⟨hagents, nodup_flatMap_skillDocuments h.slugs_nodup hss, ?_⟩, hhooks, ?_⟩
  · exact ne_of_head?_ne hagentHead (fun _ => head?_of_mem_skillPaths) (by decide)
  · intro path hpath
    rcases List.mem_append.mp hpath with hpath | hpath
    · exact ne_of_head?_ne hagentHead hhooksHead (by decide) path hpath
    · exact ne_of_head?_ne (fun _ => head?_of_mem_skillPaths) hhooksHead (by decide) path hpath

end Parts

end AgentBundles.Compile
