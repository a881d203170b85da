import AgentBundles.Proofs.Compile.Closed
import AgentBundles.Proofs.Compile.Digest

/-!
# What a readme lists

The readme of a compiled bundle lists the names of its agents and the slugs of its skills, in order.
An agent is listed once. A skill is listed once for its text, and once more for each file beside it
that is itself named like a text, in whatever directory below the skill: validation takes no such
file for the text of a skill. So every skill is listed once exactly if no file beside a text has the
name of a text.
-/

namespace AgentBundles

/-! ### The ends of paths -/

/-- Whether a file has the name of the text of a skill, in whatever directory. -/
def isTextName (file : String) : Bool := (Text.segments file).getLast? == some Compile.skillFile

/-- What stands behind a slash ends in a slash and a text without slashes exactly if that text is
its last segment. -/
theorem endsWith_slash_iff {n : String} (hn : '/' ∉ n.toList) (above file : String) :
  Text.endsWith (above ++ "/" ++ file) ("/" ++ n) = true ↔ (Text.segments file).getLast? = some n
  := by
  have hlast : (Text.segments (above ++ "/" ++ file)).getLast? = (Text.segments file).getLast? := by
    rw [Text.segments_append_slash, List.getLast?_append_of_ne_nil _ (Text.segments_ne_nil file)]
  constructor
  · intro h
    obtain ⟨t, ht⟩ := Text.endsWith_eq_true_iff.mp h
    rw [← hlast, ht, ← String.append_assoc, Text.segments_append_slash, Text.segments_of_not_mem hn,
      List.getLast?_concat]
  · intro h
    obtain ⟨init, hinit⟩ := List.getLast?_eq_some_iff.mp h
    by_cases hnil : init = []
    · rw [hnil, List.nil_append] at hinit
      rw [← Text.eq_of_segments_eq_singleton hinit, String.append_assoc]
      apply Text.endsWith_append
    · have hfile : file = Text.join "/" init ++ ("/" ++ n) := by
        rw [← Text.join_segments file, hinit, Text.join_concat hnil, String.append_assoc]
      rw [hfile, ← String.append_assoc]
      apply Text.endsWith_append

namespace Readme

/-- The lines of a readme before the list of agents. -/
def front (d : BundleMetadata) : List String :=
  ["# " ++ d.name, "", orElse d.description "An agent skill bundle.", ""] ++
    titled "Tags" (if d.keywords.isEmpty then [] else [Text.join " " (d.keywords.map code)])

/-- The lines of a readme after the list of skills. -/
def back (d : BundleMetadata) : List String :=
  titled "Philosophy" ((d.philosophy.filter fun p => !p.isEmpty).toList.map Text.trim) ++
    titled "Principles" (bullets d.principles)

/-- A readme lists agents and skills in sections of their own, between lines that the metadata
make. -/
theorem content_eq (d : BundleMetadata) (paths : List String) :
  (document d paths).content
    = Text.join "\n" (front d ++ titled "Agents" (bullets ((agentNames paths).map code)) ++
        titled "Skills" (bullets ((skillNames paths).map code)) ++ back d)
  := by
  rw [document, lines, front, back]
  simp only [List.append_assoc]

/-! ### Agents -/

/-- A path is taken for that of an agent. -/
def isAgent (path : String) : Bool := Text.startsWith path Manifest.agentsDirectory &&
    Text.endsWith path ".md"

/-- A path is taken for that of the text of a skill. -/
def isSkill (path : String) : Bool :=
  Text.startsWith path Manifest.skillsDirectory && Text.endsWith path ("/" ++ Compile.skillFile)

theorem isAgent_agentPath (name : String) :
  isAgent (Compile.agentPath name) = true
  := by
  have hpath : Compile.agentPath name = Manifest.agentsDirectory ++ (name ++ ".md") :=
    String.append_assoc
  rw [isAgent, Bool.and_eq_true, hpath]
  refine ⟨Text.startsWith_append _ _, ?_⟩
  rw [← String.append_assoc]
  apply Text.endsWith_append

theorem filter_isAgent_eq_nil {paths : List String} {c : Char}
    (hpaths : ∀ path ∈ paths, path.toList.head? = some c) (hc : c ≠ 'a') :
  paths.filter isAgent = []
  := by
  have hdirectory : Manifest.agentsDirectory.toList.head? = some 'a' := rfl
  rw [List.filter_eq_nil_iff]
  intro path hpath
  rw [isAgent, Text.startsWith_eq_false_of_head? hdirectory (hpaths path hpath) (Ne.symm hc)]
  exact Bool.false_ne_true

theorem filter_isSkill_eq_nil {paths : List String} {c : Char}
    (hpaths : ∀ path ∈ paths, path.toList.head? = some c) (hc : c ≠ 's') :
  paths.filter isSkill = []
  := by
  have hdirectory : Manifest.skillsDirectory.toList.head? = some 's' := rfl
  rw [List.filter_eq_nil_iff]
  intro path hpath
  rw [isSkill, Text.startsWith_eq_false_of_head? hdirectory (hpaths path hpath) (Ne.symm hc)]
  exact Bool.false_ne_true

/-- Of the files of a skill, those with the name of a text are taken for one. -/
theorem isSkill_skillPath (slug file : String) :
  isSkill (Compile.skillPath slug file) = isTextName file
  := by
  have hpath : Compile.skillPath slug file = Manifest.skillsDirectory ++ (slug ++ "/" ++ file) :=
    Compile.skillPath_eq slug file
  have hfile : Compile.skillPath slug file = "skills/" ++ slug ++ "/" ++ file := rfl
  rw [isSkill, Bool.eq_iff_iff, Bool.and_eq_true, isTextName, beq_iff_eq,
    ← endsWith_slash_iff (by decide) ("skills/" ++ slug) file, ← hfile]
  refine and_iff_right ?_
  rw [hpath]
  apply Text.startsWith_append

/-- The name that an agent is listed under is that in its path. -/
theorem name_agentPath (name : String) :
  Text.dropEnd (Text.dropStart (Compile.agentPath name) Manifest.agentsDirectory.length) 3 = name
  := by
  have hpath : Compile.agentPath name = Manifest.agentsDirectory ++ (name ++ ".md") :=
    String.append_assoc
  rw [hpath, Text.dropStart_append]
  apply Text.dropEnd_append name ".md"

/-- The name that a file of a skill is listed under is the slug. -/
theorem slug_skillPath {slug : String} (hslug : '/' ∉ slug.toList) (file : String) :
  ((Text.segments (Compile.skillPath slug file)).drop 1).headD "" = slug
  := by
  have hpath : Compile.skillPath slug file = "skills" ++ "/" ++ (slug ++ "/" ++ file) := by
    simp [Compile.skillPath, ← String.toList_inj]
  rw [hpath, Text.segments_append (by decide), Text.segments_append hslug]
  rfl

end Readme

/-! ### Compiled bundles -/

/-- How often a readme lists a skill: for its text, and for each file beside it that has the name of
a text. -/
def Skill.listings (t : Skill) : Nat := (t.resources.countP fun f => isTextName f.1) + 1

/-- Going through the files of a skill, its slug is listed for its text and for the files with the
name of a text. -/
theorem map_slug_skillDocuments {t : Skill} (hslug : '/' ∉ t.slug.toList) :
  ((((Compile.skillDocuments t).map (·.path)).filter Readme.isSkill).map
      fun p => ((Text.segments p).drop 1).headD "") = List.replicate t.listings t.slug
  := by
  have htext : isTextName Compile.skillFile = true := by decide
  have hcount : ((t.resources.mergeSort fun f g => Text.le f.1 g.1).countP fun f => isTextName f.1)
      = t.resources.countP fun f => isTextName f.1 := (List.mergeSort_perm _ _).countP_eq _
  rw [List.eq_replicate_iff]
  constructor
  · rw [List.length_map, ← List.countP_eq_length_filter, List.countP_map, Compile.skillDocuments,
      List.countP_cons, List.countP_map, Skill.listings, ← hcount]
    simp only [Function.comp_def, Readme.isSkill_skillPath, htext, if_true]
  · rw [List.forall_mem_map]
    intro p hp
    obtain ⟨file, rfl⟩ := Compile.exists_file_of_mem_paths (List.mem_of_mem_filter hp)
    apply Readme.slug_skillPath hslug

namespace Compile.Parts

variable {profiles : List AgentProfile} {hooks : Value} {b : CompiledBundle} {as : List Document}
    {ss : List Skill}
  {hs : List Document} (h : Parts profiles hooks b as ss hs)

include h

theorem paths_eq :
  b.paths = (profiles.map (·.name)).map agentPath ++ ss.flatMap
    (fun t => (skillDocuments t).map (·.path)) ++ hs.map (·.path)
  := by
  rw [CompiledBundle.paths, h.documents_eq, List.map_append, List.map_append,
    map_path_agentDocuments h.agents, List.map_flatMap]

theorem head?_of_mem_hooks :
  ∀ path ∈ hs.map (·.path), path.toList.head? = some 'h'
  := by
  rw [List.forall_mem_map]
  intro x hx
  rw [(mem_hooksDocument h.hooksDocument_eq hx).2.1]
  rfl

/-- The agents that a readme lists are those of the profiles. -/
theorem agentNames_eq :
  Readme.agentNames b.paths = Text.sort (profiles.map (·.name))
  := by
  have hagents : ((profiles.map (·.name)).map agentPath).filter Readme.isAgent
      = (profiles.map (·.name)).map agentPath := by
    rw [List.filter_eq_self, List.forall_mem_map]
    intro name _
    apply Readme.isAgent_agentPath
  have hskills : (ss.flatMap fun t => (skillDocuments t).map (·.path)).filter Readme.isAgent
      = [] := by
    refine Readme.filter_isAgent_eq_nil (c := 's') ?_ (by decide)
    intro path hpath
    obtain ⟨t, -, hpath⟩ := List.mem_flatMap.mp hpath
    obtain ⟨file, rfl⟩ := exists_file_of_mem_paths hpath
    apply head?_skillPath
  have hfilter : b.paths.filter Readme.isAgent = (profiles.map (·.name)).map agentPath := by
    rw [h.paths_eq, List.filter_append, List.filter_append, hagents, hskills,
      Readme.filter_isAgent_eq_nil h.head?_of_mem_hooks (by decide), List.append_nil,
      List.append_nil]
  have hnames : ((profiles.map (·.name)).map agentPath).map
      (fun p => Text.dropEnd (Text.dropStart p Manifest.agentsDirectory.length) 3)
        = profiles.map (·.name) := by
    rw [List.map_map]
    exact (List.map_congr_left fun name _ => Readme.name_agentPath name).trans (List.map_id _)
  rw [Readme.agentNames]
  change Text.sort ((b.paths.filter Readme.isAgent).map _) = _
  rw [hfilter, hnames]

/-- The skills that a readme lists are those of the bundle, each as often as it has files with the
name of a text. -/
theorem skillNames_eq (hslash : ∀ t ∈ ss, '/' ∉ t.slug.toList) :
  Readme.skillNames b.paths = Text.sort (ss.flatMap fun t => List.replicate t.listings t.slug)
  := by
  have hagents : ((profiles.map (·.name)).map agentPath).filter Readme.isSkill = [] := by
    refine Readme.filter_isSkill_eq_nil (c := 'a') ?_ (by decide)
    rw [List.forall_mem_map]
    intro name _
    apply head?_agentPath
  have hfilter : b.paths.filter Readme.isSkill
      = ss.flatMap fun t => ((skillDocuments t).map (·.path)).filter Readme.isSkill := by
    rw [h.paths_eq, List.filter_append, List.filter_append, hagents,
      Readme.filter_isSkill_eq_nil h.head?_of_mem_hooks (by decide), List.nil_append,
      List.append_nil, List.filter_flatMap]
  rw [Readme.skillNames]
  change Text.sort ((b.paths.filter Readme.isSkill).map _) = _
  rw [hfilter, List.map_flatMap]
  congr 1
  apply List.flatMap_congr
  intro t ht
  apply map_slug_skillDocuments (hslash t ht)

end Compile.Parts

/-! ### How often a skill is listed -/

section

variable {α : Type} {key : α → String} {n : α → Nat} {xs : List α}

/-- Where items have different names and each gives its own name so many times, a name occurs as
often as its item gives it. -/
theorem count_flatMap_replicate (h : (xs.map key).Nodup) {x : α} (hx : x ∈ xs) :
  (xs.flatMap fun x => List.replicate (n x) (key x)).count (key x) = n x
  := by
  -- A name that no item has is not given.
  have hother : ∀ ys : List α, key x ∉ ys.map key →
      (ys.flatMap fun x => List.replicate (n x) (key x)).count (key x) = 0 := by
    intro ys hys
    rw [List.count_eq_zero, List.mem_flatMap]
    rintro ⟨y, hy, hmem⟩
    apply hys
    rw [(List.mem_replicate.mp hmem).2]
    apply List.mem_map_of_mem hy
  induction xs with
  | nil => cases hx
  | cons y xs ih =>
      obtain ⟨hy, hnodup⟩ := List.nodup_cons.mp h
      rw [List.flatMap_cons, List.count_append, List.count_replicate]
      rcases List.mem_cons.mp hx with rfl | hx
      · rw [beq_self_eq_true, if_pos rfl, hother xs hy, Nat.add_zero]
      · have hne : key y ≠ key x := by
          intro heq
          apply hy
          rw [heq]
          apply List.mem_map_of_mem hx
        rw [beq_eq_false_iff_ne.mpr hne, if_neg Bool.false_ne_true, Nat.zero_add, ih hnodup hx]

/-- Nothing occurs twice exactly if each name is given once. -/
theorem nodup_flatMap_replicate_iff (h : (xs.map key).Nodup) :
  (xs.flatMap fun x => List.replicate (n x + 1) (key x)).Nodup ↔ ∀ x ∈ xs, n x = 0
  := by
  constructor
  · intro hnodup x hx
    have hcount := List.nodup_iff_count_le_one.mp hnodup (key x)
    rw [count_flatMap_replicate h hx] at hcount
    exact Nat.le_zero.mp (Nat.le_of_succ_le_succ hcount)
  · intro hzero
    have honce : (xs.flatMap fun x => List.replicate (n x + 1) (key x)) = xs.map key := by
      rw [List.map_eq_flatMap]
      apply List.flatMap_congr
      intro x hx
      rw [hzero x hx]
      rfl
    rw [honce]
    apply h

end

/-- The directories of a bundle whose texts validation checks as those of skills. -/
def Bundle.ChecksSkill (bundle : Bundle) (directory : String) : Prop :=
  ∃ manifest issues, Validation.manifestOf bundle.files = .ok (manifest, issues) ∧
    ∃ path ∈ bundle.files.names,
      Validation.isSkillPath
        (Validation.directoryOf (.map manifest) "skills" Manifest.skillsDirectory) path = true ∧
      Validation.skillDirectory? path = some directory

theorem skillDirectory?_skillPath {slug : String} (hslug : '/' ∉ slug.toList) :
  Validation.skillDirectory? (Compile.skillPath slug Compile.skillFile) = some slug
  := by
  have hpath : Compile.skillPath slug Compile.skillFile
      = "skills" ++ "/" ++ (slug ++ "/" ++ Compile.skillFile) := by
    simp [Compile.skillPath, ← String.toList_inj]
  have hsegments : (Text.segments (Compile.skillPath slug Compile.skillFile)).reverse
      = [Compile.skillFile, slug, "skills"] := by
    rw [hpath, Text.segments_append (by decide), Text.segments_append hslug,
      Text.segments_of_not_mem (by decide)]
    rfl
  rw [Validation.skillDirectory?, hsegments]
  rfl

/-- Validation of a compiled bundle with its readme and manifest checks the texts of its skills,
each in the directory of its slug. -/
theorem Compile.Parts.checksSkill_iff {profiles : List AgentProfile} {hooks : Value}
    {b : CompiledBundle} {as : List Document} {ss : List Skill} {hs : List Document}
    (h : Parts profiles hooks b as ss hs) (hslash : ∀ t ∈ ss, '/' ∉ t.slug.toList)
    {d : BundleMetadata} {location : Option Location} {bundle : Bundle}
    (hbundle : Bundle.assemble b.documents (some (Readme.document d b.paths))
      (Manifest.describe d b.paths) location = .ok bundle) {x : String} :
  bundle.ChecksSkill x ↔ ∃ t ∈ ss, t.slug = x
  := by
  obtain ⟨hfiles, hnodup⟩ := h.of_assemble_eq_ok rfl hbundle
  have hnames : bundle.files.names = b.paths ++ [Readme.path, Manifest.path] := by
    rw [hfiles]
    apply names_compiledFiles b d
  have hmem : (Manifest.path, (Manifest.describe d b.paths).write) ∈ bundle.files := by
    rw [hfiles]
    apply List.mem_append_right
    exact List.mem_cons_of_mem _ List.mem_cons_self
  obtain ⟨entries, hentries, hmanifest⟩ :=
    Manifest.manifestOf_of_get? (Table.get?_of_mem hnodup hmem)
  have hdirectory := (directoryOf_describe b d).1
  rw [hentries] at hdirectory
  constructor
  · rintro ⟨manifest, issues, hmanifest', path, hpath, hskill, hx⟩
    rw [hmanifest] at hmanifest'
    cases hmanifest'
    rw [hdirectory] at hskill
    rw [hnames, List.mem_append] at hpath
    -- No document but those of skills lies below the directory of skills.
    have hpath : path ∈ ss.flatMap fun t => (skillDocuments t).map (·.path) := by
      rcases hpath with hpath | hpath
      · rw [h.paths_eq, List.mem_append, List.mem_append] at hpath
        rcases hpath with (hpath | hpath) | hpath
        · obtain ⟨name, -, rfl⟩ := List.mem_map.mp hpath
          rw [isSkillPath_eq_false (head?_agentPath name) (by decide)] at hskill
          cases hskill
        · apply hpath
        · rw [isSkillPath_eq_false (h.head?_of_mem_hooks path hpath) (by decide)] at hskill
          cases hskill
      · simp only [List.mem_cons, List.not_mem_nil, or_false] at hpath
        rcases hpath with rfl | rfl
        · rw [isSkillPath_eq_false (c := 'R') rfl (by decide)] at hskill
          cases hskill
        · rw [isSkillPath_eq_false (c := '.') rfl (by decide)] at hskill
          cases hskill
    obtain ⟨t, ht, hpath⟩ := List.mem_flatMap.mp hpath
    obtain ⟨file, rfl⟩ := exists_file_of_mem_paths hpath
    obtain rfl := (isSkillPath_skillPath (hslash t ht)).mp hskill
    rw [skillDirectory?_skillPath (hslash t ht), Option.some.injEq] at hx
    exact ⟨t, ht, hx⟩
  · rintro ⟨t, ht, rfl⟩
    refine ⟨entries, _, hmanifest, skillPath t.slug skillFile, ?_, ?_,
      skillDirectory?_skillPath (hslash t ht)⟩
    · rw [hnames]
      apply List.mem_append_left _ (h.textPath_mem_paths ht)
    · rw [hdirectory]
      apply (isSkillPath_skillPath (hslash t ht)).mpr rfl

/-! ### The readme of a bundle -/

/-- The readme of a compiled bundle with the skills `ss` lists these names of agents and of
skills. -/
structure Compile.Listed (c : Catalog) (s : ValidatedSelection) (profiles : List AgentProfile)
    (b : CompiledBundle) (d : BundleMetadata) (ss : List Skill) (agents skills : List String) :
    Prop where
  content_eq : (Readme.document d b.paths).content
    = Text.join "\n"
      (Readme.front d ++ Readme.titled "Agents" (Readme.bullets (agents.map Readme.code)) ++
        Readme.titled "Skills" (Readme.bullets (skills.map Readme.code)) ++ Readme.back d)
  agents_perm : agents.Perm (profiles.map (·.name))
  agents_sorted : agents.Pairwise (· < ·)
  shipped : ∀ t, t ∈ ss ↔ ∃ id,
    (id ∈ s.selection.ids ∨ ∃ p ∈ profiles, ∃ name ∈ p.settings.preloadedSkills,
      c.resolve name = id) ∧ c.skill? id = some t
  skills_sorted : skills.Pairwise (· ≤ ·)
  mem_skills : ∀ x, x ∈ skills ↔ ∃ t ∈ ss, t.slug = x
  count_skills : ∀ t ∈ ss, skills.count t.slug = t.listings
  nodup_skills : skills.Nodup ↔ ∀ t ∈ ss, ∀ f ∈ t.resources, isTextName f.1 = false
  checked : ∀ location bundle,
    Bundle.assemble b.documents (some (Readme.document d b.paths)) (Manifest.describe d b.paths)
      location = .ok bundle → ∀ x, x ∈ skills ↔ bundle.ChecksSkill x
  assembled : (∀ t ∈ ss, Layable t) → ∀ location, ∃ bundle,
    Bundle.assemble b.documents (some (Readme.document d b.paths)) (Manifest.describe d b.paths)
      location = .ok bundle

/-- The readme of a compiled bundle lists each agent once, in order, and the skills of the bundle,
in order. They are those in whose directories validation checks the text of a skill. A skill is
listed for its text, and once more for each file beside it that has the name of a text. -/
theorem Compile.readme_lists {m : Record.Matrix} {records : List Record.Skill} {c : Catalog}
    (hc : Catalog.build m records = .ok c) {s : ValidatedSelection} {profiles : List AgentProfile}
    {templates : Table String} {name : String} {routing : Routing} {hooks : Value}
    {b : CompiledBundle} (hb : bundle c s profiles templates name routing hooks = .ok b)
    (d : BundleMetadata) :
  ∃ ss agents skills, Listed c s profiles b d ss agents skills
  := by
  obtain ⟨as, ss, hs, has, hss, hhs, hdocuments⟩ := bundle_parts hb
  obtain ⟨hparts, hmem⟩ := parts_of_compiled has hss hhs hdocuments
  have hslash : ∀ t ∈ ss, '/' ∉ t.slug.toList := by
    intro t ht
    have hbuilt := Catalog.built_of_build hc
    have hskill := hmem t ht
    rw [hbuilt.skills_eq] at hskill
    obtain ⟨r, hr, rfl⟩ := List.mem_map.mp hskill
    apply Slug.not_mem_kebabName (hbuilt.slug_isKebabName r hr)
    all_goals decide
  have hperm : (Readme.skillNames b.paths).Perm
      (ss.flatMap fun t => List.replicate t.listings t.slug) := by
    rw [hparts.skillNames_eq hslash]
    apply List.mergeSort_perm
  have hlisted : ∀ x, x ∈ Readme.skillNames b.paths ↔ ∃ t ∈ ss, t.slug = x := by
    intro x
    simp [hperm.mem_iff, Skill.listings, eq_comm]
  refine ⟨ss, Readme.agentNames b.paths, Readme.skillNames b.paths, ?_⟩
  constructor
  · apply Readme.content_eq
  · rw [hparts.agentNames_eq]
    apply List.mergeSort_perm
  · rw [hparts.agentNames_eq]
    apply Text.pairwise_lt_mergeSort id
    rw [List.map_id]
    apply hparts.names_nodup
  · intro t
    rw [mem_of_mapM_eq_ok (mapM_skillOf_of_skills hss)]
    simp only [Text.mem_distinct, mem_contributors_iff (mapM_agent_of_agents has),
      skillOf_eq_ok_iff]
  · apply Text.pairwise_le_mergeSort id
  · apply hlisted
  · intro t ht
    rw [hperm.count_eq]
    apply count_flatMap_replicate hparts.slugs_nodup ht
  · rw [hperm.nodup_iff]
    simp [Skill.listings, nodup_flatMap_replicate_iff hparts.slugs_nodup]
  · intro location bundle hbundle x
    rw [hlisted, hparts.checksSkill_iff hslash hbundle]
  · intro hlayable location
    exact ⟨_, hparts.assemble_with hlayable rfl _ location⟩

/-- A framework is selected, and an agent preloads another one: both are listed once. -/
theorem Compile.readme_lists_frameworks :
  ∃ b ss agents skills, bundle Catalog.frameworks ⟨.ofList ["react"], []⟩ [webDeveloper]
    [("agent", "---")] "web" [] toolHooks
      = .ok b ∧
    Listed Catalog.frameworks ⟨.ofList ["react"], []⟩ [webDeveloper] b webMetadata ss agents
      skills ∧
    "react" ∈ skills ∧ "vue" ∈ skills ∧ skills.Nodup ∧ agents = ["web-developer"]
  := by
  obtain ⟨b, hb⟩ : ∃ b, bundle Catalog.frameworks ⟨.ofList ["react"], []⟩ [webDeveloper]
      [("agent", "---")] "web" [] toolHooks = .ok b := ⟨_, rfl⟩
  obtain ⟨ss, agents, skills, h⟩ := readme_lists Catalog.build_frameworks hb webMetadata
  refine ⟨b, ss, agents, skills, hb, h, ?_, ?_, ?_, List.perm_singleton.mp h.agents_perm⟩
  · rw [h.mem_skills]
    refine ⟨.ofRecord (Catalog.frameworkRecord "react"),
      (h.shipped _).mpr ⟨"react", by decide, rfl⟩, ?_⟩
    change Slug.ofId "react" = "react"
    decide +kernel
  · rw [h.mem_skills]
    refine ⟨.ofRecord (Catalog.frameworkRecord "vue"),
      (h.shipped _).mpr ⟨"vue", by decide, rfl⟩, ?_⟩
    change Slug.ofId "vue" = "vue"
    decide +kernel
  · rw [h.nodup_skills]
    intro t ht f hf
    obtain ⟨id, -, hfound⟩ := (h.shipped t).mp ht
    have hfiles : ∀ t ∈ Catalog.frameworks.skills, t.resources = [] := by decide
    rw [hfiles t (Catalog.mem_of_find?_eq_some hfound).1] at hf
    cases hf

/-- The parts of a bundle of one framework. -/
theorem parts_filed {files : Table String} (h : files.Pairwise fun f g => Text.le f.1 g.1 = true) :
  Compile.Parts [] .null ⟨"kit", filedDocuments files, []⟩ [] [.ofRecord (filedRecord files)] []
  := by
  constructor
  · rw [List.flatMap_singleton, skillDocuments_filed h, List.nil_append, List.append_nil]
  · apply List.Forall₂.nil
  · apply List.nodup_nil
  · apply List.nodup_singleton
  · rfl

/-- A file in a directory beside a text, with the name of a text. -/
def exampleFiles : Table String := [("examples/SKILL.md", "x")]

/-- The readme lists a framework with such a file twice, and validation checks one text. -/
theorem Compile.readme_lists_twice :
  ∃ c b bundle, Catalog.build bareMatrix [filedRecord exampleFiles] = .ok c ∧
    Compile.bundle c ⟨.ofList ["react"], []⟩ [] [] "kit" [] .null = .ok b ∧
    Bundle.assemble b.documents (some (Readme.document webMetadata b.paths))
      (Manifest.describe webMetadata b.paths) none
      = .ok bundle ∧
    (Readme.document webMetadata b.paths).content
      = "# web\n\nFrameworks\n\n## Skills\n\n- `react`\n- `react`\n" ∧
    ∀ x, bundle.ChecksSkill x ↔ x = "react"
  := by
  have hsorted : exampleFiles.Pairwise fun f g => Text.le f.1 g.1 = true :=
    List.pairwise_singleton _ _
  have hparts := parts_filed hsorted
  have hslug : (Skill.ofRecord (filedRecord exampleFiles)).slug = "react" := by
    change Slug.ofId "react" = "react"
    decide +kernel
  have hslash : ∀ t ∈ [Skill.ofRecord (filedRecord exampleFiles)], '/' ∉ t.slug.toList := by
    rw [List.forall_mem_singleton, hslug]
    decide
  have hlayable : ∀ t ∈ [Skill.ofRecord (filedRecord exampleFiles)], Layable t := by
    rw [List.forall_mem_singleton]
    exact ⟨hslash _ List.mem_cons_self, List.nodup_singleton _, by decide⟩
  have hagents : Readme.agentNames ((filedDocuments exampleFiles).map (·.path)) = [] :=
    (List.mergeSort_of_pairwise (by decide +kernel)).trans (by decide +kernel)
  have hskills : Readme.skillNames ((filedDocuments exampleFiles).map (·.path))
      = ["react", "react"] :=
    (List.mergeSort_of_pairwise (by decide +kernel)).trans (by decide +kernel)
  obtain ⟨bundle, hbundle⟩ : ∃ bundle, Bundle.assemble (filedDocuments exampleFiles)
      (some (Readme.document webMetadata ((filedDocuments exampleFiles).map (·.path))))
      (Manifest.describe webMetadata ((filedDocuments exampleFiles).map (·.path))) none
        = .ok bundle :=
    ⟨_, hparts.assemble_with hlayable rfl _ none⟩
  refine ⟨_, _, bundle, rfl, bundle_filed hsorted, hbundle, ?_, ?_⟩
  · rw [Readme.content_eq, CompiledBundle.paths, hagents, hskills]
    decide +kernel
  · intro x
    rw [hparts.checksSkill_iff hslash hbundle]
    simp [hslug, eq_comm]

end AgentBundles
