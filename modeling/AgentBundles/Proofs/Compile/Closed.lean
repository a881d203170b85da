import AgentBundles.Proofs.Text.Distinct
import AgentBundles.Proofs.Validation.Compiled

/-!
# Closed bundles

A compiled bundle is a closed set of documents: no two of them have one path, they stand in one
order, the skills are those that are selected or preloaded, and whatever skill the document of an
agent names has its text in the bundle.
-/

namespace AgentBundles

/-! ### Lists in headers -/

/-- The names in a text that lists them with commas. -/
def namesIn (text : String) : List String :=
  (Text.split ',' text).map fun name =>
    if Text.startsWith name " " then Text.dropStart name 1 else name

/-- A text that lists names without commas is split at the commas. -/
theorem split_join {name : String} {names : List String} (h : ∀ n ∈ name :: names, ',' ∉ n.toList) :
  Text.split ',' (Text.join ", " (name :: names)) = name :: names.map (" " ++ ·)
  := by
  induction names generalizing name with
  | nil =>
      rw [Text.join, Text.split, Text.fields_of_not_mem (h name List.mem_cons_self),
        List.map_singleton, String.ofList_toList]
      rfl
  | cons next names ih =>
      have hname : ',' ∉ name.toList := h name List.mem_cons_self
      have hrest : Text.split ',' (Text.join ", " (next :: names)) = next :: names.map (" " ++ ·) :=
        ih fun n hn => h n (List.mem_cons_of_mem _ hn)
      have htext : (Text.join ", " (name :: next :: names)).toList
          = name.toList ++ ',' :: ' ' :: (Text.join ", " (next :: names)).toList := by
        simp [Text.join]
      have hspace : ∀ {cs : List Char} {f : List Char} {fs : List (List Char)}, Text.fields ',' cs
          = f :: fs → Text.fields ',' (' ' :: cs) = (' ' :: f) :: fs := by
        intro cs f fs hfields
        simp [Text.fields, hfields]
      rw [Text.split] at hrest
      obtain ⟨f, fs, hfields, hf, hfs⟩ := List.map_eq_cons_iff.mp hrest
      rw [Text.split, htext, Text.fields_append_cons hname, hspace hfields, List.map_cons,
        List.map_cons, hfs, ← hf]
      simp

/-- A character of names in a list stands in one of the names or between them. -/
theorem mem_join {names : List String} {c : Char} (h : c ∈ (Text.join ", " names).toList) :
  c = ',' ∨ c = ' ' ∨ ∃ n ∈ names, c ∈ n.toList
  := by
  induction names with
  | nil => cases h
  | cons name names ih =>
      cases names with
      | nil => exact Or.inr (Or.inr ⟨name, List.mem_cons_self, h⟩)
      | cons next names =>
          simp only [Text.join, String.toList_append, List.mem_append] at h
          rcases h with (h | h) | h
          · exact Or.inr (Or.inr ⟨name, List.mem_cons_self, h⟩)
          · rcases List.mem_cons.mp h with h | h
            · exact Or.inl h
            · exact Or.inr (Or.inl (List.mem_singleton.mp h))
          · rcases ih h with h | h | ⟨n, hn, h⟩
            · exact Or.inl h
            · exact Or.inr (Or.inl h)
            · exact Or.inr (Or.inr ⟨n, List.mem_cons_of_mem _ hn, h⟩)

/-- The names in a text that lists them are those that it lists. -/
theorem namesIn_join {names : List String} (hne : names ≠ [])
    (h : ∀ n ∈ names, ',' ∉ n.toList ∧ ' ' ∉ n.toList) :
  namesIn (Text.join ", " names) = names
  := by
  obtain ⟨name, names, rfl⟩ := List.exists_cons_of_ne_nil hne
  have hkeep : ∀ n : String, ' ' ∉ n.toList → Text.startsWith n " " = false := by
    intro n hn
    rw [Bool.eq_false_iff]
    intro hstarts
    obtain ⟨t, rfl⟩ := Text.startsWith_eq_true_iff.mp hstarts
    apply hn
    simp
  rw [namesIn, split_join fun n hn => (h n hn).1, List.map_cons, List.map_map,
    hkeep name (h name List.mem_cons_self).2, if_neg Bool.false_ne_true]
  congr 1
  apply Value.map_eq_self
  intro n _
  simp only [Function.comp, Text.startsWith_append, if_true]
  apply Text.dropStart_append

/-- A header lists names if its field for skills is split into them, or if there are none and it has
no such field. -/
def HeaderLists (header : Value) (names : List String) : Prop :=
  (names = [] ∧ header.field? "skills" = none) ∨
    names ≠ [] ∧ ∃ text, header.field? "skills" = some (.str text) ∧ namesIn text = names

theorem HeaderLists.namesIn_eq {header : Value} {names : List String} (h : HeaderLists header names)
    {text : String} (htext : header.field? "skills" = some (.str text)) :
  namesIn text = names
  := by
  rcases h with ⟨-, hnone⟩ | ⟨-, text', htext', hnames⟩
  · cases hnone.symm.trans htext
  · cases htext'.symm.trans htext
    apply hnames

namespace Compile

/-! ### The skills of an agent -/

theorem mem_of_relevant {r : Routing} {c : Catalog} {name : String} {ids relevant : List String}
    (h : r.relevant c name ids = .ok relevant) :
  relevant ⊆ ids
  := by
  rw [Routing.relevant] at h
  split at h
  · cases h
    apply List.Subset.refl
  · obtain ⟨kept, hkept, h⟩ := bind_eq_ok_iff.mp h
    cases h
    intro id hid
    obtain ⟨part, hpart, hid⟩ := List.mem_flatten.mp hid
    obtain ⟨id', hid', hfound⟩ := (mem_of_mapM_eq_ok hkept).mp hpart
    split at hfound
    · cases hfound
      split at hid
      · rw [List.mem_singleton.mp hid]
        apply hid'
      · cases hid
    · cases hfound

/-- The identifiers of preloaded skills are those that the names in the profile stand for. -/
theorem of_preloadedIds_eq_ok {c : Catalog} {p : AgentProfile} {templates : Table String}
    {ids : List String} (h : preloadedIds c p templates = .ok ids) :
  ids = Text.distinct (p.settings.preloadedSkills.map c.resolve)
  := by
  rw [preloadedIds] at h
  split at h
  · cases h
  · split at h
    · cases h
    · cases h
      rfl

/-- An agent is compiled from the skills that it preloads, whose texts it holds and whose slugs its
header names, and from others, which its index names; these are the skills that go into it. -/
structure MadeFrom (c : Catalog) (p : AgentProfile) (templates : Table String) (d : Document)
    (preloaded indexed : List Skill) : Prop where
  content_eq : d.content = Header.render (header p preloaded)
    (joinSections (sections p templates (skillTexts preloaded) (skillIndex indexed)))
  contributes : ∀ t ∈ preloaded ++ indexed, ∃ id ∈ d.contributors, c.skill? id = some t

/-- The skills of an agent are those of its profile, and some of the selected ones. -/
theorem exists_madeFrom {c : Catalog} {s : ValidatedSelection} {p : AgentProfile}
    {templates : Table String} {routing : Routing} {a : AgentCompilation}
    (h : agent c s p templates routing = .ok a) :
  (∃ preloaded indexed, MadeFrom c p templates a.document preloaded indexed) ∧
    p.settings.preloadedSkills.map c.resolve ⊆ a.document.contributors ∧
    a.document.contributors ⊆ p.settings.preloadedSkills.map c.resolve ++ s.selection.ids
  := by
  obtain ⟨ids, relevant, preloaded, indexed, hparts⟩ := agent_eq_ok_iff.mp h
  have hids := of_preloadedIds_eq_ok hparts.preloadedIds_eq
  have hsubset := mem_of_relevant hparts.relevant_eq
  rw [hparts.contributors_eq]
  refine ⟨⟨preloaded, indexed, hparts.content_eq, ?_⟩, ?_, ?_⟩
  · intro t ht
    rw [hparts.contributors_eq]
    rcases List.mem_append.mp ht with ht | ht
    · obtain ⟨id, hid, hfound⟩ := (mem_of_mapM_eq_ok hparts.preloaded_eq).mp ht
      exact ⟨id, Text.mem_distinct.mpr (List.mem_append_left _ hid), skillOf_eq_ok_iff.mp hfound⟩
    · obtain ⟨id, hid, hfound⟩ := (mem_of_mapM_eq_ok hparts.indexed_eq).mp ht
      exact ⟨id, List.mem_of_mem_filter hid, skillOf_eq_ok_iff.mp hfound⟩
  · intro id hid
    rw [hids]
    apply Text.mem_distinct.mpr (List.mem_append_left _ (Text.mem_distinct.mpr hid))
  · intro id hid
    rcases List.mem_append.mp (Text.mem_distinct.mp hid) with hid | hid
    · rw [hids, Text.mem_distinct] at hid
      apply List.mem_append_left _ hid
    · apply List.mem_append_right _ (hsubset hid)

/-- The header of the document of an agent can be read, and lists the slugs of the skills that the
agent preloads. -/
theorem header_lists (p : AgentProfile) {preloaded : List Skill}
    (hslugs : ∀ t ∈ preloaded, Slug.isKebabName t.slug = true) (body : String) :
  ∃ v, Header.parse (Header.render (header p preloaded) body) = .ok (some v) ∧
    HeaderLists v (preloaded.map (·.slug))
  := by
  have hnames := Validation.agentTexts_sublist p preloaded
  have hfields := fields_backFields (hnames.nodup (by decide))
  have hclear : ∀ {ch : Char}, Slug.isSlugChar ch = false → ch ≠ '-' → ch ≠ '\n' →
      ∀ slug ∈ preloaded.map (·.slug), ch ∉ slug.toList := by
    intro ch hslug hhyphen hfeed
    rw [List.forall_mem_map]
    intro t ht
    apply Slug.not_mem_kebabName (hslugs t ht) hslug hhyphen hfeed
  refine ⟨.ofFields (backFields (Validation.agentTexts p preloaded)), ?_, ?_⟩
  · apply parse_render_texts (Validation.kept_header p preloaded) (List.cons_ne_nil _ _) hnames
  · by_cases hnil : preloaded.map (·.slug) = []
    · refine Or.inl ⟨hnil, hfields.field?_eq_none ?_⟩
      rw [List.mem_map]
      rintro ⟨⟨-, v⟩, hmem, rfl⟩
      obtain ⟨t, ht, -⟩ := mem_backFields.mp hmem
      obtain ⟨hjoin, hne⟩ := Validation.skills_of_mem_agentTexts ht
      rw [hnil] at hjoin
      apply hne hjoin
    · have hnamesIn : namesIn (Text.join ", " (preloaded.map (·.slug)))
          = preloaded.map (·.slug) := by
        apply namesIn_join hnil
        intro slug hslug
        exact ⟨hclear (by decide) (by decide) (by decide) slug hslug,
          hclear (by decide) (by decide) (by decide) slug hslug⟩
      have hne : Text.join ", " (preloaded.map (·.slug)) ≠ "" := by
        intro hempty
        rw [hempty] at hnamesIn
        have hmem : "" ∈ preloaded.map (·.slug) := by
          rw [← hnamesIn]
          decide
        obtain ⟨t, ht, hslug⟩ := List.mem_map.mp hmem
        apply Validation.ne_empty_of_isKebabName (hslugs t ht) hslug
      have hline : Yaml.nextLine ∉ (Text.join ", " (preloaded.map (·.slug))).toList := by
        intro hmem
        rcases mem_join hmem with heq | heq | ⟨slug, hslug, hmem⟩
        · exact absurd heq (by decide)
        · exact absurd heq (by decide)
        · exact hclear (by decide) (by decide) (by decide) slug hslug hmem
      refine Or.inr ⟨hnil, _, hfields.field?_eq_some_iff.mpr (mem_backFields.mpr ?_), hnamesIn⟩
      refine ⟨_, Validation.skills_mem_agentTexts hne, ?_⟩
      rw [Yaml.readBack_eq_self false hline]

/-! ### Bundles -/

/-- Each profile is compiled to an agent. -/
theorem mapM_agent_of_agents {c : Catalog} {s : ValidatedSelection} {templates : Table String}
    {routing : Routing} {seen : List String} {profiles : List AgentProfile}
    {as : List AgentCompilation} (h : agents c s templates routing seen profiles = .ok as) :
  profiles.mapM (fun p => agent c s p templates routing) = .ok as
  := by
  induction profiles generalizing seen as with
  | nil =>
      cases h
      rfl
  | cons p ps ih =>
      rw [agents] at h
      split at h
      · cases h
      · obtain ⟨a, ha, h⟩ := bind_eq_ok_iff.mp h
        obtain ⟨as', has, h⟩ := bind_eq_ok_iff.mp h
        cases h
        rw [List.mapM_cons, ha, ok_bind, ih has]
        rfl

/-- The documents of a skill are its text, and the files beside it in the order of their names as
they are. -/
theorem skillDocuments_eq {t : Skill} (ht : Layable t) :
  ∃ files : Table String, files.Perm t.resources ∧ files.Pairwise (fun f g => f.1 < g.1) ∧
    skillDocuments t =
      ⟨skillPath t.slug skillFile,
        Header.render [(.str "name", .str t.slug), (.str "description", .str t.description)]
          t.content, [t.id]⟩ ::
      files.map fun f => ⟨skillPath t.slug f.1, f.2, [t.id]⟩
  := by
  refine ⟨t.resources.mergeSort fun f g => Text.le f.1 g.1, List.mergeSort_perm _ _, ?_, rfl⟩
  apply Text.pairwise_lt_mergeSort Prod.fst ht.names_nodup

/-- The documents of a bundle in order: one for each profile, those of skills, and the hooks, if
there are any. The skills are the selected ones and then those that the agents add, each once at its
first place; they are the selected and the preloaded ones, and no others. The skills that an agent
names have their texts in the bundle. -/
structure Closed (c : Catalog) (s : ValidatedSelection) (profiles : List AgentProfile)
    (templates : Table String) (routing : Routing) (b : CompiledBundle) (as : List AgentCompilation)
    (ss : List Skill) (hs : List Document) : Prop where
  documents_eq : b.documents = as.map (·.document) ++ ss.flatMap skillDocuments ++ hs
  agents : List.Forall₂ (fun p a => agent c s p templates routing = .ok a ∧
    a.document.path = agentPath p.name) profiles as
  ids_eq : ss.map (·.id)
    = (s.selection.ids ++ as.flatMap fun a => a.document.contributors).eraseDups
  skills : ∀ t ∈ ss, c.skill? t.id = some t ∧
    ∃ files : Table String, files.Perm t.resources ∧ files.Pairwise (fun f g => f.1 < g.1) ∧
      skillDocuments t =
        ⟨skillPath t.slug skillFile,
          Header.render [(.str "name", .str t.slug), (.str "description", .str t.description)]
            t.content, [t.id]⟩ ::
        files.map fun f => ⟨skillPath t.slug f.1, f.2, [t.id]⟩
  hooks : hs = [] ∨ ∃ d, hs = [d] ∧ d.path = hooksPath
  shipped : ∀ id, id ∈ ss.map (·.id) ↔
    id ∈ s.selection.ids ∨ ∃ p ∈ profiles, ∃ name ∈ p.settings.preloadedSkills, c.resolve name = id
  references : List.Forall₂ (fun p a => ∃ preloaded indexed,
    MadeFrom c p templates a.document preloaded indexed ∧ ∀ t ∈ preloaded ++ indexed,
    skillPath t.slug skillFile ∈ b.paths) profiles as
  headers : ∀ a ∈ as, ∃ v, Header.parse a.document.content = .ok (some v) ∧
    ∀ text, v.field? "skills" = some (.str text) →
      ∀ slug ∈ namesIn text, skillPath slug skillFile ∈ b.paths

/-- The skill of an identifier that resolves to itself has this identifier. -/
theorem id_of_skill? {c : Catalog} {id : String} {t : Skill} (ht : c.skill? id = some t)
    (hid : c.resolve id = id) :
  t.id = id
  := by
  rw [Catalog.skill?, hid] at ht
  exact (Catalog.mem_of_find?_eq_some ht).2

/-- The skills of identifiers that resolve to themselves have these identifiers. -/
theorem map_id_of_mapM_skillOf {c : Catalog} {ids : List String} {ss : List Skill}
    (h : ids.mapM (skillOf c) = .ok ss) (hids : ∀ id ∈ ids, c.resolve id = id) :
  ss.map (·.id) = ids
  := by
  have hkeys : ∀ id ∈ ids, ∀ t, skillOf c id = .ok t → t.id = id := by
    intro id hid t ht
    apply id_of_skill? (skillOf_eq_ok_iff.mp ht) (hids id hid)
  exact (map_eq_of_mapM_eq_ok h hkeys).trans (List.map_id' ids)

/-- What goes into an agent is a skill of its profile or a selected one. -/
theorem mem_contributors_iff {c : Catalog} {s : ValidatedSelection} {profiles : List AgentProfile}
    {templates : Table String} {routing : Routing} {as : List AgentCompilation}
    (h : profiles.mapM (fun p => agent c s p templates routing) = .ok as) {id : String} :
  id ∈ (s.selection.ids ++ as.flatMap fun a => a.document.contributors) ↔
    id ∈ s.selection.ids ∨ ∃ p ∈ profiles, ∃ name ∈ p.settings.preloadedSkills, c.resolve name = id
  := by
  rw [List.mem_append, List.mem_flatMap]
  constructor
  · rintro (hid | ⟨a, ha, hid⟩)
    · exact Or.inl hid
    · obtain ⟨p, hp, hagent⟩ := (mem_of_mapM_eq_ok h).mp ha
      obtain ⟨-, -, hsubset⟩ := exists_madeFrom hagent
      rcases List.mem_append.mp (hsubset hid) with hid | hid
      · exact Or.inr ⟨p, hp, List.mem_map.mp hid⟩
      · exact Or.inl hid
  · rintro (hid | ⟨p, hp, hid⟩)
    · exact Or.inl hid
    · obtain ⟨a, hagent⟩ := exists_mapM_eq_ok_iff.mp ⟨as, h⟩ p hp
      obtain ⟨-, hsubset, -⟩ := exists_madeFrom hagent
      exact Or.inr ⟨a, (mem_of_mapM_eq_ok h).mpr ⟨p, hp, hagent⟩, hsubset (List.mem_map.mpr hid)⟩

/-- The skills that an agent is compiled from are compiled too. -/
theorem MadeFrom.mem_skills {c : Catalog} {ids : List String} {as : List AgentCompilation}
    {ss : List Skill}
    (hss : (Text.distinct (ids ++ as.flatMap fun a => a.document.contributors)).mapM (skillOf c)
      = .ok ss) {p : AgentProfile} {templates : Table String} {a : AgentCompilation}
    {preloaded indexed : List Skill} (ha : a ∈ as)
    (h : MadeFrom c p templates a.document preloaded indexed) {t : Skill}
    (ht : t ∈ preloaded ++ indexed) :
  t ∈ ss
  := by
  obtain ⟨id, hid, hfound⟩ := h.contributes t ht
  apply (mem_of_mapM_eq_ok hss).mpr
  refine ⟨id, ?_, skillOf_eq_ok_iff.mpr hfound⟩
  apply Text.mem_distinct.mpr (List.mem_append_right _ (List.mem_flatMap.mpr ⟨a, ha, hid⟩))

theorem Parts.textPath_mem_paths {profiles : List AgentProfile} {hooks : Value} {b : CompiledBundle}
    {as : List Document} {ss : List Skill} {hs : List Document}
    (h : Parts profiles hooks b as ss hs) {t : Skill} (ht : t ∈ ss) :
  skillPath t.slug skillFile ∈ b.paths
  := by
  rw [CompiledBundle.paths, h.documents_eq, List.map_append, List.map_append, List.map_flatMap]
  apply List.mem_append_left _
    (List.mem_append_right _ (List.mem_flatMap.mpr ⟨t, ht, List.mem_cons_self⟩))

/-- The skills that an agent is compiled from, which are those that its index lists and those that
it preloads, have their texts in the bundle. -/
theorem Parts.references {c : Catalog} {s : ValidatedSelection} {profiles : List AgentProfile}
    {templates : Table String} {routing : Routing} {hooks : Value} {b : CompiledBundle}
    {as : List AgentCompilation} {ss : List Skill} {hs : List Document}
    (h : Parts profiles hooks b (as.map (·.document)) ss hs)
    (has : profiles.mapM (fun p => agent c s p templates routing) = .ok as)
    (hss : (Text.distinct (s.selection.ids ++ as.flatMap fun a => a.document.contributors)).mapM
      (skillOf c) = .ok ss) :
  List.Forall₂ (fun p a => ∃ preloaded indexed,
    MadeFrom c p templates a.document preloaded indexed ∧ ∀ t ∈ preloaded ++ indexed,
    skillPath t.slug skillFile ∈ b.paths) profiles as
  := by
  obtain ⟨hlength, hagent⟩ := List.forall₂_iff_zip.mp (mapM_eq_ok_iff.mp has)
  rw [List.forall₂_iff_zip]
  refine ⟨hlength, ?_⟩
  intro p a hmem
  obtain ⟨⟨preloaded, indexed, hmade⟩, -⟩ := exists_madeFrom (hagent hmem)
  refine ⟨preloaded, indexed, hmade, ?_⟩
  intro t ht
  apply h.textPath_mem_paths (hmade.mem_skills hss (List.of_mem_zip hmem).2 ht)

/-- The skills that the header of an agent lists have their texts in the bundle. -/
theorem Parts.headers {c : Catalog} {s : ValidatedSelection} {profiles : List AgentProfile}
    {templates : Table String} {routing : Routing} {hooks : Value} {b : CompiledBundle}
    {as : List AgentCompilation} {ss : List Skill} {hs : List Document}
    (h : Parts profiles hooks b (as.map (·.document)) ss hs)
    (has : profiles.mapM (fun p => agent c s p templates routing) = .ok as)
    (hss : (Text.distinct (s.selection.ids ++ as.flatMap fun a => a.document.contributors)).mapM
      (skillOf c) = .ok ss) (hslugs : ∀ t ∈ ss, Slug.isKebabName t.slug = true) :
  ∀ a ∈ as, ∃ v, Header.parse a.document.content = .ok (some v) ∧
    ∀ text, v.field? "skills" = some (.str text) →
      ∀ slug ∈ namesIn text, skillPath slug skillFile ∈ b.paths
  := by
  intro a ha
  obtain ⟨p, -, hagent⟩ := (mem_of_mapM_eq_ok has).mp ha
  obtain ⟨⟨preloaded, indexed, hmade⟩, -⟩ := exists_madeFrom hagent
  have hthere : ∀ t ∈ preloaded, t ∈ ss :=
    fun t ht => hmade.mem_skills hss ha (List.mem_append_left _ ht)
  obtain ⟨v, hv, hlists⟩ := header_lists p (fun t ht => hslugs t (hthere t ht))
    (joinSections (sections p templates (skillTexts preloaded) (skillIndex indexed)))
  refine ⟨v, by rw [hmade.content_eq, hv], ?_⟩
  intro text htext slug hslug
  rw [hlists.namesIn_eq htext] at hslug
  obtain ⟨t, ht, rfl⟩ := List.mem_map.mp hslug
  apply h.textPath_mem_paths (hthere t ht)

/-- A bundle that is compiled from identifiers that resolve to themselves is closed: its documents
have different paths, so it is assembled with a readme and a manifest without loss; they stand in
order, the skills are those that are selected or preloaded, and those that an agent names in its
header or its index are there. -/
theorem bundle_closed {m : Record.Matrix} {records : List Record.Skill} {c : Catalog}
    (hc : Catalog.build m records = .ok c) (hrecords : ∀ r ∈ records, r.Loaded)
    {s : ValidatedSelection} {profiles : List AgentProfile} {templates : Table String}
    {name : String} {routing : Routing} {hooks : Value} {b : CompiledBundle}
    (hb : bundle c s profiles templates name routing hooks = .ok b)
    (hselected : ∀ id ∈ s.selection.ids, c.resolve id = id)
    (hpreloaded : ∀ p ∈ profiles, ∀ name ∈ p.settings.preloadedSkills,
      c.resolve (c.resolve name) = c.resolve name) :
  b.paths.Nodup ∧
    (∀ (d : BundleMetadata) (manifest : Manifest) (location : Option Location),
      Bundle.assemble b.documents (some (Readme.document d b.paths)) manifest location
        = .ok ⟨b.documents.map (fun x => (x.path, x.content)) ++
            [(Readme.path, (Readme.document d b.paths).content), (Manifest.path, manifest.write)],
            location⟩) ∧
    ∃ as ss hs, Closed c s profiles templates routing b as ss hs
  := by
  obtain ⟨as, ss, hs, has, hss, hhs, hdocuments⟩ := bundle_parts hb
  obtain ⟨hparts, hmem⟩ := parts_of_compiled has hss hhs hdocuments
  have hbuilt := Catalog.built_of_build hc
  have hlayable : ∀ t ∈ ss, Layable t := fun t ht => (hbuilt.layable hrecords (hmem t ht)).1
  have hagents := mapM_agent_of_agents has
  have hskills := mapM_skillOf_of_skills hss
  have hcanonical :
      ∀ id ∈ Text.distinct (s.selection.ids ++ as.flatMap fun a => a.document.contributors),
      c.resolve id = id := by
    intro id hid
    rcases (mem_contributors_iff hagents).mp (Text.mem_distinct.mp hid)
      with hid | ⟨p, hp, name, hname, rfl⟩
    · apply hselected id hid
    · apply hpreloaded p hp name hname
  have hids := map_id_of_mapM_skillOf hskills hcanonical
  refine ⟨hparts.nodup_paths hlayable,
    fun d manifest location => hparts.assemble_with hlayable rfl manifest location, as, ss, hs, ?_⟩
  constructor
  · apply hdocuments
  · apply (mapM_eq_ok_iff.mp hagents).imp
    intro p a ha
    exact ⟨ha, (agentDocument_of_agent ha).1⟩
  · rw [hids, Text.distinct_eq_eraseDups]
  · intro t ht
    obtain ⟨id, hid, hfound⟩ := (mem_of_mapM_eq_ok hskills).mp ht
    rw [skillOf_eq_ok_iff] at hfound
    refine ⟨?_, skillDocuments_eq (hlayable t ht)⟩
    rw [id_of_skill? hfound (hcanonical id hid)]
    apply hfound
  · cases hs with
    | nil => exact Or.inl rfl
    | cons d hs =>
        obtain ⟨heq, hpath, -⟩ := mem_hooksDocument hhs List.mem_cons_self
        exact Or.inr ⟨d, heq, hpath⟩
  · intro id
    rw [hids, Text.mem_distinct]
    apply mem_contributors_iff hagents
  · apply hparts.references hagents hskills
  · apply hparts.headers hagents hskills fun t ht => (hbuilt.layable hrecords (hmem t ht)).2

/-- One framework is selected and the other one preloaded by an agent: both are in the bundle, which
is closed. -/
theorem bundle_closed_frameworks :
  ∃ b, bundle Catalog.frameworks ⟨.ofList ["react"], []⟩ [webDeveloper] [("agent", "---")] "web"
    [] toolHooks = .ok b ∧ b.paths.Nodup ∧
    ∃ as ss hs, Closed Catalog.frameworks ⟨.ofList ["react"], []⟩ [webDeveloper] [("agent", "---")]
      [] b as ss hs
  := by
  obtain ⟨b, hb⟩ : ∃ b, bundle Catalog.frameworks ⟨.ofList ["react"], []⟩ [webDeveloper]
      [("agent", "---")] "web" [] toolHooks = .ok b := ⟨_, rfl⟩
  have hrecords : ∀ r ∈ [Catalog.frameworkRecord "react", Catalog.frameworkRecord "vue"],
      r.Loaded := by
    simp only [List.forall_mem_cons, List.not_mem_nil, false_imp_iff, implies_true, and_true]
    exact ⟨⟨List.nodup_nil, List.not_mem_nil⟩, ⟨List.nodup_nil, List.not_mem_nil⟩⟩
  have hselected : ∀ id ∈ (Selection.ofList ["react"]).ids, Catalog.frameworks.resolve id
      = id := by decide
  have hpreloaded : ∀ p ∈ [webDeveloper], ∀ name ∈ p.settings.preloadedSkills,
      Catalog.frameworks.resolve (Catalog.frameworks.resolve name)
        = Catalog.frameworks.resolve name := by
    decide
  obtain ⟨hnodup, -, hclosed⟩ :=
    bundle_closed Catalog.build_frameworks hrecords hb hselected hpreloaded
  exact ⟨b, hb, hnodup, hclosed⟩

end Compile

end AgentBundles
