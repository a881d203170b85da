import AgentBundles.Proofs.Catalog.Lineage
import AgentBundles.Proofs.Compile.Sections
import AgentBundles.Proofs.Files.Paths

/-!
# The skills of an agent

An agent holds the skills that it preloads, and lists in its index those of the selected ones that
concern it: each skill has one of the two places.
-/

namespace AgentBundles

namespace Text

variable {α : Type} [BEq α] [LawfulBEq α]

theorem distinct_sublist (xs : List α) :
  (distinct xs).Sublist xs
  := by
  induction xs using List.reverseRecOn with
  | nil => apply List.Sublist.refl
  | append_singleton xs x ih =>
      by_cases hx : x ∈ xs
      · rw [distinct_concat_of_mem hx]
        apply ih.trans (List.sublist_append_left _ _)
      · rw [distinct_concat_of_not_mem hx]
        apply ih.append (List.Sublist.refl _)

/-- After items without repetitions come those that are not among them. -/
theorem distinct_append_of_nodup {xs : List α} (h : xs.Nodup) (ys : List α) :
  distinct (xs ++ ys) = xs ++ distinct (ys.filter fun y => !xs.contains y)
  := by
  rw [distinct_eq_eraseDups, List.eraseDups_append, ← distinct_eq_eraseDups,
    ← distinct_eq_eraseDups, distinct_of_nodup h]
  rfl

end Text

namespace Compile

/-! ### Skills that concern an agent -/

section

variable {c : Catalog} {routing : Routing} {name : String} {ids relevant : List String}

/-- A skill concerns an agent if the routing has no entry for the agent, or an entry with the
category of the skill or one that parents lead to from there. -/
def Concerns (c : Catalog) (routing : Routing) (name : String) (t : Skill) : Prop :=
  ∀ categories, routing.get? name = some categories → ∃ k ∈ categories, c.LeadsUp t.category k

theorem covers_iff {categories : List String} {category : String} :
  Routing.covers c categories category = true ↔ ∃ k ∈ categories, c.LeadsUp category k
  := by
  simp only [Routing.covers, List.any_eq_true, List.contains_iff_mem, Catalog.mem_lineage_iff]
  apply exists_congr
  intro k
  apply and_comm

/-- With an entry for the agent, the identifiers of skills in covered categories are kept. -/
theorem relevant_eq_filter {categories : List String} (hentry : routing.get? name = some categories)
    (h : routing.relevant c name ids = .ok relevant) :
  relevant = ids.filter fun id => (c.skill? id).any fun t => Routing.covers c categories t.category
  := by
  rw [Routing.relevant, hentry] at h
  obtain ⟨kept, hkept, h⟩ := bind_eq_ok_iff.mp h
  cases h
  have hall := mapM_eq_ok_iff.mp hkept
  clear hkept h
  induction hall with
  | nil => rfl
  | @cons id part ids kept hpart _ ih =>
      rw [List.flatten_cons, ih, List.filter_cons]
      cases ht : c.skill? id with
      | none =>
          rw [ht] at hpart
          cases hpart
      | some t =>
          rw [ht] at hpart
          cases hpart
          rw [Option.any_some]
          split
          · rfl
          · rfl

theorem relevant_sublist (h : routing.relevant c name ids = .ok relevant) :
  relevant.Sublist ids
  := by
  cases hentry : routing.get? name with
  | none =>
      rw [Routing.relevant, hentry] at h
      cases h
      apply List.Sublist.refl
  | some categories =>
      rw [relevant_eq_filter hentry h]
      apply List.filter_sublist

/-- The identifiers of skills that concern the agent are kept. -/
theorem mem_relevant_iff (h : routing.relevant c name ids = .ok relevant) {id : String} {t : Skill}
    (ht : c.skill? id = some t) :
  id ∈ relevant ↔ id ∈ ids ∧ Concerns c routing name t
  := by
  cases hentry : routing.get? name with
  | none =>
      have hconcerns : Concerns c routing name t := by
        intro categories hcategories
        cases hentry.symm.trans hcategories
      rw [Routing.relevant, hentry] at h
      cases h
      exact (and_iff_left hconcerns).symm
  | some categories =>
      have hconcerns : Concerns c routing name t
          ↔ Routing.covers c categories t.category = true := by
        rw [covers_iff, Concerns, hentry]
        simp
      rw [relevant_eq_filter hentry h, List.mem_filter, ht, Option.any_some, hconcerns]

end

/-! ### The index -/

/-- The item of a skill in an index: its slug, and what there is to say of its use, or else its
description. -/
def IsItemOf (item : String) (t : Skill) : Prop :=
  item = Text.trimEnd ("- `" ++ t.slug ++ "`: " ++ orElse t.usageGuidance t.description)

/-- An index of skills has a heading and one item for each, in order, and is empty without skills.
Items without line breaks are lines of it. -/
def Indexes (index : String) (ts : List Skill) : Prop :=
  (ts = [] ∧ index = "") ∨
    ts ≠ [] ∧ ∃ items, List.Forall₂ IsItemOf items ts ∧
      index = Text.join "\n" ("## Available Skills" :: "" :: items) ∧
      ((∀ item ∈ items, '\n' ∉ item.toList) →
        Text.split '\n' index = "## Available Skills" :: "" :: items)

theorem indexes_skillIndex (ts : List Skill) :
  Indexes (skillIndex ts) ts
  := by
  cases ts with
  | nil => exact Or.inl ⟨rfl, rfl⟩
  | cons t ts =>
      refine Or.inr ⟨List.cons_ne_nil _ _, (t :: ts).map indexLine, ?_, rfl, ?_⟩
      · rw [List.forall₂_map_left_iff, List.forall₂_same]
        intro t' _
        rfl
      · intro hitems
        apply Text.split_join (List.cons_ne_nil _ _)
        rw [List.forall_mem_cons, List.forall_mem_cons]
        exact ⟨by decide, by decide, hitems⟩

/-! ### The two parts -/

variable {c : Catalog} {s : ValidatedSelection} {p : AgentProfile} {templates : Table String}
    {routing : Routing}
  {a : AgentCompilation} {ids relevant : List String} {preloaded indexed : List Skill}

/-- The skills that go into an agent are those of its profile and then the selected ones that
concern it and are not among them. -/
structure Divided (c : Catalog) (s : ValidatedSelection) (p : AgentProfile) (routing : Routing)
    (a : AgentCompilation) (preloaded indexed : List Skill) : Prop where
  nodup : a.document.contributors.Nodup
  contributors_eq : a.document.contributors = preloaded.map (·.id) ++ indexed.map (·.id)
  found : ∀ t ∈ preloaded ++ indexed, c.find? t.id = some t
  preloaded_eq : preloaded.map (·.id) = (p.settings.preloadedSkills.map c.resolve).eraseDups
  indexed_sublist : (indexed.map (·.id)).Sublist s.selection.ids
  mem_indexed_iff : ∀ id, id ∈ indexed.map (·.id) ↔
    id ∈ s.selection.ids ∧ id ∉ p.settings.preloadedSkills.map c.resolve ∧
      ∃ t, c.find? id = some t ∧ Concerns c routing p.name t

theorem skill?_of_resolve_eq {id : String} (h : c.resolve id = id) :
  c.skill? id = c.find? id
  := by
  rw [Catalog.skill?, h]

/-- The skills of identifiers that resolve to themselves are found under their own. -/
theorem find?_of_mapM_skillOf {ts : List Skill} (h : ids.mapM (skillOf c) = .ok ts)
    (hids : ∀ id ∈ ids, c.resolve id = id) :
  ∀ t ∈ ts, c.find? t.id = some t
  := by
  intro t ht
  obtain ⟨id, hid, hfound⟩ := (mem_of_mapM_eq_ok h).mp ht
  rw [skillOf_eq_ok_iff] at hfound
  rw [id_of_skill? hfound (hids id hid), ← skill?_of_resolve_eq (hids id hid)]
  apply hfound

namespace AgentParts

variable (h : AgentParts c s p templates routing a ids relevant preloaded indexed)

include h

theorem ids_eq :
  ids = (p.settings.preloadedSkills.map c.resolve).eraseDups
  := by
  rw [of_preloadedIds_eq_ok h.preloadedIds_eq, Text.distinct_eq_eraseDups]

theorem nodup_ids :
  ids.Nodup
  := by
  rw [of_preloadedIds_eq_ok h.preloadedIds_eq]
  apply Text.nodup_distinct

/-- The identifiers after those that are preloaded are those of the skills in the index. -/
theorem contributors_split :
  a.document.contributors = ids ++ Text.distinct (relevant.filter fun id => !ids.contains id)
  := by
  rw [h.contributors_eq, Text.distinct_append_of_nodup h.nodup_ids]

theorem indexed_mapM :
  (Text.distinct (relevant.filter fun id => !ids.contains id)).mapM (skillOf c) = .ok indexed
  := by
  have hindexed := h.indexed_eq
  have hnone : ids.filter (fun id => !ids.contains id) = [] := by
    rw [List.filter_eq_nil_iff]
    intro id hid
    simpa using hid
  have hall : (Text.distinct (relevant.filter fun id => !ids.contains id)).filter
      (fun id => !ids.contains id)
      = Text.distinct (relevant.filter fun id => !ids.contains id) := by
    rw [List.filter_eq_self]
    intro id hid
    exact (List.mem_filter.mp (Text.mem_distinct.mp hid)).2
  rw [Text.distinct_append_of_nodup h.nodup_ids, List.filter_append, hnone, hall,
    List.nil_append] at hindexed
  apply hindexed

/-- What the profile names is what is preloaded. -/
theorem mem_ids_iff {id : String} :
  id ∈ ids ↔ id ∈ p.settings.preloadedSkills.map c.resolve
  := by
  rw [of_preloadedIds_eq_ok h.preloadedIds_eq, Text.mem_distinct]

/-- With identifiers that resolve to themselves, the skills of an agent are divided into those that
it preloads and those that its index lists. -/
theorem divided (hselected : ∀ id ∈ s.selection.ids, c.resolve id = id)
    (hpreloaded : ∀ name ∈ p.settings.preloadedSkills,
      c.resolve (c.resolve name) = c.resolve name) :
  Divided c s p routing a preloaded indexed
  := by
  have hsublist : (Text.distinct (relevant.filter fun id => !ids.contains id)).Sublist
      s.selection.ids :=
    ((Text.distinct_sublist _).trans List.filter_sublist).trans (relevant_sublist h.relevant_eq)
  have hids : ∀ id ∈ ids, c.resolve id = id := by
    intro id hid
    obtain ⟨name, hname, rfl⟩ := List.mem_map.mp (h.mem_ids_iff.mp hid)
    apply hpreloaded name hname
  have hothers : ∀ id ∈ Text.distinct (relevant.filter fun id => !ids.contains id),
      c.resolve id = id :=
    fun id hid => hselected id (hsublist.subset hid)
  have hpreloadedIds := map_id_of_mapM_skillOf h.preloaded_eq hids
  have hindexedIds := map_id_of_mapM_skillOf h.indexed_mapM hothers
  constructor
  · rw [h.contributors_eq]
    apply Text.nodup_distinct
  · rw [h.contributors_split, hpreloadedIds, hindexedIds]
  · intro t ht
    rcases List.mem_append.mp ht with ht | ht
    · apply find?_of_mapM_skillOf h.preloaded_eq hids t ht
    · apply find?_of_mapM_skillOf h.indexed_mapM hothers t ht
  · rw [hpreloadedIds, h.ids_eq]
  · rw [hindexedIds]
    apply hsublist
  · intro id
    rw [hindexedIds, ← h.mem_ids_iff]
    constructor
    · intro hid
      obtain ⟨t, ht⟩ := exists_mapM_eq_ok_iff.mp ⟨_, h.indexed_mapM⟩ id hid
      obtain ⟨hrelevant, hnew⟩ := List.mem_filter.mp (Text.mem_distinct.mp hid)
      obtain ⟨hmem, hconcerns⟩ :=
        (mem_relevant_iff h.relevant_eq (skillOf_eq_ok_iff.mp ht)).mp hrelevant
      refine ⟨hmem, by simpa using hnew, t, ?_, hconcerns⟩
      rw [← skill?_of_resolve_eq (hselected id hmem)]
      apply skillOf_eq_ok_iff.mp ht
    · rintro ⟨hmem, hnew, t, ht, hconcerns⟩
      rw [← skill?_of_resolve_eq (hselected id hmem)] at ht
      rw [Text.mem_distinct, List.mem_filter, mem_relevant_iff h.relevant_eq ht]
      exact ⟨⟨hmem, hconcerns⟩, by simpa using hnew⟩

end AgentParts

/-- The skills that go into an agent are those that its profile names, in this order, and then the
selected ones that concern it and are not among them, in theirs. Its header lists the slugs of the
former, whose texts it shows, and it shows an index with an item for each of the latter. -/
theorem agent_divides (h : agent c s p templates routing = .ok a)
    (hselected : ∀ id ∈ s.selection.ids, c.resolve id = id)
    (hpreloaded : ∀ name ∈ p.settings.preloadedSkills,
      c.resolve (c.resolve name) = c.resolve name) :
  ∃ preloaded indexed index body, Divided c s p routing a preloaded indexed ∧
    Indexes index indexed ∧
    body = joinSections (sections p templates (skillTexts preloaded) index) ∧
    a.document.content = Header.render (header p preloaded) body ∧
    (∀ t ∈ preloaded, Shows body (Text.trim t.content)) ∧ Shows body index ∧
    ((∃ m records, Catalog.build m records = .ok c) →
      ∃ v, Header.parse a.document.content = .ok (some v) ∧ HeaderLists v (preloaded.map (·.slug)))
  := by
  obtain ⟨ids, relevant, preloaded, indexed, hparts⟩ := agent_eq_ok_iff.mp h
  have hdivided := hparts.divided hselected hpreloaded
  refine ⟨preloaded, indexed, skillIndex indexed, _, hdivided, indexes_skillIndex indexed, rfl,
    hparts.content_eq, ?_, shows_index, ?_⟩
  · intro t ht
    apply shows_skill ht
  · rintro ⟨m, records, hc⟩
    rw [hparts.content_eq]
    apply header_lists
    intro t ht
    have hbuilt := Catalog.built_of_build hc
    have hmem := (Catalog.mem_of_find?_eq_some (hdivided.found t (List.mem_append_left _ ht))).1
    rw [hbuilt.skills_eq] at hmem
    obtain ⟨r, hr, rfl⟩ := List.mem_map.mp hmem
    apply hbuilt.slug_isKebabName r hr

/-- A category without anything to say of it. -/
def plainCategory (id : String) (parent : Option String) : Record.Category where
  id := id
  name := id
  description := ""
  parent := parent
  exclusive := false
  required := false
  order := 0
  icon := none

/-- A matrix in which frameworks are below the category of the web, and one has a short name. -/
def webMatrix : Record.Matrix :=
  { Catalog.frameworkMatrix with
    categories :=
      [("framework", plainCategory "framework" (some "web")), ("web", plainCategory "web" none)]
    aliases := [("r", "react"), ("v", "vue")] }

/-- A skill that is no framework. -/
def pytestRecord : Record.Skill :=
  { Catalog.frameworkRecord "pytest" with
    metadata := { (Catalog.frameworkRecord "pytest").metadata with category := "testing" } }

/-- A developer that names one framework twice. -/
def vueDeveloper : AgentProfile where
  name := "vue-developer"
  settings := { webDeveloper.settings with preloadedSkills := ["v", "vue"] }

/-- One framework is preloaded and selected, another one selected, and so is a skill that does not
concern the agent. -/
theorem agent_divides_vueDeveloper :
  ∃ c a preloaded indexed,
    Catalog.build webMatrix [Catalog.frameworkRecord "react", Catalog.frameworkRecord "vue",
      pytestRecord] = .ok c ∧
    agent c ⟨.ofList ["pytest", "vue", "react"], []⟩ vueDeveloper [("agent", "Top")]
      [("vue-developer", ["web"])] = .ok a ∧
    Divided c ⟨.ofList ["pytest", "vue", "react"], []⟩ vueDeveloper [("vue-developer", ["web"])] a
      preloaded indexed ∧
    a.document.contributors = ["vue", "react"] ∧
    ∃ v, Header.parse a.document.content = .ok (some v) ∧ HeaderLists v (preloaded.map (·.slug))
  := by
  obtain ⟨c, hc⟩ : ∃ c, Catalog.build webMatrix
      [Catalog.frameworkRecord "react", Catalog.frameworkRecord "vue", pytestRecord] = .ok c :=
        ⟨_, rfl⟩
  have hselected : ∀ id ∈ (Selection.ofList ["pytest", "vue", "react"]).ids, c.resolve id = id := by
    cases hc
    decide
  have hpreloaded : ∀ name ∈ vueDeveloper.settings.preloadedSkills, c.resolve (c.resolve name)
      = c.resolve name := by
    cases hc
    decide
  obtain ⟨a, ha⟩ : ∃ a, agent c ⟨.ofList ["pytest", "vue", "react"], []⟩ vueDeveloper
      [("agent", "Top")] [("vue-developer", ["web"])] = .ok a := by
    cases hc
    exact ⟨_, rfl⟩
  obtain ⟨preloaded, indexed, index, body, hdivided, -, -, -, -, -, hheader⟩ :=
    agent_divides ha hselected hpreloaded
  refine ⟨c, a, preloaded, indexed, hc, ha, hdivided, ?_, hheader ⟨_, _, hc⟩⟩
  cases hc
  cases ha
  rfl

/-- Words about a framework in two lines, of which the second looks like an item of an index. -/
def twoLinedRecord : Record.Skill :=
  { Catalog.frameworkRecord "react" with
    metadata :=
      { (Catalog.frameworkRecord "react").metadata with
        usageGuidance := some "For views.\n- `vue`: For forms." } }

/-- Words of two lines make two lines of an index: here one framework is preloaded and the other one
is in the index, which has lines for both. -/
theorem not_divides_by_lines :
  ∃ c a preloaded indexed index,
    Catalog.build Catalog.frameworkMatrix [twoLinedRecord, Catalog.frameworkRecord "vue"] = .ok c ∧
    agent c ⟨.ofList ["react"], []⟩ webDeveloper [("agent", "Top")] [] = .ok a ∧
    Divided c ⟨.ofList ["react"], []⟩ webDeveloper [] a preloaded indexed ∧
    a.document.content = Header.render (header webDeveloper preloaded)
      (joinSections (sections webDeveloper [("agent", "Top")] (skillTexts preloaded) index)) ∧
    indexed.map (·.slug) = ["react"] ∧
    Text.split '\n' index = ["## Available Skills", "", "- `react`: For views.",
      "- `vue`: For forms."]
  := by
  obtain ⟨c, hc⟩ : ∃ c, Catalog.build Catalog.frameworkMatrix [twoLinedRecord,
      Catalog.frameworkRecord "vue"] = .ok c :=
    ⟨_, rfl⟩
  have hselected : ∀ id ∈ (Selection.ofList ["react"]).ids, c.resolve id = id := by
    cases hc
    decide
  have hpreloaded : ∀ name ∈ webDeveloper.settings.preloadedSkills, c.resolve (c.resolve name)
      = c.resolve name := by
    cases hc
    decide
  obtain ⟨a, hparts⟩ : ∃ a, AgentParts c ⟨.ofList ["react"], []⟩ webDeveloper [("agent", "Top")]
      [] a ["vue"] ["react"] [.ofRecord (Catalog.frameworkRecord "vue")]
        [.ofRecord twoLinedRecord] := by
    cases hc
    exact ⟨⟨⟨_, _, _⟩, _⟩, rfl, rfl, rfl, rfl, rfl, rfl, rfl, rfl⟩
  refine ⟨c, a, _, _, _, hc, agent_eq_ok_iff.mpr ⟨_, _, _, _, hparts⟩,
    hparts.divided hselected hpreloaded, hparts.content_eq, rfl, ?_⟩
  decide +kernel

end Compile

end AgentBundles
