import AgentBundles.Proofs.Publish.Index

/-!
# Published indexes as documents

What is written for a published index fits the schema of catalog indexes, and is read back as it was
written.
-/

namespace AgentBundles

open Manifest
  (mem_stated mem_present mem_listed mem_authorField stated_sublist present_sublist listed_sublist
  authorField_sublist kept_author)

/-- Someone fits a schema that asks for a name if the name does. -/
theorem violations_author_of_name {a : Author} {s : Schema} (h : s.violations (.str a.name) = []) :
  (Schema.record ["name"] [("name", s), ("email", Schema.anyText)] .unmentioned).violations
    a.toValue = []
  := by
  apply (Manifest.fields_authorFields a).violations_record_eq_nil
  · intro name hname
    rw [List.mem_singleton.mp hname]
    exact ⟨_, List.mem_cons_self⟩
  · intro t ht v hv
    rw [Manifest.mem_authorFields] at hv
    simp only [List.mem_cons, List.not_mem_nil, or_false] at ht
    rcases ht with rfl | rfl
    · obtain rfl : v = .str a.name := by simpa using hv
      apply h
    · obtain ⟨e, -, rfl⟩ : ∃ e, a.email = some e ∧ v = .str e := by simpa using hv
      apply violations_anyText
  · intro h
    cases h

/-! ### Sources -/

namespace RemoteSource

/-- The fields that a remote source is written as. -/
def fields (r : RemoteSource) : List (String × Value) :=
  [("source", .str r.source.name)] ++ present "repo" r.repo ++ present "url" r.url ++
    present "ref" r.ref

variable {r : RemoteSource}

theorem mem_fields {name : String} {v : Value} :
  (name, v) ∈ r.fields ↔ (name = "source" ∧ v = .str r.source.name) ∨
    (name = "repo" ∧ ∃ t, r.repo = some t ∧ v = .str t) ∨
      (name = "url" ∧ ∃ t, r.url = some t ∧ v = .str t) ∨
      (name = "ref" ∧ ∃ t, r.ref = some t ∧ v = .str t)
  := by
  simp only [fields, List.mem_append, List.mem_cons, List.not_mem_nil, or_false, Prod.mk.injEq,
    mem_present, or_assoc]

theorem nodup_fields (r : RemoteSource) :
  (r.fields.map (·.1)).Nodup
  := by
  have hsublist := (((List.Sublist.refl ["source"]).append (present_sublist "repo" r.repo)).append
    (present_sublist "url" r.url)).append (present_sublist "ref" r.ref)
  simp only [fields, List.map_append]
  apply hsublist.nodup
  decide

theorem kept_of_mem_fields {name : String} {v : Value} (hmem : (name, v) ∈ r.fields) :
  Json.Kept v
  := by
  rcases mem_fields.mp hmem with ⟨-, rfl⟩ | ⟨-, t, -, rfl⟩ | ⟨-, t, -, rfl⟩ | ⟨-, t, -, rfl⟩
  all_goals apply Json.kept_str

/-- A remote source fits the schema of these. -/
theorem violations_toValue (r : RemoteSource) :
  Schema.remoteSource.violations r.toValue = []
  := by
  have hfields : Fields r.fields :=
    Json.fields_of_kept (nodup_fields r) fun _ hf => kept_of_mem_fields hf
  have hhost : (Schema.text [.oneOf ["github", "url"]]).violations (.str r.source.name) = [] := by
    cases r.source with
    | github => decide
    | url => decide
  apply hfields.violations_record_eq_nil
  · intro name hname
    rw [List.mem_singleton.mp hname]
    exact ⟨_, mem_fields.mpr (Or.inl ⟨rfl, rfl⟩)⟩
  · intro s hs v hv
    rw [mem_fields] at hv
    simp only [List.mem_cons, List.not_mem_nil, or_false] at hs
    rcases hs with rfl | rfl | rfl | rfl
    · obtain rfl : v = .str r.source.name := by simpa using hv
      apply hhost
    · obtain ⟨t, -, rfl⟩ : ∃ t, r.repo = some t ∧ v = .str t := by simpa using hv
      apply violations_anyText
    · obtain ⟨t, -, rfl⟩ : ∃ t, r.url = some t ∧ v = .str t := by simpa using hv
      apply violations_anyText
    · obtain ⟨t, -, rfl⟩ : ∃ t, r.ref = some t ∧ v = .str t := by simpa using hv
      apply violations_anyText
  · intro h
    cases h

end RemoteSource

namespace Location

theorem kept_toValue (l : Location) :
  Json.Kept l.toValue
  := by
  cases l with
  | path p => apply Json.kept_str
  | remote r =>
      exact Json.kept_ofFields r.nodup_fields fun _ hf => RemoteSource.kept_of_mem_fields hf

/-- A location is a text or a remote source, not both. -/
theorem violations_toValue {l : Location} (h : l ≠ .path "") :
  (Schema.exactlyOneOf [Schema.someText, .definition "remoteSource" Schema.remoteSource]).violations
    l.toValue = []
  := by
  rw [Schema.violations_exactlyOneOf_pair_eq_nil_iff]
  cases l with
  | path p =>
      left
      refine ⟨violations_someText ?_, ?_⟩
      · rintro rfl
        exact h rfl
      · intro hremote
        cases hremote
  | remote r =>
      right
      refine ⟨r.violations_toValue, ?_⟩
      intro htext
      cases htext

end Location

/-! ### Entries -/

namespace IndexEntry

/-- Entries as they have to be for the index to be valid. -/
structure Valid (e : IndexEntry) : Prop where
  name_ne : e.name ≠ ""
  source_ne : e.source ≠ .path ""

/-- The fields that an entry is written as. -/
def fields (e : IndexEntry) : List (String × Value) :=
  [("name", .str e.name), ("source", e.source.toValue)] ++ stated "description" e.description ++
    stated "version" e.version ++ Manifest.authorField e.author ++ listed "keywords" e.keywords ++
    stated "category" e.category

variable {e : IndexEntry}

theorem mem_fields {name : String} {v : Value} :
  (name, v) ∈ e.fields ↔
    (name = "name" ∧ v = .str e.name) ∨ (name = "source" ∧ v = e.source.toValue) ∨
    (name = "description" ∧ ∃ t, e.description = some t ∧ t ≠ "" ∧ v = .str t) ∨
    (name = "version" ∧ ∃ t, e.version = some t ∧ t ≠ "" ∧ v = .str t) ∨
    (name = "author" ∧ ∃ a, e.author = some a ∧ v = a.toValue) ∨
    (name = "keywords" ∧ e.keywords ≠ [] ∧ v = .ofStrings e.keywords) ∨
    (name = "category" ∧ ∃ t, e.category = some t ∧ t ≠ "" ∧ v = .str t)
  := by
  simp only [fields, List.mem_append, List.mem_cons, List.not_mem_nil, or_false, Prod.mk.injEq,
    mem_stated, mem_listed, mem_authorField, or_assoc]

theorem nodup_fields (e : IndexEntry) :
  (e.fields.map (·.1)).Nodup
  := by
  have hsublist :=
    (((((List.Sublist.refl ["name", "source"]).append
      (stated_sublist "description" e.description)).append
    (stated_sublist "version" e.version)).append (authorField_sublist e.author)).append
    (listed_sublist "keywords" e.keywords)).append (stated_sublist "category" e.category)
  simp only [fields, List.map_append]
  apply hsublist.nodup
  decide

theorem kept_of_mem_fields {name : String} {v : Value} (hmem : (name, v) ∈ e.fields) :
  Json.Kept v
  := by
  rcases mem_fields.mp hmem with ⟨-, rfl⟩ | ⟨-, rfl⟩ | ⟨-, t, -, -, rfl⟩ | ⟨-, t, -, -, rfl⟩ | ⟨-,
    a, -, rfl⟩ | ⟨-, -, rfl⟩ | ⟨-, t, -, -, rfl⟩
  · apply Json.kept_str
  · apply Location.kept_toValue
  · apply Json.kept_str
  · apply Json.kept_str
  · apply kept_author
  · apply Json.kept_ofStrings
  · apply Json.kept_str

theorem kept_toValue (e : IndexEntry) :
  Json.Kept e.toValue
  := Json.kept_ofFields (nodup_fields e) fun _ hf => kept_of_mem_fields hf

/-- A valid entry fits the schema of entries. -/
theorem violations_toValue (he : e.Valid) :
  Schema.catalogEntry.violations e.toValue = []
  := by
  have hfields : Fields e.fields :=
    Json.fields_of_kept (nodup_fields e) fun _ hf => kept_of_mem_fields hf
  apply hfields.violations_record_eq_nil
  · intro name hname
    simp only [List.mem_cons, List.not_mem_nil, or_false] at hname
    rcases hname with rfl | rfl
    · exact ⟨_, mem_fields.mpr (Or.inl ⟨rfl, rfl⟩)⟩
    · exact ⟨_, mem_fields.mpr (Or.inr (Or.inl ⟨rfl, rfl⟩))⟩
  · intro s hs v hv
    rw [mem_fields] at hv
    simp only [List.mem_cons, List.not_mem_nil, or_false] at hs
    rcases hs with rfl | rfl | rfl | rfl | rfl | rfl | rfl
    · obtain rfl : v = .str e.name := by simpa using hv
      apply violations_someText he.name_ne
    · obtain rfl : v = e.source.toValue := by simpa using hv
      apply Location.violations_toValue he.source_ne
    · obtain ⟨t, -, -, rfl⟩ : ∃ t, e.description = some t ∧ t ≠ "" ∧ v = .str t := by simpa using hv
      apply violations_anyText
    · obtain ⟨t, -, -, rfl⟩ : ∃ t, e.version = some t ∧ t ≠ "" ∧ v = .str t := by simpa using hv
      apply violations_anyText
    · obtain ⟨t, -, -, rfl⟩ : ∃ t, e.category = some t ∧ t ≠ "" ∧ v = .str t := by simpa using hv
      apply violations_anyText
    · obtain ⟨-, rfl⟩ : e.keywords ≠ [] ∧ v = .ofStrings e.keywords := by simpa using hv
      apply violations_texts
    · obtain ⟨a, -, rfl⟩ : ∃ a, e.author = some a ∧ v = a.toValue := by simpa using hv
      apply violations_author_of_name (violations_anyText a.name)
  · intro h
    cases h

end IndexEntry

/-! ### Indexes -/

namespace CatalogIndex

/-- Indexes as they have to be to be valid. -/
structure Valid (x : CatalogIndex) : Prop where
  name_ne : x.name ≠ ""
  owner_name_ne : x.owner.name ≠ ""
  entries_valid : ∀ e ∈ x.entries, e.Valid

/-- The fields that an index is written as. -/
def fields (x : CatalogIndex) : List (String × Value) :=
  [("$schema", .str "https://anthropic.com/claude-code/marketplace.schema.json"),
    ("name", .str x.name), ("version", .str x.version)] ++ stated "description" x.description ++
    [("owner", x.owner.toValue), ("metadata", Value.ofFields [("pluginRoot", .str x.pluginRoot)]),
      ("plugins", .list (x.entries.map (·.toValue)))]

variable {x : CatalogIndex}

theorem mem_fields {name : String} {v : Value} :
  (name, v) ∈ x.fields ↔
    (name = "$schema" ∧ v = .str "https://anthropic.com/claude-code/marketplace.schema.json") ∨
    (name = "name" ∧ v = .str x.name) ∨ (name = "version" ∧ v = .str x.version) ∨
    (name = "description" ∧ ∃ t, x.description = some t ∧ t ≠ "" ∧ v = .str t) ∨
    (name = "owner" ∧ v = x.owner.toValue) ∨
    (name = "metadata" ∧ v = .ofFields [("pluginRoot", .str x.pluginRoot)]) ∨
    (name = "plugins" ∧ v = .list (x.entries.map (·.toValue)))
  := by
  simp only [fields, List.mem_append, List.mem_cons, List.not_mem_nil, or_false, Prod.mk.injEq,
    mem_stated, or_assoc]

theorem nodup_fields (x : CatalogIndex) :
  (x.fields.map (·.1)).Nodup
  := by
  have hsublist := ((List.Sublist.refl ["$schema", "name", "version"]).append
    (stated_sublist "description" x.description)).append
      (List.Sublist.refl ["owner", "metadata", "plugins"])
  simp only [fields, List.map_append]
  apply hsublist.nodup
  decide

/-- What an index says of the directory of bundles is kept and fits its schema. -/
theorem kept_metadata (root : String) :
  Json.Kept (.ofFields [("pluginRoot", .str root)]) ∧
    (Schema.record [] [("pluginRoot", Schema.anyText)] .unmentioned).violations
      (.ofFields [("pluginRoot", .str root)]) = []
  := by
  have hnodup : ([("pluginRoot", Value.str root)].map (·.1)).Nodup := List.nodup_singleton _
  have hall : ∀ f ∈ [("pluginRoot", Value.str root)], Json.Kept f.2 := by
    rw [List.forall_mem_singleton]
    apply Json.kept_str
  refine ⟨Json.kept_ofFields hnodup hall, ?_⟩
  apply (Json.fields_of_kept hnodup hall).violations_record_eq_nil
  · apply List.forall_mem_nil
  · rw [List.forall_mem_singleton]
    intro v hv
    cases List.mem_singleton.mp hv
    apply violations_anyText
  · intro h
    cases h

theorem kept_plugins (es : List IndexEntry) :
  Json.Kept (.list (es.map (·.toValue)))
  := by
  apply Json.kept_list
  rw [List.forall_mem_map]
  intro e _
  apply e.kept_toValue

theorem kept_of_mem_fields {name : String} {v : Value} (hmem : (name, v) ∈ x.fields) :
  Json.Kept v
  := by
  rcases mem_fields.mp hmem with ⟨-, rfl⟩ | ⟨-, rfl⟩ | ⟨-, rfl⟩ | ⟨-, t, -, -, rfl⟩ | ⟨-, rfl⟩ | ⟨-,
    rfl⟩ | ⟨-, rfl⟩
  · apply Json.kept_str
  · apply Json.kept_str
  · apply Json.kept_str
  · apply Json.kept_str
  · exact kept_author ⟨x.owner.name, x.owner.email⟩
  · exact (kept_metadata x.pluginRoot).1
  · apply kept_plugins

/-- An index is read back as it was written. -/
theorem read_write (x : CatalogIndex) :
  Json.read x.write = .ok x.toValue
  := by
  have hkept : Json.Kept x.toValue :=
    Json.kept_ofFields (nodup_fields x) fun _ hf => kept_of_mem_fields hf
  rw [write, Json.read_write hkept.unwritable?_eq_none, hkept.reread_eq]

/-- A valid index fits the schema of indexes. -/
theorem violations_toValue (hx : x.Valid) :
  Schema.marketplace.schema.violations x.toValue = []
  := by
  have hfields : Fields x.fields :=
    Json.fields_of_kept (nodup_fields x) fun _ hf => kept_of_mem_fields hf
  apply hfields.violations_record_eq_nil
  · intro name hname
    simp only [List.mem_cons, List.not_mem_nil, or_false] at hname
    rcases hname with rfl | rfl | rfl
    all_goals simp [mem_fields]
  · intro s hs v hv
    rw [mem_fields] at hv
    simp only [List.mem_cons, List.not_mem_nil, or_false] at hs
    rcases hs with rfl | rfl | rfl | rfl | rfl | rfl | rfl
    · obtain rfl : v
        = .str "https://anthropic.com/claude-code/marketplace.schema.json" := by simpa using hv
      apply violations_anyText
    · obtain rfl : v = .str x.name := by simpa using hv
      apply violations_someText hx.name_ne
    · obtain rfl : v = .str x.version := by simpa using hv
      apply violations_anyText
    · obtain ⟨t, -, -, rfl⟩ : ∃ t, x.description = some t ∧ t ≠ "" ∧ v = .str t := by simpa using hv
      apply violations_anyText
    · obtain rfl : v = x.owner.toValue := by simpa using hv
      exact violations_author_of_name (a := ⟨x.owner.name, x.owner.email⟩)
        (violations_someText hx.owner_name_ne)
    · obtain rfl : v = .ofFields [("pluginRoot", .str x.pluginRoot)] := by simpa using hv
      exact (kept_metadata x.pluginRoot).2
    · obtain rfl : v = .list (x.entries.map (·.toValue)) := by simpa using hv
      rw [Schema.violations_list_eq_nil_iff]
      refine ⟨_, Value.items?_list (kept_plugins x.entries).unwritable?_eq_none, rfl, ?_⟩
      rw [List.forall_mem_map]
      intro e he
      apply IndexEntry.violations_toValue (hx.entries_valid e he)
  · intro h
    cases h

end CatalogIndex

namespace Publish

variable {s : Settings} {categorize : Categorizer} {reports : List Report} {x : CatalogIndex}

/-- A bundle without errors is listed by a valid entry, unless it says that it is at an empty
path. -/
theorem Lists.valid {r : Report} {m : Manifest} {e : IndexEntry} {root : String}
    (h : Lists root categorize r.bundle m e) (hr : Holds r)
    (hlocation : r.bundle.location ≠ some (.path "")) :
  e.Valid
  := by
  obtain ⟨m', hm', hname⟩ := hr.isValid.exists_manifest
  rw [h.manifest] at hm'
  cases hm'
  constructor
  · rw [h.name]
    apply Validation.ne_empty_of_isKebabName hname
  · rw [h.source]
    cases hl : r.bundle.location with
    | none =>
        intro heq
        injection heq with heq
        have hempty := congrArg String.toList heq
        simp [rootPath] at hempty
    | some l =>
        rintro rfl
        exact hlocation hl

theorem valid_of_publish (h : publish s categorize (reports.map .report) = .ok x)
    (hname : s.name ≠ "") (howner : s.owner.name ≠ "")
    (hlocations : ∀ r ∈ reports, r.bundle.location ≠ some (.path "")) :
  x.Valid
  := by
  obtain ⟨hholds, es, hes, -, rfl⟩ := publish_eq_ok_iff.mp h
  refine ⟨hname, howner, ?_⟩
  intro e he
  obtain ⟨r, hr, m, hlists⟩ := exists_of_mem_of_forall₂ hes (List.mem_mergeSort.mp he)
  apply hlists.valid (hholds r hr) (hlocations r hr)

/-- What is published is valid: the text of a published index is read back as it was written, and
fits the schema of catalog indexes. -/
theorem read_write_of_publish (h : publish s categorize (reports.map .report) = .ok x)
    (hname : s.name ≠ "") (howner : s.owner.name ≠ "")
    (hlocations : ∀ r ∈ reports, r.bundle.location ≠ some (.path "")) (location : String) :
  ∃ v, Json.read x.write = .ok v ∧ v = x.toValue ∧ Validation.catalogIssues v location = []
  := by
  refine ⟨x.toValue, x.read_write, rfl, ?_⟩
  have hvalid := valid_of_publish h hname howner hlocations
  rw [Validation.catalogIssues, DocumentSchema.issues,
    DocumentSchema.violations_eq_nil_iff.mpr (CatalogIndex.violations_toValue hvalid), List.map_nil]

/-- A place on a host. -/
def hosted : RemoteSource where
  source := .github
  repo := some "owner/app"
  url := none
  ref := none

/-- A bundle below the root and one on a host are published, and the index is valid. -/
theorem read_write_of_publish_hosted :
  ∃ x v, publish bareSettings (fun name => .ok (inferCategory name))
      ([bareReport "web" none, bareReport "app" (some (.remote hosted))].map .report) = .ok x ∧
    Json.read x.write = .ok v ∧ v = x.toValue ∧ Validation.catalogIssues v "index" = []
  := by
  have hlocations : ∀ r ∈ [bareReport "web" none, bareReport "app" (some (.remote hosted))],
      r.bundle.location ≠ some (.path "") := by
    rw [List.forall_mem_cons, List.forall_mem_singleton]
    exact ⟨by rintro ⟨⟩, by rintro ⟨⟩⟩
  obtain ⟨x, hx⟩ := exists_publish_bare none (some (.remote hosted))
  obtain ⟨v, hread, hv, hissues⟩ :=
    read_write_of_publish hx (by decide) (by decide) hlocations "index"
  exact ⟨x, v, hx, hread, hv, hissues⟩

end Publish

end AgentBundles
