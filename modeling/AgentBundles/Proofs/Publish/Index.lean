import Mathlib.Data.List.Perm.Basic
import AgentBundles.Proofs.Bundle.ReadBack
import AgentBundles.Proofs.Text.Distinct
import AgentBundles.Publish.Index

/-!
# Published indexes

Either all bundles are listed in an index or there is none. There is one exactly if all reports are
without errors, hold of the bundles as they are, and no two bundles have one name; the order of the
reports makes no difference.
-/

namespace AgentBundles

/-! ### Bundles without errors -/

/-- A bundle without errors has a manifest, which names it in kebab case. -/
theorem Bundle.IsValid.exists_manifest {b : Bundle} (h : b.IsValid) :
  ∃ m, b.manifest = .ok m ∧ Slug.isKebabName m.name = true
  := by
  obtain ⟨entries, issues, hof, hnone, -⟩ := isValid_iff.mp h
  obtain ⟨t, htext, hread, hmanifest⟩ := Validation.text_of_manifestOf hof hnone
  obtain ⟨haccepts, ⟨name, hname, hkebab⟩, -⟩ := Validation.noErrors_manifestIssues_iff.mp hmanifest
  obtain ⟨m, hm⟩ := Record.admits_manifest ((Schema.violations_eq_nil_iff _ _).mpr haccepts)
  refine ⟨m, ?_, ?_⟩
  · rw [manifest, htext]
    dsimp only
    rw [Manifest.read, hread]
    dsimp only
    rw [Manifest.ofValue, hm]
    rfl
  · rw [Record.name_of_manifest hm hname]
    apply hkebab

namespace Publish

/-! ### Acceptance -/

/-- A report is without errors, and so is a new report about the bundle. -/
structure Holds (r : Report) : Prop where
  ok : r.ok = true
  isValid : r.bundle.IsValid

theorem accept_eq_ok_iff {r : Report} {position : Nat} {b : Bundle} :
  accept (.report r, position) = .ok b ↔ Holds r ∧ r.bundle = b
  := by
  rw [accept]
  constructor
  · intro h
    split at h
    · cases h
    · rename_i hok
      cases hvalidate : r.bundle.validate with
      | error f =>
          rw [hvalidate] at h
          cases h
      | ok again =>
          rw [hvalidate] at h
          dsimp only at h
          split at h
          · rename_i hagain
            cases h
            rw [Bool.not_eq_true', Bool.not_eq_false] at hok
            exact ⟨⟨hok, again, hvalidate, hagain⟩, rfl⟩
          · cases h
  · rintro ⟨⟨hok, again, hvalidate, hagain⟩, rfl⟩
    rw [hok, hvalidate]
    dsimp only
    rw [hagain]
    rfl

/-- All bundles are accepted exactly if all reports hold. -/
theorem acceptAll_eq_ok_iff {reports : List Report} {bs : List Bundle} :
  acceptAll (reports.map .report) = .ok bs ↔ (∀ r ∈ reports, Holds r) ∧ reports.map (·.bundle) = bs
  := by
  have hall : ∀ n, ((reports.map Submission.report).zipIdx n).mapM accept = .ok bs
      ↔ (∀ r ∈ reports, Holds r) ∧ reports.map (·.bundle) = bs := by
    induction reports generalizing bs with
    | nil =>
        intro n
        constructor
        · intro h
          cases h
          exact ⟨List.forall_mem_nil _, rfl⟩
        · rintro ⟨-, rfl⟩
          rfl
    | cons r reports ih =>
        intro n
        simp only [mapM_eq_ok_iff] at ih
        rw [mapM_eq_ok_iff, List.map_cons, List.zipIdx_cons, List.forall₂_cons_left_iff,
          List.forall_mem_cons]
        simp only [accept_eq_ok_iff, ih]
        constructor
        · rintro ⟨_, _, ⟨hr, rfl⟩, ⟨hreports, rfl⟩, rfl⟩
          exact ⟨⟨hr, hreports⟩, rfl⟩
        · rintro ⟨⟨hr, hreports⟩, rfl⟩
          exact ⟨_, _, ⟨hr, rfl⟩, ⟨hreports, rfl⟩, rfl⟩
  apply hall 0

/-! ### Entries -/

variable {root : String} {categorize : Categorizer} {b : Bundle} {m : Manifest} {e : IndexEntry}

/-- An entry says of a bundle what its manifest says, the category of its name, and where it is:
below the root if the bundle does not say it. -/
structure Lists (root : String) (categorize : Categorizer) (b : Bundle) (m : Manifest)
    (e : IndexEntry) : Prop where
  manifest : b.manifest = .ok m
  name : e.name = m.name
  description : e.description = m.description
  version : e.version = some m.version
  author : e.author = m.author
  keywords : e.keywords = m.keywords
  category : categorize m.name = .ok e.category
  source : e.source = b.location.getD (.path (rootPath root ++ "/" ++ m.name))

theorem Lists.eq_entryOf (h : Lists root categorize b m e) :
  e = entryOf root e.category b m
  := by
  obtain ⟨-, hname, hdescription, hversion, hauthor, hkeywords, -, hsource⟩ := h
  cases e
  cases hname
  cases hdescription
  cases hversion
  cases hauthor
  cases hkeywords
  cases hsource
  rfl

theorem lists_iff :
  Lists root categorize b m e
    ↔ b.manifest = .ok m ∧ ∃ category, categorize m.name = .ok category ∧
    e = entryOf root category b m
  := by
  constructor
  · intro h
    exact ⟨h.manifest, e.category, h.category, h.eq_entryOf⟩
  · rintro ⟨hmanifest, category, hcategory, rfl⟩
    exact ⟨hmanifest, rfl, rfl, rfl, rfl, rfl, hcategory, rfl⟩

theorem entriesOf_cons_eq_ok_iff {seen : List String} {bs : List Bundle} {es : List IndexEntry} :
  entriesOf root categorize seen (b :: bs) = .ok es
    ↔ ∃ e es', (∃ m, Lists root categorize b m e) ∧ e.name ∉ seen ∧
      entriesOf root categorize (e.name :: seen) bs = .ok es' ∧ es = e :: es'
  := by
  rw [entriesOf, bind_eq_ok_iff]
  constructor
  · rintro ⟨m, hm, h⟩
    rw [mapError_eq_ok_iff] at hm
    split at h
    · cases h
    · rename_i hseen
      obtain ⟨category, hcategory, h⟩ := bind_eq_ok_iff.mp h
      obtain ⟨es', hes, h⟩ := bind_eq_ok_iff.mp h
      cases h
      refine ⟨entryOf root category b m, es', ⟨m, lists_iff.mpr ⟨hm, category, hcategory, rfl⟩⟩, ?_,
        hes, rfl⟩
      rw [List.contains_iff_mem] at hseen
      apply hseen
  · rintro ⟨_, es', ⟨m, hlists⟩, hseen, hes, rfl⟩
    obtain ⟨hm, category, hcategory, rfl⟩ := lists_iff.mp hlists
    refine ⟨m, mapError_eq_ok_iff.mpr hm, ?_⟩
    have hcontains : ¬ seen.contains m.name = true := by
      rw [List.contains_iff_mem]
      apply hseen
    have hrest : entriesOf root categorize (m.name :: seen) bs = .ok es' := hes
    rw [if_neg hcontains, hcategory, ok_bind, hrest]
    rfl

/-- There are entries exactly if each bundle is listed, under a name that no other one has. -/
theorem entriesOf_eq_ok_iff {seen : List String} {bs : List Bundle} {es : List IndexEntry} :
  entriesOf root categorize seen bs = .ok es
    ↔ List.Forall₂ (fun b e => ∃ m, Lists root categorize b m e) bs es ∧ (es.map (·.name)).Nodup ∧
      ∀ e ∈ es, e.name ∉ seen
  := by
  induction bs generalizing seen es with
  | nil =>
      rw [List.forall₂_nil_left_iff]
      constructor
      · intro h
        cases h
        exact ⟨rfl, List.nodup_nil, List.forall_mem_nil _⟩
      · rintro ⟨rfl, -⟩
        rfl
  | cons b bs ih =>
      rw [entriesOf_cons_eq_ok_iff, List.forall₂_cons_left_iff]
      simp only [ih, List.mem_cons, not_or]
      constructor
      · rintro ⟨e, es', hlists, hseen, ⟨hall, hnodup, hother⟩, rfl⟩
        refine ⟨⟨e, es', hlists, hall, rfl⟩, ?_, ?_⟩
        · rw [List.map_cons, List.nodup_cons]
          refine ⟨?_, hnodup⟩
          rintro hmem
          obtain ⟨e', he', hname⟩ := List.mem_map.mp hmem
          exact (hother e' he').1 hname
        · rw [List.forall_mem_cons]
          exact ⟨hseen, fun e' he' => (hother e' he').2⟩
      · rintro ⟨⟨e, es', hlists, hall, rfl⟩, hnodup, hseen⟩
        rw [List.map_cons, List.nodup_cons] at hnodup
        rw [List.forall_mem_cons] at hseen
        refine ⟨e, es', hlists, hseen.1, ⟨hall, hnodup.2, ?_⟩, rfl⟩
        intro e' he'
        refine ⟨?_, hseen.2 e' he'⟩
        rintro hname
        apply hnodup.1
        rw [← hname]
        exact List.mem_map_of_mem he'

/-! ### Indexes -/

/-- Entries that list the bundles of reports, one for each. -/
def Listing (root : String) (categorize : Categorizer) (reports : List Report)
    (es : List IndexEntry) : Prop :=
  List.Forall₂ (fun r e => ∃ m, Lists root categorize r.bundle m e) reports es

variable {s : Settings} {reports reports' : List Report} {es : List IndexEntry} {x : CatalogIndex}

theorem entries_eq_ok_iff :
  entries root categorize (reports.map (·.bundle)) = .ok es
    ↔ ∃ es', Listing root categorize reports es' ∧ (es'.map (·.name)).Nodup ∧
      es'.mergeSort (fun a b => Text.le a.name b.name) = es
  := by
  rw [entries, map_eq_ok_iff]
  simp only [entriesOf_eq_ok_iff, List.forall₂_map_left_iff, List.not_mem_nil, not_false_eq_true,
    implies_true, and_true, and_assoc, Listing]

/-- There is an index exactly if all reports hold and each bundle is listed, under a name that no
other one has. -/
theorem publish_eq_ok_iff :
  publish s categorize (reports.map .report) = .ok x
    ↔ (∀ r ∈ reports, Holds r) ∧ ∃ es, Listing s.pluginRoot categorize reports es ∧
    (es.map (·.name)).Nodup ∧
      indexOf s (es.mergeSort fun a b => Text.le a.name b.name) = x
  := by
  rw [publish, bind_eq_ok_iff]
  simp only [acceptAll_eq_ok_iff]
  constructor
  · rintro ⟨_, ⟨hholds, rfl⟩, h⟩
    obtain ⟨found, hfound, h⟩ := bind_eq_ok_iff.mp h
    cases h
    obtain ⟨es, hes, hnodup, rfl⟩ := entries_eq_ok_iff.mp hfound
    exact ⟨hholds, es, hes, hnodup, rfl⟩
  · rintro ⟨hholds, es, hes, hnodup, rfl⟩
    refine ⟨_, ⟨hholds, rfl⟩, ?_⟩
    rw [entries_eq_ok_iff.mpr ⟨es, hes, hnodup, rfl⟩]
    rfl

/-- Reports in another order are listed by the same entries in another order. -/
theorem Listing.perm (h : Listing root categorize reports es) (hperm : reports'.Perm reports) :
  ∃ es', Listing root categorize reports' es' ∧ es'.Perm es
  := by
  obtain ⟨es', hes', hperm'⟩ := List.perm_comp_forall₂ hperm h
  exact ⟨es', hes', hperm'⟩

/-- The order of the reports makes no difference. -/
theorem publish_of_perm (hperm : reports'.Perm reports)
    (h : publish s categorize (reports.map .report) = .ok x) :
  publish s categorize (reports'.map .report) = .ok x
  := by
  obtain ⟨hholds, es, hes, hnodup, rfl⟩ := publish_eq_ok_iff.mp h
  obtain ⟨es', hes', hperm'⟩ := hes.perm hperm
  have hnodup' : (es'.map (·.name)).Nodup := (hperm'.map _).nodup_iff.mpr hnodup
  refine publish_eq_ok_iff.mpr ⟨?_, es', hes', hnodup', ?_⟩
  · intro r hr
    apply hholds r (hperm.mem_iff.mp hr)
  · congr 1
    apply Text.eq_of_perm_of_pairwise_lt IndexEntry.name
    · apply Text.pairwise_lt_mergeSort IndexEntry.name hnodup'
    · apply Text.pairwise_lt_mergeSort IndexEntry.name hnodup
    · apply ((List.mergeSort_perm _ _).trans hperm').trans (List.mergeSort_perm _ _).symm

/-- The manifests of two bundles name them differently. -/
def NamedApart (b b' : Bundle) : Prop := ∀ {m m' : Manifest}, b.manifest = .ok m →
    b'.manifest = .ok m' → m.name ≠ m'.name

theorem Lists.namedApart_iff {b' : Bundle} {m' : Manifest} {e' : IndexEntry}
    (h : Lists root categorize b m e) (h' : Lists root categorize b' m' e') :
  NamedApart b b' ↔ e.name ≠ e'.name
  := by
  rw [h.name, h'.name]
  constructor
  · intro hapart
    apply hapart h.manifest h'.manifest
  · intro hne n n' hn hn'
    rw [h.manifest] at hn
    rw [h'.manifest] at hn'
    cases hn
    cases hn'
    apply hne

/-- Bundles are named differently exactly if their entries are. -/
theorem Listing.pairwise_namedApart_iff (h : Listing root categorize reports es) :
  (reports.Pairwise fun r r' => NamedApart r.bundle r'.bundle) ↔ (es.map (·.name)).Nodup
  := by
  rw [List.Nodup, List.pairwise_map]
  induction h with
  | nil => exact iff_of_true List.Pairwise.nil List.Pairwise.nil
  | @cons r e reports es hlists hall ih =>
      obtain ⟨m, hlists⟩ := hlists
      have hhead : (∀ r' ∈ reports, NamedApart r.bundle r'.bundle)
          ↔ ∀ e' ∈ es, e.name ≠ e'.name := by
        clear ih
        induction hall with
        | nil => exact iff_of_true (List.forall_mem_nil _) (List.forall_mem_nil _)
        | cons hlists' _ ih =>
            obtain ⟨m', hlists'⟩ := hlists'
            rw [List.forall_mem_cons, List.forall_mem_cons, ih, hlists.namedApart_iff hlists']
      rw [List.pairwise_cons, List.pairwise_cons, ih, hhead]

/-- Bundles without errors can be listed. -/
theorem exists_listing (hcategorize : ∀ name, ∃ category, categorize name = .ok category)
    (h : ∀ r ∈ reports, Holds r) :
  ∃ es, Listing root categorize reports es
  := by
  induction reports with
  | nil => exact ⟨[], List.Forall₂.nil⟩
  | cons r reports ih =>
      obtain ⟨hr, hreports⟩ := List.forall_mem_cons.mp h
      obtain ⟨es, hes⟩ := ih hreports
      obtain ⟨m, hm, -⟩ := hr.isValid.exists_manifest
      obtain ⟨category, hcategory⟩ := hcategorize m.name
      exact ⟨_, List.Forall₂.cons ⟨m, lists_iff.mpr ⟨hm, category, hcategory, rfl⟩⟩ hes⟩

/-- Reports that hold are published if their bundles are named differently. -/
theorem exists_publish (s : Settings)
    (hcategorize : ∀ name, ∃ category, categorize name = .ok category)
    (hholds : ∀ r ∈ reports, Holds r)
    (hapart : reports.Pairwise fun r r' => NamedApart r.bundle r'.bundle) :
  ∃ x, publish s categorize (reports.map .report) = .ok x
  := by
  obtain ⟨es, hes⟩ := exists_listing hcategorize hholds
  exact ⟨_, publish_eq_ok_iff.mpr ⟨hholds, es, hes, hes.pairwise_namedApart_iff.mp hapart, rfl⟩⟩

/-- Reports are published together or not at all. There is an index exactly if all of them are
without errors, their bundles still are, and the manifests of these, which can be read, have
different names. It lists one entry for each bundle, in the order of their names, and the order of
the reports makes no difference. -/
theorem publish_reports (s : Settings)
    (hcategorize : ∀ name, ∃ category, categorize name = .ok category) (reports : List Report) :
  (∀ r ∈ reports, r.bundle.IsValid → ∃ m, r.bundle.manifest = .ok m) ∧
  ((∃ x, publish s categorize (reports.map .report) = .ok x)
    ↔ (∀ r ∈ reports, Holds r) ∧ reports.Pairwise fun r r' => NamedApart r.bundle r'.bundle) ∧
  (∀ x, publish s categorize (reports.map .report) = .ok x →
    x = indexOf s x.entries ∧ (x.entries.Pairwise fun e e' => e.name < e'.name) ∧
    ∃ es, Listing s.pluginRoot categorize reports es ∧ es.Perm x.entries) ∧
  ∀ reports' : List Report, reports'.Perm reports → ∀ x,
    publish s categorize (reports'.map .report) = .ok x
    ↔ publish s categorize (reports.map .report) = .ok x
  := by
  refine ⟨?_, ⟨?_, ?_⟩, ?_, ?_⟩
  · intro r _ hr
    obtain ⟨m, hm, -⟩ := hr.exists_manifest
    exact ⟨m, hm⟩
  · rintro ⟨x, hx⟩
    obtain ⟨hholds, es, hes, hnodup, -⟩ := publish_eq_ok_iff.mp hx
    exact ⟨hholds, hes.pairwise_namedApart_iff.mpr hnodup⟩
  · rintro ⟨hholds, hapart⟩
    apply exists_publish s hcategorize hholds hapart
  · intro x hx
    obtain ⟨-, es, hes, hnodup, rfl⟩ := publish_eq_ok_iff.mp hx
    refine ⟨rfl, ?_, es, hes, (List.mergeSort_perm _ _).symm⟩
    apply Text.pairwise_lt_mergeSort IndexEntry.name hnodup
  · intro reports' hperm x
    constructor
    · apply publish_of_perm hperm.symm
    · apply publish_of_perm hperm

/-! ### Bundles that declare nothing -/

/-- A manifest that names a bundle and declares nothing. -/
def bareManifest (name : String) : Manifest where
  name := name
  version := Manifest.defaultVersion
  description := none
  author := none
  license := Manifest.defaultLicense
  keywords := []
  skills := none
  agents := none
  hooks := none

/-- A report without issues about a bundle that is a manifest and nothing else. -/
def bareReport (name : String) (location : Option Location) : Report where
  bundle := ⟨[(Manifest.path, (bareManifest name).write)], location⟩
  issues := []

theorem manifest_bareReport (name : String) (location : Option Location) :
  (bareReport name location).bundle.manifest = .ok (bareManifest name)
  := Manifest.read_of_write (bareManifest name)

theorem holds_bareReport {name : String} (h : Slug.isKebabName name = true)
    (location : Option Location) :
  Holds (bareReport name location)
  := by
  have hversion : Version.isSemantic Manifest.defaultVersion = true := by decide
  have hvalid : (bareManifest name).Valid := by
    constructor
    · apply h
    · apply hversion
    all_goals
      rintro _ ⟨⟩
  have hget : (bareReport name location).bundle.files.get? Manifest.path
      = some (bareManifest name).write := rfl
  obtain ⟨entries, hentries, hof⟩ := Manifest.manifestOf_of_get? hget
  refine ⟨rfl, Bundle.isValid_iff.mpr ⟨entries, _, hof, ?_, ?_, ?_⟩⟩
  · rw [← hentries, Manifest.manifestIssues_toValue hvalid]
    intro i hi
    cases List.mem_singleton.mp hi
    rfl
  · rw [Validation.passes_entryIssues_iff, ← hentries, (Manifest.text?_skills _).1,
      (Manifest.text?_agents _).1, (Manifest.text?_hooks _).1]
    refine ⟨?_, ?_, ?_⟩
    all_goals
      rintro _ ⟨⟩
  · intro f hf
    have hdirectories : ∀ usual, Validation.directoryOf (.map entries) "skills" usual = usual ∧
        Validation.directoryOf (.map entries) "agents" usual = usual := by
      intro usual
      rw [← hentries, Validation.directoryOf, Validation.directoryOf, (Manifest.text?_skills _).1,
        (Manifest.text?_agents _).1]
      exact ⟨rfl, rfl⟩
    have hpath : Manifest.path.toList.head? = some '.' := rfl
    rw [List.mem_singleton.mp hf, (hdirectories _).1, (hdirectories _).2,
      documentIssues_other hpath (by decide) (by decide)]
    exact ⟨[], rfl, List.forall_mem_nil _⟩

/-- Settings with the usual directory of bundles. -/
def bareSettings : Settings where
  name := "catalog"
  owner := ⟨"owner", none⟩
  version := Manifest.defaultVersion
  description := none
  pluginRoot := "./plugins"

theorem exists_category (name : String) :
  ∃ category, (.ok (inferCategory name) : Except Fault (Option String)) = .ok category
  := ⟨inferCategory name, rfl⟩

/-- Two bundles are published, wherever they are. -/
theorem exists_publish_bare (location location' : Option Location) :
  ∃ x, publish bareSettings (fun name => .ok (inferCategory name))
    ([bareReport "web" location, bareReport "app" location'].map .report) = .ok x
  := by
  apply exists_publish bareSettings exists_category
  · rw [List.forall_mem_cons, List.forall_mem_singleton]
    exact ⟨holds_bareReport (by decide) location, holds_bareReport (by decide) location'⟩
  · rw [List.pairwise_pair]
    intro m m' hm hm'
    rw [manifest_bareReport] at hm hm'
    cases hm
    cases hm'
    decide

/-- Two bundles are published, in whatever order their reports are. -/
theorem publish_reports_bare :
  ∃ x, publish bareSettings (fun name => .ok (inferCategory name))
      ([bareReport "web" none, bareReport "app" none].map .report) = .ok x ∧
    publish bareSettings (fun name => .ok (inferCategory name))
      ([bareReport "app" none, bareReport "web" none].map .report) = .ok x
  := by
  obtain ⟨x, hx⟩ := exists_publish_bare none none
  obtain ⟨-, -, -, hperm⟩ :=
    publish_reports bareSettings exists_category [bareReport "web" none, bareReport "app" none]
  exact ⟨x, hx, (hperm _ (List.Perm.swap _ _ _) x).mpr hx⟩

end Publish

end AgentBundles
