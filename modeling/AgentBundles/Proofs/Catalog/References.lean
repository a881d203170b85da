import AgentBundles.Proofs.Catalog.Built
import AgentBundles.Proofs.Validation.Grammars

/-!
# What a catalog refuses

A catalog is built of all matrices and records but the inconsistent ones. It is refused at the first
record that repeats an identifier or gives no slug in kebab case; or else for all references to
skills that are not there, be they in relations of the matrix, in the metadata of skills or in
suggested stacks. In a catalog that is built, all rules and suggested stacks speak of skills that
are there, and the index has every rule under every skill that it mentions.
-/

namespace AgentBundles.Catalog

/-! ### Identifiers -/

/-- Records with nothing wrong about their identifiers: no two are the same, and each gives a slug
in kebab case. -/
structure Sound (records : List Record.Skill) : Prop where
  ids_nodup : (records.map (·.id)).Nodup
  slug_kebab : ∀ r ∈ records, Slug.IsKebabCase (Slug.ofId r.id).toList

/-- After records that are sound and not seen before, the first fault is one of the records that
follow. -/
theorem firstFault?_append {seen : List String} {before : List Record.Skill} (hsound : Sound before)
    (hnew : ∀ r ∈ before, r.id ∉ seen) (after : List Record.Skill) :
  firstFault? seen (before ++ after) = firstFault? ((before.map (·.id)).reverse ++ seen) after
  := by
  induction before generalizing seen with
  | nil => rfl
  | cons r before ih =>
      have hseen : ¬ seen.contains r.id = true := by
        rw [List.contains_iff_mem]
        apply hnew r List.mem_cons_self
      have hslug : Slug.isKebabName (Slug.ofId r.id) = true :=
        Slug.isKebabName_ofId_iff.mpr (hsound.slug_kebab r List.mem_cons_self)
      obtain ⟨hid, hnodup⟩ : r.id ∉ before.map (·.id) ∧ (before.map (·.id)).Nodup :=
        List.nodup_cons.mp hsound.ids_nodup
      have hrest : Sound before :=
        ⟨hnodup, fun s hs => hsound.slug_kebab s (List.mem_cons_of_mem r hs)⟩
      rw [List.cons_append, firstFault?, if_neg hseen]
      simp only [hslug, if_true]
      rw [ih hrest]
      · simp
      · intro s hs
        rw [List.mem_cons, not_or]
        constructor
        · intro heq
          apply hid
          rw [← heq]
          apply List.mem_map_of_mem hs
        · apply hnew s (List.mem_cons_of_mem r hs)

/-- After records that are sound, the first fault is one of the records that follow. -/
theorem firstFault?_nil_append {before : List Record.Skill} (hsound : Sound before)
    (after : List Record.Skill) :
  firstFault? [] (before ++ after) = firstFault? (before.map (·.id)).reverse after
  := by
  rw [firstFault?_append hsound fun _ _ => List.not_mem_nil, List.append_nil]

/-- Records have no fault exactly if they are sound. -/
theorem firstFault?_eq_none_iff {records : List Record.Skill} :
  firstFault? [] records = none ↔ Sound records
  := by
  constructor
  · intro h
    obtain ⟨-, hnodup, hslugs⟩ := firstFault?_eq_none h
    exact ⟨hnodup, fun r hr => Slug.isKebabName_ofId_iff.mp (hslugs r hr)⟩
  · intro h
    have hnone := firstFault?_nil_append h []
    rw [List.append_nil] at hnone
    rw [hnone]
    rfl

/-- The first record that repeats an identifier is the fault. -/
theorem firstFault?_of_mem {before after : List Record.Skill} {r : Record.Skill}
    (hsound : Sound before) (h : r.id ∈ before.map (·.id)) :
  firstFault? [] (before ++ r :: after) = some (.duplicate r.id)
  := by
  rw [firstFault?_nil_append hsound, firstFault?, if_pos (by simpa using h)]

/-- The first record with a new identifier that gives no slug in kebab case is the fault. -/
theorem firstFault?_of_not_kebab {before after : List Record.Skill} {r : Record.Skill}
    (hsound : Sound before) (h : r.id ∉ before.map (·.id))
    (hslug : ¬ Slug.IsKebabCase (Slug.ofId r.id).toList) :
  firstFault? [] (before ++ r :: after) = some (.unnamable r.id (Slug.ofId r.id))
  := by
  rw [firstFault?_nil_append hsound, firstFault?, if_neg (by simpa using h)]
  simp only [if_neg (mt Slug.isKebabName_ofId_iff.mp hslug)]

/-! ### References -/

/-- The references that names at a place make. -/
def referencesAt (m : Record.Matrix) (place : String) (names : List String) : List Reference :=
  names.map fun name => (place, m.resolve name)

/-- The references that the relations in a list of the matrix make. -/
def relationReferences {α : Type} (m : Record.Matrix) (list : String) (names : α → List String)
    (relations : List α) :
    List Reference :=
  relations.zipIdx.flatMap fun x => referencesAt m (relationPlace list x.2) (names x.1)

/-- The names of other skills in the metadata of a skill. -/
def metadataNames (r : Record.Skill) : List String :=
  r.metadata.conflictsWith ++ r.metadata.requires ++ r.metadata.compatibleWith ++
    r.metadata.providesSetupFor ++ r.metadata.requiresSetup

/-- All references that a matrix and records make, in the order in which they are read: those of the
relations, of the metadata of skills, and of suggested stacks. -/
def references (m : Record.Matrix) (records : List Record.Skill) : List Reference :=
  relationReferences m "conflicts" (·.skills) m.relations.conflicts ++
  relationReferences m "discourages" (·.skills) m.relations.discourages ++
  relationReferences m "requires" (fun q => q.skill :: q.needs) m.relations.requires ++
  relationReferences m "recommends" (fun q => q.skill :: q.suggest) m.relations.recommends ++
  relationReferences m "alternatives" (·.skills) m.relations.alternatives ++
  records.flatMap
    (fun r => referencesAt m ("skill " ++ Text.inQuotes r.id ++ " metadata") (metadataNames r)) ++
  m.suggestedStacks.flatMap fun s =>
    referencesAt m ("suggested stack " ++ Text.inQuotes s.id) (s.skills.values.flatMap Table.values)

section

variable {m : Record.Matrix} {known : List String} {place : String}

/-- Whether a reference is one to an identifier that is not known. -/
def isMissing (known : List String) (p : Reference) : Bool := !known.contains p.2

theorem missingAt_append (ids ids' : List String) :
  missingAt known place (ids ++ ids') = missingAt known place ids ++ missingAt known place ids'
  := by
  rw [missingAt, List.filter_append, List.map_append]
  rfl

/-- What is missing at a place are the references there to what is not known. -/
theorem missingAt_map_resolve (names : List String) :
  missingAt known place (names.map m.resolve) = (referencesAt m place names).filter
    (isMissing known)
  := by
  rw [missingAt, List.filter_map, List.map_map, referencesAt, List.filter_map]
  rfl

/-- What is missing at a place depends on each identifier alone. -/
theorem missingAt_eq_flatMap (ids : List String) :
  missingAt known place ids = ids.flatMap fun id => missingAt known place [id]
  := by
  induction ids with
  | nil => rfl
  | cons id ids ih =>
      rw [← List.singleton_append, missingAt_append, ih]
      rfl

/-- What is missing in the relations of a list are their references to what is not known. -/
theorem flatMap_missingInRule_numberedRules {α : Type} {list : String} {rule : α → Rule}
    (names : α → List String) (h : ∀ x, (rule x).references = (names x).map m.resolve)
    (relations : List α) :
  (numberedRules list rule relations).flatMap (missingInRule known)
    = (relationReferences m list names relations).filter (isMissing known)
  := by
  rw [numberedRules, List.flatMap_map, relationReferences, List.filter_flatMap]
  apply List.flatMap_congr
  intro x _
  rw [missingInRule, h, missingAt_map_resolve]

/-- What is missing in a relation of a skill that is known is missing in the rest of the
relation. -/
theorem missingInRule_cons {r : Rule} {id : String} {ids : List String}
    (hr : r.references = id :: ids) (hid : id ∈ known) :
  missingInRule known (place, r) = missingAt known place ids
  := by
  rw [missingInRule, hr, missingAt, List.filter_cons_of_neg (by simpa using hid)]
  rfl

/-- What is missing in a relation of a skill to the skills of a list, if there are such. -/
theorem flatMap_missingInRule_unlessEmpty {names : List String} {id : String}
    {rule : List String → Rule} (hrule : ∀ ids, (rule ids).references = id :: ids)
    (hid : id ∈ known) :
  (unlessEmpty m.resolve names rule).flatMap (fun r => missingInRule known (place, r))
    = missingAt known place (names.map m.resolve)
  := by
  cases names with
  | nil => rfl
  | cons name names =>
      rw [unlessEmpty, List.isEmpty_cons, if_neg Bool.false_ne_true, List.flatMap_singleton,
        missingInRule_cons (hrule _) hid]

/-- What is missing in the metadata of a skill that is known are their references to what is not
known. -/
theorem missingInMetadata_eq {r : Record.Skill} (hid : r.id ∈ known) :
  missingInMetadata known m.resolve r
    = (referencesAt m (metadataPlace r) (metadataNames r)).filter (isMissing known)
  := by
  have hconflicts :
      (r.metadata.conflictsWith.map fun other => Rule.conflicts
      [r.id, m.resolve other] metadataReason).flatMap
      (fun rule => missingInRule known (metadataPlace r, rule))
        = missingAt known (metadataPlace r) (r.metadata.conflictsWith.map m.resolve) := by
    rw [List.flatMap_map, missingAt_eq_flatMap, List.flatMap_map]
    apply List.flatMap_congr
    intro other _
    apply missingInRule_cons rfl hid
  rw [missingInMetadata, metadataRules, List.flatMap_append, List.flatMap_append,
    List.flatMap_append, hconflicts, flatMap_missingInRule_unlessEmpty (fun _ => rfl) hid,
    flatMap_missingInRule_unlessEmpty (fun _ => rfl) hid,
    flatMap_missingInRule_unlessEmpty (fun _ => rfl) hid, ← missingAt_append, ← missingAt_append,
    ← missingAt_append,
    ← missingAt_append, ← List.map_append, ← List.map_append, ← List.map_append, ← List.map_append,
    missingAt_map_resolve]
  rfl

/-- The identifiers of a suggested stack are what its names stand for, each once. -/
theorem skillIds_resolveStack (s : Record.SuggestedStack) :
  (resolveStack m.resolve s).skillIds
    = Text.distinct ((s.skills.values.flatMap Table.values).map m.resolve)
  := by
  simp only [resolveStack, Table.values, Table.mapValues, List.map_map, List.map_flatMap,
    List.flatMap_map, Function.comp_def]

/-- What is missing in suggested stacks are their references to what is not known, but for
repetitions. -/
theorem distinct_append_missingInStack (refs : List Reference)
    (suggested : List Record.SuggestedStack) :
  Text.distinct (refs ++ (suggested.map (resolveStack m.resolve)).flatMap (missingInStack known))
    = Text.distinct (refs ++ (suggested.flatMap fun s =>
        referencesAt m ("suggested stack " ++ Text.inQuotes s.id)
          (s.skills.values.flatMap Table.values)).filter (isMissing known))
  := by
  induction suggested generalizing refs with
  | nil => rfl
  | cons s suggested ih =>
      have hstack : Text.distinct (refs ++ missingInStack known (resolveStack m.resolve s))
          = Text.distinct (refs ++ (referencesAt m ("suggested stack " ++ Text.inQuotes s.id)
              (s.skills.values.flatMap Table.values)).filter (isMissing known)) := by
        rw [missingInStack, skillIds_resolveStack, missingAt_eq_flatMap,
          Text.distinct_append_flatMap_distinct, ← missingAt_eq_flatMap, missingAt_map_resolve]
        rfl
      rw [List.map_cons, List.flatMap_cons, List.flatMap_cons, List.filter_append,
        ← List.append_assoc, ← List.append_assoc, ih]
      apply Text.distinct_append_congr hstack

end

/-- The references that are reported are those to identifiers that no record has, each once. -/
theorem missingReferences_eq (m : Record.Matrix) (records : List Record.Skill) :
  missingReferences m.resolve m records
    = Text.distinct ((references m records).filter (isMissing (records.map (·.id))))
  := by
  have hmetadata : records.flatMap (missingInMetadata (records.map (·.id)) m.resolve)
      = (records.flatMap fun r => referencesAt m (metadataPlace r) (metadataNames r)).filter
          (isMissing (records.map (·.id))) := by
    rw [List.filter_flatMap]
    apply List.flatMap_congr
    intro r hr
    apply missingInMetadata_eq (List.mem_map_of_mem hr)
  have hrelations : (matrixRules m.resolve m.relations).flatMap (missingInRule (records.map (·.id)))
      = (relationReferences m "conflicts" (·.skills) m.relations.conflicts ++
        relationReferences m "discourages" (·.skills) m.relations.discourages ++
        relationReferences m "requires" (fun q => q.skill :: q.needs) m.relations.requires ++
        relationReferences m "recommends" (fun q => q.skill :: q.suggest) m.relations.recommends ++
        relationReferences m "alternatives" (·.skills) m.relations.alternatives).filter
          (isMissing (records.map (·.id))) := by
    rw [matrixRules, List.flatMap_append, List.flatMap_append, List.flatMap_append,
      List.flatMap_append, flatMap_missingInRule_numberedRules Record.Conflict.skills
        (fun _ => rfl),
      flatMap_missingInRule_numberedRules Record.Discouragement.skills (fun _ => rfl),
      flatMap_missingInRule_numberedRules (fun q : Record.Requirement => q.skill :: q.needs)
        (fun _ => rfl),
      flatMap_missingInRule_numberedRules (fun q : Record.Recommendation => q.skill :: q.suggest)
        (fun _ => rfl),
      flatMap_missingInRule_numberedRules Record.Alternatives.skills (fun _ => rfl),
      List.filter_append, List.filter_append, List.filter_append, List.filter_append]
  rw [missingReferences, hrelations, hmetadata, ← List.filter_append]
  rw [distinct_append_missingInStack, ← List.filter_append]
  rfl

theorem mem_missingReferences_iff {m : Record.Matrix} {records : List Record.Skill}
    {p : Reference} :
  p ∈ missingReferences m.resolve m records ↔ p ∈ references m records ∧ p.2 ∉ records.map (·.id)
  := by
  rw [missingReferences_eq, Text.mem_distinct, List.mem_filter]
  simp [isMissing]

/-- No reference is reported exactly if all references are to identifiers of records. -/
theorem missingReferences_eq_nil_iff {m : Record.Matrix} {records : List Record.Skill} :
  missingReferences m.resolve m records = [] ↔ ∀ p ∈ references m records, p.2 ∈ records.map (·.id)
  := by
  rw [List.eq_nil_iff_forall_not_mem]
  simp only [mem_missingReferences_iff, not_and, not_not]

/-! ### Building -/

section

variable {m : Record.Matrix} {records : List Record.Skill}

/-- A record with a fault is reported before anything else. -/
theorem build_of_firstFault? {e : CatalogFault} (h : firstFault? [] records = some e) :
  build m records = .error e
  := by
  rw [build]
  simp only [h]

/-- Sound records are refused if references are missing, and then for all of these. -/
theorem build_of_missingReferences (hsound : Sound records)
    (h : missingReferences m.resolve m records ≠ []) :
  build m records = .error (.dangling (missingReferences m.resolve m records))
  := by
  have hresolve : (fun name => (m.aliases.get? name).getD name) = m.resolve := rfl
  obtain ⟨p, refs, hrefs⟩ := List.exists_cons_of_ne_nil h
  rw [build]
  simp only [firstFault?_eq_none_iff.mpr hsound, hresolve, hrefs]

/-- A catalog is built of sound records without missing references. -/
theorem exists_build (hsound : Sound records) (h : missingReferences m.resolve m records = []) :
  ∃ c, build m records = .ok c
  := by
  have hresolve : (fun name => (m.aliases.get? name).getD name) = m.resolve := rfl
  rw [build]
  simp only [firstFault?_eq_none_iff.mpr hsound, hresolve, h]
  exact ⟨_, rfl⟩

/-- The identifiers of the suggested stacks of a catalog are those of its skills. -/
theorem Built.known_of_mem_skillIds {c : Catalog} (h : Built m records c)
    (hknown : ∀ p ∈ references m records, p.2 ∈ records.map (·.id)) {e : String × SuggestedStack}
    (he : e ∈ c.suggestedStacks) {id : String} (hid : id ∈ e.2.skillIds) :
  id ∈ records.map (·.id)
  := by
  rw [h.suggestedStacks_eq] at he
  obtain ⟨t, ht, rfl⟩ := List.mem_map.mp (Table.ofList_subset _ he)
  obtain ⟨s, hs, rfl⟩ := List.mem_map.mp ht
  rw [skillIds_resolveStack, Text.mem_distinct] at hid
  obtain ⟨name, hname, rfl⟩ := List.mem_map.mp hid
  apply hknown (_, m.resolve name)
  apply List.mem_append_right
  exact List.mem_flatMap.mpr ⟨s, hs, List.mem_map.mpr ⟨name, hname, rfl⟩⟩

end

/-- A catalog is refused for the first record that repeats an identifier or gives no slug in kebab
case. If there is no such record, it is refused exactly if some reference is to an identifier that
no record has, and then for all of these references, each once, in the order in which they first
occur. Else there is a catalog. Its rules and suggested stacks speak of records only, and the rules
for an identifier are the rules that mention it, in their order. -/
theorem build_outcome (m : Record.Matrix) (records : List Record.Skill) :
  (∀ before r after, records = before ++ r :: after → Sound before →
      (r.id ∈ before.map (·.id) → build m records = .error (.duplicate r.id)) ∧
      (r.id ∉ before.map (·.id) → ¬ Slug.IsKebabCase (Slug.ofId r.id).toList →
        build m records = .error (.unnamable r.id (Slug.ofId r.id)))) ∧
    (Sound records → (∃ p ∈ references m records, p.2 ∉ records.map (·.id)) →
      ∃ refs, build m records = .error (.dangling refs) ∧ refs.Nodup ∧
        (∀ p, p ∈ refs ↔ p ∈ references m records ∧ p.2 ∉ records.map (·.id)) ∧
        refs.Pairwise fun p q => (references m records).idxOf p < (references m records).idxOf q) ∧
    (Sound records → (∀ p ∈ references m records, p.2 ∈ records.map (·.id)) →
      ∃ c, build m records = .ok c ∧
        (∀ r ∈ c.rules, ∀ id ∈ r.references, id ∈ records.map (·.id)) ∧
        (∀ e ∈ c.suggestedStacks, ∀ id ∈ e.2.skillIds, id ∈ records.map (·.id)) ∧
        ∀ x, c.resolve x = x → c.rulesFor x = c.rules.filter fun r => x ∈ r.references)
  := by
  refine ⟨?_, ?_, ?_⟩
  · rintro before r after rfl hsound
    constructor
    · intro h
      apply build_of_firstFault? (firstFault?_of_mem hsound h)
    · intro h hslug
      apply build_of_firstFault? (firstFault?_of_not_kebab hsound h hslug)
  · rintro hsound ⟨p, hp, hunknown⟩
    have hmissing : missingReferences m.resolve m records ≠ [] := by
      intro hnil
      exact hunknown (missingReferences_eq_nil_iff.mp hnil p hp)
    refine ⟨_, build_of_missingReferences hsound hmissing, Text.nodup_distinct _, ?_, ?_⟩
    · intro p
      apply mem_missingReferences_iff
    · rw [missingReferences_eq]
      apply Text.pairwise_idxOf_distinct_filter
  · intro hsound hknown
    obtain ⟨c, hbuild⟩ := exists_build hsound (missingReferences_eq_nil_iff.mpr hknown)
    have hbuilt := built_of_build hbuild
    refine ⟨c, hbuild, ?_, ?_, ?_⟩
    · intro r hr id hid
      exact List.mem_map.mpr (hbuilt.contains_iff.mp (hbuilt.contains_of_mem_references hr hid))
    · intro e he id hid
      apply hbuilt.known_of_mem_skillIds hknown he hid
    · intro x hx
      rw [rulesFor_eq_filter, hx]
      apply List.filter_congr
      intro r _
      rw [Rule.mentions, Bool.eq_iff_iff, List.contains_iff_mem, decide_eq_true_iff]

/-- Of two frameworks a catalog is built, of one of them it is not because the conflict mentions
both, and with one of them twice it is not either. -/
theorem build_outcome_frameworks :
  Sound [frameworkRecord "react", frameworkRecord "vue"] ∧
    build frameworkMatrix [frameworkRecord "react", frameworkRecord "vue", frameworkRecord "react"]
      = .error (.duplicate "react") ∧
    (∃ refs, build frameworkMatrix [frameworkRecord "react"] = .error (.dangling refs) ∧
      ("relationships.conflicts[0]", "vue") ∈ refs) ∧
    ∃ c, build frameworkMatrix [frameworkRecord "react", frameworkRecord "vue"] = .ok c ∧
      c.rulesFor "react" = c.rules.filter fun r => "react" ∈ r.references
  := by
  have hslug : ∀ id ∈ ["react", "vue"], Slug.IsKebabCase (Slug.ofId id).toList := by
    intro id hid
    apply Slug.isKebabName_ofId_iff.mp
    revert id
    decide
  have hsound : Sound [frameworkRecord "react", frameworkRecord "vue"] := by
    constructor
    · decide
    · intro r hr
      apply hslug r.id
      revert r
      decide
  have hreact : Sound [frameworkRecord "react"] := by
    constructor
    · decide
    · intro r hr
      rw [List.mem_singleton.mp hr]
      apply hslug
      apply List.mem_cons_self
  refine ⟨hsound, ?_, ?_, ?_⟩
  · apply ((build_outcome frameworkMatrix _).1 [frameworkRecord "react", frameworkRecord "vue"]
      (frameworkRecord "react") [] rfl hsound).1
    decide
  · obtain ⟨refs, hrefs, -, hmem, -⟩ :=
      (build_outcome frameworkMatrix [frameworkRecord "react"]).2.1 hreact (by decide)
    refine ⟨refs, hrefs, ?_⟩
    apply (hmem _).mpr
    decide
  · obtain ⟨c, hc, -, -, hrules⟩ := (build_outcome frameworkMatrix _).2.2 hsound (by decide)
    refine ⟨c, hc, hrules "react" ?_⟩
    rw [(built_of_build hc).resolve_eq]
    rfl

end AgentBundles.Catalog
