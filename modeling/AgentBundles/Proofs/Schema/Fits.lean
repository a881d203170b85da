import AgentBundles.Proofs.Data.Entries
import AgentBundles.Proofs.Text.Paths
import AgentBundles.Schema.Check

/-!
# Fitting a schema

When nothing in a value violates a schema, by the form of the schema: exactly if the schema accepts
the value.
-/

namespace AgentBundles.Schema

theorem violations_text_eq_nil_iff {rules : List TextRule} {v : Value} :
  violations (.text rules) v = [] ↔ ∃ s, v = .str s ∧ ∀ r ∈ rules, r.violations (.str s) = []
  := by
  rw [violations.eq_def]
  cases v with
  | str s => simp only [List.nil_append, List.flatMap_eq_nil_iff, Value.str.injEq, exists_eq_left']
  | _ => simp [wrongType]

theorem violations_list_eq_nil_iff {notEmpty : Bool} {item : Schema} {v : Value} :
  violations (.list notEmpty item) v = []
    ↔ ∃ items, v.items? = some items ∧ (notEmpty && items.isEmpty) = false ∧
    ∀ i ∈ items, violations item i = []
  := by
  rw [violations]
  cases hitems : v.items? with
  | none =>
      constructor
      · intro h
        cases h
      · rintro ⟨items, h, -⟩
        cases h
  | some items =>
      have hindexed :
          (∀ p ∈ items.zipIdx, (violations item p.1).map (Violation.under (natText p.2)) = [])
          ↔ ∀ i ∈ items, violations item i = [] := by
        constructor
        · intro h i hi
          rw [← List.zipIdx_map_fst 0 items] at hi
          obtain ⟨p, hp, rfl⟩ := List.mem_map.mp hi
          apply List.map_eq_nil_iff.mp (h p hp)
        · intro h p hp
          rw [List.map_eq_nil_iff]
          apply h
          rw [← List.zipIdx_map_fst 0 items]
          exact List.mem_map.mpr ⟨p, hp, rfl⟩
      simp only [List.append_eq_nil_iff, List.flatMap_eq_nil_iff, hindexed, Option.some.injEq,
        exists_eq_left']
      cases notEmpty && items.isEmpty with
      | true => simp
      | false => simp

theorem missingFields_eq_nil_iff {entries : Entries} {needed : List String} :
  missingFields entries needed = [] ↔ ∀ name ∈ needed, (entries.field? name).isSome = true
  := by
  simp [missingFields, Option.isSome_iff_ne_none]

theorem fieldViolations_eq_nil_iff {fields : List (String × Schema)} {v : Value} :
  fieldViolations fields v = [] ↔ ∀ f ∈ fields, ∀ w, v.field? f.1 = some w → violations f.2 w = []
  := by
  induction fields with
  | nil => simp [fieldViolations]
  | cons f rest ih =>
      obtain ⟨name, s⟩ := f
      rw [fieldViolations, List.append_eq_nil_iff, ih, List.forall_mem_cons]
      cases v.field? name with
      | none => simp
      | some w => simp

/-- Keys are forbidden in a record that may have no others exactly if the schema does not name
them. -/
theorem forbiddenKeys_eq_nil_iff {others : OtherFields} {entries : Entries} {names : List String} :
  forbiddenKeys others entries names = []
    ↔ (others = .forbidden → ∀ e ∈ entries, ∃ name ∈ names, e.1 = .str name)
  := by
  have hnone : otherKeys entries names = [] ↔ ∀ e ∈ entries, ∃ name ∈ names, e.1 = .str name := by
    rw [otherKeys, ← List.length_eq_zero_iff, List.length_mergeSort, List.length_eq_zero_iff,
      List.filter_eq_nil_iff, List.forall_mem_map]
    simp only [Bool.not_eq_true', Bool.not_eq_false, List.any_eq_true, Entries.sameKey_str_iff]
  cases others with
  | forbidden =>
      rw [← hnone, forbiddenKeys.eq_def]
      cases otherKeys entries names with
      | nil => simp
      | cons k ks =>
          cases ks with
          | nil => simp
          | cons k' ks => simp
  | _ => simp [forbiddenKeys]

/-- Nothing is forbidden in a record that only has fields that the schema names. -/
theorem forbiddenKeys_eq_nil {others : OtherFields} {entries : Entries} {names : List String}
    (h : ∀ e ∈ entries, ∃ name ∈ names, e.1 = .str name) :
  forbiddenKeys others entries names = []
  := forbiddenKeys_eq_nil_iff.mpr fun _ => h

theorem violations_record_eq_nil_iff {needed : List String} {fields : List (String × Schema)}
    {others : OtherFields} {v : Value} :
  violations (.record needed fields others) v = []
    ↔ ∃ entries, v = .map entries ∧ (∀ name ∈ needed, (Entries.field? entries name).isSome = true) ∧
      (∀ f ∈ fields, ∀ w, v.field? f.1 = some w → violations f.2 w = []) ∧
      forbiddenKeys others entries (fields.map (·.1)) = []
  := by
  rw [violations.eq_def]
  cases v with
  | map entries =>
      simp only [List.append_eq_nil_iff, missingFields_eq_nil_iff, fieldViolations_eq_nil_iff,
        and_assoc, Value.map.injEq, exists_eq_left']
  | _ => simp [wrongType]

theorem violations_dictionary_eq_nil_iff {value : Schema} {v : Value} :
  violations (.dictionary value) v = []
    ↔ ∃ entries, v.entries? = some entries ∧ entries ≠ [] ∧ ∀ e ∈ entries, violations value e.2 = []
  := by
  rw [violations]
  cases v.entries? with
  | none => simp
  | some entries =>
      cases entries with
      | nil => simp
      | cons e rest =>
          simp only [List.isEmpty_cons, Bool.false_eq_true, if_false, List.nil_append,
            List.flatMap_eq_nil_iff, List.map_eq_nil_iff, Option.some.injEq, exists_eq_left', ne_eq,
            reduceCtorEq, not_false_eq_true, true_and]

theorem mem_fitting {choices : List Schema} {v : Value} {s : Schema} :
  s ∈ fitting choices v ↔ s ∈ choices ∧ violations s v = []
  := by
  induction choices with
  | nil => simp [fitting]
  | cons c rest ih =>
      rw [fitting]
      split
      · rename_i hfits
        rw [List.isEmpty_iff] at hfits
        rw [List.mem_cons, List.mem_cons, ih]
        constructor
        · rintro (rfl | ⟨hmem, hs⟩)
          · exact ⟨Or.inl rfl, hfits⟩
          · exact ⟨Or.inr hmem, hs⟩
        · rintro ⟨rfl | hmem, hs⟩
          · exact Or.inl rfl
          · exact Or.inr ⟨hmem, hs⟩
      · rename_i hfits
        rw [List.isEmpty_iff] at hfits
        rw [List.mem_cons, ih]
        constructor
        · rintro ⟨hmem, hs⟩
          exact ⟨Or.inr hmem, hs⟩
        · rintro ⟨rfl | hmem, hs⟩
          · exact absurd hs hfits
          · exact ⟨hmem, hs⟩

theorem violations_anyOf_eq_nil_iff {choices : List Schema} {v : Value} :
  violations (.anyOf choices) v = [] ↔ ∃ s ∈ choices, violations s v = []
  := by
  rw [violations]
  cases hfitting : fitting choices v with
  | nil =>
      constructor
      · intro h
        cases h
      · rintro ⟨s, hmem, hs⟩
        have hnone : s ∈ fitting choices v := mem_fitting.mpr ⟨hmem, hs⟩
        rw [hfitting] at hnone
        cases hnone
  | cons s rest =>
      constructor
      · intro _
        have hmem : s ∈ fitting choices v := by
          rw [hfitting]
          apply List.mem_cons_self
        exact ⟨s, mem_fitting.mp hmem⟩
      · intro _
        rfl

/-- Of two schemas a value fits exactly one. -/
theorem violations_exactlyOneOf_pair_eq_nil_iff {s s' : Schema} {v : Value} :
  violations (.exactlyOneOf [s, s']) v = []
    ↔ violations s v = [] ∧ violations s' v ≠ [] ∨ violations s' v = [] ∧ violations s v ≠ []
  := by
  rw [violations]
  by_cases h : violations s v = []
  · by_cases h' : violations s' v = []
    · simp [fitting, h, h']
    · simp [fitting, h, h']
  · by_cases h' : violations s' v = []
    · simp [fitting, h, h']
    · simp [fitting, h, h']

/-! ### What a schema accepts -/

end Schema

/-- What a rule asks of a text. -/
def TextRule.Accepts : TextRule → String → Prop
  | .notEmpty, s => s ≠ ""
  | .relativePath, s => ∃ path, s = "./" ++ path
  | .oneOf choices, s => s ∈ choices

theorem TextRule.violations_eq_nil_iff {r : TextRule} {s : String} :
  r.violations (.str s) = [] ↔ r.Accepts s
  := by
  cases r with
  | notEmpty => simp [violations, Accepts]
  | relativePath => simp [violations, Accepts, Text.startsWith_eq_true_iff]
  | oneOf choices => simp [violations, Accepts]

namespace Schema

mutual

/-- What a schema asks of a value. -/
def Accepts : Schema → Value → Prop
  | .text rules, v => ∃ s, v = .str s ∧ ∀ r ∈ rules, r.Accepts s
  | .quantity, v => (∃ n, v = .int n ∧ 0 ≤ n) ∨ ∃ x, v = .float x ∧
      (x.isNegative = true → x.isZero = true)
  | .list notEmpty item, v =>
    ∃ items, v.items? = some items ∧ (notEmpty = true → items ≠ []) ∧ ∀ i ∈ items, Accepts item i
  | .record needed fields others, v =>
    ∃ entries, v = .map entries ∧ (∀ name ∈ needed, (Entries.field? entries name).isSome = true) ∧
      AcceptsFields fields v ∧ (others = .forbidden → ∀ e ∈ entries, ∃ name ∈ fields.map (·.1),
        e.1 = .str name)
  | .dictionary value, v =>
    ∃ entries, v.entries? = some entries ∧ entries ≠ [] ∧ ∀ e ∈ entries, Accepts value e.2
  | .anyOf choices, v => AcceptsSome choices v
  | .exactlyOneOf choices, v => AcceptsOne choices v
  | .noted _ s, v => Accepts s v
  | .definition _ s, v => Accepts s v

/-- What the schemas of fields ask of a record: those of its fields that are there are accepted. -/
def AcceptsFields : List (String × Schema) → Value → Prop
  | [], _ => True
  | (name, s) :: rest, whole => (∀ v, whole.field? name = some v → Accepts s v) ∧
      AcceptsFields rest whole

/-- At least one of some schemas accepts a value. -/
def AcceptsSome : List Schema → Value → Prop
  | [], _ => False
  | s :: rest, v => Accepts s v ∨ AcceptsSome rest v

/-- Exactly one of some schemas accepts a value. -/
def AcceptsOne : List Schema → Value → Prop
  | [], _ => False
  | s :: rest, v => (Accepts s v ∧ ¬ AcceptsSome rest v) ∨ (¬ Accepts s v ∧ AcceptsOne rest v)

end

mutual

/-- Nothing in a value violates a schema exactly if the schema accepts the value. -/
theorem violations_eq_nil_iff : (s : Schema) → (v : Value) → (violations s v = [] ↔ s.Accepts v)
  | .text rules, v => by
      rw [violations_text_eq_nil_iff, Accepts]
      simp only [TextRule.violations_eq_nil_iff]
  | .quantity, v => by
      cases v <;> simp [violations, Accepts, isNegative]
  | .list notEmpty item, v => by
      rw [violations_list_eq_nil_iff, Accepts]
      simp only [violations_eq_nil_iff item]
      simp
  | .record needed fields others, v => by
      rw [violations_record_eq_nil_iff, Accepts, ← fieldViolations_eq_nil_iff,
        acceptsFields_iff fields v]
      simp only [forbiddenKeys_eq_nil_iff]
  | .dictionary value, v => by
      rw [violations_dictionary_eq_nil_iff, Accepts]
      simp only [violations_eq_nil_iff value]
  | .anyOf choices, v => by
      have hnil := fitting_eq_nil_iff choices v
      rw [violations, Accepts]
      cases hfitting : fitting choices v with
      | nil =>
          have hnone := hnil.mp hfitting
          simp [hnone]
      | cons s rest =>
          rw [hfitting] at hnil
          have hsome : AcceptsSome choices v := by
            by_contra hnone
            cases hnil.mpr hnone
          simp [hsome]
  | .exactlyOneOf choices, v => by
      rw [violations, Accepts, ← fitting_eq_singleton_iff choices v]
      cases fitting choices v with
      | nil => simp
      | cons s rest =>
          cases rest with
          | nil => simp
          | cons s' rest => simp
  | .noted _ s, v => by
      rw [violations, Accepts]
      apply violations_eq_nil_iff s
  | .definition _ s, v => by
      rw [violations, Accepts]
      apply violations_eq_nil_iff s

theorem acceptsFields_iff : (fields : List (String × Schema)) → (v : Value) →
    (fieldViolations fields v = [] ↔ AcceptsFields fields v)
  | [], v => by simp [fieldViolations, AcceptsFields]
  | (name, s) :: rest, v => by
      rw [fieldViolations, AcceptsFields, List.append_eq_nil_iff, acceptsFields_iff rest v]
      cases v.field? name with
      | none => simp
      | some w => simp [violations_eq_nil_iff s w]

theorem fitting_eq_nil_iff : (choices : List Schema) → (v : Value) →
    (fitting choices v = [] ↔ ¬ AcceptsSome choices v)
  | [], v => by simp [fitting, AcceptsSome]
  | s :: rest, v => by
      rw [fitting, AcceptsSome, ← violations_eq_nil_iff s v, not_or, ← fitting_eq_nil_iff rest v]
      cases violations s v with
      | nil => simp
      | cons x xs => simp

theorem fitting_eq_singleton_iff : (choices : List Schema) → (v : Value) →
    ((∃ s, fitting choices v = [s]) ↔ AcceptsOne choices v)
  | [], v => by simp [fitting, AcceptsOne]
  | s :: rest, v => by
      rw [fitting, AcceptsOne, ← violations_eq_nil_iff s v, ← fitting_eq_nil_iff rest v,
        ← fitting_eq_singleton_iff rest v]
      cases violations s v with
      | nil => simp
      | cons x xs => simp

end

theorem acceptsFields_iff_forall {fields : List (String × Schema)} {v : Value} :
  AcceptsFields fields v ↔ ∀ f ∈ fields, ∀ w, v.field? f.1 = some w → f.2.Accepts w
  := by
  rw [← acceptsFields_iff, fieldViolations_eq_nil_iff]
  simp only [violations_eq_nil_iff]

/-- The fields of a record that a schema accepts are accepted by the schemas of the fields. -/
theorem accepts_field {needed : List String} {fields : List (String × Schema)}
    {others : OtherFields} {v w : Value} {name : String} {s : Schema}
    (h : (record needed fields others).Accepts v) (hmem : (name, s) ∈ fields)
    (hfield : v.field? name = some w) :
  s.Accepts w
  := by
  rw [Accepts] at h
  obtain ⟨-, -, -, hfields, -⟩ := h
  apply acceptsFields_iff_forall.mp hfields _ hmem _ hfield

/-- A record that a schema accepts has the fields that the schema needs. -/
theorem accepts_needed {needed : List String} {fields : List (String × Schema)}
    {others : OtherFields} {v : Value} {name : String} (h : (record needed fields others).Accepts v)
    (hmem : name ∈ needed) :
  ∃ w, v.field? name = some w
  := by
  rw [Accepts] at h
  obtain ⟨entries, rfl, hneeded, -⟩ := h
  obtain ⟨w, hw⟩ := Option.isSome_iff_exists.mp (hneeded _ hmem)
  rw [Value.field?, hw]
  exact ⟨_, rfl⟩

end Schema

/-- A document has no issue if nothing in it violates its schema. -/
theorem DocumentSchema.violations_eq_nil_iff {d : DocumentSchema} {v : Value} :
  d.violations v = [] ↔ d.schema.violations v = []
  := by
  rw [DocumentSchema.violations, ← List.length_eq_zero_iff, List.length_mergeSort,
    List.length_eq_zero_iff]

end AgentBundles
