import AgentBundles.Bundle.Manifest
import AgentBundles.Proofs.Schema.Fits
import AgentBundles.Schema.Library

/-!
# Reading what fits a schema

A decoder and a schema are separate descriptions of one form of value. Here we show that what fits
the schema of manifests can be read as a manifest, from the same fact about the fields.
-/

namespace AgentBundles

open Schema

/-- What fits a schema can be read. -/
def Schema.Admits {α : Type} (s : Schema) (d : Record.Decoder α) : Prop :=
  ∀ {v : Value}, s.violations v = [] → ∃ x, d v = .done x

namespace Record

variable {α β : Type} {s : Schema} {d : Decoder α}

theorem admits_string (rules : List TextRule) :
  (Schema.text rules).Admits string
  := by
  intro v hv
  obtain ⟨t, rfl, -⟩ := violations_text_eq_nil_iff.mp hv
  exact ⟨t, rfl⟩

/-- What may be missing can be read if what is there can be. -/
theorem admits_optional (h : s.Admits d) :
  s.Admits (optional d)
  := by
  intro v hv
  obtain ⟨x, hx⟩ := h hv
  cases v with
  | null => exact ⟨none, rfl⟩
  | _ =>
      refine ⟨some x, ?_⟩
      rw [optional, hx]
      · rfl
      · intro heq
        cases heq

theorem exists_numbered {vs : List Value} (h : ∀ v ∈ vs, ∃ x, d v = .done x) :
  ∃ xs, numbered d vs = .done xs
  := by
  have hall : ∀ n, ∃ xs, Decoded.all ((vs.zipIdx n).map fun v => (d v.1).under (natText v.2))
      = .done xs := by
    induction vs with
    | nil =>
        intro n
        exact ⟨[], rfl⟩
    | cons v vs ih =>
        intro n
        obtain ⟨⟨x, hx⟩, hvs⟩ := List.forall_mem_cons.mp h
        obtain ⟨xs, hxs⟩ := ih hvs (n + 1)
        refine ⟨x :: xs, ?_⟩
        rw [List.zipIdx_cons, List.map_cons, Decoded.all, hxs, hx]
        rfl
  apply hall 0

theorem admits_tuple (h : s.Admits d) (notEmpty : Bool) :
  (Schema.list notEmpty s).Admits (tuple d)
  := by
  intro v hv
  obtain ⟨items, hitems, -, hall⟩ := violations_list_eq_nil_iff.mp hv
  have hmembers : v.members? = some items := by
    cases v with
    | list vs => apply hitems
    | _ => cases hitems
  rw [tuple, hmembers]
  apply exists_numbered
  intro i hi
  apply h (hall i hi)

theorem admits_noted (h : s.Admits d) (note : String) :
  (Schema.noted note s).Admits d
  := by
  intro v hv
  rw [violations] at hv
  apply h hv

/-! ### Records -/

theorem map_eq_done_iff {f : α → β} {x : Decoded α} {b : β} :
  f <$> x = .done b ↔ ∃ a, x = .done a ∧ f a = b
  := by
  cases x with
  | done a =>
      constructor
      · intro h
        cases h
        exact ⟨a, rfl, rfl⟩
      · rintro ⟨_, ⟨⟩, rfl⟩
        rfl
  | defective ds =>
      constructor
      · intro h
        cases h
      · rintro ⟨_, h, -⟩
        cases h

theorem seq_eq_done_iff {f : Decoded (α → β)} {x : Decoded α} {b : β} :
  f <*> x = .done b ↔ ∃ g a, f = .done g ∧ x = .done a ∧ g a = b
  := by
  constructor
  · intro h
    cases f with
    | done g =>
        cases x with
        | done a =>
            cases h
            exact ⟨g, a, rfl, rfl, rfl⟩
        | defective ds => cases h
    | defective cs =>
        cases x with
        | done a => cases h
        | defective ds => cases h
  · rintro ⟨g, a, rfl, rfl, rfl⟩
    rfl

theorem exists_map {f : α → β} {x : Decoded α} (hx : ∃ a, x = .done a) :
  ∃ b, f <$> x = .done b
  := by
  obtain ⟨a, rfl⟩ := hx
  exact ⟨f a, rfl⟩

theorem exists_seq {f : Decoded (α → β)} {x : Decoded α} (hf : ∃ g, f = .done g)
    (hx : ∃ a, x = .done a) :
  ∃ b, f <*> x = .done b
  := by
  obtain ⟨g, rfl⟩ := hf
  obtain ⟨a, rfl⟩ := hx
  exact ⟨g a, rfl⟩

section Fields

variable {v w : Value} {name : String} {x fallback : α}

theorem required_of_field (hfield : v.field? name = some w) (hw : d w = .done x) :
  required v name d = .done x
  := by
  rw [required, hfield]
  dsimp only
  rw [hw]
  rfl

theorem withDefault_of_field (hfield : v.field? name = some w) (hw : d w = .done x) :
  withDefault v name fallback d = .done x
  := by
  rw [withDefault, hfield]
  dsimp only
  rw [hw]
  rfl

theorem withDefault_of_none (hfield : v.field? name = none) :
  withDefault v name fallback d = .done fallback
  := by
  rw [withDefault, hfield]

end Fields

/-- The fields of a record fit, as far as they are there. -/
def FieldsFit (v : Value) (fields : List (String × Schema)) : Prop :=
  ∀ f ∈ fields, ∀ w, v.field? f.1 = some w → f.2.violations w = []

section FieldsFit

variable {v : Value} {fields : List (String × Schema)} (hfields : FieldsFit v fields)

include hfields

theorem FieldsFit.violations_eq_nil {name : String} (hlookup : fields.lookup name = some s)
    {w : Value} (hw : v.field? name = some w) :
  s.violations w = []
  := by
  have hmem : (name, s) ∈ fields := by
    obtain ⟨before, after, rfl, -⟩ := List.lookup_eq_some_iff.mp hlookup
    exact List.mem_append_right _ List.mem_cons_self
  apply hfields _ hmem w hw

theorem exists_withDefault (name : String) (hlookup : fields.lookup name = some s) (h : s.Admits d)
    (fallback : α) :
  ∃ x, withDefault v name fallback d = .done x
  := by
  cases hfield : v.field? name with
  | none => exact ⟨fallback, withDefault_of_none hfield⟩
  | some w =>
      obtain ⟨x, hx⟩ := h (hfields.violations_eq_nil hlookup hfield)
      exact ⟨x, withDefault_of_field hfield hx⟩

theorem exists_required (name : String) (hlookup : fields.lookup name = some s) (h : s.Admits d)
    (hthere : (v.field? name).isSome = true) :
  ∃ x, required v name d = .done x
  := by
  obtain ⟨w, hfield⟩ := Option.isSome_iff_exists.mp hthere
  obtain ⟨x, hx⟩ := h (hfields.violations_eq_nil hlookup hfield)
  exact ⟨x, required_of_field hfield hx⟩

end FieldsFit

/-- A record is read field by field if its fields fit. -/
theorem admits_fields {needed : List String} {fields : List (String × Schema)}
    {others : OtherFields} {read : Decoder α}
    (h : ∀ {v : Value}, FieldsFit v fields → (∀ name ∈ needed, (v.field? name).isSome = true) → ∃ x,
      read v = .done x) :
  (Schema.record needed fields others).Admits (Record.fields read)
  := by
  intro v hv
  obtain ⟨entries, rfl, hneeded, hfields, -⟩ := violations_record_eq_nil_iff.mp hv
  apply h hfields
  intro name hname
  rw [Value.field?, Option.isSome_map]
  apply hneeded name hname

/-! ### Manifests -/

theorem admits_optionalText :
  anyText.Admits (optional string)
  := admits_optional (admits_string [])

theorem admits_author (others : OtherFields) :
  (Schema.record ["name"] [("name", someText), ("email", anyText), ("url", anyText)] others).Admits
    author
  := by
  apply admits_fields
  intro v hfields hneeded
  have hname :=
    exists_required hfields "name" rfl (admits_string [.notEmpty]) (hneeded _ List.mem_cons_self)
  have hemail := exists_withDefault hfields "email" rfl admits_optionalText none
  apply exists_seq (exists_map hname) hemail

/-- What fits the schema of manifests can be read as a manifest. -/
theorem admits_manifest :
  Schema.plugin.schema.Admits manifest
  := by
  have hpath : ∀ note, (relativePath note).Admits (optional string) := by
    intro note
    apply admits_noted (admits_optional (admits_string [.relativePath]))
  apply admits_fields
  intro v hfields hneeded
  have hname := exists_required hfields "name" rfl (admits_noted (admits_string [.notEmpty]) _)
    (hneeded _ List.mem_cons_self)
  have hversion := exists_withDefault hfields "version" rfl (admits_noted (admits_string []) _)
    Manifest.defaultVersion
  have hdescription := exists_withDefault hfields "description" rfl admits_optionalText none
  have hauthor :=
    exists_withDefault hfields "author" rfl (admits_optional (admits_author .forbidden)) none
  have hlicense :=
    exists_withDefault hfields "license" rfl (admits_string []) Manifest.defaultLicense
  have hkeywords :=
    exists_withDefault hfields "keywords" rfl (admits_tuple (admits_string []) false) []
  have hskills := exists_withDefault hfields "skills" rfl (hpath _) none
  have hagents := exists_withDefault hfields "agents" rfl (hpath _) none
  have hhooks := exists_withDefault hfields "hooks" rfl (hpath _) none
  apply exists_seq _ hhooks
  apply exists_seq _ hagents
  apply exists_seq _ hskills
  apply exists_seq _ hkeywords
  apply exists_seq _ hlicense
  apply exists_seq _ hauthor
  apply exists_seq _ hdescription
  apply exists_seq (exists_map hname) hversion

/-- The name in a manifest is the one that it was read from. -/
theorem name_of_manifest {v : Value} {m : Manifest} (h : manifest v = .done m) {name : String}
    (hfield : v.field? "name" = some (.str name)) :
  m.name = name
  := by
  cases v with
  | map entries =>
      have hname : required (.map entries) "name" string = .done name :=
        required_of_field hfield rfl
      obtain ⟨_, _, h₁, -, rfl⟩ := seq_eq_done_iff.mp h
      obtain ⟨_, _, h₂, -, rfl⟩ := seq_eq_done_iff.mp h₁
      obtain ⟨_, _, h₃, -, rfl⟩ := seq_eq_done_iff.mp h₂
      obtain ⟨_, _, h₄, -, rfl⟩ := seq_eq_done_iff.mp h₃
      obtain ⟨_, _, h₅, -, rfl⟩ := seq_eq_done_iff.mp h₄
      obtain ⟨_, _, h₆, -, rfl⟩ := seq_eq_done_iff.mp h₅
      obtain ⟨_, _, h₇, -, rfl⟩ := seq_eq_done_iff.mp h₆
      obtain ⟨_, _, h₈, -, rfl⟩ := seq_eq_done_iff.mp h₇
      obtain ⟨t, ht, rfl⟩ := map_eq_done_iff.mp h₈
      rw [hname] at ht
      cases ht
      rfl
  | _ => cases h

end Record

end AgentBundles
