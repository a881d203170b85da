import AgentBundles.Proofs.Json.Reread
import AgentBundles.Proofs.Schema.Fits
import AgentBundles.Schema.Library

/-!
# Schemas of values that are read back

A value that fits an open schema still fits it when its text is read. A mapping that is made of
fields with different names fits the schema of a record if its fields fit theirs.
-/

namespace AgentBundles

namespace Schema

open Json

/-- Schemas that ask for fields by names that are the text of no other key, and do not ask that
anything is absent. -/
inductive Open : Schema → Prop where
  | text (rules : List TextRule) : Open (.text rules)
  | quantity : Open .quantity
  | list (notEmpty : Bool) {item : Schema} : Open item → Open (.list notEmpty item)
  | record {needed : List String} {fields : List (String × Schema)} {others : OtherFields} :
      (∀ name ∈ needed, isFieldName name = true) → (∀ f ∈ fields, isFieldName f.1 = true) →
      (∀ f ∈ fields, Open f.2) → others ≠ .forbidden → Open (.record needed fields others)
  | dictionary {value : Schema} : Open value → Open (.dictionary value)
  | anyOf {choices : List Schema} : (∀ s ∈ choices, Open s) → Open (.anyOf choices)
  | noted (note : String) {s : Schema} : Open s → Open (.noted note s)
  | definition (name : String) {s : Schema} : Open s → Open (.definition name s)

/-- A quantity is read back as a quantity. -/
theorem violations_quantity_reread {v : Value} (hfits : violations .quantity v = []) :
  violations .quantity (reread v) = []
  := by
  cases v with
  | int n => apply hfits
  | float x =>
      have hx : isNegative (.float x) = false := by
        cases h : isNegative (.float x) with
        | false => rfl
        | true =>
            rw [violations, h] at hfits
            cases hfits
      rw [reread, violations, isNegative_floatBack hx]
      rfl
  | _ => cases hfits

/-- A list of items that fit when they are read back is read back as such a list. -/
theorem violations_list_reread {notEmpty : Bool} {item : Schema} {items : List Value}
    (hv : unwritable? (.list items) = none)
    (hitems : ∀ i ∈ items, violations item i = [] → violations item (reread i) = [])
    (hfits : violations (.list notEmpty item) (.list items) = []) :
  violations (.list notEmpty item) (reread (.list items)) = []
  := by
  have hback := unwritable?_reread hv
  rw [reread, rereadItems_eq_map] at hback ⊢
  rw [violations_list_eq_nil_iff, Value.items?_list hv] at hfits
  rw [violations_list_eq_nil_iff, Value.items?_list hback]
  obtain ⟨_, heq, hempty, hfits⟩ := hfits
  cases heq
  refine ⟨_, rfl, ?_, ?_⟩
  · rw [List.isEmpty_map]
    apply hempty
  · rw [List.forall_mem_map]
    intro i hi
    apply hitems i hi (hfits i hi)

/-- A mapping to values that fit when they are read back is read back as such a mapping. -/
theorem violations_dictionary_reread {value : Schema} {entries : Entries}
    (hv : unwritable? (.map entries) = none)
    (hvalues : ∀ e ∈ entries, violations value e.2 = [] → violations value (reread e.2) = [])
    (hfits : violations (.dictionary value) (.map entries) = []) :
  violations (.dictionary value) (reread (.map entries)) = []
  := by
  have hback := unwritable?_reread hv
  rw [reread, rereadEntries_eq_map] at hback ⊢
  rw [violations_dictionary_eq_nil_iff, Value.entries?_map hv] at hfits
  rw [violations_dictionary_eq_nil_iff, Value.entries?_map hback]
  obtain ⟨_, heq, hempty, hfits⟩ := hfits
  cases heq
  refine ⟨_, rfl, ?_, ?_⟩
  · apply Entries.ofList_ne_nil
    intro hnil
    apply hempty (List.map_eq_nil_iff.mp hnil)
  · intro e he
    obtain ⟨-, ⟨p, hp, hvalue⟩⟩ := Entries.mem_ofList he
    obtain ⟨d, hd, rfl⟩ := List.mem_map.mp hp
    rw [← hvalue]
    apply hvalues d hd (hfits d hd)

/-- A mapping whose fields fit when they are read back is read back as such a record. -/
theorem violations_record_reread {needed : List String} {fields : List (String × Schema)}
    {others : OtherFields} {v : Value} (hv : unwritable? v = none) (hkeyed : v.Keyed)
    (hneeded : ∀ name ∈ needed, isFieldName name = true)
    (hnames : ∀ f ∈ fields, isFieldName f.1 = true) (hothers : others ≠ .forbidden)
    (hfields : ∀ f ∈ fields, ∀ w, v.field? f.1 = some w → violations f.2 (reread w) = [])
    (hfits : violations (.record needed fields others) v = []) :
  violations (.record needed fields others) (reread v) = []
  := by
  obtain ⟨entries, rfl, hmissing, -, -⟩ := violations_record_eq_nil_iff.mp hfits
  have hback := unwritable?_reread hv
  rw [violations_record_eq_nil_iff]
  refine ⟨_, rfl, ?_, ?_, ?_⟩
  · intro name hname
    have hfield := field?_reread hv hkeyed (fieldName_of_isFieldName (hneeded name hname))
    rw [reread] at hback hfield
    rw [Value.field?_map hv, Value.field?_map hback] at hfield
    rw [hfield, Option.isSome_map]
    apply hmissing name hname
  · intro f hf w hw
    rw [field?_reread hv hkeyed (fieldName_of_isFieldName (hnames f hf)),
      Option.map_eq_some_iff] at hw
    obtain ⟨w', hw', rfl⟩ := hw
    apply hfields f hf w' hw'
  · cases others with
    | forbidden => exact absurd rfl hothers
    | _ => rfl

/-- What fits an open schema still fits it when it is read back. -/
theorem violations_reread {s : Schema} (hs : Open s) {v : Value} (hv : unwritable? v = none)
    (hkeyed : v.Keyed) (hfits : violations s v = []) :
  violations s (reread v) = []
  := by
  induction hs generalizing v with
  | text rules =>
      obtain ⟨t, rfl, -⟩ := violations_text_eq_nil_iff.mp hfits
      apply hfits
  | quantity => apply violations_quantity_reread hfits
  | list notEmpty hitem ih =>
      cases v with
      | list items =>
          apply violations_list_reread hv _ hfits
          intro i hi
          exact ih (unwritableItem?_eq_none_iff.mp hv i hi) (Value.keyedItems_iff.mp hkeyed i hi)
      | _ => cases hfits
  | record hneeded hnames hfields hothers ih =>
      apply violations_record_reread hv hkeyed hneeded hnames hothers _ hfits
      obtain ⟨entries, rfl, -, hfits', -⟩ := violations_record_eq_nil_iff.mp hfits
      intro f hf w hw
      have hmem := hw
      rw [Value.field?_map hv, Entries.field?_eq_some_iff hkeyed.1] at hmem
      apply ih f hf _ _ (hfits' f hf w hw)
      · exact (unwritableField?_eq_none_iff.mp hv _ hmem).2
      · exact Value.keyedEntries_iff.mp hkeyed.2 _ hmem
  | dictionary hvalue ih =>
      cases v with
      | map entries =>
          apply violations_dictionary_reread hv _ hfits
          intro e he
          exact ih (unwritableField?_eq_none_iff.mp hv e he).2
            (Value.keyedEntries_iff.mp hkeyed.2 e he)
      | _ => cases hfits
  | anyOf hchoices ih =>
      obtain ⟨c, hc, hfits⟩ := violations_anyOf_eq_nil_iff.mp hfits
      rw [violations_anyOf_eq_nil_iff]
      exact ⟨c, hc, ih c hc hv hkeyed hfits⟩
  | noted note hs ih =>
      rw [violations] at hfits ⊢
      apply ih hv hkeyed hfits
  | definition name hs ih =>
      rw [violations] at hfits ⊢
      apply ih hv hkeyed hfits

theorem open_action :
  Open action
  := by
  apply Open.record (by decide) (by decide) _ (by decide)
  intro f hf
  simp only [List.mem_cons, List.not_mem_nil, or_false] at hf
  rcases hf with rfl | rfl | rfl | rfl
  · apply Open.text
  · apply Open.text
  · apply Open.text
  · apply Open.quantity

theorem open_matcher :
  Open matcher
  := by
  apply Open.record (by decide) (by decide) _ (by decide)
  intro f hf
  simp only [List.mem_cons, List.not_mem_nil, or_false] at hf
  rcases hf with rfl | rfl
  · apply Open.text
  · apply Open.list true (Open.definition "action" open_action)

theorem open_hooks :
  Open hooks.schema
  := by
  apply Open.record (by decide) (by decide) _ (by decide)
  intro f hf
  rw [List.mem_singleton.mp hf]
  apply Open.dictionary (Open.list false (Open.definition "matcher" open_matcher))

end Schema

/-! ### Records -/

/-- Fields with different names, whose values can be written. -/
structure Fields (fields : List (String × Value)) : Prop where
  nodup : (fields.map (·.1)).Nodup
  unwritable?_eq_none : ∀ f ∈ fields, Json.unwritable? f.2 = none

namespace Fields

variable {fields : List (String × Value)} (h : Fields fields)

include h

theorem unwritable?_ofFields :
  Json.unwritable? (.ofFields fields) = none
  := by
  rw [Value.ofFields, Json.unwritable?, Json.unwritableField?_eq_none_iff, List.forall_mem_map]
  intro f hf
  exact ⟨rfl, h.unwritable?_eq_none f hf⟩

/-- A field of a record is one that it is made of. -/
theorem field?_eq_some_iff {name : String} {v : Value} :
  (Value.ofFields fields).field? name = some v ↔ (name, v) ∈ fields
  := by
  have hwritable := h.unwritable?_ofFields
  rw [Value.ofFields] at hwritable ⊢
  rw [Value.field?_map hwritable, Entries.field?_eq_some_iff (Entries.separate_of_nodup h.nodup),
    List.mem_map]
  constructor
  · rintro ⟨⟨name', v'⟩, hmem, heq⟩
    cases heq
    apply hmem
  · intro hmem
    exact ⟨(name, v), hmem, rfl⟩

theorem field?_eq_none {name : String} (hname : name ∉ fields.map (·.1)) :
  (Value.ofFields fields).field? name = none
  := by
  cases hfield : (Value.ofFields fields).field? name with
  | none => rfl
  | some v => exact absurd (List.mem_map_of_mem (h.field?_eq_some_iff.mp hfield)) hname

/-- There is one value under a name. -/
theorem eq_of_mem {name : String} {v w : Value} (hv : (name, v) ∈ fields)
    (hw : (name, w) ∈ fields) :
  v = w
  := by
  have hfield := h.field?_eq_some_iff.mpr hv
  rw [h.field?_eq_some_iff.mpr hw] at hfield
  injection hfield with hfield
  exact hfield.symm

/-- A record fits a schema if its fields do. -/
theorem violations_record_eq_nil {needed : List String} {schemas : List (String × Schema)}
    {others : OtherFields} (hneeded : ∀ name ∈ needed, ∃ v, (name, v) ∈ fields)
    (hschemas : ∀ s ∈ schemas, ∀ v, (s.1, v) ∈ fields → s.2.violations v = [])
    (hothers : others = .forbidden → ∀ f ∈ fields, f.1 ∈ schemas.map (·.1)) :
  (Schema.record needed schemas others).violations (.ofFields fields) = []
  := by
  rw [Schema.violations_record_eq_nil_iff]
  refine ⟨_, rfl, ?_, ?_, ?_⟩
  · intro name hname
    obtain ⟨v, hv⟩ := hneeded name hname
    have hfield := h.field?_eq_some_iff.mpr hv
    have hwritable := h.unwritable?_ofFields
    rw [Value.ofFields] at hfield hwritable
    rw [Value.field?_map hwritable] at hfield
    rw [hfield]
    rfl
  · intro s hs v hv
    apply hschemas s hs v (h.field?_eq_some_iff.mp hv)
  · cases others with
    | forbidden =>
        apply Schema.forbiddenKeys_eq_nil
        rw [List.forall_mem_map]
        intro f hf
        exact ⟨f.1, hothers rfl f hf, rfl⟩
    | _ => rfl

end Fields

/-! ### Values that are read back -/

/-- A value that can be written, and is read back as it is. -/
structure Json.Kept (v : Value) : Prop where
  unwritable?_eq_none : unwritable? v = none
  reread_eq : reread v = v

namespace Json

theorem kept_str (t : String) :
  Kept (.str t)
  := ⟨rfl, rfl⟩

theorem kept_list {items : List Value} (h : ∀ v ∈ items, Kept v) :
  Kept (.list items)
  := by
  constructor
  · rw [unwritable?, unwritableItem?_eq_none_iff]
    intro v hv
    exact (h v hv).unwritable?_eq_none
  · rw [reread, rereadItems_eq_map, Value.map_eq_self]
    intro v hv
    exact (h v hv).reread_eq

theorem fields_of_kept {fields : List (String × Value)} (hnodup : (fields.map (·.1)).Nodup)
    (h : ∀ f ∈ fields, Kept f.2) :
  Fields fields
  := ⟨hnodup, fun f hf => (h f hf).unwritable?_eq_none⟩

theorem kept_ofFields {fields : List (String × Value)} (hnodup : (fields.map (·.1)).Nodup)
    (h : ∀ f ∈ fields, Kept f.2) :
  Kept (.ofFields fields)
  := by
  constructor
  · apply (fields_of_kept hnodup h).unwritable?_ofFields
  · apply reread_ofFields hnodup
    intro f hf
    exact (h f hf).reread_eq

theorem kept_ofStrings (ts : List String) :
  Kept (.ofStrings ts)
  := by
  apply kept_list
  rw [List.forall_mem_map]
  intro t _
  apply kept_str

end Json

/-! ### Texts -/

theorem violations_anyText (t : String) :
  Schema.anyText.violations (.str t) = []
  := rfl

theorem violations_textOrTexts (t : String) :
  Schema.textOrTexts.violations (.str t) = []
  := by
  rw [Schema.textOrTexts, Schema.violations_anyOf_eq_nil_iff]
  exact ⟨_, List.mem_cons_self, violations_anyText t⟩

theorem violations_someText {t : String} (h : t ≠ "") :
  Schema.someText.violations (.str t) = []
  := by
  have hempty : t.isEmpty = false := by
    rw [Bool.eq_false_iff, ne_eq, String.isEmpty_iff]
    exact h
  simp only [Schema.someText, Schema.violations, TextRule.violations, hempty, List.flatMap_cons,
    List.flatMap_nil, Bool.false_eq_true, if_false, List.append_nil]

theorem violations_texts (ts : List String) :
  Schema.texts.violations (.ofStrings ts) = []
  := by
  have hwritable := (Json.kept_ofStrings ts).unwritable?_eq_none
  rw [Value.ofStrings] at hwritable ⊢
  rw [Schema.texts, Schema.violations_list_eq_nil_iff]
  refine ⟨_, Value.items?_list hwritable, rfl, ?_⟩
  rw [List.forall_mem_map]
  intro t _
  apply violations_anyText

end AgentBundles
