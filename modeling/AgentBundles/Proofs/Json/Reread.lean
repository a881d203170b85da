import AgentBundles.Proofs.Json.Values

/-!
# Values that are read back

What is left of a value when its text is read: the fields with names that are the text of no other
key, and all of a value that is made of texts.
-/

namespace AgentBundles

namespace Value

mutual

/-- Values in whose mappings all keys are different. -/
def Keyed : Value → Prop
  | .list items => KeyedItems items
  | .pair a b => Keyed a ∧ Keyed b
  | .map entries => Entries.Separate entries ∧ KeyedEntries entries
  | _ => True

/-- Items in whose mappings all keys are different. -/
def KeyedItems : List Value → Prop
  | [] => True
  | v :: vs => Keyed v ∧ KeyedItems vs

/-- Entries in whose values all keys of mappings are different. -/
def KeyedEntries : List (Value × Value) → Prop
  | [] => True
  | (_, v) :: rest => Keyed v ∧ KeyedEntries rest

end

theorem keyedItems_iff {items : List Value} :
  KeyedItems items ↔ ∀ v ∈ items, v.Keyed
  := by
  induction items with
  | nil => simp [KeyedItems]
  | cons v vs ih => rw [KeyedItems, ih, List.forall_mem_cons]

theorem keyedEntries_iff {entries : List (Value × Value)} :
  KeyedEntries entries ↔ ∀ e ∈ entries, e.2.Keyed
  := by
  induction entries with
  | nil => simp [KeyedEntries]
  | cons e rest ih =>
      obtain ⟨k, v⟩ := e
      rw [KeyedEntries, ih, List.forall_mem_cons]

theorem withinAll_eq_map (whole : Value) (depth : Nat) (items : List Value) :
  withinAll whole depth items = items.map (within whole depth)
  := by
  induction items with
  | nil => rfl
  | cons v vs ih => rw [withinAll, ih, List.map_cons]

theorem withinEntries_eq_map (whole : Value) (depth : Nat) (entries : List (Value × Value)) :
  withinEntries whole depth entries = entries.map fun e => (e.1, within whole depth e.2)
  := by
  induction entries with
  | nil => rfl
  | cons e rest ih =>
      obtain ⟨k, v⟩ := e
      rw [withinEntries, ih, List.map_cons]

theorem map_eq_self {α : Type} {f : α → α} {xs : List α} (h : ∀ x ∈ xs, f x = x) :
  xs.map f = xs
  := by
  rw [List.map_congr_left h, List.map_id']

/-- A value that can be written does not refer to what it is in. -/
theorem within_eq_self {v : Value} (hv : Json.unwritable? v = none) (whole : Value) (depth : Nat) :
  within whole depth v = v
  := by
  induction hsize : sizeOf v using Nat.strongRecOn generalizing v depth with
  | ind n ih =>
      cases v with
      | list items =>
          rw [Value.list.sizeOf_spec] at hsize
          rw [within, withinAll_eq_map, map_eq_self]
          intro v hmem
          have hlt := List.sizeOf_lt_of_mem hmem
          apply ih (sizeOf v) (by omega) (Json.unwritableItem?_eq_none_iff.mp hv v hmem) _ rfl
      | pair a b =>
          rw [Value.pair.sizeOf_spec] at hsize
          rw [Json.unwritable?, Json.or_eq_none_iff] at hv
          rw [within, ih (sizeOf a) (by omega) hv.1 _ rfl, ih (sizeOf b) (by omega) hv.2 _ rfl]
      | map entries =>
          rw [Value.map.sizeOf_spec] at hsize
          rw [within, withinEntries_eq_map, map_eq_self]
          intro e hmem
          have hlt := List.sizeOf_lt_of_mem hmem
          obtain ⟨k, v⟩ := e
          rw [Prod.mk.sizeOf_spec] at hlt
          rw [ih (sizeOf v) (by omega)
            (Json.unwritableField?_eq_none_iff.mp hv (k, v) hmem).2 _ rfl]
      | enclosing level => cases hv
      | _ => rfl

/-- The entries of a mapping that can be written are its own. -/
theorem entries?_map {entries : List (Value × Value)}
    (hv : Json.unwritable? (.map entries) = none) :
  (Value.map entries).entries? = some entries
  := by
  rw [entries?, withinEntries_eq_map, map_eq_self]
  intro e hmem
  rw [within_eq_self (Json.unwritableField?_eq_none_iff.mp hv e hmem).2]

/-- The items of a list that can be written are its own. -/
theorem items?_list {items : List Value} (hv : Json.unwritable? (.list items) = none) :
  (Value.list items).items? = some items
  := by
  rw [items?, withinAll_eq_map, map_eq_self]
  intro v hmem
  rw [within_eq_self (Json.unwritableItem?_eq_none_iff.mp hv v hmem)]

/-- The fields of a mapping that can be written are its own. -/
theorem field?_map {entries : Entries} (hv : Json.unwritable? (.map entries) = none)
    (name : String) :
  (Value.map entries).field? name = entries.field? name
  := by
  rw [Value.field?]
  cases hfield : entries.field? name with
  | none => rfl
  | some v =>
      rw [Entries.field?, Entries.get?, Option.map_eq_some_iff] at hfield
      obtain ⟨e, hfind, rfl⟩ := hfield
      have hwritable :=
        (Json.unwritableField?_eq_none_iff.mp hv e (List.mem_of_find?_eq_some hfind)).2
      rw [Option.map_some, within_eq_self hwritable]

end Value

namespace Json

/-- What is read back can be written again. -/
theorem unwritable?_reread {v : Value} (hv : unwritable? v = none) :
  unwritable? (reread v) = none
  := by
  induction hsize : sizeOf v using Nat.strongRecOn generalizing v with
  | ind n ih =>
      cases v with
      | list items =>
          rw [Value.list.sizeOf_spec] at hsize
          rw [reread, rereadItems_eq_map, unwritable?, unwritableItem?_eq_none_iff,
            List.forall_mem_map]
          intro v hmem
          have hlt := List.sizeOf_lt_of_mem hmem
          apply ih (sizeOf v) (by omega) (unwritableItem?_eq_none_iff.mp hv v hmem) rfl
      | pair a b =>
          rw [Value.pair.sizeOf_spec] at hsize
          rw [unwritable?, or_eq_none_iff] at hv
          simp only [reread, unwritable?, unwritableItem?, ih (sizeOf a) (by omega) hv.1 rfl,
            ih (sizeOf b) (by omega) hv.2 rfl, Option.or_none]
      | map entries =>
          rw [Value.map.sizeOf_spec] at hsize
          rw [reread, rereadEntries_eq_map, unwritable?, unwritableField?_eq_none_iff]
          intro e hmem
          obtain ⟨⟨p, hp, hkey⟩, ⟨q, hq, hvalue⟩⟩ := Entries.mem_ofList hmem
          obtain ⟨p', hp', rfl⟩ := List.mem_map.mp hp
          obtain ⟨⟨k, v⟩, hq', rfl⟩ := List.mem_map.mp hq
          have hlt := List.sizeOf_lt_of_mem hq'
          rw [Prod.mk.sizeOf_spec] at hlt
          rw [← hkey, ← hvalue]
          have hwritable := (unwritableField?_eq_none_iff.mp hv (k, v) hq').2
          exact ⟨rfl, ih (sizeOf v) (by omega) hwritable rfl⟩
      | float x => rfl
      | int m => apply hv
      | null => rfl
      | bool b => rfl
      | str s => rfl
      | date d => cases hv
      | instant t => cases hv
      | bytes bs => cases hv
      | set members => cases hv
      | enclosing level => cases hv

/-- Names that are the text of no key but themselves. -/
def FieldName (name : String) : Prop :=
  ∀ k, unwritableKey? k = none → keyString k = name → k = .str name

/-- Whether a text begins with a small letter and is not a word that stands for a value. -/
def isFieldName (name : String) : Bool :=
  name.toList.head?.any ('a' ≤ ·) && name != "null" && name != "true" && name != "false"

/-- Texts that begin with a small letter are names of fields, except the words that stand for a
value. -/
theorem fieldName_of_isFieldName {name : String} (h : isFieldName name = true) :
  FieldName name
  := by
  simp only [isFieldName, Bool.and_eq_true, bne_iff_ne, Option.any_eq_true, decide_eq_true_eq] at h
  obtain ⟨⟨⟨⟨c, hname, hc⟩, hnull⟩, htrue⟩, hfalse⟩ := h
  intro k hk hkey
  have hhead : ∀ {text : List Char}, (∃ c cs, text = c :: cs ∧ c < 'a') →
      String.ofList text ≠ name := by
    intro text htext heq
    obtain ⟨d, ds, rfl, hd⟩ := htext
    rw [← heq, String.toList_ofList, List.head?_cons] at hname
    injection hname with hname
    rw [hname] at hd
    exact absurd hc (Char.not_le.mpr hd)
  cases k with
  | str s => rw [← hkey, keyString]
  | null => exact absurd hkey hnull.symm
  | bool b =>
      cases b with
      | true => exact absurd hkey htrue.symm
      | false => exact absurd hkey hfalse.symm
  | int n => exact absurd hkey (hhead (exists_cons_int n))
  | float x => exact absurd hkey (hhead (exists_cons_float x))
  | date d => cases hk
  | instant t => cases hk
  | bytes bs => cases hk
  | list items => cases hk
  | pair a b => cases hk
  | map entries => cases hk
  | set members => cases hk
  | enclosing level => cases hk

/-- A field whose name is the text of no other key is read back. -/
theorem field?_reread {v : Value} (hv : unwritable? v = none) (hkeyed : v.Keyed) {name : String}
    (hname : FieldName name) :
  (reread v).field? name = (v.field? name).map reread
  := by
  cases v with
  | map entries =>
      have hwritable := unwritableField?_eq_none_iff.mp hv
      have hback := unwritable?_reread hv
      rw [reread, rereadEntries_eq_map] at hback ⊢
      rw [Value.field?_map hv, Value.field?_map hback]
      cases hfield : Entries.field? entries name with
      | some value =>
          have hmem := (Entries.field?_eq_some_iff hkeyed.1).mp hfield
          rw [Option.map_some]
          apply Entries.field?_ofList_of_mem
          · exact List.mem_map.mpr ⟨_, hmem, rfl⟩
          · intro p hp hkey
            obtain ⟨e, he, rfl⟩ := List.mem_map.mp hp
            injection hkey with hkey
            have hstr := hname e.1 (hwritable e he).1 hkey
            have heq := hkeyed.1.eq_of_str he hmem hstr rfl
            rw [heq]
      | none =>
          rw [Option.map_none]
          apply Entries.field?_ofList_of_not_mem
          intro p hp hkey
          obtain ⟨e, he, rfl⟩ := List.mem_map.mp hp
          injection hkey with hkey
          have hstr := hname e.1 (hwritable e he).1 hkey
          have hfield' : Entries.field? entries name = some e.2 := by
            rw [Entries.field?_eq_some_iff hkeyed.1, ← hstr]
            apply he
          rw [hfield'] at hfield
          cases hfield
  | _ => rfl

/-- A mapping of values that are read back as they are, under different texts, is read back as it
is. -/
theorem reread_ofFields {fields : List (String × Value)} (hnodup : (fields.map (·.1)).Nodup)
    (hfields : ∀ f ∈ fields, reread f.2 = f.2) :
  reread (.ofFields fields) = .ofFields fields
  := by
  have hentries : rereadEntries (fields.map fun f => (.str f.1, f.2))
      = fields.map fun f => (.str f.1, f.2) := by
    rw [rereadEntries_eq_map, List.map_map]
    apply List.map_congr_left
    intro f hf
    simp only [Function.comp, keyString, hfields f hf]
  rw [Value.ofFields, reread, hentries, Entries.ofList_eq_self (Entries.separate_of_nodup hnodup)]

end Json

end AgentBundles
