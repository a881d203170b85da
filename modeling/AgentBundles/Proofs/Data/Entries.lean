import Mathlib.Data.List.Basic
import Mathlib.Data.List.Induction
import AgentBundles.Data.Value

/-!
# Entries

Entries with different keys that are written one after the other stay as they are. Otherwise the
last value of a key stands, and the keys and values are among those that were written.
-/

namespace AgentBundles

namespace Entries

variable {α : Type}

theorem insert_of_not_sameKey {key : Value} {value : α} {entries : Entries α}
    (h : ∀ e ∈ entries, e.1.sameKey key = false) :
  insert key value entries = entries ++ [(key, value)]
  := by
  induction entries with
  | nil => rfl
  | cons e entries ih =>
      have he := h e List.mem_cons_self
      rw [insert, he, if_neg Bool.false_ne_true, ih]
      · rfl
      · intro d hd
        apply h d (List.mem_cons_of_mem _ hd)

/-- Entries whose keys are all different. -/
def Separate (entries : Entries α) : Prop :=
  entries.Pairwise fun a b => a.1.sameKey b.1 = false

theorem foldl_insert_eq {pairs entries : Entries α} (h : Separate (entries ++ pairs)) :
  pairs.foldl (fun entries p => insert p.1 p.2 entries) entries = entries ++ pairs
  := by
  induction pairs generalizing entries with
  | nil => rw [List.foldl_nil, List.append_nil]
  | cons p pairs ih =>
      have hp : ∀ e ∈ entries, e.1.sameKey p.1 = false := by
        intro e he
        exact (List.pairwise_append.mp h).2.2 e he p List.mem_cons_self
      rw [List.foldl_cons, insert_of_not_sameKey hp, ih]
      · rw [List.append_assoc]
        rfl
      · rw [List.append_assoc]
        apply h

theorem ofList_eq_self {pairs : Entries α} (h : Separate pairs) :
  ofList pairs = pairs
  := foldl_insert_eq h

/-- Different texts are different keys. -/
theorem separate_of_nodup {pairs : List (String × α)} (h : (pairs.map (·.1)).Nodup) :
  Separate (pairs.map fun e => (.str e.1, e.2) : Entries α)
  := by
  rw [Separate, List.pairwise_map]
  rw [List.Nodup, List.pairwise_map] at h
  apply h.imp
  intro a b hne
  exact beq_eq_false_iff_ne.mpr hne

/-! ### Text keys -/

theorem sameKey_str_iff {a : Value} {s : String} :
  a.sameKey (.str s) = true ↔ a = .str s
  := by
  cases a with
  | str t => simp [Value.sameKey]
  | bool b => simp [Value.sameKey, Value.asNumber?]
  | int n => simp [Value.sameKey, Value.asNumber?]
  | float x => cases h : x.toInt? <;> simp [Value.sameKey, Value.asNumber?, h]
  | _ => simp [Value.sameKey, Value.asNumber?]

theorem str_sameKey_iff {b : Value} {s : String} :
  (Value.str s).sameKey b = true ↔ b = .str s
  := by
  cases b with
  | str t =>
      simp only [Value.sameKey, beq_iff_eq, Value.str.injEq]
      exact eq_comm
  | _ => simp [Value.sameKey, Value.asNumber?]

theorem field?_insert_self (entries : Entries α) (name : String) (value : α) :
  field? (insert (.str name) value entries) name = some value
  := by
  induction entries with
  | nil => simp [insert, field?, get?, Value.sameKey]
  | cons e entries ih =>
      rw [insert]
      cases h : e.1.sameKey (.str name) with
      | true => simp [field?, get?, h]
      | false =>
          rw [if_neg Bool.false_ne_true]
          simp only [field?, get?, List.find?_cons, h] at ih ⊢
          apply ih

theorem field?_insert_of_ne {entries : Entries α} {key : Value} {name : String} (value : α)
    (h : key ≠ .str name) :
  field? (insert key value entries) name = field? entries name
  := by
  have hkey : key.sameKey (.str name) = false := by
    rw [Bool.eq_false_iff]
    intro hsame
    apply h (sameKey_str_iff.mp hsame)
  induction entries with
  | nil => simp [insert, field?, get?, hkey]
  | cons e entries ih =>
      rw [insert]
      cases hsame : e.1.sameKey key with
      | true =>
          have he : e.1.sameKey (.str name) = false := by
            rw [Bool.eq_false_iff]
            intro he
            rw [sameKey_str_iff.mp he, str_sameKey_iff] at hsame
            apply h hsame
          simp [field?, get?, he]
      | false =>
          rw [if_neg Bool.false_ne_true]
          simp only [field?, get?, List.find?_cons] at ih ⊢
          cases e.1.sameKey (.str name) with
          | true => rfl
          | false => apply ih

/-- A text is the key of at most one of some separate entries. -/
theorem Separate.eq_of_str {entries : Entries α} (h : Separate entries) {e e' : Value × α}
    {name : String} (he : e ∈ entries) (he' : e' ∈ entries) (hkey : e.1 = .str name)
    (hkey' : e'.1 = .str name) :
  e = e'
  := by
  have hsame : e.1.sameKey e'.1 = true ∧ e'.1.sameKey e.1 = true := by
    rw [hkey, hkey', sameKey_str_iff]
    exact ⟨rfl, rfl⟩
  induction entries with
  | nil => cases he
  | cons d entries ih =>
      obtain ⟨hd, htail⟩ := List.pairwise_cons.mp h
      rcases List.mem_cons.mp he with rfl | hmem
      · rcases List.mem_cons.mp he' with rfl | hmem'
        · rfl
        · rw [hd e' hmem'] at hsame
          cases hsame.1
      · rcases List.mem_cons.mp he' with rfl | hmem'
        · rw [hd e hmem] at hsame
          cases hsame.2
        · apply ih htail hmem hmem'

theorem field?_eq_some_iff {entries : Entries α} (h : Separate entries) {name : String}
    {value : α} :
  field? entries name = some value ↔ (.str name, value) ∈ entries
  := by
  constructor
  · intro heq
    rw [field?, get?, Option.map_eq_some_iff] at heq
    obtain ⟨e, hfind, rfl⟩ := heq
    have hkey : e.1 = .str name :=
      sameKey_str_iff.mp (List.find?_some (p := fun e : Value × α => e.1.sameKey (.str name)) hfind)
    rw [← hkey]
    apply List.mem_of_find?_eq_some hfind
  · intro hmem
    rw [field?, get?, Option.map_eq_some_iff]
    cases hfind : entries.find? fun e => e.1.sameKey (.str name) with
    | none =>
        have hne := List.find?_eq_none.mp hfind (.str name, value) hmem
        exact absurd (sameKey_str_iff.mpr rfl) hne
    | some e =>
        have hkey : e.1 = .str name :=
      sameKey_str_iff.mp (List.find?_some (p := fun e : Value × α => e.1.sameKey (.str name)) hfind)
        have heq := h.eq_of_str (List.mem_of_find?_eq_some hfind) hmem hkey rfl
        exact ⟨e, rfl, by rw [heq]⟩

/-! ### Entries of one key -/

theorem ofList_concat (pairs : Entries α) (p : Value × α) :
  ofList (pairs ++ [p]) = insert p.1 p.2 (ofList pairs)
  := by
  rw [ofList, List.foldl_append]
  rfl

/-- The value of a key that is written, if it is always written with that value. -/
theorem field?_ofList_of_mem {pairs : Entries α} {name : String} {value : α}
    (hmem : (.str name, value) ∈ pairs) (hall : ∀ p ∈ pairs, p.1 = .str name → p.2 = value) :
  field? (ofList pairs) name = some value
  := by
  induction pairs using List.reverseRecOn with
  | nil => cases hmem
  | append_singleton pairs p ih =>
      rw [ofList_concat]
      by_cases hp : p.1 = .str name
      · rw [hp, hall p (by simp) hp, field?_insert_self]
      · rw [field?_insert_of_ne _ hp]
        apply ih
        · rw [List.mem_append, List.mem_singleton] at hmem
          rcases hmem with hmem | rfl
          · apply hmem
          · exact absurd rfl hp
        · intro q hq
          apply hall q (List.mem_append_left _ hq)

/-- A key that is not written has no value. -/
theorem field?_ofList_of_not_mem {pairs : Entries α} {name : String}
    (h : ∀ p ∈ pairs, p.1 ≠ .str name) :
  field? (ofList pairs) name = none
  := by
  induction pairs using List.reverseRecOn with
  | nil => rfl
  | append_singleton pairs p ih =>
      rw [ofList_concat, field?_insert_of_ne _ (h p (by simp))]
      apply ih
      intro q hq
      apply h q (List.mem_append_left _ hq)

theorem mem_insert {e : Value × α} {key : Value} {value : α} {entries : Entries α}
    (h : e ∈ insert key value entries) :
  (∃ p ∈ (key, value) :: entries, p.1 = e.1) ∧ ∃ p ∈ (key, value) :: entries, p.2 = e.2
  := by
  induction entries with
  | nil =>
      rw [List.mem_singleton.mp h]
      exact ⟨⟨_, List.mem_cons_self, rfl⟩, ⟨_, List.mem_cons_self, rfl⟩⟩
  | cons d entries ih =>
      have hsub : ∀ {p}, p ∈ (key, value) :: entries → p ∈ (key, value) :: d :: entries := by
        intro p hp
        rcases List.mem_cons.mp hp with rfl | hp
        · apply List.mem_cons_self
        · apply List.mem_cons_of_mem _ (List.mem_cons_of_mem d hp)
      rw [insert] at h
      split at h
      · rcases List.mem_cons.mp h with rfl | h
        · exact ⟨⟨d, List.mem_cons_of_mem _ List.mem_cons_self, rfl⟩, ⟨_, List.mem_cons_self, rfl⟩⟩
        · have he := hsub (List.mem_cons_of_mem _ h)
          exact ⟨⟨e, he, rfl⟩, ⟨e, he, rfl⟩⟩
      · rcases List.mem_cons.mp h with rfl | h
        · have he : e ∈ (key, value) :: e :: entries := List.mem_cons_of_mem _ List.mem_cons_self
          exact ⟨⟨e, he, rfl⟩, ⟨e, he, rfl⟩⟩
        · obtain ⟨⟨p, hp, hkey⟩, ⟨q, hq, hvalue⟩⟩ := ih h
          exact ⟨⟨p, hsub hp, hkey⟩, ⟨q, hsub hq, hvalue⟩⟩

/-- Keys and values come from what is written. -/
theorem mem_ofList {e : Value × α} {pairs : Entries α} (h : e ∈ ofList pairs) :
  (∃ p ∈ pairs, p.1 = e.1) ∧ ∃ p ∈ pairs, p.2 = e.2
  := by
  induction pairs using List.reverseRecOn generalizing e with
  | nil => cases h
  | append_singleton pairs p ih =>
      have hlast : p ∈ pairs ++ [p] := by simp
      rw [ofList_concat] at h
      obtain ⟨⟨q, hq, hkey⟩, ⟨r, hr, hvalue⟩⟩ := mem_insert h
      constructor
      · rcases List.mem_cons.mp hq with rfl | hq
        · exact ⟨p, hlast, hkey⟩
        · obtain ⟨⟨q', hq', hkey'⟩, -⟩ := ih hq
          exact ⟨q', List.mem_append_left _ hq', hkey'.trans hkey⟩
      · rcases List.mem_cons.mp hr with rfl | hr
        · exact ⟨p, hlast, hvalue⟩
        · obtain ⟨-, ⟨r', hr', hvalue'⟩⟩ := ih hr
          exact ⟨r', List.mem_append_left _ hr', hvalue'.trans hvalue⟩

/-- Entries whose values are changed have the keys that they had. -/
theorem ofList_map {β : Type} (f : α → β) (pairs : Entries α) :
  ofList (pairs.map fun e => (e.1, f e.2)) = (ofList pairs).map fun e => (e.1, f e.2)
  := by
  have hinsert : ∀ (key : Value) (value : α) (entries : Entries α),
      insert key (f value) (entries.map fun e => (e.1, f e.2))
        = (insert key value entries).map fun e => (e.1, f e.2) := by
    intro key value entries
    induction entries with
    | nil => rfl
    | cons e entries ih =>
        rw [List.map_cons, insert, insert, ih]
        split
        · rfl
        · rfl
  induction pairs using List.reverseRecOn with
  | nil => rfl
  | append_singleton pairs p ih =>
      rw [List.map_append, List.map_singleton, ofList_concat, ofList_concat, ih, hinsert]

theorem ofList_ne_nil {pairs : Entries α} (h : pairs ≠ []) :
  ofList pairs ≠ []
  := by
  have hinsert : ∀ (key : Value) (value : α) (entries : Entries α), insert key value entries
      ≠ [] := by
    intro key value entries
    cases entries with
    | nil => exact List.cons_ne_nil _ _
    | cons e entries =>
        rw [insert]
        split
        all_goals exact List.cons_ne_nil _ _
  induction pairs using List.reverseRecOn with
  | nil => exact absurd rfl h
  | append_singleton pairs p _ =>
      rw [ofList_concat]
      apply hinsert

end Entries

end AgentBundles
