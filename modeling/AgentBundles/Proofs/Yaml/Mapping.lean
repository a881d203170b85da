import AgentBundles.Proofs.Data.Entries
import AgentBundles.Proofs.Yaml.Lines
import AgentBundles.Proofs.Yaml.Nodes
import AgentBundles.Yaml.Reader

/-!
# Mappings of texts

A mapping of texts that was written is read as a mapping of texts with the same keys in the same
order.
-/

namespace AgentBundles.Yaml

/-! ### Texts among nodes -/

/-- The entries whose keys and values are nodes from number `n` on. -/
def Numbered (nodes : Array Node) : Nat → List (String × String) → Prop
  | _, [] => True
  | n, e :: entries =>
    nodes[n]? = some (textNode e.1) ∧ nodes[n + 1]? = some (textNode e.2) ∧
      Numbered nodes (n + 2) entries

theorem numbered_of_drop {nodes : Array Node} {n : Nat} {entries : List (String × String)}
    (h : nodes.toList.drop n = entryNodes entries) :
  Numbered nodes n entries
  := by
  induction entries generalizing n with
  | nil => exact True.intro
  | cons e entries ih =>
      have hget : ∀ i, nodes[n + i]? = (entryNodes (e :: entries))[i]? := by
        intro i
        rw [← h, List.getElem?_drop, Array.getElem?_toList]
      refine ⟨hget 0, hget 1, ?_⟩
      apply ih
      rw [← List.drop_drop, h]
      rfl

/-- The nodes of the document of a mapping of texts. -/
theorem numbered_mappingDocument (entries : List (String × String)) :
  Numbered (mappingDocument entries).nodes 1 entries
  := by
  apply numbered_of_drop
  rfl

/-- The entries of a mapping of texts before its values are filled in. -/
def numberedEntries : Nat → List (String × String) → Entries Nat
  | _, [] => []
  | n, e :: entries => (.str e.1, n + 1) :: numberedEntries (n + 2) entries

theorem tagOf_of_eq {nodes : Array Node} {n : Nat} {text : String}
    (h : nodes[n]? = some (textNode text)) :
  tagOf nodes n = .str
  := by
  rw [tagOf, h]
  rfl

theorem contentOf_of_eq {nodes : Array Node} {n : Nat} {text : String}
    (h : nodes[n]? = some (textNode text)) :
  contentOf nodes n = .scalar text
  := by
  rw [contentOf, h]
  rfl

/-! ### Merging -/

/-- A mapping of texts has no merge key. -/
theorem takeMerge?_entryNumbers {nodes : Array Node} {n : Nat} {entries : List (String × String)}
    (h : Numbered nodes n entries) :
  takeMerge? nodes (entryNumbers n entries) = none
  := by
  induction entries generalizing n with
  | nil => rfl
  | cons e entries ih =>
      obtain ⟨hkey, -, hrest⟩ := h
      rw [entryNumbers, takeMerge?, tagOf_of_eq hkey, ih hrest]
      rfl

/-- Keys that are texts stay as they are. -/
theorem foldl_settleKey {nodes : Array Node} {n : Nat} {entries : List (String × String)}
    (h : Numbered nodes n entries) :
  (entryNumbers n entries).foldl (fun nodes e => settleKey nodes e.1) nodes = nodes
  := by
  induction entries generalizing n with
  | nil => rfl
  | cons e entries ih =>
      obtain ⟨hkey, -, hrest⟩ := h
      rw [entryNumbers, List.foldl_cons]
      have hsettled : settleKey nodes n = nodes := by
        rw [settleKey, tagOf_of_eq hkey]
        rfl
      rw [hsettled, ih hrest]

theorem mergeFuel_pos (nodes : Array Node) :
  0 < mergeFuel nodes
  := by
  have hle : ∀ (f : Nat → Node → Nat), (∀ count node, count ≤ f count node) →
      ∀ (nodes : List Node) (count : Nat), count ≤ nodes.foldl f count := by
    intro f hf nodes
    induction nodes with
    | nil =>
        intro count
        apply Nat.le_refl
    | cons node nodes ih =>
        intro count
        apply Nat.le_trans (hf count node) (ih (f count node))
  rw [mergeFuel, ← Array.foldl_toList]
  apply hle
  intro count node
  split
  · apply Nat.le_add_right
  · apply Nat.le_refl

/-- Merging leaves a mapping of texts as it is. -/
theorem mergeNode_mapping {nodes : Array Node} {n m : Nat} {entries : List (String × String)}
    (hnode : nodes[m]? = some ⟨.map, .mapping (entryNumbers n entries)⟩)
    (h : Numbered nodes n entries) :
  mergeNode nodes m = .ok nodes
  := by
  have hentries : entriesOf nodes m = entryNumbers n entries := by
    rw [entriesOf, contentOf, hnode]
    rfl
  have hwith : withEntries nodes m (entryNumbers n entries) = nodes := by
    apply Array.ext_getElem?
    intro i
    rw [withEntries, Array.getElem?_modify]
    split
    · rename_i heq
      rw [← heq, hnode]
      rfl
    · rfl
  obtain ⟨fuel, hfuel⟩ := Nat.exists_eq_succ_of_ne_zero (Nat.ne_of_gt (mergeFuel_pos nodes))
  rw [mergeNode, hfuel, absorb, hentries, takeMerge?_entryNumbers h]
  simp only [List.nil_append, foldl_settleKey h, hwith]

namespace Visit

/-! ### Visiting -/

/-- What is known of the nodes of texts is that they stand for them. -/
structure Sound (s : Visit) : Prop where
  size_eq : s.parts.size = s.nodes.size
  part_eq : ∀ n text part, s.nodes[n]? = some (textNode text) → s.part? n = some part →
    part = .scalar (.str text)

/-- What a later visit knows besides. -/
structure Extends (s t : Visit) : Prop where
  nodes_eq : t.nodes = s.nodes
  waiting_eq : t.waiting = s.waiting
  part_eq : ∀ n part, s.part? n = some part → t.part? n = some part

theorem Extends.refl (s : Visit) :
  Extends s s
  := ⟨rfl, rfl, fun _ _ h => h⟩

theorem Extends.trans {s t u : Visit} (hst : Extends s t) (htu : Extends t u) :
  Extends s u
  := by
  constructor
  · rw [htu.nodes_eq, hst.nodes_eq]
  · rw [htu.waiting_eq, hst.waiting_eq]
  · intro n part h
    apply htu.part_eq n part (hst.part_eq n part h)

/-- What is set for a node is known of it, and nothing else changes. -/
theorem part?_setPart {s : Visit} {n : Nat} (part : Part) (hn : n < s.parts.size) (m : Nat) :
  (s.setPart n part).part? m = if n = m then some part else s.part? m
  := by
  rw [setPart, part?, part?, Array.getElem?_modify]
  split
  · rename_i heq
    subst heq
    rw [Array.getElem?_eq_getElem hn]
    rfl
  · rfl

/-- What a text stands for may be set for its node. -/
theorem Sound.setPart {s : Visit} {n : Nat} {text : String} (hs : s.Sound)
    (hn : s.nodes[n]? = some (textNode text)) :
  (s.setPart n (.scalar (.str text))).Sound
  := by
  have hlt : n < s.parts.size := by
    rw [hs.size_eq]
    exact (Array.getElem?_eq_some_iff.mp hn).1
  constructor
  · rw [Visit.setPart, Array.size_modify]
    apply hs.size_eq
  · intro m text' part hm hpart
    rw [part?_setPart _ hlt] at hpart
    split at hpart
    · rename_i heq
      subst heq
      have htext := hn.symm.trans hm
      cases htext
      cases hpart
      rfl
    · apply hs.part_eq m text' part hm hpart

/-- A node of a text stands for it once it is met. -/
theorem exists_meet {s : Visit} {n : Nat} {text : String} (hs : s.Sound)
    (hn : s.nodes[n]? = some (textNode text)) :
  ∃ t, s.meet n = .ok t ∧ t.Sound ∧ Extends s t ∧ t.part? n = some (.scalar (.str text))
  := by
  cases hpart : s.part? n with
  | some part =>
      use s
      have heq := hs.part_eq n text part hn hpart
      refine ⟨?_, hs, Extends.refl s, heq ▸ hpart⟩
      rw [meet, hpart]
  | none =>
      have hlt : n < s.parts.size := by
        rw [hs.size_eq]
        exact (Array.getElem?_eq_some_iff.mp hn).1
      use s.setPart n (.scalar (.str text))
      refine ⟨?_, hs.setPart hn, ⟨rfl, rfl, ?_⟩, ?_⟩
      · have hscalar : scalarOf s.nodes n = .ok (.str text) := by
          rw [scalarOf, tagOf_of_eq hn, textOf, contentOf_of_eq hn]
          rfl
        rw [meet, hpart, tagOf_of_eq hn]
        simp only [Tag.collection?, hscalar, ok_bind]
        rfl
      · intro m part hm
        rw [part?_setPart _ hlt, if_neg]
        · apply hm
        · rintro rfl
          rw [hpart] at hm
          cases hm
      · rw [part?_setPart _ hlt, if_pos rfl]

/-- The value that a node is known to stand for. -/
def valueOf (s : Visit) (n : Nat) : Value :=
  match s.part? n with
  | some (.scalar v) => v
  | _ => .null

/-- What is known of the values of entries. -/
def Filled (s : Visit) : Nat → List (String × String) → Prop
  | _, [] => True
  | n, e :: entries => s.part? (n + 1) = some (.scalar (.str e.2)) ∧ Filled s (n + 2) entries

/-- All entries of a mapping of texts are met. -/
theorem exists_meetEntries {s : Visit} {n : Nat} {entries : List (String × String)} (hs : s.Sound)
    (h : Numbered s.nodes n entries) :
  ∃ t, s.meetEntries (entryNumbers n entries) = .ok (numberedEntries n entries, t) ∧ t.Sound ∧
    Extends s t ∧ Filled t n entries
  := by
  induction entries generalizing s n with
  | nil => exact ⟨s, rfl, hs, Extends.refl s, True.intro⟩
  | cons e entries ih =>
      obtain ⟨hkey, hvalue, hrest⟩ := h
      obtain ⟨t, ht, htsound, hst, htkey⟩ := exists_meet hs hkey
      rw [← hst.nodes_eq] at hvalue
      obtain ⟨u, hu, husound, htu, huvalue⟩ := exists_meet htsound hvalue
      rw [← hst.nodes_eq, ← htu.nodes_eq] at hrest
      obtain ⟨v, hv, hvsound, huv, hfilled⟩ := ih husound hrest
      refine ⟨v, ?_, hvsound, (hst.trans htu).trans huv, huv.part_eq _ _ huvalue, hfilled⟩
      rw [entryNumbers, meetEntries, ht]
      simp only [ok_bind, htkey, hu, hv]
      rfl

/-- The visit of a mapping of texts before its parts are visited. -/
def begun (entries : List (String × String)) : Visit where
  nodes := (mappingDocument entries).nodes
  parts := ((mappingDocument entries).nodes.map fun _ => none).modify 0 fun _ => some (.map [])
  waiting := []

theorem part?_begun (entries : List (String × String)) (n : Nat) :
  (begun entries).part? n = if 0 = n then some (.map []) else none
  := by
  rw [part?, begun, Array.getElem?_modify, Array.getElem?_map]
  split
  · rename_i heq
    subst heq
    rfl
  · cases (mappingDocument entries).nodes[n]? with
    | none => rfl
    | some node => rfl

theorem sound_begun (entries : List (String × String)) :
  (begun entries).Sound
  := by
  constructor
  · simp [begun]
  · intro n text part hn hpart
    rw [part?_begun] at hpart
    split at hpart
    · rename_i heq
      subst heq
      cases hn
    · cases hpart

theorem Filled.setPart {s : Visit} {n : Nat} {entries : List (String × String)}
    (h : Filled s n entries) (part : Part)  (hsize : 0 < s.parts.size) :
  Filled (s.setPart 0 part) n entries
  := by
  induction entries generalizing n with
  | nil => exact True.intro
  | cons e entries ih =>
      refine ⟨?_, ih h.2⟩
      rw [part?_setPart _ hsize, if_neg (Nat.succ_ne_zero n).symm]
      apply h.1

/-- The values of entries are texts of nodes other than the first one. -/
theorem Filled.of_mem {s : Visit} {n : Nat} {entries : List (String × String)}
    (h : Filled s n entries) {e : Value × Nat} (he : e ∈ numberedEntries n entries) :
  e.2 ≠ 0 ∧ s.part? e.2 = some (.scalar (s.valueOf e.2))
  := by
  induction entries generalizing n with
  | nil => cases he
  | cons d entries ih =>
      rcases List.mem_cons.mp he with rfl | he
      · use Nat.succ_ne_zero n
        simp only [valueOf, h.1]
      · apply ih h.2 he

/-- The entries with their values filled in. -/
theorem Filled.map_valueOf {s : Visit} {n : Nat} {entries : List (String × String)}
    (h : Filled s n entries) :
  (numberedEntries n entries).map (fun e => (e.1, s.valueOf e.2)) = textEntries entries
  := by
  induction entries generalizing n with
  | nil => rfl
  | cons e entries ih =>
      have hvalue : s.valueOf (n + 1) = .str e.2 := by
        simp only [valueOf, h.1]
      rw [numberedEntries, List.map_cons, ih h.2, hvalue]
      rfl

/-- The mapping is filled with its entries. -/
theorem exists_fill (entries : List (String × String)) :
  ∃ t, (begun entries).fill 0 = .ok t ∧ t.waiting = [] ∧
    t.part? 0 = some (.map (Entries.ofList (numberedEntries 1 entries))) ∧ Filled t 1 entries
  := by
  obtain ⟨t, ht, hsound, hextends, hfilled⟩ :=
    exists_meetEntries (sound_begun entries) (numbered_mappingDocument entries)
  have hsize : 0 < t.parts.size := by
    rw [hsound.size_eq, hextends.nodes_eq]
    apply Nat.succ_pos
  have hmerge : mergeNode (begun entries).nodes 0 = .ok (begun entries).nodes :=
    mergeNode_mapping rfl (numbered_mappingDocument entries)
  have hmapping : (begun entries).mappingEntries 0
      = .ok (Entries.ofList (numberedEntries 1 entries), t) := by
    have hcontent : contentOf (begun entries).nodes 0 = .mapping (entryNumbers 1 entries) := rfl
    have hentries : entriesOf (begun entries).nodes 0 = entryNumbers 1 entries := rfl
    rw [mappingEntries]
    simp only [hcontent, hmerge, ok_bind, hentries, ht]
    rfl
  use t.setPart 0 (.map (Entries.ofList (numberedEntries 1 entries)))
  refine ⟨?_, ?_, ?_, hfilled.setPart _ hsize⟩
  · have htag : tagOf (begun entries).nodes 0 = .map := rfl
    rw [fill]
    simp only [htag, hmapping, ok_bind]
    rfl
  · exact hextends.waiting_eq
  · rw [part?_setPart _ hsize, if_pos rfl]

end Visit

/-! ### Values -/

/-- Where nothing has been found, nothing is known. -/
theorem join_map_none {α : Type} (nodes : Array Node) (m : Nat) :
  ((nodes.map fun _ => (none : Option α))[m]?).join = none
  := by
  rw [Array.getElem?_map]
  cases nodes[m]? with
  | none => rfl
  | some node => rfl

/-- A collection whose parts stand alone stands alone. -/
theorem keep_of_reach (n : Nat) (v : Value) {inner : List Placed} (h : ∀ p ∈ inner, p.reach = 0)
    (found : Found) :
  (place.keep n v inner).run found = pure (⟨v, 0⟩, found.modify n fun _ => some v)
  := by
  have hreach : inner.foldl (fun reach p => max reach p.level) 0 = 0 := by
    induction inner with
    | nil => rfl
    | cons p inner ih =>
        have hlevel : max 0 p.level = 0 := by
          rw [Placed.level, h p List.mem_cons_self]
          rfl
        rw [List.foldl_cons, hlevel]
        apply ih
        intro q hq
        apply h q (List.mem_cons_of_mem _ hq)
  rw [place.keep, hreach]
  rfl

/-- The value of a text inside a mapping. -/
theorem place_text {parts : Array (Option Part)} {found : Found} {m : Nat} {v : Value} (hm : m ≠ 0)
    (hpart : (parts[m]?).join = some (.scalar v)) (hfound : (found[m]?).join = none) (fuel : Nat) :
  (place parts (fuel + 1) [some 0] m).run found = pure (⟨v, 0⟩, found)
  := by
  have houter : [some 0].findIdx? (· == some m) = none := by
    simp [List.findIdx?_cons, Ne.symm hm]
  rw [place]
  simp [houter, hpart, hfound]

/-- The values of entries inside their mapping. -/
theorem mapM_place {s : Visit} {found : Found} {entries : Entries Nat}
    (h : ∀ e ∈ entries, e.2 ≠ 0 ∧ s.part? e.2 = some (.scalar (s.valueOf e.2)))
    (hfound : ∀ m : Nat, (found[m]?).join = none) (fuel : Nat) :
  (entries.mapM fun e => place s.parts (fuel + 1) [some 0] e.2).run found
    = pure (entries.map fun e => ⟨s.valueOf e.2, 0⟩, found)
  := by
  induction entries with
  | nil => rfl
  | cons e entries ih =>
      obtain ⟨hne, hpart⟩ := h e List.mem_cons_self
      have hentries : ∀ e ∈ entries, e.2 ≠ 0 ∧ s.part? e.2 = some (.scalar (s.valueOf e.2)) := by
        intro d hd
        apply h d (List.mem_cons_of_mem _ hd)
      rw [List.mapM_cons]
      simp only [StateT.run_bind, place_text hne hpart (hfound _), ih hentries, pure_bind,
        StateT.run_pure, List.map_cons]

/-- The mapping of a document is met first. -/
theorem meet_mappingDocument (entries : List (String × String)) :
  Visit.meet
      ⟨(mappingDocument entries).nodes, (mappingDocument entries).nodes.map fun _ => none, []⟩ 0
    = .ok { Visit.begun entries with waiting := [0] }
  := by
  have hpart : Visit.part? ⟨(mappingDocument entries).nodes,
      (mappingDocument entries).nodes.map fun _ => none, []⟩ 0
      = none := by
    apply join_map_none
  have htag : tagOf (mappingDocument entries).nodes 0 = .map := rfl
  rw [Visit.meet, hpart, htag]
  rfl

/-- The value of the mapping of a document is known once its entries are filled in. -/
theorem place_mappingDocument {entries : List (String × String)} {t : Visit}
    (hroot : t.part? 0 = some (.map (Entries.ofList (numberedEntries 1 entries))))
    (hfilled : t.Filled 1 entries) {found : Found} (hfound : ∀ m : Nat, (found[m]?).join = none)
    (fuel : Nat) :
  (place t.parts (fuel + 2) [] 0).run found
    = pure (⟨.map (Entries.ofList (textEntries entries)), 0⟩,
      found.modify 0 fun _ => some (.map (Entries.ofList (textEntries entries))))
  := by
  let numbered := Entries.ofList (numberedEntries 1 entries)
  have hpart : (t.parts[0]?).join = some (.map numbered) := hroot
  have hparts : ∀ e ∈ numbered, e.2 ≠ 0 ∧ t.part? e.2 = some (.scalar (t.valueOf e.2)) := by
    intro e he
    obtain ⟨-, p, hp, heq⟩ := Entries.mem_ofList he
    rw [← heq]
    apply hfilled.of_mem hp
  have hvalues := mapM_place hparts hfound fuel
  have hreach : ∀ p ∈ numbered.map fun e => (⟨t.valueOf e.2, 0⟩ : Placed), p.reach = 0 := by
    intro p hp
    obtain ⟨e, -, rfl⟩ := List.mem_map.mp hp
    rfl
  have hzip :
      (numbered.map (·.1)).zip ((numbered.map fun e => (⟨t.valueOf e.2, 0⟩ : Placed)).map (·.value))
      = Entries.ofList (textEntries entries) := by
    rw [← hfilled.map_valueOf, Entries.ofList_map, List.map_map, List.zip_map']
    rfl
  rw [place]
  simp only [List.findIdx?_nil, StateT.run_bind, StateT.run_get, pure_bind, hfound, hpart, hvalues,
    keep_of_reach _ _ hreach, hzip]

/-- The value of the document of a mapping of texts. -/
theorem value_mappingDocument (entries : List (String × String)) :
  (mappingDocument entries).value = .ok (.map (Entries.ofList (textEntries entries)))
  := by
  obtain ⟨t, ht, hwaiting, hroot, hfilled⟩ := Visit.exists_fill entries
  have hsize : (mappingDocument entries).nodes.size = (entryNodes entries).length + 1 := rfl
  have hfill : Visit.fillAll ((entryNodes entries).length + 1 + 1)
      { Visit.begun entries with waiting := [0] } = .ok t := by
    have hbegun : { Visit.begun entries with waiting := [] } = Visit.begun entries := rfl
    rw [Visit.fillAll]
    simp only [hbegun, ht, ok_bind]
    rw [Visit.fillAll, hwaiting]
  have hplace := place_mappingDocument hroot hfilled (join_map_none (mappingDocument entries).nodes)
    (entryNodes entries).length
  have hdocument : (mappingDocument entries).root = 0 := rfl
  rw [Document.value, hdocument, meet_mappingDocument]
  simp only [ok_bind, hsize, hfill]
  have hvalue := congrArg (fun placed : Placed × Found => placed.1.value) hplace
  apply congrArg Except.ok hvalue

/-! ### Reading what was written -/

theorem all_isAllowed_writeEntries (e : String × String) (entries : List (String × String)) :
  (writeEntries true 0 (textEntries (e :: entries))).all isAllowed = true
  := by
  rw [List.all_eq_true]
  apply (unmarked_writeEntries e entries).isAllowed_of_mem

/-- A mapping of texts is read as it was written, but for what its keys and values are read as, if
its keys fit. -/
theorem read_writeEntries {e : String × String} {entries : List (String × String)}
    (hkeys : ∀ e' ∈ e :: entries, KeyFits e'.1) :
  read (String.ofList (writeEntries true 0 (textEntries (e :: entries))))
    = .ok (.map (Entries.ofList (textEntries ((e :: entries).map entryBack))))
  := by
  have hdocument : document (String.ofList (writeEntries true 0 (textEntries (e :: entries))))
      = .ok (some (mappingDocument ((e :: entries).map entryBack))) := by
    rw [document]
    simp only [String.toList_ofList, all_isAllowed_writeEntries, Bool.not_true, Bool.false_eq_true,
      if_false, tokens_writeEntries hkeys, makeDocument_mapping]
  rw [read, hdocument]
  apply value_mappingDocument

/-- A mapping of texts with a key that does not fit cannot be read. -/
theorem read_writeEntries_of_not_fits {e : String × String} {entries : List (String × String)}
    (hkeys : ∃ e' ∈ e :: entries, ¬ KeyFits e'.1) :
  read (String.ofList (writeEntries true 0 (textEntries (e :: entries)))) = .error .malformed
  := by
  have hfault := tokens_writeEntries_of_not_fits hkeys
  have hdocument : document (String.ofList (writeEntries true 0 (textEntries (e :: entries))))
      = .error .malformed := by
    rw [document]
    simp only [String.toList_ofList, all_isAllowed_writeEntries, Bool.not_true, Bool.false_eq_true,
      if_false, hfault]
    -- Whatever is made of the tokens before the fault, the fault stays.
    cases makeDocument (tokens (writeEntries true 0 (textEntries (e :: entries)))).1 with
    | ok document? => rfl
    | error rest =>
        cases rest with
        | nil => rfl
        | cons t rest => rfl
  rw [read, hdocument]
  rfl

end AgentBundles.Yaml
