import AgentBundles.Proofs.Yaml.TokenFaults
import AgentBundles.Yaml.Reader

/-!
# Faults of nodes

What keeps the nodes of a document from being values: a rule about tags is broken, a scalar has a
text that is no value of its tag, or a mapping has the tag of a scalar. Merging changes nodes on the
way, but it adds no faults to them.
-/

namespace AgentBundles.Yaml

/-! ### Merging -/

/-- Nodes after mappings among them got other entries, and keys that stand for default values became
texts. -/
structure Settled (nodes nodes' : Array Node) : Prop where
  tag : ∀ n, tagOf nodes' n = tagOf nodes n ∨ tagOf nodes n = .value ∧ tagOf nodes' n = .str
  content : ∀ n, contentOf nodes' n = contentOf nodes n ∨
    (∃ entries, contentOf nodes n = .mapping entries) ∧ ∃ entries, contentOf nodes' n
      = .mapping entries

variable {nodes nodes' nodes'' : Array Node}

theorem Settled.refl (nodes : Array Node) :
  Settled nodes nodes
  := ⟨fun _ => Or.inl rfl, fun _ => Or.inl rfl⟩

theorem Settled.trans (h : Settled nodes nodes') (h' : Settled nodes' nodes'') :
  Settled nodes nodes''
  := by
  constructor
  · intro n
    rcases h.tag n with heq | ⟨hvalue, hstr⟩
    · rw [← heq]
      apply h'.tag n
    · rcases h'.tag n with heq' | ⟨hvalue', -⟩
      · exact Or.inr ⟨hvalue, heq'.trans hstr⟩
      · rw [hstr] at hvalue'
        cases hvalue'
  · intro n
    rcases h.content n with heq | ⟨hbefore, hafter⟩
    · rw [← heq]
      apply h'.content n
    · right
      refine ⟨hbefore, ?_⟩
      rcases h'.content n with heq' | ⟨-, hafter'⟩
      · rw [heq']
        apply hafter
      · apply hafter'

/-- A mapping stays one. -/
theorem Settled.mapping (h : Settled nodes nodes') {n : Nat}
    (hn : ∃ entries, contentOf nodes n = .mapping entries) :
  ∃ entries, contentOf nodes' n = .mapping entries
  := by
  rcases h.content n with heq | ⟨-, hafter⟩
  · rw [heq]
    apply hn
  · apply hafter

/-- A mapping gets other entries. -/
theorem settled_withEntries {n : Nat} (hn : ∃ entries, contentOf nodes n = .mapping entries)
    (entries : List (Nat × Nat)) :
  Settled nodes (withEntries nodes n entries)
  := by
  constructor
  · intro m
    left
    rw [tagOf, withEntries, Array.getElem?_modify]
    split
    · rw [Option.map_map]
      rfl
    · rfl
  · intro m
    rw [contentOf, withEntries, Array.getElem?_modify]
    split
    · rename_i heq
      subst heq
      right
      refine ⟨hn, entries, ?_⟩
      cases hnode : nodes[n]? with
      | none => simp [contentOf, hnode] at hn
      | some node => rfl
    · exact Or.inl rfl

/-- A key that stands for a default value becomes a text. -/
theorem settled_settleKey (nodes : Array Node) (n : Nat) :
  Settled nodes (settleKey nodes n)
  := by
  rw [settleKey]
  split
  · rename_i hvalue
    constructor
    · intro m
      rw [tagOf, Array.getElem?_modify]
      split
      · rename_i heq
        subst heq
        right
        refine ⟨hvalue, ?_⟩
        cases hnode : nodes[n]? with
        | none => simp [tagOf, hnode] at hvalue
        | some node => rfl
      · exact Or.inl rfl
    · intro m
      left
      rw [contentOf, Array.getElem?_modify]
      split
      · rw [Option.map_map]
        rfl
      · rfl
  · apply Settled.refl

theorem settled_settleKeys (nodes : Array Node) (entries : List (Nat × Nat)) :
  Settled nodes (entries.foldl (fun nodes e => settleKey nodes e.1) nodes)
  := by
  induction entries generalizing nodes with
  | nil => apply Settled.refl
  | cons e entries ih =>
      rw [List.foldl_cons]
      apply (settled_settleKey nodes e.1).trans (ih _)

/-- Absorbing the entries that the merge keys of a mapping name settles nodes, or the text is
malformed. -/
theorem yields_absorb (fuel : Nat) (added : List (Nat × Nat)) {n : Nat}
    (hn : ∃ entries, contentOf nodes n = .mapping entries) :
  Yields (Settled nodes) (· = .malformed) (absorb fuel added nodes n)
  := by
  induction fuel generalizing added nodes n with
  | zero => exact rfl
  | succ fuel ih =>
      rw [absorb]
      split
      · have hkeys := settled_settleKeys nodes (entriesOf nodes n)
        exact hkeys.trans (settled_withEntries (hkeys.mapping hn) _)
      · rename_i named rest _
        have hrest := settled_withEntries hn rest
        -- The mapping itself stays one while what it names is absorbed.
        have hagain : ∀ {nodes'} (added : List (Nat × Nat)),
            Settled (withEntries nodes n rest) nodes' →
            Yields (Settled nodes) (· = .malformed) (absorb fuel added nodes' n) := by
          intro nodes' added hsettled
          have hall := hrest.trans hsettled
          apply (ih added (hall.mapping hn)).imp
          · intro nodes'' hsettled'
            apply hall.trans hsettled'
          · intro f hf
            apply hf
        dsimp only
        split
        · rename_i entries hnamed
          apply (ih [] ⟨entries, hnamed⟩).bind
          intro nodes' hsettled
          apply hagain _ hsettled
        · rename_i items _
          apply Yields.bind (p := fun r => Settled (withEntries nodes n rest) r.2)
          · apply yields_foldlM
            · rintro ⟨lists, nodes'⟩ item hsettled
              dsimp only
              split
              · rename_i entries hitem
                apply (ih [] ⟨entries, hitem⟩).bind
                intro nodes'' hsettled'
                exact hsettled.trans hsettled'
              · exact rfl
            · apply Settled.refl
          · rintro ⟨lists, nodes'⟩ hsettled
            apply hagain _ hsettled
        · exact rfl

/-! ### Values -/

/-- A fault of a document: the text is malformed, a scalar is no value of its tag, or a mapping has
the tag of a scalar. -/
inductive Fault.OfNodes (nodes : Array Node) : Fault → Prop where
  | malformed : OfNodes nodes .malformed
  | scalar {n : Nat} {text : String} {f : Fault} : contentOf nodes n = .scalar text →
      scalarValue (tagOf nodes n) (n + 1) text = .error f → OfNodes nodes f
  | mapping {n : Nat} {entries : List (Nat × Nat)} {f : Fault} : contentOf nodes n
      = .mapping entries → (tagOf nodes n).collection? = none → OfNodes nodes f

theorem scalarOf_of_scalar {n : Nat} {text : String} (hcontent : contentOf nodes n = .scalar text)
    (hknown : ¬ (tagOf nodes n).isUnknown = true) :
  scalarOf nodes n = scalarValue (tagOf nodes n) (n + 1) text
  := by
  rw [scalarOf, if_neg hknown, textOf, hcontent]
  cases tagOf nodes n
  all_goals rfl

/-- Nodes that are settled have values, or a fault of the document. -/
theorem yields_scalarOf (h : Settled nodes nodes') {n : Nat}
    (hn : (tagOf nodes' n).collection? = none) :
  Yields (fun _ => True) (Fault.OfNodes nodes) (scalarOf nodes' n)
  := by
  cases hv : scalarOf nodes' n with
  | ok v => trivial
  | error f =>
      by_cases hmapping : ∃ entries, contentOf nodes n = .mapping entries
      · obtain ⟨entries, hmapping⟩ := hmapping
        apply Fault.OfNodes.mapping hmapping
        rcases h.tag n with hsame | ⟨hvalue, -⟩
        · rw [← hsame]
          apply hn
        · rw [hvalue]
          rfl
      · have hsame : contentOf nodes' n = contentOf nodes n := by
          rcases h.content n with hsame | ⟨hbefore, -⟩
          · apply hsame
          · exact absurd hbefore hmapping
        by_cases hknown : (tagOf nodes' n).isUnknown = true
        · rw [scalarOf, if_pos hknown] at hv
          cases hv
          exact Fault.OfNodes.malformed
        · cases hcontent : contentOf nodes n with
          | mapping entries => exact absurd ⟨entries, hcontent⟩ hmapping
          | sequence items =>
              rw [scalarOf, if_neg hknown, textOf, hsame, hcontent] at hv
              cases hv
              exact Fault.OfNodes.malformed
          | scalar text =>
              rw [scalarOf_of_scalar (hsame.trans hcontent) hknown] at hv
              rcases h.tag n with htag | ⟨-, hstr⟩
              · rw [htag] at hv
                apply Fault.OfNodes.scalar hcontent hv
              · rw [hstr] at hv
                cases hv

namespace Visit

variable {s : Visit}

theorem yields_meet (h : Settled nodes s.nodes) (n : Nat) :
  Yields (fun s' : Visit => Settled nodes s'.nodes) (Fault.OfNodes nodes) (s.meet n)
  := by
  rw [meet]
  split
  · exact h
  · exact h
  · rename_i hn
    apply (yields_scalarOf h hn).bind
    intro v _
    exact h

theorem yields_meetEntries (h : Settled nodes s.nodes) (entries : List (Nat × Nat)) :
  Yields (fun r : Entries Nat × Visit => Settled nodes r.2.nodes) (Fault.OfNodes nodes)
    (s.meetEntries entries)
  := by
  induction entries generalizing s with
  | nil => exact h
  | cons e entries ih =>
      rw [meetEntries]
      apply (yields_meet h e.1).bind
      intro s₁ h₁
      split
      · apply (yields_meet h₁ e.2).bind
        intro s₂ h₂
        apply (ih h₂).bind
        rintro ⟨found, s₃⟩ h₃
        exact h₃
      · exact Fault.OfNodes.malformed

theorem yields_meetPairs (h : Settled nodes s.nodes) (ns : List Nat) :
  Yields (fun r : List (Nat × Nat) × Visit => Settled nodes r.2.nodes) (Fault.OfNodes nodes)
    (s.meetPairs ns)
  := by
  induction ns generalizing s with
  | nil => exact h
  | cons n ns ih =>
      rw [meetPairs]
      split
      · apply (yields_meet h _).bind
        intro s₁ h₁
        apply (yields_meet h₁ _).bind
        intro s₂ h₂
        apply (ih h₂).bind
        rintro ⟨found, s₃⟩ h₃
        exact h₃
      · exact Fault.OfNodes.malformed

theorem yields_mappingEntries (h : Settled nodes s.nodes) (n : Nat) :
  Yields (fun r : Entries Nat × Visit => Settled nodes r.2.nodes) (Fault.OfNodes nodes)
    (s.mappingEntries n)
  := by
  rw [mappingEntries]
  split
  · rename_i entries hmapping
    apply Yields.bind (p := fun nodes' => Settled nodes nodes')
    · apply (yields_absorb _ [] ⟨entries, hmapping⟩).imp
      · intro nodes' hsettled
        exact h.trans hsettled
      · rintro f rfl
        exact Fault.OfNodes.malformed
    · intro nodes' h'
      apply Yields.bind (yields_meetEntries (s := { s with nodes := nodes' }) h' _)
      rintro ⟨found, s'⟩ hmet
      exact hmet
  · exact Fault.OfNodes.malformed

/-- Filling a collection settles the nodes further, or a fault of the document is found. -/
theorem yields_fill (h : Settled nodes s.nodes) (n : Nat) :
  Yields (fun s' : Visit => Settled nodes s'.nodes) (Fault.OfNodes nodes) (s.fill n)
  := by
  have hentries : ∀ make : Entries Nat → Part, Yields (fun s' : Visit => Settled nodes s'.nodes)
      (Fault.OfNodes nodes) (s.mappingEntries n >>= fun r => .ok (r.2.setPart n (make r.1))) := by
    intro make
    apply (yields_mappingEntries h n).bind
    rintro ⟨found, s'⟩ h'
    exact h'
  have hpairs : ∀ items, Yields (fun s' : Visit => Settled nodes s'.nodes) (Fault.OfNodes nodes)
      (s.meetPairs items >>= fun r => .ok (r.2.setPart n (.pairs r.1))) := by
    intro items
    apply (yields_meetPairs h items).bind
    rintro ⟨found, s'⟩ h'
    exact h'
  rw [fill]
  split
  · apply (yields_foldlM (fun s' n' h' => yields_meet h' n') _ h).bind
    intro s' h'
    exact h'
  · exact hentries .map
  · exact hentries fun entries => .set (entries.map (·.1))
  · exact hpairs _
  · exact hpairs _
  · exact Fault.OfNodes.malformed

theorem yields_fillAll (fuel : Nat) (h : Settled nodes s.nodes) :
  Yields (fun _ => True) (Fault.OfNodes nodes) (fillAll fuel s)
  := by
  induction fuel generalizing s with
  | zero => trivial
  | succ fuel ih =>
      rw [fillAll]
      split
      · trivial
      · rename_i n waiting _
        apply Yields.bind (yields_fill (s := { s with waiting := waiting }) h n)
        intro s' h'
        apply ih h'

end Visit

theorem Document.yields_value (d : Document) :
  Yields (fun _ => True) (Fault.OfNodes d.nodes) d.value
  := by
  rw [value]
  apply Yields.bind
    (Visit.yields_meet (s := ⟨d.nodes, d.nodes.map fun _ => none, []⟩)
    (Settled.refl d.nodes) d.root)
  intro s h
  apply (Visit.yields_fillAll _ h).bind
  intro s' _
  trivial

/-! ### Texts -/

/-- A fault of a text: one of its tokens, or one of the nodes of the document that it describes. -/
inductive Fault.OfText (text : String) : Fault → Prop where
  | tokens {f : Fault} : f.OfTokens → OfText text f
  | nodes {d : Document} {f : Fault} : document text = .ok (some d) → f.OfNodes d.nodes →
      OfText text f

/-- A text can be read, or it has a fault. -/
theorem yields_read (text : String) :
  Yields (fun _ => True) (Fault.OfText text) (read text)
  := by
  rw [read]
  cases hdocument : document text with
  | error f => exact Fault.OfText.tokens ((scans_document text).of_error hdocument)
  | ok d? =>
      cases d? with
      | none => trivial
      | some d =>
          apply d.yields_value.imp
          · intro _ _
            trivial
          · intro f hf
            apply Fault.OfText.nodes hdocument hf

end AgentBundles.Yaml
