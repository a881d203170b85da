import AgentBundles.Proofs.Selection.Availability

/-!
# What validation suggests

Validation suggests skills that a selected one recommends, but none that a selected one conflicts
with. A suggested skill may be selected without a conflict. It is disabled, and selecting it is an
error, exactly if another skill of its category is selected and the category is exclusive: whether
it is, is not asked when skills are suggested.
-/

namespace AgentBundles

/-- Of a selection without repetitions, at least two of some skills are present, and a skill is one
of them, exactly if it and another one of them are selected. -/
theorem two_le_presentOf_iff {skills selected : List String} (hnodup : selected.Nodup)
    {x : String} :
  (¬ (presentOf skills selected).length < 2 ∧ x ∈ presentOf skills selected)
    ↔ (x ∈ skills ∧ x ∈ selected) ∧ ∃ s ∈ skills, s ≠ x ∧ s ∈ selected
  := by
  rw [length_presentOf_lt_two_iff hnodup, mem_presentOf, and_comm, and_comm (a := x ∈ selected)]
  apply and_congr_right
  rintro ⟨hx, hxs⟩
  constructor
  · intro h
    by_contra hnone
    apply h
    have hall : ∀ s ∈ skills, s ∈ selected → s = x := by
      intro s hs hss
      by_contra hne
      exact hnone ⟨s, hs, hne, hss⟩
    intro a ha b hb has hbs
    rw [hall a ha has, hall b hb hbs]
  · rintro ⟨s, hs, hne, hss⟩ h
    exact hne (h s hs x hx hss hxs)

theorem othersOf_ne_nil_iff {skills selected : List String} {x : String} :
  othersOf x skills selected ≠ [] ↔ ∃ s ∈ skills, s ≠ x ∧ s ∈ selected
  := by
  rw [othersOf, ne_eq, List.filter_eq_nil_iff]
  simp only [Bool.and_eq_true, List.contains_iff_mem, bne_iff_ne, not_forall, not_not, exists_prop]
  constructor
  · rintro ⟨s, hss, hs, hne⟩
    exact ⟨s, hs, hne, hss⟩
  · rintro ⟨s, hs, hne, hss⟩
    exact ⟨s, hss, hs, hne⟩

namespace Catalog

variable {m : Record.Matrix} {records : List Record.Skill} {c : Catalog} {y : String}

/-- The identifiers of a selection that are those of skills. -/
def knownOf (c : Catalog) (s : Selection String) : List String :=
  (c.resolveSelection s).ids.filter c.contains

theorem nodup_knownOf (s : Selection String) :
  (c.knownOf s).Nodup
  := (Text.nodup_distinct _).filter _

/-- Selecting one more name adds what the name stands for. -/
theorem mem_knownOf_insert {s : Selection String} {i : String} :
  i ∈ c.knownOf (s.insert y) ↔ (i ∈ c.knownOf s ∨ i = c.resolve y) ∧ c.contains i = true
  := by
  have hinsert : ∀ s : Selection String, i ∈ c.knownOf s ↔ (∃ name ∈ s.ids, c.resolve name = i) ∧
      c.contains i = true := by
    intro s
    rw [knownOf, List.mem_filter, resolveSelection, Selection.map, Selection.ofList,
      Text.mem_distinct, List.mem_map]
  rw [hinsert, hinsert, Selection.insert, Selection.ofList]
  simp only [Text.mem_distinct, List.mem_append, List.mem_singleton]
  constructor
  · rintro ⟨⟨name, hname | rfl, rfl⟩, hi⟩
    · exact ⟨Or.inl ⟨⟨name, hname, rfl⟩, hi⟩, hi⟩
    · exact ⟨Or.inr rfl, hi⟩
  · rintro ⟨⟨⟨name, hname, rfl⟩, -⟩ | rfl, hi⟩
    · exact ⟨⟨name, Or.inl hname, rfl⟩, hi⟩
    · exact ⟨⟨y, Or.inr rfl, rfl⟩, hi⟩

/-! ### Conflicts -/

/-- A skill conflicts with one of a selection exactly if a rule for what it stands for mentions one
of the selection. -/
theorem conflictsWithAny_iff {selected : List String} :
  c.conflictsWithAny y selected = true
    ↔ ∃ skills reason, .conflicts skills reason ∈ c.rules ∧ c.resolve y ∈ skills ∧
    ∃ s ∈ skills, s ≠ y ∧ s ∈ selected
  := by
  rw [conflictsWithAny, List.any_eq_true]
  constructor
  · rintro ⟨r, hr, hconflict⟩
    rw [rulesFor_eq_filter, List.mem_filter] at hr
    cases r with
    | conflicts skills reason =>
        refine ⟨skills, reason, hr.1, List.contains_iff_mem.mp hr.2, ?_⟩
        simpa [conflictsByRule] using hconflict
    | _ => cases hconflict
  · rintro ⟨skills, reason, hr, hy, hother⟩
    use .conflicts skills reason
    constructor
    · rw [rulesFor_eq_filter, List.mem_filter]
      exact ⟨hr, List.contains_iff_mem.mpr hy⟩
    · simpa [conflictsByRule] using hother

/-- A skill is in an error of a conflict exactly if it and another skill of a conflict are
selected. -/
theorem exists_conflict_iff {s : Selection String} :
  (∃ e ∈ (c.validate s).errors, e.kind = .conflict ∧ y ∈ e.skills)
    ↔ ∃ skills reason, .conflicts skills reason ∈ c.rules ∧ (y ∈ skills ∧ y ∈ c.knownOf s) ∧
      ∃ i ∈ skills, i ≠ y ∧ i ∈ c.knownOf s
  := by
  rw [exists_error_iff (p := fun e => e.kind = .conflict ∧ y ∈ e.skills)
    (fun f hf => by rw [Finding.severity, hf.1]; rfl) (fun f hf => by simp [hf.1]), ← knownOf]
  constructor
  · rintro ⟨r, hr, e, he, hkind, hy⟩
    have hk := Rule.kind?_of_mem_findings he
    rw [hkind] at hk
    cases r with
    | conflicts skills reason =>
        obtain ⟨hlength, rfl⟩ := Rule.exists_mem_ite_iff.mp ⟨e, he, rfl⟩
        exact ⟨skills, reason, hr, (two_le_presentOf_iff (nodup_knownOf s)).mp ⟨hlength, hy⟩⟩
    | _ => cases hk
  · rintro ⟨skills, reason, hr, hboth⟩
    obtain ⟨hlength, hy⟩ := (two_le_presentOf_iff (nodup_knownOf s)).mpr hboth
    exact ⟨_, hr, Rule.exists_mem_ite_iff.mpr ⟨hlength, rfl, hy⟩⟩

/-! ### Exclusive categories -/

/-- Relations make no rules of exclusive categories. -/
theorem exclusiveCategory_not_mem_relationRules (k : String) (skills : List String) :
  .exclusiveCategory k skills ∉ relationRules m records
  := by
  have hne : ∀ r ∈ relationRules m records, r ≠ .exclusiveCategory k skills := by
    simp only [relationRules, matrixRules, metadataRules, List.map_append, map_snd_numberedRules,
      List.forall_mem_append, List.forall_mem_map, List.forall_mem_flatMap, forall_unlessEmpty_iff]
    simp
  intro hmem
  exact hne _ hmem rfl

/-- The rules of exclusive categories are those of the exclusive categories with more than one
skill. -/
theorem Built.exclusiveCategory_mem_iff (h : Built m records c) {k : String}
    {skills : List String} :
  .exclusiveCategory k skills ∈ c.rules
    ↔ c.isExclusive k = true ∧ skills = c.skillsInCategory k ∧ 1 < skills.length
  := by
  have hrelations : .exclusiveCategory k skills ∉ dropCovered (relationRules m records) :=
    fun hmem => exclusiveCategory_not_mem_relationRules k skills (dropCovered_subset _ hmem)
  rw [h.rules_eq, List.mem_append, or_iff_right hrelations, categoryRules, List.mem_append,
    List.mem_map, List.mem_map]
  constructor
  · rintro (⟨k', hk, heq⟩ | ⟨e, -, heq⟩)
    · cases heq
      simp only [List.mem_filter, Bool.and_eq_true, decide_eq_true_eq] at hk
      exact ⟨hk.2.1, rfl, hk.2.2⟩
    · cases heq
  · rintro ⟨hexclusive, rfl, hlength⟩
    left
    refine ⟨k, ?_, rfl⟩
    obtain ⟨id, hid⟩ := List.exists_mem_of_length_pos (Nat.zero_lt_of_lt hlength)
    rw [List.mem_filter, Bool.and_eq_true, decide_eq_true_eq]
    exact ⟨mem_categories_of_mem_members hid, hexclusive, hlength⟩

/-- Of two skills of an exclusive category a rule says that they exclude each other. -/
theorem Built.exclusiveCategory_mem (h : Built m records c) {k i : String}
    (hk : c.isExclusive k = true) (hy : y ∈ c.skillsInCategory k) (hi : i ∈ c.skillsInCategory k)
    (hne : i ≠ y) :
  .exclusiveCategory k (c.skillsInCategory k) ∈ c.rules
  := by
  apply h.exclusiveCategory_mem_iff.mpr
  refine ⟨hk, rfl, ?_⟩
  by_contra hlength
  have hone : AtMostOne (c.skillsInCategory k) [i, y] := atMostOne_of_length_le_one (by omega)
  exact hne (hone i hi y hy (by simp) (by simp))

/-- A skill is in an error of an exclusive category exactly if it and another skill of one are
selected. -/
theorem Built.exists_categoryExclusive_iff (h : Built m records c) {s : Selection String} :
  (∃ e ∈ (c.validate s).errors, e.kind = .categoryExclusive ∧ y ∈ e.skills)
    ↔ ∃ k, c.isExclusive k = true ∧ (y ∈ c.skillsInCategory k ∧ y ∈ c.knownOf s) ∧
      ∃ i ∈ c.skillsInCategory k, i ≠ y ∧ i ∈ c.knownOf s
  := by
  rw [exists_error_iff (p := fun e => e.kind = .categoryExclusive ∧ y ∈ e.skills)
    (fun f hf => by rw [Finding.severity, hf.1]; rfl) (fun f hf => by simp [hf.1]), ← knownOf]
  constructor
  · rintro ⟨r, hr, e, he, hkind, hy⟩
    have hk := Rule.kind?_of_mem_findings he
    rw [hkind] at hk
    cases r with
    | exclusiveCategory k skills =>
        obtain ⟨hlength, rfl⟩ := Rule.exists_mem_ite_iff.mp ⟨e, he, rfl⟩
        obtain ⟨hexclusive, rfl, -⟩ := h.exclusiveCategory_mem_iff.mp hr
        refine ⟨k, hexclusive, (two_le_presentOf_iff (nodup_knownOf s)).mp ⟨?_, hy⟩⟩
        omega
    | _ => cases hk
  · rintro ⟨k, hexclusive, ⟨hy, hys⟩, i, hi, hne, his⟩
    obtain ⟨hlength, hmem⟩ :=
      (two_le_presentOf_iff (nodup_knownOf s)).mpr ⟨⟨hy, hys⟩, i, hi, hne, his⟩
    refine ⟨_, h.exclusiveCategory_mem hexclusive hy hi hne,
      Rule.exists_mem_ite_iff.mpr ⟨?_, rfl, hmem⟩⟩
    omega

/-! ### Suggestions -/

/-- A skill that validation suggests is one of the catalog that is not selected, and conflicts with
none that is. -/
theorem Built.of_suggests (h : Built m records c) {s : Selection String} {f : Finding}
    (hf : f ∈ (c.validate s).warnings) (hy : f.Suggests y) :
  c.contains y = true ∧ y ∉ (c.resolveSelection s).ids ∧ c.conflictsWithAny y (c.knownOf s) = false
  := by
  obtain ⟨r, hr, g, hg, hkind, skill, hskills⟩ :=
    (exists_warning_iff (p := fun f => f.Suggests y) (fun f hf => hf.severity_eq)).mp ⟨f, hf, hy⟩
  have hk := Rule.kind?_of_mem_findings hg
  rw [hkind] at hk
  cases r with
  | recommends skill' suggest reason =>
      rw [Rule.findings] at hg
      split at hg
      · cases hg
      · obtain ⟨i, hi, rfl⟩ := List.mem_map.mp hg
        cases hskills
        simp only [List.mem_filter, Bool.not_eq_true', Bool.or_eq_false_iff] at hi
        obtain ⟨hsuggest, hnot, hfree⟩ := hi
        have hcontains := h.contains_of_mem_references hr (List.mem_cons_of_mem _ hsuggest)
        refine ⟨hcontains, ?_, hfree⟩
        intro hmem
        rw [List.contains_iff_mem.mpr (List.mem_filter.mpr ⟨hmem, hcontains⟩)] at hnot
        cases hnot
  | _ => cases hk

/-- Beside a selection without conflicts of a skill, the skill is disabled exactly if another skill
of an exclusive category of it is selected, and if the category is also that of the skill that its
name stands for. -/
theorem Built.disabled_iff_of_no_conflict (h : Built m records c) {s : Selection String}
    (hnot : y ∉ (c.resolveSelection s).ids) (hfree : c.conflictsWithAny y (c.knownOf s) = false) :
  (∃ g ∈ (c.rulesFor y).filterMap (·.hint? y (c.resolveSelection s).ids), g.status = .disabled)
    ↔ ∃ k, c.isExclusive k = true ∧ y ∈ c.skillsInCategory k ∧ c.resolve y ∈ c.skillsInCategory k ∧
      ∃ i ∈ (c.resolveSelection s).ids, i ∈ c.skillsInCategory k
  := by
  simp only [List.mem_filterMap, rulesFor_eq_filter, List.mem_filter]
  constructor
  · rintro ⟨g, ⟨r, ⟨hr, hmentions⟩, hg⟩, hstatus⟩
    have hs := Rule.status?_of_hint? hg
    rw [hstatus] at hs
    cases r with
    | conflicts skills reason =>
        obtain ⟨-, hothers⟩ := Rule.conflicts_disables_iff.mp ⟨g, hg, hstatus⟩
        obtain ⟨i, hi, hne, his⟩ := othersOf_ne_nil_iff.mp hothers
        have hknown : i ∈ c.knownOf s :=
          List.mem_filter.mpr ⟨his, h.contains_of_mem_references hr hi⟩
        have hconflict : c.conflictsWithAny y (c.knownOf s) = true :=
          conflictsWithAny_iff.mpr ⟨skills, reason, hr, List.contains_iff_mem.mp hmentions, i, hi,
            hne, hknown⟩
        rw [hfree] at hconflict
        cases hconflict
    | exclusiveCategory k skills =>
        obtain ⟨hexclusive, rfl, -⟩ := h.exclusiveCategory_mem_iff.mp hr
        obtain ⟨hy, hothers⟩ := Rule.exclusiveCategory_disables_iff.mp ⟨g, hg, hstatus⟩
        obtain ⟨i, hi, -, his⟩ := othersOf_ne_nil_iff.mp hothers
        exact ⟨k, hexclusive, hy, List.contains_iff_mem.mp hmentions, i, his, hi⟩
    | _ => cases hs
  · rintro ⟨k, hexclusive, hy, hresolve, i, his, hi⟩
    have hne : i ≠ y := by
      rintro rfl
      exact hnot his
    have hothers : othersOf y (c.skillsInCategory k) (c.resolveSelection s).ids ≠ [] :=
      othersOf_ne_nil_iff.mpr ⟨i, hi, hne, his⟩
    have hr := h.exclusiveCategory_mem hexclusive hy hi hne
    obtain ⟨g, hg, hstatus⟩ := Rule.exclusiveCategory_disables_iff.mpr ⟨hy, hothers⟩
    exact ⟨g, ⟨_, ⟨hr, List.contains_iff_mem.mpr hresolve⟩, hg⟩, hstatus⟩

/-- A skill that validation suggests may be selected without a conflict about it. Selecting it makes
an error of an exclusive category that is about it exactly if another skill of an exclusive category
of it is selected; and exactly then it is disabled beside the selection. If the identifier of the
skill is also a short name for another skill, then it is that skill that is selected in its place,
and the skill is disabled only if both are of the category. -/
theorem suggested_selectable_iff (hbuild : build m records = .ok c) (s : Selection String)
    {f : Finding} (hf : f ∈ (c.validate s).warnings) (hy : f.Suggests y) :
  (∀ e ∈ (c.validate (s.insert y)).errors, e.kind = .conflict → y ∉ e.skills) ∧
    ((∃ e ∈ (c.validate (s.insert y)).errors, e.kind = .categoryExclusive ∧ y ∈ e.skills)
      ↔ c.resolve y = y ∧ ∃ k, c.isExclusive k = true ∧ y ∈ c.skillsInCategory k ∧
        ∃ i ∈ (c.resolveSelection s).ids, i ∈ c.skillsInCategory k) ∧
    ∃ a, (c.availability s).find? (fun a => a.skill == y) = some a ∧
      (a.status = .disabled
        ↔ ∃ k, c.isExclusive k = true ∧ y ∈ c.skillsInCategory k ∧
        c.resolve y ∈ c.skillsInCategory k ∧
          ∃ i ∈ (c.resolveSelection s).ids, i ∈ c.skillsInCategory k)
  := by
  have h := built_of_build hbuild
  obtain ⟨hcontains, hnot, hfree⟩ := h.of_suggests hf hy
  have hnew : y ∉ c.knownOf s := fun hmem => hnot (List.mem_of_mem_filter hmem)
  have hself : y ∈ c.knownOf (s.insert y) ↔ c.resolve y = y := by
    rw [mem_knownOf_insert, or_iff_right hnew, and_iff_left hcontains]
    exact eq_comm
  -- Once the skill is selected under its own identifier, the others are those that were selected
  -- before.
  have hothers : c.resolve y = y → ∀ i, i ≠ y → (i ∈ c.knownOf (s.insert y) ↔ i ∈ c.knownOf s) := by
    intro hresolve i hne
    rw [mem_knownOf_insert, hresolve, or_iff_left hne]
    apply and_iff_left_of_imp
    exact fun hi => List.of_mem_filter hi
  refine ⟨?_, ?_, ?_⟩
  · intro e he hkind hmem
    obtain ⟨skills, reason, hr, ⟨hskills, hys⟩, i, hi, hne, his⟩ :=
      exists_conflict_iff.mp ⟨e, he, hkind, hmem⟩
    have hresolve := hself.mp hys
    have hconflict : c.conflictsWithAny y (c.knownOf s) = true := by
      apply conflictsWithAny_iff.mpr
      rw [hresolve]
      exact ⟨skills, reason, hr, hskills, i, hi, hne, (hothers hresolve i hne).mp his⟩
    rw [hfree] at hconflict
    cases hconflict
  · rw [h.exists_categoryExclusive_iff]
    constructor
    · rintro ⟨k, hexclusive, ⟨hk, hys⟩, i, hi, hne, his⟩
      have hresolve := hself.mp hys
      exact ⟨hresolve, k, hexclusive, hk, i,
        List.mem_of_mem_filter ((hothers hresolve i hne).mp his), hi⟩
    · rintro ⟨hresolve, k, hexclusive, hk, i, his, hi⟩
      have hne : i ≠ y := by
        rintro rfl
        exact hnot his
      have hknown : i ∈ c.knownOf s := List.mem_filter.mpr ⟨his, Built.contains_of_mem_members hi⟩
      exact ⟨k, hexclusive, ⟨hk, hself.mpr hresolve⟩, i, hi, hne,
        (hothers hresolve i hne).mpr hknown⟩
  · obtain ⟨t, ht, hid⟩ := List.any_eq_true.mp hcontains
    obtain rfl := eq_of_beq hid
    refine ⟨_, find?_availability h ht s, ?_⟩
    rw [← h.disabled_iff_of_no_conflict hnot hfree, ← statusOf_eq_disabled_iff]
    rfl

/-! ### A catalog with suggestions -/

/-- A record of a skill of another category than frameworks. -/
def storeRecord : Record.Skill :=
  { frameworkRecord "zustand" with
    metadata := { (frameworkRecord "zustand").metadata with category := "state" } }

/-- A matrix in which a framework recommends another one, and a skill of another category. -/
def suggestingMatrix : Record.Matrix :=
  { frameworkMatrix with
    relations :=
      { frameworkMatrix.relations with
        conflicts := [], recommends := [⟨"react", ["vue", "zustand"], ""⟩] } }

/-- Two frameworks, of which only one may be selected, and a skill of another category. -/
def suggesting : Catalog where
  version := "1.0.0"
  skills :=
    [.ofRecord (frameworkRecord "react"), .ofRecord (frameworkRecord "vue"), .ofRecord storeRecord]
  categories := []
  rules :=
    [.recommends "react" ["vue", "zustand"] "", .exclusiveCategory "framework" ["react", "vue"]]
  aliases := [("r", "react")]
  suggestedStacks := []

theorem build_suggesting :
  build suggestingMatrix [frameworkRecord "react", frameworkRecord "vue", storeRecord]
    = .ok suggesting
  := rfl

/-- The skill of another category is suggested, and nothing stands in its way. -/
theorem suggested_selectable_iff_zustand :
  ∃ f ∈ (suggesting.validate (.ofList ["r"])).warnings, f.Suggests "zustand" ∧
    (∀ e ∈ (suggesting.validate (Selection.ofList ["r"] |>.insert "zustand")).errors,
      e.kind = .conflict → "zustand" ∉ e.skills) ∧
    ∃ a, (suggesting.availability (.ofList ["r"])).find? (fun a => a.skill == "zustand") = some a ∧
      a.status ≠ .disabled
  := by
  obtain ⟨f, hf, hsuggests⟩ : ∃ f ∈ (suggesting.validate (.ofList ["r"])).warnings,
      f.Suggests "zustand" :=
    ⟨_, List.mem_cons_of_mem _ List.mem_cons_self, rfl, "react", rfl⟩
  obtain ⟨hconflict, -, a, ha, -⟩ := suggested_selectable_iff build_suggesting _ hf hsuggests
  refine ⟨f, hf, hsuggests, hconflict, a, ha, ?_⟩
  have hstatus :
      ((suggesting.availability (.ofList ["r"])).find? fun a => a.skill == "zustand").map (·.status)
        = some .recommended := rfl
  rw [ha, Option.map_some, Option.some.injEq] at hstatus
  rw [hstatus]
  decide

/-- The other framework is suggested as well, although it is disabled and selecting it is an
error. -/
theorem suggested_disabled :
  (∃ f ∈ (suggesting.validate (.ofList ["r"])).warnings, f.Suggests "vue") ∧
    ((suggesting.availability (.ofList ["r"])).find? (fun a => a.skill == "vue")).map (·.status)
      = some .disabled ∧
    ∃ e ∈ (suggesting.validate (Selection.ofList ["r"] |>.insert "vue")).errors,
      e.kind = .categoryExclusive ∧ "vue" ∈ e.skills
  := by
  refine ⟨⟨_, List.mem_cons_self, rfl, "react", rfl⟩, rfl, ⟨_, List.mem_cons_self, rfl, ?_⟩⟩
  decide

end Catalog

end AgentBundles
