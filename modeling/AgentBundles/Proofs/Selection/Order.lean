import Mathlib.Data.List.Forall2
import AgentBundles.Proofs.Selection.Availability

/-!
# The order of a selection

In which order skills are selected has no influence on how they are judged. The findings about two
selections of the same skills are the same, in the same order, but for the order in which each of
them lists its skills, and every skill stands beside both selections alike.
-/

namespace AgentBundles

/-! ### What may differ -/

/-- Findings that are the same but for the order of their skills: they are equal, or both list their
skills between the same texts. -/
structure Finding.Alike (f g : Finding) : Prop where
  kind_eq : f.kind = g.kind
  skills_perm : f.skills.Perm g.skills
  message_listed : f = g ∨ ∃ before between after : String,
    f.message = before ++ Text.join between f.skills ++ after ∧
    g.message = before ++ Text.join between g.skills ++ after

/-- Entries of a skill that are the same but for the reason, which may name another one of the
selected skills. -/
structure Availability.Alike (a b : Availability) : Prop where
  skill_eq : a.skill = b.skill
  category_eq : a.category = b.category
  status_eq : a.status = b.status
  selected_eq : a.selected = b.selected
  alternatives_eq : a.alternatives = b.alternatives

namespace Finding

theorem Alike.refl (f : Finding) :
  Alike f f
  := ⟨rfl, List.Perm.refl _, Or.inl rfl⟩

/-- Findings that are alike are equally grave. -/
theorem Alike.severity_eq {f g : Finding} (h : f.Alike g) :
  f.severity = g.severity
  := by
  rw [severity, severity, h.kind_eq]

/-- Equal findings are alike, one by one. -/
theorem forall₂_alike_of_eq {fs gs : List Finding} (h : fs = gs) :
  List.Forall₂ Alike fs gs
  := by
  rw [h]
  apply List.forall₂_same.mpr
  intro f _
  apply Alike.refl

/-- Of findings that are alike, those with some property of their kinds are alike. -/
theorem forall₂_alike_filter {fs gs : List Finding} (h : List.Forall₂ Alike fs gs)
    (p : FindingKind → Bool) :
  List.Forall₂ Alike (fs.filter fun f => p f.kind) (gs.filter fun g => p g.kind)
  := by
  apply List.rel_filter _ h
  intro f g hfg
  simp only [hfg.kind_eq]

end Finding

/-! ### Rules -/

/-- A message with a reason is the message with a text after it. -/
theorem exists_withReason_eq (reason : String) :
  ∃ after, ∀ message, withReason message reason = message ++ after
  := by
  cases h : reason.isEmpty with
  | true =>
      use ""
      intro message
      simp [withReason, h]
  | false =>
      use ": " ++ reason
      intro message
      simp [withReason, h, String.append_assoc]

/-- A conflict with one of some skills does not depend on their order. -/
theorem Catalog.conflictsWithAny_perm (c : Catalog) {selected selected' : List String}
    (h : selected.Perm selected') (name : String) :
  c.conflictsWithAny name selected = c.conflictsWithAny name selected'
  := by
  rw [conflictsWithAny, conflictsWithAny]
  congr 1
  funext r
  cases r with
  | conflicts skills reason => simp only [conflictsByRule, h.contains_eq]
  | _ => rfl

namespace Rule

variable {c : Catalog} {selected selected' : List String}

/-- Findings that list the skills that are present are alike for lists of the same skills. -/
theorem forall₂_alike_listed {present present' : List String} (h : present.Perm present')
    (p : Nat → Prop) [DecidablePred p] (kind : FindingKind) (message : List String → String)
    (hmessage : ∃ before between after, ∀ names,
      message names = before ++ Text.join between names ++ after) :
  List.Forall₂ Finding.Alike (if p present.length then [] else [⟨kind, message present, present⟩])
    (if p present'.length then [] else [⟨kind, message present', present'⟩])
  := by
  obtain ⟨before, between, after, hmessage⟩ := hmessage
  rw [h.length_eq]
  split
  · apply List.Forall₂.nil
  · apply List.Forall₂.cons _ List.Forall₂.nil
    exact {
      kind_eq := rfl
      skills_perm := h
      message_listed := Or.inr ⟨before, between, after, hmessage present, hmessage present'⟩ }

/-- The findings of a rule about selections of the same skills are alike, one by one. -/
theorem findings_alike (h : selected.Perm selected') (r : Rule) :
  List.Forall₂ Finding.Alike (r.findings c selected) (r.findings c selected')
  := by
  have hmem : ∀ a, selected.contains a = selected'.contains a := by
    intro a
    apply h.contains_eq
  have hcontains : selected.contains = selected'.contains := funext hmem
  have hpresent : ∀ skills, (presentOf skills selected).Perm (presentOf skills selected') := by
    intro skills
    apply h.filter
  cases r with
  | conflicts skills reason =>
      apply forall₂_alike_listed (hpresent skills) (· < 2) .conflict
        (fun names => withReason (Text.join " conflicts with " names) reason)
      obtain ⟨after, hafter⟩ := exists_withReason_eq reason
      use "", " conflicts with ", after
      intro names
      rw [hafter, String.empty_append]
  | discourages skills reason =>
      apply forall₂_alike_listed (hpresent skills) (· < 2) .discouraged
        (fun names => withReason (Text.join " with " names ++ " is discouraged") reason)
      obtain ⟨after, hafter⟩ := exists_withReason_eq reason
      use "", " with ", " is discouraged" ++ after
      intro names
      rw [hafter, String.empty_append, String.append_assoc]
  | exclusiveCategory category skills =>
      apply forall₂_alike_listed (hpresent skills) (· ≤ 1) .categoryExclusive
        (fun names => "Category " ++ Text.inQuotes category ++
          " only allows one selection, but multiple selected: " ++ Text.join ", " names)
      use "Category " ++ Text.inQuotes category ++
        " only allows one selection, but multiple selected: ", ", ", ""
      intro names
      rw [String.append_empty]
  | requires skill needs mode reason =>
      apply Finding.forall₂_alike_of_eq
      simp only [findings, hmem, hcontains]
  | recommends skill suggest reason =>
      apply Finding.forall₂_alike_of_eq
      simp only [findings, missingSuggestions, hmem, c.conflictsWithAny_perm h]
  | requiredCategory category skills =>
      apply Finding.forall₂_alike_of_eq
      simp only [findings, h.any_eq]
  | setupFor setup usage =>
      apply Finding.forall₂_alike_of_eq
      simp only [findings, hmem, hcontains]
  | alternatives purpose skills => exact List.Forall₂.nil

/-- Whether there is a hint about a skill beside others of its group does not depend on their
order. -/
theorem status_of_others_perm {x : String} {skills others others' : List String}
    (h : others.Perm others') {hint : String → Hint} {s : Status} (hs : ∀ o, (hint o).status = s) :
  (if !skills.contains x then none else others.head?.map hint).map (·.status)
    = (if !skills.contains x then none else others'.head?.map hint).map (·.status)
  := by
  split
  · rfl
  · cases others with
    | nil => rw [h.nil_eq]
    | cons o others =>
        cases others' with
        | nil => cases h.eq_nil
        | cons o' others' => simp [hs]

/-- The hints of a rule about a skill beside selections of the same skills have one status. -/
theorem hint?_status_perm (h : selected.Perm selected') (x : String) (r : Rule) :
  (r.hint? x selected).map (·.status) = (r.hint? x selected').map (·.status)
  := by
  have hothers : ∀ skills, (othersOf x skills selected).Perm (othersOf x skills selected') := by
    intro skills
    apply h.filter
  cases r with
  | conflicts skills reason => exact status_of_others_perm (hothers skills) fun _ => rfl
  | discourages skills reason => exact status_of_others_perm (hothers skills) fun _ => rfl
  | exclusiveCategory category skills => exact status_of_others_perm (hothers skills) fun _ => rfl
  | recommends skill suggest reason => simp only [hint?, h.contains_eq]
  | _ => rfl

end Rule

/-- Hints with the same statuses give one status. -/
theorem statusOf_eq_of_map_eq {hints hints' : List Hint}
    (h : hints.map (·.status) = hints'.map (·.status)) :
  statusOf hints = statusOf hints'
  := by
  have hiff : ∀ s, s ≠ .selectable → (statusOf hints = s ↔ statusOf hints' = s) := by
    intro s hs
    have hexists : ∀ t, (∃ g ∈ hints, g.status = t) ↔ ∃ g ∈ hints', g.status = t := by
      intro t
      rw [← List.mem_map, h, List.mem_map]
    have hforall : (∀ g ∈ hints, s.rank ≤ g.status.rank)
        ↔ ∀ g ∈ hints', s.rank ≤ g.status.rank := by
      rw [← List.forall_mem_map (P := fun t : Status => s.rank ≤ t.rank), h, List.forall_mem_map]
    rw [statusOf_eq_iff hs, statusOf_eq_iff hs, hexists, hforall]
  by_cases hs : statusOf hints = .selectable
  · by_cases hs' : statusOf hints' = .selectable
    · rw [hs, hs']
    · exact (hiff _ hs').mpr rfl
  · exact ((hiff _ hs).mp rfl).symm

/-! ### Catalogs -/

namespace Catalog

variable {c : Catalog} {s s' : Selection String}

/-- The same skills are selected once short names are resolved. -/
theorem resolveSelection_perm (h : s.ids.Perm s'.ids) :
  (c.resolveSelection s).ids.Perm (c.resolveSelection s').ids
  := by
  apply (List.perm_ext_iff_of_nodup (Text.nodup_distinct _) (Text.nodup_distinct _)).mpr
  intro id
  rw [Text.mem_distinct, Text.mem_distinct]
  apply (h.map c.resolve).mem_iff

/-- A skill stands alike beside selections of the same skills. -/
theorem availabilityOf_alike {selected selected' : List String} (h : selected.Perm selected')
    (t : Skill) :
  (c.availabilityOf selected t).Alike (c.availabilityOf selected' t)
  := by
  have hstatus : ((c.rulesFor t.id).filterMap (·.hint? t.id selected)).map (·.status)
      = ((c.rulesFor t.id).filterMap (·.hint? t.id selected')).map (·.status) := by
    rw [List.map_filterMap, List.map_filterMap]
    apply List.filterMap_congr
    intro r _
    apply Rule.hint?_status_perm h
  exact {
    skill_eq := rfl
    category_eq := rfl
    status_eq := statusOf_eq_of_map_eq hstatus
    selected_eq := h.contains_eq
    alternatives_eq := rfl }

/-- Findings that are all about unknown identifiers, or all not. -/
theorem filter_unknownSkill {fs : List Finding} :
  ((∀ f ∈ fs, f.kind = .unknownSkill) →
      fs.filter (·.kind == .unknownSkill) = fs ∧ fs.filter (·.kind != .unknownSkill) = []) ∧
    ((∀ f ∈ fs, f.kind ≠ .unknownSkill) →
      fs.filter (·.kind == .unknownSkill) = [] ∧ fs.filter (·.kind != .unknownSkill) = fs)
  := by
  constructor
  · intro h
    simpa [List.filter_eq_self, List.filter_eq_nil_iff] using h
  · intro h
    simpa [List.filter_eq_self, List.filter_eq_nil_iff] using h

/-- What is found in a selection is about its unknown identifiers, and else what the rules find. -/
theorem findings_filter_unknownSkill (s : Selection String) :
  (c.findings s).filter (·.kind == .unknownSkill)
    = (s.ids.filter fun id => !c.contains id).map unknownSkill ∧
    (c.findings s).filter (·.kind != .unknownSkill)
      = c.rules.flatMap (·.findings c (s.ids.filter c.contains))
  := by
  have hunknown : ∀ f ∈ (s.ids.filter fun id => !c.contains id).map unknownSkill, f.kind
      = .unknownSkill := by
    rw [List.forall_mem_map]
    intro id _
    rfl
  have hrules : ∀ f ∈ c.rules.flatMap (·.findings c (s.ids.filter c.contains)), f.kind
      ≠ .unknownSkill := by
    intro f hf heq
    obtain ⟨r, -, hf⟩ := List.mem_flatMap.mp hf
    have hkind := Rule.kind?_of_mem_findings hf
    rw [heq] at hkind
    cases r with
    | _ => cases hkind
  obtain ⟨hall, hnone⟩ := filter_unknownSkill.1 hunknown
  obtain ⟨hnone', hall'⟩ := filter_unknownSkill.2 hrules
  rw [findings, List.filter_append, List.filter_append, hall, hnone, hnone', hall']
  exact ⟨List.append_nil _, List.nil_append _⟩

/-- Two selections of the same known and unknown identifiers have the same findings, in the same
order but for those about the unknown ones, and with the same kinds in the same places. -/
theorem findings_perm (h : s.ids.Perm s'.ids) :
  ((c.findings s).filter (·.kind == .unknownSkill)).Perm
    ((c.findings s').filter (·.kind == .unknownSkill)) ∧
    List.Forall₂ Finding.Alike ((c.findings s).filter (·.kind != .unknownSkill))
      ((c.findings s').filter (·.kind != .unknownSkill)) ∧
    (c.findings s).map (·.kind) = (c.findings s').map (·.kind)
  := by
  obtain ⟨hunknown, hrules⟩ := findings_filter_unknownSkill (c := c) s
  obtain ⟨hunknown', hrules'⟩ := findings_filter_unknownSkill (c := c) s'
  have hperm := h.filter fun id => !c.contains id
  have halike :
      List.Forall₂ Finding.Alike (c.rules.flatMap (·.findings c (s.ids.filter c.contains)))
      (c.rules.flatMap (·.findings c (s'.ids.filter c.contains))) := by
    have hrules : List.Forall₂ (· = ·) c.rules c.rules := List.forall₂_refl _
    apply List.rel_flatMap hrules
    rintro r _ rfl
    apply Rule.findings_alike (h.filter c.contains)
  refine ⟨?_, ?_, ?_⟩
  · rw [hunknown, hunknown']
    apply hperm.map
  · rw [hrules, hrules']
    apply halike
  · have hkinds : ∀ ids : List String,
        (ids.map unknownSkill).map (·.kind) = List.replicate ids.length .unknownSkill := by
      intro ids
      rw [List.map_map]
      apply List.map_const'
    rw [findings, findings, List.map_append, List.map_append, hkinds, hkinds, hperm.length_eq]
    congr 1
    rw [← List.forall₂_eq_eq_eq]
    apply List.rel_map _ halike
    intro f g hfg
    apply hfg.kind_eq

/-- In which order skills are selected has no influence on how they are judged. Selections of the
same identifiers are both accepted or both not. The kinds of their errors are the same in the same
places; their errors about unknown identifiers are the same up to their order, and their other
errors and their warnings are the same one by one, up to the order in which each lists its skills.
Every skill stands beside both with the same status and the same alternatives, and is selected in
both or in neither. -/
theorem validate_perm (c : Catalog) (h : s.ids.Perm s'.ids) :
  (c.validate s).ok = (c.validate s').ok ∧
    (c.validate s).errors.map (·.kind) = (c.validate s').errors.map (·.kind) ∧
    ((c.validate s).errors.filter (·.kind == .unknownSkill)).Perm
      ((c.validate s').errors.filter (·.kind == .unknownSkill)) ∧
    List.Forall₂ Finding.Alike ((c.validate s).errors.filter (·.kind != .unknownSkill))
      ((c.validate s').errors.filter (·.kind != .unknownSkill)) ∧
    List.Forall₂ Finding.Alike (c.validate s).warnings (c.validate s').warnings ∧
    List.Forall₂ Availability.Alike (c.availability s) (c.availability s')
  := by
  have hresolved := resolveSelection_perm (c := c) h
  obtain ⟨hunknown, halike, hkinds⟩ := findings_perm (c := c) hresolved
  have herrors : (c.validate s).errors.map (·.kind) = (c.validate s').errors.map (·.kind) := by
    have hfilter : ∀ fs : List Finding, (fs.filter fun f => f.severity == .error).map (·.kind)
        = (fs.map (·.kind)).filter fun k => k.severity == .error := by
      intro fs
      rw [List.filter_map]
      rfl
    rw [validate, validate, hfilter, hfilter, hkinds]
  have hwarnings : ∀ s : Selection String, (c.validate s).warnings
      = ((c.findings (c.resolveSelection s)).filter (·.kind != .unknownSkill)).filter
          fun f => f.severity == .warning := by
    intro s
    rw [validate, List.filter_filter]
    apply List.filter_congr
    intro f _
    rw [Finding.severity]
    cases f.kind with
    | _ => rfl
  refine ⟨?_, herrors, ?_, ?_, ?_, ?_⟩
  · rw [SelectionResult.ok, SelectionResult.ok, ← List.isEmpty_map, herrors, List.isEmpty_map]
  · rw [validate, validate, List.filter_comm,
      List.filter_comm _ _ (c.findings (c.resolveSelection s'))]
    apply hunknown.filter
  · rw [validate, validate, List.filter_comm,
      List.filter_comm _ _ (c.findings (c.resolveSelection s'))]
    apply Finding.forall₂_alike_filter halike fun k => k.severity == .error
  · rw [hwarnings, hwarnings]
    apply Finding.forall₂_alike_filter halike fun k => k.severity == .warning
  · rw [availability, availability, List.forall₂_map_left_iff, List.forall₂_map_right_iff]
    apply List.forall₂_same.mpr
    intro t _
    apply availabilityOf_alike hresolved

/-- Two frameworks that conflict and two unknown identifiers, selected in two orders: the errors are
not equal, but the same up to these orders, and each framework is disabled beside the other. -/
theorem validate_perm_frameworks :
  let s : Selection String := .ofList ["r", "next", "vue", "nuxt"]
  let s' : Selection String := .ofList ["vue", "nuxt", "next", "r"]
  s.ids.Perm s'.ids ∧ (frameworks.validate s).errors ≠ (frameworks.validate s').errors ∧
    (frameworks.validate s).errors.map (·.kind) = (frameworks.validate s').errors.map (·.kind) ∧
    List.Forall₂ Finding.Alike ((frameworks.validate s).errors.filter (·.kind != .unknownSkill))
      ((frameworks.validate s').errors.filter (·.kind != .unknownSkill)) ∧
    List.Forall₂ Availability.Alike (frameworks.availability s) (frameworks.availability s')
  := by
  have h : (Selection.ofList ["r", "next", "vue", "nuxt"]).ids.Perm
      (Selection.ofList ["vue", "nuxt", "next", "r"]).ids := by
    decide
  obtain ⟨-, hkinds, -, halike, -, hentries⟩ := validate_perm frameworks h
  refine ⟨h, ?_, hkinds, halike, hentries⟩
  decide

end Catalog

end AgentBundles
