import AgentBundles.Proofs.Catalog.Built
import AgentBundles.Proofs.Selection.Acceptance
import AgentBundles.Selection.Validation

/-!
# Availability and validation

How a skill stands beside a selection is what validation would find of it.  A skill that is not yet
selected is disabled, or discouraged, exactly if validating the selection with the skill at its end
finds a conflict, or discourages it; and otherwise recommended exactly if validating the selection
itself misses it.
-/

namespace AgentBundles

/-! ### The hint that counts -/

/-- The status that hints give. -/
def statusOf (hints : List Hint) : Status :=
  ((bestHint? hints).map (·.status)).getD .selectable

/-- There is a hint that counts unless there are no hints. -/
theorem bestHint?_eq_none_iff {hints : List Hint} :
  bestHint? hints = none ↔ hints = []
  := by
  cases hints with
  | nil => simp [bestHint?]
  | cons g hints =>
      rw [bestHint?]
      split
      · simp
      · split
        · simp
        · simp

/-- The hint that counts is a hint of least rank. -/
theorem bestHint?_spec {hints : List Hint} {b : Hint} (h : bestHint? hints = some b) :
  b ∈ hints ∧ ∀ g ∈ hints, b.status.rank ≤ g.status.rank
  := by
  induction hints generalizing b with
  | nil => cases h
  | cons g hints ih =>
      rw [bestHint?] at h
      match hrest : bestHint? hints with
      | none =>
          rw [hrest] at h
          cases h
          rw [bestHint?_eq_none_iff.mp hrest]
          simp
      | some b' =>
          rw [hrest] at h
          simp only at h
          obtain ⟨hmem, hle⟩ := ih hrest
          split at h
          · rename_i hlt
            cases h
            use List.mem_cons_of_mem _ hmem
            intro g' hg'
            rcases List.mem_cons.mp hg' with rfl | hg'
            · apply Nat.le_of_lt hlt
            · apply hle g' hg'
          · rename_i hlt
            cases h
            use List.mem_cons_self
            intro g' hg'
            rcases List.mem_cons.mp hg' with rfl | hg'
            · apply Nat.le_refl
            · apply Nat.le_trans (Nat.le_of_not_lt hlt) (hle g' hg')

/-- Statuses of one rank are one status. -/
theorem Status.rank_injective {s t : Status} (h : s.rank = t.rank) :
  s = t
  := by
  cases s <;> cases t <;> first | rfl | cases h

/-- Hints give a status other than the one that is given without hints exactly if one of them has
it, and none has a lesser rank. -/
theorem statusOf_eq_iff {hints : List Hint} {s : Status} (hs : s ≠ .selectable) :
  statusOf hints = s ↔ (∃ g ∈ hints, g.status = s) ∧ ∀ g ∈ hints, s.rank ≤ g.status.rank
  := by
  rw [statusOf]
  match hbest : bestHint? hints with
  | none =>
      rw [bestHint?_eq_none_iff.mp hbest]
      simp [hs.symm]
  | some b =>
      obtain ⟨hmem, hle⟩ := bestHint?_spec hbest
      simp only [Option.map_some, Option.getD_some]
      constructor
      · rintro rfl
        use ⟨b, hmem, rfl⟩, hle
      · rintro ⟨⟨g, hg, rfl⟩, hmin⟩
        apply Status.rank_injective
        apply Nat.le_antisymm (hle g hg) (hmin b hmem)

/-- Hints disable exactly if one of them does. -/
theorem statusOf_eq_disabled_iff {hints : List Hint} :
  statusOf hints = .disabled ↔ ∃ g ∈ hints, g.status = .disabled
  := by
  rw [statusOf_eq_iff (by simp)]
  simp [Status.rank]

/-- Unless they disable, hints discourage exactly if one of them does. -/
theorem statusOf_eq_discouraged_iff {hints : List Hint} (h : statusOf hints ≠ .disabled) :
  statusOf hints = .discouraged ↔ ∃ g ∈ hints, g.status = .discouraged
  := by
  rw [ne_eq, statusOf_eq_disabled_iff, not_exists] at h
  rw [statusOf_eq_iff (by simp), and_iff_left]
  intro g hg
  match hstatus : g.status with
  | .disabled => exact absurd ⟨hg, hstatus⟩ (h g)
  | .discouraged => apply Nat.le_refl
  | .recommended => simp [Status.rank]
  | .selectable => simp [Status.rank]

/-- Unless they disable or discourage, hints recommend exactly if one of them does. -/
theorem statusOf_eq_recommended_iff {hints : List Hint} (h : statusOf hints ≠ .disabled)
    (h' : statusOf hints ≠ .discouraged) :
  statusOf hints = .recommended ↔ ∃ g ∈ hints, g.status = .recommended
  := by
  rw [ne_eq, statusOf_eq_discouraged_iff h, not_exists] at h'
  rw [ne_eq, statusOf_eq_disabled_iff, not_exists] at h
  rw [statusOf_eq_iff (by simp), and_iff_left]
  intro g hg
  match hstatus : g.status with
  | .disabled => exact absurd ⟨hg, hstatus⟩ (h g)
  | .discouraged => exact absurd ⟨hg, hstatus⟩ (h' g)
  | .recommended => apply Nat.le_refl
  | .selectable => simp [Status.rank]

namespace Rule

variable {c : Catalog} {x : String} {selected : List String}

/-- Beside a selection without a skill, the selected ones of some skills are others than it. -/
theorem othersOf_eq_presentOf {skills : List String} (hx : x ∉ selected) :
  othersOf x skills selected = presentOf skills selected
  := by
  rw [othersOf, presentOf]
  apply List.filter_congr
  intro s hs
  have hne : s ≠ x := by
    rintro rfl
    apply hx hs
  simp [hne]

/-- Skills of a catalog that are selected are so among the known ones. -/
theorem presentOf_filter_contains {skills : List String}
    (hskills : ∀ s ∈ skills, c.contains s = true) :
  presentOf skills (selected.filter c.contains) = presentOf skills selected
  := by
  rw [presentOf, presentOf, List.filter_filter]
  apply List.filter_congr
  intro s _
  by_cases hs : s ∈ skills
  · simp [hs, hskills s hs]
  · simp [hs]

/-- With a skill at the end of a selection, at least two of some skills are present, and it is one
of them, exactly if it is among them and one of them was present before. -/
theorem two_le_presentOf_append_iff {skills : List String}
    (hskills : ∀ s ∈ skills, c.contains s = true) :
  (¬ (presentOf skills (selected.filter c.contains ++ [x])).length < 2 ∧
      x ∈ presentOf skills (selected.filter c.contains ++ [x]))
    ↔ x ∈ skills ∧ presentOf skills selected ≠ []
  := by
  have happend : presentOf skills (selected.filter c.contains ++ [x])
      = presentOf skills selected ++ presentOf skills [x] := by
    rw [presentOf, List.filter_append, ← presentOf, ← presentOf, presentOf_filter_contains hskills]
  by_cases hx : x ∈ skills
  · have hsingle : presentOf skills [x] = [x] := by
      simp [presentOf, hx]
    have hlength : ∀ n : Nat, ¬ n + 1 < 2 ↔ 0 < n := by
      intro n
      omega
    rw [happend, hsingle, List.length_append, List.length_singleton, hlength,
      List.length_pos_iff_ne_nil, and_iff_left (by simp), and_iff_right hx]
  · have hnot : x ∉ presentOf skills (selected.filter c.contains ++ [x]) := by
      intro h
      apply hx (mem_presentOf.mp h).2
    simp [hx, hnot]

/-- A rule that does not mention a skill has no hint about it. -/
theorem hint?_eq_none {r : Rule} (h : r.mentions x = false) :
  r.hint? x selected = none
  := by
  cases r with
  | conflicts skills reason =>
      have hx : skills.contains x = false := h
      rw [hint?, hx]
      rfl
  | discourages skills reason =>
      have hx : skills.contains x = false := h
      rw [hint?, hx]
      rfl
  | recommends skill suggest reason =>
      have hx : suggest.contains x = false := by
        have hcons : (skill :: suggest).contains x = false := h
        simp at hcons
        simp [hcons.2]
      rw [hint?, hx]
      simp
  | exclusiveCategory category skills =>
      have hx : skills.contains x = false := h
      rw [hint?, hx]
      rfl
  | _ => rfl

/-- The kind of the findings of a rule. -/
def kind? : Rule → Option FindingKind
  | .conflicts _ _ => some .conflict
  | .discourages _ _ => some .discouraged
  | .requires _ _ _ _ => some .missingRequirement
  | .recommends _ _ _ => some .missingRecommendation
  | .alternatives _ _ => none
  | .exclusiveCategory _ _ => some .categoryExclusive
  | .requiredCategory _ _ => some .categoryRequired
  | .setupFor _ _ => some .unusedSetup

theorem exists_mem_ite_iff {p : Prop} [Decidable p] {f : Finding} {q : Finding → Prop} :
  (∃ g ∈ (if p then [] else [f]), q g) ↔ ¬ p ∧ q f
  := by
  by_cases hp : p
  · simp [hp]
  · simp [hp]

/-- All findings of a rule are of its kind. -/
theorem kind?_of_mem_findings {r : Rule} {f : Finding} (hf : f ∈ r.findings c selected) :
  r.kind? = some f.kind
  := by
  cases r with
  | alternatives purpose skills => cases hf
  | requires skill needs mode reason =>
      cases mode with
      | any =>
          rw [findings] at hf
          split at hf
          · cases hf
          · obtain ⟨-, rfl⟩ := exists_mem_ite_iff.mp ⟨f, hf, rfl⟩
            rfl
      | all =>
          rw [findings] at hf
          split at hf
          · cases hf
          · obtain ⟨-, rfl⟩ := exists_mem_ite_iff.mp ⟨f, hf, rfl⟩
            rfl
  | recommends skill suggest reason =>
      rw [findings] at hf
      split at hf
      · cases hf
      · obtain ⟨s, -, rfl⟩ := List.mem_map.mp hf
        rfl
  | _ =>
      obtain ⟨-, rfl⟩ := exists_mem_ite_iff.mp ⟨f, hf, rfl⟩
      rfl

/-- The status of the hints of a rule. -/
def status? : Rule → Option Status
  | .conflicts _ _ => some .disabled
  | .discourages _ _ => some .discouraged
  | .recommends _ _ _ => some .recommended
  | .exclusiveCategory _ _ => some .disabled
  | _ => none

theorem hint_of_others_iff {skills others : List String} {hint : String → Hint} {s : Status}
    (hs : ∀ o, (hint o).status = s) :
  (∃ g, (if !skills.contains x then none else others.head?.map hint) = some g ∧ g.status = s)
    ↔ x ∈ skills ∧ others ≠ []
  := by
  by_cases hx : x ∈ skills
  · cases others with
    | nil => simp [hx]
    | cons o others => simp [hx, hs]
  · simp [hx]

/-- A conflict disables its skills beside any other of them. -/
theorem conflicts_disables_iff {skills : List String} {reason : String} :
  (∃ g, (conflicts skills reason).hint? x selected = some g ∧ g.status = .disabled)
    ↔ x ∈ skills ∧ othersOf x skills selected ≠ []
  := by
  rw [hint?]
  apply hint_of_others_iff
  intro o
  rfl

/-- An exclusive category disables its skills beside any other of them. -/
theorem exclusiveCategory_disables_iff {category : String} {skills : List String} :
  (∃ g, (exclusiveCategory category skills).hint? x selected = some g ∧ g.status = .disabled)
    ↔ x ∈ skills ∧ othersOf x skills selected ≠ []
  := by
  rw [hint?]
  apply hint_of_others_iff
  intro o
  rfl

/-- A recommendation is given beside the skill that makes it, for the skills that are not
selected. -/
theorem recommends_suggests_iff {skill : String} {suggest : List String} {reason : String}
    (hx : x ∉ selected) :
  (∃ g, (recommends skill suggest reason).hint? x selected = some g ∧ g.status = .recommended)
    ↔ skill ∈ selected ∧ x ∈ suggest
  := by
  by_cases h : skill ∈ selected ∧ x ∈ suggest
  · simp [hint?, h, hx]
  · simp [hint?, h, hx]

/-- All hints of a rule have its status. -/
theorem status?_of_hint? {r : Rule} {g : Hint} (hg : r.hint? x selected = some g) :
  r.status? = some g.status
  := by
  cases r with
  | recommends skill suggest reason =>
      rw [hint?] at hg
      split at hg
      · cases hg
        rfl
      · cases hg
  | conflicts skills reason =>
      rw [hint?] at hg
      split at hg
      · cases hg
      · obtain ⟨o, -, rfl⟩ := Option.map_eq_some_iff.mp hg
        rfl
  | discourages skills reason =>
      rw [hint?] at hg
      split at hg
      · cases hg
      · obtain ⟨o, -, rfl⟩ := Option.map_eq_some_iff.mp hg
        rfl
  | exclusiveCategory category skills =>
      rw [hint?] at hg
      split at hg
      · cases hg
      · obtain ⟨o, -, rfl⟩ := Option.map_eq_some_iff.mp hg
        rfl
  | _ => cases hg

end Rule

/-- A finding that keeps a skill from being selected. -/
def Finding.Excludes (f : Finding) (x : String) : Prop :=
  (f.kind = .conflict ∨ f.kind = .categoryExclusive) ∧ x ∈ f.skills

theorem Finding.Excludes.severity_eq {f : Finding} {x : String} (h : f.Excludes x) :
  f.severity = .error
  := by
  rcases h with ⟨hkind | hkind, -⟩
  · rw [Finding.severity, hkind]
    rfl
  · rw [Finding.severity, hkind]
    rfl

/-- A finding that advises against a skill. -/
def Finding.Discourages (f : Finding) (x : String) : Prop :=
  f.kind = .discouraged ∧ x ∈ f.skills

theorem Finding.Discourages.severity_eq {f : Finding} {x : String} (h : f.Discourages x) :
  f.severity = .warning
  := by
  rw [Finding.severity, h.1]
  rfl

/-- A finding that suggests a skill. -/
def Finding.Suggests (f : Finding) (x : String) : Prop :=
  f.kind = .missingRecommendation ∧ ∃ skill, f.skills = [skill, x]

theorem Finding.Suggests.severity_eq {f : Finding} {x : String} (h : f.Suggests x) :
  f.severity = .warning
  := by
  rw [Finding.severity, h.1]
  rfl

namespace Rule

variable {c : Catalog} {x : String} {selected : List String} {r : Rule}

/-- A rule whose hints have another status, and whose findings are of another kind, has neither such
hints nor such findings. -/
theorem exists_hint_iff_finding_of_ne {s : Status} {p : Finding → Prop} {found : List String}
    (hs : r.status? ≠ some s) (hp : ∀ f, p f → r.kind? ≠ some f.kind) :
  (∃ g, r.hint? x selected = some g ∧ g.status = s) ↔ ∃ f ∈ r.findings c found, p f
  := by
  constructor
  · rintro ⟨g, hg, rfl⟩
    exact absurd (status?_of_hint? hg) hs
  · rintro ⟨f, hf, hpf⟩
    exact absurd (kind?_of_mem_findings hf) (hp f hpf)

/-- A rule disables a skill exactly if it finds an exclusion once the skill is selected. -/
theorem disables_iff (hx : x ∉ selected) (hr : ∀ id ∈ r.references, c.contains id = true) :
  (∃ g, r.hint? x selected = some g ∧ g.status = .disabled)
    ↔ ∃ f ∈ r.findings c (selected.filter c.contains ++ [x]), f.Excludes x
  := by
  cases r with
  | conflicts skills reason =>
      have hskills : ∀ s ∈ skills, c.contains s = true := hr
      rw [conflicts_disables_iff, othersOf_eq_presentOf hx, findings, exists_mem_ite_iff,
        ← two_le_presentOf_append_iff hskills]
      simp [Finding.Excludes]
  | exclusiveCategory category skills =>
      have hskills : ∀ s ∈ skills, c.contains s = true := hr
      rw [exclusiveCategory_disables_iff, othersOf_eq_presentOf hx, findings, exists_mem_ite_iff,
        ← two_le_presentOf_append_iff hskills, Nat.not_le, Nat.lt_iff_add_one_le]
      simp [Finding.Excludes]
  | _ =>
      apply exists_hint_iff_finding_of_ne (by simp [status?])
      rintro f ⟨hkind | hkind, -⟩
      · simp [kind?, hkind]
      · simp [kind?, hkind]

/-- A rule discourages a skill exactly if it advises against it once the skill is selected. -/
theorem discourages_iff (hx : x ∉ selected) (hr : ∀ id ∈ r.references, c.contains id = true) :
  (∃ g, r.hint? x selected = some g ∧ g.status = .discouraged)
    ↔ ∃ f ∈ r.findings c (selected.filter c.contains ++ [x]), f.Discourages x
  := by
  cases r with
  | discourages skills reason =>
      have hskills : ∀ s ∈ skills, c.contains s = true := hr
      rw [hint?, hint_of_others_iff (by simp), othersOf_eq_presentOf hx, findings,
        exists_mem_ite_iff, ← two_le_presentOf_append_iff hskills]
      simp [Finding.Discourages]
  | _ =>
      apply exists_hint_iff_finding_of_ne (by simp [status?])
      rintro f ⟨hkind, -⟩
      simp [kind?, hkind]

/-- A rule recommends a skill that is in no conflict exactly if it misses it. -/
theorem recommends_iff (hx : x ∉ selected) (hr : ∀ id ∈ r.references, c.contains id = true)
    (hfree : c.conflictsWithAny x (selected.filter c.contains) = false) :
  (∃ g, r.hint? x selected = some g ∧ g.status = .recommended)
    ↔ ∃ f ∈ r.findings c (selected.filter c.contains), f.Suggests x
  := by
  cases r with
  | recommends skill suggest reason =>
      have hskill : c.contains skill = true := hr skill List.mem_cons_self
      have hnot : (selected.filter c.contains).contains x = false := by
        simp [hx]
      have hmem : (selected.filter c.contains).contains skill = true ↔ skill ∈ selected := by
        simp [hskill]
      rw [recommends_suggests_iff hx]
      constructor
      · rintro ⟨hs, hsuggest⟩
        rw [findings, hmem.mpr hs]
        use ⟨.missingRecommendation, withReason (skill ++ " recommends " ++ x) reason, [skill, x]⟩
        constructor
        · apply List.mem_map.mpr
          use x
          rw [List.mem_filter, hnot, hfree]
          simp [hsuggest]
        · use rfl, skill
      · rintro ⟨f, hf, -, w, hw⟩
        rw [findings] at hf
        split at hf
        · cases hf
        · rename_i hs
          obtain ⟨s, hs', rfl⟩ := List.mem_map.mp hf
          cases hw
          rw [List.mem_filter] at hs'
          use hmem.mp (by simpa using hs), hs'.1
  | _ =>
      apply exists_hint_iff_finding_of_ne (by simp [status?])
      rintro f ⟨hkind, -⟩
      simp [kind?, hkind]

end Rule

namespace Catalog

variable {m : Record.Matrix} {records : List Record.Skill} {c : Catalog} {x : String}

/-- The hints about a skill are those of all rules, since rules that do not mention it have none. -/
theorem exists_hint_iff (hx : c.resolve x = x) {selected : List String} {s : Status} :
  (∃ g ∈ (c.rulesFor x).filterMap (·.hint? x selected), g.status = s)
    ↔ ∃ r ∈ c.rules, ∃ g, r.hint? x selected = some g ∧ g.status = s
  := by
  simp only [List.mem_filterMap, rulesFor_eq_filter, hx, List.mem_filter]
  constructor
  · rintro ⟨g, ⟨r, ⟨hr, -⟩, hg⟩, hs⟩
    use r, hr, g
  · rintro ⟨r, hr, g, hg, hs⟩
    use g
    constructor
    · use r
      constructor
      · use hr
        match hm : r.mentions x with
        | true => rfl
        | false =>
            rw [Rule.hint?_eq_none hm] at hg
            cases hg
      · apply hg
    · apply hs

/-- Findings of a severity that are not about unknown identifiers are found by rules. -/
theorem exists_finding_iff {ids : Selection String} {severity : Severity} {p : Finding → Prop}
    (hseverity : ∀ f, p f → f.severity = severity) (hkind : ∀ f, p f → f.kind ≠ .unknownSkill) :
  (∃ f ∈ (c.findings ids).filter (fun f => f.severity == severity), p f)
    ↔ ∃ r ∈ c.rules, ∃ f ∈ r.findings c (ids.ids.filter c.contains), p f
  := by
  simp only [findings, List.mem_filter, List.mem_append, List.mem_flatMap]
  constructor
  · rintro ⟨f, ⟨hf | ⟨r, hr, hf⟩, -⟩, hp⟩
    · obtain ⟨id, -, rfl⟩ := List.mem_map.mp hf
      exact absurd rfl (hkind _ hp)
    · use r, hr, f, hf
  · rintro ⟨r, hr, f, hf, hp⟩
    exact ⟨f, ⟨Or.inr ⟨r, hr, hf⟩, beq_iff_eq.mpr (hseverity f hp)⟩, hp⟩

/-- Errors that are not about unknown identifiers are found by rules. -/
theorem exists_error_iff {s : Selection String} {p : Finding → Prop}
    (hseverity : ∀ f, p f → f.severity = .error) (hkind : ∀ f, p f → f.kind ≠ .unknownSkill) :
  (∃ f ∈ (c.validate s).errors, p f)
    ↔ ∃ r ∈ c.rules, ∃ f ∈ r.findings c ((c.resolveSelection s).ids.filter c.contains), p f
  := exists_finding_iff hseverity hkind

/-- Warnings are found by rules. -/
theorem exists_warning_iff {s : Selection String} {p : Finding → Prop}
    (hseverity : ∀ f, p f → f.severity = .warning) :
  (∃ f ∈ (c.validate s).warnings, p f)
    ↔ ∃ r ∈ c.rules, ∃ f ∈ r.findings c ((c.resolveSelection s).ids.filter c.contains), p f
  := by
  apply exists_finding_iff hseverity
  -- An unknown identifier is an error.
  intro f hp hkind
  have hwarning := hseverity f hp
  rw [Finding.severity, hkind] at hwarning
  cases hwarning

/-- Selecting one more skill puts it at the end. -/
theorem resolveSelection_insert {s : Selection String} (hx : c.resolve x = x)
    (hnot : x ∉ (c.resolveSelection s).ids) :
  (c.resolveSelection (s.insert x)).ids = (c.resolveSelection s).ids ++ [x]
  := by
  rw [resolveSelection, Selection.map, Selection.ofList, Text.mem_distinct] at hnot
  calc
    (c.resolveSelection (s.insert x)).ids
      = Text.distinct ((s.ids ++ [x]).map c.resolve) := Text.distinct_map_distinct _ _
    _ = Text.distinct
      (s.ids.map c.resolve ++ [x]) := by rw [List.map_append, List.map_singleton, hx]
    _ = Text.distinct (s.ids.map c.resolve) ++ [x] := Text.distinct_concat_of_not_mem hnot

/-- Which skills a rule disables keeps all others out of conflicts. -/
theorem conflictsWithAny_eq_false (hx : c.resolve x = x) {selected : List String}
    (h : ∀ r ∈ c.rules, ∀ g, r.hint? x selected = some g → g.status ≠ .disabled) :
  c.conflictsWithAny x (selected.filter c.contains) = false
  := by
  rw [conflictsWithAny, List.any_eq_false]
  intro r hr hconflict
  rw [rulesFor_eq_filter, hx, List.mem_filter] at hr
  cases r with
  | conflicts skills reason =>
      obtain ⟨s, hs, hne⟩ := List.any_eq_true.mp hconflict
      simp only [Bool.and_eq_true, bne_iff_ne, List.contains_iff_mem, List.mem_filter] at hne
      have hothers : othersOf x skills selected ≠ [] := by
        apply List.ne_nil_of_mem
        apply List.mem_filter.mpr
        use hne.2.1
        simp [hs, hne.1]
      have hmem : x ∈ skills := List.contains_iff_mem.mp hr.2
      obtain ⟨g, hg, hstatus⟩ := Rule.conflicts_disables_iff.mpr ⟨hmem, hothers⟩
      apply h _ hr.1 g hg hstatus
  | _ => cases hconflict

variable {selected : List String}

/-- No hint of a rule makes a skill selectable, and so there are none beside a skill that no hint
disables, discourages or recommends. -/
theorem hints_eq_nil {hints : List Hint}
    (hhints : hints = (c.rulesFor x).filterMap (·.hint? x selected))
    (hdisabled : statusOf hints ≠ .disabled) (hdiscouraged : statusOf hints ≠ .discouraged)
    (hrecommended : statusOf hints ≠ .recommended) :
  hints = []
  := by
  rw [ne_eq, statusOf_eq_recommended_iff hdisabled hdiscouraged, not_exists] at hrecommended
  rw [ne_eq, statusOf_eq_discouraged_iff hdisabled, not_exists] at hdiscouraged
  rw [ne_eq, statusOf_eq_disabled_iff, not_exists] at hdisabled
  apply List.eq_nil_iff_forall_not_mem.mpr
  intro g hg
  match hstatus : g.status with
  | .disabled => exact hdisabled g ⟨hg, hstatus⟩
  | .discouraged => exact hdiscouraged g ⟨hg, hstatus⟩
  | .recommended => exact hrecommended g ⟨hg, hstatus⟩
  | .selectable =>
      rw [hhints, List.mem_filterMap] at hg
      obtain ⟨r, -, hr⟩ := hg
      have hs := Rule.status?_of_hint? hr
      rw [hstatus] at hs
      cases r with
      | _ => cases hs

/-- The entry of a skill in the availability of a built catalog. -/
theorem find?_availability (h : Built m records c) {t : Skill} (ht : t ∈ c.skills)
    (s : Selection String) :
  (c.availability s).find? (fun a => a.skill == t.id)
    = some (c.availabilityOf (c.resolveSelection s).ids t)
  := by
  rw [availability, List.find?_map]
  have hfind := h.find?_id ht
  rw [find?] at hfind
  apply Option.map_eq_some_iff.mpr
  use t, hfind

/-- The known identifiers of a selection with one more skill. -/
theorem known_insert {s : Selection String} (hcontains : c.contains x = true) (hx : c.resolve x = x)
    (hnot : x ∉ (c.resolveSelection s).ids) :
  (c.resolveSelection (s.insert x)).ids.filter c.contains
    = (c.resolveSelection s).ids.filter c.contains ++ [x]
  := by
  rw [resolveSelection_insert hx hnot, List.filter_append]
  simp [hcontains]

/-- A skill is disabled exactly if selecting it makes an error of a conflict or of an exclusive
category that is about it. -/
theorem disabled_iff (h : Built m records c) {s : Selection String}
    (hcontains : c.contains x = true) (hx : c.resolve x = x)
    (hnot : x ∉ (c.resolveSelection s).ids) :
  (∃ g ∈ (c.rulesFor x).filterMap (·.hint? x (c.resolveSelection s).ids), g.status = .disabled)
    ↔ ∃ f ∈ (c.validate (s.insert x)).errors, f.Excludes x
  := by
  have hkind : ∀ f : Finding, f.Excludes x → f.kind ≠ .unknownSkill := by
    rintro f ⟨hkind | hkind, -⟩
    · simp [hkind]
    · simp [hkind]
  rw [exists_hint_iff hx, exists_error_iff (fun f hf => hf.severity_eq) hkind,
    known_insert hcontains hx hnot]
  apply exists_congr
  intro r
  apply and_congr_right
  intro hr
  apply Rule.disables_iff hnot
  intro id hid
  apply h.contains_of_mem_references hr hid

/-- A skill is discouraged exactly if selecting it makes a warning against it. -/
theorem discouraged_iff (h : Built m records c) {s : Selection String}
    (hcontains : c.contains x = true) (hx : c.resolve x = x)
    (hnot : x ∉ (c.resolveSelection s).ids) :
  (∃ g ∈ (c.rulesFor x).filterMap (·.hint? x (c.resolveSelection s).ids), g.status = .discouraged)
    ↔ ∃ f ∈ (c.validate (s.insert x)).warnings, f.Discourages x
  := by
  rw [exists_hint_iff hx, exists_warning_iff (fun f hf => hf.severity_eq),
    known_insert hcontains hx hnot]
  apply exists_congr
  intro r
  apply and_congr_right
  intro hr
  apply Rule.discourages_iff hnot
  intro id hid
  apply h.contains_of_mem_references hr hid

/-- A skill that is not disabled is recommended exactly if validation suggests it. -/
theorem recommended_iff (h : Built m records c) {s : Selection String} (hx : c.resolve x = x)
    (hnot : x ∉ (c.resolveSelection s).ids)
    (hfree : ¬ ∃ g ∈ (c.rulesFor x).filterMap (·.hint? x (c.resolveSelection s).ids),
      g.status = .disabled) :
  (∃ g ∈ (c.rulesFor x).filterMap (·.hint? x (c.resolveSelection s).ids), g.status = .recommended)
    ↔ ∃ f ∈ (c.validate s).warnings, f.Suggests x
  := by
  rw [exists_hint_iff hx] at hfree
  rw [exists_hint_iff hx, exists_warning_iff (fun f hf => hf.severity_eq)]
  apply exists_congr
  intro r
  apply and_congr_right
  intro hr
  apply Rule.recommends_iff hnot
  · intro id hid
    apply h.contains_of_mem_references hr hid
  · apply conflictsWithAny_eq_false hx
    intro r hr g hg hs
    apply hfree
    use r, hr, g

/-- Beside a selection, a skill that is not selected is disabled exactly if selecting it makes an
error of a conflict or of an exclusive category that is about it; else it is discouraged exactly if
selecting it makes a warning against it; else it is recommended exactly if the selection has a
warning that suggests it; and else it is selectable, without a reason. -/
theorem availability_iff_validate (hbuild : build m records = .ok c) (s : Selection String)
    (hcontains : c.contains x = true) (hx : c.resolve x = x)
    (hnot : x ∉ (c.resolveSelection s).ids) :
  ∃ a, (c.availability s).find? (fun a => a.skill == x) = some a ∧
    (a.status = .disabled ↔ ∃ f ∈ (c.validate (s.insert x)).errors, f.Excludes x) ∧
    (a.status ≠ .disabled →
      (a.status = .discouraged ↔ ∃ f ∈ (c.validate (s.insert x)).warnings, f.Discourages x)) ∧
    (a.status ≠ .disabled → a.status ≠ .discouraged →
      (a.status = .recommended ↔ ∃ f ∈ (c.validate s).warnings, f.Suggests x)) ∧
    (a.status ≠ .disabled → a.status ≠ .discouraged → a.status ≠ .recommended →
      a.status = .selectable ∧ a.reason = "")
  := by
  have h := built_of_build hbuild
  obtain ⟨t, ht, hid⟩ := List.any_eq_true.mp hcontains
  obtain rfl := eq_of_beq hid
  have hdisabled := disabled_iff h hcontains hx hnot
  have hdiscouraged := discouraged_iff h hcontains hx hnot
  have hrecommended := recommended_iff h hx hnot
  use c.availabilityOf (c.resolveSelection s).ids t, find?_availability h ht s
  generalize hhints : (c.rulesFor t.id).filterMap (·.hint? t.id (c.resolveSelection s).ids) = hints
    at hdisabled hdiscouraged hrecommended
  have hstatus : (c.availabilityOf (c.resolveSelection s).ids t).status = statusOf hints := by
    rw [← hhints]
    rfl
  rw [hstatus]
  refine ⟨?_, ?_, ?_, ?_⟩
  · rw [statusOf_eq_disabled_iff, hdisabled]
  · intro hd
    rw [statusOf_eq_discouraged_iff hd, hdiscouraged]
  · intro hd hd'
    rw [statusOf_eq_recommended_iff hd hd']
    apply hrecommended
    rw [← statusOf_eq_disabled_iff]
    apply hd
  · intro hd hd' hr
    have hnil := hints_eq_nil hhints.symm hd hd' hr
    rw [hnil] at hhints ⊢
    use rfl
    rw [availabilityOf, hhints]
    rfl

/-- Beside one of two frameworks that conflict the other one is disabled, and selecting it is an
error. -/
theorem availability_iff_validate_frameworks :
  ∃ a, (frameworks.availability (.ofList ["r"])).find? (fun a => a.skill == "vue") = some a ∧
    a.status = .disabled ∧
    ∃ f ∈ (frameworks.validate (Selection.ofList ["r"] |>.insert "vue")).errors, f.Excludes "vue"
  := by
  have hnot : "vue" ∉ (frameworks.resolveSelection (.ofList ["r"])).ids := by decide
  obtain ⟨a, ha, hdisabled, -⟩ :=
    availability_iff_validate build_frameworks (.ofList ["r"]) rfl rfl hnot
  have hstatus : ((frameworks.availability (.ofList ["r"])).find? (fun a => a.skill == "vue")).map
      (·.status) = some .disabled := rfl
  rw [ha, Option.map_some, Option.some.injEq] at hstatus
  use a, ha, hstatus
  apply hdisabled.mp hstatus

end Catalog

end AgentBundles
