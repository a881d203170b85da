import Mathlib.Tactic.Common
import AgentBundles.Proofs.Catalog.Built
import AgentBundles.Selection.Validation

/-!
# Accepted selections

A rule holds of a selection when it finds no error in it. A selection is accepted exactly if all
rules of the catalog hold of it, and so, for a catalog built from a matrix and records, exactly if
it satisfies what the matrix and the records say: neither the covering of rules nor the derivation
of rules from categories has a part in it.
-/

namespace AgentBundles

/-- At most one of some identifiers is selected. -/
def AtMostOne (ids selected : List String) : Prop :=
  ∀ a ∈ ids, ∀ b ∈ ids, a ∈ selected → b ∈ selected → a = b

/-- At most one of fewer identifiers is selected. -/
theorem AtMostOne.mono {ids ids' selected : List String} (h : AtMostOne ids' selected)
    (hsub : ids ⊆ ids') :
  AtMostOne ids selected
  := by
  intro a ha b hb
  apply h a (hsub ha) b (hsub hb)

theorem mem_presentOf {ids selected : List String} {a : String} :
  a ∈ presentOf ids selected ↔ a ∈ selected ∧ a ∈ ids
  := by
  simp [presentOf]

/-- Of a selection without repetitions, less than two are present exactly if at most one is
selected. -/
theorem length_presentOf_lt_two_iff {ids selected : List String} (hnodup : selected.Nodup) :
  (presentOf ids selected).length < 2 ↔ AtMostOne ids selected
  := by
  have hpresent : (presentOf ids selected).Nodup := hnodup.filter _
  constructor
  · intro h a ha b hb has hbs
    have ha' := mem_presentOf.mpr ⟨has, ha⟩
    have hb' := mem_presentOf.mpr ⟨hbs, hb⟩
    match presentOf ids selected, h, ha', hb' with
    | [_], _, ha', hb' =>
        rw [List.mem_singleton.mp ha', List.mem_singleton.mp hb']
  · intro h
    match hlist : presentOf ids selected with
    | [] => exact Nat.zero_lt_two
    | [_] => exact Nat.one_lt_two
    | a :: b :: rest =>
        obtain ⟨has, ha⟩ :=
          mem_presentOf.mp (hlist ▸ List.mem_cons_self : a ∈ presentOf ids selected)
        obtain ⟨hbs, hb⟩ := mem_presentOf.mp
          (hlist ▸ List.mem_cons_of_mem _ List.mem_cons_self : b ∈ presentOf ids selected)
        rw [hlist, List.nodup_cons] at hpresent
        exfalso
        apply hpresent.1
        rw [h a ha b hb has hbs]
        apply List.mem_cons_self

namespace Rule

/-- What a rule demands of a selection; advice demands nothing. -/
def Holds (selected : List String) : Rule → Prop
  | .conflicts skills _ => AtMostOne skills selected
  | .requires skill needs .any _ => skill ∈ selected → ∃ n ∈ needs, n ∈ selected
  | .requires skill needs .all _ => skill ∈ selected → ∀ n ∈ needs, n ∈ selected
  | .exclusiveCategory _ skills => AtMostOne skills selected
  | .requiredCategory _ skills => ∃ s ∈ selected, s ∈ skills
  | _ => True

/-- A single finding of a kind that is an error is none exactly if it is not made. -/
theorem no_error_ite_iff {p : Prop} [Decidable p] {f : Finding} (hf : f.severity = .error) :
  (∀ g ∈ (if p then [] else [f]), g.severity ≠ .error) ↔ p
  := by
  by_cases hp : p
  · simp [hp]
  · simp [hp, hf]

/-- A rule finds no error in a selection without repetitions exactly if it holds of it. -/
theorem findings_no_error_iff (c : Catalog) {selected : List String} (hnodup : selected.Nodup)
    (r : Rule) :
  (∀ f ∈ r.findings c selected, f.severity ≠ .error) ↔ r.Holds selected
  := by
  cases r with
  | conflicts skills reason =>
      rw [findings, Holds, ← length_presentOf_lt_two_iff hnodup]
      apply no_error_ite_iff rfl
  | discourages skills reason =>
      simp only [findings, Holds, iff_true]
      split
      · simp
      · simp [Finding.severity, FindingKind.severity]
  | requires skill needs mode reason =>
      by_cases hskill : skill ∈ selected
      · cases mode with
        | any =>
            have hany : needs.any selected.contains = true ↔ ∃ n ∈ needs, n ∈ selected := by simp
            simp only [findings, Holds, List.contains_iff_mem.mpr hskill, Bool.not_true, hskill,
              forall_const, Bool.false_eq_true, if_false]
            rw [← hany]
            apply no_error_ite_iff rfl
        | all =>
            have hall : (needs.filter fun n => !selected.contains n).isEmpty = true
                ↔ ∀ n ∈ needs, n ∈ selected := by simp
            simp only [findings, Holds, List.contains_iff_mem.mpr hskill, Bool.not_true, hskill,
              forall_const, Bool.false_eq_true, if_false]
            rw [← hall]
            apply no_error_ite_iff rfl
      · cases mode with
        | any => simp [findings, Holds, hskill]
        | all => simp [findings, Holds, hskill]
  | recommends skill suggest reason =>
      simp only [findings, Holds, iff_true]
      intro f hf
      split at hf
      · cases hf
      · obtain ⟨s, -, rfl⟩ := List.mem_map.mp hf
        simp [Finding.severity, FindingKind.severity]
  | alternatives purpose skills => simp [findings, Holds]
  | exclusiveCategory category skills =>
      rw [findings, Holds, ← length_presentOf_lt_two_iff hnodup]
      simp only [Nat.lt_succ_iff]
      apply no_error_ite_iff rfl
  | requiredCategory category skills =>
      have hany : selected.any skills.contains = true ↔ ∃ s ∈ selected, s ∈ skills := by simp
      rw [findings, Holds, ← hany]
      apply no_error_ite_iff rfl
  | setupFor setup usage =>
      simp only [findings, Holds, iff_true]
      split
      · simp
      · simp [Finding.severity, FindingKind.severity]

/-- A rule that covers a conflict holds only if the conflict does. -/
theorem Holds.of_symmetric? {r s : Rule} {k : Catalog.SymmetricKind} {xs ys selected : List String}
    (hr : Catalog.symmetric? r = some (k, xs)) (hs : Catalog.symmetric? s = some (k, ys))
    (hsub : xs ⊆ ys) (h : s.Holds selected) :
  r.Holds selected
  := by
  cases r with
  | conflicts skills reason =>
      cases hr
      cases s with
      | conflicts skills' reason' =>
          cases hs
          apply AtMostOne.mono h hsub
      | _ => cases hs
  | discourages skills reason => trivial
  | _ => cases hr

end Rule

namespace Catalog

variable {m : Record.Matrix} {records : List Record.Skill} {c : Catalog}

/-- Dropping covered rules changes nothing about what is demanded of a selection. -/
theorem forall_dropCovered_holds_iff {rules : List Rule} {selected : List String} :
  (∀ r ∈ dropCovered rules, r.Holds selected) ↔ ∀ r ∈ rules, r.Holds selected
  := by
  constructor
  · intro h r hr
    match hkind : symmetric? r with
    | some (k, xs) =>
        obtain ⟨s, hs, ys, hys, hsub⟩ := exists_kept hr hkind
        apply Rule.Holds.of_symmetric? hkind hys hsub (h s hs)
    | none => apply h r (mem_dropCovered_of_symmetric?_eq_none hr hkind)
  · intro h r hr
    apply h r (dropCovered_subset rules hr)

/-! ### What the matrix and the records demand -/

/-- The numbered rules are those of the relations. -/
theorem map_snd_numberedRules {α : Type} (list : String) (rule : α → Rule) (xs : List α) :
  (numberedRules list rule xs).map (·.2) = xs.map rule
  := by
  rw [numberedRules, List.map_map, ← List.zipIdx_map_fst 0 xs, List.map_map, List.zipIdx_map_fst]
  rfl

/-- Whether the needs of a requirement are met, all of them or any one. -/
def Met (resolve : String → String) (q : Record.Requirement) (selected : List String) : Prop :=
  if q.needsAny then ∃ n ∈ q.needs, resolve n ∈ selected else ∀ n ∈ q.needs, resolve n ∈ selected

theorem holds_requires_iff {resolve : String → String} {q : Record.Requirement}
    {selected : List String} :
  (Rule.requires (resolve q.skill) (q.needs.map resolve) (if q.needsAny then .any else .all)
      q.reason).Holds selected
    ↔ (resolve q.skill ∈ selected → Met resolve q selected)
  := by
  cases hany : q.needsAny with
  | true => simp [Rule.Holds, Met, hany]
  | false => simp [Rule.Holds, Met, hany]

/-- The rules of a matrix hold exactly if its conflicts and its requirements do. -/
theorem forall_matrixRules_holds_iff {resolve : String → String} {m : Record.Relations}
    {selected : List String} :
  (∀ r ∈ (matrixRules resolve m).map (·.2), r.Holds selected)
    ↔ (∀ k ∈ m.conflicts, AtMostOne (k.skills.map resolve) selected) ∧
      ∀ q ∈ m.requires, resolve q.skill ∈ selected → Met resolve q selected
  := by
  simp only [matrixRules, List.map_append, map_snd_numberedRules, List.forall_mem_append,
    List.forall_mem_map, holds_requires_iff]
  simp only [Rule.Holds, implies_true, and_true]

theorem forall_unlessEmpty_iff {resolve : String → String} {ids : List String}
    {rule : List String → Rule} {p : Rule → Prop} :
  (∀ r ∈ unlessEmpty resolve ids rule, p r) ↔ (ids ≠ [] → p (rule (ids.map resolve)))
  := by
  cases ids with
  | nil => simp [unlessEmpty]
  | cons id ids => simp [unlessEmpty]

/-- The rules in the metadata of a skill hold exactly if its conflicts and its requirements do. -/
theorem forall_metadataRules_holds_iff {resolve : String → String} {r : Record.Skill}
    {selected : List String} :
  (∀ s ∈ metadataRules resolve r, s.Holds selected)
    ↔ (∀ other ∈ r.metadata.conflictsWith, AtMostOne [r.id, resolve other] selected) ∧
      (r.id ∈ selected → ∀ n ∈ r.metadata.requires, resolve n ∈ selected)
  := by
  simp only [metadataRules, List.forall_mem_append, List.forall_mem_map, forall_unlessEmpty_iff]
  simp only [Rule.Holds, implies_true, and_true, List.forall_mem_map]
  apply and_congr_right
  intro _
  constructor
  · intro h hid n hn
    apply h (List.ne_nil_of_mem hn) hid n hn
  · intro h _ hid
    apply h hid

/-- The identifiers of the records of a category. -/
def recordsIn (records : List Record.Skill) (category : String) : List String :=
  (records.filter fun r => r.metadata.category == category).map (·.id)

/-- The members of a category are its records. -/
theorem members_map_ofRecord (category : String) :
  members (records.map Skill.ofRecord) category = recordsIn records category
  := by
  rw [members, List.filter_map, List.map_map]
  rfl

/-- Of a category with at most one record at most one is selected. -/
theorem atMostOne_of_length_le_one {ids selected : List String} (h : ids.length ≤ 1) :
  AtMostOne ids selected
  := by
  intro a ha b hb _ _
  match ids, h, ha, hb with
  | [_], _, ha, hb => rw [List.mem_singleton.mp ha, List.mem_singleton.mp hb]

/-- A category that has records is among those that rules are made for. -/
theorem mem_categories_of_mem_members {skills : List Skill} {id category : String}
    (h : id ∈ members skills category) :
  category ∈ Text.distinct (skills.map (·.category))
  := by
  obtain ⟨s, hs, rfl⟩ := List.mem_map.mp h
  rw [List.mem_filter, beq_iff_eq] at hs
  rw [Text.mem_distinct, ← hs.2]
  apply List.mem_map_of_mem hs.1

/-- Which categories are exclusive is decided alike when rules are made and later. -/
theorem exclusiveIn_eq_isExclusive (category : String) :
  exclusiveIn c.skills c.categories category = c.isExclusive category
  := rfl

/-- The rules of categories hold exactly if exclusive categories have at most one selected record
and required ones have at least one. -/
theorem forall_categoryRules_holds_iff (h : Built m records c) {selected : List String} :
  (∀ r ∈ categoryRules c.skills c.categories, r.Holds selected)
    ↔ (∀ k, c.isExclusive k = true → AtMostOne (recordsIn records k) selected) ∧
      ∀ e ∈ m.categories, e.2.required = true → ∃ id ∈ recordsIn records e.1, id ∈ selected
  := by
  have hmembers : ∀ k, members c.skills k = recordsIn records k := by
    intro k
    rw [h.skills_eq, members_map_ofRecord]
  simp only [categoryRules, List.forall_mem_append, List.forall_mem_map, Rule.Holds, hmembers,
    exclusiveIn_eq_isExclusive]
  apply and_congr
  · constructor
    · intro hex k hk
      by_cases hlength : (recordsIn records k).length ≤ 1
      · apply atMostOne_of_length_le_one hlength
      · apply hex
        have hmany : 1 < (recordsIn records k).length := by omega
        obtain ⟨id, hid⟩ := List.exists_mem_of_length_pos (Nat.zero_lt_of_lt hmany)
        rw [List.mem_filter]
        use mem_categories_of_mem_members (hmembers k ▸ hid)
        simp [hk, hmany]
    · intro hex k hk
      apply hex
      rw [List.mem_filter, Bool.and_eq_true] at hk
      apply hk.2.1
  · rw [h.categories_eq, Table.mapValues, List.filter_map]
    simp only [List.forall_mem_map, List.mem_filter, Function.comp_apply, categoryOfRecord, and_imp]
    constructor
    · intro hreq e he hr
      obtain ⟨id, hid, hmem⟩ := hreq e he hr
      use id, hmem, hid
    · intro hreq e he hr
      obtain ⟨id, hid, hmem⟩ := hreq e he hr
      use id, hmem, hid

/-- What a matrix and records demand of identifiers: that they are those of records, that no two of
them conflict, that what they require is there, and that they do not leave a required category out
nor have two records of an exclusive one. -/
structure Acceptable (c : Catalog) (m : Record.Matrix) (records : List Record.Skill)
    (selected : List String) : Prop where
  known : ∀ id ∈ selected, ∃ r ∈ records, r.id = id
  conflicts : ∀ k ∈ m.relations.conflicts, AtMostOne (k.skills.map m.resolve) selected
  conflictsWith : ∀ r ∈ records, ∀ other ∈ r.metadata.conflictsWith,
    AtMostOne [r.id, m.resolve other] selected
  requirements : ∀ q ∈ m.relations.requires, m.resolve q.skill ∈ selected → Met m.resolve q selected
  requires : ∀ r ∈ records, r.id ∈ selected → ∀ n ∈ r.metadata.requires, m.resolve n ∈ selected
  exclusive : ∀ k, c.isExclusive k = true → AtMostOne (recordsIn records k) selected
  required : ∀ e ∈ m.categories, e.2.required = true → ∃ id ∈ recordsIn records e.1, id ∈ selected

/-- All rules of a built catalog hold of known identifiers exactly if these are acceptable. -/
theorem acceptable_iff (h : Built m records c) {selected : List String} :
  Acceptable c m records selected
    ↔ (∀ id ∈ selected, c.contains id = true) ∧ ∀ r ∈ c.rules, r.Holds selected
  := by
  rw [h.rules_eq, List.forall_mem_append, forall_dropCovered_holds_iff, relationRules,
    List.forall_mem_append, forall_matrixRules_holds_iff, forall_categoryRules_holds_iff h]
  simp only [List.forall_mem_flatMap, forall_metadataRules_holds_iff, h.contains_iff]
  constructor
  · intro ha
    refine ⟨ha.known, ⟨⟨ha.conflicts, ha.requirements⟩, ?_⟩, ha.exclusive, ha.required⟩
    intro r hr
    use ha.conflictsWith r hr, ha.requires r hr
  · rintro ⟨hknown, ⟨⟨hconflicts, hrequirements⟩, hmetadata⟩, hexclusive, hrequired⟩
    exact {
      known := hknown
      conflicts := hconflicts
      conflictsWith := fun r hr => (hmetadata r hr).1
      requirements := hrequirements
      requires := fun r hr => (hmetadata r hr).2
      exclusive := hexclusive
      required := hrequired }

/-! ### Validation -/

theorem unknownSkill_severity (id : String) :
  (unknownSkill id).severity = .error
  := rfl

/-- The findings on a selection are no errors exactly if it has known identifiers only and all rules
hold of it. -/
theorem findings_no_error_iff {s : Selection String} (hnodup : s.ids.Nodup) :
  (∀ f ∈ c.findings s, f.severity ≠ .error)
    ↔ (∀ id ∈ s.ids, c.contains id = true) ∧ ∀ r ∈ c.rules, r.Holds s.ids
  := by
  have hunknown : (∀ f ∈ (s.ids.filter fun id => !c.contains id).map unknownSkill,
        f.severity ≠ .error)
      ↔ ∀ id ∈ s.ids, c.contains id = true := by
    rw [List.forall_mem_map]
    simp [unknownSkill_severity]
  rw [findings, List.forall_mem_append, hunknown, List.forall_mem_flatMap]
  apply and_congr_right
  intro hknown
  rw [List.filter_eq_self.mpr hknown]
  simp only [Rule.findings_no_error_iff c hnodup]

/-- A selection is accepted exactly if its identifiers, with short names resolved, are known and all
rules hold of them. -/
theorem validate_ok_iff (s : Selection String) :
  (c.validate s).ok = true
    ↔ (∀ id ∈ (c.resolveSelection s).ids, c.contains id = true) ∧
      ∀ r ∈ c.rules, r.Holds (c.resolveSelection s).ids
  := by
  have hnodup : (c.resolveSelection s).ids.Nodup := Text.nodup_distinct _
  rw [← findings_no_error_iff hnodup, SelectionResult.ok, List.isEmpty_iff, validate,
    List.filter_eq_nil_iff]
  simp

theorem validated?_isSome_iff (r : SelectionResult) :
  r.validated?.isSome = true ↔ r.ok = true
  := by
  rw [SelectionResult.validated?]
  cases r.ok with
  | true => simp
  | false => simp

/-- Resolving the selection of a list resolves the list. -/
theorem resolveSelection_ofList (h : Built m records c) (ids : List String) :
  (c.resolveSelection (.ofList ids)).ids = Text.distinct (ids.map m.resolve)
  := by
  rw [← Text.distinct_map_distinct, ← h.resolve_eq]
  rfl

/-- Identifiers are accepted, and give a validated selection, exactly if what they stand for is
acceptable. -/
theorem accepted_iff_acceptable (hbuild : build m records = .ok c) (ids : List String) :
  ((c.validate (.ofList ids)).validated?.isSome = true
      ↔ Acceptable c m records (Text.distinct (ids.map m.resolve))) ∧
    ((c.validate (.ofList ids)).ok = true
      ↔ Acceptable c m records (Text.distinct (ids.map m.resolve)))
  := by
  have h := built_of_build hbuild
  have hok : (c.validate (.ofList ids)).ok = true
      ↔ Acceptable c m records (Text.distinct (ids.map m.resolve)) := by
    rw [validate_ok_iff, resolveSelection_ofList h, acceptable_iff h]
  constructor
  · rw [validated?_isSome_iff, hok]
  · apply hok

/-- Of two frameworks that conflict, one under its short name is accepted, and both are not. -/
theorem accepted_iff_acceptable_frameworks :
  Acceptable frameworks frameworkMatrix [frameworkRecord "react", frameworkRecord "vue"] ["react"] ∧
    ¬ Acceptable frameworks frameworkMatrix [frameworkRecord "react", frameworkRecord "vue"]
      ["react", "vue"]
  := by
  constructor
  · apply (accepted_iff_acceptable build_frameworks ["r"]).2.mp
    rfl
  · intro h
    have hok := (accepted_iff_acceptable build_frameworks ["r", "vue"]).2.mpr h
    cases hok

end Catalog

end AgentBundles
