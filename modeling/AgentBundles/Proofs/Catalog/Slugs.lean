import AgentBundles.Proofs.Catalog.References
import AgentBundles.Proofs.Validation.Headers

/-!
# Slugs in a catalog

A slug is a name in kebab case unless it is empty or begins with a digit, and these are the slugs
for which a catalog refuses an identifier. The slugs of a catalog that is built are names of files,
with which validation finds no fault.
-/

namespace AgentBundles

namespace Slug

/-- A text in normal form is in kebab case unless it is empty or begins with a digit. -/
theorem IsHyphenated.isKebabCase_iff {cs : List Char} (h : IsHyphenated cs) :
  IsKebabCase cs ↔ ¬ (cs = [] ∨ ∃ c ∈ cs.head?, Text.isAsciiDigit c = true)
  := by
  constructor
  · rintro ⟨c, word, ws, hle, hle', -, -, rfl⟩
    rw [intercalate_cons]
    rintro (hnil | ⟨d, hd, hdigit⟩)
    · cases hnil
    · cases hd
      rw [Text.isAsciiDigit, Bool.and_eq_true, decide_eq_true_eq, decide_eq_true_eq] at hdigit
      exact absurd (Char.le_trans hle hdigit.2) (by decide)
  · intro hletter
    obtain ⟨ws, hws, rfl⟩ := h
    cases ws with
    | nil => exact absurd (Or.inl rfl) hletter
    | cons w ws =>
        obtain ⟨⟨hne, hw⟩, hrest⟩ := List.forall_mem_cons.mp hws
        obtain ⟨c, word, rfl⟩ := List.exists_cons_of_ne_nil hne
        obtain ⟨hc, hword⟩ := List.forall_mem_cons.mp hw
        have hnot : ¬ Text.isAsciiDigit c = true := by
          intro hdigit
          apply hletter (Or.inr ⟨c, _, hdigit⟩)
          rw [intercalate_cons]
          rfl
        rw [isSlugChar, Bool.or_eq_true, or_iff_left hnot, Bool.and_eq_true, decide_eq_true_eq,
          decide_eq_true_eq] at hc
        exact ⟨c, word, ws, hc.1, hc.2, hword, hrest, rfl⟩

/-- A slug that is no name: it is empty or begins with a digit. -/
def IsUnusable (slug : String) : Prop := slug = "" ∨ ∃ c ∈ slug.toList.head?,
    Text.isAsciiDigit c = true

theorem not_isKebabCase_ofId_iff {id : String} :
  ¬ IsKebabCase (ofId id).toList ↔ IsUnusable (ofId id)
  := by
  rw [(isHyphenated_ofId id).isKebabCase_iff, not_not, String.toList_eq_nil_iff]
  rfl

end Slug

namespace Catalog

variable {m : Record.Matrix} {records : List Record.Skill}

theorem Sound.concat {before : List Record.Skill} {r : Record.Skill} (h : Sound before)
    (hid : r.id ∉ before.map (·.id)) (hslug : Slug.IsKebabCase (Slug.ofId r.id).toList) :
  Sound (before ++ [r])
  := by
  constructor
  · rw [List.map_append, List.nodup_append_comm]
    exact List.nodup_cons.mpr ⟨hid, h.ids_nodup⟩
  · rw [List.forall_mem_append, List.forall_mem_singleton]
    exact ⟨h.slug_kebab, hslug⟩

/-- Of records that are not sound there is a first one with something wrong about its identifier. -/
theorem exists_first_unsound (h : ¬ Sound records) :
  ∃ before r after, records = before ++ r :: after ∧ Sound before ∧
    (r.id ∈ before.map (·.id) ∨ r.id ∉ before.map (·.id) ∧ Slug.IsUnusable (Slug.ofId r.id))
  := by
  induction records using List.reverseRecOn with
  | nil => exact absurd ⟨List.nodup_nil, fun _ hr => absurd hr List.not_mem_nil⟩ h
  | append_singleton before r ih =>
      by_cases hbefore : Sound before
      · refine ⟨before, r, [], rfl, hbefore, ?_⟩
        by_cases hid : r.id ∈ before.map (·.id)
        · exact Or.inl hid
        · refine Or.inr ⟨hid, ?_⟩
          rw [← Slug.not_isKebabCase_ofId_iff]
          exact fun hslug => h (hbefore.concat hid hslug)
      · obtain ⟨front, r', after, rfl, hfront⟩ := ih hbefore
        exact ⟨front, r', after ++ [r], by simp, hfront⟩

/-- A catalog is refused for the name of an identifier exactly if the slug of the identifier is
empty or begins with a digit, and nothing is wrong with the records before it. -/
theorem build_eq_unnamable_iff {id slug : String} :
  build m records = .error (.unnamable id slug)
    ↔ slug = Slug.ofId id ∧ Slug.IsUnusable slug ∧
      ∃ before r after, records = before ++ r :: after ∧ Sound before ∧ id ∉ before.map (·.id) ∧
        r.id = id
  := by
  constructor
  · intro h
    have hunsound : ¬ Sound records := by
      intro hsound
      by_cases hmissing : missingReferences m.resolve m records = []
      · obtain ⟨c, hc⟩ := exists_build hsound hmissing
        cases hc.symm.trans h
      · cases (build_of_missingReferences hsound hmissing).symm.trans h
    obtain ⟨before, r, after, rfl, hsound, hid | ⟨hid, hslug⟩⟩ := exists_first_unsound hunsound
    · cases (build_of_firstFault? (firstFault?_of_mem hsound hid)).symm.trans h
    · have hfault : firstFault? [] (before ++ r :: after)
          = some (.unnamable r.id (Slug.ofId r.id)) :=
        firstFault?_of_not_kebab hsound hid (Slug.not_isKebabCase_ofId_iff.mpr hslug)
      cases (build_of_firstFault? hfault).symm.trans h
      exact ⟨rfl, hslug, before, r, after, rfl, hsound, hid, rfl⟩
  · rintro ⟨rfl, hslug, before, r, after, rfl, hsound, hid, rfl⟩
    apply build_of_firstFault?
      (firstFault?_of_not_kebab hsound hid (Slug.not_isKebabCase_ofId_iff.mpr hslug))

/-- A slug is in normal form, with no hyphen at either end, and is its own slug. So a catalog is
refused for the name of an identifier exactly if the slug of the identifier is empty or begins with
a digit and nothing is wrong with the records before it, and the slug of every skill of a catalog is
a single name of a file, with which validation finds no fault. -/
theorem slugs_in_normal_form (m : Record.Matrix) (records : List Record.Skill) (id : String) :
  Slug.IsHyphenated (Slug.ofId id).toList ∧
    (Slug.ofId id).toList.head? ≠ some '-' ∧ (Slug.ofId id).toList.getLast? ≠ some '-' ∧
    Slug.ofId (Slug.ofId id) = Slug.ofId id ∧
    (∀ slug, build m records = .error (.unnamable id slug)
      ↔ slug = Slug.ofId id ∧ Slug.IsUnusable slug ∧
        ∃ before r after, records = before ++ r :: after ∧ Sound before ∧ id ∉ before.map (·.id) ∧
          r.id = id) ∧
    ∀ c, build m records = .ok c → ∀ s ∈ c.skills,
      IsNormal s.slug ∧ Text.segments s.slug = [s.slug] ∧ Slug.isKebabName s.slug = true ∧
        ∀ v location, v.field? "name" = some (.str s.slug) → Validation.nameIssues v location = []
  := by
  have hnormal := Slug.isHyphenated_ofId id
  refine ⟨hnormal, ?_, ?_, Slug.ofId_eq_self hnormal, fun _ => build_eq_unnamable_iff, ?_⟩
  · intro hhead
    cases hnormal.of_head? hhead
  · intro hlast
    cases hnormal.of_getLast? hlast
  · intro c hc s hs
    have hbuilt := built_of_build hc
    rw [hbuilt.skills_eq] at hs
    obtain ⟨r, hr, rfl⟩ := List.mem_map.mp hs
    have hkebab : Slug.isKebabName (Skill.ofRecord r).slug = true := hbuilt.slug_isKebabName r hr
    obtain ⟨hfile, hsegments⟩ := Slug.segments_of_isKebabName hkebab
    exact ⟨hfile, hsegments, hkebab,
      fun _ location hfield => Validation.nameIssues_eq_nil hfield hkebab location⟩

/-- After two frameworks an identifier is refused whose name begins with a digit, and the slug of
the first framework is the name of a directory. -/
theorem slugs_in_normal_form_frameworks :
  build frameworkMatrix [frameworkRecord "react", frameworkRecord "vue",
    frameworkRecord "web/3D (@vince)"]
      = .error (.unnamable "web/3D (@vince)" "3d") ∧
    IsNormal "react" ∧ Text.segments "react" = ["react"] ∧ Slug.isKebabName "react" = true ∧
    Validation.nameIssues (.map [(.str "name", .str "react")]) "skills/react/SKILL.md" = []
  := by
  have hsound : Sound [frameworkRecord "react", frameworkRecord "vue"] :=
    firstFault?_eq_none_iff.mp rfl
  obtain ⟨-, -, -, -, hrefused, -⟩ := slugs_in_normal_form frameworkMatrix
    [frameworkRecord "react", frameworkRecord "vue", frameworkRecord "web/3D (@vince)"]
      "web/3D (@vince)"
  obtain ⟨-, -, -, -, -, hskills⟩ := slugs_in_normal_form frameworkMatrix
    [frameworkRecord "react", frameworkRecord "vue"] "react"
  constructor
  · rw [hrefused]
    refine ⟨by decide, Or.inr ⟨'3', rfl, by decide⟩, _, _, [], rfl, hsound, by decide, rfl⟩
  · obtain ⟨hfile, hsegments, hkebab, hissues⟩ :=
      hskills frameworks build_frameworks _ List.mem_cons_self
    exact ⟨hfile, hsegments, hkebab, hissues _ _ rfl⟩

end Catalog

end AgentBundles
