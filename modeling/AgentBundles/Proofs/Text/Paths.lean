import Mathlib.Data.List.Basic
import AgentBundles.Skill
import AgentBundles.Text.Split

/-!
# Paths

The segments of a path that is put together, what follows a directory in it, and the characters of
names in kebab case.
-/

namespace AgentBundles.Text

/-! ### Beginnings and ends -/

theorem startsWith_eq_true_iff {s p : String} :
  startsWith s p = true ↔ ∃ t, s = p ++ t
  := by
  rw [startsWith, List.isPrefixOf_iff_prefix]
  constructor
  · rintro ⟨cs, heq⟩
    use String.ofList cs
    rw [← String.toList_inj, String.toList_append, String.toList_ofList, heq]
  · rintro ⟨t, rfl⟩
    use t.toList
    rw [String.toList_append]

theorem startsWith_append (p t : String) :
  startsWith (p ++ t) p = true
  := startsWith_eq_true_iff.mpr ⟨t, rfl⟩

/-- A text does not begin with one whose first character is another. -/
theorem startsWith_eq_false_of_head? {s p : String} {c d : Char} (hp : p.toList.head? = some c)
    (hs : s.toList.head? = some d) (hne : c ≠ d) :
  startsWith s p = false
  := by
  rw [Bool.eq_false_iff]
  intro hstarts
  obtain ⟨t, rfl⟩ := startsWith_eq_true_iff.mp hstarts
  rw [String.toList_append, List.head?_append, hp] at hs
  injection hs with hs
  exact hne hs

theorem dropStart_append (p t : String) :
  dropStart (p ++ t) p.length = t
  := by
  rw [dropStart, String.toList_append, ← String.length_toList, List.drop_left, String.ofList_toList]

theorem endsWith_append (s p : String) :
  endsWith (s ++ p) p = true
  := by
  rw [endsWith, List.isPrefixOf_iff_prefix, String.toList_append, List.reverse_append]
  apply List.prefix_append

theorem endsWith_eq_true_iff {s p : String} :
  endsWith s p = true ↔ ∃ t, s = t ++ p
  := by
  constructor
  · intro h
    rw [endsWith, List.isPrefixOf_iff_prefix, List.reverse_prefix] at h
    obtain ⟨cs, heq⟩ := h
    use String.ofList cs
    rw [← String.toList_inj, String.toList_append, String.toList_ofList, heq]
  · rintro ⟨t, rfl⟩
    apply endsWith_append

theorem dropEnd_append (s p : String) :
  dropEnd (s ++ p) p.length = s
  := by
  have hlength : (s.toList ++ p.toList).length - p.length = s.toList.length := by
    rw [← String.length_toList (s := p), List.length_append, Nat.add_sub_cancel]
  rw [dropEnd, String.toList_append, hlength, List.take_left, String.ofList_toList]

/-! ### Joined texts -/

/-- The separator stands between the texts of two lists. -/
theorem join_append {sep : String} {ss ts : List String} (hs : ss ≠ []) (ht : ts ≠ []) :
  join sep (ss ++ ts) = join sep ss ++ sep ++ join sep ts
  := by
  induction ss with
  | nil => exact absurd rfl hs
  | cons s ss ih =>
      cases ss with
      | nil =>
          obtain ⟨t, ts, rfl⟩ := List.exists_cons_of_ne_nil ht
          rfl
      | cons u ss =>
          rw [List.cons_append, List.cons_append, join, ← List.cons_append,
            ih (List.cons_ne_nil _ _), join]
          simp only [String.append_assoc]

/-- The last text stands behind the others. -/
theorem join_concat {sep : String} {texts : List String} (h : texts ≠ []) (t : String) :
  join sep (texts ++ [t]) = join sep texts ++ sep ++ t
  := join_append h (List.cons_ne_nil t [])

/-- What follows the whole follows the last text. -/
theorem join_concat_append (sep : String) (texts : List String) (t s : String) :
  join sep (texts ++ [t]) ++ s = join sep (texts ++ [t ++ s])
  := by
  by_cases h : texts = []
  · rw [h]
    rfl
  · rw [join_concat h, join_concat h, String.append_assoc]

/-- More texts are no shorter. -/
theorem size_join_le_append (sep : String) (front rest : List String) :
  (join sep front).utf8ByteSize ≤ (join sep (front ++ rest)).utf8ByteSize
  := by
  induction front with
  | nil => apply Nat.zero_le
  | cons n front ih =>
      cases front with
      | nil =>
          cases rest with
          | nil => apply Nat.le_refl
          | cons m rest =>
              rw [List.singleton_append, join, join, String.utf8ByteSize_append,
                String.utf8ByteSize_append]
              omega
      | cons m front =>
          rw [List.cons_append, List.cons_append, join, join, String.utf8ByteSize_append,
            String.utf8ByteSize_append (s := n ++ sep), ← List.cons_append]
          omega

/-- The whole is no shorter with a last text that is no shorter. -/
theorem size_join_concat_le {t u : String} (h : t.utf8ByteSize ≤ u.utf8ByteSize) (sep : String)
    (texts : List String) :
  (join sep (texts ++ [t])).utf8ByteSize ≤ (join sep (texts ++ [u])).utf8ByteSize
  := by
  by_cases hnil : texts = []
  · rw [hnil]
    apply h
  · rw [join_concat hnil, join_concat hnil, String.utf8ByteSize_append,
      String.utf8ByteSize_append (t := u)]
    omega

/-! ### Fields -/

theorem fields_ne_nil (sep : Char) (cs : List Char) :
  fields sep cs ≠ []
  := by
  cases cs with
  | nil => exact List.cons_ne_nil _ _
  | cons c cs =>
      rw [fields]
      split
      · exact List.cons_ne_nil _ _
      · split
        all_goals exact List.cons_ne_nil _ _

/-- A field ends at the first separator. -/
theorem fields_append_cons {sep : Char} {cs : List Char} (h : sep ∉ cs) (rest : List Char) :
  fields sep (cs ++ sep :: rest) = cs :: fields sep rest
  := by
  induction cs with
  | nil => simp [fields]
  | cons c cs ih =>
      rw [List.mem_cons, not_or] at h
      have hne : (c == sep) = false := beq_eq_false_iff_ne.mpr (Ne.symm h.1)
      rw [List.cons_append, fields, hne, if_neg Bool.false_ne_true, ih h.2]

/-- A separator ends the fields before it. -/
theorem fields_append_sep (sep : Char) (cs rest : List Char) :
  fields sep (cs ++ sep :: rest) = fields sep cs ++ fields sep rest
  := by
  induction cs with
  | nil => simp [fields]
  | cons c cs ih =>
      obtain ⟨f, fs, hfields⟩ := List.exists_cons_of_ne_nil (fields_ne_nil sep cs)
      rw [List.cons_append, fields, fields, ih, hfields]
      split
      · rfl
      · rfl

/-- Without a separator there is one field. -/
theorem fields_of_not_mem {sep : Char} {cs : List Char} (h : sep ∉ cs) :
  fields sep cs = [cs]
  := by
  induction cs with
  | nil => rfl
  | cons c cs ih =>
      rw [List.mem_cons, not_or] at h
      have hne : (c == sep) = false := beq_eq_false_iff_ne.mpr (Ne.symm h.1)
      rw [fields, hne, if_neg Bool.false_ne_true, ih h.2]

/-- One field is the whole text. -/
theorem eq_of_fields_eq_singleton {sep : Char} {cs f : List Char} (h : fields sep cs = [f]) :
  f = cs
  := by
  by_cases hmem : sep ∈ cs
  · obtain ⟨before, after, rfl, hbefore⟩ := List.eq_append_cons_of_mem hmem
    rw [fields_append_cons hbefore] at h
    injection h with _ h
    exact absurd h (fields_ne_nil sep after)
  · rw [fields_of_not_mem hmem] at h
    injection h with h _
    exact h.symm

/-- A character is a separator or stands in a field. -/
theorem mem_fields_of_mem {sep c : Char} {cs : List Char} (h : c ∈ cs) :
  c = sep ∨ ∃ f ∈ fields sep cs, c ∈ f
  := by
  induction cs with
  | nil => cases h
  | cons d cs ih =>
      rw [fields]
      split
      · rename_i hsep
        rcases List.mem_cons.mp h with rfl | h
        · exact Or.inl (eq_of_beq hsep)
        · rcases ih h with heq | ⟨f, hf, hc⟩
          · exact Or.inl heq
          · exact Or.inr ⟨f, List.mem_cons_of_mem _ hf, hc⟩
      · split
        · rename_i hnil
          exact absurd hnil (fields_ne_nil sep cs)
        · rename_i g gs hfields
          rcases List.mem_cons.mp h with rfl | h
          · exact Or.inr ⟨_, List.mem_cons_self, List.mem_cons_self⟩
          · rcases ih h with heq | ⟨f, hf, hc⟩
            · exact Or.inl heq
            · rw [hfields] at hf
              rcases List.mem_cons.mp hf with rfl | hf
              · exact Or.inr ⟨_, List.mem_cons_self, List.mem_cons_of_mem _ hc⟩
              · exact Or.inr ⟨f, List.mem_cons_of_mem _ hf, hc⟩

/-- What stands in a field is a character of the text. -/
theorem mem_of_mem_fields {sep c : Char} {cs f : List Char} (hf : f ∈ fields sep cs) (hc : c ∈ f) :
  c ∈ cs
  := by
  induction cs generalizing f with
  | nil =>
      rw [List.mem_singleton.mp hf] at hc
      cases hc
  | cons d cs ih =>
      obtain ⟨g, gs, hfields⟩ := List.exists_cons_of_ne_nil (fields_ne_nil sep cs)
      rw [fields, hfields] at hf
      rw [hfields] at ih
      split at hf
      · rcases List.mem_cons.mp hf with rfl | hf
        · cases hc
        · exact List.mem_cons_of_mem d (ih hf hc)
      · rcases List.mem_cons.mp hf with rfl | hf
        · rcases List.mem_cons.mp hc with rfl | hc
          · apply List.mem_cons_self
          · exact List.mem_cons_of_mem d (ih List.mem_cons_self hc)
        · exact List.mem_cons_of_mem d (ih (List.mem_cons_of_mem g hf) hc)

/-! ### Segments -/

theorem mem_of_mem_segments {s n : String} {c : Char} (hn : n ∈ segments s) (hc : c ∈ n.toList) :
  c ∈ s.toList
  := by
  obtain ⟨f, hf, rfl⟩ := List.mem_map.mp hn
  rw [String.toList_ofList] at hc
  apply mem_of_mem_fields hf hc

theorem segments_ne_nil (s : String) :
  segments s ≠ []
  := by
  rw [segments, split, ne_eq, List.map_eq_nil_iff]
  apply fields_ne_nil

theorem segments_of_not_mem {s : String} (h : '/' ∉ s.toList) :
  segments s = [s]
  := by
  rw [segments, split, fields_of_not_mem h, List.map_singleton, String.ofList_toList]

theorem segments_append {s : String} (h : '/' ∉ s.toList) (t : String) :
  segments (s ++ "/" ++ t) = s :: segments t
  := by
  have heq : (s ++ "/" ++ t).toList = s.toList ++ '/' :: t.toList := by simp
  rw [segments, split, heq, fields_append_cons h, List.map_cons, String.ofList_toList]
  rfl

/-- A slash ends the segments before it. -/
theorem segments_append_slash (s t : String) :
  segments (s ++ "/" ++ t) = segments s ++ segments t
  := by
  have heq : (s ++ "/" ++ t).toList = s.toList ++ '/' :: t.toList := by simp
  rw [segments, split, heq, fields_append_sep, List.map_append]
  rfl

theorem slash_not_mem_of_mem_segments {s n : String} (h : n ∈ segments s) :
  '/' ∉ n.toList
  := by
  have hfields : ∀ cs, ∀ f ∈ fields '/' cs, '/' ∉ f := by
    intro cs
    induction cs with
    | nil => simp [fields]
    | cons c cs ih =>
        obtain ⟨f, fs, heq⟩ := List.exists_cons_of_ne_nil (fields_ne_nil '/' cs)
        rw [heq, List.forall_mem_cons] at ih
        rw [fields, heq]
        split
        · rw [List.forall_mem_cons, List.forall_mem_cons]
          exact ⟨List.not_mem_nil, ih⟩
        · rename_i hne
          rw [List.forall_mem_cons]
          refine ⟨?_, ih.2⟩
          intro hmem
          rcases List.mem_cons.mp hmem with hc | hmem
          · exact hne (beq_iff_eq.mpr hc.symm)
          · exact ih.1 hmem
  obtain ⟨f, hf, rfl⟩ := List.mem_map.mp h
  rw [String.toList_ofList]
  apply hfields _ f hf

theorem eq_of_segments_eq_singleton {s t : String} (h : segments s = [t]) :
  t = s
  := by
  rw [segments, split, List.map_eq_singleton_iff] at h
  obtain ⟨f, hf, rfl⟩ := h
  rw [eq_of_fields_eq_singleton hf, String.ofList_toList]

end Text

namespace Slug

/-- The runs of a text in kebab case consist of letters and digits. -/
theorem isSlugChar_of_isKebab {cs f : List Char} (h : isKebab cs = true)
    (hf : f ∈ Text.fields '-' cs) {c : Char} (hc : c ∈ f) :
  isSlugChar c = true
  := by
  rw [isKebab] at h
  cases hfields : Text.fields '-' cs with
  | nil => exact absurd hfields (Text.fields_ne_nil '-' cs)
  | cons first rest =>
      simp only [hfields, Bool.and_eq_true, List.all_eq_true] at h
      obtain ⟨hfirst, hrest⟩ := h
      rw [hfields] at hf
      rcases List.mem_cons.mp hf with rfl | hmem
      · cases f with
        | nil => cases hc
        | cons d ds =>
            simp only [Bool.and_eq_true, List.all_eq_true] at hfirst
            rcases List.mem_cons.mp hc with rfl | hc
            · rw [isSlugChar, hfirst.1.1, hfirst.1.2]
              rfl
            · apply hfirst.2 c hc
      · apply (hrest f hmem).2 c hc

/-- The characters of a name in kebab case are those of slugs, hyphens, and a line feed. -/
theorem of_mem_kebabName {s : String} (h : isKebabName s = true) {c : Char} (hc : c ∈ s.toList) :
  isSlugChar c = true ∨ c = '-' ∨ c = '\n'
  := by
  have hbreak : c = '\n' ∨ c ∈ Text.dropFinalBreak s.toList := by
    rw [Text.dropFinalBreak]
    split
    · rename_i hlast
      have hsplit := List.dropLast_append_getLast? '\n' (eq_of_beq hlast)
      rw [← hsplit, List.mem_append, List.mem_singleton] at hc
      exact hc.symm
    · exact Or.inr hc
  rcases hbreak with hbreak | hmem
  · exact Or.inr (Or.inr hbreak)
  · have hfield : c = '-' ∨ ∃ f ∈ Text.fields '-' (Text.dropFinalBreak s.toList), c ∈ f :=
      Text.mem_fields_of_mem hmem
    rcases hfield with heq | ⟨f, hf, hcf⟩
    · exact Or.inr (Or.inl heq)
    · exact Or.inl (isSlugChar_of_isKebab h hf hcf)

/-- A character that no name in kebab case has. -/
theorem not_mem_kebabName {s : String} (h : isKebabName s = true) {c : Char}
    (hslug : isSlugChar c = false) (hhyphen : c ≠ '-') (hfeed : c ≠ '\n') :
  c ∉ s.toList
  := by
  intro hmem
  rcases of_mem_kebabName h hmem with hc | hc | hc
  · rw [hc] at hslug
    cases hslug
  · exact hhyphen hc
  · exact hfeed hc

end Slug

end AgentBundles
