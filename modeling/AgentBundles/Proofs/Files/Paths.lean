import Mathlib.Data.List.Basic
import Mathlib.Tactic.Common
import AgentBundles.Files.Disk
import AgentBundles.Proofs.Text.Paths

/-!
# Places and paths

The place that a path names below another, the segments of the text of a place, and normal paths:
those whose segments are names, so that the place they name has the path for its text.
-/

namespace AgentBundles

/-! ### Places below places -/

theorem relative?_eq_some_iff {above place rest : Place} :
  relative? above place = some rest ↔ place = above ++ rest
  := by
  induction above generalizing place with
  | nil => simp [relative?]
  | cons a above ih =>
      cases place with
      | nil => simp [relative?]
      | cons b place =>
          rw [relative?, List.cons_append, List.cons.injEq]
          by_cases h : a = b
          · rw [if_pos (beq_iff_eq.mpr h), ih]
            exact ⟨fun hplace => ⟨h.symm, hplace⟩, fun hplace => hplace.2⟩
          · rw [if_neg (mt beq_iff_eq.mp h)]
            constructor
            · intro hnone
              cases hnone
            · rintro ⟨rfl, -⟩
              exact absurd rfl h

theorem relative?_append (above rest : Place) :
  relative? above (above ++ rest) = some rest
  := relative?_eq_some_iff.mpr rfl

/-- What is not below a place is no continuation of it. -/
theorem relative?_eq_none_iff {above place : Place} :
  relative? above place = none ↔ ¬ above <+: place
  := by
  rw [Option.eq_none_iff_forall_ne_some]
  constructor
  · rintro h ⟨rest, rfl⟩
    exact h rest (relative?_append above rest)
  · intro h rest hrest
    exact h ⟨rest, (relative?_eq_some_iff.mp hrest).symm⟩

/-- No place lies above the one that it is in. -/
theorem concat_not_above (place : Place) (name : String) :
  ¬ place ++ [name] <+: place
  := by
  intro habove
  have hlength := habove.length_le
  rw [List.length_append, List.length_singleton] at hlength
  omega

/-! ### Resolving -/

/-- Names that do not lead upwards are put at the end of a place. -/
theorem foldl_enter {names : List String} (h : ".." ∉ names) (here : Place) :
  names.foldl FilePath.enter here = here ++ names
  := by
  induction names generalizing here with
  | nil => rw [List.foldl_nil, List.append_nil]
  | cons n names ih =>
      rw [List.mem_cons, not_or] at h
      have hne : (n == "..") = false := beq_eq_false_iff_ne.mpr (Ne.symm h.1)
      rw [List.foldl_cons, FilePath.enter, hne, if_neg Bool.false_ne_true, ih h.2,
        List.append_assoc]
      rfl

/-- A name of the place that names lead to is one of them, or comes from the place where they
start. -/
theorem mem_foldl_enter {names : List String} {here : Place} {n : String}
    (h : n ∈ names.foldl FilePath.enter here) :
  n ∈ here ∨ (n ∈ names ∧ n ≠ "..")
  := by
  induction names generalizing here with
  | nil => exact Or.inl h
  | cons m names ih =>
      rw [List.foldl_cons] at h
      rcases ih h with hmem | ⟨hmem, hne⟩
      · rw [FilePath.enter] at hmem
        split at hmem
        · exact Or.inl (List.dropLast_subset _ hmem)
        · rename_i hup
          rcases List.mem_append.mp hmem with hmem | hmem
          · exact Or.inl hmem
          · rw [List.mem_singleton.mp hmem]
            exact Or.inr ⟨List.mem_cons_self, fun heq => hup (beq_iff_eq.mpr heq)⟩
      · exact Or.inr ⟨List.mem_cons_of_mem _ hmem, hne⟩

namespace FilePath

theorem mem_resolve {p : FilePath} {directory : Place} {n : String} (h : n ∈ p.resolve directory) :
  n ∈ directory ∨ (n ∈ p.names ∧ n ≠ "..")
  := by
  rcases mem_foldl_enter h with hmem | hmem
  · split at hmem
    · cases hmem
    · exact Or.inl hmem
  · exact Or.inr hmem

theorem resolve_below {place : Place} (h : ".." ∉ place) (p : FilePath) (directory : Place) :
  (p.below place).resolve directory = p.resolve directory ++ place
  := by
  have hbelow : (p.below place).resolve directory = place.foldl enter (p.resolve directory) :=
    List.foldl_append
  rw [hbelow, foldl_enter h]

theorem resolve_ofPlace {place : Place} (h : ".." ∉ place) (directory : Place) :
  (ofPlace place).resolve directory = place
  := by
  have hroot : (ofPlace place).isAbsolute = true := rfl
  rw [resolve, hroot, if_pos rfl]
  apply foldl_enter h

end FilePath

/-! ### Segments -/

namespace Text

/-- Fields with separators between them are the fields of the whole. -/
theorem fields_intercalate {sep : Char} {fs : List (List Char)} (hne : fs ≠ [])
    (h : ∀ f ∈ fs, sep ∉ f) :
  fields sep ([sep].intercalate fs) = fs
  := by
  induction fs with
  | nil => exact absurd rfl hne
  | cons f fs ih =>
      obtain ⟨hf, hfs⟩ := List.forall_mem_cons.mp h
      cases fs with
      | nil => rw [List.intercalate_singleton, fields_of_not_mem hf]
      | cons g gs =>
          have hcons : [sep].intercalate (f :: g :: gs)
              = f ++ sep :: [sep].intercalate (g :: gs) := by
            rw [List.intercalate_cons_cons, List.append_assoc]
            rfl
          rw [hcons, fields_append_cons hf, ih (List.cons_ne_nil _ _) hfs]

/-- What is put for the characters of each field stands between the separators. -/
theorem intercalate_map_fields (sep : Char) (put : Char → List Char) (cs : List Char) :
  [sep].intercalate ((fields sep cs).map fun f => f.flatMap put) = cs.flatMap fun c => if c
    == sep then [sep] else put c
  := by
  induction cs with
  | nil => rfl
  | cons c cs ih =>
      obtain ⟨f, fs, hfields⟩ := List.exists_cons_of_ne_nil (fields_ne_nil sep cs)
      rw [hfields, List.map_cons] at ih
      rw [fields, hfields, List.flatMap_cons, ← ih]
      split
      · rw [List.map_cons, List.map_cons, List.intercalate_cons_cons]
        rfl
      · cases fs with
        | nil => simp [List.intercalate_singleton]
        | cons g gs => simp [List.intercalate_cons_cons]

/-- The fields of characters with the separator between them are the characters. -/
theorem intercalate_fields (sep : Char) (cs : List Char) :
  [sep].intercalate (fields sep cs) = cs
  := by
  have hself : ∀ c, (if c == sep then [sep] else [c]) = [c] := by
    intro c
    split
    · rename_i hsep
      rw [eq_of_beq hsep]
    · rfl
  have hput := intercalate_map_fields sep (fun c => [c]) cs
  simp only [hself, List.flatMap_singleton', List.map_id'] at hput
  apply hput

theorem toList_join (sep : Char) (names : List String) :
  (join (String.singleton sep) names).toList = [sep].intercalate (names.map String.toList)
  := by
  induction names with
  | nil => rfl
  | cons n names ih =>
      cases names with
      | nil => simp [join]
      | cons m names =>
          rw [join, List.map_cons, List.map_cons, List.intercalate_cons_cons, ← List.map_cons, ← ih]
          simp

/-- Texts with separators between them are what the whole is split into. -/
theorem split_join {sep : Char} {names : List String} (hne : names ≠ [])
    (h : ∀ n ∈ names, sep ∉ n.toList) :
  split sep (join (String.singleton sep) names) = names
  := by
  have hfields : fields sep ([sep].intercalate (names.map String.toList))
      = names.map String.toList := by
    apply fields_intercalate (mt List.map_eq_nil_iff.mp hne)
    rw [List.forall_mem_map]
    apply h
  have hback : (names.map String.toList).map String.ofList = names := by
    rw [List.map_map]
    exact (List.map_congr_left fun n _ => String.ofList_toList).trans (List.map_id _)
  rw [split, toList_join, hfields, hback]

theorem segments_join {names : List String} (hne : names ≠ []) (h : ∀ n ∈ names, '/' ∉ n.toList) :
  segments (join "/" names) = names
  := split_join hne h

/-- A text is its segments with slashes between them. -/
theorem join_segments (s : String) :
  join "/" (segments s) = s
  := by
  have hmap : (segments s).map String.toList = fields '/' s.toList := by
    rw [segments, split, List.map_map]
    exact (List.map_congr_left fun f _ => String.toList_ofList).trans (List.map_id _)
  have htext : (join "/" (segments s)).toList
      = ['/'].intercalate ((segments s).map String.toList) := toList_join '/' _
  rw [← String.toList_inj, htext, hmap, intercalate_fields]

theorem segments_injective :
  Function.Injective segments
  := Function.LeftInverse.injective join_segments

end Text

/-! ### Normal paths -/

/-- Paths whose segments are all names of files: none is empty, and none of them is made of one or
two dots. -/
def IsNormal (path : String) : Prop :=
  ∀ n ∈ Text.segments path, n ≠ "" ∧ n ≠ "." ∧ n ≠ ".."

instance (path : String) : Decidable (IsNormal path) := List.decidableBAll _ _

namespace IsNormal

variable {path : String} (h : IsNormal path)

include h

theorem up_not_mem :
  ".." ∉ Text.segments path
  := fun hmem => (h _ hmem).2.2 rfl

theorem ofText_eq :
  FilePath.ofText path = ⟨"", Text.segments path⟩
  := by
  have hroot : FilePath.rootOf path = "" := by
    have hslash : ∀ cs, path.toList ≠ '/' :: cs := by
      intro cs hcs
      have hsegments : Text.segments path = "" :: (Text.fields '/' cs).map String.ofList := by
        rw [Text.segments, Text.split, hcs, Text.fields]
        rfl
      apply (h "" (by rw [hsegments]; apply List.mem_cons_self)).1 rfl
    rw [FilePath.rootOf]
    split
    · rename_i cs hcs
      exact absurd hcs (hslash _)
    · rename_i cs _ hcs
      exact absurd hcs (hslash _)
    · rename_i cs _ _ hcs
      exact absurd hcs (hslash _)
    · rfl
  have hnames : (Text.segments path).filter (fun n => !(n.isEmpty || n == "."))
      = Text.segments path := by
    rw [List.filter_eq_self]
    intro n hn
    obtain ⟨hempty, hdot, -⟩ := h n hn
    simp [hempty, hdot]
  rw [FilePath.ofText, hroot, hnames]

theorem child_eq (p : FilePath) :
  p.child path = p.below (Text.segments path)
  := by
  rw [FilePath.child, h.ofText_eq]
  rfl

theorem resolve_child (p : FilePath) (directory : Place) :
  (p.child path).resolve directory = p.resolve directory ++ Text.segments path
  := by
  rw [h.child_eq]
  apply FilePath.resolve_below h.up_not_mem

end IsNormal

/-! ### Texts of paths -/

namespace FilePath

variable {p : FilePath}

theorem text_of_ne_nil (h : p.names ≠ []) :
  p.text = p.root ++ Text.join "/" p.names
  := by
  simp [text, h]

/-- A path has no longer text than one below it. -/
theorem size_text_le_below (h : p.names ≠ []) (rest : Place) :
  p.text.utf8ByteSize ≤ (p.below rest).text.utf8ByteSize
  := by
  have hbelow : (p.below rest).names ≠ [] := List.append_ne_nil_of_left_ne_nil h rest
  have hsize := Text.size_join_le_append "/" p.names rest
  rw [text_of_ne_nil h, text_of_ne_nil hbelow, String.utf8ByteSize_append,
    String.utf8ByteSize_append]
  apply Nat.add_le_add_left hsize

/-- A path with a last name that is no shorter is no shorter. -/
theorem size_text_below_concat_le {n m : String} (h : n.utf8ByteSize ≤ m.utf8ByteSize)
    (p : FilePath) (place : Place) :
  (p.below (place ++ [n])).text.utf8ByteSize ≤ (p.below (place ++ [m])).text.utf8ByteSize
  := by
  have hne : ∀ n, (p.below (place ++ [n])).names ≠ [] := by
    intro n
    apply List.append_ne_nil_of_right_ne_nil _ (List.concat_ne_nil n place)
  have hsize := Text.size_join_concat_le h "/" (p.names ++ place)
  rw [List.append_assoc, List.append_assoc] at hsize
  rw [text_of_ne_nil (hne n), text_of_ne_nil (hne m), String.utf8ByteSize_append,
    String.utf8ByteSize_append]
  apply Nat.add_le_add_left hsize

theorem below_below (p : FilePath) (place rest : Place) :
  (p.below place).below rest = p.below (place ++ rest)
  := by
  simp only [below, List.append_assoc]

end FilePath

/-! ### Texts of places -/

/-- The text of the segments of a path is the path. -/
theorem placeText_segments (path : String) :
  placeText (Text.segments path) = path
  := by
  have hne : (Text.segments path).isEmpty = false :=
    List.isEmpty_eq_false_iff.mpr (Text.segments_ne_nil path)
  simp [placeText, FilePath.text, hne, Text.join_segments]

/-- Names that a file can have. -/
structure IsName (n : String) : Prop where
  ne_empty : n ≠ ""
  ne_dot : n ≠ "."
  ne_up : n ≠ ".."
  slash_not_mem : '/' ∉ n.toList
  zero_not_mem : '\x00' ∉ n.toList
  short : n.utf8ByteSize ≤ longestName

theorem isName_iff {n : String} :
  IsName n ↔ n ≠ "" ∧ n ≠ "." ∧ n ≠ ".." ∧ '/' ∉ n.toList ∧ '\x00' ∉ n.toList ∧
    n.utf8ByteSize ≤ longestName
  := ⟨fun h => ⟨h.1, h.2, h.3, h.4, h.5, h.6⟩,
    fun ⟨h₁, h₂, h₃, h₄, h₅, h₆⟩ => ⟨h₁, h₂, h₃, h₄, h₅, h₆⟩⟩

instance (n : String) : Decidable (IsName n) := decidable_of_iff _ isName_iff.symm

/-- No zero character stands in a path below one without them. -/
theorem FilePath.isPlain_below {p : FilePath} (hp : p.isPlain = true) {rest : Place}
    (h : ∀ n ∈ rest, IsName n) :
  (p.below rest).isPlain = true
  := by
  apply List.all_eq_true.mpr
  intro n hn
  rcases List.mem_append.mp hn with hn | hn
  · apply List.all_eq_true.mp hp n hn
  · simpa using (h n hn).zero_not_mem

theorem FilePath.isPlain_ofPlace {place : Place} (h : ∀ n ∈ place, IsName n) :
  (FilePath.ofPlace place).isPlain = true
  := isPlain_below (p := ofPlace []) rfl h

theorem up_not_mem_of_isName {place : Place} (h : ∀ n ∈ place, IsName n) :
  ".." ∉ place
  := fun hmem => (h _ hmem).ne_up rfl

theorem placeText_eq_join {place : Place} (hne : place ≠ []) :
  placeText place = Text.join "/" place
  := by
  simp [placeText, FilePath.text, hne]

theorem segments_placeText {place : Place} (hne : place ≠ []) (h : ∀ n ∈ place, IsName n) :
  Text.segments (placeText place) = place
  := by
  rw [placeText_eq_join hne]
  apply Text.segments_join hne
  intro n hn
  exact (h n hn).slash_not_mem

/-- The text of a place tells the place. -/
theorem placeText_injective {place place' : Place} (hne : place ≠ []) (hne' : place' ≠ [])
    (h : ∀ n ∈ place, IsName n) (h' : ∀ n ∈ place', IsName n)
    (heq : placeText place = placeText place') :
  place = place'
  := by
  rw [← segments_placeText hne h, ← segments_placeText hne' h', heq]

theorem isNormal_placeText {place : Place} (hne : place ≠ []) (h : ∀ n ∈ place, IsName n) :
  IsNormal (placeText place)
  := by
  intro n hn
  rw [segments_placeText hne h] at hn
  exact ⟨(h n hn).ne_empty, (h n hn).ne_dot, (h n hn).ne_up⟩

end AgentBundles
