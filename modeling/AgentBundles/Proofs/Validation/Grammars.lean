import AgentBundles.Proofs.Bundle.Version
import AgentBundles.Proofs.Files.Paths
import AgentBundles.Proofs.Text.Hyphenated

/-!
# The grammars of names and versions

What a name in kebab case and a semantic version are, apart from how texts are checked for them. The
checks follow the grammars but in two points: a line feed may come after the text, and most digits
of a version may be those of any script.
-/

namespace AgentBundles

/-! ### Fields and ends -/

namespace Text

variable {cs : List Char}

/-- Texts that are in a language, but for a line feed that may come after them. -/
def MayEndLine (P : List Char → Prop) (cs : List Char) : Prop :=
  P cs ∨ ∃ line, P line ∧ cs = line ++ ['\n']

theorem dropFinalBreak_concat (cs : List Char) :
  dropFinalBreak (cs ++ ['\n']) = cs
  := by
  rw [dropFinalBreak, List.getLast?_append]
  simp

/-- What is left without a final line feed is in a language whose texts have none exactly if the
text is, or is such a text with a line feed after it. -/
theorem dropFinalBreak_iff {P : List Char → Prop} (hP : ∀ cs, P cs → '\n' ∉ cs) :
  P (dropFinalBreak cs) ↔ MayEndLine P cs
  := by
  by_cases hlast : cs.getLast? = some '\n'
  · obtain ⟨line, rfl⟩ : ∃ line, cs = line ++ ['\n'] :=
      ⟨_, (List.dropLast_append_getLast? '\n' hlast).symm⟩
    rw [dropFinalBreak_concat]
    constructor
    · intro h
      exact Or.inr ⟨line, h, rfl⟩
    · rintro (h | ⟨line', h, heq⟩)
      · exact absurd (List.mem_append_right _ (List.mem_singleton_self _)) (hP _ h)
      · rw [List.append_cancel_right heq]
        apply h
  · have hsame : dropFinalBreak cs = cs := by
      rw [dropFinalBreak, beq_eq_false_iff_ne.mpr hlast, if_neg Bool.false_ne_true]
    rw [hsame]
    constructor
    · exact Or.inl
    · rintro (h | ⟨line, -, rfl⟩)
      · apply h
      · exact absurd (by rw [List.getLast?_append]; rfl) hlast

end Text

/-! ### Names -/

namespace Slug

/-- Words of small letters and digits with hyphens between them, the first of which begins with a
letter. -/
def IsKebabCase (cs : List Char) : Prop :=
  ∃ c word words, 'a' ≤ c ∧ c ≤ 'z' ∧ (∀ d ∈ word, isSlugChar d = true) ∧
    (∀ w ∈ words, w ≠ [] ∧ ∀ d ∈ w, isSlugChar d = true) ∧
    cs = ['-'].intercalate ((c :: word) :: words)

theorem not_mem_of_isSlugChar {word : List Char} (h : ∀ d ∈ word, isSlugChar d = true) {c : Char}
    (hc : isSlugChar c = false) :
  c ∉ word
  := by
  intro hmem
  have htrue := h c hmem
  rw [hc] at htrue
  cases htrue

theorem isKebab_iff {cs : List Char} :
  isKebab cs = true ↔ IsKebabCase cs
  := by
  rw [isKebab]
  constructor
  · intro h
    split at h
    · cases h
    · rename_i first words hfields
      rw [Bool.and_eq_true, List.all_eq_true] at h
      obtain ⟨hfirst, hwords⟩ := h
      split at hfirst
      · cases hfirst
      · rename_i c word
        simp only [Bool.and_eq_true, decide_eq_true_eq, List.all_eq_true] at hfirst
        refine ⟨c, word, words, hfirst.1.1, hfirst.1.2, hfirst.2, ?_, ?_⟩
        · intro w hw
          simpa using hwords w hw
        · rw [← hfields, Text.intercalate_fields]
  · rintro ⟨c, word, words, hle, hle', hword, hwords, rfl⟩
    have hslug : isSlugChar c = true := by simp [isSlugChar, hle, hle']
    have hfields : Text.fields '-' (['-'].intercalate ((c :: word) :: words))
        = (c :: word) :: words := by
      apply Text.fields_intercalate (List.cons_ne_nil _ _)
      rw [List.forall_mem_cons]
      constructor
      · apply not_mem_of_isSlugChar (List.forall_mem_cons.mpr ⟨hslug, hword⟩) (by decide)
      · intro w hw
        apply not_mem_of_isSlugChar (hwords w hw).2 (by decide)
    simp only [hfields, Bool.and_eq_true, decide_eq_true_eq, List.all_eq_true]
    refine ⟨⟨⟨hle, hle'⟩, hword⟩, ?_⟩
    intro w hw
    simpa using hwords w hw

theorem IsKebabCase.feed_not_mem {cs : List Char} (h : IsKebabCase cs) :
  '\n' ∉ cs
  := by
  intro hmem
  have hfields : '\n' = '-' ∨ ∃ f ∈ Text.fields '-' cs, '\n' ∈ f := Text.mem_fields_of_mem hmem
  rcases hfields with heq | ⟨f, hf, hfeed⟩
  · cases heq
  · have hslug := isSlugChar_of_isKebab (isKebab_iff.mpr h) hf hfeed
    revert hslug
    decide

/-- A name is taken for one in kebab case exactly if it is one, but for a line feed that may come
after it. -/
theorem isKebabName_iff {s : String} :
  isKebabName s = true ↔ Text.MayEndLine IsKebabCase s.toList
  := by
  rw [isKebabName, isKebab_iff]
  apply Text.dropFinalBreak_iff
  intro cs hcs
  apply hcs.feed_not_mem

/-- A name in kebab case is a name of a file. -/
theorem segments_of_isKebabName {name : String} (h : isKebabName name = true) :
  IsNormal name ∧ Text.segments name = [name]
  := by
  have hsegments :=
    Text.segments_of_not_mem (not_mem_kebabName h (c := '/') (by decide) (by decide) (by decide))
  have hne : ∀ s, isKebabName s = false → name ≠ s := by
    rintro s hs rfl
    rw [hs] at h
    cases h
  refine ⟨?_, hsegments⟩
  intro n hn
  rw [hsegments, List.mem_singleton] at hn
  rw [hn]
  exact ⟨hne _ (by decide), hne _ (by decide), hne _ (by decide)⟩

/-- A slug is a name exactly if it is one in kebab case: no line feed comes after it. -/
theorem isKebabName_ofId_iff {id : String} :
  isKebabName (ofId id) = true ↔ IsKebabCase (ofId id).toList
  := by
  rw [isKebabName_iff]
  constructor
  · rintro (h | ⟨line, -, heq⟩)
    · exact h
    · have hfeed : '\n' ∈ (ofId id).toList := by simp [heq]
      exact absurd hfeed ((isHyphenated_ofId id).not_mem (by decide) (by decide))
  · exact Or.inl

end Slug

/-! ### Versions -/

/-- Before the digits of other scripts there are those of ASCII only. -/
theorem Text.isDigit_eq_of_lt {c : Char} (h : c.toNat < 0x660) :
  isDigit c = isAsciiDigit c
  := by
  have hothers : ∀ z ∈ digitZeros.tail, 0x660 ≤ z := by decide
  have hnone : (digitZeros.tail.find? fun z => z ≤ c.toNat && c.toNat < z + 10) = none := by
    rw [List.find?_eq_none]
    intro z hz
    have hle := hothers z hz
    simp only [Bool.and_eq_true, decide_eq_true_eq]
    omega
  have hascii : (decide (0x30 ≤ c.toNat) && decide (c.toNat < 0x30 + 10)) = isAsciiDigit c := by
    rw [Bool.eq_iff_iff, isAsciiDigit]
    simp only [Bool.and_eq_true, decide_eq_true_eq, Char.le_def, UInt32.le_iff_toNat_le, Char.toNat]
    constructor
    · rintro ⟨hle, hlt⟩
      exact ⟨hle, Nat.le_of_lt_succ hlt⟩
    · rintro ⟨hle, hle'⟩
      exact ⟨hle, Nat.lt_succ_of_le hle'⟩
  have hzeros : digitZeros = 0x30 :: digitZeros.tail := rfl
  rw [isDigit, digitValue?, hzeros, List.find?_cons, hnone, hascii]
  cases isAsciiDigit c with
  | true => rfl
  | false => rfl

theorem Text.isDigit_of_isAsciiDigit {c : Char} (h : isAsciiDigit c = true) :
  isDigit c = true
  := by
  rw [isDigit_eq_of_lt, h]
  simp only [isAsciiDigit, Bool.and_eq_true, decide_eq_true_eq, Char.le_def,
    UInt32.le_iff_toNat_le] at h
  exact Nat.lt_of_le_of_lt h.2 (by decide)

theorem Text.isDigit_of_isAsciiLetter {c : Char} (h : isAsciiLetter c = true) :
  isDigit c = false
  := by
  simp only [isAsciiLetter, Bool.or_eq_true, Bool.and_eq_true, decide_eq_true_eq, Char.le_def,
    UInt32.le_iff_toNat_le] at h
  have hbounds : 'A'.toNat ≤ c.toNat ∧ c.toNat ≤ 'z'.toNat := by
    rcases h with ⟨hle, hle'⟩ | ⟨hle, hle'⟩
    · exact ⟨Nat.le_trans (by decide) hle, hle'⟩
    · exact ⟨hle, Nat.le_trans hle' (by decide)⟩
  rw [isDigit_eq_of_lt (Nat.lt_of_le_of_lt hbounds.2 (by decide)), isAsciiDigit,
    Bool.and_eq_false_iff]
  right
  simp only [decide_eq_false_iff_not, Char.le_def, UInt32.le_iff_toNat_le]
  exact Nat.not_le_of_lt (Nat.lt_of_lt_of_le (by decide) hbounds.1)

namespace Version

section

variable (isDigit : Char → Bool)

/-- Zero, or digits of which the first one is not zero. -/
def IsNumeral (cs : List Char) : Prop :=
  cs = ['0'] ∨ ∃ c ds, cs = c :: ds ∧ '1' ≤ c ∧ c ≤ '9' ∧ ∀ d ∈ ds, isDigit d = true

/-- A numeral, or letters, digits and hyphens, of which not all are digits. -/
def IsPartOfRelease (cs : List Char) : Prop :=
  IsNumeral isDigit cs ∨ ∃ ds c rest, cs = ds ++ c :: rest ∧ (∀ d ∈ ds, isDigit d = true) ∧
    (Text.isAsciiLetter c = true ∨ c = '-') ∧ ∀ d ∈ rest, isNameChar d = true

/-- Letters, digits and hyphens. -/
def IsPartOfBuild (cs : List Char) : Prop :=
  cs ≠ [] ∧ ∀ c ∈ cs, isNameChar c = true

/-- Nothing, or a mark and parts with dots between them. -/
def IsMarked (mark : Char) (IsPart : List Char → Prop) (cs : List Char) : Prop :=
  cs = [] ∨ ∃ parts, parts ≠ [] ∧ (∀ part ∈ parts, IsPart part) ∧
    cs = mark :: ['.'].intercalate parts

/-- A semantic version: three numerals with dots between them, after which the names of a
pre-release and of a build may stand. -/
def IsVersion (cs : List Char) : Prop :=
  ∃ major minor patch release build,
    IsNumeral isDigit major ∧ IsNumeral isDigit minor ∧ IsNumeral isDigit patch ∧
    IsMarked '-' (IsPartOfRelease isDigit) release ∧ IsMarked '+' IsPartOfBuild build ∧
    cs = major ++ '.' :: (minor ++ '.' :: (patch ++ (release ++ build)))

end

variable {cs : List Char}

theorem isPlain_iff :
  isPlain cs = true ↔ IsNumeral Text.isDigit cs
  := by
  cases cs with
  | nil => simp [isPlain, IsNumeral]
  | cons c ds => simp [isPlain, IsNumeral, and_assoc]

theorem isReleaseField_iff :
  isReleaseField cs = true ↔ IsPartOfRelease Text.isDigit cs
  := by
  rw [isReleaseField, Bool.or_eq_true, isPlain_iff, IsPartOfRelease]
  apply or_congr_right
  constructor
  · intro h
    split at h
    · cases h
    · rename_i c rest hdrop
      simp only [Bool.and_eq_true, Bool.or_eq_true, beq_iff_eq, List.all_eq_true] at h
      refine ⟨cs.takeWhile Text.isDigit, c, rest, ?_, fun d hd => List.mem_takeWhile_imp hd,
        h.1, h.2⟩
      rw [← hdrop, List.takeWhile_append_dropWhile]
  · rintro ⟨ds, c, rest, rfl, hds, hc, hrest⟩
    have hnot : ¬ Text.isDigit c = true := by
      rcases hc with hc | rfl
      · simp [Text.isDigit_of_isAsciiLetter hc]
      · decide
    rw [List.dropWhile_append_of_pos hds, List.dropWhile_cons_of_neg hnot]
    simpa using ⟨hc, hrest⟩

theorem isBuildField_iff :
  isBuildField cs = true ↔ IsPartOfBuild cs
  := by
  simp [isBuildField, IsPartOfBuild]

/-! ### Characters of versions -/

variable {c : Char}

theorem not_mem_partOfRelease (hdigit : Text.isDigit c = false) (hname : isNameChar c = false)
    (h : IsPartOfRelease Text.isDigit cs) :
  c ∉ cs
  := by
  have hascii : ∀ d, Text.isAsciiDigit d = true ∨ Text.isAsciiLetter d = true ∨ d = '-' →
      isNameChar d = true := by
    intro d hd
    rcases hd with hd | hd | rfl
    · simp [isNameChar, Text.isAsciiAlphanumeric, hd]
    · simp [isNameChar, Text.isAsciiAlphanumeric, hd]
    · decide
  have hall : ∀ d ∈ cs, Text.isDigit d = true ∨ isNameChar d = true := by
    rcases h with (rfl | ⟨d, ds, rfl, hle, hle', hds⟩) | ⟨ds, d, rest, rfl, hds, hd, hrest⟩
    · rw [List.forall_mem_singleton]
      exact Or.inr (by decide)
    · rw [List.forall_mem_cons]
      constructor
      · right
        apply hascii
        left
        have hzero : '0' ≤ d := Char.le_trans (by decide) hle
        simp [Text.isAsciiDigit, hzero, hle']
      · intro e he
        exact Or.inl (hds e he)
    · rw [List.forall_mem_append, List.forall_mem_cons]
      refine ⟨fun e he => Or.inl (hds e he), Or.inr (hascii d (Or.inr hd)),
        fun e he => Or.inr (hrest e he)⟩
  intro hmem
  rcases hall c hmem with hc | hc
  · rw [hdigit] at hc
    cases hc
  · rw [hname] at hc
    cases hc

theorem not_mem_partOfBuild (hname : isNameChar c = false) (h : IsPartOfBuild cs) :
  c ∉ cs
  := by
  intro hmem
  have htrue := h.2 c hmem
  rw [hname] at htrue
  cases htrue

theorem not_mem_marked {mark : Char} {IsPart : List Char → Prop} (hmark : c ≠ mark) (hdot : c ≠ '.')
    (hpart : ∀ part, IsPart part → c ∉ part) (h : IsMarked mark IsPart cs) :
  c ∉ cs
  := by
  rcases h with rfl | ⟨parts, hne, hparts, rfl⟩
  · apply List.not_mem_nil
  · rw [List.mem_cons, not_or]
    refine ⟨hmark, ?_⟩
    intro hmem
    rcases Text.mem_intercalate hmem with heq | ⟨part, hmem, hc⟩
    · exact hdot heq
    · exact hpart part (hparts part hmem) hc

/-! ### Versions that are recognized -/

theorem head_of_marked {mark : Char} {IsPart : List Char → Prop}
    (h : IsMarked mark IsPart (c :: cs)) :
  c = mark
  := by
  rcases h with h | ⟨parts, -, -, heq⟩
  · cases h
  · injection heq

/-- The parts of a name are checked one by one. -/
theorem isMarked_cons_iff {mark : Char} {isField : List Char → Bool} {IsPart : List Char → Prop}
    (hfield : ∀ f, isField f = true ↔ IsPart f) (hdot : ∀ f, IsPart f → '.' ∉ f)
    {name : List Char} :
  IsMarked mark IsPart (mark :: name) ↔ (Text.fields '.' name).all isField = true
  := by
  simp only [List.all_eq_true, hfield]
  constructor
  · rintro (h | ⟨parts, hne, hparts, heq⟩)
    · cases h
    · injection heq with _ heq
      rw [heq, Text.fields_intercalate hne fun f hf => hdot f (hparts f hf)]
      apply hparts
  · intro h
    refine Or.inr ⟨Text.fields '.' name, Text.fields_ne_nil '.' name, h, ?_⟩
    rw [Text.intercalate_fields]

theorem isMarked_nil {mark : Char} {IsPart : List Char → Prop} :
  IsMarked mark IsPart []
  := Or.inl rfl

/-- What stands before the first plus sign is checked as the name of a pre-release, and the rest as
that of a build. -/
theorem isRelease_append_iff {release build : List Char}
    (hrelease : ∀ c ∈ release, (c != '+') = true) (hbuild : ∀ c, build.head? = some c → c = '+') :
  isRelease (release ++ build) = true
    ↔ IsMarked '-' (IsPartOfRelease Text.isDigit) release ∧ IsMarked '+' IsPartOfBuild build
  := by
  have htake : (release ++ build).takeWhile (· != '+') = release := by
    rw [List.takeWhile_append_of_pos hrelease]
    cases build with
    | nil => exact List.append_nil release
    | cons c name =>
        obtain rfl := hbuild c rfl
        rw [List.takeWhile_cons_of_neg (by simp), List.append_nil]
  rw [isRelease, htake, List.drop_left, Bool.and_eq_true]
  apply and_congr
  · have hname : ∀ {name}, IsMarked '-' (IsPartOfRelease Text.isDigit) ('-' :: name)
        ↔ (Text.fields '.' name).all isReleaseField = true :=
      isMarked_cons_iff (fun _ => isReleaseField_iff) fun _ => not_mem_partOfRelease (by decide)
        (by decide)
    cases release with
    | nil => exact iff_of_true rfl isMarked_nil
    | cons c name =>
        rw [Bool.and_eq_true, beq_iff_eq]
        constructor
        · rintro ⟨rfl, hfields⟩
          exact hname.mpr hfields
        · intro hmarked
          obtain rfl : c = '-' := head_of_marked hmarked
          exact ⟨rfl, hname.mp hmarked⟩
  · cases build with
    | nil => exact iff_of_true rfl isMarked_nil
    | cons c name =>
        obtain rfl := hbuild c rfl
        exact (isMarked_cons_iff (fun _ => isBuildField_iff) fun _ => not_mem_partOfBuild
          (by decide)).symm

theorem isRelease_iff :
  isRelease cs = true ↔ ∃ release build, IsMarked '-' (IsPartOfRelease Text.isDigit) release ∧
    IsMarked '+' IsPartOfBuild build ∧ cs = release ++ build
  := by
  constructor
  · intro h
    have hhead : ∀ c, (cs.dropWhile (· != '+')).head? = some c → c = '+' := by
      intro c hc
      have hnot := List.head?_dropWhile_not (· != '+') cs
      rw [hc] at hnot
      simpa using hnot
    rw [← @List.takeWhile_append_dropWhile _ (· != '+') cs,
      isRelease_append_iff (fun _ => List.mem_takeWhile_imp) hhead] at h
    exact ⟨_, _, h.1, h.2, List.takeWhile_append_dropWhile.symm⟩
  · rintro ⟨release, build, hrelease, hbuild, rfl⟩
    apply (isRelease_append_iff _ _).mpr ⟨hrelease, hbuild⟩
    · intro c hc
      rw [bne_iff_ne]
      rintro rfl
      apply not_mem_marked (by decide) (by decide) _ hrelease hc
      intro part
      apply not_mem_partOfRelease (by decide) (by decide)
    · intro c hc
      cases build with
      | nil => cases hc
      | cons d name =>
          cases hc
          exact head_of_marked hbuild

theorem numerals?_eq_some_iff {n : Numerals} :
  numerals? cs = some n
    ↔ (∀ d ∈ n.major, Text.isDigit d = true) ∧ (∀ d ∈ n.minor, Text.isDigit d = true) ∧
      (∀ d ∈ n.patch, Text.isDigit d = true) ∧ (∀ d ∈ n.rest.head?, Text.isDigit d = false) ∧
      cs = n.major ++ '.' :: (n.minor ++ '.' :: (n.patch ++ n.rest))
  := by
  constructor
  · intro h
    rw [numerals?] at h
    split at h
    · rename_i major cs' hmajor
      split at h
      · rename_i minor cs'' hminor
        cases h
        obtain ⟨hds, -, rfl⟩ := spanDecimal_eq_iff.mp hmajor
        obtain ⟨hds', -, rfl⟩ := spanDecimal_eq_iff.mp hminor
        obtain ⟨hds'', hrest, heq⟩ :=
          spanDecimal_eq_iff.mp (Prod.mk.eta (p := spanDecimal cs'')).symm
        refine ⟨hds, hds', hds'', hrest, ?_⟩
        rw [← heq]
      · cases h
    · cases h
  · obtain ⟨major, minor, patch, rest⟩ := n
    rintro ⟨hmajor, hminor, hpatch, hrest, rfl⟩
    have hdot : ∀ cs : List Char, ∀ d ∈ ('.' :: cs).head?, Text.isDigit d = false := by
      intro cs d hd
      cases hd
      decide
    rw [numerals?, spanDecimal_eq_iff.mpr ⟨hmajor, hdot _, rfl⟩]
    simp only [spanDecimal_eq_iff.mpr ⟨hminor, hdot _, rfl⟩,
      spanDecimal_eq_iff.mpr ⟨hpatch, hrest, rfl⟩]

theorem isDigit_of_numeral (h : IsNumeral Text.isDigit cs) :
  ∀ d ∈ cs, Text.isDigit d = true
  := by
  rcases h with rfl | ⟨c, ds, rfl, hle, hle', hds⟩
  · rw [List.forall_mem_singleton]
    decide
  · have hzero : '0' ≤ c := Char.le_trans (by decide) hle
    rw [List.forall_mem_cons]
    exact ⟨Text.isDigit_of_isAsciiDigit (by simp [Text.isAsciiDigit, hzero, hle']), hds⟩

/-- What follows the numerals of a version does not begin with a digit. -/
theorem isDigit_head?_of_marked {release build : List Char}
    (hrelease : IsMarked '-' (IsPartOfRelease Text.isDigit) release)
    (hbuild : IsMarked '+' IsPartOfBuild build) :
  ∀ d ∈ (release ++ build).head?, Text.isDigit d = false
  := by
  intro d hd
  cases release with
  | cons c name =>
      cases hd
      rw [head_of_marked hrelease]
      decide
  | nil =>
      cases build with
      | cons c name =>
          cases hd
          rw [head_of_marked hbuild]
          decide
      | nil => cases hd

theorem feed_not_mem_version (h : IsVersion Text.isDigit cs) :
  '\n' ∉ cs
  := by
  obtain ⟨major, minor, patch, release, build, hmajor, hminor, hpatch, hrelease, hbuild, rfl⟩ := h
  have hpart : ∀ part, IsPartOfRelease Text.isDigit part → '\n' ∉ part :=
    fun _ => not_mem_partOfRelease (by decide) (by decide)
  have hpart' : ∀ part, IsPartOfBuild part → '\n' ∉ part := fun _ => not_mem_partOfBuild (by decide)
  have hnotRelease : '\n' ∉ release := not_mem_marked (by decide) (by decide) hpart hrelease
  have hnotBuild : '\n' ∉ build := not_mem_marked (by decide) (by decide) hpart' hbuild
  simp [hpart _ (Or.inl hmajor), hpart _ (Or.inl hminor), hpart _ (Or.inl hpatch), hnotRelease,
    hnotBuild]

/-- A text is taken for a version that may be published exactly if it is a semantic version with
digits of any script, but for a line feed that may come after it. -/
theorem isSemantic_iff {s : String} :
  isSemantic s = true ↔ Text.MayEndLine (IsVersion Text.isDigit) s.toList
  := by
  rw [isSemantic.eq_def, ← Text.dropFinalBreak_iff fun _ => feed_not_mem_version]
  generalize Text.dropFinalBreak s.toList = cs
  constructor
  · intro h
    split at h
    · rename_i n hn
      simp only [Bool.and_eq_true, isPlain_iff, isRelease_iff] at h
      obtain ⟨⟨⟨hmajor, hminor⟩, hpatch⟩, release, build, hrelease, hbuild, hrest⟩ := h
      obtain ⟨-, -, -, -, hcs⟩ := numerals?_eq_some_iff.mp hn
      refine ⟨n.major, n.minor, n.patch, release, build, hmajor, hminor, hpatch, hrelease,
        hbuild, ?_⟩
      rw [hcs, hrest]
    · cases h
  · rintro ⟨major, minor, patch, release, build, hmajor, hminor, hpatch, hrelease, hbuild, hcs⟩
    have hn : numerals? cs = some ⟨major, minor, patch, release ++ build⟩ :=
      numerals?_eq_some_iff.mpr ⟨isDigit_of_numeral hmajor, isDigit_of_numeral hminor,
        isDigit_of_numeral hpatch, isDigit_head?_of_marked hrelease hbuild, hcs⟩
    rw [hn]
    simp only [Bool.and_eq_true, isPlain_iff, isRelease_iff]
    exact ⟨⟨⟨hmajor, hminor⟩, hpatch⟩, release, build, hrelease, hbuild, rfl⟩

/-- A version with digits of one kind is one with digits of a kind that has more. -/
theorem IsVersion.mono {isDigit isDigit' : Char → Bool} (h : IsVersion isDigit cs)
    (hdigit : ∀ c, isDigit c = true → isDigit' c = true) :
  IsVersion isDigit' cs
  := by
  have hnumeral : ∀ {cs}, IsNumeral isDigit cs → IsNumeral isDigit' cs := by
    rintro cs (rfl | ⟨c, ds, rfl, hle, hle', hds⟩)
    · exact Or.inl rfl
    · exact Or.inr ⟨c, ds, rfl, hle, hle', fun d hd => hdigit d (hds d hd)⟩
  have hpart : ∀ {cs}, IsPartOfRelease isDigit cs → IsPartOfRelease isDigit' cs := by
    rintro cs (h | ⟨ds, c, rest, rfl, hds, hc, hrest⟩)
    · exact Or.inl (hnumeral h)
    · exact Or.inr ⟨ds, c, rest, rfl, fun d hd => hdigit d (hds d hd), hc, hrest⟩
  obtain ⟨major, minor, patch, release, build, hmajor, hminor, hpatch, hrelease, hbuild, rfl⟩ := h
  refine ⟨major, minor, patch, release, build, hnumeral hmajor, hnumeral hminor, hnumeral hpatch,
    ?_, hbuild, rfl⟩
  rcases hrelease with rfl | ⟨parts, hne, hparts, rfl⟩
  · exact Or.inl rfl
  · exact Or.inr ⟨parts, hne, fun part hmem => hpart (hparts part hmem), rfl⟩

end Version

end AgentBundles
