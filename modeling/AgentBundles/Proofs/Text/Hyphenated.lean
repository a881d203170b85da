import Mathlib.Data.List.DropRight
import Mathlib.Data.List.Forall2
import Mathlib.Tactic.Common
import AgentBundles.Proofs.Text.Within
import AgentBundles.Skill
import AgentBundles.Text.Case

/-!
# Words with hyphens between them

The words of a text are its runs of the characters that a slug can hold. The slug of an identifier
is made of the words of its name in lower case, with hyphens between them, and a text of that form
is its own slug.
-/

namespace AgentBundles

namespace Slug

variable {cs ds : List Char}

/-! ### Words -/

/-- The parts of a text between characters that no slug can hold; some of them may be empty. -/
def parts (cs : List Char) : List (List Char) := cs.splitOnP fun c => !isSlugChar c

/-- The words of a text: its runs of the characters that a slug can hold. -/
def words (cs : List Char) : List (List Char) := (parts cs).filter fun w => !w.isEmpty

/-- Words are not empty, and slugs can hold their characters. -/
def AreWords (ws : List (List Char)) : Prop := ∀ w ∈ ws, w ≠ [] ∧ ∀ c ∈ w, isSlugChar c = true

theorem parts_cons_of_slug {c : Char} (hc : isSlugChar c = true) (cs : List Char) :
  parts (c :: cs) = (parts cs).modifyHead (List.cons c)
  := by
  rw [parts, List.splitOnP_cons_eq_if_modifyHead, hc]
  rfl

theorem parts_cons_of_not {c : Char} (hc : isSlugChar c = false) (cs : List Char) :
  parts (c :: cs) = [] :: parts cs
  := by
  rw [parts, List.splitOnP_cons_eq_if_modifyHead, hc]
  rfl

theorem isSlugChar_of_mem_part {w : List Char} (hw : w ∈ parts cs) {c : Char} (hc : c ∈ w) :
  isSlugChar c = true
  := by
  induction cs generalizing w with
  | nil =>
      rw [List.mem_singleton.mp hw] at hc
      cases hc
  | cons d cs ih =>
      cases hd : isSlugChar d with
      | true =>
          obtain ⟨v, vs, hparts⟩ : ∃ v vs, parts cs = v :: vs :=
            List.exists_cons_of_ne_nil (List.splitOnP_ne_nil _ cs)
          rw [parts_cons_of_slug hd, hparts, List.modifyHead_cons] at hw
          rw [hparts] at ih
          rcases List.mem_cons.mp hw with rfl | hw
          · rcases List.mem_cons.mp hc with rfl | hc
            · apply hd
            · apply ih List.mem_cons_self hc
          · apply ih (List.mem_cons_of_mem v hw) hc
      | false =>
          rw [parts_cons_of_not hd] at hw
          rcases List.mem_cons.mp hw with rfl | hw
          · cases hc
          · apply ih hw hc

theorem areWords_words (cs : List Char) :
  AreWords (words cs)
  := by
  intro w hw
  rw [words, List.mem_filter] at hw
  constructor
  · simpa using hw.2
  · intro c hc
    apply isSlugChar_of_mem_part hw.1 hc

/-- A character that no slug can hold ends the words before it. -/
theorem words_append_cons {c : Char} (hc : isSlugChar c = false) (cs rest : List Char) :
  words (cs ++ c :: rest) = words cs ++ words rest
  := by
  have hbreak : (!isSlugChar c) = true := by rw [hc, Bool.not_false]
  rw [words, parts, List.splitOnP_append_cons cs rest hbreak, List.filter_append]
  rfl

theorem words_of_word {w : List Char} (hne : w ≠ []) (hw : ∀ c ∈ w, isSlugChar c = true) :
  words w = [w]
  := by
  have hwhole : parts w = [w] := by
    apply List.splitOnP_eq_singleton
    intro c hc
    rw [hw c hc, Bool.not_true]
  rw [words, hwhole, List.filter_cons_of_pos (by simpa using hne), List.filter_nil]

theorem words_intercalate {ws : List (List Char)} (h : AreWords ws) :
  words (['-'].intercalate ws) = ws
  := by
  induction ws with
  | nil => rfl
  | cons w ws ih =>
      obtain ⟨⟨hne, hw⟩, hws⟩ := List.forall_mem_cons.mp h
      cases ws with
      | nil => rw [List.intercalate_singleton, words_of_word hne hw]
      | cons v ws =>
          rw [List.intercalate_cons_cons, List.append_assoc, List.singleton_append,
            words_append_cons (by decide), words_of_word hne hw, ih hws, List.singleton_append]

theorem intercalate_cons (c : Char) (w : List Char) (ws : List (List Char)) :
  ['-'].intercalate ((c :: w) :: ws) = c :: ['-'].intercalate (w :: ws)
  := by
  cases ws with
  | nil => rw [List.intercalate_singleton, List.intercalate_singleton]
  | cons v ws =>
      rw [List.intercalate_cons_cons, List.intercalate_cons_cons, List.append_assoc,
        List.append_assoc, List.cons_append]

theorem intercalate_ne_nil {w : List Char} {ws : List (List Char)} (h : AreWords (w :: ws)) :
  ['-'].intercalate (w :: ws) ≠ []
  := by
  obtain ⟨c, v, rfl⟩ := List.exists_cons_of_ne_nil (List.forall_mem_cons.mp h).1.1
  rw [intercalate_cons]
  apply List.cons_ne_nil

/-! ### Hyphens -/

theorem hyphenate_of_slug {c : Char} (hc : isSlugChar c = true) (inRun : Bool) (cs : List Char) :
  hyphenate inRun (c :: cs) = c :: hyphenate false cs
  := by
  rw [hyphenate, if_pos hc]

theorem hyphenate_true_of_not {c : Char} (hc : isSlugChar c = false) (cs : List Char) :
  hyphenate true (c :: cs) = hyphenate true cs
  := by
  rw [hyphenate, hc, if_neg Bool.false_ne_true, if_pos rfl]

theorem hyphenate_false_of_not {c : Char} (hc : isSlugChar c = false) (cs : List Char) :
  hyphenate false (c :: cs) = '-' :: hyphenate true cs
  := by
  rw [hyphenate, hc, if_neg Bool.false_ne_true, if_neg Bool.false_ne_true]

theorem ne_hyphen_of_slug {c : Char} (hc : isSlugChar c = true) :
  ¬ (c == '-') = true
  := by
  rw [beq_iff_eq]
  rintro rfl
  cases hc

/-- After a run, a text begins with no hyphen. -/
theorem dropWhile_hyphenate_true (cs : List Char) :
  (hyphenate true cs).dropWhile (· == '-') = hyphenate true cs
  := by
  induction cs with
  | nil => rfl
  | cons c cs ih =>
      cases hc : isSlugChar c with
      | true => rw [hyphenate_of_slug hc, List.dropWhile_cons, if_neg (ne_hyphen_of_slug hc)]
      | false => rw [hyphenate_true_of_not hc, ih]

/-- Without the hyphens at its start, a text is as if a run came before. -/
theorem dropWhile_hyphenate_false (cs : List Char) :
  (hyphenate false cs).dropWhile (· == '-') = hyphenate true cs
  := by
  cases cs with
  | nil => rfl
  | cons c cs =>
      cases hc : isSlugChar c with
      | true =>
          rw [hyphenate_of_slug hc, hyphenate_of_slug hc, List.dropWhile_cons,
            if_neg (ne_hyphen_of_slug hc)]
      | false =>
          rw [hyphenate_false_of_not hc, hyphenate_true_of_not hc, List.dropWhile_cons,
            if_pos (beq_self_eq_true '-'), dropWhile_hyphenate_true]

/-- A hyphen stands before words as after an empty part; before no words it is taken off. -/
theorem rdropWhile_hyphen_cons {ws : List (List Char)} (h : AreWords ws)
    (hcs : cs.rdropWhile (· == '-') = ['-'].intercalate ws) :
  ('-' :: cs).rdropWhile (· == '-') = ['-'].intercalate ([] :: ws)
  := by
  rw [Text.rdropWhile_cons, hcs]
  cases ws with
  | nil => rfl
  | cons w ws =>
      rw [if_neg fun hnil => intercalate_ne_nil h hnil.2, List.intercalate_cons_cons]
      rfl

/-- Without the hyphens at its end, a text has them between its words after a run. Without a run
before, the first part of the text is there even if it is empty: the hyphen after it is then the
first character. -/
theorem rdropWhile_hyphenate (cs : List Char) :
  ∃ w ws, parts cs = w :: ws ∧
    (hyphenate false cs).rdropWhile (· == '-')
      = ['-'].intercalate (w :: ws.filter fun v => !v.isEmpty) ∧
    (hyphenate true cs).rdropWhile (· == '-') = ['-'].intercalate (words cs)
  := by
  -- The first part is kept apart from the others, because a character before it makes it longer.
  induction cs with
  | nil => exact ⟨[], [], rfl, rfl, rfl⟩
  | cons c cs ih =>
      obtain ⟨w, ws, hparts, hfirst, hrun⟩ := ih
      cases hc : isSlugChar c with
      | true =>
          have hlonger : parts (c :: cs) = (c :: w) :: ws := by
            rw [parts_cons_of_slug hc, hparts, List.modifyHead_cons]
          have hjoin : (c :: hyphenate false cs).rdropWhile (· == '-')
              = ['-'].intercalate ((c :: w) :: ws.filter fun v => !v.isEmpty) := by
            rw [Text.rdropWhile_cons, if_neg fun h => ne_hyphen_of_slug hc h.1, hfirst,
              intercalate_cons]
          refine ⟨c :: w, ws, hlonger, ?_, ?_⟩
          · rw [hyphenate_of_slug hc, hjoin]
          · rw [hyphenate_of_slug hc, hjoin, words, hlonger, List.filter_cons_of_pos (by simp)]
      | false =>
          have hwords : words (c :: cs) = words cs := words_append_cons hc [] cs
          have hrest : (w :: ws).filter (fun v => !v.isEmpty) = words cs := by rw [words, hparts]
          refine ⟨[], w :: ws, ?_, ?_, ?_⟩
          · rw [parts_cons_of_not hc, hparts]
          · rw [hyphenate_false_of_not hc, hrest]
            apply rdropWhile_hyphen_cons (areWords_words cs) hrun
          · rw [hyphenate_true_of_not hc, hrun, hwords]

/-- Hyphens for what is between the words, without those at the ends, stand between the words. -/
theorem stripBy_hyphenate (cs : List Char) :
  Text.stripBy (· == '-') (hyphenate false cs) = ['-'].intercalate (words cs)
  := by
  obtain ⟨-, -, -, -, hrun⟩ := rdropWhile_hyphenate cs
  rw [Text.stripBy, dropWhile_hyphenate_false]
  apply hrun

/-! ### Lower case -/

/-- Texts that differ only in characters that no slug can hold. -/
def Alike : List Char → List Char → Prop :=
  List.Forall₂ fun c d => c = d ∨ isSlugChar c = false ∧ isSlugChar d = false

/-- Which characters stand between the words makes no difference to them. -/
theorem Alike.words_eq (h : Alike cs ds) :
  words cs = words ds
  := by
  have hparts : parts cs = parts ds := by
    induction h with
    | nil => rfl
    | @cons c d _ _ hcd _ ih =>
        rcases hcd with rfl | ⟨hc, hd⟩
        · cases hc : isSlugChar c with
          | true => rw [parts_cons_of_slug hc, parts_cons_of_slug hc, ih]
          | false => rw [parts_cons_of_not hc, parts_cons_of_not hc, ih]
        · rw [parts_cons_of_not hc, parts_cons_of_not hd, ih]
  rw [words, words, hparts]

theorem isSlugChar_of_le {c : Char} (h : 0x80 ≤ c.toNat) :
  isSlugChar c = false
  := by
  rw [isSlugChar, Text.isAsciiDigit, Bool.or_eq_false_iff, Bool.and_eq_false_iff,
    Bool.and_eq_false_iff]
  simp only [decide_eq_false_iff_not, Char.le_def, UInt32.le_iff_toNat_le]
  constructor
  · exact Or.inr (Nat.not_le_of_lt (Nat.lt_of_lt_of_le (by decide) h))
  · exact Or.inr (Nat.not_le_of_lt (Nat.lt_of_lt_of_le (by decide) h))

theorem isSlugChar_ofNat {n : Nat} (h : 0x80 ≤ n) :
  isSlugChar (Char.ofNat n) = false
  := by
  by_cases hvalid : n.isValidChar
  · have hchar : Char.ofNat n = Char.ofNatAux n hvalid := dif_pos hvalid
    rw [hchar]
    apply isSlugChar_of_le
    apply h
  · have hzero : Char.ofNat n = '\x00' := dif_neg hvalid
    rw [hzero]
    decide

theorem toLower_of_le {c : Char} (h : 0x80 ≤ c.toNat) :
  c.toLower = c
  := by
  have hcapital : ¬ ('A'.val ≤ c.val ∧ c.val ≤ 'Z'.val) := by
    rintro ⟨-, hle⟩
    rw [UInt32.le_iff_toNat_le] at hle
    exact absurd (Nat.le_trans h hle) (by decide)
  exact dif_neg hcapital

/-- Of the characters beyond ASCII that have one character for their lower case, the Kelvin sign
alone has one that a slug can hold. -/
theorem isSlugChar_lowerChar {c : Char} (h : 0x80 ≤ c.toNat) (hkelvin : c.toNat ≠ 0x212A)
    (hdotted : c.toNat ≠ 0x130) :
  ∃ d, Text.lowerChar c = [d] ∧ isSlugChar d = false
  := by
  have hranges : ∀ r ∈ Text.lowerRanges, (r.1 = 0x212A ∧ r.2.1 = 0x212A) ∨
      0x80 ≤ (r.1 : Int) + r.2.2.2 := by
    decide +kernel
  rw [Text.lowerChar, if_neg (Nat.not_lt_of_le h), if_neg hdotted]
  split
  · rename_i r hr
    refine ⟨_, rfl, isSlugChar_ofNat ?_⟩
    have hin := List.find?_some hr
    simp only [Bool.and_eq_true, decide_eq_true_eq] at hin
    rcases hranges r (List.mem_of_find?_eq_some hr) with ⟨hfirst, hlast⟩ | hle
    · omega
    · omega
  · exact ⟨c, rfl, isSlugChar_of_le h⟩

theorem alike_lowerChar (c : Char) :
  Alike (slugLower c) (Text.lowerChar c)
  := by
  have hrefl : ∀ cs, Alike cs cs := fun cs => List.forall₂_same.mpr fun _ _ => Or.inl rfl
  by_cases hkelvin : c = Char.ofNat 0x212A
  · have hsame : slugLower c = Text.lowerChar c := by
      subst hkelvin
      decide +kernel
    rw [hsame]
    apply hrefl
  · by_cases hdotted : c = Char.ofNat 0x130
    · have hsame : slugLower c = Text.lowerChar c := by
        subst hdotted
        decide +kernel
      rw [hsame]
      apply hrefl
    · have hlower : slugLower c = [c.toLower] := by
        rw [slugLower, if_neg (by simpa using hkelvin), if_neg (by simpa using hdotted)]
      rw [hlower]
      rcases Nat.lt_or_ge c.toNat 0x80 with hlt | hge
      · rw [Text.lowerChar, if_pos hlt]
        apply hrefl
      · have hne : ∀ n, c ≠ Char.ofNat n → c.toNat ≠ n := by
          rintro n hn rfl
          exact hn (Char.ofNat_toNat c).symm
        obtain ⟨d, hd, hslug⟩ := isSlugChar_lowerChar hge (hne _ hkelvin) (hne _ hdotted)
        rw [hd, toLower_of_le hge]
        exact .cons (Or.inr ⟨isSlugChar_of_le hge, hslug⟩) .nil

/-- The lower case that a slug is made of is the lower case of the text, but for characters that no
slug can hold. -/
theorem alike_lowerFrom (before cs : List Char) :
  Alike (cs.flatMap slugLower) (Text.lowerFrom before cs)
  := by
  induction cs generalizing before with
  | nil => exact .nil
  | cons c cs ih =>
      rw [List.flatMap_cons, Text.lowerFrom]
      apply List.rel_append _ (ih (c :: before))
      split
      · rename_i hsigma
        have hc : c = Char.ofNat 0x3A3 := by rw [← hsigma, Char.ofNat_toNat]
        subst hc
        refine .cons (Or.inr ⟨by decide, isSlugChar_ofNat ?_⟩) .nil
        split
        · decide
        · decide
      · apply alike_lowerChar

/-! ### Normal form -/

/-- Words of small letters and digits with hyphens between them; without words, the empty text. -/
def IsHyphenated (cs : List Char) : Prop := ∃ ws, AreWords ws ∧ cs = ['-'].intercalate ws

/-- A slug is the words of a name in lower case, with hyphens between them. -/
theorem toList_ofId (id : String) :
  (ofId id).toList
    = ['-'].intercalate (words (Text.lowerAll (Text.strip (dropAuthor (lastSegment id.toList)))))
  := by
  rw [ofId, String.toList_ofList, ofChars, stripBy_hyphenate, (alike_lowerFrom [] _).words_eq]
  rfl

example : ofId "frontend/Next.js (@vince)" = "next-js" := by decide

theorem isHyphenated_ofId (id : String) :
  IsHyphenated (ofId id).toList
  := ⟨_, areWords_words _, toList_ofId id⟩

theorem dropAuthorReversed_eq_none (h : ')' ∉ cs) :
  dropAuthorReversed cs = none
  := by
  rw [dropAuthorReversed.eq_def]
  split
  · exact absurd List.mem_cons_self h
  · rfl

theorem dropAuthor_eq_self (hclosing : ')' ∉ cs) (hfeed : '\n' ∉ cs) :
  dropAuthor cs = cs
  := by
  rw [dropAuthor]
  split
  · rename_i rest hreverse
    apply absurd _ hfeed
    rw [← List.mem_reverse, hreverse]
    apply List.mem_cons_self
  · rw [dropAuthorReversed_eq_none (by rwa [List.mem_reverse])]

theorem lastSegment_eq_self (h : '/' ∉ cs) :
  lastSegment cs = cs
  := by
  rw [lastSegment, List.takeWhile_eq_self_iff.mpr, List.reverse_reverse]
  intro c hc
  rw [bne_iff_ne]
  rintro rfl
  exact h (List.mem_reverse.mp hc)

theorem of_slug_or_hyphen {c : Char} (h : isSlugChar c = true ∨ c = '-') :
  Text.isBlank c = false ∧ Text.lowerChar c = [c] ∧ c.toNat ≠ 0x3A3
  := by
  have hall : ∀ n < 0x80, isSlugChar (Char.ofNat n) = true ∨ Char.ofNat n = '-' →
      Text.isBlank (Char.ofNat n) = false ∧ Text.lowerChar (Char.ofNat n) = [Char.ofNat n] ∧
        (Char.ofNat n).toNat ≠ 0x3A3 := by decide +kernel
  have hlt : c.toNat < 0x80 := by
    by_contra hge
    rcases h with hslug | rfl
    · rw [isSlugChar_of_le (Nat.le_of_not_lt hge)] at hslug
      cases hslug
    · exact hge (by decide)
  rw [← Char.ofNat_toNat c] at h ⊢
  apply hall _ hlt h

namespace IsHyphenated

variable (h : IsHyphenated cs)

include h

/-- The words of a text in normal form make the text. -/
theorem intercalate_words :
  ['-'].intercalate (words cs) = cs
  := by
  obtain ⟨ws, hws, rfl⟩ := h
  rw [words_intercalate hws]

theorem of_mem {c : Char} (hc : c ∈ cs) :
  isSlugChar c = true ∨ c = '-'
  := by
  obtain ⟨ws, hws, rfl⟩ := h
  rcases Text.mem_intercalate hc with rfl | ⟨w, hw, hc⟩
  · exact Or.inr rfl
  · exact Or.inl ((hws w hw).2 c hc)

theorem not_mem {c : Char} (hc : isSlugChar c = false) (hhyphen : c ≠ '-') :
  c ∉ cs
  := by
  intro hmem
  rcases h.of_mem hmem with hslug | heq
  · rw [hc] at hslug
    cases hslug
  · exact hhyphen heq

theorem strip_eq :
  Text.strip cs = cs
  := by
  rw [Text.strip, Text.stripBy_eq_self_iff, List.dropWhile_eq_self_iff, List.rdropWhile_eq_self_iff]
  constructor
  · intro hpos
    rw [(of_slug_or_hyphen (h.of_mem (List.getElem_mem hpos))).1]
    exact Bool.false_ne_true
  · intro hne
    rw [(of_slug_or_hyphen (h.of_mem (List.getLast_mem hne))).1]
    exact Bool.false_ne_true

theorem lowerAll_eq :
  Text.lowerAll cs = cs
  := by
  have hlower : ∀ before, Text.lowerFrom before cs = cs := by
    have hmem := fun c => h.of_mem (c := c)
    clear h
    induction cs with
    | nil => exact fun _ => rfl
    | cons c cs ih =>
        intro before
        obtain ⟨-, hc, hsigma⟩ := of_slug_or_hyphen (hmem c List.mem_cons_self)
        rw [Text.lowerFrom, if_neg hsigma, hc, ih fun d hd => hmem d (List.mem_cons_of_mem c hd),
          List.singleton_append]
  apply hlower

/-- A text in normal form begins with a letter or digit. -/
theorem of_head? {c : Char} (hc : cs.head? = some c) :
  isSlugChar c = true
  := by
  obtain ⟨ws, hws, rfl⟩ := h
  cases ws with
  | nil => cases hc
  | cons w ws =>
      obtain ⟨⟨hne, hw⟩, -⟩ := List.forall_mem_cons.mp hws
      obtain ⟨d, w, rfl⟩ := List.exists_cons_of_ne_nil hne
      rw [intercalate_cons] at hc
      cases hc
      apply hw c List.mem_cons_self

/-- A text in normal form ends with a letter or digit. -/
theorem of_getLast? {c : Char} (hc : cs.getLast? = some c) :
  isSlugChar c = true
  := by
  obtain ⟨ws, hws, rfl⟩ := h
  induction ws with
  | nil => cases hc
  | cons w ws ih =>
      obtain ⟨⟨-, hw⟩, hrest⟩ := List.forall_mem_cons.mp hws
      cases ws with
      | nil =>
          rw [List.intercalate_singleton] at hc
          apply hw c (List.mem_of_getLast? hc)
      | cons v ws =>
          rw [List.intercalate_cons_cons,
            List.getLast?_append_of_ne_nil _ (intercalate_ne_nil hrest)] at hc
          apply ih hrest hc

end IsHyphenated

/-- A text in normal form is its own slug. -/
theorem ofId_eq_self {s : String} (h : IsHyphenated s.toList) :
  ofId s = s
  := by
  rw [← String.toList_inj, toList_ofId, lastSegment_eq_self (h.not_mem (by decide) (by decide)),
    dropAuthor_eq_self (h.not_mem (by decide) (by decide)) (h.not_mem (by decide) (by decide)),
    h.strip_eq, h.lowerAll_eq, h.intercalate_words]

end Slug

end AgentBundles
