import AgentBundles.Proofs.Text.Within
import AgentBundles.Template.Placeholder

/-!
# The places of a template

A place is written with double braces around its name, and blanks may stand on either side of the
name. A template is read from its beginning: where a place can begin one does, and every other
character stands for itself. The text of a filled template depends on the values of its places only,
and holds them as they are.
-/

namespace AgentBundles.Template

/-! ### The characters of names -/

/-- The code points of ranges. -/
def codesIn (ranges : List (Nat × Nat)) : List Nat :=
  ranges.flatMap fun r => List.range' r.1 (r.2 + 1 - r.1)

theorem mem_codesIn {n : Nat} {ranges : List (Nat × Nat)} (h : Text.inRanges n ranges = true) :
  n ∈ codesIn ranges
  := by
  obtain ⟨r, hr, hn⟩ := List.any_eq_true.mp h
  rw [Bool.and_eq_true, decide_eq_true_eq, decide_eq_true_eq] at hn
  apply List.mem_flatMap.mpr
  use r, hr
  rw [List.mem_range'_1]
  omega

/-- No blank may stand in the name of a place. -/
theorem isNameChar_of_isBlank {c : Char} (h : Text.isBlank c = true) :
  isNameChar c = false
  := by
  have hall : ∀ n ∈ codesIn Text.blankRanges, isNameChar (Char.ofNat n) = false := by decide +kernel
  rw [← Char.ofNat_toNat c]
  apply hall c.toNat (mem_codesIn h)

theorem isBlank_of_isNameChar {c : Char} (h : isNameChar c = true) :
  Text.isBlank c = false
  := by
  rw [Bool.eq_false_iff]
  intro hblank
  rw [isNameChar_of_isBlank hblank] at h
  cases h

/-! ### Places -/

/-- How a place with a name is written: double braces around the name, with blanks on either side of
it. -/
def IsMark (name mark : List Char) : Prop :=
  name ≠ [] ∧ (∀ c ∈ name, isNameChar c = true) ∧ ∃ before after : List Char,
    (∀ c ∈ before, Text.isBlank c = true) ∧ (∀ c ∈ after, Text.isBlank c = true) ∧
      mark = ['{', '{'] ++ before ++ name ++ after ++ ['}', '}']

/-- What is taken at two braces is a place, and what follows it is left. -/
theorem takePlace?_eq_some_iff {cs name rest : List Char} :
  takePlace? cs = some (name, rest) ↔ ∃ mark, IsMark name mark ∧ '{' :: '{' :: cs = mark ++ rest
  := by
  constructor
  · intro h
    rw [takePlace?] at h
    have hbefore : cs.takeWhile Text.isBlank ++ cs.dropWhile Text.isBlank = cs :=
      List.takeWhile_append_dropWhile
    generalize cs.dropWhile Text.isBlank = start at h hbefore
    have hname := List.prefix_iff_eq_append.mp (List.takeWhile_prefix isNameChar (l := start))
    have hchars : ∀ c ∈ start.takeWhile isNameChar, isNameChar c = true :=
      fun _ => List.mem_takeWhile_imp
    generalize start.takeWhile isNameChar = taken at h hname hchars
    generalize start.drop taken.length = tail at h hname
    have hafter : tail.takeWhile Text.isBlank ++ tail.dropWhile Text.isBlank = tail :=
      List.takeWhile_append_dropWhile
    split at h
    · rename_i c name' rest' hrest
      cases h
      refine ⟨['{', '{'] ++ cs.takeWhile Text.isBlank ++ (c :: name') ++
        tail.takeWhile Text.isBlank ++ ['}', '}'],
        ⟨List.cons_ne_nil _ _, hchars, _, _, fun _ => List.mem_takeWhile_imp,
        fun _ => List.mem_takeWhile_imp, rfl⟩, ?_⟩
      nth_rewrite 1 [← hbefore, ← hname, ← hafter, hrest]
      simp
    · cases h
  · rintro ⟨mark, ⟨hne, hname, before, after, hbefore, hafter, rfl⟩, heq⟩
    obtain ⟨c, name, rfl⟩ := List.exists_cons_of_ne_nil hne
    have hcs : cs = before ++ ((c :: name) ++ (after ++ '}' :: '}' :: rest)) := by
      simpa using heq
    have hstart : cs.dropWhile Text.isBlank = (c :: name) ++ (after ++ '}' :: '}' :: rest) := by
      have hc : ¬ Text.isBlank c = true := by
        rw [isBlank_of_isNameChar (hname c List.mem_cons_self)]
        apply Bool.false_ne_true
      rw [hcs, List.dropWhile_append_of_pos hbefore, List.cons_append,
        List.dropWhile_cons_of_neg hc]
    have hend : (after ++ '}' :: '}' :: rest).takeWhile isNameChar = [] := by
      cases after with
      | nil => rfl
      | cons d after =>
          apply List.takeWhile_cons_of_neg
          rw [isNameChar_of_isBlank (hafter d List.mem_cons_self)]
          apply Bool.false_ne_true
    have htake : (cs.dropWhile Text.isBlank).takeWhile isNameChar = c :: name := by
      rw [hstart, List.takeWhile_append_of_pos hname, hend, List.append_nil]
    have hdrop : ((cs.dropWhile Text.isBlank).drop (c :: name).length).dropWhile Text.isBlank
        = '}' :: '}' :: rest := by
      rw [hstart, List.drop_left, List.dropWhile_append_of_pos hafter]
      rfl
    rw [takePlace?, htake, hdrop]
    rfl

/-! ### Reading a template -/

/-- How a template is read from its beginning: a place where one can begin, and else a character
that stands for itself. -/
inductive Scans : List Char → List Part → Prop
  | nil : Scans [] []
  | place {name mark rest : List Char} {ps : List Part} : IsMark name mark → Scans rest ps →
      Scans (mark ++ rest) (.place name :: ps)
  | literal {c : Char} {cs : List Char} {ps : List Part} :
      (∀ name mark rest, IsMark name mark → c :: cs ≠ mark ++ rest) →
      Scans cs ps → Scans (c :: cs) (.literal c :: ps)

theorem partsOf_mark {name mark : List Char} (h : IsMark name mark) (rest : List Char)
    (fuel : Nat) :
  partsOf (fuel + 1) (mark ++ rest) = .place name :: partsOf fuel rest
  := by
  obtain ⟨after, hafter⟩ : ∃ after, mark ++ rest = '{' :: '{' :: after := by
    obtain ⟨-, -, before, after, -, -, rfl⟩ := h
    exact ⟨_, rfl⟩
  have htake : takePlace? after = some (name, rest) :=
    takePlace?_eq_some_iff.mpr ⟨mark, h, hafter.symm⟩
  rw [hafter, partsOf, htake]

theorem partsOf_literal {c : Char} {cs : List Char}
    (h : ∀ name mark rest, IsMark name mark → c :: cs ≠ mark ++ rest) (fuel : Nat) :
  partsOf (fuel + 1) (c :: cs) = .literal c :: partsOf fuel cs
  := by
  by_cases hbraces : ∃ after, c = '{' ∧ cs = '{' :: after
  · obtain ⟨after, rfl, rfl⟩ := hbraces
    rw [partsOf]
    split
    · rename_i name rest htake
      obtain ⟨mark, hmark, heq⟩ := takePlace?_eq_some_iff.mp htake
      apply absurd heq (h name mark rest hmark)
    · rfl
  · rw [partsOf]
    intro after hc hcs
    apply hbraces ⟨after, hc, hcs⟩

theorem scans_partsOf {fuel : Nat} {cs : List Char} (h : cs.length ≤ fuel) :
  Scans cs (partsOf fuel cs)
  := by
  induction fuel generalizing cs with
  | zero =>
      rw [List.length_eq_zero_iff.mp (Nat.le_zero.mp h)]
      apply Scans.nil
  | succ fuel ih =>
      cases cs with
      | nil => apply Scans.nil
      | cons c cs =>
          by_cases hmark : ∃ name mark rest, IsMark name mark ∧ c :: cs = mark ++ rest
          · obtain ⟨name, mark, rest, hmark, heq⟩ := hmark
            have hlength : rest.length ≤ fuel := by
              have hpos : 0 < mark.length := by
                obtain ⟨-, -, before, after, -, -, rfl⟩ := hmark
                simp
              rw [heq, List.length_append] at h
              omega
            rw [heq, partsOf_mark hmark]
            apply Scans.place hmark (ih hlength)
          · have hnone : ∀ name mark rest, IsMark name mark → c :: cs ≠ mark ++ rest :=
              fun name mark rest h heq => hmark ⟨name, mark, rest, h, heq⟩
            rw [partsOf_literal hnone]
            apply Scans.literal hnone (ih (Nat.le_of_succ_le_succ h))

theorem Scans.partsOf_eq {cs : List Char} {ps : List Part} (h : Scans cs ps) {fuel : Nat}
    (hfuel : cs.length ≤ fuel) :
  partsOf fuel cs = ps
  := by
  induction h generalizing fuel with
  | nil => cases fuel <;> rfl
  | @place name mark rest ps hmark _ ih =>
      obtain ⟨fuel, rfl⟩ : ∃ n, fuel = n + 1 := by
        apply Nat.exists_eq_succ_of_ne_zero
        rintro rfl
        obtain ⟨-, -, before, after, -, -, rfl⟩ := hmark
        simp at hfuel
      rw [partsOf_mark hmark, ih]
      obtain ⟨-, -, before, after, -, -, rfl⟩ := hmark
      simp only [List.length_append, List.length_cons, List.length_nil] at hfuel
      omega
  | @literal c cs ps hnone _ ih =>
      obtain ⟨fuel, rfl⟩ : ∃ n, fuel = n + 1 :=
        Nat.exists_eq_succ_of_ne_zero fun h => by simp [h] at hfuel
      rw [partsOf_literal hnone, ih (Nat.le_of_succ_le_succ hfuel)]

/-- The parts of a template are what it is read as, and nothing else. -/
theorem scans_iff {template : String} {ps : List Part} :
  Scans template.toList ps ↔ parts template = ps
  := by
  constructor
  · intro h
    apply h.partsOf_eq le_rfl
  · rintro rfl
    apply scans_partsOf le_rfl

/-! ### Filled templates -/

theorem ofList_mem_places {template : String} {name : List Char}
    (h : Part.place name ∈ parts template) :
  String.ofList name ∈ places template
  := List.mem_filterMap.mpr ⟨_, h, rfl⟩

theorem exists_of_mem_places {template name : String} (h : name ∈ places template) :
  Part.place name.toList ∈ parts template
  := by
  obtain ⟨part, hpart, hname⟩ := List.mem_filterMap.mp h
  cases part with
  | literal c => cases hname
  | place chars =>
      cases hname
      rw [String.toList_ofList]
      apply hpart

/-- The text of a filled template depends on the values of its places only. -/
theorem fill_congr {value? value?' : String → Option String} {template : String}
    (h : ∀ name ∈ places template, value? name = value?' name) :
  fill value? template = fill value?' template
  := by
  rw [fill, fill]
  congr 2
  apply List.flatMap_congr
  intro part hpart
  cases part with
  | literal c => rfl
  | place name =>
      rw [Part.fill, Part.fill, h _ (ofList_mem_places hpart)]

@[simp]
theorem strip_toList_fill (value? : String → Option String) (template : String) :
  Text.strip (fill value? template).toList = (fill value? template).toList
  := by
  rw [fill, String.toList_ofList]
  apply Text.stripBy_stripBy

/-- What is put in at a place and has no blanks at its ends stands in the filled template as it
is. -/
theorem isInfix_fill {value? : String → Option String} {template name value : String}
    (h : name ∈ places template) (hvalue : value? name = some value) {xs : List Char}
    (hxs : xs <:+: value.toList) (hstrip : Text.strip xs = xs) :
  xs <:+: (fill value? template).toList
  := by
  obtain ⟨before, after, heq⟩ := List.append_of_mem (exists_of_mem_places h)
  rw [fill, String.toList_ofList, heq, List.flatMap_append, List.flatMap_cons, Part.fill,
    String.ofList_toList, hvalue]
  apply Text.isInfix_strip _ hstrip
  apply hxs.trans ((List.prefix_append _ _).isInfix.trans (List.suffix_append _ _).isInfix)

end AgentBundles.Template
