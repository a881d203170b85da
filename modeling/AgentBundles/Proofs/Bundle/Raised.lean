import Mathlib.Data.Prod.Lex
import Mathlib.Tactic.Ring
import AgentBundles.Bundle.Manifest
import AgentBundles.Proofs.Number.Layout
import AgentBundles.Proofs.Validation.Grammars

/-!
# Manifests with raised versions

A version that may be published can be raised, as long as its numbers have a decimal text before and
after. What it is raised to may be published again and is a later version, so that versions only
grow however often they are raised.
-/

namespace AgentBundles

/-! ### Numerals -/

namespace Text

variable {c : Char}

theorem digitValue?_lt {n : Nat} (h : digitValue? c = some n) :
  n < 10
  := by
  obtain ⟨z, hz, rfl⟩ := Option.map_eq_some_iff.mp h
  have hwithin := List.find?_some hz
  simp only [Bool.and_eq_true, decide_eq_true_eq] at hwithin
  omega

/-- Digits count by their place: what was read before them is worth a power of ten for each. -/
theorem digitsValueFrom_eq (n : Nat) (ds : List Char) :
  digitsValueFrom n ds = n * 10 ^ ds.length + digitsValue ds
  := by
  induction ds generalizing n with
  | nil => simp [digitsValueFrom, digitsValue]
  | cons d ds ih =>
      have hcons : ∀ m, digitsValueFrom m (d :: ds)
          = digitsValueFrom (10 * m + (digitValue? d).getD 0) ds := fun _ => rfl
      rw [digitsValue, hcons, hcons, ih, ih (10 * 0 + _), List.length_cons]
      ring

theorem digitsValue_cons (c : Char) (ds : List Char) :
  digitsValue (c :: ds) = (digitValue? c).getD 0 * 10 ^ ds.length + digitsValue ds
  := by
  have hcons : digitsValue (c :: ds) = digitsValueFrom (10 * 0 + (digitValue? c).getD 0) ds := rfl
  rw [hcons, digitsValueFrom_eq, Nat.mul_zero, Nat.zero_add]

theorem digitsValue_lt (ds : List Char) :
  digitsValue ds < 10 ^ ds.length
  := by
  induction ds with
  | nil => decide
  | cons d ds ih =>
      have hdigit : (digitValue? d).getD 0 < 10 := by
        cases hvalue : digitValue? d with
        | none => decide
        | some n => apply digitValue?_lt hvalue
      have hplace : (digitValue? d).getD 0 * 10 ^ ds.length ≤ 9 * 10 ^ ds.length :=
        Nat.mul_le_mul_right _ (Nat.le_of_lt_succ hdigit)
      rw [digitsValue_cons, List.length_cons, Nat.pow_succ]
      omega

/-- Digits that do not begin with a zero denote a number of so many digits. -/
theorem pow_le_digitsValue {ds : List Char} (hle : '1' ≤ c) (hle' : c ≤ '9') :
  10 ^ ds.length ≤ digitsValue (c :: ds)
  := by
  have hbounds : 0x31 ≤ c.toNat ∧ c.toNat ≤ 0x39 := by
    rw [Char.le_def, UInt32.le_iff_toNat_le] at hle hle'
    exact ⟨hle, hle'⟩
  have hvalue : digitValue? c = some (c.toNat - 0x30) := by
    have hzeros : digitZeros = 0x30 :: digitZeros.tail := rfl
    have hfirst : (decide (0x30 ≤ c.toNat) && decide (c.toNat < 0x30 + 10)) = true := by
      simp only [Bool.and_eq_true, decide_eq_true_eq]
      omega
    rw [digitValue?, hzeros, List.find?_cons, hfirst]
    rfl
  have hone : 1 * 10 ^ ds.length ≤ (c.toNat - 0x30) * 10 ^ ds.length :=
    Nat.mul_le_mul_right _ (by omega)
  rw [digitsValue_cons, hvalue, Option.getD_some]
  omega

end Text

namespace Version

/-- A numeral is as long as the number that it denotes is great. -/
theorem length_le_iff {ds : List Char} (h : IsNumeral Text.isDigit ds) {k : Nat} (hk : 0 < k) :
  ds.length ≤ k ↔ Text.digitsValue ds < powerOfTen k
  := by
  have hpower : powerOfTen k = 10 ^ k := rfl
  rw [hpower]
  rcases h with rfl | ⟨c, ds, rfl, hle, hle', -⟩
  · have hzero : Text.digitsValue ['0'] = 0 := by decide
    rw [hzero, List.length_singleton]
    exact ⟨fun _ => Nat.pow_pos (by decide), fun _ => hk⟩
  · constructor
    · intro hlength
      apply Nat.lt_of_lt_of_le (Text.digitsValue_lt _) (Nat.pow_le_pow_right (by decide) hlength)
    · intro hlt
      have hpow : 10 ^ ds.length < 10 ^ k :=
        Nat.lt_of_le_of_lt (Text.pow_le_digitsValue hle hle') hlt
      apply (Nat.pow_lt_pow_iff_right (by decide)).mp hpow

/-! ### Versions that are read -/

variable {s : String}

/-- The version that numerals denote. -/
def Numerals.version (n : Numerals) : Version :=
  ⟨Text.digitsValue n.major, Text.digitsValue n.minor, Text.digitsValue n.patch⟩

/-- A version that may be published is read as the numbers that its numerals denote. -/
theorem exists_numerals_of_isSemantic (h : isSemantic s = true) :
  ∃ n, numerals? (Text.dropFinalBreak s.toList) = some n ∧
    (∀ ds ∈ [n.major, n.minor, n.patch], IsNumeral Text.isDigit ds) ∧ read? s = some n.version
  := by
  have hversion : IsVersion Text.isDigit (Text.dropFinalBreak s.toList) := by
    rw [isSemantic_iff] at h
    apply (Text.dropFinalBreak_iff fun _ => feed_not_mem_version).mpr h
  have hfeed := feed_not_mem_version hversion
  obtain ⟨major, minor, patch, release, build, hmajor, hminor, hpatch, hrelease, hbuild, hcs⟩ :=
    hversion
  have hn : numerals? (Text.dropFinalBreak s.toList)
      = some ⟨major, minor, patch, release ++ build⟩ :=
    numerals?_eq_some_iff.mpr ⟨isDigit_of_numeral hmajor, isDigit_of_numeral hminor,
      isDigit_of_numeral hpatch, isDigit_head?_of_marked hrelease hbuild, hcs⟩
  have hempty : ∀ ds, IsNumeral Text.isDigit ds → ds.isEmpty = false := by
    rintro ds (rfl | ⟨c, ds, rfl, -⟩)
    · rfl
    · rfl
  have hsuffix : isSuffix (release ++ build) = true := by
    have hrest : '\n' ∉ release ++ build := by
      rw [hcs] at hfeed
      simp only [List.mem_append, List.mem_cons, not_or] at hfeed ⊢
      exact hfeed.2.2.2.2.2
    cases hstart : release ++ build with
    | nil => rfl
    | cons c cs =>
        have hmark : c = '-' ∨ c = '+' := by
          cases release with
          | cons d ds =>
              cases hstart
              exact Or.inl (head_of_marked hrelease)
          | nil =>
              rw [List.nil_append] at hstart
              rw [hstart] at hbuild
              exact Or.inr (head_of_marked hbuild)
        rw [hstart, List.mem_cons, not_or] at hrest
        simp [isSuffix, hmark, hrest.2]
  refine ⟨_, hn, ?_, ?_⟩
  · simp [hmajor, hminor, hpatch]
  · rw [read?, hn]
    simp [hempty _ hmajor, hempty _ hminor, hempty _ hpatch, hsuffix, Numerals.version]

theorem isWritable_iff {v : Version} :
  v.isWritable = true ↔ ∀ n ∈ [v.major, v.minor, v.patch], n < powerOfTen digitLimit
  := by
  rw [isWritable, List.all_eq_true]
  apply forall₂_congr
  intro n _
  rw [hasDecimalText, decide_eq_true_iff, Int.natAbs_natCast]

/-- The numerals of a version that may be published are short enough to be read exactly if its
numbers have a decimal text. -/
theorem excess?_eq_none_iff (h : isSemantic s = true) {v : Version} (hv : read? s = some v) :
  excess? s = none ↔ v.isWritable = true
  := by
  obtain ⟨n, hn, hnumerals, hread⟩ := exists_numerals_of_isSemantic h
  obtain rfl : n.version = v := by
    rw [hread] at hv
    injection hv
  have hexcess : excess? s = none ↔ ∀ ds ∈ [n.major, n.minor, n.patch], ds.length ≤ digitLimit := by
    rw [excess?, hn]
    simp
  have hvalues : [n.version.major, n.version.minor, n.version.patch]
      = [n.major, n.minor, n.patch].map Text.digitsValue := rfl
  rw [hexcess, isWritable_iff, hvalues, List.forall_mem_map]
  apply forall₂_congr
  intro ds hds
  apply length_le_iff (hnumerals ds hds) (by decide)

/-! ### Versions that are raised -/

/-- The text of a version may be published. -/
theorem isSemantic_text (v : Version) :
  isSemantic v.text = true
  := by
  have hplain : ∀ n, isPlain (decimalDigits n) = true := by
    intro n
    rcases Nat.eq_zero_or_pos n with rfl | hn
    · decide
    · obtain ⟨c, cs, hcs, hc⟩ := exists_cons_decimalDigits hn
      have hdigits : ∀ d ∈ c :: cs, Text.isAsciiDigit d = true := by
        rw [← hcs]
        apply isAsciiDigit_of_mem_decimalDigits
      obtain ⟨hfirst, hrest⟩ := List.forall_mem_cons.mp hdigits
      have hone : '1' ≤ c ∧ c ≤ '9' := by
        simp only [Text.isAsciiDigit, Bool.and_eq_true, decide_eq_true_eq] at hfirst
        refine ⟨?_, hfirst.2⟩
        have hne : c.toNat ≠ '0'.toNat := fun heq => hc (Char.toNat_inj.mp heq)
        have hle := hfirst.1
        rw [Char.le_def, UInt32.le_iff_toNat_le] at hle ⊢
        exact Nat.lt_of_le_of_ne hle (Ne.symm hne)
      rw [hcs, isPlain_iff]
      exact Or.inr ⟨c, cs, rfl, hone.1, hone.2,
        fun d hd => Text.isDigit_of_isAsciiDigit (hrest d hd)⟩
  rw [isSemantic, numerals?_text]
  simp only [hplain, Bool.true_and]
  rfl

/-- The numbers of a version, of which the first that differs decides which version is later. -/
def numbers (v : Version) : ℕ ×ₗ ℕ ×ₗ ℕ := toLex (v.major, toLex (v.minor, v.patch))

/-- The numbers below a part of a version are zero. -/
def IsResetBelow : VersionPart → Version → Prop
  | .major, v => v.minor = 0 ∧ v.patch = 0
  | .minor, v => v.patch = 0
  | .patch, _ => True

theorem numbers_lt_raise (v : Version) (p : VersionPart) :
  v.numbers < (v.raise p).numbers
  := by
  cases p with
  | major => exact Prod.Lex.toLex_lt_toLex.mpr (Or.inl (Nat.lt_succ_self _))
  | minor =>
      apply Prod.Lex.toLex_lt_toLex.mpr
      exact Or.inr ⟨rfl, Prod.Lex.toLex_lt_toLex.mpr (Or.inl (Nat.lt_succ_self _))⟩
  | patch =>
      apply Prod.Lex.toLex_lt_toLex.mpr
      exact Or.inr ⟨rfl, Prod.Lex.toLex_lt_toLex.mpr (Or.inr ⟨rfl, Nat.lt_succ_self _⟩)⟩

theorem isResetBelow_raise (v : Version) (p : VersionPart) :
  IsResetBelow p (v.raise p)
  := by
  cases p with
  | major => exact ⟨rfl, rfl⟩
  | minor => rfl
  | patch => trivial

end Version

/-- A version is raised if it is read, and the numbers before and after have a decimal text. -/
theorem raiseVersion_eq_ok_iff {version part raised : String} :
  raiseVersion version part = .ok raised
    ↔ ∃ v p, Version.read? version = some v ∧ Version.excess? version = none ∧
    VersionPart.ofName? part = some p ∧
      (v.raise p).isWritable = true ∧ (v.raise p).text = raised
  := by
  rw [raiseVersion]
  split
  · rename_i hread
    simp [hread]
  · rename_i hexcess
    simp [hexcess]
  · rename_i hpart
    simp [hpart]
  · rename_i v p hread hexcess hpart
    split
    · rename_i hwritable
      simp [hread, hexcess, hpart, hwritable]
    · rename_i hunwritable
      simp [hread, hexcess, hpart, hunwritable]

namespace Manifest

open Version

variable {m m' : Manifest} {part : String}

/-- A manifest is raised by its version: nothing else in it changes. -/
theorem raiseVersion_eq_ok_iff_version :
  m.raiseVersion part = .ok m' ↔ ∃ s, AgentBundles.raiseVersion m.version part = .ok s ∧
    { m with version := s } = m'
  := by
  rw [raiseVersion]
  cases AgentBundles.raiseVersion m.version part with
  | ok s => simp [Except.map]
  | error f => simp [Except.map]

/-- A manifest that was raised is left as it was but for its version. That may be published, and has
the numbers from before with a part raised. -/
theorem of_raiseVersion (h : m.raiseVersion part = .ok m') :
  ∃ s v p, m' = { m with version := s } ∧ isSemantic s = true ∧ VersionPart.ofName? part = some p ∧
    read? m.version = some v ∧ read? s = some (v.raise p)
  := by
  obtain ⟨s, hs, rfl⟩ := raiseVersion_eq_ok_iff_version.mp h
  obtain ⟨v, p, hread, -, hpart, -, rfl⟩ := raiseVersion_eq_ok_iff.mp hs
  exact ⟨_, v, p, rfl, isSemantic_text _, hpart, hread, read?_text _⟩

/-- A manifest becomes another one when some part of its version is raised. -/
def RaisesTo (m m' : Manifest) : Prop := ∃ part, m.raiseVersion part = .ok m'

/-- The version of a manifest is later than that of another one. -/
def IsEarlier (m m' : Manifest) : Prop :=
  ∃ v v', read? m.version = some v ∧ read? m'.version = some v' ∧ v.numbers < v'.numbers

theorem RaisesTo.isEarlier (h : RaisesTo m m') :
  IsEarlier m m'
  := by
  obtain ⟨part, h⟩ := h
  obtain ⟨s, v, p, rfl, -, -, hread, hraised⟩ := of_raiseVersion h
  exact ⟨v, v.raise p, hread, hraised, numbers_lt_raise v p⟩

instance : IsTrans Manifest IsEarlier where
  trans := by
    rintro m₁ m₂ m₃ ⟨v₁, v₂, h₁, h₂, hlt⟩ ⟨v₂', v₃, h₂', h₃, hlt'⟩
    rw [h₂, Option.some.injEq] at h₂'
    subst h₂'
    exact ⟨v₁, v₃, h₁, h₃, hlt.trans hlt'⟩

/-- However often versions are raised, they grow. -/
theorem pairwise_isEarlier {ms : List Manifest} (h : ms.IsChain RaisesTo) :
  ms.Pairwise IsEarlier
  := List.isChain_iff_pairwise.mp (h.imp fun _ _ => RaisesTo.isEarlier)

/-- A manifest whose version may be published can be raised if the numbers of the version have a
decimal text before and after, and only then. -/
theorem exists_raiseVersion_iff {v : Version} {p : VersionPart}
    (hpart : VersionPart.ofName? part = some p) (hsemantic : isSemantic m.version = true)
    (hread : read? m.version = some v) :
  (∃ m', m.raiseVersion part = .ok m') ↔ v.isWritable = true ∧ (v.raise p).isWritable = true
  := by
  have hexcess := excess?_eq_none_iff hsemantic hread
  constructor
  · rintro ⟨m', hraised⟩
    obtain ⟨s, hs, -⟩ := raiseVersion_eq_ok_iff_version.mp hraised
    obtain ⟨v', p', hread', hnone, hpart', hwritable, -⟩ := raiseVersion_eq_ok_iff.mp hs
    rw [hread, Option.some.injEq] at hread'
    rw [hpart, Option.some.injEq] at hpart'
    subst hread' hpart'
    exact ⟨hexcess.mp hnone, hwritable⟩
  · rintro ⟨hbefore, hafter⟩
    refine ⟨_, raiseVersion_eq_ok_iff_version.mpr ⟨(v.raise p).text, ?_, rfl⟩⟩
    exact raiseVersion_eq_ok_iff.mpr ⟨v, p, hread, hexcess.mpr hbefore, hpart, hafter, rfl⟩

/-- A manifest whose version may be published can be raised exactly if the numbers of the version
have a decimal text before and after. It is left as it is but for its version, which may be
published again: it has the same numbers, but for a greater one in the raised part and zeros below
it. Whatever else is raised gives a version that may be published, or a fault; and versions that are
raised again and again become later and later. -/
theorem raiseVersion_isEarlier (m : Manifest) :
  (isSemantic m.version = true → ∃ v, read? m.version = some v ∧
    ∀ part p, VersionPart.ofName? part = some p →
      ((∃ m', m.raiseVersion part = .ok m') ↔ v.isWritable = true ∧ (v.raise p).isWritable = true) ∧
      ∀ m', m.raiseVersion part = .ok m' →
        ∃ s, m' = { m with version := s } ∧ isSemantic s = true ∧ read? s = some (v.raise p) ∧
          v.numbers < (v.raise p).numbers ∧ IsResetBelow p (v.raise p)) ∧
  (∀ part, (∃ f, m.raiseVersion part = .error f) ∨
    ∃ s, m.raiseVersion part = .ok { m with version := s } ∧ isSemantic s = true) ∧
  ∀ ms, (m :: ms).IsChain RaisesTo → (m :: ms).Pairwise IsEarlier
  := by
  refine ⟨?_, ?_, fun ms => pairwise_isEarlier⟩
  · intro hsemantic
    obtain ⟨n, -, -, hread⟩ := exists_numerals_of_isSemantic hsemantic
    refine ⟨n.version, hread, ?_⟩
    intro part p hpart
    refine ⟨exists_raiseVersion_iff hpart hsemantic hread, ?_⟩
    intro m' h
    obtain ⟨s, v, p', rfl, hs, hpart', hread', hreads⟩ := of_raiseVersion h
    rw [hread, Option.some.injEq] at hread'
    rw [hpart, Option.some.injEq] at hpart'
    subst hread' hpart'
    exact ⟨s, rfl, hs, hreads, numbers_lt_raise _ p, isResetBelow_raise _ p⟩
  · intro part
    cases hraised : m.raiseVersion part with
    | error f => exact Or.inl ⟨f, rfl⟩
    | ok m' =>
        obtain ⟨s, -, -, rfl, hs, -⟩ := of_raiseVersion hraised
        exact Or.inr ⟨s, rfl, hs⟩

/-- A manifest with a version. -/
def ofVersion (version : String) : Manifest :=
  ⟨"demo", version, none, none, "MIT", [], none, none, none⟩

/-- A version with the names of a pre-release and of a build and a line feed after them is raised
twice. -/
theorem raiseVersion_isEarlier_preRelease :
  ∃ m m', (ofVersion "1.9.3-rc.1+build.7\n").raiseVersion "minor" = .ok m ∧ m.raiseVersion "patch"
    = .ok m' ∧ m'.version = "1.10.1" ∧ IsEarlier (ofVersion "1.9.3-rc.1+build.7\n") m'
  := by
  have hminor : (ofVersion "1.9.3-rc.1+build.7\n").raiseVersion "minor"
      = .ok (ofVersion "1.10.0") := by
    refine raiseVersion_eq_ok_iff_version.mpr
      ⟨_, raiseVersion_eq_ok_iff.mpr ⟨⟨1, 9, 3⟩, .minor, ?_⟩, rfl⟩
    decide +kernel
  have hpatch : (ofVersion "1.10.0").raiseVersion "patch" = .ok (ofVersion "1.10.1") := by
    refine raiseVersion_eq_ok_iff_version.mpr
      ⟨_, raiseVersion_eq_ok_iff.mpr ⟨⟨1, 10, 0⟩, .patch, ?_⟩, rfl⟩
    decide +kernel
  have hchain := (raiseVersion_isEarlier (ofVersion "1.9.3-rc.1+build.7\n")).2.2
    [ofVersion "1.10.0", ofVersion "1.10.1"]
  have hpairwise := hchain (.cons_cons ⟨_, hminor⟩ (.cons_cons ⟨_, hpatch⟩ (.singleton _)))
  exact ⟨_, _, hminor, hpatch, rfl, (List.pairwise_cons.mp hpairwise).1 _ (by simp)⟩

/-- A numeral of one more digit than is read. -/
def longNumeral : List Char := '1' :: List.replicate digitLimit '0'

/-- A version with a number of one more digit than is read. -/
def longVersion : String := String.ofList (longNumeral ++ ".0.0".toList)

/-- A version that may be published cannot be raised if it has more digits than are read. -/
theorem raiseVersion_tooLong :
  isSemantic longVersion = true ∧ (ofVersion longVersion).raiseVersion "patch"
    = .error (.tooLong 4301)
  := by
  have hnumeral : IsNumeral Text.isDigit longNumeral := by
    refine Or.inr ⟨'1', _, rfl, by decide, by decide, ?_⟩
    intro d hd
    rw [(List.mem_replicate.mp hd).2]
    decide
  have hsemantic : isSemantic longVersion = true := by
    rw [isSemantic_iff, longVersion, String.toList_ofList]
    exact Or.inl ⟨longNumeral, ['0'], ['0'], [], [], hnumeral, Or.inl rfl, Or.inl rfl, Or.inl rfl,
      Or.inl rfl, rfl⟩
  obtain ⟨n, -, -, hread⟩ := exists_numerals_of_isSemantic hsemantic
  have hnumerals : numerals? (Text.dropFinalBreak longVersion.toList)
      = some ⟨longNumeral, ['0'], ['0'], []⟩ := by
    have hsame : Text.dropFinalBreak longVersion.toList = longVersion.toList := by
      rw [Text.dropFinalBreak, longVersion, String.toList_ofList, List.getLast?_append]
      rfl
    rw [hsame, longVersion, String.toList_ofList, numerals?_eq_some_iff]
    have hzero : IsNumeral Text.isDigit ['0'] := Or.inl rfl
    exact ⟨isDigit_of_numeral hnumeral, isDigit_of_numeral hzero,
      isDigit_of_numeral hzero, by simp, rfl⟩
  have hexcess : excess? longVersion = some 4301 := by
    have hlength : longNumeral.length
        = 4301 := by rw [longNumeral, List.length_cons, List.length_replicate, digitLimit]
    rw [excess?, hnumerals, Option.bind_some, List.map_cons, hlength]
    rfl
  have hversion : AgentBundles.raiseVersion longVersion "patch" = .error (.tooLong 4301) := by
    rw [AgentBundles.raiseVersion, hread, hexcess]
  refine ⟨hsemantic, ?_⟩
  rw [raiseVersion, ofVersion, hversion]
  rfl

end Manifest

end AgentBundles
