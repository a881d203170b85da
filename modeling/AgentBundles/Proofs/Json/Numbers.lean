import AgentBundles.Json.Reader
import AgentBundles.Json.Writer
import AgentBundles.Proofs.Number.Layout
import AgentBundles.Proofs.Outcome
import AgentBundles.Schema.Check

/-!
# JSON numbers

The text of an integer is read as the integer, and that of a double precision number as such a
number, which is not negative if the one that was written is not.
-/

namespace AgentBundles.Json

open NumberParts

/-! ### Digits -/

/-- Texts that do not go on with a digit. -/
def NoDigit (cs : List Char) : Prop :=
  ∀ c rest, cs = c :: rest → Text.isAsciiDigit c = false

/-- Texts that do not go on with a part of a number. -/
structure EndsNumber (rest : List Char) : Prop where
  noDigit : NoDigit rest
  noPart : ∀ c cs, rest = c :: cs → c ≠ '.' ∧ c ≠ 'e' ∧ c ≠ 'E'

/-- Digits are separated from what follows them. -/
theorem spanDigits_append {ds rest : List Char} (hds : ∀ c ∈ ds, Text.isAsciiDigit c = true)
    (hrest : NoDigit rest) :
  spanDigits (ds ++ rest) = (ds, rest)
  := by
  have htake : rest.takeWhile Text.isAsciiDigit = [] ∧ rest.dropWhile Text.isAsciiDigit = rest := by
    cases rest with
    | nil => exact ⟨rfl, rfl⟩
    | cons c cs =>
        have hc : ¬ Text.isAsciiDigit c = true := by
          rw [hrest c cs rfl]
          exact Bool.false_ne_true
        exact ⟨List.takeWhile_cons_of_neg hc, List.dropWhile_cons_of_neg hc⟩
  rw [spanDigits, List.takeWhile_append_of_pos hds, List.dropWhile_append_of_pos hds, htake.1,
    htake.2, List.append_nil]

/-! ### Parts -/

/-- The power of ten that an exponent tells. -/
def exponentValue (p : NumberParts) : Int :=
  match p.exponent with
  | some (sign, ds) => if sign = '-' then -(Text.digitsValue ds : Int) else Text.digitsValue ds
  | none => 0

/-- An exponent is read as the power of ten that it tells. -/
theorem readExponent?_exponentText {p : NumberParts} (hp : p.Valid) {rest : List Char}
    (hrest : EndsNumber rest) :
  (readExponent? (p.exponentText ++ rest)).getD (0, p.exponentText ++ rest)
    = (exponentValue p, rest) ∧ (readExponent? (p.exponentText ++ rest)).isNone = p.exponent.isNone
  := by
  rw [exponentText, exponentValue]
  cases hexponent : p.exponent with
  | none =>
      cases rest with
      | nil => exact ⟨rfl, rfl⟩
      | cons c cs =>
          obtain ⟨-, he, hE⟩ := hrest.noPart c cs rfl
          simp [readExponent?, he, hE]
  | some e =>
      obtain ⟨sign, ds⟩ := e
      obtain ⟨hsign, hne, hds⟩ := hp.exponent_digits sign ds hexponent
      have hspan := spanDigits_append hds hrest.noDigit
      rcases hsign with rfl | rfl
      · simp [readExponent?, hspan, hne]
      · simp [readExponent?, hspan, hne]

/-- What stands behind a fraction is no part of it. -/
theorem noDigit_exponentText (p : NumberParts) {rest : List Char} (hrest : EndsNumber rest) :
  NoDigit (p.exponentText ++ rest) ∧ ∀ cs, p.exponentText ++ rest ≠ '.' :: cs
  := by
  rw [exponentText]
  cases p.exponent with
  | none =>
      refine ⟨hrest.noDigit, ?_⟩
      intro cs heq
      apply (hrest.noPart '.' cs heq).1 rfl
  | some e =>
      constructor
      · intro c cs heq
        injection heq with hc _
        rw [← hc]
        decide
      · intro cs heq
        injection heq with hc _
        exact absurd hc (by decide)

/-- A fraction is read as its digits. -/
theorem readFraction?_fractionText {p : NumberParts} (hp : p.Valid) {rest : List Char}
    (hdigit : NoDigit rest) (hpoint : ∀ cs, rest ≠ '.' :: cs) :
  (readFraction? (p.fractionText ++ rest)).getD ([], p.fractionText ++ rest) = (p.fraction, rest) ∧
    (readFraction? (p.fractionText ++ rest)).isNone = p.fraction.isEmpty
  := by
  rw [fractionText]
  cases hfraction : p.fraction with
  | nil =>
      have hnone : readFraction? rest = none := by
        rw [readFraction?]
        apply hpoint
      simp [hnone]
  | cons d ds =>
      have hspan := spanDigits_append hp.fraction_digits hdigit
      rw [hfraction] at hspan
      simp only [List.isEmpty_cons, Bool.false_eq_true, if_false, List.cons_append] at hspan ⊢
      simp [readFraction?, hspan]

/-- What stands behind the whole part is no part of it. -/
theorem noDigit_fractionText (p : NumberParts) {rest : List Char} (hrest : NoDigit rest) :
  NoDigit (p.fractionText ++ rest)
  := by
  rw [fractionText]
  split
  · apply hrest
  · intro c cs heq
    injection heq with hc _
    rw [← hc]
    decide

/-- The parts of a number are read as one number. -/
theorem readUnsigned_text {p : NumberParts} (hp : p.Valid) {here rest : List Char} (negative : Bool)
    (hrest : EndsNumber rest) :
  readUnsigned here negative (p.text ++ rest)
    = if p.isWhole then
        if digitLimit < p.whole.length then .error (.tooManyDigits p.whole.length, here)
        else .ok (.int (if negative then -(Text.digitsValue p.whole : Int)
          else Text.digitsValue p.whole), rest)
      else .ok (.float (Binary64.ofDecimal negative (Text.digitsValue (p.whole ++ p.fraction))
        (exponentValue p - p.fraction.length)), rest)
  := by
  obtain ⟨hdigit, hpoint⟩ := noDigit_exponentText p hrest
  have hexponent := readExponent?_exponentText hp hrest
  have hfraction := readFraction?_fractionText hp hdigit hpoint
  have hspan := spanDigits_append hp.whole_digits (noDigit_fractionText p hdigit)
  rw [text, List.append_assoc, List.append_assoc]
  rcases hp.whole_head with hzero | ⟨c, cs, heq, hne⟩
  · rw [hzero]
    simp only [readUnsigned, List.cons_append, List.nil_append, hfraction, hexponent, isWhole]
    rfl
  · have hdigit' : Text.isAsciiDigit c = true := by
      apply hp.whole_digits c
      rw [heq]
      apply List.mem_cons_self
    rw [heq, List.cons_append] at hspan
    rw [heq, List.cons_append, readUnsigned]
    · simp only [hdigit', if_true, hspan, hfraction, hexponent, isWhole]
      rfl
    · apply hne

/-! ### Numbers -/

/-- What begins as an unsigned number does begins with a digit. -/
theorem exists_cons_text {p : NumberParts} (hp : p.Valid) (rest : List Char) :
  ∃ c cs, p.text ++ rest = c :: cs ∧ Text.isAsciiDigit c = true
  := by
  have hdigits := hp.whole_digits
  rw [text]
  rcases hp.whole_head with hzero | ⟨c, cs, heq, -⟩
  · rw [hzero]
    exact ⟨'0', _, rfl, by decide⟩
  · rw [heq] at hdigits ⊢
    exact ⟨c, _, rfl, hdigits c List.mem_cons_self⟩

/-- No word that stands for a value begins with a digit, or with a minus and a digit. -/
theorem readScalar_eq_readNumber {c : Char} {cs : List Char} (hc : Text.isAsciiDigit c = true) :
  readScalar (c :: cs) = readUnsigned (c :: cs) false (c :: cs) ∧
    readScalar ('-' :: c :: cs) = readUnsigned ('-' :: c :: cs) true (c :: cs)
  := by
  have hne : ∀ d, Text.isAsciiDigit d = false → (d == c) = false := by
    intro d hd
    rw [beq_eq_false_iff_ne]
    intro heq
    rw [heq, hc] at hd
    cases hd
  have hwords : words.find? (fun w => w.1.isPrefixOf (c :: cs)) = none ∧
      words.find? (fun w => w.1.isPrefixOf ('-' :: c :: cs)) = none := by
    simp [words, List.find?, List.isPrefixOf, hne 'n' (by decide), hne 't' (by decide),
      hne 'f' (by decide), hne 'N' (by decide), hne 'I' (by decide), hne '-' (by decide)]
  have hminus : c ≠ '-' := by
    intro heq
    rw [heq] at hc
    exact absurd hc (by decide)
  constructor
  · rw [readScalar, hwords.1]
    simp only [readNumber]
    split
    · rename_i heq
      injection heq with heq _
      exact absurd heq hminus
    · rfl
  · rw [readScalar, hwords.2]
    rfl

/-- A number with a sign is read by its parts. -/
theorem exists_readScalar_text {p : NumberParts} (hp : p.Valid) (negative : Bool)
    (rest : List Char) :
  ∃ here, readScalar ((if negative then ['-'] else []) ++ (p.text ++ rest))
    = readUnsigned here negative (p.text ++ rest)
  := by
  obtain ⟨c, cs, heq, hc⟩ := exists_cons_text hp rest
  rw [heq]
  cases negative with
  | false => exact ⟨_, (readScalar_eq_readNumber hc).1⟩
  | true => exact ⟨_, (readScalar_eq_readNumber hc).2⟩

/-- The text of an integer has a sign and digits. -/
theorem toList_intText (n : Int) :
  (intText n).toList = (if decide (n < 0) then ['-'] else []) ++ NumberParts.text
    ⟨decimalDigits n.natAbs, [], none⟩
  := by
  rw [intText]
  split
  · rename_i hneg
    simp [NumberParts.text, fractionText, exponentText, hneg]
  · rename_i hneg
    simp [NumberParts.text, fractionText, exponentText, hneg]

/-- An integer is read as itself, if it may be written in decimal. -/
theorem readScalar_intText {n : Int} (hn : hasDecimalText n = true) {rest : List Char}
    (hrest : EndsNumber rest) :
  readScalar ((intText n).toList ++ rest) = .ok (.int n, rest)
  := by
  have hlength : ¬ digitLimit < (decimalDigits n.natAbs).length := by
    simp only [hasDecimalText, decide_eq_true_eq] at hn
    apply Nat.not_lt_of_le
    apply length_decimalDigits_le _ hn
    decide
  have hvalue : (if decide (n < 0) then -(n.natAbs : Int) else n.natAbs) = n := by
    split
    · rename_i hneg
      rw [decide_eq_true_eq] at hneg
      omega
    · rename_i hneg
      rw [decide_eq_true_eq] at hneg
      omega
  have hp := valid_decimalDigits n.natAbs
  obtain ⟨here, hread⟩ := exists_readScalar_text hp (decide (n < 0)) rest
  rw [toList_intText, List.append_assoc, hread, readUnsigned_text hp _ hrest]
  simp only [isWhole, List.isEmpty_nil, Option.isNone_none, Bool.and_self, if_true, if_neg hlength,
    digitsValue_decimalDigits, hvalue]

/-! ### Double precision numbers -/

/-- What rounds a decimal without sign is not negative. -/
theorem isNegative_ofDecimal (n : Nat) (k : Int) :
  (Binary64.ofDecimal false n k).isNegative = false
  := by
  have hcases : ∀ {m : Nat} {e e' : Int},
      (if e < e' then Binary64.infinity false else .finite false m e').isNegative
      = false := by
    intro m e e'
    split
    · rfl
    · rfl
  have hratio : ∀ a b, (Binary64.ofRatio false a b).isNegative = false := by
    intro a b
    rw [Binary64.ofRatio]
    split
    · rfl
    · dsimp only
      apply hcases
  rw [Binary64.ofDecimal]
  split
  · rfl
  · split
    · rfl
    · split
      · rfl
      · split
        · apply hratio
        · apply hratio

/-- The text of a finite number has a sign and parts. -/
theorem exists_parts_finite (negative : Bool) (m : Nat) (e : Int) :
  ∃ p : NumberParts, p.Valid ∧ p.isWhole = false ∧
    ((Binary64.finite negative m e).text .json).toList = (if negative then ['-'] else []) ++
      p.text ∧
    (m = 0 → Text.digitsValue (p.whole ++ p.fraction) = 0)
  := by
  have hsign : (if negative then "-" else "").toList = if negative then ['-'] else [] := by
    cases negative with
    | false => rfl
    | true => rfl
  rw [Binary64.text, String.toList_append, hsign]
  by_cases hm : m = 0
  · rw [if_pos hm]
    refine ⟨⟨['0'], ['0'], none⟩, ?_, rfl, rfl, fun _ => rfl⟩
    apply valid_of_digits (Or.inl rfl) (List.all_eq_true.mp (by decide))
  · obtain ⟨p, hp, hwhole, heq⟩ :=
      Decimal.exists_parts_text (Decimal.shortest_pos_or e (Nat.pos_iff_ne_zero.mpr hm))
    rw [if_neg hm, heq]
    exact ⟨p, hp, hwhole, rfl, fun h => absurd h hm⟩

/-- The text of a double precision number is read as such a number, which is negative only if the
written one is. -/
theorem exists_readScalar_float (x : Binary64) :
  ∃ y : Binary64, (isNegative (.float x) = false → isNegative (.float y) = false) ∧
    ∀ rest, EndsNumber rest → readScalar ((x.text .json).toList ++ rest) = .ok (.float y, rest)
  := by
  cases x with
  | nan payload =>
      refine ⟨.nan 0, fun _ => rfl, ?_⟩
      intro rest _
      simp [Binary64.text, NumberStyle.json, readScalar, words, List.find?, List.isPrefixOf]
  | infinity negative =>
      refine ⟨.infinity negative, id, ?_⟩
      intro rest _
      cases negative with
      | false =>
          simp [Binary64.text, NumberStyle.json, readScalar, words, List.find?, List.isPrefixOf]
      | true =>
          simp [Binary64.text, NumberStyle.json, readScalar, words, List.find?, List.isPrefixOf]
  | finite negative m e =>
      obtain ⟨p, hp, hwhole, heq, hzero⟩ := exists_parts_finite negative m e
      refine ⟨Binary64.ofDecimal negative (Text.digitsValue (p.whole ++ p.fraction))
        (exponentValue p - p.fraction.length), ?_, ?_⟩
      · intro hneg
        cases negative with
        | false => simp [isNegative, isNegative_ofDecimal]
        | true =>
            have hm : m = 0 := by
              by_cases hm : m = 0
              · apply hm
              · simp [isNegative, Binary64.isNegative, Binary64.isZero, hm] at hneg
            rw [hzero hm]
            rfl
      · intro rest hrest
        obtain ⟨here, hread⟩ := exists_readScalar_text hp negative rest
        rw [heq, List.append_assoc, hread, readUnsigned_text hp _ hrest, hwhole]
        rfl

/-- The number that the text of a double precision number is read as. -/
def floatBack (x : Binary64) : Binary64 :=
  match readScalar (x.text .json).toList with
  | .ok (.float y, _) => y
  | _ => x

theorem endsNumber_nil :
  EndsNumber []
  := by
  constructor
  · intro c cs heq
    cases heq
  · intro c cs heq
    cases heq

/-- The text of a double precision number is read as one number, whatever follows. -/
theorem readScalar_floatText (x : Binary64) {rest : List Char} (hrest : EndsNumber rest) :
  readScalar ((x.text .json).toList ++ rest) = .ok (.float (floatBack x), rest)
  := by
  obtain ⟨y, -, hread⟩ := exists_readScalar_float x
  have hback := hread [] endsNumber_nil
  rw [List.append_nil] at hback
  rw [hread rest hrest, floatBack, hback]

theorem isNegative_floatBack {x : Binary64} (h : isNegative (.float x) = false) :
  isNegative (.float (floatBack x)) = false
  := by
  obtain ⟨y, hneg, hread⟩ := exists_readScalar_float x
  have hback := hread [] endsNumber_nil
  rw [List.append_nil] at hback
  rw [floatBack, hback]
  apply hneg h

/-! ### Characters -/

/-- Whether a character may stand in the text of a number. -/
def isNumberChar (c : Char) : Bool :=
  Text.isAsciiAlphanumeric c || c == '.' || c == '-' || c == '+'

/-- Texts of numbers, which have a character and only such as numbers have. -/
structure NumberText (cs : List Char) : Prop where
  nonempty : cs ≠ []
  chars : ∀ c ∈ cs, isNumberChar c = true

/-- A sign and parts are the text of a number. -/
theorem numberText_parts {p : NumberParts} (hp : p.Valid) (negative : Bool) :
  NumberText ((if negative then ['-'] else []) ++ p.text)
  := by
  have hdigit : ∀ {c}, Text.isAsciiDigit c = true → isNumberChar c = true := by
    intro c hc
    simp [isNumberChar, Text.isAsciiAlphanumeric, hc]
  constructor
  · intro hnil
    obtain ⟨c, cs, heq, -⟩ := exists_cons_text hp []
    rw [List.append_eq_nil_iff] at hnil
    rw [hnil.2] at heq
    cases heq
  · intro c hc
    simp only [NumberParts.text, fractionText, exponentText, List.mem_append] at hc
    rcases hc with hc | hc | hc | hc
    · cases negative with
      | false => cases hc
      | true =>
          rw [List.mem_singleton.mp hc]
          decide
    · apply hdigit (hp.whole_digits c hc)
    · cases hfraction : p.fraction.isEmpty with
      | true =>
          rw [hfraction] at hc
          cases hc
      | false =>
          rw [hfraction] at hc
          rcases List.mem_cons.mp hc with rfl | hc
          · decide
          · apply hdigit (hp.fraction_digits c hc)
    · cases hexponent : p.exponent with
      | none =>
          rw [hexponent] at hc
          cases hc
      | some e =>
          obtain ⟨sign, ds⟩ := e
          obtain ⟨hsign, -, hds⟩ := hp.exponent_digits sign ds hexponent
          rw [hexponent] at hc
          simp only [List.mem_cons] at hc
          rcases hc with rfl | rfl | hc
          · decide
          · rcases hsign with rfl | rfl
            all_goals decide
          · apply hdigit (hds c hc)

theorem numberText_int (n : Int) :
  NumberText (intText n).toList
  := by
  rw [toList_intText]
  apply numberText_parts (valid_decimalDigits n.natAbs)

theorem numberText_float (x : Binary64) :
  NumberText (x.text .json).toList
  := by
  cases x with
  | nan payload =>
      rw [Binary64.text]
      exact ⟨by decide, List.all_eq_true.mp (by decide)⟩
  | infinity negative =>
      cases negative with
      | false => exact ⟨by decide, List.all_eq_true.mp (by decide)⟩
      | true => exact ⟨by decide, List.all_eq_true.mp (by decide)⟩
  | finite negative m e =>
      obtain ⟨p, hp, -, heq, -⟩ := exists_parts_finite negative m e
      rw [heq]
      apply numberText_parts hp

/-- A sign and parts do not begin with a letter. -/
theorem exists_cons_parts {p : NumberParts} (hp : p.Valid) (negative : Bool) :
  ∃ c cs, (if negative then ['-'] else []) ++ p.text = c :: cs ∧ c < 'a'
  := by
  cases negative with
  | true => exact ⟨'-', p.text, rfl, by decide⟩
  | false =>
      obtain ⟨c, cs, heq, hc⟩ := exists_cons_text hp []
      rw [List.append_nil] at heq
      simp only [Text.isAsciiDigit, Bool.and_eq_true, decide_eq_true_eq, Char.le_def,
        UInt32.le_iff_toNat_le] at hc
      refine ⟨c, cs, heq, ?_⟩
      rw [Char.lt_def, UInt32.lt_iff_toNat_lt]
      apply Nat.lt_of_le_of_lt hc.2 (by decide)

theorem exists_cons_int (n : Int) :
  ∃ c cs, (intText n).toList = c :: cs ∧ c < 'a'
  := by
  rw [toList_intText]
  apply exists_cons_parts (valid_decimalDigits n.natAbs)

theorem exists_cons_float (x : Binary64) :
  ∃ c cs, (x.text .json).toList = c :: cs ∧ c < 'a'
  := by
  cases x with
  | nan payload =>
      rw [Binary64.text]
      exact ⟨'N', _, rfl, by decide⟩
  | infinity negative =>
      cases negative with
      | false => exact ⟨'I', _, rfl, by decide⟩
      | true => exact ⟨'-', _, rfl, by decide⟩
  | finite negative m e =>
      obtain ⟨p, hp, -, heq, -⟩ := exists_parts_finite negative m e
      rw [heq]
      apply exists_cons_parts hp

end AgentBundles.Json
