import AgentBundles.Number.Binary64

/-!
# Number text

The text of integers and of double precision numbers. A finite number is written with its shortest
decimal, the one with the fewest digits that reads back as it, and of those the nearest to it, a tie
going to the even digit. The decimal is written positionally when the leading digit has a power of
ten from `-4` to `15`, and otherwise with an exponent of at least two digits and a sign.
-/

namespace AgentBundles

/-! ### Shortest decimals -/

/-- A positive decimal `digits · 10 ^ exponent`. -/
structure Decimal where
  digits : Nat
  exponent : Int
  deriving DecidableEq, Repr, Inhabited

namespace Decimal

/-- Whether a decimal rounds to the number `m · 2 ^ e`. -/
def readsAs (d : Decimal) (m : Nat) (e : Int) : Bool :=
  Binary64.ofDecimal false d.digits d.exponent == .finite false m e

/-- The numerator and denominator of `m · 2 ^ e / 10 ^ k`. -/
def quotientBy (m : Nat) (e k : Int) : Nat × Nat :=
  let n := if 0 ≤ e then m * powerOfTwo e.toNat else m
  let d := if 0 ≤ e then 1 else powerOfTwo (-e).toNat
  if 0 ≤ k then (n, d * powerOfTen k.toNat) else (n * powerOfTen (-k).toNat, d)

/-- The power of ten of the leading digit of `m · 2 ^ e`, for positive `m`. -/
def leadingPower (m : Nat) (e : Int) : Int :=
  if 0 ≤ e then
    (Binary64.decimalLength (m * powerOfTwo e.toNat) : Int) - 1
  else
    let whole := m / powerOfTwo (-e).toNat
    if 0 < whole then
      (Binary64.decimalLength whole : Int) - 1
    else
      let guess : Int := -((Nat.log2 (powerOfTwo (-e).toNat / m) * 30103 / 100000 : Nat) : Int) - 2
      let (n, d) := quotientBy m e guess
      guess + (Binary64.decimalLength (n / d) : Int) - 1

/-- The decimals next to `m · 2 ^ e` on the grid of multiples of `10 ^ k`, the nearer one first. -/
def neighbours (m : Nat) (e k : Int) : List Decimal :=
  let (n, d) := quotientBy m e k
  let low := n / d
  let r := n % d
  if 2 * r < d || (2 * r == d && low % 2 == 0) then
    [⟨low, k⟩, ⟨low + 1, k⟩]
  else
    [⟨low + 1, k⟩, ⟨low, k⟩]

/-- The first of the grids with `count` digits and more on which a neighbour reads back. -/
def search (m : Nat) (e top : Int) : Nat → Nat → Decimal
  | 0, count => ((neighbours m e (top - count)).head?).getD ⟨m, e⟩
  | fuel + 1, count =>
    match (neighbours m e (top - count)).find? (·.readsAs m e) with
    | some d => d
    | none => search m e top fuel (count + 1)

/-- The decimal without zeros at its end, each raising the exponent. -/
def normalise : Nat → Decimal → Decimal
  | 0, d => d
  | fuel + 1, d =>
    if d.digits ≠ 0 ∧ d.digits % 10 = 0 then normalise fuel ⟨d.digits / 10, d.exponent + 1⟩ else d

/-- The shortest decimal that reads back as `m · 2 ^ e`, for positive `m`. -/
def shortest (m : Nat) (e : Int) : Decimal :=
  let d := search m e (leadingPower m e) 17 0
  normalise (Binary64.decimalLength d.digits) d

end Decimal

/-! ### Styles of numbers -/

/-- The spellings in which the formats of number text differ. -/
structure NumberStyle where
  /-- Not-a-number. -/
  nan : String
  /-- Positive infinity. -/
  infinity : String
  /-- Negative infinity. -/
  negativeInfinity : String
  /-- What follows a single digit before an exponent. -/
  afterLoneDigit : String

namespace NumberStyle

/-- Numbers in messages. -/
def plain : NumberStyle := ⟨"nan", "inf", "-inf", ""⟩

/-- Numbers in JSON text. -/
def json : NumberStyle := ⟨"NaN", "Infinity", "-Infinity", ""⟩

/-- Numbers in YAML text, where a point is needed to tell a float from a string. -/
def yaml : NumberStyle := ⟨".nan", ".inf", "-.inf", ".0"⟩

end NumberStyle

/-- The decimal digits of a number. -/
def decimalDigits (n : Nat) : List Char :=
  Nat.toDigits 10 n

/-- The decimal text of an integer. -/
def intText (n : Int) : String :=
  if n < 0 then "-" ++ String.ofList (decimalDigits n.natAbs)
    else String.ofList (decimalDigits n.natAbs)

/-- The greatest count of digits of an integer that is written or read in decimal. -/
def digitLimit : Nat := 4300

/-- Whether an integer has so few digits that it may be written in decimal. -/
def hasDecimalText (n : Int) : Bool :=
  n.natAbs < powerOfTen digitLimit

/-- What a message says of an integer that has too many digits to be written. -/
def unwritableMessage : String :=
  "Exceeds the limit (4300 digits) for integer string conversion; " ++
    "use sys.set_int_max_str_digits() to increase the limit"

/-- What a message says of a text with too many digits to be read as an integer. -/
def unreadableMessage (digits : Nat) : String :=
  "Exceeds the limit (4300 digits) for integer string conversion: value has " ++
    String.ofList (decimalDigits digits) ++
    " digits; use sys.set_int_max_str_digits() to increase the limit"

/-- The decimal text of a natural number. -/
def natText (n : Nat) : String :=
  String.ofList (decimalDigits n)

/-- The digits of a number, led by zeros up to a width. -/
def paddedDigits (width n : Nat) : String :=
  let ds := decimalDigits n
  String.ofList (List.replicate (width - ds.length) '0' ++ ds)

namespace Decimal

/-- The text of a positive decimal. -/
def text (style : NumberStyle) (d : Decimal) : String :=
  let ds := decimalDigits d.digits
  let top : Int := d.exponent + ds.length - 1
  if -4 ≤ top ∧ top < 16 then
    if 0 ≤ d.exponent then
      String.ofList (ds ++ List.replicate d.exponent.toNat '0') ++ ".0"
    else if 0 ≤ top then
      String.ofList (ds.take (top.toNat + 1)) ++ "." ++ String.ofList (ds.drop (top.toNat + 1))
    else
      "0." ++ String.ofList (List.replicate ((-top).toNat - 1) '0' ++ ds)
  else
    let mantissa :=
      match ds with
      | [] => "0"
      | [c] => String.ofList [c] ++ style.afterLoneDigit
      | c :: cs => String.ofList (c :: '.' :: cs)
    mantissa ++ (if top < 0 then "e-" else "e+") ++ paddedDigits 2 top.natAbs

end Decimal

/-- The text of a double precision number. -/
def Binary64.text (style : NumberStyle) : Binary64 → String
  | .nan _ => style.nan
  | .infinity false => style.infinity
  | .infinity true => style.negativeInfinity
  | .finite negative m e =>
    (if negative then "-" else "") ++ (if m = 0 then "0.0" else (Decimal.shortest m e).text style)

end AgentBundles
