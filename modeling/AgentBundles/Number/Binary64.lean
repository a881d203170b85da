/-!
# Double precision numbers

The numbers of the format binary64: not-a-number, the two infinities, and `± m · 2 ^ e`.  A finite
number in normal form has `m < 2 ^ 53` and `-1074 ≤ e ≤ 971`, and `2 ^ 52 ≤ m` unless `e = -1074`;
`ofRatio` rounds a quotient to the nearest such number, a half to the even neighbour.  What is not a
number carries a payload that tells where it comes from.
-/

namespace AgentBundles

/-- The powers of two. -/
def powerOfTwo (n : Nat) : Nat := Nat.pow 2 n

/-- The powers of ten. -/
def powerOfTen (n : Nat) : Nat := Nat.pow 10 n

/-- A double precision number. -/
inductive Binary64 where
  | nan (payload : Nat)
  | infinity (negative : Bool)
  | finite (negative : Bool) (significand : Nat) (exponent : Int)
  deriving DecidableEq, Repr, Inhabited

namespace Binary64

/-- The quotient of two numbers rounded to the nearest integer, a half to the even neighbour. -/
def roundQuotient (n d : Nat) : Nat :=
  let q := n / d
  let r := n % d
  if 2 * r < d then q
  else if d < 2 * r then q + 1
  else if q % 2 = 0 then q else q + 1

/-- The smallest significand of a normal form with an exponent above the least one. -/
def smallestNormal : Nat := powerOfTwo 52

/-- The exponent of the normal form next to `n / d`. -/
def exponentOf (n d : Nat) : Int :=
  let e : Int := (Nat.log2 n : Int) - Nat.log2 d - 52
  let below : Bool :=
    if 0 ≤ e then n < smallestNormal * (d * powerOfTwo e.toNat)
    else n * powerOfTwo (-e).toNat < smallestNormal * d
  max (if below then e - 1 else e) (-1074)

/-- The number nearest to `± n / d`, for positive `d`. -/
def ofRatio (negative : Bool) (n d : Nat) : Binary64 :=
  if n = 0 then
    .finite negative 0 (-1074)
  else
    let e := exponentOf n d
    let m :=
      if 0 ≤ e then roundQuotient n (d * powerOfTwo e.toNat)
      else roundQuotient (n * powerOfTwo (-e).toNat) d
    let (m, e) := if m = 2 * smallestNormal then (smallestNormal, e + 1) else (m, e)
    if 971 < e then .infinity negative else .finite negative m e

/-- The count of decimal digits of a number. -/
def decimalLength (n : Nat) : Nat :=
  (Nat.toDigits 10 n).length

/-- The number nearest to `± n · 10 ^ k`.  Beyond 310 digits before the point, or 325 zeros after
it, the answer needs no power of ten. -/
def ofDecimal (negative : Bool) (n : Nat) (k : Int) : Binary64 :=
  if n = 0 then
    .finite negative 0 (-1074)
  else if 310 < k + decimalLength n then
    .infinity negative
  else if k + decimalLength n < -325 then
    .finite negative 0 (-1074)
  else if 0 ≤ k then
    ofRatio negative (n * powerOfTen k.toNat) 1
  else
    ofRatio negative n (powerOfTen (-k).toNat)

/-- The number nearest to an integer. -/
def ofInt (n : Int) : Binary64 :=
  ofRatio (decide (n < 0)) n.natAbs 1

/-- The number nearest to `n · 2 ^ e`, with the sign of `n`. -/
def ofScaled (n : Int) (e : Int) : Binary64 :=
  if 0 ≤ e then
    ofRatio (decide (n < 0)) (n.natAbs * powerOfTwo e.toNat) 1
  else
    ofRatio (decide (n < 0)) n.natAbs (powerOfTwo (-e).toNat)

/-- The significand with the sign. -/
def signedSignificand (negative : Bool) (m : Nat) : Int :=
  if negative then -(m : Int) else m

/-- The sum, rounded once. -/
def add : Binary64 → Binary64 → Binary64
  | .nan p, _ => .nan p
  | _, .nan p => .nan p
  | .infinity s, .infinity t => if s = t then .infinity s else .nan 0
  | .infinity s, _ => .infinity s
  | _, .infinity t => .infinity t
  | .finite s m e, .finite t n f =>
    let low := min e f
    ofScaled (signedSignificand s m * (powerOfTwo (e - low).toNat : Nat) +
      signedSignificand t n * (powerOfTwo (f - low).toNat : Nat))
      low

/-- Whether a number is negative, or a zero with a minus sign. -/
def hasMinus : Binary64 → Bool
  | .nan _ => false
  | .infinity s => s
  | .finite s _ _ => s

/-- The product, rounded once. -/
def mul : Binary64 → Binary64 → Binary64
  | .nan p, _ => .nan p
  | _, .nan p => .nan p
  | .finite s m e, .finite t n f =>
    if 0 ≤ e + f then ofRatio (s != t) (m * n * powerOfTwo (e + f).toNat) 1
    else ofRatio (s != t) (m * n) (powerOfTwo (-(e + f)).toNat)
  | .finite _ 0 _, _ => .nan 0
  | _, .finite _ 0 _ => .nan 0
  | x, y => .infinity (x.hasMinus != y.hasMinus)

/-- The number with the other sign. -/
def neg : Binary64 → Binary64
  | .nan p => .nan p
  | .infinity s => .infinity !s
  | .finite s m e => .finite (!s) m e

/-- The integer that a number equals, if any. -/
def toInt? : Binary64 → Option Int
  | .nan _ => none
  | .infinity _ => none
  | .finite s m e =>
    if 0 ≤ e then
      some (signedSignificand s m * (powerOfTwo e.toNat : Nat))
    else if m % powerOfTwo (-e).toNat = 0 then
      some (signedSignificand s (m / powerOfTwo (-e).toNat))
    else
      none

/-- Equality as numbers: zero has one value. What is not a number is the same only as what comes
from the same place. -/
def same : Binary64 → Binary64 → Bool
  | .nan p, .nan q => p = q
  | .infinity s, .infinity t => s = t
  | .finite s m e, .finite t n f => (m = 0 && n = 0) || (s = t && m = n && e = f)
  | _, _ => false

/-- Whether a number lies below zero. -/
def isNegative : Binary64 → Bool
  | .nan _ => false
  | .infinity s => s
  | .finite s m _ => s && m != 0

/-- Whether a number lies below a natural number. -/
def isBelow : Binary64 → Nat → Bool
  | .nan _, _ => false
  | .infinity s, _ => s
  | .finite true m _, n => m != 0 || n != 0
  | .finite false m e, n =>
      if 0 ≤ e then m * powerOfTwo e.toNat < n else m < n * powerOfTwo (-e).toNat

/-- Whether a number is one of the two zeros. -/
def isZero : Binary64 → Bool
  | .finite _ 0 _ => true
  | _ => false

end Binary64

end AgentBundles
