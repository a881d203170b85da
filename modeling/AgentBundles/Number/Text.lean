import AgentBundles.Number.Layout
import AgentBundles.Text.Quoted
import AgentBundles.Text.Word

/-!
# Reading numbers

The integer and the double precision number that a text denotes. Digits of every script count, white
space may surround the number, and an integer has no more decimal digits than `digitLimit`.
-/

namespace AgentBundles

/-- The value of a digit or letter in bases up to 36. -/
def digitInBase? (base : Nat) (c : Char) : Option Nat :=
  let v? :=
    match Text.digitValue? c with
    | some v => some v
    | none =>
      if 'a' ≤ c && c ≤ 'z' then some (c.toNat - 87)
      else if 'A' ≤ c && c ≤ 'Z' then some (c.toNat - 55)
      else none
  v?.filter (· < base)

/-- Why a text is no integer. -/
inductive IntegerFault where
  | notInteger
  /-- There are so many decimal digits that they are not read. -/
  | tooLong (digits : Nat)
  deriving DecidableEq, Repr

/-- Whether a base is a power of two, so that its digits are read in any number. -/
def isPowerBase (base : Nat) : Bool :=
  base == 2 || base == 8 || base == 16

/-- Digits without the single low lines between them; the flag tells whether a digit came before. -/
def joinDigits? (afterDigit : Bool) : List Char → Option (List Char)
  | [] => if afterDigit then some [] else none
  | c :: cs =>
    if c == '_' then (if afterDigit then joinDigits? false cs else none)
    else (c :: ·) <$> joinDigits? true cs

/-- The number that digits in a base denote, with single low lines between them. -/
def naturalInBase (base : Nat) (cs : List Char) : Except IntegerFault Nat :=
  let isPart (c : Char) : Bool := c == '_' || (digitInBase? base c).isSome
  match joinDigits? false (cs.takeWhile isPart) with
  | none => .error .notInteger
  | some ds =>
    if !isPowerBase base && digitLimit < ds.length then .error (.tooLong ds.length)
    else if !(cs.dropWhile isPart).isEmpty then .error .notInteger
    else .ok (ds.foldl (fun n c => base * n + (digitInBase? base c).getD 0) 0)

/-- A text without its sign, and whether the sign is a minus. -/
def splitSign : List Char → Bool × List Char
  | '-' :: cs => (true, cs)
  | '+' :: cs => (false, cs)
  | cs => (false, cs)

/-- A text without the letters that announce its base, and a low line after them. -/
def dropBaseMark (base : Nat) : List Char → List Char
  | '0' :: c :: cs =>
    if (base = 2 ∧ (c = 'b' ∨ c = 'B')) ∨ (base = 8 ∧ (c = 'o' ∨ c = 'O')) ∨
        (base = 16 ∧ (c = 'x' ∨ c = 'X')) then
      (if cs.head? == some '_' then cs.tail else cs)
    else
      '0' :: c :: cs
  | cs => cs

/-- The integer that a text denotes in a base. -/
def integerInBase (base : Nat) (text : List Char) : Except IntegerFault Int :=
  let (negative, cs) := splitSign (Text.stripBy Text.isWhiteSpace text)
  (naturalInBase base (dropBaseMark base cs)).map fun n => if negative then -(n : Int) else n

/-- What a message says of a text that is no integer in a base; no more than 200 characters are
quoted. -/
def IntegerFault.message (base : Nat) (text : String) : IntegerFault → String
  | .notInteger =>
    "invalid literal for int() with base " ++ natText base ++ ": " ++
      String.ofList ((Text.quoted text).toList.take 200)
  | .tooLong digits => unreadableMessage digits

/-- The digits at the start of a text and what follows them. -/
def spanDecimal (cs : List Char) : List Char × List Char :=
  (cs.takeWhile Text.isDigit, cs.dropWhile Text.isDigit)

/-- The exponent that a text is: nothing, or a letter, a sign or none, and digits. -/
def exponent? : List Char → Option Int
  | [] => some 0
  | e :: cs =>
    if e == 'e' || e == 'E' then
      let (negative, ds) := splitSign cs
      if !ds.isEmpty && ds.all Text.isDigit then
        some (if negative then -(Text.digitsValue ds : Int) else Text.digitsValue ds)
      else
        none
    else
      none

/-- The double precision number that a text denotes. -/
def Binary64.ofText? (text : List Char) : Option Binary64 :=
  let (negative, cs) := splitSign (Text.stripBy Text.isWhiteSpace text)
  let word := String.ofList (cs.map Char.toLower)
  if word == "inf" || word == "infinity" then
    some (.infinity negative)
  else if word == "nan" then
    some (.nan 0)
  else
    let (whole, rest) := spanDecimal cs
    let (fraction, rest) :=
      match rest with
      | '.' :: rest => spanDecimal rest
      | rest => ([], rest)
    if whole.isEmpty && fraction.isEmpty then
      none
    else
      (exponent? rest).map fun e =>
        Binary64.ofDecimal negative (Text.digitsValue (whole ++ fraction)) (e - fraction.length)

end AgentBundles
