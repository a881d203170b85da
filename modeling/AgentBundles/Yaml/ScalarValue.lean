import AgentBundles.Yaml.Cursor
import AgentBundles.Yaml.Tag
import AgentBundles.Data.FaultKind
import AgentBundles.Data.Value
import AgentBundles.Data.Base64
import AgentBundles.Text.Case

/-!
# The values of scalars

What the text of a scalar stands for under each tag, and what messages say of a text that stands for
nothing.
-/

namespace AgentBundles.Yaml

/-- The number that digits in base sixty denote, the last one first. -/
def fromBaseSixty (digits : List Int) : Int :=
  digits.foldr (fun d n => d + 60 * n) 0

/-- The integer that a text denotes to a base, or what is wrong with it. -/
def integerOf (base : Nat) (cs : List Char) : Result Int :=
  (integerInBase base cs).mapError (.integer base (String.ofList cs))

/-- The integer without sign that a text denotes; its start tells the base. -/
def unsignedIntegerOf : List Char → Result Int
  | [] => .error .emptyInteger
  | ['0'] => .ok 0
  | '0' :: 'b' :: cs => integerOf 2 cs
  | '0' :: 'x' :: cs => integerOf 16 cs
  | '0' :: cs => integerOf 8 ('0' :: cs)
  | cs =>
    if cs.contains ':' then
      (fun ns => fromBaseSixty ns.reverse) <$> (colonFields cs).mapM (integerOf 10)
    else
      integerOf 10 cs

/-- The integer that a scalar denotes. -/
def integerValue (text : String) : Result Int :=
  match text.toList.filter (· != '_') with
  | [] => .error .emptyInteger
  | '-' :: cs => (- ·) <$> unsignedIntegerOf cs
  | '+' :: cs => unsignedIntegerOf cs
  | cs => unsignedIntegerOf cs

/-- The double precision number that a text denotes, or what is wrong with it. -/
def numberOf (cs : List Char) : Result Binary64 :=
  match Binary64.ofText? cs with
  | some x => .ok x
  | none => .error (.number (String.ofList cs))

/-- The number that fields in base sixty denote, the last one first; each weight, product and sum is
rounded. -/
def numberFromBaseSixty (weight : Nat) (sum : Binary64) : List Binary64 → Result Binary64
  | [] => .ok sum
  | d :: ds =>
    match Binary64.ofInt weight with
    | .infinity _ => .error .tooLarge
    | w => numberFromBaseSixty (weight * 60) (sum.add (d.mul w)) ds

/-- The number with a payload, if it is not a number. -/
def withPayload (payload : Nat) : Binary64 → Binary64
  | .nan _ => .nan payload
  | x => x

/-- The double precision number without sign that a text denotes. What is not a number has payload
zero if the text is the usual one, and `payload` otherwise. -/
def unsignedNumberOf (payload : Nat) (cs : List Char) : Result Binary64 :=
  if cs == ".inf".toList then .ok (.infinity false)
  else if cs == ".nan".toList then .ok (.nan 0)
  else
    withPayload payload <$>
      if cs.contains ':' then do
        let ds ← (colonFields cs).mapM numberOf
        numberFromBaseSixty 1 (Binary64.ofInt 0) ds.reverse
      else
        numberOf cs

/-- The double precision number that a scalar denotes. -/
def numberValue (payload : Nat) (text : String) : Result Binary64 :=
  match Text.lowerAll (text.toList.filter (· != '_')) with
  | [] => .error .emptyInteger
  | '-' :: cs => Binary64.neg <$> unsignedNumberOf payload cs
  | '+' :: cs => unsignedNumberOf payload cs
  | cs => unsignedNumberOf payload cs

/-- The truth value that a scalar denotes. -/
def truthValue (text : String) : Result Bool :=
  let word := Text.lower text
  match truthWords.find? fun w => w.1 == word with
  | some w => .ok w.2
  | none => .error (.truth word)

/-- The bytes that a scalar denotes. -/
def bytesValue (text : String) : Result (List UInt8) :=
  let cs := text.toList
  if cs.all fun c => c.toNat < 0x80 then
    match Base64.decode cs with
    | some bytes => .ok bytes
    | none => .error .malformed
  else
    .error .malformed

/-- The microseconds that the digits of a fraction denote; digits beyond the sixth do not count. -/
def microseconds (fraction : List Char) : Nat :=
  let ds := fraction.take 6
  Text.digitsValue ds * powerOfTen (6 - ds.length)

/-- The minutes of an offset. -/
def offsetMinutes (negative : Bool) (hours minutes : List Char) : Int :=
  let n : Int := Text.digitsValue hours * 60 + Text.digitsValue minutes
  if negative then -n else n

/-- The date or instant that a scalar denotes. -/
def timestampValue (text : String) : Result Value :=
  match timestampParts? (withoutFinalBreak text.toList) with
  | none => .error .notATimestamp
  | some p =>
    let n := Text.digitsValue
    let made : Except CalendarFault Value :=
      match p.time with
      | none => Value.date <$> Date.ofNumbers (n p.year) (n p.month) (n p.day)
      | some (hour, minute, second, fraction) =>
        let offset := p.zone.map fun z => z.elim 0 fun z => offsetMinutes z.1 z.2.1 z.2.2
        Value.instant <$> Instant.ofNumbers (n p.year) (n p.month) (n p.day) (n hour) (n minute)
          (n second) (microseconds fraction) offset
    match made with
    | .ok v => .ok v
    | .error e => .error (.calendar e)

/-- The value of a scalar with a tag.  What is not a number carries a payload of its own, as
`numberValue` says. -/
def scalarValue (tag : Tag) (payload : Nat) (text : String) : Result Value :=
  match tag with
  | .null => .ok .null
  | .str => .ok (.str text)
  | .bool => .bool <$> truthValue text
  | .int => .int <$> integerValue text
  | .float => .float <$> numberValue payload text
  | .binary => .bytes <$> bytesValue text
  | .timestamp => timestampValue text
  | _ => .error .malformed

/-- The kind of a fault. -/
def Fault.kind : Fault → FaultKind
  | .malformed => .yaml
  | .codePoint n => if n < 0x80000000 then .value else .overflow
  | .calendar _ => .value
  | .integer _ _ _ => .value
  | .emptyInteger => .index
  | .number _ => .value
  | .tooLarge => .overflow
  | .truth _ => .key
  | .notATimestamp => .attribute
  | .timestampOfMapping => .type
  | .endless => .recursion

/-- What a message says of a fault, apart from those of the grammar. -/
def Fault.message : Fault → String
  | .malformed => ""
  | .codePoint n =>
    if n < 0x80000000 then "chr() arg not in range(0x110000)"
    else "Python int too large to convert to C int"
  | .calendar f => f.message
  | .integer base text f => f.message base text
  | .emptyInteger => "string index out of range"
  | .number text => "could not convert string to float: " ++ Text.quoted text
  | .truth text => Text.quoted text
  | .tooLarge => "int too large to convert to float"
  | .notATimestamp => "'NoneType' object has no attribute 'groupdict'"
  | .timestampOfMapping => "expected string or bytes-like object, got 'list'"
  | .endless => "maximum recursion depth exceeded"

end AgentBundles.Yaml
