import AgentBundles.Data.Display
import AgentBundles.Data.Table
import AgentBundles.Number.Text
import AgentBundles.Text.Utf8

/-!
# Decoding records

Records are read from values field by field. A value that does not fit leaves a defect, which says
where it is and what was expected; the defects of all fields are collected, in the order of the
fields.
-/

namespace AgentBundles.Record

/-- What was expected of a value. -/
inductive Expectation where
  | present
  | string
  | unicodeString
  | longerString
  | record
  | dictionary
  | list
  | tuple
  | longerList
  | boolean
  | booleanText
  | integer
  | integerText
  | integerSize
  | wholeNumber
  | finiteNumber
  | path
  | literal
  | member
  | knownTag
  | tag
  | tagged
  deriving DecidableEq, Repr

/-- The name of a failed expectation. -/
def Expectation.name : Expectation → String
  | .present => "missing"
  | .string => "string_type"
  | .unicodeString => "string_unicode"
  | .longerString => "string_too_short"
  | .record => "model_type"
  | .dictionary => "dict_type"
  | .list => "list_type"
  | .tuple => "tuple_type"
  | .longerList => "too_short"
  | .boolean => "bool_type"
  | .booleanText => "bool_parsing"
  | .integer => "int_type"
  | .integerText => "int_parsing"
  | .integerSize => "int_parsing_size"
  | .wholeNumber => "int_from_float"
  | .finiteNumber => "finite_number"
  | .path => "path_type"
  | .literal => "literal_error"
  | .member => "enum"
  | .knownTag => "union_tag_invalid"
  | .tag => "union_tag_not_found"
  | .tagged => "model_attributes_type"

/-- A value that does not fit, and what was expected of it. -/
structure Defect where
  place : List String
  expected : Expectation
  deriving DecidableEq, Repr

/-- What came of reading a value: the result, or all defects. -/
inductive Decoded (α : Type) where
  | done (a : α)
  | defective (defects : List Defect)
  deriving Repr

namespace Decoded

variable {α β : Type}

/-- The defects. -/
def defects : Decoded α → List Defect
  | .done _ => []
  | .defective ds => ds

/-- A single defect. -/
def defect (expected : Expectation) : Decoded α :=
  .defective [⟨[], expected⟩]

/-- The result with a function applied. -/
def map (f : α → β) : Decoded α → Decoded β
  | .done a => .done (f a)
  | .defective ds => .defective ds

/-- The result of a function that was read too; the defects of both count. -/
def apply : Decoded (α → β) → Decoded α → Decoded β
  | .done f, .done a => .done (f a)
  | .done _, .defective ds => .defective ds
  | .defective cs, .done _ => .defective cs
  | .defective cs, .defective ds => .defective (cs ++ ds)

instance : Applicative Decoded where
  map f := Decoded.map f
  pure := .done
  seq f x := Decoded.apply f (x ())

/-- The same, with the defects placed under a name. -/
def under (name : String) : Decoded α → Decoded α
  | .done a => .done a
  | .defective ds => .defective (ds.map fun d => { d with place := name :: d.place })

/-- All results of a list. -/
def all : List (Decoded α) → Decoded (List α)
  | [] => .done []
  | d :: ds => (Decoded.map List.cons d).apply (all ds)

end Decoded

/-- A way to read values. -/
abbrev Decoder (α : Type) := Value → Decoded α

/-- Any value. -/
def anything : Decoder Value := .done

/-- A text; bytes that are UTF-8 count as one. -/
def string : Decoder String
  | .str s => .done s
  | .bytes bs =>
    match Text.decodeUtf8 bs with
    | .ok cs => .done (String.ofList cs)
    | .error _ => .defect .unicodeString
  | _ => .defect .string

/-- A text that is not empty. -/
def nonEmptyString (v : Value) : Decoded String :=
  match string v with
  | .done s => if s.isEmpty then .defect .longerString else .done s
  | d => d

/-- The texts that stand for truth values, in lower case. -/
def truthTexts : List (String × Bool) :=
  [("0", false), ("off", false), ("f", false), ("false", false), ("n", false), ("no", false),
   ("1", true), ("on", true), ("t", true), ("true", true), ("y", true), ("yes", true)]

/-- A truth value that a text stands for. -/
def booleanOfText (s : String) : Decoded Bool :=
  match truthTexts.find? fun t => t.1 == String.ofList (s.toList.map Char.toLower) with
  | some t => .done t.2
  | none => .defect .booleanText

/-- The text that a value stands for where truth values and integers are read: a text itself, or
bytes that are UTF-8; no text if they are not. -/
def textIn? : Value → Option (Option String)
  | .str s => some (some s)
  | .bytes bs => some ((Text.decodeUtf8 bs).toOption.map String.ofList)
  | _ => none

/-- The integers of 64 bits. -/
def isWord (n : Int) : Bool :=
  -9223372036854775808 ≤ n && n < 9223372036854775808

/-- The integers of 64 bits that a double precision number is read as: all but the least one. -/
def isFloatWord (n : Int) : Bool :=
  -9223372036854775808 < n && n < 9223372036854775808

/-- The truth value of an integer; `fits` tells whether it is small enough to be asked for one. -/
def booleanOfInt (fits : Bool) (n : Int) : Decoded Bool :=
  if n = 0 then .done false
  else if n = 1 then .done true
  else if fits then .defect .booleanText
  else .defect .boolean

/-- A truth value; zero and one, and some texts, count as one. -/
def boolean (v : Value) : Decoded Bool :=
  match v, textIn? v with
  | .bool b, _ => .done b
  | _, some (some s) => booleanOfText s
  | _, some none => .defect .booleanText
  | .int n, none => booleanOfInt (isWord n) n
  | .float x, none =>
    match x.toInt? with
    | some n => booleanOfInt (isFloatWord n) n
    | none => .defect .boolean
  | _, none => .defect .boolean

/-! ### Integers in texts -/

/-- An integer in its plain form: a minus sign or none, and digits of which the first one is no
zero, unless it is the only one. -/
def plainInteger (text : List Char) : Decoded Int :=
  let negative := text.head? == some '-'
  let cs := if negative then text.tail else text
  let digits := cs.takeWhile Text.isAsciiDigit
  let n : Int := Text.digitsValue digits
  if digits.isEmpty then .defect .integerText
  else if digits.head? == some '0' then (if cs.length = 1 then .done 0 else .defect .integerText)
  else if digitLimit < digits.length then .defect .integerSize
  else if digits.length = cs.length then .done (if negative then -n else n)
  else .defect .integerText

/-- The rest of a number after zeros, of which `last` is the last character. Zeros and low lines are
dropped; a digit, or a minus sign, begins the rest; a point keeps the zero before it. -/
def afterZeros? (last : Char) : List Char → Option (List Char)
  | [] => some [last]
  | c :: cs =>
    if c == '0' || c == '_' then afterZeros? c cs
    else if Text.isAsciiDigit c || c == '-' then some (c :: cs)
    else if c == '.' then some (last :: c :: cs)
    else none

/-- A number without zeros in front; none if it begins neither with a digit nor with a minus
sign. -/
def dropZeros? : List Char → Option (List Char)
  | [] => none
  | c :: cs =>
    if c == '0' then afterZeros? c cs
    else if Text.isAsciiDigit c || c == '-' then some (c :: cs)
    else none

/-- A number without a fraction of zeros. -/
def dropFraction (cs : List Char) : List Char :=
  let whole := cs.takeWhile (· != '.')
  match cs.drop whole.length with
  | _ :: c :: zeros => if (c :: zeros).all (· == '0') then whole else cs
  | _ => cs

/-- Whether two low lines stand side by side. -/
def hasDoubleLine : List Char → Bool
  | a :: b :: cs => (a == '_' && b == '_') || hasDoubleLine (b :: cs)
  | _ => false

/-- A number without low lines, if single ones stand between its characters. -/
def dropLines (cs : List Char) : List Char :=
  if cs.head? == some '_' || cs.getLast? == some '_' || hasDoubleLine cs then cs
  else cs.filter (· != '_')

/-- A number in its plain form, as far as white space around it, a plus sign, zeros in front, a
fraction of zeros and low lines keep it from that. -/
def plainForm? (text : List Char) : Option (List Char) :=
  let cs := Text.stripBy Text.isWhiteSpace text
  let signless? := match cs with
    | '+' :: '-' :: _ => none
    | '+' :: cs => some cs
    | cs => some cs
  (signless?.bind dropZeros?).map fun cs => dropLines (dropFraction cs)

/-- The integer that a text stands for. -/
def integerOfText (text : List Char) : Decoded Int :=
  match plainInteger text with
  | .done n => .done n
  | .defective [⟨_, .integerSize⟩] => .defect .integerSize
  | .defective _ =>
    match plainForm? text with
    | some cs => plainInteger cs
    | none => .defect .integerText

/-- An integer; whole numbers, truth values and some texts count as one. -/
def integer (v : Value) : Decoded Int :=
  match v, textIn? v with
  | .int n, _ => .done n
  | .bool b, _ => .done (if b then 1 else 0)
  | _, some (some s) => integerOfText s.toList
  | _, some none => .defect .integerText
  | .float (.nan _), none => .defect .finiteNumber
  | .float (.infinity _), none => .defect .finiteNumber
  | .float x, none =>
    match x.toInt? with
    | some n => if isFloatWord n then .done n else .defect .integerSize
    | none => .defect .wholeNumber
  | _, none => .defect .integer

/-- Null, or something else. -/
def optional {α : Type} (d : Decoder α) : Decoder (Option α)
  | .null => .done none
  | v => (d v).map some

/-- The items read one by one, each placed under its number. -/
def numbered {α : Type} (d : Decoder α) (vs : List Value) : Decoded (List α) :=
  .all (vs.zipIdx.map fun v => (d v.1).under (natText v.2))

/-- A list of at least so many items. -/
def listOfAtLeast {α : Type} (least : Nat) (d : Decoder α) (v : Value) : Decoded (List α) :=
  match v.members? with
  | none => .defect .list
  | some vs =>
    match numbered d vs with
    | .done xs => if xs.length < least then .defect .longerList else .done xs
    | bad => bad

/-- A list. -/
def list {α : Type} (d : Decoder α) : Decoder (List α) :=
  listOfAtLeast 0 d

/-- A list that is called a tuple in defects. -/
def tuple {α : Type} (d : Decoder α) (v : Value) : Decoded (List α) :=
  match v.members? with
  | none => .defect .tuple
  | some vs => numbered d vs

/-- The name of a key in the place of a defect. -/
def keyName (key : Value) : String :=
  match key with
  | .str s => s
  | k => if k.isShowable then k.display else "<unprintable " ++ k.kindName ++ " object>"

/-- A dictionary with text keys. -/
def table {α : Type} (d : Decoder α) (v : Value) : Decoded (Table α) :=
  match v.entries? with
  | some entries =>
    (Decoded.all (entries.map fun e =>
      ((Prod.mk <$> (string e.1).under "[key]" <*> d e.2).under (keyName e.1)))).map Table.ofList
  | none => .defect .dictionary

/-- A record, read from a mapping. -/
def fields {α : Type} (read : Decoder α) : Decoder α
  | .map entries => read (.map entries)
  | _ => .defect .record

/-- A field that has to be there. -/
def required {α : Type} (record : Value) (name : String) (d : Decoder α) : Decoded α :=
  match record.field? name with
  | some v => (d v).under name
  | none => (Decoded.defect .present).under name

/-- A field with a value for when it is not there. -/
def withDefault {α : Type} (record : Value) (name : String) (fallback : α) (d : Decoder α) :
    Decoded α :=
  match record.field? name with
  | some v => (d v).under name
  | none => .done fallback

/-- A record that could not be read: its kind and the defects. -/
structure Fault where
  kind : String
  defects : List Defect
  deriving DecidableEq, Repr

/-- What a message says of a record that could not be read. -/
def Fault.message (f : Fault) : String :=
  natText f.defects.length ++ (if f.defects.length = 1 then " validation error"
    else " validation errors") ++ " for " ++ f.kind

/-- The record of a kind that a value holds. -/
def Decoded.toExcept {α : Type} (kind : String) : Decoded α → Except Fault α
  | .done a => .ok a
  | .defective ds => .error ⟨kind, ds⟩

end AgentBundles.Record
