import AgentBundles.Text.Word
import AgentBundles.Number.Binary64

/-!
# Tags

The tag of a node says what its text or items stand for.  A scalar without a tag gets one from its
form: `implicitTag` decides by the first character which forms come into question.
-/

namespace AgentBundles.Yaml

/-- What a node stands for. -/
inductive Tag where
  | null
  | bool
  | int
  | float
  | binary
  | timestamp
  | str
  | seq
  | map
  | set
  | orderedMap
  | pairs
  | merge
  | value
  | other (uri : String)
  deriving DecidableEq, Repr

/-- The names of the tags of the standard schema, without the part they share. -/
def standardTags : List (String × Tag) :=
  [("null", .null), ("bool", .bool), ("int", .int), ("float", .float), ("binary", .binary),
   ("timestamp", .timestamp), ("str", .str), ("seq", .seq), ("map", .map), ("set", .set),
   ("omap", .orderedMap), ("pairs", .pairs), ("merge", .merge), ("value", .value)]

/-- The part that the names of the standard tags share. -/
def standardStem : String := "tag:yaml.org,2002:"

/-- The tag that a full name denotes. -/
def Tag.ofName (name : String) : Tag :=
  match standardTags.find? fun t => standardStem ++ t.1 == name with
  | some t => t.2
  | none => .other name

/-! ### The forms of plain scalars -/

/-- The words for truth values. -/
def truthWords : List (String × Bool) :=
  [("yes", true), ("no", false), ("true", true), ("false", false), ("on", true), ("off", false)]

/-- The three spellings of a word: lower case, capitalised, upper case. -/
def spellings (word : String) : List String :=
  let cs := word.toList
  [word, String.ofList ((cs.take 1).map Char.toUpper ++ cs.drop 1),
    String.ofList (cs.map Char.toUpper)]

/-- The texts that are truth values without a tag. -/
def truthTexts : List String :=
  truthWords.flatMap fun w => spellings w.1

/-- The texts that are null without a tag. -/
def nullTexts : List String :=
  ["", "~", "null", "Null", "NULL"]

/-- Whether a character is a digit or a low line. -/
def isDigitOrLine (c : Char) : Bool :=
  Text.isAsciiDigit c || c == '_'

/-- The text after a sign, if there is one. -/
def afterSign : List Char → List Char
  | '+' :: cs => cs
  | '-' :: cs => cs
  | cs => cs

/-- Whether a text is not empty and made of characters that `p` accepts. -/
def allOf (p : Char → Bool) (cs : List Char) : Bool :=
  !cs.isEmpty && cs.all p

/-- Whether a text is a digit followed by digits and low lines. -/
def isDigitGroup : List Char → Bool
  | [] => false
  | c :: cs => Text.isAsciiDigit c && cs.all isDigitOrLine

/-- Whether a text is a number below sixty in one or two digits. -/
def isBelowSixty : List Char → Bool
  | [c] => Text.isAsciiDigit c
  | [b, c] => '0' ≤ b && b ≤ '5' && Text.isAsciiDigit c
  | _ => false

/-- The fields of a text between colons. -/
def colonFields : List Char → List (List Char)
  | [] => [[]]
  | c :: cs =>
    if c == ':' then
      [] :: colonFields cs
    else
      match colonFields cs with
      | [] => [[c]]
      | f :: fs => (c :: f) :: fs

/-- Whether a text has the form of an integer: binary, octal, decimal, hexadecimal or in base
sixty. -/
def isIntText (text : List Char) : Bool :=
  let cs := afterSign text
  let binary := match cs with
    | '0' :: 'b' :: ds => allOf (fun c => c == '0' || c == '1' || c == '_') ds
    | _ => false
  let octal := match cs with
    | '0' :: ds => allOf (fun c => ('0' ≤ c && c ≤ '7') || c == '_') ds
    | _ => false
  let decimal := match cs with
    | ['0'] => true
    | c :: ds => '1' ≤ c && c ≤ '9' && ds.all isDigitOrLine
    | [] => false
  let hexadecimal := match cs with
    | '0' :: 'x' :: ds => allOf (fun c => Text.isAsciiDigit c || ('a' ≤ c && c ≤ 'f') ||
        ('A' ≤ c && c ≤ 'F') || c == '_') ds
    | _ => false
  let baseSixty := match colonFields cs with
    | (c :: ds) :: f :: fs =>
      '1' ≤ c && c ≤ '9' && ds.all isDigitOrLine && (f :: fs).all isBelowSixty
    | _ => false
  binary || octal || decimal || hexadecimal || baseSixty

/-- Whether a text is empty or an exponent with a sign and digits. -/
def isExponentOrEmpty : List Char → Bool
  | [] => true
  | e :: sign :: ds => (e == 'e' || e == 'E') && (sign == '+' || sign == '-') &&
      allOf Text.isAsciiDigit ds
  | _ => false

/-- Whether a text goes on with digits and low lines, and then ends or has an exponent. -/
def isFractionTail (cs : List Char) : Bool :=
  isExponentOrEmpty (cs.dropWhile isDigitOrLine)

/-- Whether a text has the form of a double precision number. -/
def isFloatText (text : List Char) : Bool :=
  let cs := afterSign text
  let pointed := match cs.dropWhile isDigitOrLine with
    | '.' :: rest => isDigitGroup (cs.takeWhile isDigitOrLine) && isFractionTail rest
    | _ => false
  let leadingPoint := match text with
    | '.' :: c :: rest => Text.isAsciiDigit c && isFractionTail rest
    | _ => false
  let baseSixty := match (colonFields cs).reverse with
    | last :: f :: fs =>
      let seconds := last.takeWhile (· != '.')
      (match last.dropWhile (· != '.') with
        | '.' :: rest => isBelowSixty seconds && rest.all isDigitOrLine
        | _ => false) &&
      isDigitGroup ((f :: fs).getLast?.getD []) && (f :: fs).dropLast.all isBelowSixty
    | _ => false
  let infinite := [".inf", ".Inf", ".INF"].contains (String.ofList cs)
  let undefinedValue := [".nan", ".NaN", ".NAN"].contains (String.ofList text)
  pointed || leadingPoint || baseSixty || infinite || undefinedValue

/-- The parts of a timestamp, as texts of digits. -/
structure TimestampParts where
  year : List Char
  month : List Char
  day : List Char
  /-- Hour, minute, second and the digits of the fraction. -/
  time : Option (List Char × List Char × List Char × List Char)
  /-- The sign, hours and minutes of an offset; `some none` is the letter for universal time. -/
  zone : Option (Option (Bool × List Char × List Char))
  deriving Repr

/-- Takes from `least` to `most` digits off the start of a text. -/
def takeDigits (least most : Nat) (cs : List Char) : Option (List Char × List Char) :=
  let ds := (cs.take most).takeWhile Text.isAsciiDigit
  if ds.length < least then none else some (ds, cs.drop ds.length)

/-- Takes a character off the start of a text. -/
def takeChar (c : Char) : List Char → Option (List Char)
  | d :: cs => if c == d then some cs else none
  | [] => none

/-- Whether a character is a space or a tab. -/
def isSpaceOrTab (c : Char) : Bool :=
  c == ' ' || c == '\t'

/-- Takes the offset at the end of a timestamp. -/
def takeZone (cs : List Char) : Option (Option (Option (Bool × List Char × List Char))) :=
  if cs.isEmpty then
    some none
  else
    match cs.dropWhile isSpaceOrTab with
    | ['Z'] => some (some none)
    | sign :: rest => do
      if sign == '+' || sign == '-' then
        let (hours, rest) ← takeDigits 1 2 rest
        match rest with
        | [] => return some (some (sign == '-', hours, []))
        | rest => do
          let rest ← takeChar ':' rest
          let (minutes, rest) ← takeDigits 2 2 rest
          if rest.isEmpty then return some (some (sign == '-', hours, minutes)) else none
      else
        none
    | [] => none

/-- The white space or letter that stands between the day and the time of day. -/
def takeTimeMark : List Char → Option (List Char)
  | 'T' :: cs => some cs
  | 't' :: cs => some cs
  | c :: cs => if isSpaceOrTab c then some (cs.dropWhile isSpaceOrTab) else none
  | [] => none

/-- Takes the fraction of a second, if there is one. -/
def takeFraction : List Char → List Char × List Char
  | '.' :: cs => (cs.takeWhile Text.isAsciiDigit, cs.dropWhile Text.isAsciiDigit)
  | cs => ([], cs)

/-- The parts of a text that has the form of a timestamp with a time of day. -/
def timestampWithTime? (cs : List Char) : Option TimestampParts := do
  let (year, cs) ← takeDigits 4 4 cs
  let cs ← takeChar '-' cs
  let (month, cs) ← takeDigits 1 2 cs
  let cs ← takeChar '-' cs
  let (day, cs) ← takeDigits 1 2 cs
  let cs ← takeTimeMark cs
  let (hour, cs) ← takeDigits 1 2 cs
  let cs ← takeChar ':' cs
  let (minute, cs) ← takeDigits 2 2 cs
  let cs ← takeChar ':' cs
  let (second, cs) ← takeDigits 2 2 cs
  let (fraction, cs) := takeFraction cs
  let zone ← takeZone cs
  return ⟨year, month, day, some (hour, minute, second, fraction), zone⟩

/-- The parts of a text that is a day, with months and days in at least `least` digits. -/
def timestampOfDay? (least : Nat) (cs : List Char) : Option TimestampParts := do
  let (year, cs) ← takeDigits 4 4 cs
  let cs ← takeChar '-' cs
  let (month, cs) ← takeDigits least 2 cs
  let cs ← takeChar '-' cs
  let (day, cs) ← takeDigits least 2 cs
  if cs.isEmpty then return ⟨year, month, day, none, none⟩ else none

/-- The parts of a text that has the form of a timestamp; one or two digits are enough for the month
and the day only before a time of day. -/
def timestampForm? (cs : List Char) : Option TimestampParts :=
  (timestampOfDay? 2 cs).or (timestampWithTime? cs)

/-- The parts of a text that a tag calls a timestamp. -/
def timestampParts? (cs : List Char) : Option TimestampParts :=
  (timestampOfDay? 1 cs).or (timestampWithTime? cs)

/-- A text without the line feed at its end: the forms of scalars end before one. -/
def withoutFinalBreak (cs : List Char) : List Char :=
  if cs.getLast? == some '\n' then cs.dropLast else cs

/-- The tag that a scalar has by its form. -/
def implicitTag (text : String) : Tag :=
  let cs := withoutFinalBreak text.toList
  let line := String.ofList cs
  if nullTexts.contains text || (text != "\n" && nullTexts.contains line) then .null
  else if truthTexts.contains line then .bool
  else if isFloatText cs then .float
  else if isIntText cs then .int
  else if line == "<<" then .merge
  else if (timestampForm? cs).isSome then .timestamp
  else if line == "=" then .value
  else if ["!", "&", "*"].contains line then .other (standardStem ++ "yaml")
  else .str

end AgentBundles.Yaml
