import AgentBundles.Text.Percent
import AgentBundles.Text.Split

/-!
# Types of content

The type of a content comes with parameters, of which one names a character set. Semicolons separate
parameters, but not in quotes. A value may be cut into numbered parts, and may be written as bytes
after the name of a character set and of a language.
-/

namespace AgentBundles.Web

/-- The texts between semicolons that do not stand in quotes, given whether quotes are open and the
character that came before. -/
def parameterTexts (isQuoted : Bool) (before : Char) : List Char → List (List Char)
  | [] => [[]]
  | c :: cs =>
    if c == ';' && !isQuoted then
      [] :: parameterTexts false ' ' cs
    else
      match parameterTexts (isQuoted != (c == '"' && before != '\\')) c cs with
      | [] => [[c]]
      | t :: ts => (c :: t) :: ts

/-- What quotes hold, where a backslash stands before a quote or a backslash. -/
def withoutEscapes : List Char → List Char
  | '\\' :: '\\' :: cs => '\\' :: withoutEscapes cs
  | '\\' :: '"' :: cs => '"' :: withoutEscapes cs
  | c :: cs => c :: withoutEscapes cs
  | [] => []

/-- A value without the quotes or angle brackets around it. -/
def withoutQuotes (cs : List Char) : List Char :=
  let inside := cs.tail.dropLast
  if cs.length < 2 then cs
  else if cs.head? == some '"' && cs.getLast? == some '"' then withoutEscapes inside
  else if cs.head? == some '<' && cs.getLast? == some '>' then inside
  else cs

/-- A parameter of the type of a content. -/
structure Parameter where
  name : String
  value : List Char
  deriving DecidableEq, Repr

/-- The parameter that a text is. -/
def Parameter.ofText (cs : List Char) : Parameter :=
  ⟨(String.ofList (Text.strip (cs.takeWhile (· != '=')))).toLower,
    withoutQuotes (Text.strip ((cs.dropWhile (· != '=')).drop 1))⟩

/-- The type of a content and its parameters, as parameters. -/
def parameters (contentType : String) : List Parameter :=
  (parameterTexts false ' ' contentType.toList).map Parameter.ofText

/-- The number of the part of a value that a parameter holds, and whether it is written as bytes;
none if it holds a value of another name, or all of one. -/
def Parameter.partOf? (name : String) (p : Parameter) : Option (Nat × Bool) :=
  match Text.split '*' p.name with
  | [s, ""] => if s == name then some (0, true) else none
  | [s, number] =>
      if s == name && isNumber number then some (Text.digitsValue number.toList, false) else none
  | [s, number, ""] =>
      if s == name && isNumber number then some (Text.digitsValue number.toList, true) else none
  | _ => none
where
  /-- Whether a text is a number. -/
  isNumber (s : String) : Bool := !s.isEmpty && s.toList.all Text.isAsciiDigit

/-- The characters of a text with bytes that are the numbers of characters. -/
def latinDecode (cs : List Char) : List Char :=
  (Text.percentBytes cs).map fun b => Char.ofNat b.toNat

/-- The value of a name that is given in parts. -/
def joinedValue? (name : String) (ps : List Parameter) : Option (List Char) :=
  let parts := ps.filterMap fun p => (p.partOf? name).map fun part => (part, p.value)
  let ordered := parts.mergeSort fun p q =>
    p.1.1 < q.1.1 || (p.1.1 == q.1.1 && Text.le (String.ofList p.2) (String.ofList q.2))
  let text := ordered.flatMap fun p => if p.1.2 then latinDecode p.2 else p.2
  if parts.isEmpty then none
  else if parts.any (·.1.2) then
    match Text.fields '\'' text with
    | _ :: _ :: value :: more => some (['\''].intercalate (value :: more))
    | _ => some text
  else some text

/-- The name of the character set that the type of a content states. -/
def charsetName? (contentType : String) : Option String :=
  let ps := parameters contentType
  let value? := ((ps.find? (·.name == "charset")).map (·.value)).orElse fun _ =>
    joinedValue? "charset" (ps.drop 1)
  (value?.filter fun cs => cs.all Text.isAscii).map fun cs => (String.ofList cs).toLower

end AgentBundles.Web
