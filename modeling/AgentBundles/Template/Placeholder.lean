import AgentBundles.Text.Split
import AgentBundles.Text.Word

/-!
# Placeholders

A template is text with places for other text, each a name between double braces. Filling a template
replaces each place by the text its name stands for, or by nothing; the text put in is not looked
through again. The result has no blanks at its ends.
-/

namespace AgentBundles.Template

/-- A part of a template: a character that stands for itself, or a place with its name. -/
inductive Part where
  | literal (c : Char)
  | place (name : List Char)
  deriving DecidableEq, Repr

/-- Whether a character may stand in the name of a place. -/
def isNameChar (c : Char) : Bool :=
  Text.isWordChar c || c == '.' || c == '/' || c == '-'

/-- The name of the place whose opening braces came just before, and the text after it. Blanks may
stand around the name. -/
def takePlace? (cs : List Char) : Option (List Char × List Char) :=
  let start := cs.dropWhile Text.isBlank
  let name := start.takeWhile isNameChar
  match name, (start.drop name.length).dropWhile Text.isBlank with
  | _ :: _, '}' :: '}' :: rest => some (name, rest)
  | _, _ => none

/-- The parts of a text, given as much fuel as it has characters. -/
def partsOf : Nat → List Char → List Part
  | 0, _ => []
  | _, [] => []
  | fuel + 1, c :: cs =>
    match c, cs with
    | '{', '{' :: after =>
      match takePlace? after with
      | some (name, rest) => .place name :: partsOf fuel rest
      | none => .literal c :: partsOf fuel cs
    | _, _ => .literal c :: partsOf fuel cs

/-- The parts of a template. -/
def parts (template : String) : List Part :=
  partsOf template.toList.length template.toList

/-- The names of the places of a template, in order. -/
def places (template : String) : List String :=
  (parts template).filterMap fun p => match p with
    | .literal _ => none
    | .place name => some (String.ofList name)

/-- What a part becomes. -/
def Part.fill (value? : String → Option String) : Part → List Char
  | .literal c => [c]
  | .place name => ((value? (String.ofList name)).getD "").toList

/-- A template with its places filled, without blanks at its ends. -/
def fill (value? : String → Option String) (template : String) : String :=
  String.ofList (Text.strip ((parts template).flatMap (·.fill value?)))

/-- The names of the places of a template for which there is no text. -/
def unfilled (value? : String → Option String) (template : String) : List String :=
  (places template).filter fun name => (value? name).isNone

end AgentBundles.Template
