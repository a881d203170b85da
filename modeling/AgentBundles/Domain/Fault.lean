import AgentBundles.Data.FaultKind
import AgentBundles.Number.Layout
import AgentBundles.Text.Quoted

/-!
# Faults of domain names

What keeps a text from being a domain name.
-/

namespace AgentBundles.Domain

/-- What is wrong with the directions of the characters of a label. -/
inductive DirectionFault where
  /-- The first character is written neither from left to right nor from right to left. -/
  | first (label : String)
  /-- A character has no direction yet. -/
  | unknown (position : Nat) (label : String)
  | rightToLeft (position : Nat)
  | leftToRight (position : Nat)
  /-- There are numbers of two kinds. -/
  | numbers
  | last
  deriving DecidableEq, Repr

/-- Why a text is no domain name. Positions count from one. -/
inductive Fault where
  | nothing
  | domainTooLong
  | emptyLabel
  | labelTooLong
  /-- A label is not composed. -/
  | notComposed
  /-- There are hyphens where labels in ASCII letters have them. -/
  | doubleHyphen
  /-- A hyphen stands at an end. -/
  | endHyphen
  /-- A label begins with a mark. -/
  | mark
  /-- Nothing follows the sign of labels in ASCII letters. -/
  | noLetters
  | hyphenAfterLetters
  /-- The ASCII letters stand for no label. -/
  | letters
  | character (n position : Nat) (label : String)
  /-- A joiner does not stand between letters that it joins. -/
  | joiner (n position : Nat) (label : String)
  /-- A character does not stand where it may. -/
  | context (n position : Nat) (label : String)
  | direction (f : DirectionFault)
  deriving DecidableEq, Repr

/-- The number of a character, in four hexadecimal digits or more. -/
def pointText (n : Nat) : String :=
  let digits := ((Text.hexDigits 6 n).map Char.toUpper).dropWhile (· == '0')
  "U+" ++ String.ofList (List.replicate (4 - digits.length) '0' ++ digits)

/-- What a message says is wrong with directions. -/
def DirectionFault.message : DirectionFault → String
  | .first label => "First codepoint in label " ++ Text.quoted label ++
      " must be directionality L, R or AL"
  | .unknown position label =>
    "Unknown directionality in label " ++ Text.quoted label ++ " at position " ++ natText position
  | .rightToLeft position =>
    "Invalid direction for codepoint at position " ++ natText position ++
      " in a right-to-left label"
  | .leftToRight position =>
    "Invalid direction for codepoint at position " ++ natText position ++
      " in a left-to-right label"
  | .numbers => "Can not mix numeral types in a right-to-left label"
  | .last => "Label ends with illegal codepoint directionality"

/-- A position in a label. -/
def placeMessage (position : Nat) (label : String) : String :=
  "at position " ++ natText position ++ " in " ++ Text.quoted label

/-- What a message says of a text that is no domain name. -/
def Fault.message : Fault → String
  | .nothing => "Empty domain"
  | .domainTooLong => "Domain too long"
  | .emptyLabel => "Empty Label"
  | .labelTooLong => "Label too long"
  | .notComposed => "Label must be in Normalization Form C"
  | .doubleHyphen => "Label has disallowed hyphens in 3rd and 4th position"
  | .endHyphen => "Label must not start or end with a hyphen"
  | .mark => "Label begins with an illegal combining character"
  | .noLetters => "Malformed A-label, no Punycode eligible content found"
  | .hyphenAfterLetters => "A-label must not end with a hyphen"
  | .letters => "Invalid A-label"
  | .character n position label =>
    "Codepoint " ++ pointText n ++ " at position " ++ natText position ++ " of " ++
      Text.quoted label ++ " not allowed"
  | .joiner n position label =>
    "Unknown codepoint adjacent to joiner " ++ pointText n ++ " " ++ placeMessage position label
  | .context n position label => "Codepoint " ++ pointText n ++ " not allowed " ++
      placeMessage position label
  | .direction f => f.message

/-- The kind of a fault. -/
def Fault.kind : Fault → FaultKind
  | .character _ _ _ => .codePoint
  | .context _ _ _ => .codePointContext
  | .direction _ => .direction
  | _ => .domain

end AgentBundles.Domain
