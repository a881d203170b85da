import AgentBundles.Number.Layout
import AgentBundles.Number.Text
import AgentBundles.Text.Quoted
import AgentBundles.Text.Split

/-!
# Versions

A version is three numbers with dots between them, after which the name of a pre-release and of a
build may stand. `Version.read?` takes any text that begins so and drops what follows the numbers,
as a version is read to be raised; `Version.isSemantic` is the stricter rule for versions that are
published.
-/

namespace AgentBundles

/-- The numbers of a version. -/
structure Version where
  major : Nat
  minor : Nat
  patch : Nat
  deriving DecidableEq, Repr

/-- A number of a version. -/
inductive VersionPart where
  | major
  | minor
  | patch
  deriving DecidableEq, Repr

/-- The part with a name. -/
def VersionPart.ofName? : String → Option VersionPart
  | "major" => some .major
  | "minor" => some .minor
  | "patch" => some .patch
  | _ => none

namespace Version

/-- The numerals at the start of a version, and what follows them. -/
structure Numerals where
  major : List Char
  minor : List Char
  patch : List Char
  rest : List Char
  deriving DecidableEq, Repr

/-- The three numerals at the start of a text, if dots stand between them. -/
def numerals? (cs : List Char) : Option Numerals :=
  match spanDecimal cs with
  | (major, '.' :: cs) =>
    match spanDecimal cs with
    | (minor, '.' :: cs) => some ⟨major, minor, (spanDecimal cs).1, (spanDecimal cs).2⟩
    | _ => none
  | _ => none

/-- Whether a text may follow the numbers of a version that is to be raised: nothing, or a hyphen or
plus sign and the rest of the line. -/
def isSuffix : List Char → Bool
  | [] => true
  | c :: cs => (c == '-' || c == '+') && !cs.contains '\n'

/-- The numbers of a version; a line feed may follow. -/
def read? (s : String) : Option Version :=
  match numerals? (Text.dropFinalBreak s.toList) with
  | some ⟨major, minor, patch, rest⟩ =>
    if major.isEmpty || minor.isEmpty || patch.isEmpty || !isSuffix rest then none
    else some ⟨Text.digitsValue major, Text.digitsValue minor, Text.digitsValue patch⟩
  | none => none

/-- The count of the digits of the first number of a version that has too many to be read. -/
def excess? (s : String) : Option Nat :=
  (numerals? (Text.dropFinalBreak s.toList)).bind fun n =>
    ([n.major, n.minor, n.patch].map List.length).find? fun digits => digitLimit < digits

/-- Whether all numbers of a version may be written in decimal. -/
def isWritable (v : Version) : Bool :=
  [v.major, v.minor, v.patch].all fun n => hasDecimalText n

/-- The text of a version. -/
def text (v : Version) : String :=
  Text.join "." ([v.major, v.minor, v.patch].map natText)

/-- A version with one of its numbers raised by one, and those below it zero. -/
def raise (v : Version) : VersionPart → Version
  | .major => ⟨v.major + 1, 0, 0⟩
  | .minor => ⟨v.major, v.minor + 1, 0⟩
  | .patch => ⟨v.major, v.minor, v.patch + 1⟩

/-- Whether a numeral has no superfluous zero in front. -/
def isPlain : List Char → Bool
  | [] => false
  | c :: cs => (c == '0' && cs.isEmpty) || ('1' ≤ c && c ≤ '9' && cs.all Text.isDigit)

/-- Whether a character may stand in the name of a build. -/
def isNameChar (c : Char) : Bool :=
  Text.isAsciiAlphanumeric c || c == '-'

/-- Whether a text is one of the fields of the name of a pre-release: a plain numeral, or digits and
then a name that does not begin with a digit. -/
def isReleaseField (cs : List Char) : Bool :=
  isPlain cs ||
    match cs.dropWhile Text.isDigit with
    | [] => false
    | c :: rest => (Text.isAsciiLetter c || c == '-') && rest.all isNameChar

/-- Whether a text is one of the fields of the name of a build. -/
def isBuildField (cs : List Char) : Bool :=
  !cs.isEmpty && cs.all isNameChar

/-- Whether a text may follow the numbers of a version: a pre-release after a hyphen, and a build
after a plus sign, or only one of them, or nothing. -/
def isRelease (cs : List Char) : Bool :=
  let release := cs.takeWhile (· != '+')
  (match release with
    | [] => true
    | c :: name => c == '-' && (Text.fields '.' name).all isReleaseField) &&
  match cs.drop release.length with
  | [] => true
  | _ :: name => (Text.fields '.' name).all isBuildField

/-- Whether a text is a version that may be published; a line feed may follow. -/
def isSemantic (s : String) : Bool :=
  match numerals? (Text.dropFinalBreak s.toList) with
  | some n => isPlain n.major && isPlain n.minor && isPlain n.patch && isRelease n.rest
  | none => false

end Version

/-- Why a version cannot be raised. -/
inductive VersionFault where
  | unreadable (version : String)
  /-- A number of the version has too many digits to be read. -/
  | tooLong (digits : Nat)
  | unknownPart (name : String)
  /-- A number of the raised version has too many digits to be written. -/
  | unwritable
  deriving DecidableEq, Repr

/-- What a message says of a version that cannot be raised. -/
def VersionFault.message : VersionFault → String
  | .unreadable version => "Cannot bump non-semver version " ++ Text.inQuotes version
  | .tooLong digits => unreadableMessage digits
  | .unknownPart name =>
    "Unknown version part " ++ Text.inQuotes name ++ " (expected major, minor or patch)"
  | .unwritable => unwritableMessage

/-- A version with a part, given by its name, raised. -/
def raiseVersion (version part : String) : Except VersionFault String :=
  match Version.read? version, Version.excess? version, VersionPart.ofName? part with
  | none, _, _ => .error (.unreadable version)
  | some _, some digits, _ => .error (.tooLong digits)
  | some _, none, none => .error (.unknownPart part)
  | some v, none, some p =>
      if (v.raise p).isWritable then .ok (v.raise p).text else .error .unwritable

end AgentBundles
