import AgentBundles.Domain.Directions
import AgentBundles.Domain.Fault
import AgentBundles.Domain.Letters
import AgentBundles.Text.Composition

/-!
# Labels of domain names

The rules for one label: it is composed, has hyphens only inside, begins with no mark, holds only
characters that may stand in labels, some of them only next to certain others, and its characters
have directions that go together.
-/

namespace AgentBundles.Domain

/-! ### Neighbours -/

/-- The direction of a character that may stand in a label. -/
def directionOf (c : Char) : Direction :=
  match directionRanges.find? fun r => r.1 ≤ c.toNat && c.toNat ≤ r.2.1 with
  | some r => r.2.2
  | none => .left

/-- How a letter joins its neighbours, if it does. -/
def joiningOf? (c : Char) : Option Joining :=
  (joiningRanges.find? fun r => r.1 ≤ c.toNat && c.toNat ≤ r.2.1).map (·.2.2)

/-- The combining class of the marks that join a letter to the next one. -/
def viramaClass : Nat := 9

/-- Whether a text, which is reversed, ends with such a mark. -/
def endsWithVirama (before : List Char) : Bool :=
  before.head?.any fun c => Text.combiningClass c.toNat == viramaClass

/-- Whether a text, which is reversed, ends with a character that has no direction yet. -/
def endsWithUnknown (before : List Char) : Bool :=
  before.head?.any fun c => directionOf c == .unknown

/-- How the first letter joins that is not passed over. -/
def joiningNext? (cs : List Char) : Option Joining :=
  ((cs.dropWhile fun c => joiningOf? c == some .transparent).head?).bind joiningOf?

/-- Whether a letter between two texts, of which the first one is reversed, keeps letters from
joining. -/
def parts (before after : List Char) : Bool :=
  (joiningNext? before == some .left || joiningNext? before == some .both) &&
    (joiningNext? after == some .right || joiningNext? after == some .both)

/-- The character that keeps letters from joining, and the one that joins them. -/
def nonJoiner : Char := Char.ofNat 0x200C

/-- The character that joins letters. -/
def joiner : Char := Char.ofNat 0x200D

/-- Whether a character is one of the ten digits from one on. -/
def isDigitFrom (first : Nat) (c : Char) : Bool := first ≤ c.toNat && c.toNat < first + 10

/-- Whether a character that may stand in certain places only may stand between two texts, of which
the first one is reversed; nothing if it may not stand anywhere. -/
def fits? (before : List Char) (c : Char) (after : List Char) : Option Bool :=
  let label := before ++ c :: after
  let n := c.toNat
  let isBefore (ranges : List (Nat × Nat)) := before.head?.any fun b => Text.inRanges b.toNat ranges
  if n = 0xB7 then some (before.head? == some 'l' && after.head? == some 'l')
  else if n = 0x375 then some (after.head?.any fun a => Text.inRanges a.toNat greekRanges)
  else if n = 0x5F3 || n = 0x5F4 then some (isBefore hebrewRanges)
  else if n = 0x30FB then
    some (label.any fun d => d.toNat ≠ 0x30FB &&
      (Text.inRanges d.toNat hiraganaRanges || Text.inRanges d.toNat katakanaRanges ||
        Text.inRanges d.toNat hanRanges))
  else if isDigitFrom 0x660 c then some (!label.any (isDigitFrom 0x6F0))
  else if isDigitFrom 0x6F0 c then some (!label.any (isDigitFrom 0x660))
  else none

/-- Checks a character between two texts, of which the first one is reversed. -/
def checkCharacter (before : List Char) (c : Char) (after : List Char) : Except Fault Unit :=
  let n := c.toNat
  let position := before.length + 1
  let label := String.ofList (before.reverse ++ c :: after)
  if Text.inRanges n validRanges then .ok ()
  else if c == nonJoiner || c == joiner then
    if endsWithVirama before ||
        (c == nonJoiner && !endsWithUnknown before && parts before after) then .ok ()
    else .error (.joiner n position label)
  else
    match fits? before c after with
    | some true => .ok ()
    | some false => .error (.context n position label)
    | none => .error (.character n position label)

/-- Checks the characters after those in `before`, of which the last one comes first. -/
def checkCharacters (before : List Char) : List Char → Except Fault Unit
  | [] => .ok ()
  | c :: cs => do
    checkCharacter before c cs
    checkCharacters (c :: before) cs

/-! ### Directions -/

namespace Direction

/-- Whether a direction goes from right to left. -/
def isRight (d : Direction) : Bool := d == .right || d == .arabic

/-- Whether a direction is that of a number. -/
def isNumber (d : Direction) : Bool := d == .number || d == .arabicNumber

/-- Whether a label from right to left may hold characters of a direction. -/
def inRight (d : Direction) : Bool := d != .left && d != .unknown

/-- Whether a label from left to right may hold characters of a direction. -/
def inLeft (d : Direction) : Bool := !d.isRight && d != .arabicNumber && d != .unknown

/-- Whether a label from right to left may end with a direction. -/
def endsRight (d : Direction) : Bool := d.isRight || d.isNumber

/-- Whether a label from left to right may end with a direction. -/
def endsLeft (d : Direction) : Bool := d == .left || d == .number

end Direction

/-- Checks the directions of a label from right to left; `number?` is the kind of numbers before. -/
def checkRight (position : Nat) (number? : Option Direction) : List Direction →
    Except DirectionFault Unit
  | [] => .ok ()
  | d :: ds =>
    if !d.inRight then .error (.rightToLeft position)
    else if d.isNumber && number?.any (· != d) then .error .numbers
    else checkRight (position + 1) (if d.isNumber then some d else number?) ds

/-- Checks the directions of a label from left to right. -/
def checkLeft (position : Nat) : List Direction → Except DirectionFault Unit
  | [] => .ok ()
  | d :: ds => if d.inLeft then checkLeft (position + 1) ds else .error (.leftToRight position)

/-- Checks the direction of the last character that is no mark. -/
def checkLast (isLast : Direction → Bool) (ds : List Direction) : Except DirectionFault Unit :=
  if ((ds.reverse.dropWhile (· == .mark)).head?).any isLast then .ok () else .error .last

/-- Checks the directions of a label, which count only if something in it goes from right to
left. -/
def checkDirections (label : List Char) : Except DirectionFault Unit := do
  let ds := label.map directionOf
  match ds.findIdx? (· == .unknown) with
  | some i => throw (.unknown (i + 1) (String.ofList label))
  | none => pure ()
  if ds.any fun d => d.isRight || d == .arabicNumber then
    let first := ds.headD .left
    if first.isRight then
      checkRight 1 none ds
      checkLast Direction.endsRight ds
    else if first == .left then
      checkLeft 1 ds
      checkLast Direction.endsLeft ds
    else
      throw (.first (String.ofList label))

/-! ### Labels -/

/-- Checks the hyphens of a label. -/
def checkHyphens (label : List Char) : Except Fault Unit :=
  if (label.drop 2).take 2 == ['-', '-'] then .error .doubleHyphen
  else if label.head? == some '-' || label.getLast? == some '-' then .error .endHyphen
  else .ok ()

/-- The most characters that a domain name has, with the dot at its end. -/
def longestDomain : Nat := 254

/-- Checks a label. -/
def checkLabel (label : List Char) : Except Fault Unit := do
  if label.isEmpty then
    throw .emptyLabel
  if longestDomain < label.length then
    throw .labelTooLong
  if !Text.isComposed label then
    throw .notComposed
  checkHyphens label
  if label.head?.any fun c => Text.isMark c.toNat then
    throw .mark
  checkCharacters [] label
  (checkDirections label).mapError .direction

end AgentBundles.Domain
