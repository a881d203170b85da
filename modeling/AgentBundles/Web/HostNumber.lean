import AgentBundles.Text.Quoted
import AgentBundles.Text.Split
import AgentBundles.Text.Word

/-!
# Hosts that are numbers

A host may be a number instead of a name: four parts below 256 with dots between them, or eight
parts in hexadecimal digits with colons between them, where two colons stand once for parts that are
zero, and the last two parts may be written as a number of four.
-/

namespace AgentBundles.Web

/-! ### Four parts -/

/-- Whether characters are a part of four: one to three digits, without zeros in front, below
256. -/
def isFourthPart (cs : List Char) : Bool :=
  !cs.isEmpty && cs.all Text.isAsciiDigit && cs.length ≤ 3 &&
    (cs == ['0'] || cs.head? != some '0') && Text.digitsValue cs < 256

/-- Whether a host is a number of four parts. -/
def isFourPart (cs : List Char) : Bool :=
  let parts := Text.fields '.' cs
  parts.length == 4 && parts.all isFourthPart

/-- How many characters of some digits can stand for something else, so that digits remain around
each. -/
def spare (digits : List Char) : Nat := (digits.length - 1) / 2

/-- The digits of a text and the single characters between them, as runs of digits; none if other
characters come first, last or next to each other. -/
def digitRuns? : List Char → Option (List (List Char))
  | [] => some [[]]
  | c :: cs => do
    let runs ← digitRuns? cs
    if Text.isAsciiDigit c then
      match runs with
      | [] => return [[c]]
      | run :: rest => return (c :: run) :: rest
    else if runs.head?.any (·.isEmpty) then none
    else return [] :: runs

/-- Whether a host looks like a number of four parts: four runs of digits with one character between
each two, whatever it is. -/
def looksFourPart (cs : List Char) : Bool :=
  match digitRuns? cs with
  | some runs =>
    runs.all (fun run => !run.isEmpty) && runs.length ≤ 4 &&
      4 ≤ runs.length + (runs.map spare).foldl (· + ·) 0
  | none => false

/-! ### Eight parts -/

/-- Whether characters are a part of eight. -/
def isEighthPart (cs : List Char) : Bool :=
  !cs.isEmpty && cs.length ≤ 4 && cs.all fun c => (Text.hexValue? c).isSome

/-- Parts of eight, with two in place of a number of four at the end; none if it is no such
number. -/
def withoutFourPart? (parts : List (List Char)) : Option (List (List Char)) :=
  let last := parts.getLastD []
  if last.contains '.' then
    if isFourPart last then some (parts.dropLast ++ [['0'], ['0']]) else none
  else
    some parts

/-- Whether parts are those of a number of eight parts. An empty one among the others stands for
zeros; the first or the last one is empty only if it is next to that one. -/
def areEightParts : List (List Char) → Bool
  | [] => false
  | first :: rest =>
    let inner := rest.dropLast
    let last := rest.getLastD []
    match inner.filter (·.isEmpty) with
    | [] => rest.length == 7 && (first :: rest).all isEighthPart
    | [_] =>
      let before := inner.takeWhile fun p => !p.isEmpty
      let after := inner.drop (before.length + 1)
      let high := if first.isEmpty then before else first :: before
      let low := if last.isEmpty then after else after ++ [last]
      (!first.isEmpty || before.isEmpty) && (!last.isEmpty || after.isEmpty) &&
        high.length + low.length < 8 && high.all isEighthPart && low.all isEighthPart
    | _ => false

/-- Whether a host is a number of eight parts; after a percent sign may stand where it counts. -/
def isEightPart (cs : List Char) : Bool :=
  let number := cs.takeWhile (· != '%')
  let scope := cs.dropWhile (· != '%')
  (scope.isEmpty || (2 ≤ scope.length && !scope.tail.contains '%')) &&
    ((withoutFourPart? (Text.fields ':' number)).map areEightParts).getD false

end AgentBundles.Web
