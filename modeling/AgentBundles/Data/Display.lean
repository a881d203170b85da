import AgentBundles.Data.Value

/-!
# Values in messages

Two forms of a value: `display` quotes texts and names the parts of dates, `plainText` gives texts
and dates as they are.
-/

namespace AgentBundles

/-- The text of an offset from universal time. -/
def offsetDisplay (minutes : Int) : String :=
  if minutes = 0 then "datetime.timezone.utc" else "datetime.timezone(" ++ spanText minutes ++ ")"

/-- A date by its numbers. -/
def Date.display (d : Date) : String :=
  "datetime.date(" ++ Text.join ", " ([d.year, d.month, d.day].map natText) ++ ")"

/-- An instant by its numbers; zero seconds and microseconds are left out at the end. -/
def Instant.display (t : Instant) : String :=
  let seconds :=
    if t.microsecond ≠ 0 then [t.second, t.microsecond] else if t.second ≠ 0 then [t.second] else []
  let numbers := [t.date.year, t.date.month, t.date.day, t.hour, t.minute] ++ seconds
  let offset := match t.offset with | none => [] | some o => ["tzinfo=" ++ offsetDisplay o]
  "datetime.datetime(" ++ Text.join ", " (numbers.map natText ++ offset) ++ ")"

namespace Value

mutual

/-- A value inside collections as messages quote it; `outer` holds what the collections show in
place of themselves, the innermost one first. -/
def displayIn (outer : List String) : Value → String
  | .null => "None"
  | .bool true => "True"
  | .bool false => "False"
  | .int n => intText n
  | .float x => x.text .plain
  | .str s => Text.quoted s
  | .date d => d.display
  | .instant t => t.display
  | .bytes bs => Text.quotedBytes bs
  | .list items => "[" ++ Text.join ", " (displayAll ("[...]" :: outer) items) ++ "]"
  | .pair a b =>
    "(" ++ displayIn ("(...)" :: outer) a ++ ", " ++ displayIn ("(...)" :: outer) b ++ ")"
  | .map entries =>
    "\x7b" ++ Text.join ", " (displayEntries ("\x7b...\x7d" :: outer) entries) ++ "\x7d"
  | .set [] => "set()"
  | .set members => "\x7b" ++ Text.join ", " (displayAll outer members) ++ "\x7d"
  | .enclosing level => (outer[level]?).getD ""

/-- The items of a list as messages quote them. -/
def displayAll (outer : List String) : List Value → List String
  | [] => []
  | v :: vs => displayIn outer v :: displayAll outer vs

/-- The entries of a mapping as messages quote them. -/
def displayEntries (outer : List String) : List (Value × Value) → List String
  | [] => []
  | (k, v) :: rest =>
    (displayIn outer k ++ ": " ++ displayIn outer v) :: displayEntries outer rest

end

/-- A value as messages quote it. -/
def display (v : Value) : String := displayIn [] v

mutual

/-- Whether no integer in a value has too many digits to be quoted. -/
def isShowable : Value → Bool
  | .int n => hasDecimalText n
  | .list items => areShowable items
  | .pair a b => isShowable a && isShowable b
  | .map entries => entriesShowable entries
  | .set members => areShowable members
  | _ => true

/-- Whether no integer in some values has too many digits to be quoted. -/
def areShowable : List Value → Bool
  | [] => true
  | v :: vs => isShowable v && areShowable vs

/-- Whether no integer in some entries has too many digits to be quoted. -/
def entriesShowable : List (Value × Value) → Bool
  | [] => true
  | (k, v) :: rest => isShowable k && isShowable v && entriesShowable rest

end

/-- A value as it stands inside a text. -/
def plainText : Value → String
  | .str s => s
  | .date d => d.text
  | .instant t => t.text " "
  | v => v.display

end Value

/-- A list of texts as messages quote it. -/
def displayStrings (ss : List String) : String :=
  "[" ++ Text.join ", " (ss.map Text.quoted) ++ "]"

end AgentBundles
