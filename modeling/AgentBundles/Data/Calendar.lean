import AgentBundles.Number.Layout

/-!
# Dates and instants

Days of the proleptic Gregorian calendar in the years 1 to 9999, and times of day on them, to the
microsecond, with or without an offset from universal time.
-/

namespace AgentBundles

/-- A calendar day. -/
structure Date where
  year : Nat
  month : Nat
  day : Nat
  deriving DecidableEq, Repr, Inhabited

/-- A time on a calendar day; the offset from universal time is in minutes. -/
structure Instant where
  date : Date
  hour : Nat
  minute : Nat
  second : Nat
  microsecond : Nat
  offset : Option Int
  deriving DecidableEq, Repr, Inhabited

/-- What keeps numbers from being a date, a time of day or an offset. -/
inductive CalendarFault where
  | year (n : Nat)
  | month
  | day
  | hour
  | minute
  | second
  /-- An offset of a day or more, in minutes. -/
  | offset (minutes : Int)
  deriving DecidableEq, Repr

namespace Date

/-- Whether a year has a 29th of February. -/
def isLeapYear (y : Nat) : Bool :=
  y % 4 == 0 && (y % 100 != 0 || y % 400 == 0)

/-- The count of days of a month. -/
def daysInMonth (y m : Nat) : Nat :=
  if m = 2 then (if isLeapYear y then 29 else 28)
  else if m = 4 ∨ m = 6 ∨ m = 9 ∨ m = 11 then 30
  else 31

/-- The day with the given numbers, if the calendar has it. -/
def ofNumbers (y m d : Nat) : Except CalendarFault Date :=
  if y < 1 ∨ 9999 < y then .error (.year y)
  else if m < 1 ∨ 12 < m then .error .month
  else if d < 1 ∨ daysInMonth y m < d then .error .day
  else .ok ⟨y, m, d⟩

/-- The text `2024-01-31` of a day. -/
def text (d : Date) : String :=
  paddedDigits 4 d.year ++ "-" ++ paddedDigits 2 d.month ++ "-" ++ paddedDigits 2 d.day

/-- The count of days from the first day of the year 1. -/
def number (d : Date) : Int :=
  let y := d.year - 1
  let before := (List.range (d.month - 1)).foldl (fun days m => days + daysInMonth d.year (m + 1)) 0
  ((y * 365 + y / 4 - y / 100 + y / 400 + before + d.day : Nat) : Int)

end Date

namespace Instant

/-- The time with the given numbers on a day; the offset is judged first. -/
def ofNumbers (y m d h min s us : Nat) (offset : Option Int) : Except CalendarFault Instant := do
  match offset with
  | some o => if 1440 ≤ o.natAbs then throw (.offset o)
  | none => pure ()
  let date ← Date.ofNumbers y m d
  if 24 ≤ h then throw .hour
  if 60 ≤ min then throw .minute
  if 60 ≤ s then throw .second
  return ⟨date, h, min, s, us, offset⟩

/-- The text `+01:00` of an offset. -/
def offsetText (minutes : Int) : String :=
  let n := minutes.natAbs
  (if minutes < 0 then "-" else "+") ++ paddedDigits 2 (n / 60) ++ ":" ++ paddedDigits 2 (n % 60)

/-- The text of a time with `sep` between the day and the time of day. -/
def text (sep : String) (t : Instant) : String :=
  t.date.text ++ sep ++ paddedDigits 2 t.hour ++ ":" ++ paddedDigits 2 t.minute ++ ":" ++
    paddedDigits 2 t.second ++
    (if t.microsecond = 0 then "" else "." ++ paddedDigits 6 t.microsecond) ++
    (match t.offset with | none => "" | some o => offsetText o)

/-- The microseconds from the start of the year 1, by the clock of the instant less its offset. -/
def number (t : Instant) : Int :=
  ((((t.date.number * 24 + t.hour) * 60 + t.minute - t.offset.getD 0) * 60 + t.second) * 1000000) +
    t.microsecond

/-- Whether two instants are the same: of the same kind, and at the same time. -/
def same (t u : Instant) : Bool :=
  t.offset.isSome == u.offset.isSome && t.number == u.number

end Instant

/-- The text of a span of minutes, in days and seconds. -/
def spanText (minutes : Int) : String :=
  let days := Int.fdiv minutes 1440
  let seconds := Int.fmod minutes 1440 * 60
  let parts := (if days = 0 then [] else ["days=" ++ intText days]) ++
    (if seconds = 0 then [] else ["seconds=" ++ intText seconds])
  "datetime.timedelta(" ++ String.intercalate ", " (if parts.isEmpty then ["0"] else parts) ++ ")"

/-- What a message says of numbers that are no date or time. -/
def CalendarFault.message : CalendarFault → String
  | .year n => "year " ++ natText n ++ " is out of range"
  | .month => "month must be in 1..12"
  | .day => "day is out of range for month"
  | .hour => "hour must be in 0..23"
  | .minute => "minute must be in 0..59"
  | .second => "second must be in 0..59"
  | .offset minutes =>
    "offset must be a timedelta strictly between -timedelta(hours=24) and " ++
      "timedelta(hours=24), not " ++ spanText minutes ++ "."

end AgentBundles
