import Stencil.Text.Basic

/-!
# Days and durations

A date is a day of the calendar that is in use today, extended to all years from 1 on. A duration is
what lies between two moments: a number of days that can be negative, and seconds and microseconds
that never make up a day.
-/

namespace Stencil

/-- A number with zeros in front up to a width. -/
def Text.padded (width number : Nat) : Text :=
  let digits := Text.ofNat number
  List.replicate (width - digits.length) (.char '0') ++ digits

/-- A day of the calendar. -/
structure Date where
  year : Nat
  month : Nat
  day : Nat
  deriving DecidableEq, Repr

namespace Date

/-- A date as year, month and day with hyphens between them. -/
def text (date : Date) : Text :=
  Text.padded 4 date.year ++ .of "-" ++ Text.padded 2 date.month ++ .of "-" ++
    Text.padded 2 date.day

/-- Whether a year has a day more. -/
def isLeap (year : Nat) : Bool :=
  year % 4 == 0 && (year % 100 != 0 || year % 400 == 0)

/-- The number of days of a month. -/
def daysIn (year month : Nat) : Nat :=
  if month = 2 then (if isLeap year then 29 else 28)
  else if month = 4 ∨ month = 6 ∨ month = 9 ∨ month = 11 then 30
  else 31

/-- The date with the given parts, if the calendar has it. -/
def of? (year month day : Nat) : Option Date :=
  if 1 ≤ year ∧ 1 ≤ month ∧ month ≤ 12 ∧ 1 ≤ day ∧ day ≤ daysIn year month then
    some ⟨year, month, day⟩
  else none

/-- The first day of the calendar. -/
def least : Date :=
  ⟨1, 1, 1⟩

/-- The last day whose year has four digits. -/
def greatest : Date :=
  ⟨9999, 12, 31⟩

end Date

/-- What lies between two moments. -/
structure Duration where
  days : Int
  /-- The seconds beyond the days, less than a day of them. -/
  seconds : Nat
  /-- The microseconds beyond the seconds, less than a second of them. -/
  microseconds : Nat
  deriving DecidableEq, Repr

namespace Duration

/-- The distance between two days that follow each other. -/
def day : Duration :=
  ⟨1, 0, 0⟩

/-- The least difference between durations. -/
def microsecond : Duration :=
  ⟨0, 0, 1⟩

/-- The greatest duration. -/
def greatest : Duration :=
  ⟨999999999, 86399, 999999⟩

/-- The least duration. -/
def least : Duration :=
  ⟨-999999999, 0, 0⟩

/-- Whether a duration is none at all. -/
def isZero (duration : Duration) : Bool :=
  duration.days == 0 && duration.seconds == 0 && duration.microseconds == 0

/-- A duration as days, if there are any, and time of day, with microseconds if there are any. -/
def text (duration : Duration) : Text :=
  let minutes := duration.seconds / 60
  let days : Text :=
    if duration.days = 0 then []
    else Text.ofInt duration.days ++
      .of (if duration.days.natAbs = 1 then " day, " else " days, ")
  let fraction : Text :=
    if duration.microseconds = 0 then [] else .of "." ++ Text.padded 6 duration.microseconds
  days ++ Text.ofNat (minutes / 60) ++ .of ":" ++ Text.padded 2 (minutes % 60) ++ .of ":" ++
    Text.padded 2 (duration.seconds % 60) ++ fraction

end Duration

end Stencil
