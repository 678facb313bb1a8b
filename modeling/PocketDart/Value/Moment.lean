/-
  This file defines days, and moments of a day, with what
  can be wrong with one and how one is shown.

  Key definitions include:
    * `Moment`
    * `MomentFault`
    * `Moment.check`
    * `Moment.display`
    * `Moment.quoted`
-/

------------------------------------------------------------
-- Moments
------------------------------------------------------------

namespace PocketDart

/- A time of day. Its zone may be ahead by some minutes. -/
structure Clock where
  hour : Nat
  minute : Nat
  second : Nat
  microsecond : Nat
  ahead : Option Int
  deriving DecidableEq, Repr

/- A day, or a moment of it when there is a time. -/
structure Moment where
  year : Nat
  month : Nat
  day : Nat
  clock : Option Clock
  deriving DecidableEq, Repr

/- What can be wrong with a moment. -/
inductive MomentFault where
  | zone (ahead : Int)
  | year (year : Nat)
  | month
  | day
  | hour
  | minute
  | second
  deriving DecidableEq, Repr

namespace Moment

------------------------------------------------------------
-- Calendar
------------------------------------------------------------

/- Whether a year has a day more than others. -/
def isLeap (year : Nat) : Bool :=
  year % 4 == 0 && (year % 100 != 0 || year % 400 == 0)

def daysIn (year month : Nat) : Nat :=
  if month = 2 then if isLeap year then 29 else 28
  else if month ∈ [4, 6, 9, 11] then 30
  else 31

def minutesOfDay : Nat := 24 * 60

/- What is wrong with a time, where the zone is right. -/
def clockFault? (clock : Clock) : Option MomentFault :=
  if 24 ≤ clock.hour then some .hour
  else if 60 ≤ clock.minute then some .minute
  else if 60 ≤ clock.second then some .second
  else none

/- What is wrong with a zone: it is a day off or more. -/
def zoneFault? (clock : Clock) : Option MomentFault :=
  match clock.ahead with
  | some ahead =>
      if minutesOfDay ≤ ahead.natAbs then some (.zone ahead)
      else none
  | none => none

/- What is wrong with a day. -/
def dayFault? (moment : Moment) : Option MomentFault :=
  if moment.year = 0 then some (.year moment.year)
  else if moment.month = 0 ∨ 12 < moment.month then
    some .month
  else if moment.day = 0 ∨
      daysIn moment.year moment.month < moment.day then
    some .day
  else none

/- What is wrong with a moment, the zone first. -/
def fault? (moment : Moment) : Option MomentFault :=
  moment.clock.bind zoneFault? <|>
    moment.dayFault? <|>
    moment.clock.bind clockFault?

def check (moment : Moment) : Except MomentFault Moment :=
  match moment.fault? with
  | some fault => .error fault
  | none => .ok moment

------------------------------------------------------------
-- Shown Moments
------------------------------------------------------------

/- A number with zeros in front, up to a width. -/
def padded (width n : Nat) : String :=
  String.ofList ((toString n).toList.leftpad width '0')

/- A zone in hours and minutes, with a sign. -/
def displayZone (ahead : Int) : String :=
  (if ahead < 0 then "-" else "+") ++
    padded 2 (ahead.natAbs / 60) ++ ":" ++
    padded 2 (ahead.natAbs % 60)

/- A time of day; a part of a second only if there is one. -/
def displayClock (clock : Clock) : String :=
  padded 2 clock.hour ++ ":" ++ padded 2 clock.minute ++
    ":" ++ padded 2 clock.second ++
    (if clock.microsecond = 0 then ""
      else "." ++ padded 6 clock.microsecond) ++
    (clock.ahead.map displayZone).getD ""

/- A moment as messages show it. -/
def display (moment : Moment) : String :=
  padded 4 moment.year ++ "-" ++ padded 2 moment.month ++
    "-" ++ padded 2 moment.day ++
    (match moment.clock with
      | some clock => " " ++ displayClock clock
      | none => "")

/-
  A span of minutes in whole days, rounded down, and the
  seconds after them; what is zero is left out.
-/
def quotedSpan (minutes : Int) : String :=
  let days := minutes / minutesOfDay
  let seconds := minutes % minutesOfDay * 60
  "datetime.timedelta(" ++
    ", ".intercalate
      ((if days = 0 then [] else ["days=" ++ toString days]) ++
        if seconds = 0 then []
        else ["seconds=" ++ toString seconds]) ++ ")"

/- A zone inside another value. -/
def quotedZone (ahead : Int) : String :=
  if ahead = 0 then "datetime.timezone.utc"
  else "datetime.timezone(" ++ quotedSpan ahead ++ ")"

/- The numbers of a time; zeros at the end are left out. -/
def clockNumbers (clock : Clock) : List Nat :=
  [clock.hour, clock.minute] ++
    if clock.microsecond ≠ 0 then
      [clock.second, clock.microsecond]
    else if clock.second ≠ 0 then [clock.second]
    else []

/- A moment inside another value. -/
def quoted (moment : Moment) : String :=
  let day := [moment.year, moment.month, moment.day]
  let parts (numbers : List Nat) :=
    ", ".intercalate (numbers.map toString)
  match moment.clock with
  | none => "datetime.date(" ++ parts day ++ ")"
  | some clock =>
      "datetime.datetime(" ++
        parts (day ++ clockNumbers clock) ++
        (match clock.ahead with
          | some ahead => ", tzinfo=" ++ quotedZone ahead
          | none => "") ++ ")"

end Moment

def MomentFault.message : MomentFault → String
  | .zone ahead =>
      "offset must be a timedelta strictly between " ++
        "-timedelta(hours=24) and timedelta(hours=24), not " ++
        Moment.quotedSpan ahead ++ "."
  | .year n => "year " ++ toString n ++ " is out of range"
  | .month => "month must be in 1..12"
  | .day => "day is out of range for month"
  | .hour => "hour must be in 0..23"
  | .minute => "minute must be in 0..59"
  | .second => "second must be in 0..59"

end PocketDart
