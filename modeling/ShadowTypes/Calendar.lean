/-!
# Dates and moments

A date is a day of the proleptic Gregorian calendar, years 1 to 9999. A moment is a date with a
time of day, to the microsecond, and an optional offset from universal time. Both are checked when
they are built; the checks come in the order year, month, day, hour, minute, second.
-/

namespace ShadowTypes

structure Date where
  year : Nat
  month : Nat
  day : Nat
  deriving DecidableEq, Repr, Inhabited

/-- A day with a time of day. -/
structure Moment where
  date : Date
  hour : Nat
  minute : Nat
  second : Nat
  microsecond : Nat
  /-- Minutes east of universal time. -/
  offset : Option Int
  deriving DecidableEq, Repr, Inhabited

inductive CalendarFault
  | year (n : Nat)
  | month
  | day
  | hour
  | minute
  | second
  | offset (minutes : Int)
  deriving DecidableEq, Repr

/-- `n` in decimal, with leading zeros up to `width` digits. -/
def padded (width n : Nat) : String :=
  let ds := (Nat.repr n).toList
  String.ofList (List.replicate (width - ds.length) '0' ++ ds)

namespace Date

def isLeap (year : Nat) : Bool := year % 4 == 0 && (year % 100 != 0 || year % 400 == 0)

def monthLength (year : Nat) : Nat → Nat
  | 2 => if isLeap year then 29 else 28
  | 4 | 6 | 9 | 11 => 30
  | _ => 31

def check (year month day : Nat) : Except CalendarFault Date :=
  if year < 1 || 9999 < year then .error (.year year)
  else if month < 1 || 12 < month then .error .month
  else if day < 1 || monthLength year month < day then .error .day
  else .ok ⟨year, month, day⟩

/-- Year, month and day, joined by hyphens. -/
def text (d : Date) : String :=
  padded 4 d.year ++ "-" ++ padded 2 d.month ++ "-" ++ padded 2 d.day

def display (d : Date) : String :=
  "datetime.date(" ++ Nat.repr d.year ++ ", " ++ Nat.repr d.month ++ ", " ++ Nat.repr d.day ++ ")"

/-- Days since the first of January of the year 1. -/
def dayNumber (d : Date) : Nat :=
  let y := d.year - 1
  let months := (List.range (d.month - 1)).foldl (fun n m => n + monthLength d.year (m + 1)) 0
  y * 365 + y / 4 - y / 100 + y / 400 + months + (d.day - 1)

end Date

/-- A span of time as an expression: days, and seconds below a day. -/
def spanDisplay (minutes : Int) : String :=
  let days := Int.fdiv minutes 1440
  let seconds := Int.fmod minutes 1440 * 60
  let parts := (if days = 0 then [] else ["days=" ++ Int.repr days]) ++
    (if seconds = 0 then [] else ["seconds=" ++ Int.repr seconds])
  "datetime.timedelta(" ++ (if parts.isEmpty then "0" else ", ".intercalate parts) ++ ")"

def CalendarFault.message : CalendarFault → String
  | .year n => "year " ++ Nat.repr n ++ " is out of range"
  | .month => "month must be in 1..12"
  | .day => "day is out of range for month"
  | .hour => "hour must be in 0..23"
  | .minute => "minute must be in 0..59"
  | .second => "second must be in 0..59"
  | .offset minutes =>
    "offset must be a timedelta strictly between -timedelta(hours=24) and timedelta(hours=24), " ++
      "not " ++ spanDisplay minutes ++ "."

namespace Moment

/-- The moment, if the calendar has it; an offset is less than a day either way. -/
def check (year month day hour minute second microsecond : Nat) (offset : Option Int) :
    Except CalendarFault Moment := do
  if let some o := offset then
    if o ≤ -1440 || 1440 ≤ o then throw (.offset o)
  let date ← Date.check year month day
  if 23 < hour then throw .hour
  if 59 < minute then throw .minute
  if 59 < second then throw .second
  return ⟨date, hour, minute, second, microsecond, offset⟩

def offsetText (minutes : Int) : String :=
  (if minutes < 0 then "-" else "+") ++ padded 2 (minutes.natAbs / 60) ++ ":" ++
    padded 2 (minutes.natAbs % 60)

/-- Date and time of day with `between` between them; microseconds only if there are any. -/
def textWith (between : String) (m : Moment) : String :=
  m.date.text ++ between ++ padded 2 m.hour ++ ":" ++ padded 2 m.minute ++ ":" ++
    padded 2 m.second ++
    (if m.microsecond = 0 then "" else "." ++ padded 6 m.microsecond) ++
    (match m.offset with
      | none => ""
      | some o => offsetText o)

/-- Date and time of day, joined by a `T`. -/
def text (m : Moment) : String := m.textWith "T"

/-- The moment as an expression; a zero at the end of the time of day is left out. -/
def display (m : Moment) : String :=
  let fraction := if m.microsecond = 0 then [] else [m.microsecond]
  let seconds := if m.second = 0 && fraction.isEmpty then [] else [m.second]
  let fields := [m.date.year, m.date.month, m.date.day, m.hour, m.minute] ++ seconds ++ fraction
  let zone := match m.offset with
    | none => ""
    | some 0 => ", tzinfo=datetime.timezone.utc"
    | some o => ", tzinfo=datetime.timezone(" ++ spanDisplay o ++ ")"
  "datetime.datetime(" ++ ", ".intercalate (fields.map Nat.repr) ++ zone ++ ")"

/-- Microseconds on the clock since the first of January of the year 1. -/
def clock (m : Moment) : Int :=
  Int.ofNat ((((m.date.dayNumber * 24 + m.hour) * 60 + m.minute) * 60 + m.second) * 1000000 +
    m.microsecond)

/-- Whether two moments are the same: with offsets by the instant, without by the clock. -/
def sameInstant (a b : Moment) : Bool :=
  match a.offset, b.offset with
  | none, none => a.clock == b.clock
  | some o, some p => a.clock - o * 60000000 == b.clock - p * 60000000
  | _, _ => false

end Moment

end ShadowTypes
