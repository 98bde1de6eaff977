/-!
# Dates and times

Calendar dates of the years 1 to 9999 and moments on them, with microseconds and an
optional offset from universal time.  Parts out of range are refused with the text that
names the part.
-/

namespace TypeDisplay

structure Date where
  year : Nat
  month : Nat
  day : Nat
  deriving DecidableEq, Repr

/-- A moment; the offset from universal time is in minutes. -/
structure Moment where
  date : Date
  hour : Nat
  minute : Nat
  second : Nat
  microsecond : Nat
  offset : Option Int
  deriving DecidableEq, Repr

/-- The part of a date or time that is out of range. -/
inductive CalendarError where
  | year (year : Nat)
  | month | day | hour | minute | second
  /-- The offset, in minutes, is a whole day or more. -/
  | offset (minutes : Int)
  deriving DecidableEq, Repr

namespace Calendar

def isLeap (year : Nat) : Bool :=
  year % 4 == 0 && (year % 100 != 0 || year % 400 == 0)

def daysInMonth (year month : Nat) : Nat :=
  if month = 2 then if isLeap year then 29 else 28
  else if [4, 6, 9, 11].contains month then 30
  else 31

/-- The number of days before the first of January of a year. -/
def daysBeforeYear (year : Nat) : Nat :=
  let y := year - 1
  y * 365 + y / 4 - y / 100 + y / 400

/-- The number of a date, where the first of January of the year 1 is day 1. -/
def dayNumber (d : Date) : Nat :=
  (List.range (d.month - 1)).foldl (fun n i ↦ n + daysInMonth d.year (i + 1))
    (daysBeforeYear d.year) + d.day

/-- A number in decimal, filled with zeros on the left. -/
def padded (width n : Nat) : String :=
  let digits := Nat.toDigits 10 n
  String.ofList (List.replicate (width - digits.length) '0' ++ digits)

/-- A span of time as days and seconds, the seconds never negative. -/
def spanLiteral (minutes : Int) : String :=
  let seconds := minutes * 60
  let days := Int.fdiv seconds 86400
  let rest := Int.fmod seconds 86400
  let parts :=
    (if days = 0 then [] else ["days=" ++ toString days]) ++
      (if rest = 0 then [] else ["seconds=" ++ toString rest])
  "datetime.timedelta(" ++ (if parts.isEmpty then "0" else ", ".intercalate parts) ++ ")"

end Calendar

def CalendarError.message : CalendarError → String
  | year n => "year " ++ toString n ++ " is out of range"
  | month => "month must be in 1..12"
  | day => "day is out of range for month"
  | hour => "hour must be in 0..23"
  | minute => "minute must be in 0..59"
  | second => "second must be in 0..59"
  | offset minutes =>
      "offset must be a timedelta strictly between -timedelta(hours=24) and " ++
        "timedelta(hours=24), not " ++ Calendar.spanLiteral minutes ++ "."

namespace Date

def ofParts (year month day : Nat) : Except CalendarError Date :=
  if year < 1 ∨ 9999 < year then .error (.year year)
  else if month < 1 ∨ 12 < month then .error .month
  else if day < 1 ∨ Calendar.daysInMonth year month < day then .error .day
  else .ok ⟨year, month, day⟩

def text (d : Date) : String :=
  Calendar.padded 4 d.year ++ "-" ++ Calendar.padded 2 d.month ++ "-" ++
    Calendar.padded 2 d.day

def literal (d : Date) : String :=
  "datetime.date(" ++ ", ".intercalate ([d.year, d.month, d.day].map toString) ++ ")"

end Date

namespace Moment

/-- The offset is checked first, then the date, then the time of day. -/
def ofParts (year month day hour minute second microsecond : Nat) (offset : Option Int) :
    Except CalendarError Moment :=
  match offset.filter fun minutes ↦ 1440 ≤ minutes.natAbs with
  | some minutes => .error (.offset minutes)
  | none =>
      (Date.ofParts year month day).bind fun date ↦
        if 23 < hour then .error .hour
        else if 59 < minute then .error .minute
        else if 59 < second then .error .second
        else .ok ⟨date, hour, minute, second, microsecond, offset⟩

def offsetText (minutes : Int) : String :=
  (if minutes < 0 then "-" else "+") ++ Calendar.padded 2 (minutes.natAbs / 60) ++ ":" ++
    Calendar.padded 2 (minutes.natAbs % 60)

def text (m : Moment) : String :=
  m.date.text ++ " " ++ Calendar.padded 2 m.hour ++ ":" ++ Calendar.padded 2 m.minute ++
    ":" ++ Calendar.padded 2 m.second ++
    (if m.microsecond = 0 then "" else "." ++ Calendar.padded 6 m.microsecond) ++
    (m.offset.map offsetText).getD ""

def offsetLiteral (minutes : Int) : String :=
  if minutes = 0 then "tzinfo=datetime.timezone.utc"
  else "tzinfo=datetime.timezone(" ++ Calendar.spanLiteral minutes ++ ")"

def literal (m : Moment) : String :=
  let clock :=
    if m.microsecond ≠ 0 then [m.second, m.microsecond]
    else if m.second ≠ 0 then [m.second]
    else []
  let parts := [m.date.year, m.date.month, m.date.day, m.hour, m.minute] ++ clock
  "datetime.datetime(" ++
    ", ".intercalate (parts.map toString ++ (m.offset.map offsetLiteral).toList) ++ ")"

/-- Microseconds since the start of the year 1, in universal time if the offset is known. -/
def instant (m : Moment) : Int :=
  let minutes : Int := (Calendar.dayNumber m.date * 1440 + m.hour * 60 + m.minute : Nat)
  ((minutes - m.offset.getD 0) * 60 + m.second) * 1000000 + m.microsecond

/-- Two moments are the same when both or neither have an offset and the instants agree. -/
def same (m n : Moment) : Bool :=
  m.offset.isSome == n.offset.isSome && m.instant == n.instant

end Moment
end TypeDisplay
