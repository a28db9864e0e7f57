import ScanLauncher.Text.Digit

/-!
Calendar dates and moments, as configuration files may hold them.
-/
namespace ScanLauncher

/-- A day of the Gregorian calendar. -/
structure Date where
  year : Nat
  month : Nat
  day : Nat
deriving DecidableEq, Repr

/-- A date with a time of day; `offset` is its distance from universal time in minutes, if it has
one. -/
structure Moment where
  date : Date
  hour : Nat
  minute : Nat
  second : Nat
  micro : Nat
  offset : Option Int
deriving DecidableEq, Repr

namespace Date

/-- Whether a year has a 29th of February. -/
def isLeap (year : Nat) : Bool := year % 4 == 0 && (year % 100 != 0 || year % 400 == 0)

/-- The number of days of a month. -/
def monthLength (year month : Nat) : Nat :=
  if month == 2 then (if isLeap year then 29 else 28)
  else if month == 4 || month == 6 || month == 9 || month == 11 then 30
  else 31

/-- Whether a date exists: years have at most four digits. -/
def isValid (d : Date) : Bool :=
  1 ≤ d.year && d.year ≤ 9999 && 1 ≤ d.month && d.month ≤ 12 && 1 ≤ d.day &&
    d.day ≤ monthLength d.year d.month

/-- A date in the form year-month-day. -/
def text (d : Date) : String :=
  Text.zeroPadded 4 d.year ++ "-" ++ Text.zeroPadded 2 d.month ++ "-" ++ Text.zeroPadded 2 d.day

/-- The number of days before a date, counted from the start of year 1. -/
def dayNumber (d : Date) : Nat :=
  let y := d.year - 1
  let before := 365 * y + y / 4 - y / 100 + y / 400
  (List.range (d.month - 1)).foldl (fun n m => n + monthLength d.year (m + 1)) (before + d.day)

/-- A date as a constructor call inside a larger value. -/
def constructorText (d : Date) : String :=
  "datetime.date(" ++ Text.decimal d.year ++ ", " ++ Text.decimal d.month ++ ", " ++
    Text.decimal d.day ++ ")"

end Date

namespace Moment

/-- Whether a moment exists: its offset is less than a day. -/
def isValid (m : Moment) : Bool :=
  m.date.isValid && m.hour < 24 && m.minute < 60 && m.second < 60 && m.micro < 1000000 &&
    match m.offset with
    | some minutes => -1440 < minutes && minutes < 1440
    | none => true

/-- The offset from universal time: a sign, hours and minutes. -/
def offsetText : Option Int → String
  | none => ""
  | some minutes =>
    (if minutes < 0 then "-" else "+") ++ Text.zeroPadded 2 (minutes.natAbs / 60) ++ ":" ++
      Text.zeroPadded 2 (minutes.natAbs % 60)

/-- A moment, with `divider` between date and time; the microseconds appear if there are any. -/
def text (divider : String) (m : Moment) : String :=
  m.date.text ++ divider ++ Text.zeroPadded 2 m.hour ++ ":" ++ Text.zeroPadded 2 m.minute ++ ":" ++
    Text.zeroPadded 2 m.second ++ (if m.micro == 0 then "" else "." ++ Text.zeroPadded 6 m.micro) ++
    offsetText m.offset

/-- The microseconds from the start of year 1 to a moment, at its own offset. -/
def localMicros (m : Moment) : Int :=
  (((m.date.dayNumber : Int) * 24 + m.hour) * 60 + m.minute) * 60000000 + m.second * 1000000 +
    m.micro

/-- Whether two moments are the same: both without offset and equal, or both with one and at the
same instant. -/
def same (a b : Moment) : Bool :=
  match a.offset, b.offset with
  | none, none => a.localMicros == b.localMicros
  | some p, some q => a.localMicros - p * 60000000 == b.localMicros - q * 60000000
  | _, _ => false

/-- A zone as a constructor call: days and seconds, the seconds never negative. -/
def zoneText (minutes : Int) : String :=
  if minutes == 0 then "datetime.timezone.utc"
  else
    let seconds := minutes * 60
    let days := seconds.fdiv 86400
    let rest := seconds.fmod 86400
    "datetime.timezone(datetime.timedelta(" ++
      (if days == 0 then "" else "days=" ++ Text.decimalInt days ++
        (if rest == 0 then "" else ", ")) ++
      (if rest == 0 then "" else "seconds=" ++ Text.decimalInt rest) ++ "))"

/-- A moment as a constructor call inside a larger value; seconds and microseconds appear as far as
they are needed. -/
def constructorText (m : Moment) : String :=
  let fields := [m.date.year, m.date.month, m.date.day, m.hour, m.minute] ++
    (if m.micro != 0 then [m.second, m.micro] else if m.second != 0 then [m.second] else [])
  "datetime.datetime(" ++ String.intercalate ", " (fields.map Text.decimal) ++
    (match m.offset with
      | some minutes => ", tzinfo=" ++ zoneText minutes
      | none => "") ++ ")"

end Moment

end ScanLauncher
