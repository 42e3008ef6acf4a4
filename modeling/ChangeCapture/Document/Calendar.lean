import ChangeCapture.Text.Decimal

namespace ChangeCapture

structure Date where
  year : Nat
  month : Nat
  day : Nat
  deriving DecidableEq, Repr

structure Moment where
  date : Date
  hour : Nat
  minute : Nat
  second : Nat
  microsecond : Nat
  offset : Option Int
  deriving DecidableEq, Repr

inductive CalendarFault where
  | year (value : Nat)
  | month
  | day
  | hour
  | minute
  | second
  | offset (seconds : Int)
  deriving DecidableEq, Repr

namespace Date

def isLeap (year : Nat) : Bool := year % 4 = 0 && (year % 100 ≠ 0 || year % 400 = 0)

def monthLength (year month : Nat) : Nat :=
  if month = 2 then (if isLeap year then 29 else 28)
  else if month = 4 ∨ month = 6 ∨ month = 9 ∨ month = 11 then 30
  else 31

def make (year month day : Nat) : Except CalendarFault Date :=
  if year < 1 ∨ 9999 < year then .error (.year year)
  else if month < 1 ∨ 12 < month then .error .month
  else if day < 1 ∨ monthLength year month < day then .error .day
  else .ok ⟨year, month, day⟩

def iso (date : Date) : Text :=
  Text.padded 4 date.year ++ "-" ++ Text.padded 2 date.month ++ "-" ++ Text.padded 2 date.day

def dayNumber (date : Date) : Int :=
  let year : Int := if date.month ≤ 2 then date.year - 1 else date.year
  let month : Int := if date.month ≤ 2 then date.month + 9 else date.month - 3
  year * 365 + year / 4 - year / 100 + year / 400 + (153 * month + 2) / 5 + date.day - 1

end Date

namespace Moment

def make (date : Date) (hour minute second microsecond : Nat) (offset : Option Int) :
    Except CalendarFault Moment :=
  if 23 < hour then .error .hour
  else if 59 < minute then .error .minute
  else if 59 < second then .error .second
  else .ok ⟨date, hour, minute, second, microsecond, offset⟩

def isoOffset (seconds : Int) : Text :=
  let sign : Text := if seconds < 0 then "-" else "+"
  let minutes := seconds.natAbs / 60
  sign ++ Text.padded 2 (minutes / 60) ++ ":" ++ Text.padded 2 (minutes % 60)

def iso (moment : Moment) : Text :=
  let fraction : Text :=
    if moment.microsecond = 0 then "" else "." ++ Text.padded 6 moment.microsecond
  let zone : Text := match moment.offset with
    | some seconds => isoOffset seconds
    | none => ""
  moment.date.iso ++ "T" ++ Text.padded 2 moment.hour ++ ":" ++ Text.padded 2 moment.minute ++ ":" ++
    Text.padded 2 moment.second ++ fraction ++ zone

def instant (moment : Moment) : Int :=
  let seconds : Int := moment.date.dayNumber * 86400 + moment.hour * 3600 + moment.minute * 60 +
    moment.second - moment.offset.getD 0
  seconds * 1000000 + moment.microsecond

-- Moments with offsets are the same when their instants are; without, when all
-- their parts are. One of each kind never agree.
def same (a b : Moment) : Bool := a.offset.isSome == b.offset.isSome && a.instant == b.instant

end Moment

def spanParts (seconds : Int) : Text :=
  let days := seconds / 86400
  let rest := seconds % 86400
  let inDays : Text := "days=" ++ Text.ofInt days
  let inSeconds : Text := "seconds=" ++ Text.ofInt rest
  let parts : Text :=
    if days = 0 then (if rest = 0 then "0" else inSeconds)
    else if rest = 0 then inDays else inDays ++ ", " ++ inSeconds
  "datetime.timedelta(" ++ parts ++ ")"

def CalendarFault.message : CalendarFault → Text
  | .year value => "year " ++ Text.ofNat value ++ " is out of range"
  | .month => "month must be in 1..12"
  | .day => "day is out of range for month"
  | .hour => "hour must be in 0..23"
  | .minute => "minute must be in 0..59"
  | .second => "second must be in 0..59"
  | .offset seconds =>
    "offset must be a timedelta strictly between -timedelta(hours=24) and timedelta(hours=24), not " ++
      spanParts seconds ++ "."

end ChangeCapture
