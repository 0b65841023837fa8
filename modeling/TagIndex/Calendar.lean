namespace TagIndex

structure Date where
  year : Nat
  month : Nat
  day : Nat
deriving DecidableEq, Repr

structure Moment where
  date : Date
  hour : Nat
  minute : Nat
  second : Nat
  microsecond : Nat := 0
  offset : Option Int := none
deriving DecidableEq, Repr

/-- Why numbers do not make a moment. An offset must be smaller than a day. -/
inductive NoMoment where
  | year (number : Nat)
  | month
  | day
  | hour
  | minute
  | second
  | offset (minutes : Int)
deriving DecidableEq, Repr

/-- `n` in decimal, with zeros in front up to `width`. -/
def padded (width n : Nat) : String :=
  let digits := Nat.toDigits 10 n
  String.ofList (List.replicate (width - digits.length) '0' ++ digits)

namespace Date

def isLeapYear (year : Nat) : Bool := year % 4 = 0 && (year % 100 ≠ 0 || year % 400 = 0)

def daysInMonth (year month : Nat) : Nat :=
  if month = 2 then (if isLeapYear year then 29 else 28)
  else if [4, 6, 9, 11].contains month then 30
  else 31

/-- The day of some numbers, if there is one. The calendar begins with the year one. -/
def check (year month day : Nat) : Except NoMoment Date :=
  if year = 0 then .error (.year year)
  else if month = 0 || 12 < month then .error .month
  else if day = 0 || daysInMonth year month < day then .error .day
  else .ok ⟨year, month, day⟩

def ordinal (date : Date) : Nat :=
  let past := date.year - 1
  let before := (List.range date.month).tail.foldl (fun n m => n + daysInMonth date.year m) 0
  365 * past + past / 4 - past / 100 + past / 400 + before + date.day

def shown (date : Date) : String :=
  padded 4 date.year ++ "-" ++ padded 2 date.month ++ "-" ++ padded 2 date.day

def numbers (date : Date) : List Nat := [date.year, date.month, date.day]

def quoted (date : Date) : String :=
  "datetime.date(" ++ ", ".intercalate (date.numbers.map toString) ++ ")"

end Date

/-- An offset of some minutes as a duration: whole days, rounded down, and the seconds left. -/
def quotedDuration (minutes : Int) : String :=
  let days := Int.fdiv minutes 1440
  let seconds := Int.fmod minutes 1440 * 60
  let parts := (if days = 0 then [] else ["days=" ++ toString days]) ++
    (if seconds = 0 then [] else ["seconds=" ++ toString seconds])
  "datetime.timedelta(" ++ (if parts.isEmpty then "0" else ", ".intercalate parts) ++ ")"

def NoMoment.message : NoMoment → String
  | year number => "year " ++ toString number ++ " is out of range"
  | month => "month must be in 1..12"
  | day => "day is out of range for month"
  | hour => "hour must be in 0..23"
  | minute => "minute must be in 0..59"
  | second => "second must be in 0..59"
  | offset minutes =>
    "offset must be a timedelta strictly between -timedelta(hours=24) and timedelta(hours=24), " ++
      "not " ++ quotedDuration minutes ++ "."

namespace Moment

def minutesInDay : Int := 1440

/-- The moment of some numbers, if there is one. The offset is judged first. -/
def check (year month day hour minute second microsecond : Nat) (offset : Option Int) :
    Except NoMoment Moment := do
  if let some minutes := offset then
    if minutesInDay ≤ minutes.natAbs then throw (.offset minutes)
  let date ← Date.check year month day
  if 23 < hour then throw .hour
  if 59 < minute then throw .minute
  if 59 < second then throw .second
  return ⟨date, hour, minute, second, microsecond, offset⟩

/-- Microseconds since the calendar began, in universal time where the offset is known. -/
def instant (moment : Moment) : Int :=
  let minutes : Int := (moment.date.ordinal * 24 + moment.hour) * 60 + moment.minute
  ((minutes - moment.offset.getD 0) * 60 + moment.second) * 1000000 + moment.microsecond

/-- Whether two moments are equal. One with an offset never equals one without. -/
def same (a b : Moment) : Bool :=
  a.offset.isSome == b.offset.isSome && a.instant == b.instant

def shownOffset (minutes : Int) : String :=
  (if minutes < 0 then "-" else "+") ++ padded 2 (minutes.natAbs / 60) ++ ":" ++
    padded 2 (minutes.natAbs % 60)

/-- The moment with `joint` between the day and the time. -/
def shown (joint : String) (moment : Moment) : String :=
  moment.date.shown ++ joint ++ padded 2 moment.hour ++ ":" ++ padded 2 moment.minute ++ ":" ++
    padded 2 moment.second ++
    (if moment.microsecond = 0 then "" else "." ++ padded 6 moment.microsecond) ++
    (moment.offset.map shownOffset).getD ""

def quotedOffset (minutes : Int) : String :=
  "tzinfo=" ++
    (if minutes = 0 then "datetime.timezone.utc"
      else "datetime.timezone(" ++ quotedDuration minutes ++ ")")

/-- The numbers of a moment. Seconds and microseconds are left out where they and all behind them
are zero. -/
def quoted (moment : Moment) : String :=
  let fine :=
    if moment.microsecond ≠ 0 then [moment.second, moment.microsecond]
    else if moment.second ≠ 0 then [moment.second]
    else []
  let numbers := moment.date.numbers ++ [moment.hour, moment.minute] ++ fine
  "datetime.datetime(" ++
    ", ".intercalate (numbers.map toString ++ (moment.offset.map quotedOffset).toList) ++ ")"

end Moment

end TagIndex
