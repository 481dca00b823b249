import LineScript.Number.Written

/-!
# Dates and times

A moment is a date, perhaps with a time of day, and the time perhaps with its distance from universal time.
-/

namespace LineScript.Calendar

/-! ## Parts of moments -/

structure Date where
  year : Nat
  month : Nat
  day : Nat
  deriving Repr, DecidableEq, Inhabited

structure TimeOfDay where
  hour : Nat
  minute : Nat
  second : Nat
  microsecond : Nat
  deriving Repr, DecidableEq, Inhabited

inductive Moment where
  | date (date : Date)
  /-- A date with a time, and the minutes that it is ahead of universal time, if they are known. -/
  | time (date : Date) (time : TimeOfDay) (ahead : Option Int)
  deriving Repr, DecidableEq, Inhabited

/-- Why parts make no moment. -/
inductive Fault where
  | year (year : Nat)
  | month
  | day
  | hour
  | minute
  | second
  | distance (ahead : Int)
  deriving Repr, DecidableEq

/-! ## What exists -/

def isLeapYear (year : Nat) : Bool :=
  year % 4 = 0 && (year % 100 ≠ 0 || year % 400 = 0)

def daysOfMonth (year month : Nat) : Nat :=
  if month = 2 then if isLeapYear year then 29 else 28
  else if month = 4 ∨ month = 6 ∨ month = 9 ∨ month = 11 then 30
  else 31

def minutesOfDay : Nat :=
  1440

def Date.check (date : Date) : Except Fault Unit :=
  if date.year < 1 then .error (.year date.year)
  else if date.month < 1 ∨ 12 < date.month then .error .month
  else if date.day < 1 ∨ daysOfMonth date.year date.month < date.day then .error .day
  else .ok ()

def TimeOfDay.check (time : TimeOfDay) : Except Fault Unit :=
  if 23 < time.hour then .error .hour
  else if 59 < time.minute then .error .minute
  else if 59 < time.second then .error .second
  else .ok ()

def checkDistance : Option Int → Except Fault Unit
  | none => .ok ()
  | some ahead => if minutesOfDay ≤ ahead.natAbs then .error (.distance ahead) else .ok ()

def Moment.check : Moment → Except Fault Unit
  | .date day => day.check
  | .time day clock ahead => do
    checkDistance ahead
    day.check
    clock.check

/-! ## Comparing -/

/-- The number of days from the first day of the first year up to a date. -/
def Date.number (date : Date) : Int :=
  let before := date.year - 1
  let inMonths :=
    (List.range (date.month - 1)).foldl (fun days month => days + daysOfMonth date.year (month + 1)) 0
  Int.ofNat (365 * before + before / 4 - before / 100 + before / 400 + inMonths + date.day)

/-- The microseconds from the start of the first year up to a date and a time of day. -/
def instant (date : Date) (time : TimeOfDay) : Int :=
  (((date.number * 24 + time.hour) * 60 + time.minute) * 60 + time.second) * 1000000 + time.microsecond

/-- Two moments are the same. Times whose distance from universal time is known are compared there. -/
def Moment.same : Moment → Moment → Bool
  | .date left, .date right => left = right
  | .time left leftTime none, .time right rightTime none => left = right && leftTime = rightTime
  | .time left leftTime (some leftAhead), .time right rightTime (some rightAhead) =>
    instant left leftTime - leftAhead * 60000000 = instant right rightTime - rightAhead * 60000000
  | _, _ => false

/-! ## Texts -/

def padded (width value : Nat) : String :=
  let digits := Number.digitsOf value
  String.ofList (List.replicate (width - digits.length) '0') ++ digits

def Date.text (date : Date) : String :=
  padded 4 date.year ++ "-" ++ padded 2 date.month ++ "-" ++ padded 2 date.day

def TimeOfDay.text (time : TimeOfDay) : String :=
  let whole := padded 2 time.hour ++ ":" ++ padded 2 time.minute ++ ":" ++ padded 2 time.second
  if time.microsecond = 0 then whole else whole ++ "." ++ padded 6 time.microsecond

def distanceText (ahead : Int) : String :=
  (if ahead < 0 then "-" else "+") ++ padded 2 (ahead.natAbs / 60) ++ ":" ++ padded 2 (ahead.natAbs % 60)

def Moment.text : Moment → String
  | .date day => day.text
  | .time day clock ahead => day.text ++ " " ++ clock.text ++ (ahead.map distanceText).getD ""

def distanceShown (ahead : Int) : String :=
  let days := Int.fdiv ahead minutesOfDay
  let seconds := Int.fmod ahead minutesOfDay * 60
  let parts := (if days = 0 then [] else ["days=" ++ Number.integerText days]) ++
    (if seconds = 0 then [] else ["seconds=" ++ Number.integerText seconds])
  "datetime.timedelta(" ++ (if parts.isEmpty then "0" else ", ".intercalate parts) ++ ")"

def zoneShown (ahead : Int) : String :=
  if ahead = 0 then "tzinfo=datetime.timezone.utc"
  else "tzinfo=datetime.timezone(" ++ distanceShown ahead ++ ")"

def Moment.shown : Moment → String
  | .date day =>
    "datetime.date(" ++ ", ".intercalate ([day.year, day.month, day.day].map Number.digitsOf) ++ ")"
  | .time day clock ahead =>
    let seconds :=
      if clock.microsecond ≠ 0 then [clock.second, clock.microsecond]
      else if clock.second ≠ 0 then [clock.second]
      else []
    let numbers := [day.year, day.month, day.day, clock.hour, clock.minute] ++ seconds
    "datetime.datetime(" ++
      ", ".intercalate (numbers.map Number.digitsOf ++ (ahead.map zoneShown).toList) ++ ")"

def Fault.message : Fault → String
  | .year given => "year " ++ Number.digitsOf given ++ " is out of range"
  | .month => "month must be in 1..12"
  | .day => "day is out of range for month"
  | .hour => "hour must be in 0..23"
  | .minute => "minute must be in 0..59"
  | .second => "second must be in 0..59"
  | .distance ahead =>
    "offset must be a timedelta strictly between -timedelta(hours=24) and timedelta(hours=24), not " ++
      distanceShown ahead ++ "."

end LineScript.Calendar
