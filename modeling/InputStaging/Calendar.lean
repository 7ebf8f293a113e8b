/-!
# Calendar

Dates and times of day as documents write them, in the Gregorian calendar. A time of
day may carry its distance from universal time; one that carries none has no place on
the time line.
-/

namespace InputStaging

/-- Why a date or a time is none. -/
inductive CalendarFault where
  | year (n : Nat)
  | month
  | day
  | hour
  | minute
  | second
  /-- The distance from universal time, in seconds, is a day or more. -/
  | offset (seconds : Int)
  deriving DecidableEq, Repr

structure Date where
  year : Nat
  month : Nat
  day : Nat
  deriving DecidableEq, Repr

structure Timestamp where
  date : Date
  hour : Nat
  minute : Nat
  second : Nat
  microsecond : Nat := 0
  /-- Seconds that the clock is ahead of universal time. -/
  offset : Option Int := none
  deriving DecidableEq, Repr

def isLeapYear (y : Nat) : Bool := y % 4 = 0 && (y % 100 ≠ 0 || y % 400 = 0)

def daysInMonth (y m : Nat) : Nat :=
  if m = 2 then (if isLeapYear y then 29 else 28)
  else if m = 4 ∨ m = 6 ∨ m = 9 ∨ m = 11 then 30
  else 31

/-- The days of so many years. -/
def daysTo (y : Nat) : Nat := 365 * y + y / 4 - y / 100 + y / 400

/-- The days of a year before a month. -/
def daysBefore (y m : Nat) : Nat :=
  (List.range (m - 1)).foldl (fun n i => n + daysInMonth y (i + 1)) 0

namespace Date

def make (year month day : Nat) : Except CalendarFault Date :=
  if year = 0 ∨ 9999 < year then .error (.year year)
  else if month = 0 ∨ 12 < month then .error .month
  else if day = 0 ∨ daysInMonth year month < day then .error .day
  else .ok ⟨year, month, day⟩

/-- Days since the last day before the year 1. -/
def number (d : Date) : Nat := daysTo (d.year - 1) + daysBefore d.year d.month + d.day

end Date

namespace Timestamp

/-- A day, in seconds. -/
def day : Nat := 86400

/-- The distance from universal time is judged before the time, and the date first of
what remains. -/
def make (year month day hour minute second microsecond : Nat) (offset : Option Int) :
    Except CalendarFault Timestamp := do
  if let some o := offset then
    if Timestamp.day ≤ o.natAbs then throw (.offset o)
  let date ← Date.make year month day
  if 23 < hour then throw .hour
  if 59 < minute then throw .minute
  if 59 < second then throw .second
  return { date, hour, minute, second, microsecond, offset }

/-- Microseconds since the start of the calendar, by the clock. -/
def clock (t : Timestamp) : Int :=
  (((t.date.number * 24 + t.hour) * 60 + t.minute) * 60 + t.second) * 1000000 + t.microsecond

/-- Two times that know their distance from universal time are the same if they are the
same moment. -/
def same (s t : Timestamp) : Bool :=
  match s.offset, t.offset with
  | some o, some p => s.clock - o * 1000000 = t.clock - p * 1000000
  | none, none => s.clock = t.clock
  | _, _ => false

end Timestamp

/-! ## Seconds since 1970 -/

/-- The days of 400 years. -/
def marchEra : Nat := 146097

/-- The year in which a day of an era lies, if years start in March. -/
def yearOfEra (day : Nat) : Nat := (day - day / 1460 + day / 36524 - day / 146096) / 365

/-- A day of a year that starts in March. -/
def Date.ofYearDay (year day : Nat) : Date :=
  let shifted := (5 * day + 2) / 153
  { year := if shifted < 10 then year else year + 1
    month := if shifted < 10 then shifted + 3 else shifted - 9
    day := day - (153 * shifted + 2) / 5 + 1 }

/-- The day `n` days after 1 March of the year 0, by eras of 400 years that end with the
leap day. -/
def Date.ofMarch (n : Nat) : Date :=
  let y := yearOfEra (n % marchEra)
  .ofYearDay (n / marchEra * 400 + y) (n % marchEra - (365 * y + y / 4 - y / 100))

/-- Days from 1 March of the year 0 to 1 January 1970. -/
def marchToEpoch : Nat := 719468

/-- The universal time so many seconds after the start of 1970. -/
def Timestamp.ofEpoch (seconds : Int) : Timestamp :=
  let n := (seconds + marchToEpoch * day).toNat
  let clock := n % day
  { date := .ofMarch (n / day)
    hour := clock / 3600
    minute := clock / 60 % 60
    second := clock % 60
    offset := some 0 }

/-- A number in at least `width` digits. -/
def padded (width n : Nat) : String :=
  let ds := Nat.toDigits 10 n
  String.ofList (List.replicate (width - ds.length) '0' ++ ds)

def Date.text (d : Date) : String :=
  s!"{padded 4 d.year}-{padded 2 d.month}-{padded 2 d.day}"

/-- The time of day down to the second. -/
def Timestamp.timeOfDay (t : Timestamp) : String :=
  s!"{padded 2 t.hour}:{padded 2 t.minute}:{padded 2 t.second}"

/-- Date and time down to the second, with the distance from universal time. -/
def Timestamp.text (t : Timestamp) : String :=
  let offset := (t.offset.map fun o =>
    let sign := if o < 0 then "-" else "+"
    let minutes := o.natAbs / 60
    s!"{sign}{padded 2 (minutes / 60)}:{padded 2 (minutes % 60)}").getD ""
  t.date.text ++ "T" ++ t.timeOfDay ++ offset

/-- A span of days and seconds, as messages name it. -/
def spanText (seconds : Int) : String :=
  let days := seconds / 86400
  let rest := seconds % 86400
  let parts := (if days = 0 then [] else [s!"days={days}"]) ++
    (if rest = 0 then [] else [s!"seconds={rest}"])
  "datetime.timedelta(" ++ ", ".intercalate parts ++ ")"

end InputStaging
