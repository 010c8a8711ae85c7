/-!
# Calendar dates, clock times and instants

A `CivilDate` is a day of the proleptic Gregorian calendar, a `ClockTime` a time of day with
nanoseconds, and a `Timestamp` an instant in UTC counted in seconds and nanoseconds from
1970-01-01T00:00:00Z. A leap second is a time whose nanoseconds reach `10^9` or more: it is the
last second of its minute, stretched.

`CivilDate.toDays` and `CivilDate.ofDays` convert between a date and its day number (days since
1970-01-01) by the era arithmetic of the Gregorian cycle of 400 years (146097 days).
-/

namespace EntitySql

/-- A day of the proleptic Gregorian calendar. -/
structure CivilDate where
  year : Int
  month : Nat
  day : Nat
  deriving DecidableEq, Repr, Inhabited

/-- A time of day. `nano` reaches `10^9` or more only in a leap second. -/
structure ClockTime where
  hour : Nat
  minute : Nat
  second : Nat
  nano : Nat
  deriving DecidableEq, Repr, Inhabited

/-- An instant in UTC: whole seconds since the epoch and the nanoseconds past them. -/
structure Timestamp where
  seconds : Int
  nanos : Nat
  deriving DecidableEq, Repr, Inhabited

namespace CivilDate

def minYear : Int := -262143

def maxYear : Int := 262142

def isLeapYear (y : Int) : Bool :=
  (y % 4 = 0 ∧ y % 100 ≠ 0) ∨ y % 400 = 0

/-- The number of days of a month (1 to 12) in a year. -/
def daysInMonth (y : Int) (m : Nat) : Nat :=
  if m = 2 then (if isLeapYear y then 29 else 28)
  else if m = 4 ∨ m = 6 ∨ m = 9 ∨ m = 11 then 30
  else 31

def isValid (y : Int) (m d : Nat) : Bool :=
  minYear ≤ y ∧ y ≤ maxYear ∧ 1 ≤ m ∧ m ≤ 12 ∧ 1 ≤ d ∧ d ≤ daysInMonth y m

def ofYmd? (y : Int) (m d : Nat) : Option CivilDate :=
  if isValid y m d then some ⟨y, m, d⟩ else none

/-- Days since 1970-01-01. -/
def toDays (date : CivilDate) : Int :=
  let m : Int := date.month
  let y := if m ≤ 2 then date.year - 1 else date.year
  let era := y / 400
  let yoe := y - era * 400
  let doy := (153 * (if m > 2 then m - 3 else m + 9) + 2) / 5 + (date.day : Int) - 1
  let doe := yoe * 365 + yoe / 4 - yoe / 100 + doy
  era * 146097 + doe - 719468

/-- The date of a day number. -/
def ofDays (days : Int) : CivilDate :=
  let z := days + 719468
  let era := z / 146097
  let doe := z - era * 146097
  let yoe := (doe - doe / 1460 + doe / 36524 - doe / 146096) / 365
  let doy := doe - (365 * yoe + yoe / 4 - yoe / 100)
  let mp := (5 * doy + 2) / 153
  let d := doy - (153 * mp + 2) / 5 + 1
  let m := if mp < 10 then mp + 3 else mp - 9
  let y := yoe + era * 400 + (if m ≤ 2 then 1 else 0)
  ⟨y, m.toNat, d.toNat⟩

end CivilDate

namespace ClockTime

def secondOfDay (t : ClockTime) : Nat := t.hour * 3600 + t.minute * 60 + t.second

def ofSecondOfDay (s nano : Nat) : ClockTime := ⟨s / 3600, s / 60 % 60, s % 60, nano⟩

def isValid (t : ClockTime) : Bool :=
  t.hour < 24 ∧ t.minute < 60 ∧ t.second < 60 ∧
    (t.nano < 1000000000 ∨ (t.second = 59 ∧ t.nano < 2000000000))

end ClockTime

namespace Timestamp

def ofLocal (date : CivilDate) (time : ClockTime) (offset : Int) : Timestamp :=
  ⟨date.toDays * 86400 + time.secondOfDay - offset, time.nano⟩

def ofUtc (date : CivilDate) (time : ClockTime) : Timestamp := ofLocal date time 0

def date (t : Timestamp) : CivilDate := CivilDate.ofDays (t.seconds / 86400)

def time (t : Timestamp) : ClockTime := ClockTime.ofSecondOfDay (t.seconds % 86400).toNat t.nanos

def toMillis (t : Timestamp) : Int := t.seconds * 1000 + (t.nanos / 1000000 : Nat)

def ofMillis (ms : Int) : Timestamp := ⟨ms / 1000, (ms % 1000).toNat * 1000000⟩

def inRange (t : Timestamp) : Bool :=
  CivilDate.minYear ≤ t.date.year ∧ t.date.year ≤ CivilDate.maxYear

end Timestamp

end EntitySql
