import EntitySql.Time.Basic

/-!
# Writing dates and times

Dates are written `YYYY-MM-DD`; a year outside 0 to 9999 gets an explicit sign and at least four
digits. Times are written `HH:MM:SS`, followed by a fraction only when the nanoseconds are not
zero: three digits when they are whole milliseconds, six when whole microseconds, else nine. A
leap second is written as second 60.

An instant has two written forms: `Timestamp.rfc3339` ends in `+00:00`, `Timestamp.isoUtc` in
`Z`. `Timestamp.sqliteText` is the fixed-width form with a space and exactly three fraction
digits.
-/

namespace EntitySql

def padNat (width n : Nat) : String :=
  let s := toString n
  String.ofList (List.replicate (width - s.length) '0') ++ s

def yearText (y : Int) : String :=
  if 0 ≤ y ∧ y ≤ 9999 then padNat 4 y.toNat
  else (if y < 0 then "-" else "+") ++ padNat 4 y.natAbs

/-- The fraction of a second: none, or 3, 6 or 9 digits, the fewest that are exact. -/
def fractionText (nano : Nat) : String :=
  if nano = 0 then ""
  else if nano % 1000000 = 0 then "." ++ padNat 3 (nano / 1000000)
  else if nano % 1000 = 0 then "." ++ padNat 6 (nano / 1000)
  else "." ++ padNat 9 nano

namespace CivilDate

def render (d : CivilDate) : String :=
  yearText d.year ++ "-" ++ padNat 2 d.month ++ "-" ++ padNat 2 d.day

end CivilDate

namespace ClockTime

def shownSecond (t : ClockTime) : Nat × Nat :=
  if t.nano ≥ 1000000000 then (t.second + 1, t.nano - 1000000000) else (t.second, t.nano)

def render (t : ClockTime) : String :=
  let (s, nano) := t.shownSecond
  padNat 2 t.hour ++ ":" ++ padNat 2 t.minute ++ ":" ++ padNat 2 s ++ fractionText nano

end ClockTime

namespace Timestamp

def rfc3339 (t : Timestamp) : String :=
  t.date.render ++ "T" ++ t.time.render ++ "+00:00"

def isoUtc (t : Timestamp) : String :=
  t.date.render ++ "T" ++ t.time.render ++ "Z"

/-- `YYYY-MM-DD HH:MM:SS.fff`, always three fraction digits. -/
def sqliteText (t : Timestamp) : String :=
  let time := t.time
  let (s, nano) := time.shownSecond
  t.date.render ++ " " ++ padNat 2 time.hour ++ ":" ++ padNat 2 time.minute ++ ":" ++ padNat 2 s ++
    "." ++ padNat 3 (nano / 1000000)

end Timestamp

end EntitySql
