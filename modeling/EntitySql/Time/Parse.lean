import EntitySql.Time.Basic

/-!
# Reading dates and times

Two readers of fixed texts, and a relaxed one.

`Timestamp.parseRfc3339` reads RFC 3339 text: `YYYY-MM-DD`, a `T`, `t` or blank, `HH:MM:SS`, an
optional fraction of any length (digits past the ninth are ignored) and an offset `Z`, `z` or
`±HH:MM`. Second 60 is a leap second. A failure names its kind: a field out of range, a wrong
character, text that ends early, or text left over; the checks run left to right in that text.

`TimeFields.read` reads text against a pattern of fields (year, month, day, hour, minute, second,
fraction, offset), literal characters, a choice of characters and blanks. A number field skips
leading blanks and takes one to two digits (the year one to four, or any count after a sign); a
blank in the pattern takes any run of blanks, also none; the fraction is optional and starts
with `.`; an offset is `UTC`, `Z` or a signed `HH:MM`, `HHMM` or `HH MM`. The date and time
readers of the library are this reader with a fixed pattern. The relaxed reader of instants
(`Timestamp.parseRelaxed?`) allows blanks around the separators of the date and the time, a year
with a sign and any number of digits, and an offset, and names an instant of a supported year.
-/

namespace EntitySql

/-- Why a date or time text was refused. -/
inductive TimeParseError where
  | outOfRange
  | invalid
  | tooShort
  | tooLong
  deriving DecidableEq, Repr

/-- The text of a refusal. -/
def TimeParseError.message : TimeParseError → String
  | .outOfRange => "input is out of range"
  | .invalid => "input contains invalid characters"
  | .tooShort => "premature end of input"
  | .tooLong => "trailing input"

namespace TimeRead

def digitByte? (b : UInt8) : Option Nat :=
  if 48 ≤ b.toNat ∧ b.toNat ≤ 57 then some (b.toNat - 48) else none

/-- The digit at a position of a byte list, or `invalid`. -/
def digitAt (bs : List UInt8) (i : Nat) : Except TimeParseError Nat :=
  match bs[i]? >>= digitByte? with
  | some d => .ok d
  | none => .error .invalid

def expectAt (bs : List UInt8) (i : Nat) (b : UInt8) : Except TimeParseError Unit :=
  if bs[i]? = some b then .ok () else .error .invalid

/-- Up to `max` leading digits (at least one) and the bytes after them. -/
def takeDigits (bs : List UInt8) (max : Nat) : Except TimeParseError (Nat × Nat × List UInt8) :=
  let ds := (bs.take max).takeWhile fun b => (digitByte? b).isSome
  if bs.isEmpty then .error .tooShort
  else if ds.isEmpty then .error .invalid
  else .ok (ds.foldl (fun acc b => acc * 10 + (b.toNat - 48)) 0, ds.length, bs.drop ds.length)

/-- A fraction of a second after its point: up to nine digits scaled to nanoseconds, further
digits skipped. -/
def fraction (bs : List UInt8) : Except TimeParseError (Nat × List UInt8) := do
  let (v, n, rest) ← takeDigits bs 9
  .ok (v * Nat.pow 10 (9 - n), rest.dropWhile fun b => (digitByte? b).isSome)

/-- An offset `Z`, `z` or `±HH:MM` (the minus may also be U+2212), in seconds east of UTC. -/
def offset (bs : List UInt8) : Except TimeParseError (Int × List UInt8) :=
  match bs with
  | [] => .error .tooShort
  | b :: rest =>
    if b = 90 ∨ b = 122 then .ok (0, rest)
    else
      let signed : Except TimeParseError (Bool × List UInt8) :=
        if b = 43 then .ok (false, rest)
        else if b = 45 then .ok (true, rest)
        else match bs with
          | 0xE2 :: 0x88 :: 0x92 :: rest' => .ok (true, rest')
          | _ => .error .invalid
      match signed with
      | .error e => .error e
      | .ok (negative, s) =>
        match s with
        | h1 :: h2 :: s =>
          match digitByte? h1, digitByte? h2 with
          | some a, some c =>
            let hours := a * 10 + c
            match s with
            | [] => .error .tooShort
            | colon :: s =>
              if colon ≠ 58 then .error .invalid
              else
                match s with
                | m1 :: m2 :: s =>
                  match digitByte? m1, digitByte? m2 with
                  | some x, some y =>
                    if x ≥ 6 then .error .outOfRange
                    else
                      let secs : Int := hours * 3600 + (x * 10 + y) * 60
                      .ok (if negative then -secs else secs, s)
                  | _, _ => .error .invalid
                | _ => .error .tooShort
          | _, _ => .error .invalid
        | _ => .error .tooShort

end TimeRead

namespace Timestamp

open TimeRead in
/-- Read RFC 3339 text into an instant. -/
def parseRfc3339 (s : String) : Except TimeParseError Timestamp := do
  let bs := s.toUTF8.toList
  if bs.length < 19 then throw .tooShort
  let y0 ← digitAt bs 0
  let y1 ← digitAt bs 1
  let y2 ← digitAt bs 2
  let y3 ← digitAt bs 3
  expectAt bs 4 45
  let mo0 ← digitAt bs 5
  let mo1 ← digitAt bs 6
  expectAt bs 7 45
  let d0 ← digitAt bs 8
  let d1 ← digitAt bs 9
  let date ← match CivilDate.ofYmd? (y0 * 1000 + y1 * 100 + y2 * 10 + y3 : Nat)
      (mo0 * 10 + mo1) (d0 * 10 + d1) with
    | some d => pure d
    | none => throw .outOfRange
  let sep := bs[10]?
  if !(sep = some 84 ∨ sep = some 116 ∨ sep = some 32) then throw .invalid
  let h0 ← digitAt bs 11
  let h1 ← digitAt bs 12
  expectAt bs 13 58
  let mi0 ← digitAt bs 14
  let mi1 ← digitAt bs 15
  expectAt bs 16 58
  let s0 ← digitAt bs 17
  let s1 ← digitAt bs 18
  let sec := s0 * 10 + s1
  let (sec, leap) ← if sec = 60 then pure (59, 1000000000)
    else if sec < 60 then pure (sec, 0) else throw .outOfRange
  let rest := bs.drop 19
  let (nano, rest) ← match rest with
    | 46 :: frac => do
      let (n, rest) ← fraction frac
      pure (leap + n, rest)
    | _ => pure (leap, rest)
  let time : ClockTime := ⟨h0 * 10 + h1, mi0 * 10 + mi1, sec, nano⟩
  if !time.isValid then throw .outOfRange
  if rest.isEmpty then throw .tooShort
  let (off, rest) ← offset rest
  if off.natAbs > (23 * 60 + 59) * 60 then throw .outOfRange
  if !rest.isEmpty then throw .tooLong
  pure (ofLocal date time off)

end Timestamp

/-- One element of a date or time pattern. -/
inductive TimeField where
  | year
  | month
  | day
  | hour
  | minute
  | second
  | fraction
  | literal (c : Char)
  | oneOf (cs : List Char)
  | blank
  | zone

/-- The fields read so far. -/
structure TimeFields where
  year : Option Int := none
  month : Option Nat := none
  day : Option Nat := none
  hour : Option Nat := none
  minute : Option Nat := none
  second : Option Nat := none
  nano : Option Nat := none
  offset : Option Int := none

namespace TimeFields

/-- Leading digits, at least one and at most `max`, as a number and the rest. -/
def digits (cs : List Char) (max : Nat) : Option (Nat × List Char) :=
  let ds := (cs.take max).takeWhile Char.isDigit
  if ds.isEmpty then none
  else some (ds.foldl (fun acc c => acc * 10 + (c.toNat - 48)) 0, cs.drop ds.length)

/-- A numeric field with its width and valid range; the year also takes a sign. -/
def number (cs : List Char) (width : Nat) (signed : Bool) : Option (Int × List Char) :=
  let cs := cs.dropWhile Char.isWhitespace
  match cs with
  | '-' :: rest => if signed then (digits rest 20).map fun (n, r) => (-(n : Int), r) else none
  | '+' :: rest => if signed then (digits rest 20).map fun (n, r) => ((n : Int), r) else none
  | _ => (digits cs width).map fun (n, r) => ((n : Int), r)

def bounded (v : Int) (lo hi : Nat) : Option Nat :=
  if (lo : Int) ≤ v ∧ v ≤ hi then some v.toNat else none

/-- An offset from UTC in seconds east: `UTC` in any case, `Z` or `z`, or a sign (`+`, `-` or
U+2212), two digits of hours, any run of colons and blanks, and two digits of minutes below 60. -/
def zoneOffset (cs : List Char) : Option (Int × List Char) :=
  if (cs.take 3).map Char.toLower = ['u', 't', 'c'] then some (0, cs.drop 3)
  else
    match cs with
    | c :: rest =>
      if c = 'Z' ∨ c = 'z' then some (0, rest)
      else if c = '+' ∨ c = '-' ∨ c = '−' then
        match rest with
        | h1 :: h2 :: rest =>
          if h1.isDigit ∧ h2.isDigit then
            match rest.dropWhile fun c => c = ':' || c.isWhitespace with
            | m1 :: m2 :: rest =>
              if m1.isDigit ∧ m1.toNat < 54 ∧ m2.isDigit then
                let secs : Int := ((h1.toNat - 48) * 10 + (h2.toNat - 48)) * 3600 +
                  ((m1.toNat - 48) * 10 + (m2.toNat - 48)) * 60
                some (if c = '+' then secs else -secs, rest)
              else none
            | _ => none
          else none
        | _ => none
      else none
    | [] => none

/-- Read text against a pattern; the whole text must be used. -/
def read (pattern : List TimeField) (cs : List Char) (acc : TimeFields) : Option TimeFields :=
  match pattern with
  | [] => if cs.isEmpty then some acc else none
  | .literal c :: pat =>
    match cs with
    | c' :: rest => if c = c' then read pat rest acc else none
    | [] => none
  | .oneOf opts :: pat =>
    match cs with
    | c :: rest => if c ∈ opts then read pat rest acc else none
    | [] => none
  | .blank :: pat => read pat (cs.dropWhile Char.isWhitespace) acc
  | .zone :: pat =>
    (zoneOffset cs).bind fun (o, r) => read pat r { acc with offset := some o }
  | .fraction :: pat =>
    match cs with
    | '.' :: rest =>
      match digits rest 9 with
      | some (v, r) =>
        let used := (rest.take 9).takeWhile Char.isDigit
        read pat (r.dropWhile Char.isDigit) { acc with nano := some (v * Nat.pow 10 (9 - used.length)) }
      | none => none
    | _ => read pat cs acc
  | .year :: pat =>
    (number cs 4 true).bind fun (v, r) => read pat r { acc with year := some v }
  | .month :: pat =>
    (number cs 2 false).bind fun (v, r) =>
      (bounded v 1 12).bind fun m => read pat r { acc with month := some m }
  | .day :: pat =>
    (number cs 2 false).bind fun (v, r) =>
      (bounded v 1 31).bind fun d => read pat r { acc with day := some d }
  | .hour :: pat =>
    (number cs 2 false).bind fun (v, r) =>
      (bounded v 0 23).bind fun h => read pat r { acc with hour := some h }
  | .minute :: pat =>
    (number cs 2 false).bind fun (v, r) =>
      (bounded v 0 59).bind fun m => read pat r { acc with minute := some m }
  | .second :: pat =>
    (number cs 2 false).bind fun (v, r) =>
      (bounded v 0 60).bind fun s => read pat r { acc with second := some s }

/-- The date of the fields, if year, month and day name one. -/
def date? (f : TimeFields) : Option CivilDate :=
  match f.year, f.month, f.day with
  | some y, some m, some d => CivilDate.ofYmd? y m d
  | _, _, _ => none

/-- The time of the fields; second 60 becomes a leap second. -/
def time? (f : TimeFields) : Option ClockTime :=
  match f.hour, f.minute with
  | some h, some m =>
    let s := f.second.getD 0
    let nano := f.nano.getD 0
    let t : ClockTime := if s = 60 then ⟨h, m, 59, nano + 1000000000⟩ else ⟨h, m, s, nano⟩
    if t.isValid then some t else none
  | _, _ => none

end TimeFields

open TimeField in
def datePattern : List TimeField := [year, literal '-', month, literal '-', day]

open TimeField in
def timePattern : List TimeField := [hour, literal ':', minute, literal ':', second, fraction]

def CivilDate.parse? (s : String) : Option CivilDate :=
  (TimeFields.read datePattern s.toList {}).bind TimeFields.date?

def ClockTime.parse? (s : String) : Option ClockTime :=
  (TimeFields.read timePattern s.toList {}).bind TimeFields.time?

/-- Read a date and time separated by `sep` (a blank or `T`), taken as UTC. -/
def Timestamp.parseNaive? (s : String) (sep : TimeField) : Option Timestamp := do
  let f ← TimeFields.read (datePattern ++ [sep] ++ timePattern) s.toList {}
  let d ← f.date?
  let t ← f.time?
  pure (Timestamp.ofUtc d t)

/-- The library's reading of a timestamp text: RFC 3339, else `YYYY-MM-DD HH:MM:SS[.f]` in UTC. -/
def Timestamp.parseLenient? (s : String) : Option Timestamp :=
  match Timestamp.parseRfc3339 s with
  | .ok t => some t
  | .error _ => Timestamp.parseNaive? s .blank

open TimeField in
def relaxedDatePattern : List TimeField := [year, blank, literal '-', month, blank, literal '-', day]

open TimeField in
def relaxedTimePattern : List TimeField :=
  [hour, blank, literal ':', minute, blank, literal ':', second, fraction, blank]

open TimeField in
/-- The relaxed pattern of an instant: a relaxed date, `T`, `t` or a blank, a relaxed time, and an
offset, with blanks allowed after it. -/
def relaxedInstantPattern : List TimeField :=
  relaxedDatePattern ++ [oneOf ['T', 't', ' ']] ++ relaxedTimePattern ++ [zone, blank]

/-- Read an instant the relaxed way: a valid date and time with an offset of less than a day,
naming an instant whose UTC year is within the supported years. Years may have a sign and more
than four digits. -/
def Timestamp.parseRelaxed? (s : String) : Option Timestamp := do
  let f ← TimeFields.read relaxedInstantPattern s.toList {}
  let d ← f.date?
  let t ← f.time?
  let off ← f.offset
  let ts := Timestamp.ofLocal d t off
  if off.natAbs < 86400 ∧ CivilDate.minYear ≤ ts.date.year ∧ ts.date.year ≤ CivilDate.maxYear then
    some ts
  else none

end EntitySql
