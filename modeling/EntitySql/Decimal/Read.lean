/-!
# Reading numbers from text

`readI64` reads a signed 64-bit integer: an optional `+` or `-` and at least one ASCII digit,
nothing else. Digits are taken left to right, so whichever comes first of a wrong character and
an overflow is the fault reported.

`readF64` reads a float: an optional sign, then `inf`, `infinity` or `nan` in any case, or a
decimal with at least one digit, an optional point and an optional exponent `e` or `E` with at
least one digit. The value is the float nearest to the decimal (ties to even); a decimal too
large is an infinity and one too small is zero.
-/

namespace EntitySql

/-- Why a text is no integer. -/
inductive IntReadError where
  | empty
  | invalidDigit
  | posOverflow
  | negOverflow
  deriving DecidableEq, Repr

/-- The text of an integer reading failure. -/
def IntReadError.message : IntReadError → String
  | .empty => "cannot parse integer from empty string"
  | .invalidDigit => "invalid digit found in string"
  | .posOverflow => "number too large to fit in target type"
  | .negOverflow => "number too small to fit in target type"

namespace Decimal

/-- Accumulate digits while the value stays within `bound`. -/
def digitsWithin (bound : Nat) (negative : Bool) : List Char → Nat → Except IntReadError Nat
  | [], acc => .ok acc
  | c :: rest, acc =>
    if c.isDigit then
      let acc := acc * 10 + (c.toNat - 48)
      if acc > bound then .error (if negative then .negOverflow else .posOverflow)
      else digitsWithin bound negative rest acc
    else .error .invalidDigit

/-- Read an integer between `lo` and `hi` (with `lo ≤ 0 ≤ hi`). -/
def readIntIn (lo hi : Int) (s : String) : Except IntReadError Int :=
  match s.toList with
  | [] => .error .empty
  | ['+'] => .error .invalidDigit
  | ['-'] => .error .invalidDigit
  | '-' :: rest => (digitsWithin lo.natAbs true rest 0).map fun n => -(n : Int)
  | '+' :: rest => (digitsWithin hi.toNat false rest 0).map fun n => (n : Int)
  | rest => (digitsWithin hi.toNat false rest 0).map fun n => (n : Int)

def readI64 (s : String) : Except IntReadError Int :=
  readIntIn (-9223372036854775808) 9223372036854775807 s

/-- The float nearest to `m · 10^e`, with exponents far out of range sent to infinity or zero. -/
def floatOfDecimal (m : Nat) (e : Int) : Float :=
  if m = 0 then 0.0
  else
    let digits : Int := (Nat.toDigits 10 m).length
    if e + digits > 310 then Float.ofScientific 1 false 400
    else if e + digits < -330 then 0.0
    else if e ≥ 0 then Float.ofScientific m false e.toNat
    else Float.ofScientific m true e.natAbs

/-- Whether a text names infinity or NaN, ignoring case. -/
def specialFloat? (cs : List Char) : Option Float :=
  let w := String.ofList (cs.map Char.toLower)
  if w = "inf" ∨ w = "infinity" then some (Float.ofScientific 1 false 400)
  else if w = "nan" then some (0.0 / 0.0)
  else none

/-- Read the digits of a decimal mantissa: the digits as a number, the count after the point,
whether any digit was seen, and the rest. -/
def mantissa : List Char → Nat → Option Nat → Bool → Nat × Nat × Bool × List Char
  | [], m, frac, seen => (m, frac.getD 0, seen, [])
  | c :: rest, m, frac, seen =>
    if c.isDigit then mantissa rest (m * 10 + (c.toNat - 48)) (frac.map (· + 1)) true
    else if c = '.' ∧ frac.isNone then mantissa rest m (some 0) seen
    else (m, frac.getD 0, seen, c :: rest)

/-- An exponent: optional sign, at least one digit, nothing after. -/
def exponent (cs : List Char) : Option Int :=
  let (neg, ds) := match cs with
    | '-' :: r => (true, r)
    | '+' :: r => (false, r)
    | r => (false, r)
  if ds.isEmpty ∨ !ds.all Char.isDigit then none
  else
    let n : Nat := ds.foldl (fun (acc : Nat) c => min (acc * 10 + (c.toNat - 48)) 100000) 0
    some (if neg then -(n : Int) else n)

/-- Read a float. -/
def readF64 (s : String) : Except String Float :=
  let cs := s.toList
  if cs.isEmpty then .error "cannot parse float from empty string"
  else
    let (neg, body) := match cs with
      | '-' :: r => (true, r)
      | '+' :: r => (false, r)
      | r => (false, r)
    let sign := fun (x : Float) => if neg then -x else x
    match specialFloat? body with
    | some x => .ok (sign x)
    | none =>
      let (m, frac, seen, rest) := mantissa body 0 none false
      if !seen then .error "invalid float literal"
      else
        match rest with
        | [] => .ok (sign (floatOfDecimal m (-(frac : Int))))
        | c :: more =>
          if c = 'e' ∨ c = 'E' then
            match exponent more with
            | some e => .ok (sign (floatOfDecimal m (e - frac)))
            | none => .error "invalid float literal"
          else .error "invalid float literal"

end Decimal

end EntitySql
