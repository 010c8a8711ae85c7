import EntitySql.Decimal.Shortest

/-!
# Writing a float as text

The digits come from `Decimal.shortestDigits`; a `FloatStyle` decides the rest of the text: which
decimal exponents are written positionally, whether a whole number keeps `.0`, and whether a
positive exponent carries `+`. Three styles are used by the library:

* `FloatStyle.json`: positional for `1e-5 ≤ |x| < 1e16`, `.0` kept, `1e+16`, as in JSON text;
* `FloatStyle.plain`: always positional, no `.0` (`100`, `-0`, `0.0000001`), for SQL literals;
* `FloatStyle.inspect`: positional for `1e-4 ≤ |x| < 1e16`, `.0` kept, `1e16`, for diagnostics.
-/

namespace EntitySql

/-- How a float is written once its shortest digits are known. -/
structure FloatStyle where
  /-- The least decimal exponent written positionally; `none` means no least one. -/
  positionalFrom : Option Int
  /-- Decimal exponents from this one on are written with an exponent; `none` means never. -/
  exponentFrom : Option Int
  /-- A whole number written positionally ends in `.0`. -/
  keepPointZero : Bool
  /-- A non-negative exponent is written with a `+`. -/
  plusExponent : Bool

namespace FloatStyle

def json : FloatStyle := ⟨some (-5), some 16, true, true⟩

def plain : FloatStyle := ⟨none, none, false, false⟩

def inspect : FloatStyle := ⟨some (-4), some 16, true, false⟩

def positional (s : FloatStyle) (e : Int) : Bool :=
  (match s.positionalFrom with | some lo => decide (lo ≤ e) | none => true) &&
  (match s.exponentFrom with | some hi => decide (e < hi) | none => true)

/-- The digits `ds` (first digit at decimal exponent `e`) written positionally. -/
def positionalText (s : FloatStyle) (ds : List Char) (e : Int) : String :=
  if e < 0 then
    "0." ++ String.ofList (List.replicate ((-e).toNat - 1) '0' ++ ds)
  else
    let n := e.toNat + 1
    let whole := ds.take n ++ List.replicate (n - ds.length) '0'
    let frac := ds.drop n
    if frac.isEmpty then
      String.ofList whole ++ (if s.keepPointZero then ".0" else "")
    else
      String.ofList whole ++ "." ++ String.ofList frac

/-- The digits `ds` (first digit at decimal exponent `e`) written with an exponent. -/
def exponentText (s : FloatStyle) (ds : List Char) (e : Int) : String :=
  let mantissa := match ds with
    | [] => "0"
    | [d] => String.singleton d
    | d :: rest => String.singleton d ++ "." ++ String.ofList rest
  let sign := if e < 0 then "-" else if s.plusExponent then "+" else ""
  mantissa ++ "e" ++ sign ++ toString e.natAbs

/-- A finite float in this style. -/
def render (s : FloatStyle) (x : Float) : String :=
  let b := Decimal.Binary.ofFloat x
  let sign := if b.negative then "-" else ""
  let (d, k) := Decimal.shortestDigits x
  let ds := Nat.toDigits 10 d
  let e := k + (ds.length : Int) - 1
  let body :=
    if d = 0 then (if s.keepPointZero then "0.0" else "0")
    else if s.positional e then s.positionalText ds e
    else s.exponentText ds e
  sign ++ body

end FloatStyle

/-- A float in plain positional text, with `NaN`, `inf` and `-inf` for the non-finite ones. -/
def Float.plainText (x : Float) : String :=
  if x.isNaN then "NaN"
  else if x.isInf then (if x < 0 then "-inf" else "inf")
  else FloatStyle.plain.render x

/-- A float in diagnostic text, with `NaN`, `inf` and `-inf` for the non-finite ones. -/
def Float.inspectText (x : Float) : String :=
  if x.isNaN then "NaN"
  else if x.isInf then (if x < 0 then "-inf" else "inf")
  else FloatStyle.inspect.render x

end EntitySql
