/-!
# Shortest decimal digits of a float

A finite float `x` stands for the exact value `m · 2^e`. Every real in its rounding interval (the
half-way points to its two neighbours, the ends included iff `m` is even) reads back as `x`.
`Float.shortestDigits` returns the decimal `d · 10^k` of that interval with the fewest significant
digits, and of those the one nearest to `x` (an exact tie goes to the even `d`).

The search walks the decimal grids `10^k` from a power above `x` downwards. A grid holds a point
of the interval iff the interval's ends, divided by `10^k`, enclose an integer; the first grid
that does gives the fewest digits. All arithmetic is on `Nat`, so the result is exact.
-/

namespace EntitySql

namespace Decimal

/-- The parts of a finite float: sign, integer significand `m` and binary exponent `e`, with
`|x| = m · 2^e`; `lowerCloser` says the neighbour below is half as far as the one above. -/
structure Binary where
  negative : Bool
  significand : Nat
  exponent : Int
  lowerCloser : Bool

/-- Decode the bits of a float. For infinities and NaN the result is meaningless. -/
def Binary.ofFloat (x : Float) : Binary :=
  let bits := x.toBits.toNat
  let frac := bits % Nat.pow 2 52
  let expField := (bits / Nat.pow 2 52) % Nat.pow 2 11
  let negative := bits / Nat.pow 2 63 = 1
  if expField = 0 then
    ⟨negative, frac, -1074, false⟩
  else
    ⟨negative, frac + Nat.pow 2 52, Int.ofNat expField - 1075, frac = 0 ∧ expField > 1⟩

def isFinite (x : Float) : Bool :=
  (x.toBits.toNat / Nat.pow 2 52) % Nat.pow 2 11 ≠ 2047

def scaled (x : Nat) (e k : Int) : Nat × Nat :=
  (x * Nat.pow 2 e.toNat * Nat.pow 10 (-k).toNat, Nat.pow 2 (-e).toNat * Nat.pow 10 k.toNat)

def ceilDiv (a b : Nat) : Nat := (a + b - 1) / b

/-- `n / d` rounded to the nearest integer, a tie to the even one. -/
def roundHalfEven (n d : Nat) : Nat :=
  let q := n / d
  let r := n % d
  if 2 * r > d then q + 1
  else if 2 * r < d then q
  else if q % 2 = 0 then q else q + 1

/-- The point of grid `10^k` inside the rounding interval of `b` that is nearest to the value,
if the interval holds one. -/
def gridHit (b : Binary) (k : Int) : Option Nat :=
  let m := b.significand
  let e2 := b.exponent - 2
  let inclusive := m % 2 = 0
  let (nv, den) := scaled (4 * m) e2 k
  let (nl, _) := scaled (if b.lowerCloser then 4 * m - 1 else 4 * m - 2) e2 k
  let (nh, _) := scaled (4 * m + 2) e2 k
  let lo := if inclusive then ceilDiv nl den else nl / den + 1
  let hi := if inclusive then nh / den else (nh - 1) / den
  if lo ≤ hi then
    let r := roundHalfEven nv den
    some (if r < lo then lo else if r > hi then hi else r)
  else none

/-- Drop the trailing zeros of `d · 10^k`, raising `k` for each. -/
def stripZeros (d : Nat) (k : Int) : Nat × Int :=
  if h : d ≠ 0 ∧ d % 10 = 0 then
    stripZeros (d / 10) (k + 1)
  else (d, k)
termination_by d
decreasing_by omega

def gridStart (b : Binary) : Int :=
  let bitLength := (Nat.log2 b.significand + 1 : Nat)
  (b.exponent + bitLength) * 30103 / 100000 + 2

/-- The shortest decimal `(d, k)` with `d · 10^k` reading back as `x`, for a finite nonzero `x`;
`(0, 0)` for zero. `d` has no trailing zero. -/
def shortestDigits (x : Float) : Nat × Int :=
  let b := Binary.ofFloat x
  if b.significand = 0 then (0, 0)
  else
    let start := gridStart b
    let hit := (List.range 40).findSome? fun (i : Nat) =>
      (gridHit b (start - Int.ofNat i)).map fun d => (d, start - Int.ofNat i)
    match hit with
    | some (d, k) => stripZeros d k
    | none => (b.significand, b.exponent)

end Decimal

end EntitySql
