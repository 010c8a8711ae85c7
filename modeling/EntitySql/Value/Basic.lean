import EntitySql.Json.Print
import EntitySql.Time.Text
import EntitySql.Uuid
import EntitySql.Decimal.Read

/-!
# Database values

A `Value` is what a statement binds and what a row cell holds: null, a boolean, a signed 64-bit
integer, a float, a text, bytes, a UUID, an instant, a date, a time of day, a JSON document or an
array of values.

Between values and JSON: `Value.ofJson` keeps integers that fit 64 signed bits as integers and
turns every other number into a float, a JSON object into a JSON document and an array into an
array of values. `Value.toJson` writes bytes as an array of numbers, a UUID hyphenated, an instant
in RFC 3339 with `+00:00`, a date and a time as text, and a float that is not finite as `null`.
`Value.keyText` is the text used to compare keys: a text stands for itself, null is `null`, and
every other value is the JSON text of `toJson`.
-/

namespace EntitySql

/-- A database value. Integers stay within 64 signed bits. -/
inductive Value where
  | null
  | bool (b : Bool)
  | int (n : Int)
  | float (x : Float)
  | text (s : String)
  | bytes (bs : List UInt8)
  | uuid (u : Uuid)
  | timestamp (t : Timestamp)
  | date (d : CivilDate)
  | time (t : ClockTime)
  | json (j : Json)
  | array (items : List Value)
  deriving Inhabited

namespace Value

def isNull : Value → Bool
  | .null => true
  | _ => false

/-- Whether the value is an integer or a float. -/
def isNumeric : Value → Bool
  | .int _ => true
  | .float _ => true
  | _ => false

def asStr? : Value → Option String
  | .text s => some s
  | _ => none

/-- The integer a finite whole float stands for. -/
def Float.wholeValue? (x : Float) : Option Int :=
  if Decimal.isFinite x ∧ x.floor == x then
    let b := Decimal.Binary.ofFloat x
    let mag : Int :=
      if 0 ≤ b.exponent then (b.significand * Nat.pow 2 b.exponent.toNat : Nat)
      else (b.significand / Nat.pow 2 b.exponent.natAbs : Nat)
    some (if b.negative then -mag else mag)
  else none

def clampI64 (n : Int) : Int := max Json.i64Min (min Json.i64Max n)

/-- Wrap into the signed 64-bit range, as arithmetic on such integers does when it is not
checked: the integer of the range that is congruent to `n` modulo `2 ^ 64`. -/
def wrapI64 (n : Int) : Int := n.bmod (Nat.pow 2 64)

/-- The value as a signed 64-bit integer: an integer, a whole float (clamped to the range), or a
text that reads as one. -/
def asI64? : Value → Option Int
  | .int n => some n
  | .float x => (Float.wholeValue? x).map clampI64
  | .text s => (Decimal.readI64 s).toOption
  | _ => none

/-- The text of a number as a SQL literal: integers in decimal, finite floats positionally. -/
def numericLiteral? : Value → Option String
  | .int n => some (toString n)
  | .float x => if Decimal.isFinite x then some (FloatStyle.plain.render x) else none
  | _ => none

/-- A value from JSON. -/
def ofJson : Json → Value
  | .null => .null
  | .bool b => .bool b
  | .int n => if Json.i64Min ≤ n ∧ n ≤ Json.i64Max then .int n else .float (Float.ofInt n)
  | .float x => .float x
  | .str s => .text s
  | .arr items => .array (items.map ofJson)
  | .obj fields => .json (.obj fields)

def floatJson (x : Float) : Json :=
  if Decimal.isFinite x then .float x else .null

/-- A value as JSON. -/
def toJson : Value → Json
  | .null => .null
  | .bool b => .bool b
  | .int n => .int n
  | .float x => floatJson x
  | .text s => .str s
  | .bytes bs => .arr (bs.map fun b => .int b.toNat)
  | .uuid u => .str u.hyphenated
  | .timestamp t => .str t.rfc3339
  | .date d => .str d.render
  | .time t => .str t.render
  | .json j => j
  | .array items => .arr (items.map toJson)

/-- The text by which values are compared as keys. -/
def keyText : Value → String
  | .null => "null"
  | .text s => s
  | v => v.toJson.render

mutual

/-- Equality of values: floats compare as numbers (so NaN differs from itself). -/
def beq : Value → Value → Bool
  | .null, .null => true
  | .bool a, .bool b => a == b
  | .int a, .int b => a == b
  | .float a, .float b => a == b
  | .text a, .text b => a == b
  | .bytes a, .bytes b => a == b
  | .uuid a, .uuid b => a == b
  | .timestamp a, .timestamp b => a == b
  | .date a, .date b => a == b
  | .time a, .time b => a == b
  | .json a, .json b => a == b
  | .array a, .array b => beqItems a b
  | _, _ => false

/-- Item-wise equality. -/
def beqItems : List Value → List Value → Bool
  | [], [] => true
  | a :: as, b :: bs => beq a b && beqItems as bs
  | _, _ => false

end

instance : BEq Value := ⟨beq⟩

end Value

end EntitySql
