import EntitySql.Json.Print
import EntitySql.Uuid

/-!
# Binary forms of parameters

A `WireValue` is a parameter in one of the binary forms of the Postgres protocol, and
`WireValue.payload` its bytes: integers in two's complement, big-endian, over two, four or eight
bytes (an object identifier unsigned over four); floats as their IEEE bits, big-endian; text as
its UTF-8 bytes; a UUID as its sixteen bytes; JSON as compact text, after a version byte `1` in
the `jsonb` form; an instant and a time of day in microseconds (an instant counted from
2000-01-01T00:00:00Z) over eight bytes, and a date in days from 2000-01-01 over four.

The payload of each fixed-width form has its width (`payload_length`).
-/

namespace EntitySql

/-- The last `width` bytes of a number, most significant first: the number modulo
`256 ^ width`. -/
def bigEndian (width n : Nat) : List UInt8 :=
  (List.range width).reverse.map fun i => (n / Nat.pow 256 i % 256).toUInt8

def twosComplement (width : Nat) (n : Int) : List UInt8 :=
  bigEndian width (n % (Nat.pow 256 width : Int)).toNat

@[simp] theorem bigEndian_length (width n : Nat) : (bigEndian width n).length = width := by
  simp [bigEndian]

@[simp] theorem twosComplement_length (width : Nat) (n : Int) :
    (twosComplement width n).length = width := by
  simp [twosComplement]

example : twosComplement 2 (-1) = [255, 255] ∧ twosComplement 4 7 = [0, 0, 0, 7] := by decide

/-- A parameter in a binary form of the protocol. -/
inductive WireValue where
  | bool (b : Bool)
  | int2 (n : Int)
  | int4 (n : Int)
  | int8 (n : Int)
  | oid (n : Nat)
  | float4 (x : Float32)
  | float8 (x : Float)
  | text (s : String)
  | bytes (bs : List UInt8)
  | uuid (u : Uuid)
  /-- JSON text, after the version byte when `versioned`. -/
  | json (j : Json) (versioned : Bool)
  /-- Microseconds since 2000-01-01T00:00:00Z. -/
  | instant (micros : Int)
  /-- Days since 2000-01-01. -/
  | day (days : Int)
  /-- Microseconds since midnight. -/
  | timeOfDay (micros : Int)
  deriving Inhabited

namespace WireValue

/-- The bytes of the parameter. -/
def payload : WireValue → List UInt8
  | .bool b => [if b then 1 else 0]
  | .int2 n => twosComplement 2 n
  | .int4 n => twosComplement 4 n
  | .int8 n => twosComplement 8 n
  | .oid n => bigEndian 4 n
  | .float4 x => bigEndian 4 x.toBits.toNat
  | .float8 x => bigEndian 8 x.toBits.toNat
  | .text s => s.toUTF8.toList
  | .bytes bs => bs
  | .uuid u => u.bytes
  | .json j versioned => (if versioned then [1] else []) ++ (Json.render j).toUTF8.toList
  | .instant us => twosComplement 8 us
  | .day d => twosComplement 4 d
  | .timeOfDay us => twosComplement 8 us

/-- The width of a fixed-width form. -/
def width? : WireValue → Option Nat
  | .bool _ => some 1
  | .int2 _ => some 2
  | .int4 _ | .oid _ | .float4 _ | .day _ => some 4
  | .int8 _ | .float8 _ | .instant _ | .timeOfDay _ => some 8
  | .uuid _ => some 16
  | _ => none

theorem payload_length (w : WireValue) (n : Nat) (h : w.width? = some n) (hu : ∀ u, w = .uuid u →
    u.bytes.length = 16) : w.payload.length = n := by
  cases w <;> simp_all [width?, payload]

end WireValue

end EntitySql
