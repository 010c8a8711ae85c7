import EntitySql.Schema.ColumnType
import EntitySql.Dialect.Coerce

/-!
# When two property values are the same

Change tracking compares a property's value with the value last loaded, by the column type:
two instants are the same if they name the same moment (text or epoch milliseconds), two dates if
their first ten bytes agree, two JSON documents after reading any text as JSON, two arrays by
their comma-joined text, two byte strings by their bytes, and numbers by their float value
(text read as a number). Null is the same only as null; everything else compares as JSON.
-/

namespace EntitySql

namespace Equal

/-- An instant from a property value: text in a timestamp format, or epoch milliseconds. -/
def instant? : Json → Option Timestamp
  | .str s => Timestamp.read? s
  | j => j.asI64?.bind fun ms =>
    let t := Timestamp.ofMillis ms
    if t.inRange then some t else none

/-- The first ten bytes of a text when they end on a character boundary; any other value as
JSON text. -/
def dateText : Json → String
  | .str s =>
    let bs := s.toUTF8.toList
    if bs.length < 10 then s
    else
      match String.fromUTF8? (ByteArray.mk (bs.take 10).toArray) with
      | some p => p
      | none => s
  | j => j.render

def scalarText : Json → String
  | .str s => s
  | j => j.render

/-- Text read as JSON where it parses. -/
def document : Json → Json
  | .str s => match Json.parse s with
    | .ok j => j
    | .error _ => .str s
  | j => j

def simpleArrayText : Json → String
  | .arr items => ",".intercalate (items.map scalarText)
  | j => scalarText j

/-- The bytes of a value: an array of byte numbers (others dropped), or the UTF-8 of a text or
of the JSON text. -/
def bytes : Json → List UInt8
  | .arr items => items.filterMap fun b => b.asU64?.bind fun n =>
    if n ≤ 255 then some n.toUInt8 else none
  | .str s => s.toUTF8.toList
  | j => j.render.toUTF8.toList

def number? : Json → Option Float
  | .str s => (Decimal.readF64 s).toOption
  | j => j.asF64?

end Equal

open Equal in
/-- Whether two values of a property of type `t` are the same. -/
def ColumnType.sameValue (t : ColumnType) (a b : Json) : Bool :=
  if a.isNull ∨ b.isNull then a.isNull ∧ b.isNull
  else
    match t with
    | .timestamp =>
      match instant? a, instant? b with
      | some x, some y => x == y
      | _, _ => a == b
    | .date => dateText a == dateText b
    | .json => document a == document b
    | .simpleArray => simpleArrayText a == simpleArrayText b
    | .bytes => Equal.bytes a == Equal.bytes b
    | .enum => scalarText a == scalarText b
    | .integer | .bigInt | .float | .decimal =>
      match number? a, number? b with
      | some x, some y => x == y
      | _, _ => a == b
    | _ => a == b

end EntitySql
