import EntitySql.Value.Basic
import EntitySql.Json.Parse
import EntitySql.Time.Parse

/-!
# Reading typed data out of values

Each reader takes a value to one type and fails (`none`) where the value does not hold that type.
Numbers convert between integer and float where nothing is lost, and a text is read when it is
the written form of the type.
-/

namespace EntitySql

namespace Value

/-- A boolean: a boolean, or an integer (nonzero is true). -/
def toBool? : Value → Option Bool
  | .bool b => some b
  | .int i => some (i ≠ 0)
  | _ => none

def toI32? (v : Value) : Option Int :=
  v.asI64?.bind fun n => if -2147483648 ≤ n ∧ n ≤ 2147483647 then some n else none

/-- A float: a float, an integer rounded to the nearest float, or a text that reads as one. -/
def toF64? : Value → Option Float
  | .float x => some x
  | .int i => some (Float.ofInt i)
  | .text s => (Decimal.readF64 s).toOption
  | _ => none

/-- A text: a text as itself, any other non-null value as its key text. -/
def toText? : Value → Option String
  | .null => none
  | .text s => some s
  | other => some other.keyText

/-- A UUID: a UUID, or a text in one of its written forms. -/
def toUuid? : Value → Option Uuid
  | .uuid u => some u
  | .text s => (Uuid.parse s).toOption
  | _ => none

/-- An instant: an instant, or RFC 3339 text. -/
def toTimestamp? : Value → Option Timestamp
  | .timestamp t => some t
  | .text s => (Timestamp.parseRfc3339 s).toOption
  | _ => none

/-- A JSON document: a document, a text that parses as one, or any other value as JSON. -/
def toDocument? : Value → Option Json
  | .json j => some j
  | .text s => (Json.parse s).toOption
  | other => some other.toJson

def toOption? {α : Type} (read : Value → Option α) : Value → Option (Option α)
  | .null => some none
  | other => (read other).map some

end Value

end EntitySql
