import EntitySql.Postgres.Type
import EntitySql.Postgres.Wire
import EntitySql.Value.Basic
import EntitySql.Json.Parse
import EntitySql.Time.Parse

/-!
# Sending a value as a parameter

A value adapts to whatever type the server asks of its parameter. `Value.toWire` chooses the
binary form, converting on the way:

* a boolean asked as an integer is `0` or `1`; as anything else it is one byte;
* an integer is narrowed to `int2`, `int4` or `oid` (out of range is an error, never wrapped),
  rounded to `float4` or `float8`, written in digits for a character type, tested against zero
  for `bool`, and sent in eight bytes for every other type;
* a float is rounded to `float4`, written for a character type as its shortest positional text,
  and sent in eight bytes otherwise;
* a text is read as the value the type asks for (a UUID, JSON, an integer, a float or an RFC 3339
  instant), and sent as itself for every other type;
* a UUID, an instant and a JSON document are written as text for character types (an instant's
  text only for `text` and `varchar`), an instant is cut to its UTC date for `date`;
* bytes, dates and times go as they are.

No form is checked against the type: a value that falls through to its own form sends that form
whatever the type (a float asked as `int4` still sends its eight bytes). `numeric` is refused
for every value that would need it.

`Value.encode` adds null and arrays: null sends no bytes, and an array, only with an array type,
sends the one-dimensional array header (dimension count, null flag, element type, length, lower
bound 1) and then each element as its length and bytes, or length `-1` for null.
-/

namespace EntitySql

/-- Why a value cannot be sent as a parameter of some type. -/
inductive EncodeError where
  /-- An integer does not fit the type: above it when `above`, else below it. -/
  | outOfRange (above : Bool)
  /-- A text is no integer. -/
  | intText (e : IntReadError)
  /-- A text is no float. -/
  | floatText (message : String)
  /-- A text is no UUID. -/
  | uuidText (message : String)
  /-- A text is no JSON. -/
  | jsonText (e : JsonError)
  /-- A text is no RFC 3339 instant. -/
  | instantText (e : TimeParseError)
  /-- Decimal numbers are not supported. -/
  | numericUnsupported
  /-- An array asked as a scalar type. -/
  | notArrayType
  deriving Inhabited

namespace EncodeError

/-- The text of the error. -/
def message : EncodeError → String
  | .outOfRange true => "number too large to fit in target type"
  | .outOfRange false => "number too small to fit in target type"
  | .intText e => e.message
  | .floatText m => m
  | .uuidText m => m
  | .jsonText e => e.message
  | .instantText e => e.message
  | .numericUnsupported => "binding NUMERIC parameters requires the `rust_decimal` feature"
  | .notArrayType => "expected array type"

end EncodeError

/-- An integer within `[lo, hi]`, or the side it leaves the range on. -/
def narrow (lo hi n : Int) : Except EncodeError Int :=
  if n < lo then .error (.outOfRange false)
  else if hi < n then .error (.outOfRange true)
  else .ok n

def pgEpochSeconds : Int := 946684800

def pgEpochDays : Int := 10957

def Timestamp.pgMicros (t : Timestamp) : Int :=
  Int.tdiv ((t.seconds - pgEpochSeconds) * 1000000000 + t.nanos) 1000

def CivilDate.pgDays (d : CivilDate) : Int := d.toDays - pgEpochDays

def ClockTime.micros (t : ClockTime) : Int := (t.secondOfDay * 1000000 + t.nano / 1000 : Nat)

namespace WireValue

/-- An integer asked as a type. -/
def ofInt (t : PgType) (n : Int) : Except EncodeError WireValue :=
  match t with
  | .scalar .int2 => .int2 <$> narrow (-32768) 32767 n
  | .scalar .int4 => .int4 <$> narrow (-2147483648) 2147483647 n
  | .scalar .oid => (fun m => .oid m.toNat) <$> narrow 0 4294967295 n
  | .scalar .float4 => .ok (.float4 (Float32.ofInt n))
  | .scalar .float8 => .ok (.float8 (Float.ofInt n))
  | .scalar .numeric => .error .numericUnsupported
  | .scalar .text | .scalar .varchar | .scalar .bpchar => .ok (.text (toString n))
  | .scalar .bool => .ok (.bool (n != 0))
  | _ => .ok (.int8 n)

/-- A float asked as a type. -/
def ofFloat (t : PgType) (x : Float) : Except EncodeError WireValue :=
  match t with
  | .scalar .float4 => .ok (.float4 x.toFloat32)
  | .scalar .numeric => .error .numericUnsupported
  | .scalar .text | .scalar .varchar | .scalar .bpchar => .ok (.text (Float.plainText x))
  | _ => .ok (.float8 x)

/-- An instant asked as a type. -/
def ofTimestamp (t : PgType) (ts : Timestamp) : Except EncodeError WireValue :=
  match t with
  | .scalar .date => .ok (.day ts.date.pgDays)
  | .scalar .text | .scalar .varchar => .ok (.text ts.rfc3339)
  | _ => .ok (.instant ts.pgMicros)

/-- A JSON document asked as a type. -/
def ofJson (t : PgType) (j : Json) : WireValue :=
  match t with
  | .scalar .text | .scalar .varchar => .text (Json.render j)
  | _ => .json j (t = .scalar .jsonb)

/-- A text asked as a type. -/
def ofText (t : PgType) (s : String) : Except EncodeError WireValue :=
  match t with
  | .scalar .uuid =>
    match Uuid.parse s with
    | .ok u => .ok (.uuid u)
    | .error m => .error (.uuidText m)
  | .scalar .json | .scalar .jsonb =>
    match Json.parse s with
    | .ok j => .ok (ofJson t j)
    | .error e => .error (.jsonText e)
  | .scalar .int2 | .scalar .int4 | .scalar .int8 =>
    match Decimal.readI64 s with
    | .ok n => ofInt t n
    | .error e => .error (.intText e)
  | .scalar .float4 | .scalar .float8 =>
    match Decimal.readF64 s with
    | .ok x => ofFloat t x
    | .error m => .error (.floatText m)
  | .scalar .numeric => .error .numericUnsupported
  | .scalar .timestamptz | .scalar .timestamp =>
    match Timestamp.parseRfc3339 s with
    | .ok ts => ofTimestamp t ts
    | .error e => .error (.instantText e)
  | _ => .ok (.text s)

end WireValue

namespace Value

/-- The binary form of a value that is neither null nor an array, asked as a type. -/
def toWire (t : PgType) : Value → Except EncodeError WireValue
  | .bool b =>
    match t with
    | .scalar .int2 | .scalar .int4 | .scalar .int8 => WireValue.ofInt t (if b then 1 else 0)
    | _ => .ok (.bool b)
  | .int n => WireValue.ofInt t n
  | .float x => WireValue.ofFloat t x
  | .text s => WireValue.ofText t s
  | .bytes bs => .ok (.bytes bs)
  | .uuid u => .ok (if t.isCharacter then .text u.hyphenated else .uuid u)
  | .timestamp ts => WireValue.ofTimestamp t ts
  | .date d => .ok (.day d.pgDays)
  | .time c => .ok (.timeOfDay c.micros)
  | .json j => .ok (WireValue.ofJson t j)
  | .null | .array _ => .error .notArrayType

def arrayCell : Option (List UInt8) → List UInt8
  | some bs => twosComplement 4 bs.length ++ bs
  | none => twosComplement 4 (-1)

def arrayHeader (element : PgScalar) (hasNulls : Bool) (n : Nat) : List UInt8 :=
  twosComplement 4 1 ++ twosComplement 4 (if hasNulls then 1 else 0) ++
    bigEndian 4 element.objectId ++ twosComplement 4 n ++ twosComplement 4 1

mutual

/-- The bytes of a value asked as a type, or `none` for null. -/
def encode (t : PgType) : Value → Except EncodeError (Option (List UInt8))
  | .null => .ok none
  | .array items =>
    match t with
    | .array element => do
      let cells ← encodeItems element items
      pure (some (arrayHeader element (cells.any Option.isNone) cells.length ++
        (cells.map arrayCell).flatten))
    | .scalar _ => .error .notArrayType
  | v => (some ·.payload) <$> v.toWire t

/-- The cells of the elements of an array, each asked as the element type. -/
def encodeItems (element : PgScalar) : List Value → Except EncodeError (List (Option (List UInt8)))
  | [] => .ok []
  | v :: vs => do
    let c ← encode (.scalar element) v
    let cs ← encodeItems element vs
    pure (c :: cs)

end

end Value

end EntitySql
