/-!
# Postgres parameter types

The types the server may ask a parameter to be sent as: the scalar types the library knows, and
one-dimensional arrays of them. Each has its name in the server's catalogue (an array type's
name is its element's name after `_`) and its object identifier, which an array's header
carries for its elements.
-/

namespace EntitySql

/-- A scalar Postgres type. -/
inductive PgScalar where
  | bool | int2 | int4 | int8 | oid | float4 | float8 | numeric
  | text | varchar | bpchar | name
  | uuid | json | jsonb | timestamptz | timestamp | date | time | bytea
  deriving DecidableEq, Repr, Inhabited

/-- A Postgres parameter type: a scalar or an array of scalars. -/
inductive PgType where
  | scalar (t : PgScalar)
  | array (element : PgScalar)
  deriving DecidableEq, Repr, Inhabited

namespace PgScalar

def all : List PgScalar :=
  [.bool, .int2, .int4, .int8, .oid, .float4, .float8, .numeric, .text, .varchar, .bpchar, .name,
    .uuid, .json, .jsonb, .timestamptz, .timestamp, .date, .time, .bytea]

/-- The name of the type in the catalogue. -/
def typeName : PgScalar → String
  | .bool => "bool" | .int2 => "int2" | .int4 => "int4" | .int8 => "int8" | .oid => "oid"
  | .float4 => "float4" | .float8 => "float8" | .numeric => "numeric" | .text => "text"
  | .varchar => "varchar" | .bpchar => "bpchar" | .name => "name" | .uuid => "uuid"
  | .json => "json" | .jsonb => "jsonb" | .timestamptz => "timestamptz"
  | .timestamp => "timestamp" | .date => "date" | .time => "time" | .bytea => "bytea"

/-- The object identifier of the type. -/
def objectId : PgScalar → Nat
  | .bool => 16 | .int2 => 21 | .int4 => 23 | .int8 => 20 | .oid => 26 | .float4 => 700
  | .float8 => 701 | .numeric => 1700 | .text => 25 | .varchar => 1043 | .bpchar => 1042
  | .name => 19 | .uuid => 2950 | .json => 114 | .jsonb => 3802 | .timestamptz => 1184
  | .timestamp => 1114 | .date => 1082 | .time => 1083 | .bytea => 17

def isCharacter : PgScalar → Bool
  | .text | .varchar | .bpchar => true
  | _ => false

end PgScalar

namespace PgType

def typeName : PgType → String
  | .scalar t => t.typeName
  | .array t => "_" ++ t.typeName

def isCharacter : PgType → Bool
  | .scalar t => t.isCharacter
  | .array _ => false

/-- The type of a catalogue name. -/
def ofName? (s : String) : Option PgType :=
  match PgScalar.all.find? (·.typeName = s) with
  | some t => some (.scalar t)
  | none =>
    match s.toList with
    | '_' :: rest => (PgScalar.all.find? (·.typeName = String.ofList rest)).map .array
    | _ => none

example : ofName? "_int4" = some (.array .int4) ∧ ofName? "jsonb" = some (.scalar .jsonb) := by
  decide

end PgType

end EntitySql
