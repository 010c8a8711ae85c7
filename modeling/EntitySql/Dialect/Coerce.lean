import EntitySql.Dialect.Basic
import EntitySql.Schema.ColumnType
import EntitySql.Time.Parse
import EntitySql.Json.Parse

/-!
# Column values in and out

`Dialect.toStored` turns the JSON of an entity property into the value bound for a column of a
type, and `Dialect.ofStored` turns a value read from the database back into the property's JSON.
Both follow the column type first and the dialect second: booleans are integers where the
database has no boolean, UUIDs are text where it has no UUID type, JSON is text where it has no
JSON type, and SQLite keeps instants as `YYYY-MM-DD HH:MM:SS.mmm` text. A value that does not
fit the type passes through unchanged.

`Dialect.nativeType` and `Dialect.fullType` name the native type of a column type.
-/

namespace EntitySql

def Timestamp.read? (s : String) : Option Timestamp := Timestamp.parseLenient? s

namespace Dialect

def storesBooleansAsIntegers : Dialect → Bool
  | sqlite | libSql | mySql | mariaDb | oracle => true
  | _ => false

def hasNativeUuid : Dialect → Bool
  | postgres | cockroachDb | duckDb | msSql => true
  | _ => false

def storesJsonAsText : Dialect → Bool
  | sqlite | libSql | msSql | oracle | sapHana => true
  | _ => false

def simpleArrayItem : Json → String
  | .str s => s
  | j => j.render

/-- The value bound for a column of type `t` holding the property value `j`. -/
def toStored (d : Dialect) (t : ColumnType) (j : Json) : Value :=
  if j.isNull then .null
  else
    match t with
    | .integer | .bigInt =>
      match j with
      | .str s => match Decimal.readI64 s with
        | .ok n => .int n
        | .error _ => .text s
      | other => Value.ofJson other
    | .float | .decimal =>
      match j with
      | .int n => .float (Float.ofInt n)
      | .float x => .float x
      | .str s => match Decimal.readF64 s with
        | .ok x => .float x
        | .error _ => .text s
      | other => Value.ofJson other
    | .boolean =>
      let flag := match j with
        | .bool b => b
        | .int _ => j.asI64?.getD 0 ≠ 0
        | .str s => s = "true" ∨ s = "1"
        | _ => false
      if d.storesBooleansAsIntegers then .int (if flag then 1 else 0) else .bool flag
    | .text | .enum =>
      match j with
      | .str s => .text s
      | .int n => if t = .enum then Value.ofJson (.int n) else .text j.render
      | .float x => if t = .enum then Value.ofJson (.float x) else .text j.render
      | other => .text other.render
    | .uuid =>
      match j with
      | .str s =>
        if d.hasNativeUuid then
          match Uuid.parse s with
          | .ok u => .uuid u
          | .error _ => .text s
        else .text s
      | other => Value.ofJson other
    | .timestamp =>
      match j.getStr? >>= Timestamp.read? with
      | some ts => if d.isSqliteFamily then .text ts.sqliteText else .timestamp ts
      | none => Value.ofJson j
    | .date =>
      match j.getStr? >>= CivilDate.parse? with
      | some date => .date date
      | none => Value.ofJson j
    | .time =>
      match j.getStr? >>= ClockTime.parse? with
      | some time => .time time
      | none => Value.ofJson j
    | .json => if d.storesJsonAsText then .text j.render else .json j
    | .simpleArray =>
      match j with
      | .arr items => .text (",".intercalate (items.map simpleArrayItem))
      | other => Value.ofJson other
    | .bytes =>
      match j with
      | .arr items =>
        .bytes (items.filterMap fun b => b.asU64?.bind fun n =>
          if n ≤ 255 then some n.toUInt8 else none)
      | .str s => .bytes s.toUTF8.toList
      | other => Value.ofJson other
    | .array => Value.ofJson j

/-- The property value of a column of type `t` read as `v`. -/
def ofStored (_ : Dialect) (t : ColumnType) (v : Value) : Json :=
  match t, v with
  | _, .null => .null
  | .boolean, .int i => .bool (i ≠ 0)
  | .boolean, .text s => .bool (s = "1" ∨ s = "true" ∨ s = "t")
  | .integer, .text s | .bigInt, .text s =>
    match Decimal.readI64 s with
    | .ok n => .int n
    | .error _ => .str s
  | .float, .text s | .decimal, .text s =>
    match Decimal.readF64 s with
    | .ok x => if Decimal.isFinite x then .float x else .str s
    | .error _ => .str s
  | .timestamp, .text s =>
    match Timestamp.read? s with
    | some ts => .str ts.rfc3339
    | none => .str s
  | .json, .text s =>
    match Json.parse s with
    | .ok j => j
    | .error _ => .str s
  | .simpleArray, .text s =>
    if s.isEmpty then .arr [] else .arr ((s.toList.splitOn ',').map fun cs => .str (String.ofList cs))
  | .uuid, .bytes bs =>
    match Uuid.ofBytes? bs with
    | some u => .str u.hyphenated
    | none => .null
  | _, other => other.toJson

/-- The native type name of a column type. -/
def nativeType (d : Dialect) (t : ColumnType) : String :=
  let fallback : String := match t with
    | .integer => "integer"
    | .bigInt => "bigint"
    | .float => "double precision"
    | .decimal => "decimal"
    | .boolean => "boolean"
    | .text | .enum | .simpleArray => "text"
    | .timestamp => "timestamp"
    | .date => "date"
    | .time => "time"
    | .json => "text"
    | .bytes => "blob"
    | .array => "text"
    | .uuid => "text"
  match d, t with
  | postgres, .integer | cockroachDb, .integer => "integer"
  | postgres, .timestamp | cockroachDb, .timestamp => "timestamp with time zone"
  | postgres, .json | cockroachDb, .json => "jsonb"
  | postgres, .bytes | cockroachDb, .bytes => "bytea"
  | postgres, .uuid | cockroachDb, .uuid | duckDb, .uuid => "uuid"
  | mySql, .integer | mariaDb, .integer => "int"
  | mySql, .boolean | mariaDb, .boolean => "tinyint"
  | mySql, .timestamp | mariaDb, .timestamp => "datetime"
  | mySql, .uuid | mariaDb, .uuid | mySql, .text | mariaDb, .text
  | mySql, .enum | mariaDb, .enum => "varchar"
  | mySql, .bytes | mariaDb, .bytes => "blob"
  | mySql, .json | mariaDb, .json | duckDb, .json => "json"
  | sqlite, .integer | libSql, .integer | sqlite, .bigInt | libSql, .bigInt
  | sqlite, .boolean | libSql, .boolean => "integer"
  | sqlite, .float | libSql, .float | sqlite, .decimal | libSql, .decimal => "real"
  | sqlite, .bytes | libSql, .bytes => "blob"
  | sqlite, _ | libSql, _ => "text"
  | msSql, .integer => "int"
  | msSql, .boolean => "bit"
  | msSql, .timestamp => "datetime2"
  | msSql, .uuid => "uniqueidentifier"
  | msSql, .text | msSql, .enum | msSql, .json | msSql, .simpleArray => "nvarchar"
  | msSql, .bytes => "varbinary"
  | oracle, .integer | oracle, .bigInt | oracle, .boolean | oracle, .float
  | oracle, .decimal => "number"
  | oracle, .text | oracle, .enum | oracle, .uuid => "varchar2"
  | oracle, .json | oracle, .simpleArray => "clob"
  | oracle, .bytes => "blob"
  | sapHana, .text | sapHana, .enum | sapHana, .uuid => "nvarchar"
  | sapHana, .json | sapHana, .simpleArray => "nclob"
  | spanner, .integer | spanner, .bigInt => "int64"
  | spanner, .float | spanner, .decimal => "float64"
  | spanner, .boolean => "bool"
  | spanner, .text | spanner, .enum | spanner, .uuid | spanner, .simpleArray => "string"
  | spanner, .bytes => "bytes"
  | _, _ => fallback

/-- The native type with its length or array suffix, as written in a table definition. -/
def fullType (d : Dialect) (t : ColumnType) : String :=
  let base := d.nativeType t
  if d.isMySqlFamily ∧ t = .uuid then base ++ "(36)"
  else if base = "varchar" ∨ base = "nvarchar" ∨ base = "varchar2" then base ++ "(255)"
  else if d = spanner ∧ base = "string" then base ++ "(MAX)"
  else if (d.isPostgresFamily ∨ d = duckDb) ∧ t = .array then base ++ "[]"
  else base

end Dialect

end EntitySql
