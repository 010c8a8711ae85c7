/-!
# Column types

The logical type of a column. Each dialect maps it to a native type name and converts values
to and from it.
-/

namespace EntitySql

/-- The logical type of a column. -/
inductive ColumnType where
  | integer
  | bigInt
  | float
  | decimal
  | boolean
  | text
  | uuid
  | timestamp
  | date
  | time
  | json
  | bytes
  | enum
  /-- An array stored as comma-separated text. -/
  | simpleArray
  /-- A native array. -/
  | array
  deriving DecidableEq, Repr, Inhabited

namespace ColumnType

def all : List ColumnType :=
  [integer, bigInt, float, decimal, boolean, text, uuid, timestamp, date, time, json, bytes, enum,
    simpleArray, array]

/-- The name of a column type. -/
def name : ColumnType → String
  | integer => "Integer"
  | bigInt => "BigInt"
  | float => "Float"
  | decimal => "Decimal"
  | boolean => "Boolean"
  | text => "Text"
  | uuid => "Uuid"
  | timestamp => "Timestamp"
  | date => "Date"
  | time => "Time"
  | json => "Json"
  | bytes => "Bytes"
  | enum => "Enum"
  | simpleArray => "SimpleArray"
  | array => "Array"

def ofName? (s : String) : Option ColumnType := all.find? (·.name = s)

def isNumeric : ColumnType → Bool
  | integer | bigInt | float | decimal => true
  | _ => false

def isTemporal : ColumnType → Bool
  | timestamp | date | time => true
  | _ => false

end ColumnType

end EntitySql
