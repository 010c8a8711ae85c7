import EntitySql.Value.Basic
import EntitySql.Json.Decode

/-!
# Diagnostic text of values

The text of a value in error messages: the kind and its content in parentheses, such as
`Int(1)`, `Float(1.5)`, `Text("a\"b")`, `Bytes([1, 255])` or `Array([Int(1), Null])`. Floats use
`FloatStyle.inspect` (whole numbers keep `.0`), texts are quoted with escapes, instants end in `Z`,
and a JSON document shows its structure: `Object {"k": Number(1)}`.
-/

namespace EntitySql

namespace Json

mutual

/-- The diagnostic text of a JSON value. -/
def inspect : Json → String
  | .null => "Null"
  | .bool b => "Bool(" ++ (if b then "true" else "false") ++ ")"
  | .int n => "Number(" ++ toString n ++ ")"
  | .float x => "Number(" ++ floatText x ++ ")"
  | .str s => "String(" ++ inspectString s ++ ")"
  | .arr items => "Array [" ++ inspectItems items ++ "]"
  | .obj fields => "Object \x7b" ++ inspectFields fields ++ "\x7d"

/-- The diagnostic text of array items. -/
def inspectItems : List Json → String
  | [] => ""
  | [x] => inspect x
  | x :: rest => inspect x ++ ", " ++ inspectItems rest

/-- The diagnostic text of object fields. -/
def inspectFields : List (String × Json) → String
  | [] => ""
  | [(k, v)] => inspectString k ++ ": " ++ inspect v
  | (k, v) :: rest => inspectString k ++ ": " ++ inspect v ++ ", " ++ inspectFields rest

end

end Json

namespace Value

mutual

/-- The diagnostic text of a value. -/
def inspect : Value → String
  | .null => "Null"
  | .bool b => "Bool(" ++ (if b then "true" else "false") ++ ")"
  | .int n => "Int(" ++ toString n ++ ")"
  | .float x => "Float(" ++ Float.inspectText x ++ ")"
  | .text s => "Text(" ++ Json.inspectString s ++ ")"
  | .bytes bs => "Bytes([" ++ ", ".intercalate (bs.map fun b => toString b.toNat) ++ "])"
  | .uuid u => "Uuid(" ++ u.hyphenated ++ ")"
  | .timestamp t => "Timestamp(" ++ t.isoUtc ++ ")"
  | .date d => "Date(" ++ d.render ++ ")"
  | .time t => "Time(" ++ t.render ++ ")"
  | .json j => "Json(" ++ j.inspect ++ ")"
  | .array items => "Array([" ++ inspectItems items ++ "])"

/-- The diagnostic text of a list of values, separated by commas. -/
def inspectItems : List Value → String
  | [] => ""
  | [x] => inspect x
  | x :: rest => inspect x ++ ", " ++ inspectItems rest

end

def inspectList (vs : List Value) : String := "[" ++ inspectItems vs ++ "]"

end Value

end EntitySql
