import EntitySql.Json.Basic
import EntitySql.Decimal.Text

/-!
# Reading typed data out of JSON

Small readers that take a typed piece out of a JSON value or say why they cannot. A refusal reads
`invalid type: <what was found>, expected <what was wanted>`; what was found is written as
`null`, ``boolean `true` ``, ``integer `1` ``, ``floating point `1.5` `` (a whole float keeps
`.0`), `string "a"`, `sequence` or `map`. A number of the right kind but out of range is an
`invalid value` instead.
-/

namespace EntitySql

namespace Json

/-- A text quoted with escapes for the quote, the backslash and control characters. -/
def inspectString (s : String) : String :=
  let esc (c : Char) : String :=
    if c = '"' then "\\\"" else if c = '\\' then "\\\\"
    else if c = '\n' then "\\n" else if c = '\r' then "\\r" else if c = '\t' then "\\t"
    else if c.toNat = 0 then "\\0"
    else if c.toNat < 32 ∨ c.toNat = 127 ∨ (128 ≤ c.toNat ∧ c.toNat < 160) then
      "\\u" ++ "\x7b" ++ String.ofList (Nat.toDigits 16 c.toNat) ++ "\x7d"
    else String.singleton c
  "\"" ++ String.join (s.toList.map esc) ++ "\""

def floatName (x : Float) : String :=
  let t := Float.plainText x
  if Decimal.isFinite x ∧ !t.toList.contains '.' then t ++ ".0" else t

/-- What a value is, as named in a refusal. -/
def unexpected : Json → String
  | .null => "null"
  | .bool b => "boolean `" ++ (if b then "true" else "false") ++ "`"
  | .int n => "integer `" ++ toString n ++ "`"
  | .float x => "floating point `" ++ floatName x ++ "`"
  | .str s => "string " ++ inspectString s
  | .arr _ => "sequence"
  | .obj _ => "map"

def invalidType (j : Json) (expected : String) : String :=
  "invalid type: " ++ unexpected j ++ ", expected " ++ expected

def expectStr : Json → Except String String
  | .str s => .ok s
  | j => .error (invalidType j "a string")

def expectBool : Json → Except String Bool
  | .bool b => .ok b
  | j => .error (invalidType j "a boolean")

/-- A signed 64-bit integer. -/
def expectI64 : Json → Except String Int
  | .int n =>
    if i64Min ≤ n ∧ n ≤ i64Max then .ok n
    else .error ("invalid value: integer `" ++ toString n ++ "`, expected i64")
  | j => .error (invalidType j "i64")

/-- Any number as a float. -/
def expectF64 : Json → Except String Float
  | .int n => .ok (Float.ofInt n)
  | .float x => .ok x
  | j => .error (invalidType j "f64")

/-- A byte. -/
def expectU8 : Json → Except String UInt8
  | .int n =>
    if 0 ≤ n ∧ n ≤ 255 then .ok n.toNat.toUInt8
    else .error ("invalid value: integer `" ++ toString n ++ "`, expected u8")
  | j => .error (invalidType j "u8")

def expectArr : Json → Except String (List Json)
  | .arr xs => .ok xs
  | j => .error (invalidType j "a sequence")

/-- Read every item of a list. -/
def mapItems {α : Type} (f : Json → Except String α) : List Json → Except String (List α)
  | [] => .ok []
  | x :: xs => do
    let a ← f x
    let rest ← mapItems f xs
    pure (a :: rest)

end Json

end EntitySql
