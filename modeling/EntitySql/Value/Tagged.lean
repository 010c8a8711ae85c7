import EntitySql.Value.Basic
import EntitySql.Json.Decode
import EntitySql.Time.Parse

/-!
# The tagged form of a value

A value written as JSON that keeps its kind: `{"type": kind, "value": content}`, or just
`{"type": "null"}`. The kinds are `null`, `bool`, `int`, `float`, `text`, `bytes`, `uuid`,
`timestamp`, `date`, `time`, `json` and `array`. The content of an instant is
`YYYY-MM-DDTHH:MM:SS[.f]Z`, of a date `YYYY-MM-DD`, of a time `HH:MM:SS[.f]`, of bytes an array of
numbers, and of an array the tagged forms of its items.

`Value.ofTagged` reads the form back. It also takes a two-item array `[kind, content]`, ignores
other keys, and refuses the rest with the reason: a missing or repeated key, an unknown kind, or
content of the wrong type.
-/

namespace EntitySql

namespace Value

def kindNames : List String :=
  ["null", "bool", "int", "float", "text", "bytes", "uuid", "timestamp", "date", "time", "json",
    "array"]

/-- The tagged form of a value. -/
def toTagged : Value → Json
  | .null => Json.ofFields [("type", .str "null")]
  | .bool b => Json.ofFields [("type", .str "bool"), ("value", .bool b)]
  | .int n => Json.ofFields [("type", .str "int"), ("value", .int n)]
  | .float x => Json.ofFields [("type", .str "float"), ("value", floatJson x)]
  | .text s => Json.ofFields [("type", .str "text"), ("value", .str s)]
  | .bytes bs => Json.ofFields [("type", .str "bytes"), ("value", .arr (bs.map fun b => .int b.toNat))]
  | .uuid u => Json.ofFields [("type", .str "uuid"), ("value", .str u.hyphenated)]
  | .timestamp t => Json.ofFields [("type", .str "timestamp"), ("value", .str t.isoUtc)]
  | .date d => Json.ofFields [("type", .str "date"), ("value", .str d.render)]
  | .time t => Json.ofFields [("type", .str "time"), ("value", .str t.render)]
  | .json j => Json.ofFields [("type", .str "json"), ("value", j)]
  | .array items => Json.ofFields [("type", .str "array"), ("value", .arr (items.map toTagged))]

/-- Read an instant as the tagged form writes it, also with another offset or a year of another
width; a refusal is worded as the RFC 3339 reader words it. -/
def readInstant (s : String) : Except String Timestamp :=
  match Timestamp.parseRelaxed? s with
  | some t => .ok t
  | none =>
    match Timestamp.parseRfc3339 s with
    | .ok t => .ok t
    | .error e => .error e.message

/-- The content of a kind. -/
def contentOf (kind : String) (c : Json) : Except String Value :=
  if kind = "bool" then .bool <$> Json.expectBool c
  else if kind = "int" then .int <$> Json.expectI64 c
  else if kind = "float" then .float <$> Json.expectF64 c
  else if kind = "text" then .text <$> Json.expectStr c
  else if kind = "bytes" then do
    let xs ← Json.expectArr c
    .bytes <$> Json.mapItems Json.expectU8 xs
  else if kind = "uuid" then
    match c with
    | .str s => match Uuid.parse s with
      | .ok u => .ok (.uuid u)
      | .error e => .error ("UUID parsing failed: " ++ e)
    | j => .error (Json.invalidType j "a formatted UUID string")
  else if kind = "timestamp" then
    match c with
    | .str s => .timestamp <$> readInstant s
    | j => .error (Json.invalidType j "an RFC 3339 formatted date and time string")
  else if kind = "date" then
    match c with
    | .str s =>
      match (TimeFields.read (relaxedDatePattern ++ [.blank]) s.toList {}).bind TimeFields.date? with
      | some d => .ok (.date d)
      | none => .error "input contains invalid characters"
    | j => .error (Json.invalidType j "a formatted date string")
  else if kind = "time" then
    match c with
    | .str s =>
      match (TimeFields.read relaxedTimePattern s.toList {}).bind TimeFields.time? with
      | some t => .ok (.time t)
      | none => .error "input contains invalid characters"
    | j => .error (Json.invalidType j "a formatted time string")
  else if kind = "json" then .ok (.json c)
  else .error "unknown kind"

def unknownKind (k : String) : String :=
  "unknown variant `" ++ k ++ "`, expected one of " ++
    ", ".intercalate (kindNames.map fun n => "`" ++ n ++ "`")

/-- Read a tagged value. -/
def ofTagged (j : Json) : Except String Value :=
  let rec go (fuel : Nat) (j : Json) : Except String Value :=
    match fuel with
    | 0 => .error "recursion limit exceeded"
    | fuel + 1 =>
      let withKind (k : String) (content : Option Json) : Except String Value :=
        if !kindNames.contains k then .error (unknownKind k)
        else if k = "null" then
          match content with
          | none => .ok .null
          | some .null => .ok .null
          | some c => .error (Json.invalidType c "unit")
        else
          match content with
          | none => .error "missing field `value`"
          | some c =>
            if k = "array" then do
              let xs ← Json.expectArr c
              .array <$> Json.mapItems (go fuel) xs
            else contentOf k c
      match j with
      | .obj fs =>
        match Json.findField? "type" fs with
        | none => .error "missing field `type`"
        | some (.str k) => withKind k (Json.findField? "value" fs)
        | some other => .error (Json.invalidType other "variant identifier")
      | .arr [.str k] => withKind k none
      | .arr [.str k, c] => withKind k (some c)
      | .arr [] => .error "invalid length 0, expected adjacently tagged enum Value"
      | other => .error (Json.invalidType other "adjacently tagged enum Value")
  go (j.render.length + 1) j

end Value

end EntitySql
