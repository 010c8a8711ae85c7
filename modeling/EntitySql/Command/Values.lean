import EntitySql.Command.DialectTable
import EntitySql.Dialect.Placeholder
import EntitySql.Change.Equal
import EntitySql.Monitor.Statement
import EntitySql.Cache.Memory
import EntitySql.Runner.Retry

/-!
# Requests on values, rows, the cache and the retry schedule

Values are shown through every reader of the library; rows through their accessors and typed
reads; the cache by running a list of operations on one cache; the retry schedule by its delays.
-/

namespace EntitySql

namespace Values

def floatOrNote (x : Float) : Json :=
  if Decimal.isFinite x then .float x else .str "non-finite"

def optJson {α : Type} (f : α → Json) : Option α → Json
  | some a => f a
  | none => .null

def someJson : Option (Option Int) → Json
  | some inner => Json.ofFields [("some", optJson .int inner)]
  | none => .null

/-- Every typed reading of a value. -/
def readings (v : Value) : Json :=
  Json.ofFields [
    ("bool", optJson .bool v.toBool?),
    ("i64", optJson .int v.asI64?),
    ("i32", optJson .int v.toI32?),
    ("json", optJson id v.toDocument?),
    ("f64", optJson floatOrNote v.toF64?),
    ("string", optJson .str v.toText?),
    ("uuid", optJson (fun u => .str u.hyphenated) v.toUuid?),
    ("timestamp", optJson (fun t => .str t.rfc3339) v.toTimestamp?),
    ("opt_i64", someJson (Value.toOption? Value.asI64? v)),
    ("value", v.toTagged)]

/-- A typed read of a row column, by the name of the type. -/
def typedRead (r : Row) (column type : String) : Reply Json :=
  let wrap {α : Type} (read : Value → Option α) (f : α → Json) : Json :=
    match r.read column read with
    | .ok a => Json.ofFields [("ok", f a)]
    | .error e => Json.ofFields [("error", e.toJson)]
  match type with
  | "bool" => .ok (wrap Value.toBool? .bool)
  | "i64" => .ok (wrap Value.asI64? .int)
  | "i32" => .ok (wrap Value.toI32? .int)
  | "string" => .ok (wrap Value.toText? .str)
  | "json" => .ok (wrap Value.toDocument? id)
  | "f64" => .ok (wrap Value.toF64? floatOrNote)
  | "uuid" => .ok (wrap Value.toUuid? fun u => .str u.hyphenated)
  | "timestamp" => .ok (wrap Value.toTimestamp? fun t => .str t.rfc3339)
  | "value" => .ok (wrap some Value.toTagged)
  | "option_i64" => .ok (wrap (Value.toOption? Value.asI64?) fun o =>
      Json.ofFields [("some", optJson .int o)])
  | other => Reply.malformed ("unknown type " ++ other)

/-- An integer within bounds. -/
def intIn (j : Json) (lo hi : Int) : Reply Int :=
  match j with
  | .int n => if lo ≤ n ∧ n ≤ hi then .ok n else Reply.malformed "integer out of range"
  | _ => Reply.malformed "expected an integer"

/-- A text. -/
def text (j : Json) : Reply String :=
  match j with
  | .str s => .ok s
  | _ => Reply.malformed "expected a string"

/-- A value built from data of a named kind. -/
def valueFrom (kind : String) (j : Json) : Reply Json :=
  let tagged (r : Reply Value) : Reply Json := r.map Value.toTagged
  match kind with
  | "bool" => tagged (match j with
    | .bool b => .ok (.bool b)
    | _ => Reply.malformed "expected a boolean")
  | "i16" => tagged (.int <$> intIn j (-32768) 32767)
  | "i32" => tagged (.int <$> intIn j (-2147483648) 2147483647)
  | "i64" => tagged (.int <$> intIn j Json.i64Min Json.i64Max)
  | "u32" => tagged (.int <$> intIn j 0 4294967295)
  | "f32" => tagged (match j.asF64? with
    | some x => .ok (.float x.toFloat32.toFloat)
    | none => Reply.malformed "expected a number")
  | "f64" => tagged (match j.asF64? with
    | some x => .ok (.float x)
    | none => Reply.malformed "expected a number")
  | "str" | "string" => tagged (.text <$> text j)
  | "bytes" => tagged (match j with
    | .arr items => (Value.bytes ∘ List.map (fun n => n.toNat.toUInt8)) <$>
        items.mapM (fun b => intIn b 0 255)
    | _ => Reply.malformed "expected bytes")
  | "uuid" => tagged (do
    let s ← text j
    match Uuid.parse s with
    | .ok u => pure (.uuid u)
    | .error m => Reply.malformed m)
  | "datetime" => tagged (do
    let s ← text j
    match Timestamp.parseRfc3339 s with
    | .ok t => pure (.timestamp t)
    | .error e => Reply.malformed e.message)
  | "naive_datetime" => tagged (do
    let s ← text j
    match Timestamp.parseNaive? s (.literal 'T') with
    | some t => pure (.timestamp t)
    | none => Reply.malformed "invalid date and time")
  | "date" => tagged (do
    let s ← text j
    match CivilDate.parse? s with
    | some d => pure (.date d)
    | none => Reply.malformed "invalid date")
  | "time" => tagged (do
    let s ← text j
    match ClockTime.parse? s with
    | some t => pure (.time t)
    | none => Reply.malformed "invalid time")
  | "option_i64" => tagged (match j with
    | .null => .ok .null
    | _ => .int <$> intIn j Json.i64Min Json.i64Max)
  | "option_str" => tagged (match j with
    | .null => .ok .null
    | _ => .text <$> text j)
  | "array_i64" => tagged (match j with
    | .arr items => (Value.array ∘ List.map Value.int) <$>
        items.mapM (fun x => intIn x Json.i64Min Json.i64Max)
    | _ => Reply.malformed "expected an array")
  | "array_str" => tagged (match j with
    | .arr items => (Value.array ∘ List.map Value.text) <$> items.mapM text
    | _ => Reply.malformed "expected an array")
  | "array_option_i64" => tagged (match j with
    | .arr items => Value.array <$> items.mapM (fun
        | .null => .ok .null
        | x => .int <$> intIn x Json.i64Min Json.i64Max)
    | _ => Reply.malformed "expected an array")
  | "object" => .ok (match j with
    | .obj _ => j
    | _ => .obj [])
  | other => Reply.malformed ("unknown source type " ++ other)

/-- The answer to one cache operation, and the cache after it. -/
def cacheStep (c : ResultCache) (op : Json) : Reply (Json × ResultCache) := do
  let kind ← Request.str op "do"
  match kind with
  | "store" =>
    let key ← Request.str op "key"
    let result ← Request.field op "result"
    let ms := (← Request.nat? op "ms").getD 60000
    let (previous, c) ← match ← Request.str? op "previous" with
      | some p => pure (c.get p)
      | none => pure (none, c)
    pure (.null, c.store key previous result (ms * 1000000))
  | "get" =>
    let key ← Request.str op "key"
    let (found, c) := c.get key
    match found with
    | none => pure (Json.ofFields [("found", .bool false)], c)
    | some e =>
      let rows := Reply.orError e.rows fun rows =>
        .arr (rows.map fun r => .arr (r.cells.map fun (k, v) => .arr [.str k, v.toTagged]))
      pure (Json.ofFields [("found", .bool true), ("identifier", .str e.identifier),
        ("expired", .bool e.isExpired), ("result", e.result), ("rows", rows)], c)
  | "remove" => pure (.null, c.remove (← Request.strs (← Request.arr op "keys")))
  | "clear" => pure (.null, c.clear)
  | "stats" =>
    let s := c.stats
    pure (Json.ofFields [("hits", .int s.hits), ("misses", .int s.misses),
      ("evictions", .int s.evictions), ("entries", .int s.entries)], c)
  | "len" => pure (Json.ofFields [("len", .int c.map.size),
      ("is_empty", .bool c.map.isEmpty)], c)
  | "contains" => pure (.bool (c.contains (← Request.str op "key")), c)
  | other => Reply.malformed ("unknown cache operation " ++ other)

/-- Run cache operations in order, collecting their answers. -/
def cacheRun (c : ResultCache) : List Json → Reply (List Json)
  | [] => .ok []
  | op :: rest => do
    let (answer, c) ← cacheStep c op
    pure (answer :: (← cacheRun c rest))

def rowPairs (r : Row) : Json := .arr (r.cells.map fun (k, v) => .arr [.str k, v.toTagged])

open Request in
/-- Answer a request on values, if it is one. -/
def answer? (op : String) (req : Json) : Option (Reply Json) :=
  match op with
  | "escape_params" => some do
    let d ← dialect req
    let named ← namedValues (← field req "named")
    let native ← values (← arrOrEmpty req "native")
    let (sql, params) ← Reply.lift (d.bindNamed (← str req "sql") named native)
    pure (Json.ofFields [("sql", .str sql), ("params", .arr (params.map Value.toTagged))])
  | "value" => some do
    let v ← value (← field req "value")
    pure (Json.ofFields [("tagged", v.toTagged), ("is_null", .bool v.isNull),
      ("is_numeric", .bool v.isNumeric), ("as_i64", optJson .int v.asI64?),
      ("as_str", optJson .str v.asStr?), ("numeric_literal", optJson .str v.numericLiteral?),
      ("to_json", v.toJson), ("key_text", .str v.keyText)])
  | "from_value" => some do
    pure (readings (← value (← field req "value")))
  | "value_from" => some do
    valueFrom (← str req "from") (← field req "value")
  | "prepare_persistent" => some do
    let d ← dialect req
    let t ← columnType (← str req "column_type")
    pure (d.toStored t (← field req "value")).toTagged
  | "prepare_hydrated" => some do
    let d ← dialect req
    let t ← columnType (← str req "column_type")
    pure (d.ofStored t (← value (← field req "value")))
  | "values_equal" => some do
    let t ← columnType (← str req "column_type")
    pure (.bool (t.sameValue (← field req "a") (← field req "b")))
  | "query_type" => some do
    pure (.str (StatementClass.ofSql (← str req "sql")).name)
  | "cache_key" => some do
    pure (.str (cacheKey (← str req "sql") (← values (← arr req "params"))))
  | "row" => some do
    let pairs ← (← arr req "pairs").mapM fun
      | .arr [.str k, v] => do pure (k, ← value v)
      | _ => Reply.malformed "expected a [column, value] pair"
    let r := Row.ofPairs pairs
    let gets ← strs (← arrOrEmpty req "get")
    let base := [("columns", .arr (r.columns.map .str)), ("values", .arr (r.values.map Value.toTagged)),
      ("len", .int r.size), ("is_empty", .bool r.isEmpty), ("object", r.toObject),
      ("index0", optJson Value.toTagged (r.getIndex? 0)),
      ("get", .arr (gets.map fun c => match r.get? c with
        | some v => v.toTagged
        | none => .str "absent"))]
    match opt? req "try_get" with
    | none => pure (Json.ofFields base)
    | some (.arr reads) =>
      let results ← reads.mapM fun
        | .arr [.str c, .str t] => typedRead r c t
        | _ => Reply.malformed "expected a [column, type] pair"
      pure (Json.ofFields (base ++ [("try_get", .arr results),
        ("from_row", Json.ofFields [("row", rowPairs r), ("object", r.toObject)])]))
    | some _ => Reply.malformed "try_get must be an array"
  | "retry" => some do
    let base ← if (← flag req "none" false) then pure RetryPolicy.none
      else pure (RetryPolicy.new ((← nat? req "max_attempts").getD 1))
    let withBackoff := match (← nat? req "initial_ms"), (← nat? req "max_ms") with
      | some i, some m => base.withBackoff (i * 1000000) (m * 1000000)
      | _, _ => base
    let jitter := match opt? req "jitter" with
      | some j => j.asF64?.getD 0.0
      | none => 0.0
    let p := withBackoff.withJitter jitter
    let fields := [("enabled", .bool p.isEnabled), ("max_attempts", .int p.maxAttempts),
      ("initial_ns", .int p.initialBackoff), ("max_ns", .int p.maxBackoff),
      ("jitter", .float p.jitter)]
    if p.jitter == 0.0 then
      let n := min (p.maxAttempts + 1) 40
      pure (Json.ofFields (fields ++ [("delays_ns", .arr ((List.range n).map fun a =>
        optJson .int ((p.delayFor? a).map Int.ofNat)))]))
    else pure (Json.ofFields fields)
  | "cache" => some do
    let capacity := (← nat? req "capacity").getD 256
    let c := ResultCache.new (if (← flag req "default" false) then 256 else capacity)
    pure (.arr (← cacheRun c (← arr req "ops")))
  | _ => none

end Values

end EntitySql
