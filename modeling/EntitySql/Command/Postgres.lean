import EntitySql.Command.Codec
import EntitySql.Postgres.Encode
import EntitySql.Postgres.Driver

/-!
# Requests on the Postgres driver, offline

* `pg_encode` sends a value as a parameter of a named type and shows the bytes: `{"null": true}`,
  `{"bytes": hex}` or `{"error": "encode", "message": text}`.
* `pg_config` reads a connection string into a driver (`via` `driver`, `pooled` or `pool`) and
  shows its dialect and pool status.
* `pg_connect` builds a driver, plain or pooled, and shows the error of connecting with it.
-/

namespace EntitySql

namespace PgRequest

def hex (bs : List UInt8) : String := String.join (bs.map Uuid.byteHex)

def poolJson (p : PoolStatus) : Json :=
  Json.ofFields [("max_size", .int p.maxSize), ("size", .int p.size),
    ("available", .int p.available), ("waiting", .int p.waiting)]

/-- Answer a `pg_encode` request. -/
def encode (req : Json) : Reply Json := do
  let name ← Request.str req "type"
  let t ← match PgType.ofName? name with
    | some t => pure t
    | none => Reply.malformed ("unknown type " ++ name)
  let v ← Request.value (← Request.field req "value")
  pure (match v.encode t with
    | .ok none => Json.ofFields [("null", .bool true)]
    | .ok (some bs) => Json.ofFields [("bytes", .str (hex bs))]
    | .error e => Json.ofFields [("error", .str "encode"), ("message", .str e.message)])

def dialectField (d : PgDriver) : String × Json := ("dialect", .str d.dialect.name)

/-- The pool of a driver as JSON. -/
def poolField (d : PgDriver) : String × Json :=
  ("pool", match d.pool with
    | some p => poolJson p
    | none => .null)

/-- Answer a `pg_config` request. -/
def config (req : Json) : Reply Json := do
  let url ← Request.str req "url"
  let cockroach ← Request.flag req "cockroach" false
  let maxSize ← Request.nat? req "max_size"
  let tune := fun (d : PgDriver) => if cockroach then d.cockroach else d
  match (← Request.str? req "via").getD "driver" with
  | "driver" =>
    pure (Reply.orError (PgDriver.ofUrl url none) fun d => Json.ofFields [dialectField (tune d)])
  | "pooled" =>
    pure (Reply.orError (PgDriver.ofUrl url (some defaultPoolSize)) fun d =>
      Json.ofFields [dialectField (tune d), poolField d])
  | "pool" =>
    match maxSize with
    | some n => pure (Reply.orError (PgDriver.ofUrl url (some n)) fun d => Json.ofFields [poolField d])
    | none =>
      pure (Reply.orError (PgDriver.ofUrl url (some defaultPoolSize)) fun d =>
        Json.ofFields [dialectField (tune d), poolField d])
  | other => Reply.malformed ("unknown via " ++ other)

/-- Answer a `pg_connect` request. -/
def connect (req : Json) : Reply Json := do
  let url ← Request.str req "url"
  let pooled ← Request.flag req "pooled" false
  let size := if pooled then some defaultPoolSize else none
  pure (match PgDriver.ofUrl url size with
    | .ok d => d.connectError.toJson
    | .error e => e.toJson)

end PgRequest

/-- The handler of the Postgres requests. -/
def PgRequest.answer? (op : String) (req : Json) : Option (Reply Json) :=
  if op = "pg_encode" then some (PgRequest.encode req)
  else if op = "pg_config" then some (PgRequest.config req)
  else if op = "pg_connect" then some (PgRequest.connect req)
  else none

end EntitySql
