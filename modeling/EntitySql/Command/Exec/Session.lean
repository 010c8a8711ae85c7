import EntitySql.Command.Exec.Setup
import EntitySql.Command.Values

/-!
# A session of steps

The steps of an `exec` request run one after the other on one world. The session also keeps the
transaction handles the steps opened, in order, each marked once it is used: a handle is
committed or rolled back at most once.

After every step the session hands over what happened during it: the database's log, and the
diagnostic events. A step's answer is its result (`ok`) or its failure (`error`), with the log,
and with the events when they are shown.

Encodings of the answers live here too: a row is a list of `[column, tagged value]` pairs, and a
statement's result shows its rows, the count of changed rows, the generated id and the driver's
own shape.
-/

namespace EntitySql

namespace ExecRequest

/-- The state of a session: the world, and the transaction handles opened, each with whether it
was used. -/
structure Session where
  world : World
  handles : List (TransactionHandle × Bool) := []

/-- A step of a session: it may find the request malformed. -/
abbrev StepM := ExceptT Fault (StateM Session)

/-- Run an operation on the world of the session. -/
def onWorld {α : Type} (x : ExecM α) : StepM (OrmResult α) := do
  let s ← get
  let (r, w) := x.run s.world
  set { s with world := w }
  pure r

/-- An entry of the database's log as JSON. -/
def DriverEvent.toJson : DriverEvent → Json
  | .connect m => Json.ofFields [("connect", .str m.name)]
  | .connectRefused m => Json.ofFields [("connect_failed", .str m.name)]
  | .statement sql ps => Json.ofFields [("sql", .str sql), ("params", .arr (ps.map Value.toTagged))]
  | .stream sql ps => Json.ofFields [("stream", .str sql), ("params", .arr (ps.map Value.toTagged))]
  | .close => Json.ofFields [("close", .bool true)]

/-- Hand over the database's log. -/
def drainLog : StepM Json := do
  let s ← get
  let (log, d) := s.world.driver.drain
  set { s with world := { s.world with driver := d } }
  pure (.arr (log.map DriverEvent.toJson))

/-- Hand over the diagnostic events. -/
def drainEvents : StepM Json := do
  let s ← get
  set { s with world := { s.world with events := [] } }
  pure (.arr (s.world.events.map TraceEvent.toJson))

/-- The answer of a step: its outcome, the log and the events since the last step, and more
fields. -/
def stepAnswer (setup : Setup) (outcome : List (String × Json)) (more : List (String × Json) := []) :
    StepM Json := do
  let log ← drainLog
  let events ← drainEvents
  pure (Json.ofFields (outcome ++ [("log", log)] ++
    (if setup.trace then [("events", events)] else []) ++ more))

/-- The outcome of a step as its answer's first field. -/
def outcomeField (r : OrmResult Json) : List (String × Json) :=
  match r with
  | .ok j => [("ok", j)]
  | .error e => [("error", e.toJson)]

/-- A statement's result as JSON. -/
def resultJson (r : DriverResult) : Json :=
  Json.ofFields [("records", .arr (r.rows.map Values.rowPairs)),
    ("affected", match r.affected with
      | some n => .int n
      | none => .null),
    ("insert_id", match r.insertId with
      | some v => v.toTagged
      | none => .null),
    ("raw", r.raw)]

/-- The state of a runner as JSON. -/
def phaseJson (ds : DataSource) (r : Runner) : Json :=
  Json.ofFields [("phase", .str r.phase.name), ("depth", .int r.depth),
    ("is_transaction_active", .bool (r.depth > 0)), ("is_released", .bool r.released),
    ("mode", .str r.mode.label), ("dialect", .str ds.dialect.name)]

/-- Statement counts as JSON. -/
def statsJson (s : QueryStats) : List (String × Json) :=
  [("total", .int s.total), ("failed", .int s.failed), ("select", .int s.select),
    ("insert", .int s.insert), ("update", .int s.update), ("delete", .int s.delete),
    ("transaction", .int s.transaction), ("schema", .int s.schema), ("other", .int s.other)]

/-- Read a stream until its end or its first failure: the rows read, and the failure. -/
def readStream : RowStream → List Row × Option OrmError
  | [] => ([], none)
  | .ok r :: rest =>
    let (rows, e) := readStream rest
    (r :: rows, e)
  | .error e :: _ => ([], some e)

/-- A stream read to its end or first failure, as JSON. -/
def streamJson (s : RowStream) : Json :=
  let (rows, e) := readStream s
  Json.ofFields [("rows", .arr (rows.map Values.rowPairs)),
    ("error", match e with
      | some e => e.toJson
      | none => .null)]

def statementOf (j : Json) : Reply (String × List Value) := do
  pure (← Request.str j "sql", ← Request.values (← Request.arrOrEmpty j "params"))

/-- The description of a data source. -/
def describe (ds : DataSource) (w : World) : Json :=
  let o := ds.options
  Json.ofFields [("dialect", .str ds.dialect.name), ("entities", .int ds.registry.size),
    ("registry_empty", .bool (ds.registry.size = 0)),
    ("has_subscribers", .bool ds.broadcaster.hasSubscribers),
    ("broadcaster_entities", .int ds.broadcaster.registry.size),
    ("result_cache", .bool w.cache.isSome),
    ("options", Json.ofFields [
      ("dialect", match o.dialect with
        | some d => .str d.name
        | none => .null),
      ("max_query_execution_time_ns", match o.maxQueryExecutionTime with
        | some n => .int n
        | none => .null),
      ("query_timeout_ms", match o.queryTimeout with
        | some n => .int (n / 1000000)
        | none => .null),
      ("monitoring", .bool o.monitoring), ("cache", .bool o.cache.isSome),
      ("retry_enabled", .bool o.retry.isEnabled),
      ("entity_prefix", match o.entityPrefix with
        | some p => .str p
        | none => .null)])]

end ExecRequest

end EntitySql
