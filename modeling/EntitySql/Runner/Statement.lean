import EntitySql.Runner.World

/-!
# Running statements on a runner

A runner connects on first use, and reports the new connection; a released runner never runs
anything again.

Running a statement goes through these steps, in order:

1. the hooks decide on it: they may rewrite it, or stop it (an `aborted` failure);
2. the subscribers are told it is about to run, and may stop it;
3. it is sent, waiting at most the timeout; a transient failure outside a transaction is tried
   again as the retry policy allows, each retry reported with its wait;
4. a failure gets the statement attached;
5. the hooks see the outcome, then the monitors when monitoring is on; a slow statement is
   reported, and told to the monitors;
6. the subscribers are told it ran, with the failure's text if it failed;
7. the statement's failure wins, then a subscriber's.

A stream runs steps 1 and 2 and then opens the stream. A driver that cannot stream reports the
missing feature as the dialect's.
-/

namespace EntitySql

open ExecM

namespace DataSource

/-- A runner holds a connection, connecting it if it has none. -/
def ensureConnected (_ : DataSource) (id : RunnerId) : ExecM Unit := do
  let r ← runner id
  if r.released then throw .queryRunnerAlreadyReleased
  if !r.connected then
    ofResult (← onDriver (·.connect r.mode))
    updateRunner id fun r => { r with connected := true }
    emit (.runner .debug "connection acquired" [("mode", .str r.mode.label)])

/-- Let the hooks decide on a statement. -/
def applyHooks (ds : DataSource) (c : QueryContext) : ExecM QueryContext := do
  let (action, events) := QueryHook.chain ds.hooks c
  emitAll events
  match action with
  | .pass => pure c
  | .rewrite sql => pure (c.rewrite sql)
  | .abort reason => throw (.aborted ("query aborted by hook: " ++ reason))

/-- Send a statement once, waiting at most the timeout. -/
def sendOnce (ds : DataSource) (sql : String) (params : List Value) : ExecM DriverResult := do
  let (outcome, delay) ← onDriver (·.query sql params)
  match ds.options.queryTimeout with
  | some limit => if limit < delay then throw (.timeout limit) else ofResult outcome
  | none => ofResult outcome

/-- Send a statement, retrying transient failures when allowed; `fuel` bounds the tries and
`attempt` counts the retries so far. -/
def sendWithRetry (ds : DataSource) (sql : String) (params : List Value) (allowRetry : Bool) :
    Nat → Nat → ExecM DriverResult
  | fuel, attempt => do
    match ← ExecM.attempt (ds.sendOnce sql params) with
    | .ok r => pure r
    | .error e =>
      if !allowRetry || !e.isTransient then throw e
      match fuel, ds.options.retry.delayFor? attempt with
      | fuel + 1, some delay =>
        emit (.runner .debug "retrying transient failure"
          [("attempt", .int (attempt + 1)), ("delay_ms", .int (delay / 1000000)),
            ("error", .str e.message)])
        sendWithRetry ds sql params allowRetry fuel (attempt + 1)
      | _, _ => throw e

def isSlow (ds : DataSource) : Bool := ds.options.maxQueryExecutionTime = some 0

def isMonitoring (ds : DataSource) : Bool := ds.options.monitoring && !ds.monitors.isEmpty

/-- Tell the monitors something, keeping their counts. -/
def tellMonitors (ds : DataSource) (tell : QueryMonitor → QueryStats → List TraceEvent × QueryStats) :
    ExecM Unit := do
  let w ← get
  let (events, stats) := QueryMonitor.tellAll tell ds.monitors w.stats
  set { w with stats }
  emitAll events

/-- Report how a statement ended to the hooks, the monitors, and as slow if it was. -/
def report (ds : DataSource) (c : QueryContext) (result : OrmResult DriverResult) : ExecM Unit := do
  let o := QueryOutcome.ofResult result
  emitAll (QueryHook.chainAfter ds.hooks c o)
  if ds.isMonitoring then ds.tellMonitors (QueryMonitor.complete c o)
  if ds.isSlow then
    emit (.runner .warn "query is slow" [("sql", .str (clipText c.sql (some 1024)))])
    if ds.isMonitoring then ds.tellMonitors (QueryMonitor.slow c)

/-- Run a statement on a connected runner. -/
def execute (ds : DataSource) (id : RunnerId) (sql : String) (params : List Value)
    (allowRetry : Bool) : ExecM DriverResult := do
  let r ← runner id
  let c ← ds.applyHooks (QueryContext.new ds.dialect sql params.length r.depth)
  ofResult (ds.broadcaster.query .before { sql := c.sql, params })
  if !r.connected then throw .queryRunnerAlreadyReleased
  let result ← ExecM.attempt
    (ds.sendWithRetry c.sql params allowRetry ds.options.retry.maxAttempts 0)
  let result := match result with
    | .ok v => .ok v
    | .error e => .error (e.withStatement c.sql params)
  ds.report c result
  let error := match result with
    | .ok _ => none
    | .error e => some e.message
  let after := ds.broadcaster.query .after { sql := c.sql, params, error }
  let value ← ofResult result
  ofResult after
  pure value

/-- Run a statement on a runner, connecting it first; transient failures are retried outside a
transaction. -/
def query (ds : DataSource) (id : RunnerId) (sql : String) (params : List Value) :
    ExecM DriverResult := do
  ds.ensureConnected id
  let r ← runner id
  ds.execute id sql params (r.depth = 0)

/-- Stream the rows of a statement on a runner, connecting it first. -/
def stream (ds : DataSource) (id : RunnerId) (sql : String) (params : List Value) :
    ExecM RowStream := do
  ds.ensureConnected id
  let r ← runner id
  let c ← ds.applyHooks (QueryContext.new ds.dialect sql params.length r.depth)
  ofResult (ds.broadcaster.query .before { sql := c.sql, params })
  match ← onDriver (·.stream c.sql params) with
  | .ok rows => pure rows
  | .error (.dialectUnsupported _ feature) => throw (.dialectUnsupported ds.dialect.name feature)
  | .error e => throw (e.withStatement c.sql params)

end DataSource

end EntitySql
