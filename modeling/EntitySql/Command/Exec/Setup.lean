import EntitySql.Command.Build
import EntitySql.Runner.Transaction
import EntitySql.Text.Search

/-!
# Setting up a session of steps against a scripted database

An `exec` request describes a data source over a scripted database and the steps to run on it.
This module reads the data source: the database's script (responses, refused connections,
failing closes, streaming), the entities and the options, and the observers the options ask
for.

* A *rule hook* stops a statement containing a given text (the reason is `blocked <text>`),
  and otherwise applies replacements in order, rewriting the statement when they changed it.
* A *rule subscriber* fails with a usage error at the first rule whose point matches and whose
  text, if any, occurs in the text of the event: the statement for statement points, the depth
  for transaction points, and the entity as compact JSON for entity points. A *plain
  subscriber* does nothing.
* A *listener* fails with a usage error, or sets a value at a path and then removes a key.
* Monitors are given one by one, or the counting monitor alone; either turns monitoring on,
  unless the request turns it off.
* Hooks are a rule hook, a chain of hooks, or a tracing hook, the last given winning.

Durations in requests are milliseconds, except the slow-statement limit in nanoseconds.
-/

namespace EntitySql

namespace ExecRequest

/-- What a session starts from: the data source, the world, whether diagnostic events are
shown, and whether the statement counts are shown. -/
structure Setup where
  source : DataSource
  world : World
  trace : Bool
  showStats : Bool

/-- A scripted response. -/
def response (j : Json) : Reply ScriptedResponse := do
  let delay := ((← Request.nat? j "delay_ms").getD 0) * 1000000
  let breakAt ← Request.nat? j "stream_error_at"
  let breakMessage ← Request.str? j "stream_error"
  match ← Request.str? j "error" with
  | some m =>
    let transient ← Request.flag j "transient" false
    pure { reply := .failure m transient, delay, breakAt, breakMessage }
  | none =>
    let rows ← match Request.opt? j "rows" with
      | some (.arr rs) => some <$> rs.mapM rowOf
      | some _ => Reply.malformed "rows must be an array"
      | none => pure none
    let affected ← Request.nat? j "affected"
    let base : DriverResult := match rows, affected with
      | some rs, _ => DriverResult.ofRows rs
      | none, some n => DriverResult.ofAffected n
      | none, none => {}
    let insertId ← match Request.opt? j "insert_id" with
      | some v => some <$> Request.value v
      | none => pure none
    let result := { base with
      affected := affected.orElse fun _ => base.affected
      insertId := insertId.orElse fun _ => base.insertId
      raw := (j.getField? "raw").getD base.raw }
    pure { reply := .success result, delay, breakAt, breakMessage }
where
  /-- A scripted row: pairs of column and value, or an object. -/
  rowOf (r : Json) : Reply Row := do
    match r with
    | .arr pairs =>
      let cells ← pairs.mapM fun
        | .arr [.str k, v] => do pure (k, ← Request.value v)
        | _ => Reply.malformed "expected a [column, value] pair"
      pure (Row.ofPairs cells)
    | .obj fields => do
      pure (Row.ofPairs (← fields.mapM fun (k, v) => do pure (k, ← Request.value v)))
    | _ => Reply.malformed "expected a row"

/-- A severity by its name. -/
def level (s : String) : Reply Level :=
  match s with
  | "error" => .ok .error
  | "warn" => .ok .warn
  | "info" => .ok .info
  | "debug" => .ok .debug
  | "trace" => .ok .trace
  | other => Reply.malformed ("unknown level " ++ other)

/-- A rule hook: stop statements containing a text, else apply the replacements in order. -/
def ruleHook (j : Json) : Reply QueryHook := do
  let replacements ← (← Request.arrOrEmpty j "rewrite").mapM fun
    | .arr [.str a, .str b] => .ok (a, b)
    | _ => Reply.malformed "expected a [from, to] pair"
  let stop ← Request.str? j "abort_contains"
  pure (.rule fun c =>
    match stop with
    | some x =>
      if Text.occursIn x c.sql then .abort ("blocked " ++ x)
      else rewriteWith replacements c.sql
    | none => rewriteWith replacements c.sql)
where
  /-- Apply replacements, rewriting when the text changed. -/
  rewriteWith (replacements : List (String × String)) (sql : String) : HookAction :=
    let out := replacements.foldl (fun s (a, b) => Text.replaceAll s a b) sql
    if out = sql then .pass else .rewrite out

/-- A tracing hook. -/
def tracingHook (j : Json) : Reply TracingHook := do
  let lvl ← match ← Request.str? j "level" with
    | some s => level s
    | none => pure .debug
  let maxLen ← Request.nat? j "max_sql_length"
  let whole ← Request.flag j "no_truncate" false
  let withOutcome ← Request.flag j "with_outcome" false
  let maxSqlLength := if whole then none else some (maxLen.getD 200)
  pure { level := lvl, maxSqlLength, withOutcome }

/-- The hooks the options ask for. -/
def hooks (options : Json) : Reply (List QueryHook) := do
  match Request.opt? options "tracing_hook" with
  | some t => pure [.tracing (← tracingHook t)]
  | none =>
    match Request.opt? options "hooks" with
    | some (.arr entries) => entries.mapM fun e => do
      match ← Request.str e "kind" with
      | "script" => ruleHook e
      | "tracing" => pure (.tracing (← tracingHook e))
      | "plain" => pure (.rule fun _ => .pass)
      | other => Reply.malformed ("unknown hook kind " ++ other)
    | some _ => Reply.malformed "hooks must be an array"
    | none =>
      match Request.opt? options "hook" with
      | some h => pure [← ruleHook h]
      | none => pure []

/-- A logging monitor. -/
def loggingMonitor (j : Json) : Reply LoggingMonitor := do
  let minDuration := (← Request.nat? j "only_slower_than_ms").map (· * 1000000)
  let maxLen ← Request.nat? j "max_sql_length"
  let whole ← Request.flag j "full_sql" false
  let maxSqlLength := if whole then none else some (maxLen.getD 200)
  pure { minDuration, maxSqlLength }

/-- The monitors the options ask for, and whether the counts are shown. -/
def monitors (options : Json) : Reply (List QueryMonitor × Bool) := do
  let stats ← Request.flag options "stats" false
  match Request.opt? options "monitors" with
  | some (.arr entries) =>
    let ms ← entries.mapM fun e => do
      match ← Request.str e "kind" with
      | "logging" => pure (.logging (← loggingMonitor e))
      | "noop" => pure .silent
      | "stats" => pure .counting
      | other => Reply.malformed ("unknown monitor kind " ++ other)
    pure (ms, stats || ms.any fun | .counting => true | _ => false)
  | some _ => Reply.malformed "monitors must be an array"
  | none => pure (if stats then [.counting] else [], stats)

/-- The first rule of a point whose text occurs in the event's text fails. -/
def ruleFailure (rules : List (String × Option String × String)) (point text : String) :
    OrmResult Unit :=
  match rules.find? fun (p, contains, _) => p = point && (contains.all fun x => Text.occursIn x text) with
  | some (_, _, message) => .error (.usage message)
  | none => .ok ()

/-- A rule subscriber. -/
def ruleSubscriber (j : Json) : Reply Subscriber := do
  let listenTo ← Request.str? j "listen_to"
  let rules ← (← Request.arrOrEmpty j "rules").mapM fun r => do
    pure (← Request.str r "event", ← Request.str? r "contains", ← Request.str r "message")
  pure {
    listenTo
    onQuery := fun p e => ruleFailure rules p.eventName e.sql
    onTransaction := fun p depth => ruleFailure rules p.eventName (toString depth)
    onEntity := fun k obj => ruleFailure rules k.eventName (Json.obj obj).render }

/-- A listener. -/
def listener (j : Json) : Reply Listener := do
  let entity ← Request.str j "entity"
  let name ← Request.str j "kind"
  let kind ← match ListenerKind.ofName? name with
    | some k => pure k
    | none => Reply.malformed ("unknown listener kind " ++ name)
  match ← Request.str? j "fail" with
  | some m => pure { entity, kind, run := fun _ => .error (.usage m) }
  | none =>
    let assign ← match Request.opt? j "set" with
      | some (.arr [.str path, v]) => pure (some (path, v))
      | some _ => Reply.malformed "set must be [path, value]"
      | none => pure none
    let remove ← Request.str? j "remove"
    let run : Fields → OrmResult Fields := fun obj =>
      let obj := match assign with
        | some (path, v) => Json.setPath obj path v
        | none => obj
      .ok (match remove with
        | some k => Json.eraseField k obj
        | none => obj)
    pure { entity, kind, run }

/-- The settings of the cache. -/
def cacheOptions (j : Json) : Reply CacheOptions := do
  let duration := ((← Request.nat? j "duration_ms").getD 60000) * 1000000
  let alwaysEnabled ← Request.flag j "always" false
  let capacity := (← Request.nat? j "capacity").getD 256
  pure { duration, alwaysEnabled, capacity }

/-- The retry policy, without jitter. -/
def retryPolicy (j : Json) : Reply RetryPolicy := do
  let n ← Request.nat j "max_attempts"
  let initial := (← Request.nat? j "initial_ms").getD 1
  let maximum := (← Request.nat? j "max_ms").getD 2
  pure (((RetryPolicy.new n).withBackoff (initial * 1000000) (maximum * 1000000)).withJitter 0.0)

/-- Read the setup of an `exec` request; a failed registration of entities is the answer. -/
def setupOf (req : Json) : Reply (OrmResult Setup) := do
  let driverDialect ← Request.dialect req
  match ← BuildRequest.sourceOf req with
  | .error e => pure (.error e)
  | .ok src =>
    let options := (Request.opt? req "options").getD (.obj [])
    let override ← match ← Request.str? options "dialect_override" with
      | some name => some <$> Reply.lift (Dialect.parse name)
      | none => pure none
    let cache ← match Request.opt? options "cache" with
      | some c => some <$> cacheOptions c
      | none => pure none
    let retry ← match Request.opt? options "retry" with
      | some r => retryPolicy r
      | none => pure RetryPolicy.none
    let (ms, showStats) ← monitors options
    let monitoring ← match Request.opt? options "monitoring" with
      | some (.bool b) => pure b
      | some _ => Reply.malformed "monitoring must be a boolean"
      | none => pure ((Request.opt? options "monitors").isSome || (← Request.flag options "stats" false))
    let maxQueryExecutionTime ← Request.nat? options "max_query_execution_time_ns"
    let queryTimeout := (← Request.nat? options "query_timeout_ms").map (· * 1000000)
    let entityPrefix ← Request.str? options "prefix"
    let connOptions : ConnectionOptions :=
      { dialect := override, maxQueryExecutionTime, queryTimeout, monitoring, cache, retry,
        entityPrefix }
    let subscriber ← match Request.opt? options "subscriber" with
      | some s => pure [← ruleSubscriber s]
      | none => pure []
    let plain := if ← Request.flag options "plain_subscriber" false then [({} : Subscriber)] else []
    let listeners ← (← Request.arrOrEmpty options "listeners").mapM listener
    let resultCache ← match Request.opt? options "result_cache" with
      | some rc => pure (some (ResultCache.new ((← Request.nat? rc "capacity").getD 256)))
      | none => pure (cache.map fun c => ResultCache.new c.capacity)
    let hs ← hooks options
    let source : DataSource :=
      { dialect := src.dialect, registry := src.registry, options := connOptions,
        broadcaster := { registry := src.registry, subscribers := subscriber ++ plain, listeners },
        monitors := ms, hooks := hs }
    let responses ← (← Request.arrOrEmpty req "responses").mapM response
    let refused ← (← Request.arrOrEmpty options "connect_errors").mapM fun
      | .int n => if n < 0 then Reply.malformed "bad connect error" else .ok n.toNat
      | _ => Reply.malformed "connect_errors must hold numbers"
    let closeFails ← Request.flag options "close_error" false
    let streams ← Request.flag options "streaming" false
    let driver : ScriptedDriver :=
      { dialect := driverDialect, responses, refused, closeFails, streams }
    let trace ← Request.flag options "trace" false
    pure (.ok { source, world := { driver, cache := resultCache }, trace, showStats })

end ExecRequest

end EntitySql
