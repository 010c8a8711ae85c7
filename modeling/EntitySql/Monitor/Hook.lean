import EntitySql.Monitor.Trace
import EntitySql.Monitor.Statement
import EntitySql.Driver.Scripted

/-!
# What observers see of a statement, and statement hooks

A `QueryContext` is what hooks and monitors know of a statement: the text that will be sent,
the text as it was first given, how many parameters it binds, its kind, the dialect and the
transaction depth of the runner. A `QueryOutcome` is how it ended: a number of rows, a number of
changed rows (when the result reports a count and no rows), or a failure with its text cut to
512 bytes. A timeout's text names the duration.

A hook looks at each statement before it is sent, and may let it pass, send other text instead,
or stop it. Hooks form a chain: each sees the text the previous one produced, the first that
stops the statement decides, and otherwise the statement is rewritten when the final text
differs from the first, even when a later hook undid an earlier rewrite. After the statement
every hook sees its outcome.

The tracing hook stops nothing: it reports each statement as an event at its level, with the
text cut to its length limit, and with `withOutcome` a second event with the outcome.
-/

namespace EntitySql

/-- What observers know about a statement. -/
structure QueryContext where
  /-- The text sent, after the hooks ran. -/
  sql : String
  /-- The text as it was given. -/
  givenSql : String
  paramCount : Nat
  kind : StatementClass
  dialect : Dialect
  /-- The transaction depth of the runner; 0 outside a transaction. -/
  depth : Nat
  deriving Inhabited

namespace QueryContext

def new (d : Dialect) (sql : String) (paramCount depth : Nat) : QueryContext :=
  { sql, givenSql := sql, paramCount, kind := StatementClass.ofSql sql, dialect := d, depth }

def isRewritten (c : QueryContext) : Bool := c.sql != c.givenSql

def rewrite (c : QueryContext) (sql : String) : QueryContext :=
  { c with sql, kind := StatementClass.ofSql sql }

@[simp] theorem rewrite_sql (c : QueryContext) (sql : String) : (c.rewrite sql).sql = sql := rfl

@[simp] theorem rewrite_givenSql (c : QueryContext) (sql : String) :
    (c.rewrite sql).givenSql = c.givenSql := rfl

end QueryContext

/-- How a statement ended. -/
inductive QueryOutcome where
  | rows (n : Nat)
  | affected (n : Nat)
  /-- A failure, its text cut to 512 bytes. -/
  | failed (text : String)
  deriving DecidableEq, Repr, Inhabited

namespace QueryOutcome

def maxErrorBytes : Nat := 512

def failure (text : String) : QueryOutcome := .failed (clipText text (some maxErrorBytes))

/-- The outcome of a statement's result. -/
def ofResult : OrmResult DriverResult → QueryOutcome
  | .ok r =>
    match r.affected with
    | some n => if r.rows.isEmpty then .affected n else .rows r.rows.length
    | none => .rows r.rows.length
  | .error (.timeout n) => failure ("timeout after " ++ durationText n)
  | .error e => failure e.message

def isError : QueryOutcome → Bool
  | .failed _ => true
  | _ => false

/-- The outcome as text: `3 rows`, `1 affected`, `error: text`. -/
def text : QueryOutcome → String
  | .rows n => toString n ++ " rows"
  | .affected n => toString n ++ " affected"
  | .failed e => "error: " ++ e

end QueryOutcome

/-- What a hook decides about a statement. -/
inductive HookAction where
  | pass
  /-- Send this text instead; the parameters stay. -/
  | rewrite (sql : String)
  /-- Do not send the statement. -/
  | abort (reason : String)
  deriving DecidableEq, Repr, Inhabited

/-- The settings of the tracing hook. -/
structure TracingHook where
  level : Level := .debug
  /-- The longest text reported, in bytes; `none` reports it whole. -/
  maxSqlLength : Option Nat := some 200
  withOutcome : Bool := false
  deriving Inhabited

namespace TracingHook

/-- The event reporting a statement about to be sent. -/
def beforeEvent (h : TracingHook) (c : QueryContext) : TraceEvent :=
  { level := h.level, target := TraceEvent.sqlTarget,
    fields := [("dialect", .str c.dialect.name), ("depth", .int c.depth), ("kind", .str c.kind.name),
      ("params", .int c.paramCount), ("rewritten", .bool c.isRewritten),
      ("sql", .str (clipText c.sql h.maxSqlLength))] }

/-- The event reporting how a statement ended, if the hook reports outcomes. -/
def afterEvents (h : TracingHook) (c : QueryContext) (o : QueryOutcome) : List TraceEvent :=
  if h.withOutcome then
    [{ level := h.level, target := TraceEvent.sqlTarget,
       fields := [("kind", .str c.kind.name), ("outcome", .str o.text)] }]
  else []

end TracingHook

/-- A statement hook. -/
inductive QueryHook where
  /-- A hook that decides by a rule and does nothing after the statement. -/
  | rule (judge : QueryContext → HookAction)
  | tracing (h : TracingHook)

namespace QueryHook

def before : QueryHook → QueryContext → HookAction × List TraceEvent
  | .rule f, c => (f c, [])
  | .tracing h, c => (.pass, [h.beforeEvent c])

def after : QueryHook → QueryContext → QueryOutcome → List TraceEvent
  | .rule _, _, _ => []
  | .tracing h, c, o => h.afterEvents c o

/-- Run a chain of hooks from the context `current`, reporting into `events`; `given` is the
context the chain started from. -/
def chainFrom (given : QueryContext) : List QueryHook → QueryContext → List TraceEvent →
    HookAction × List TraceEvent
  | [], current, events =>
    (if current.sql = given.sql then .pass else .rewrite current.sql, events)
  | h :: hs, current, events =>
    let (action, reported) := h.before current
    match action with
    | .pass => chainFrom given hs current (events ++ reported)
    | .rewrite sql => chainFrom given hs (current.rewrite sql) (events ++ reported)
    | .abort reason => (.abort reason, events ++ reported)

def chain (hooks : List QueryHook) (c : QueryContext) : HookAction × List TraceEvent :=
  chainFrom c hooks c []

def chainAfter (hooks : List QueryHook) (c : QueryContext) (o : QueryOutcome) : List TraceEvent :=
  hooks.flatMap fun h => h.after c o

/-- A chain that only traces never changes or stops a statement. -/
theorem chain_tracing (hs : List TracingHook) (c : QueryContext) :
    (chain (hs.map .tracing) c).1 = .pass := by
  suffices h : ∀ (cur : QueryContext) (evs : List TraceEvent), cur.sql = c.sql →
      (chainFrom c (hs.map .tracing) cur evs).1 = .pass from h c [] rfl
  induction hs with
  | nil => intro cur evs h; simp [chainFrom, h]
  | cons t ts ih => intro cur evs h; simpa [chainFrom, before] using ih cur _ h

end QueryHook

end EntitySql
