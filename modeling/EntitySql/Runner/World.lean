import EntitySql.Driver.Scripted
import EntitySql.Monitor.Basic
import EntitySql.Runner.Lifecycle
import EntitySql.Runner.Retry
import EntitySql.Cache.Memory

/-!
# Data sources, runners and the state they run in

A `DataSource` holds what stays fixed while statements run: the dialect, the entities, the
options, the listeners and subscribers, the monitors and the hooks.

What changes is a `World`: the database behind the driver, the runners made so far (each
named by its position, in order of creation), the statement counts of the counting monitor,
the result cache if the data source has one, and the diagnostic events reported so far.

A runner holds at most one connection. It is idle until it connects, then connected, then in a
transaction of some depth while transactions are open, and finally released, for good.

Operations run in `ExecM`: they change the world and may fail, and the world keeps every
change made before a failure (statements sent stay sent).
-/

namespace EntitySql

/-- The settings of the result cache. -/
structure CacheOptions where
  /-- The lifetime of an entry when a query sets none, in nanoseconds. -/
  duration : Nat := 1000000000
  /-- Whether every select is cached, not only those that ask. -/
  alwaysEnabled : Bool := false
  /-- The number of entries the cache keeps. -/
  capacity : Nat := 256
  deriving Inhabited

/-- The settings of a data source. Durations are in nanoseconds. -/
structure ConnectionOptions where
  /-- The dialect spoken, when it is not the driver's. -/
  dialect : Option Dialect := none
  /-- Statements slower than this are slow. -/
  maxQueryExecutionTime : Option Nat := none
  /-- How long to wait for a statement. -/
  queryTimeout : Option Nat := none
  /-- Whether the monitors are told about statements. -/
  monitoring : Bool := false
  cache : Option CacheOptions := none
  retry : RetryPolicy := RetryPolicy.none
  /-- A prefix of every table name. -/
  entityPrefix : Option String := none
  deriving Inhabited

/-- What stays fixed while statements run. -/
structure DataSource where
  dialect : Dialect
  registry : Registry
  options : ConnectionOptions := {}
  broadcaster : Broadcaster := { registry }
  monitors : List QueryMonitor := []
  hooks : List QueryHook := []

/-- A runner is named by its position among the runners made. -/
abbrev RunnerId := Nat

/-- The state of a runner. -/
structure Runner where
  mode : ReplicationMode
  connected : Bool := false
  /-- The number of open transaction levels. -/
  depth : Nat := 0
  released : Bool := false
  deriving Inhabited, DecidableEq, Repr

/-- The phases of a runner. -/
inductive RunnerPhase where
  | idle
  | connected
  | transactionActive (depth : Nat)
  | released
  deriving DecidableEq, Repr, Inhabited

/-- The name of a phase. -/
def RunnerPhase.name : RunnerPhase → String
  | .idle => "idle"
  | .connected => "connected"
  | .transactionActive _ => "transaction_active"
  | .released => "released"

/-- The phase of a runner: released wins over an open transaction, which wins over a
connection. -/
def Runner.phase (r : Runner) : RunnerPhase :=
  if r.released then .released
  else if r.depth > 0 then .transactionActive r.depth
  else if r.connected then .connected
  else .idle

/-- What changes while statements run. -/
structure World where
  driver : ScriptedDriver
  runners : List Runner := []
  stats : QueryStats := {}
  cache : Option ResultCache := none
  events : List TraceEvent := []
  deriving Inhabited

/-- An operation on the world that may fail, keeping what it changed. -/
abbrev ExecM := ExceptT OrmError (StateM World)

namespace ExecM

def emit (e : TraceEvent) : ExecM Unit := modify fun w => { w with events := w.events ++ [e] }

def emitAll (es : List TraceEvent) : ExecM Unit :=
  modify fun w => { w with events := w.events ++ es }

def ofResult {α : Type} : OrmResult α → ExecM α
  | .ok a => pure a
  | .error e => throw e

def attempt {α : Type} (x : ExecM α) : ExecM (OrmResult α) :=
  ExceptT.mk (Except.ok <$> x.run)

/-- Work with the database behind the driver. -/
def onDriver {α : Type} (f : ScriptedDriver → α × ScriptedDriver) : ExecM α := do
  let w ← get
  let (a, d) := f w.driver
  set { w with driver := d }
  pure a

def runner (id : RunnerId) : ExecM Runner := do pure ((← get).runners.getD id default)

def updateRunner (id : RunnerId) (f : Runner → Runner) : ExecM Unit :=
  modify fun w => { w with runners := w.runners.modify id f }

/-- Make a runner for a replica. -/
def createRunner (mode : ReplicationMode) : ExecM RunnerId := do
  let w ← get
  set { w with runners := w.runners ++ [({ mode } : Runner)] }
  pure w.runners.length

@[simp] theorem attempt_run {α : Type} (x : ExecM α) :
    (attempt x).run = Except.ok <$> x.run := rfl

end ExecM

end EntitySql
