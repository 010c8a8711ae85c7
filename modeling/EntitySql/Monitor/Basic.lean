import EntitySql.Monitor.Hook

/-!
# Query monitors and statement counts

A monitor is told how each statement ended, and which statements were slow. Three kinds exist:

* the silent monitor, which does nothing;
* the logging monitor, which reports each statement as an event: `query` with its outcome, or
  `query failed` with the failure, and `slow query` for a slow one. The text is cut to 200 bytes
  unless configured otherwise, and statements faster than a configured minimum are not
  reported;
* the counting monitor, which counts statements by kind, failures and slow statements in
  `QueryStats`.

Several monitors are told in order. Statements take no measurable time here: a positive minimum
duration hides every statement, and a statement is slow only when the limit is zero.
-/

namespace EntitySql

/-- Counts of statements: by kind, failed, and slow. -/
structure QueryStats where
  select : Nat := 0
  insert : Nat := 0
  update : Nat := 0
  delete : Nat := 0
  transaction : Nat := 0
  schema : Nat := 0
  other : Nat := 0
  failed : Nat := 0
  slow : Nat := 0
  deriving DecidableEq, Repr, Inhabited

namespace QueryStats

/-- The count of a kind of statement. -/
def count (s : QueryStats) : StatementClass → Nat
  | .select => s.select
  | .insert => s.insert
  | .update => s.update
  | .delete => s.delete
  | .transaction => s.transaction
  | .schema => s.schema
  | .other => s.other

/-- Count one more statement of a kind. -/
def bump (s : QueryStats) : StatementClass → QueryStats
  | .select => { s with select := s.select + 1 }
  | .insert => { s with insert := s.insert + 1 }
  | .update => { s with update := s.update + 1 }
  | .delete => { s with delete := s.delete + 1 }
  | .transaction => { s with transaction := s.transaction + 1 }
  | .schema => { s with schema := s.schema + 1 }
  | .other => { s with other := s.other + 1 }

def total (s : QueryStats) : Nat := (StatementClass.all.map s.count).foldr (· + ·) 0

theorem count_bump_self (s : QueryStats) (k : StatementClass) : (s.bump k).count k = s.count k + 1 := by
  cases k <;> rfl

theorem count_bump_ne (s : QueryStats) {k k' : StatementClass} (h : k' ≠ k) :
    (s.bump k).count k' = s.count k' := by
  cases k <;> cases k' <;> first | rfl | exact absurd rfl h

theorem total_bump (s : QueryStats) (k : StatementClass) : (s.bump k).total = s.total + 1 := by
  cases k <;> simp [total, StatementClass.all, count, bump] <;> omega

end QueryStats

/-- The settings of the logging monitor. -/
structure LoggingMonitor where
  /-- Statements faster than this, in nanoseconds, are not reported. -/
  minDuration : Option Nat := none
  /-- The longest text reported, in bytes; `none` reports it whole. -/
  maxSqlLength : Option Nat := some 200
  deriving Inhabited

namespace LoggingMonitor

/-- Whether a statement taking no measurable time is reported. -/
def reports (m : LoggingMonitor) : Bool :=
  match m.minDuration with
  | some d => d = 0
  | none => true

/-- The event of a statement that ended. -/
def completeEvent (m : LoggingMonitor) (c : QueryContext) (o : QueryOutcome) : TraceEvent :=
  let sql := clipText c.sql m.maxSqlLength
  match o with
  | .failed e =>
    { level := .warn, target := TraceEvent.queryTarget, message := some "query failed",
      fields := [("dialect", .str c.dialect.name), ("depth", .int c.depth),
        ("kind", .str c.kind.name), ("error", .str e), ("sql", .str sql)] }
  | _ =>
    { level := .info, target := TraceEvent.queryTarget, message := some "query",
      fields := [("dialect", .str c.dialect.name), ("depth", .int c.depth),
        ("kind", .str c.kind.name), ("outcome", .str o.text), ("sql", .str sql)] }

/-- The event of a slow statement. -/
def slowEvent (m : LoggingMonitor) (c : QueryContext) : TraceEvent :=
  { level := .warn, target := TraceEvent.queryTarget, message := some "slow query",
    fields := [("dialect", .str c.dialect.name), ("kind", .str c.kind.name),
      ("sql", .str (clipText c.sql m.maxSqlLength))] }

end LoggingMonitor

/-- A query monitor. -/
inductive QueryMonitor where
  | silent
  | logging (m : LoggingMonitor)
  | counting
  deriving Inhabited

namespace QueryMonitor

/-- Tell a monitor how a statement ended: the events it reports and the counts after. -/
def complete (c : QueryContext) (o : QueryOutcome) :
    QueryMonitor → QueryStats → List TraceEvent × QueryStats
  | .silent, s => ([], s)
  | .logging m, s => (if m.reports then [m.completeEvent c o] else [], s)
  | .counting, s =>
    let s := s.bump c.kind
    ([], if o.isError then { s with failed := s.failed + 1 } else s)

/-- Tell a monitor a statement was slow. -/
def slow (c : QueryContext) : QueryMonitor → QueryStats → List TraceEvent × QueryStats
  | .silent, s => ([], s)
  | .logging m, s => ([m.slowEvent c], s)
  | .counting, s => ([], { s with slow := s.slow + 1 })

/-- Tell several monitors in order. -/
def tellAll (tell : QueryMonitor → QueryStats → List TraceEvent × QueryStats) :
    List QueryMonitor → QueryStats → List TraceEvent × QueryStats
  | [], s => ([], s)
  | m :: ms, s =>
    let (e, s) := tell m s
    let (es, s) := tellAll tell ms s
    (e ++ es, s)

end QueryMonitor

end EntitySql
