import EntitySql.Runner.Statement

/-!
# Transactions, release, and scoped work

A runner opens transactions in levels. The first level starts a transaction with the dialect's
statements; each further level is a savepoint `polyorm_<depth>` where the dialect has them, and
is refused where it does not. Opening a level gives a `TransactionHandle` for it; committing or
rolling back takes the handle of the innermost open level, and fails for a handle of another
runner, on a released runner, with no level open, or for a level that is not the innermost.

Subscribers are told before and after each step. A failure before the step stops it; a failure
after it cannot undo it and is only reported.

* Committing a level whose subscribers or statement fail rolls that level back, so the level is
  closed either way; the commit's failure is kept, with the rollback's failure attached if that
  failed too.
* Starting a transaction whose later start statement fails (setting the isolation level, say)
  rolls the transaction back.
* Releasing a runner rolls back what is open (subscribers are told, but cannot stop it), closes
  the connection and marks the runner released. A second release does nothing.

`DataSource.inRunner` runs work on a given runner or on a fresh one it owns, inside a transaction
when asked and none is open: the work's success commits and its failure rolls back; a failed
rollback is attached to the work's failure and reported. An owned runner is released at the end,
and a failure to release is only reported. The work can be split: `Scope.start` prepares the
runner, `Scope.finish` ends it with the work's outcome.
-/

namespace EntitySql

open ExecM

/-- The proof of one open transaction level of a runner. -/
structure TransactionHandle where
  runner : RunnerId
  depth : Nat
  deriving DecidableEq, Repr, Inhabited

def savepointName (depth : Nat) : String := "polyorm_" ++ toString depth

namespace DataSource

def setDepth (id : RunnerId) (depth : Nat) : ExecM Unit :=
  updateRunner id fun r => { r with depth }

/-- Report a failure of subscribers after a transaction step. -/
def reportAfterStep (transition : String) : OrmResult Unit → ExecM Unit
  | .ok () => pure ()
  | .error e =>
    emit (.runner .warn "transaction subscriber failed"
      [("transition", .str transition), ("error", .str e.message)])

/-- Run the statements that start a transaction; when one after the first fails, roll back. -/
def runStartStatements (ds : DataSource) (id : RunnerId) : List String → Bool → ExecM Unit
  | [], _ => pure ()
  | sql :: rest, first => do
    match ← ExecM.attempt (ds.execute id sql [] false) with
    | .ok _ => ds.runStartStatements id rest false
    | .error e =>
      if first then throw e
      match ← ExecM.attempt (ds.execute id ds.dialect.rollbackSql [] false) with
      | .ok _ => throw e
      | .error rollback => throw (e.withRollbackFailure rollback)

/-- Open a transaction level on a runner, connecting it first. -/
def startTransaction (ds : DataSource) (id : RunnerId) (iso : Option Isolation) :
    ExecM TransactionHandle := do
  ds.ensureConnected id
  let depth := (← runner id).depth
  if depth > 0 && !ds.dialect.supportsSavepoints then throw .transactionAlreadyStarted
  ofResult (ds.broadcaster.transaction .beforeStart (depth + 1))
  if depth = 0 then ds.runStartStatements id (ds.dialect.startTransactionSql iso) true
  else
    let _ ← ds.execute id (ds.dialect.createSavepointSql (savepointName depth)) [] false
  setDepth id (depth + 1)
  reportAfterStep "start" (ds.broadcaster.transaction .afterStart (depth + 1))
  pure ⟨id, depth + 1⟩

/-- Check that a handle stands for the innermost open level of a runner. -/
def checkHandle (id : RunnerId) (h : TransactionHandle) : ExecM Unit := do
  let r ← runner id
  if h.runner ≠ id then
    throw (.usage ("transaction handle of runner " ++ toString h.runner ++ " used on runner " ++
      toString id))
  if r.released then throw .queryRunnerAlreadyReleased
  if r.depth = 0 then throw .transactionNotStarted
  if h.depth ≠ r.depth then
    throw (.usage ("transaction handle for level " ++ toString h.depth ++
      " used while level " ++ toString r.depth ++ " is active"))

/-- Roll back the innermost open level. -/
def rollbackLevel (ds : DataSource) (id : RunnerId) : ExecM Unit := do
  let depth := (← runner id).depth
  ofResult (ds.broadcaster.transaction .beforeRollback depth)
  let sql := if depth > 1 then ds.dialect.rollbackToSavepointSql (savepointName (depth - 1))
    else ds.dialect.rollbackSql
  let _ ← ds.execute id sql [] false
  setDepth id (depth - 1)
  reportAfterStep "rollback" (ds.broadcaster.transaction .afterRollback depth)

/-- Close the innermost level after a failed commit: the failure, with the rollback's failure
attached if the rollback failed too. -/
def closeAfterFailure (ds : DataSource) (id : RunnerId) (e : OrmError) : ExecM OrmError := do
  match ← ExecM.attempt (ds.rollbackLevel id) with
  | .ok () => pure e
  | .error rollback =>
    emit (.runner .warn "rollback after failed commit also failed"
      [("error", .str rollback.message)])
    pure (e.withRollbackFailure rollback)

/-- Commit the level a handle stands for. -/
def commit (ds : DataSource) (id : RunnerId) (h : TransactionHandle) : ExecM Unit := do
  checkHandle id h
  let depth := (← runner id).depth
  if let .error e := ds.broadcaster.transaction .beforeCommit depth then
    throw (← ds.closeAfterFailure id e)
  let sql := if depth > 1 then ds.dialect.releaseSavepointSql (savepointName (depth - 1))
    else some ds.dialect.commitSql
  if let some sql := sql then
    if let .error e ← ExecM.attempt (ds.execute id sql [] false) then
      throw (← ds.closeAfterFailure id e)
  setDepth id (depth - 1)
  reportAfterStep "commit" (ds.broadcaster.transaction .afterCommit depth)

def rollback (ds : DataSource) (id : RunnerId) (h : TransactionHandle) : ExecM Unit := do
  checkHandle id h
  ds.rollbackLevel id

/-- Release a runner: roll back what is open, close the connection, and mark it released. -/
def release (ds : DataSource) (id : RunnerId) : ExecM Unit := do
  let r ← runner id
  if r.released then return
  updateRunner id fun r => { r with released := true }
  let mut outcome : OrmResult Unit := .ok ()
  if r.depth > 0 && r.connected then
    reportAfterStep "rollback" (ds.broadcaster.transaction .beforeRollback r.depth)
    match ← ExecM.attempt (ds.execute id ds.dialect.rollbackSql [] false) with
    | .ok _ => reportAfterStep "rollback" (ds.broadcaster.transaction .afterRollback r.depth)
    | .error e =>
      emit (.runner .warn "rollback on release failed" [("error", .str e.message)])
      outcome := .error e
  setDepth id 0
  if r.connected then
    if let .error e ← onDriver (·.close) then
      if outcome matches .ok () then outcome := .error e
  updateRunner id fun r => { r with connected := false }
  emit (.runner .debug "released")
  ofResult outcome

def releaseQuietly (ds : DataSource) (id : RunnerId) : ExecM Unit := do
  if let .error e ← ExecM.attempt (ds.release id) then
    emit (.runner .warn "releasing query runner failed" [("error", .str e.message)])

end DataSource

/-- Work prepared on a runner: whether the runner is owned, and the transaction level opened
for the work, if one was. -/
structure Scope where
  runner : RunnerId
  owned : Bool
  handle : Option TransactionHandle
  deriving Inhabited

namespace Scope

/-- Prepare work: take the given runner or make one of the mode, and open a transaction when
asked and none is open. A failure to open it releases an owned runner. -/
def start (ds : DataSource) (given : Option RunnerId) (mode : ReplicationMode)
    (useTransaction : Bool) : ExecM Scope := do
  let (id, owned) ← match given with
    | some id => pure (id, false)
    | none => do pure (← createRunner mode, true)
  let r ← ExecM.runner id
  if useTransaction && r.depth = 0 then
    match ← ExecM.attempt (ds.startTransaction id none) with
    | .ok h => pure ⟨id, owned, some h⟩
    | .error e =>
      if owned then ds.releaseQuietly id
      throw e
  else pure ⟨id, owned, none⟩

/-- End work with its outcome: commit or roll back the level opened for it, and release an
owned runner. -/
def finish {α : Type} (ds : DataSource) (sc : Scope) (outcome : OrmResult α) : ExecM α := do
  let outcome ← match outcome, sc.handle with
    | .ok v, some h => do
      match ← ExecM.attempt (ds.commit sc.runner h) with
      | .ok () => pure (.ok v)
      | .error e => pure (.error e)
    | .error e, some h => do
      match ← ExecM.attempt (ds.rollback sc.runner h) with
      | .ok () => pure (.error e)
      | .error rollback =>
        emit (.runner .warn "rollback after failed operation also failed"
          [("error", .str e.message), ("rollback_error", .str rollback.message)])
        pure (.error (e.withRollbackFailure rollback))
    | o, none => pure o
  if sc.owned then ds.releaseQuietly sc.runner
  ofResult outcome

end Scope

/-- Run work on the given runner or on a fresh one of the mode, inside a transaction when
asked. -/
def DataSource.inRunner {α : Type} (ds : DataSource) (given : Option RunnerId)
    (mode : ReplicationMode) (useTransaction : Bool) (work : RunnerId → ExecM α) : ExecM α := do
  let sc ← Scope.start ds given mode useTransaction
  let outcome ← ExecM.attempt (work sc.runner)
  sc.finish ds outcome

end EntitySql
