import EntitySql.Proofs.Runner.Calls

/-!
# Releasing a runner

A runner is released for good. Releasing it rolls back an open transaction, closes the
connection it holds, and marks it released with no level open; releasing it again does nothing,
and every other call on it fails with `queryRunnerAlreadyReleased` before it sends a statement or
opens a connection (`DataSource.Refuses`).

The connections are counted on the database's log: those opened and those closed
(`ScriptedDriver.opened`, `ScriptedDriver.closed`). Every step of the runner but connecting and
releasing keeps these counts, and the connection and release flags of every runner
(`ExecM.KeepsConnections`, proved once per function from its parts). So along every run of calls
and releases of a fresh runner, it opens at most one connection, holds it until its release, and
closes it there, once (`Lifeline`). A runner with an open level holds its connection, so that
releasing it tries the rollback first.

The rollback of the release goes through the statement pipeline like any statement: the hooks
may rewrite it, and the hooks or the subscribers told before it runs may stop it
(`DataSource.releaseLog`). The release then returns the rollback's failure, else the closing's
(`DataSource.releaseResult`). A subscriber that refuses `ROLLBACK` leaves the transaction to the
closing of the connection (`release_closes_without_rollback`).
-/

namespace EntitySql

open ExecM

/-! ## Connections on the database's log -/

namespace DriverEvent

def opensConnection : DriverEvent → Bool
  | .connect _ => true
  | _ => false

def closesConnection : DriverEvent → Bool
  | .close => true
  | _ => false

end DriverEvent

namespace ScriptedDriver

def opened (d : ScriptedDriver) : Nat := d.log.countP DriverEvent.opensConnection

def closed (d : ScriptedDriver) : Nat := d.log.countP DriverEvent.closesConnection

@[simp] theorem log_next (d : ScriptedDriver) : d.next.2.log = d.log := by
  unfold next
  split <;> rfl

@[simp] theorem log_query (d : ScriptedDriver) (sql : String) (params : List Value) :
    (d.query sql params).2.log = d.log ++ [.statement sql params] := by
  have hlog : (d.record (.statement sql params)).next.2.log = d.log ++ [.statement sql params] := by
    rw [log_next]
    rfl
  unfold query
  rcases h : (d.record (.statement sql params)).next with ⟨_ | r, d'⟩ <;>
    simp only [h] at hlog ⊢ <;> exact hlog

@[simp] theorem log_close (d : ScriptedDriver) : d.close.2.log = d.log ++ [.close] := by
  dsimp only [close]
  split <;> rfl

theorem log_stream (d : ScriptedDriver) (sql : String) (params : List Value) :
    (d.stream sql params).2.log = d.log ∨ (d.stream sql params).2.log = d.log ++ [.stream sql params] := by
  have hlog : (d.record (.stream sql params)).next.2.log = d.log ++ [.stream sql params] := by
    rw [log_next]
    rfl
  unfold stream
  split
  · exact .inl rfl
  · refine .inr ?_
    rcases h : (d.record (.stream sql params)).next with ⟨_ | r, d'⟩ <;> simp only [h] at hlog ⊢
    · exact hlog
    · split
      · exact hlog
      · split <;> exact hlog

@[simp] theorem opened_query (d : ScriptedDriver) (sql : String) (params : List Value) :
    (d.query sql params).2.opened = d.opened := by
  simp [opened, DriverEvent.opensConnection]

@[simp] theorem closed_query (d : ScriptedDriver) (sql : String) (params : List Value) :
    (d.query sql params).2.closed = d.closed := by
  simp [closed, DriverEvent.closesConnection]

@[simp] theorem opened_stream (d : ScriptedDriver) (sql : String) (params : List Value) :
    (d.stream sql params).2.opened = d.opened := by
  rcases log_stream d sql params with h | h <;> simp [opened, h, DriverEvent.opensConnection]

@[simp] theorem closed_stream (d : ScriptedDriver) (sql : String) (params : List Value) :
    (d.stream sql params).2.closed = d.closed := by
  rcases log_stream d sql params with h | h <;> simp [closed, h, DriverEvent.closesConnection]

theorem opened_connect (d : ScriptedDriver) (mode : ReplicationMode) :
    (d.connect mode).2.opened = d.opened + if (d.connect mode).1.toBool then 1 else 0 := by
  dsimp only [connect]
  split <;> simp [opened, record, DriverEvent.opensConnection, Except.toBool]

@[simp] theorem closed_connect (d : ScriptedDriver) (mode : ReplicationMode) :
    (d.connect mode).2.closed = d.closed := by
  dsimp only [connect]
  split <;> simp [closed, record, DriverEvent.closesConnection]

@[simp] theorem opened_close (d : ScriptedDriver) : d.close.2.opened = d.opened := by
  simp [opened, DriverEvent.opensConnection]

@[simp] theorem closed_close (d : ScriptedDriver) : d.close.2.closed = d.closed + 1 := by
  simp [closed, DriverEvent.closesConnection]

theorem opened_of_log {d d' : ScriptedDriver} {l : List DriverEvent} (h : d'.log = d.log ++ l) :
    d'.opened = d.opened + l.countP DriverEvent.opensConnection := by
  rw [opened, opened, h, List.countP_append]

theorem closed_of_log {d d' : ScriptedDriver} {l : List DriverEvent} (h : d'.log = d.log ++ l) :
    d'.closed = d.closed + l.countP DriverEvent.closesConnection := by
  rw [closed, closed, h, List.countP_append]

end ScriptedDriver

/-! ## Steps that keep the connections -/

/-- What a world says about connections: how many the database opened and closed, and for each
runner whether it holds one and whether it is released. -/
def World.connections (w : World) : Nat × Nat × List (Bool × Bool) :=
  (w.driver.opened, w.driver.closed, w.runners.map fun r => (r.connected, r.released))

namespace World

variable {w w' : World}

theorem opened_of_connections_eq (h : w'.connections = w.connections) :
    w'.driver.opened = w.driver.opened := congrArg Prod.fst h

theorem closed_of_connections_eq (h : w'.connections = w.connections) :
    w'.driver.closed = w.driver.closed := congrArg (·.2.1) h

theorem length_of_connections_eq (h : w'.connections = w.connections) :
    w'.runners.length = w.runners.length := by
  have := congrArg (·.2.2.length) h
  simpa [connections] using this

theorem flags_of_connections_eq (h : w'.connections = w.connections) (j : RunnerId) :
    (w'.runner j).connected = (w.runner j).connected ∧
      (w'.runner j).released = (w.runner j).released := by
  have hj := congrArg (fun c => c.2.2[j]?) h
  simp only [connections, List.getElem?_map] at hj
  simp only [runner, List.getD_eq_getElem?_getD]
  cases hw' : w'.runners[j]? <;> cases hw : w.runners[j]? <;> simp_all

end World

/-- An operation that opens and closes no connection, and leaves every runner's connection and
release flags as they were. It may move depths. -/
def ExecM.KeepsConnections {α : Type} (x : ExecM α) : Prop :=
  ∀ w, (x.exec w).2.connections = w.connections

namespace ExecM.KeepsConnections

variable {α β : Type}

theorem bind {x : ExecM α} {f : α → ExecM β} (hx : KeepsConnections x)
    (hf : ∀ a, KeepsConnections (f a)) : KeepsConnections (x >>= f) := by
  intro w
  rw [exec_bind]
  rcases h : x.exec w with ⟨_ | a, w'⟩
  · simpa [h] using hx w
  · simp only
    rw [hf a w', ← hx w, h]

theorem pure (a : α) : KeepsConnections (Pure.pure a : ExecM α) := fun _ => rfl

theorem throw (e : OrmError) : KeepsConnections (MonadExcept.throw e : ExecM α) := fun _ => rfl

theorem throw_bind (e : OrmError) (f : α → ExecM β) :
    KeepsConnections (MonadExcept.throw e >>= f) := fun w => by
  rw [exec_bind]
  rfl

theorem ofResult (r : OrmResult α) : KeepsConnections (ExecM.ofResult r) := fun w => by simp

theorem runner (id : RunnerId) : KeepsConnections (ExecM.runner id) := fun _ => rfl

theorem attempt {x : ExecM α} (hx : KeepsConnections x) : KeepsConnections (ExecM.attempt x) :=
  fun w => by simpa using hx w

theorem emit (e : TraceEvent) : KeepsConnections (ExecM.emit e) := fun _ => rfl

theorem emitAll (es : List TraceEvent) : KeepsConnections (ExecM.emitAll es) := fun _ => rfl

theorem updateRunner {id : RunnerId} {f : Runner → Runner}
    (hf : ∀ r, (f r).connected = r.connected ∧ (f r).released = r.released) :
    KeepsConnections (ExecM.updateRunner id f) := fun w => by
  simp only [exec_updateRunner, World.connections, Prod.mk.injEq, true_and]
  apply List.ext_getElem?
  intro j
  simp only [List.getElem?_map, List.getElem?_modify]
  split <;> cases w.runners[j]? <;> simp [hf]

theorem setDepth (id : RunnerId) (n : Nat) : KeepsConnections (DataSource.setDepth id n) :=
  updateRunner fun _ => ⟨rfl, rfl⟩

theorem reportAfterStep (t : String) (r : OrmResult Unit) :
    KeepsConnections (DataSource.reportAfterStep t r) := by
  cases r
  · exact emit _
  · exact pure _

theorem onDriver {f : ScriptedDriver → α × ScriptedDriver}
    (hf : ∀ d, (f d).2.opened = d.opened ∧ (f d).2.closed = d.closed) :
    KeepsConnections (ExecM.onDriver f) := fun w => by
  simp [World.connections, hf]

end ExecM.KeepsConnections

/-! ### The steps of a runner, one by one -/

namespace DataSource

open KeepsConnections

variable (ds : DataSource) (id : RunnerId) (w : World)

theorem applyHooks_keeps (c : QueryContext) : KeepsConnections (ds.applyHooks c) := fun w => by
  rw [applyHooks_exec]
  rfl

theorem sendOnce_keeps (sql : String) (params : List Value) :
    KeepsConnections (ds.sendOnce sql params) := fun w => by
  rw [sendOnce_exec]
  simp [World.connections]

theorem sendWithRetry_keeps (sql : String) (params : List Value) (allowRetry : Bool) (fuel n : Nat) :
    KeepsConnections (ds.sendWithRetry sql params allowRetry fuel n) := by
  induction fuel generalizing n with
  | zero =>
    unfold sendWithRetry
    refine .bind (.attempt (sendOnce_keeps ds sql params)) fun r => ?_
    split
    · exact .pure _
    · dsimp only
      split
      · exact .throw_bind _ _
      · exact .throw _
  | succ fuel ih =>
    unfold sendWithRetry
    refine .bind (.attempt (sendOnce_keeps ds sql params)) fun r => ?_
    split
    · exact .pure _
    · dsimp only
      split
      · exact .throw_bind _ _
      · split
        · rename_i fuel' delay hfuel _
          obtain rfl : fuel = fuel' := Nat.succ.inj hfuel
          exact .bind (.emit _) fun _ => ih _
        · exact .throw _

theorem report_keeps (c : QueryContext) (result : OrmResult DriverResult) :
    KeepsConnections (ds.report c result) := fun w => by
  simp [World.connections]

theorem execute_keeps (sql : String) (params : List Value) (allowRetry : Bool) :
    KeepsConnections (ds.execute id sql params allowRetry) := by
  unfold execute
  refine .bind (.runner id) fun r => .bind (applyHooks_keeps ds _) fun c => .bind (.ofResult _)
    fun _ => ?_
  split
  · exact .throw_bind _ _
  · exact .bind (.attempt (sendWithRetry_keeps ds _ _ _ _ _)) fun _ => .bind (report_keeps ds _ _)
      fun _ => .bind (.ofResult _) fun _ => .bind (.ofResult _) fun _ => .pure _

theorem runStartStatements_keeps (stmts : List String) (first : Bool) :
    KeepsConnections (ds.runStartStatements id stmts first) := by
  induction stmts generalizing first with
  | nil => exact .pure _
  | cons sql rest ih =>
    refine .bind (.attempt (execute_keeps ds id sql [] false)) fun r => ?_
    split
    · exact ih false
    · dsimp only
      split
      · exact .throw_bind _ _
      · refine .bind (.attempt (execute_keeps ds id _ [] false)) fun r => ?_
        split <;> exact .throw _

theorem checkHandle_keeps (h : TransactionHandle) : KeepsConnections (checkHandle id h) :=
  fun w => by
    obtain ⟨r, hr, -⟩ := checkHandle_exec id h w
    rw [hr]

theorem rollbackLevel_keeps : KeepsConnections (ds.rollbackLevel id) :=
  .bind (.runner id) fun _ => .bind (.ofResult _) fun _ => .bind (execute_keeps ds id _ _ _)
    fun _ => .bind (.setDepth _ _) fun _ => .reportAfterStep _ _

theorem closeAfterFailure_keeps (e : OrmError) : KeepsConnections (ds.closeAfterFailure id e) := by
  refine .bind (.attempt (rollbackLevel_keeps ds id)) fun r => ?_
  split
  · exact .pure _
  · exact .bind (.emit _) fun _ => .pure _

theorem commit_keeps (h : TransactionHandle) : KeepsConnections (ds.commit id h) := by
  refine .bind (checkHandle_keeps id h) fun _ => .bind (.runner id) fun r => ?_
  dsimp only
  split
  · exact .bind (closeAfterFailure_keeps ds id _) fun _ => .throw_bind _ _
  · split
    · refine .bind (.attempt (execute_keeps ds id _ [] false)) fun r => ?_
      split
      · exact .bind (closeAfterFailure_keeps ds id _) fun _ => .throw_bind _ _
      · exact .bind (.setDepth _ _) fun _ => .reportAfterStep _ _
    · exact .bind (.setDepth _ _) fun _ => .reportAfterStep _ _

theorem rollback_keeps (h : TransactionHandle) : KeepsConnections (ds.rollback id h) :=
  .bind (checkHandle_keeps id h) fun _ => rollbackLevel_keeps ds id

def ConnectsFirst {α : Type} (x : ExecM α) : Prop :=
  ∃ k : Unit → ExecM α, (∀ u, KeepsConnections (k u)) ∧ x = ds.ensureConnected id >>= k

theorem query_connectsFirst (sql : String) (params : List Value) :
    ds.ConnectsFirst id (ds.query id sql params) :=
  ⟨_, fun _ => .bind (.runner id) fun _ => execute_keeps ds id _ _ _, rfl⟩

theorem stream_connectsFirst (sql : String) (params : List Value) :
    ds.ConnectsFirst id (ds.stream id sql params) := by
  refine ⟨_, fun _ => .bind (.runner id) fun _ => .bind (applyHooks_keeps ds _) fun _ =>
    .bind (.ofResult _) fun _ => .bind (.onDriver fun d => ⟨by simp, by simp⟩) fun r => ?_, rfl⟩
  split
  · exact .pure _
  · exact .throw _
  · exact .throw _

theorem startTransaction_connectsFirst (iso : Option Isolation) :
    ds.ConnectsFirst id (ds.startTransaction id iso) := by
  refine ⟨_, fun _ => .bind (.runner id) fun r => ?_, rfl⟩
  dsimp only
  split
  · exact .throw_bind _ _
  · refine .bind (.ofResult _) fun _ => ?_
    split
    · exact .bind (runStartStatements_keeps ds id _ _) fun _ => .bind (.setDepth _ _) fun _ =>
        .bind (.reportAfterStep _ _) fun _ => .pure _
    · exact .bind (execute_keeps ds id _ _ _) fun _ => .bind (.setDepth _ _) fun _ =>
        .bind (.reportAfterStep _ _) fun _ => .pure _

/-- What releasing a runner in state `r` adds to the database's log: the rollback of an open
transaction, as the hooks make it, unless the hooks or the subscribers told before stop it; then
the closing of the connection it holds. -/
def releaseLog (r : Runner) : List DriverEvent :=
  (if 0 < r.depth ∧ r.connected then
    match ds.gate r.depth ds.dialect.rollbackSql [] with
    | .ok c => [.statement c.sql []]
    | .error _ => []
  else []) ++ (if r.connected then [.close] else [])

/-- What releasing a runner in state `r` returns, on a database in state `d`: the failure of the
rollback of an open transaction (stopped by the hooks or the subscribers told before, refused by
the database, or refused by a subscriber told after), else the failure of closing the connection
it holds, else success. -/
def releaseResult (r : Runner) (d : ScriptedDriver) : OrmResult Unit :=
  if 0 < r.depth ∧ r.connected then
    match ds.gate r.depth ds.dialect.rollbackSql [] with
    | .error e => .error e
    | .ok c =>
      match ds.finish c [] (ds.delivered (d.query c.sql []).1) with
      | .error e => .error e
      | .ok _ => (d.query c.sql []).2.close.1
  else if r.connected then d.close.1 else .ok ()

/-- How releasing runner `id` of the world `w` ends, with `out`: the result of the release, the
runner released with no connection and no level open, the other runners as they were, and the
database's log grown by the release's log. -/
structure Releases (w : World) (out : OrmResult Unit × World) : Prop where
  result : out.1 = ds.releaseResult (w.runner id) w.driver
  runners : out.2.runners = w.runners.modify id fun r =>
    { r with released := true, connected := false, depth := 0 }
  log : out.2.driver.log = w.driver.log ++ ds.releaseLog (w.runner id)

theorem opens_releaseLog (r : Runner) :
    (ds.releaseLog r).countP DriverEvent.opensConnection = 0 := by
  unfold releaseLog
  split
  · split <;> split <;> simp [DriverEvent.opensConnection]
  · split <;> simp [DriverEvent.opensConnection]

theorem closes_releaseLog (r : Runner) :
    (ds.releaseLog r).countP DriverEvent.closesConnection = if r.connected then 1 else 0 := by
  unfold releaseLog
  split
  · split <;> split <;> simp_all [DriverEvent.closesConnection]
  · split <;> simp [DriverEvent.closesConnection]

private theorem releases_of_steps {res : OrmResult Unit} {w' : World}
    (hres : res = ds.releaseResult (w.runner id) w.driver)
    (hrun : w'.runners = ((w.runners.modify id fun r => { r with released := true }).modify id
      fun r => { r with depth := 0 }).modify id fun r => { r with connected := false })
    (hlog : w'.driver.log = (w.driver.log ++
      if 0 < (w.runner id).depth ∧ (w.runner id).connected then
        match ds.gate (w.runner id).depth ds.dialect.rollbackSql [] with
        | .ok c => [.statement c.sql []]
        | .error _ => []
      else []) ++ if (w.runner id).connected then [.close] else []) :
    ds.Releases id w (res, w') where
  result := hres
  runners := by
    rw [hrun, List.modify_modify_eq, List.modify_modify_eq]
    rfl
  log := by rw [hlog, releaseLog, List.append_assoc]

theorem release_releases (hid : id < w.runners.length) (hrel : (w.runner id).released = false) :
    ds.Releases id w ((ds.release id).exec w) := by
  simp only [release, exec_bind, exec_runner, hrel, Bool.false_eq_true, if_false,
    exec_updateRunner]
  by_cases hlev : 0 < (w.runner id).depth ∧ (w.runner id).connected
  case neg =>
    have hC : (decide ((w.runner id).depth > 0) && (w.runner id).connected) = false := by
      simpa using hlev
    simp only [hC, Bool.false_eq_true, if_false, exec_bind, exec_setDepth]
    cases hcon : (w.runner id).connected
    case false =>
      simp only [Bool.false_eq_true, if_false, exec_bind, exec_updateRunner, exec_emit,
        exec_ofResult]
      exact releases_of_steps ds id w (by simp [releaseResult, hcon]) rfl
        (by rw [if_neg hlev]; simp [hcon])
    case true =>
      simp only [if_true, exec_bind, exec_onDriver]
      split
      · next e hclose =>
        simp only [exec_bind, exec_updateRunner, exec_emit, exec_ofResult]
        exact releases_of_steps ds id w (by rw [releaseResult, if_neg hlev, if_pos hcon, hclose])
          rfl (by rw [if_neg hlev]; simp [hcon])
      · next hclose =>
        simp only [exec_bind, exec_updateRunner, exec_emit, exec_ofResult]
        refine releases_of_steps ds id w ?_ rfl (by rw [if_neg hlev]; simp [hcon])
        rw [releaseResult, if_neg hlev, if_pos hcon]
        cases hc : w.driver.close.1 with
        | error e => exact absurd hc (hclose e)
        | ok u => rfl
  case pos =>
    have hC : (decide ((w.runner id).depth > 0) && (w.runner id).connected) = true := by
      simpa using hlev
    simp only [hC, if_true, exec_bind]
    rw [reportAfterStep_ok]
    simp only [exec_attempt]
    generalize hw₂ : ((reportAfterStep _ _).exec _).2 = w₂
    have hrun₂ : w₂.runners = w.runners.modify id fun r => { r with released := true } := by
      rw [← hw₂, reportAfterStep_runners]
    have hdrv₂ : w₂.driver = w.driver := by rw [← hw₂, reportAfterStep_driver]
    have hr₂ : w₂.runner id = { w.runner id with released := true } := by
      rw [World.runner_of_runners_modify hrun₂ hid]
    obtain ⟨hrun₃, hspec⟩ := execute_spec ds id ds.dialect.rollbackSql [] w₂
    rcases hex : (ds.execute id ds.dialect.rollbackSql [] false).exec w₂ with ⟨res, w₃⟩
    rw [hex] at hrun₃ hspec
    simp only [hr₂] at hspec
    have hlog₃ : w₃.driver.log = w.driver.log ++
        if 0 < (w.runner id).depth ∧ (w.runner id).connected then
          match ds.gate (w.runner id).depth ds.dialect.rollbackSql [] with
          | .ok c => [.statement c.sql []]
          | .error _ => []
        else [] := by
      rw [if_pos hlev]
      cases hg : ds.gate (w.runner id).depth ds.dialect.rollbackSql [] with
      | error e =>
        simp only [hg] at hspec
        simp only [hspec.2, hdrv₂, List.append_nil]
      | ok c =>
        simp only [hg, hlev.2, if_true] at hspec
        simp only [hspec.2, hdrv₂, ScriptedDriver.log_query]
    have hrun₃' : w₃.runners = w.runners.modify id fun r => { r with released := true } :=
      hrun₃.trans hrun₂
    cases res with
    | error e =>
      have hresult : ds.releaseResult (w.runner id) w.driver = .error e := by
        unfold releaseResult
        rw [if_pos hlev]
        cases hg : ds.gate (w.runner id).depth ds.dialect.rollbackSql [] with
        | error e' =>
          simp only [hg, Except.error.injEq] at hspec
          rw [hspec.1]
        | ok c =>
          simp only [hg, hlev.2, if_true, hdrv₂] at hspec
          simp only [← hspec.1]
      simp only [exec_bind, exec_emit, exec_setDepth, hlev.2, if_true, exec_onDriver]
      split <;>
      · simp only [exec_bind, exec_updateRunner, exec_emit, exec_ofResult]
        exact releases_of_steps ds id w hresult.symm (by simp only [hrun₃'])
          (by simp only [ScriptedDriver.log_close, hlog₃, hlev.2, if_true])
    | ok _ =>
      have hresult : ds.releaseResult (w.runner id) w.driver = w₃.driver.close.1 := by
        unfold releaseResult
        rw [if_pos hlev]
        cases hg : ds.gate (w.runner id).depth ds.dialect.rollbackSql [] with
        | error e' =>
          simp only [hg] at hspec
          exact absurd hspec.1 (by simp)
        | ok c =>
          simp only [hg, hlev.2, if_true, hdrv₂] at hspec
          simp only [← hspec.1, hspec.2]
      simp only [exec_bind]
      rw [reportAfterStep_ok]
      generalize hw₄ : ((reportAfterStep _ _).exec w₃).2 = w₄
      have hrun₄ : w₄.runners = w₃.runners := by rw [← hw₄, reportAfterStep_runners]
      have hdrv₄ : w₄.driver = w₃.driver := by rw [← hw₄, reportAfterStep_driver]
      simp only [exec_setDepth, hlev.2, if_true, exec_bind, exec_onDriver]
      split
      · next e hclose =>
        simp only [exec_bind, exec_updateRunner, exec_emit, exec_ofResult]
        exact releases_of_steps ds id w (by rw [hresult, ← hdrv₄, hclose]) (by simp only [hrun₄, hrun₃'])
          (by simp only [ScriptedDriver.log_close, hdrv₄, hlog₃, hlev.2, if_true])
      · next hclose =>
        simp only [exec_bind, exec_updateRunner, exec_emit, exec_ofResult]
        refine releases_of_steps ds id w ?_ (by simp only [hrun₄, hrun₃'])
          (by simp only [ScriptedDriver.log_close, hdrv₄, hlog₃, hlev.2, if_true])
        rw [hresult, ← hdrv₄]
        cases hc : w₄.driver.close.1 with
        | error e => exact absurd hc (hclose e)
        | ok u => rfl

theorem release_of_released (hrel : (w.runner id).released = true) :
    (ds.release id).exec w = (.ok (), w) := by
  simp [release, exec_bind, hrel]

/-! ### A released runner refuses work -/

/-- How an operation meets a released runner: it fails with `queryRunnerAlreadyReleased` and
leaves the world as it found it, so it sends no statement and opens no connection. -/
def Refuses {α : Type} (x : ExecM α) (w : World) : Prop :=
  x.exec w = (.error .queryRunnerAlreadyReleased, w)

theorem Refuses.bind {α β : Type} {x : ExecM α} {f : α → ExecM β} {w : World}
    (h : Refuses x w) : Refuses (x >>= f) w := by
  rw [Refuses, exec_bind, h]

/-- A runner refuses every call: connecting, running or streaming a statement, opening a level,
and committing or rolling back a level with a handle of its own. -/
structure RefusesCalls (w : World) : Prop where
  connect : Refuses (ds.ensureConnected id) w
  query : ∀ sql params, Refuses (ds.query id sql params) w
  stream : ∀ sql params, Refuses (ds.stream id sql params) w
  start : ∀ iso, Refuses (ds.startTransaction id iso) w
  commit : ∀ h : TransactionHandle, h.runner = id → Refuses (ds.commit id h) w
  rollback : ∀ h : TransactionHandle, h.runner = id → Refuses (ds.rollback id h) w

section Refusals

variable {id w}
variable (hrel : (w.runner id).released = true)
include hrel

theorem ensureConnected_refuses : Refuses (ds.ensureConnected id) w := by
  simp [Refuses, ensureConnected, exec_bind, hrel]

theorem query_refuses (sql : String) (params : List Value) : Refuses (ds.query id sql params) w :=
  (ensureConnected_refuses ds hrel).bind

theorem stream_refuses (sql : String) (params : List Value) :
    Refuses (ds.stream id sql params) w :=
  (ensureConnected_refuses ds hrel).bind

theorem startTransaction_refuses (iso : Option Isolation) :
    Refuses (ds.startTransaction id iso) w :=
  (ensureConnected_refuses ds hrel).bind

theorem checkHandle_refuses {h : TransactionHandle} (hh : h.runner = id) :
    Refuses (checkHandle id h) w := by
  simp [Refuses, checkHandle, exec_bind, hh, hrel]

theorem commit_refuses {h : TransactionHandle} (hh : h.runner = id) :
    Refuses (ds.commit id h) w :=
  (checkHandle_refuses hrel hh).bind

theorem rollback_refuses {h : TransactionHandle} (hh : h.runner = id) :
    Refuses (ds.rollback id h) w :=
  (checkHandle_refuses hrel hh).bind

theorem refusesCalls_of_released : ds.RefusesCalls id w where
  connect := ensureConnected_refuses ds hrel
  query := query_refuses ds hrel
  stream := stream_refuses ds hrel
  start := startTransaction_refuses ds hrel
  commit _ := commit_refuses ds hrel
  rollback _ := rollback_refuses ds hrel

end Refusals

end DataSource

/-! ## The life of a runner -/

/-- The life of runner `id` so far, counted from the `n₀` connections opened and `c₀` closed
on the database when it was made: it has opened at most one connection, holds one exactly when
it opened it and is not released, and closes none until its release, where it closes the one it
opened. A live runner with a level open holds its connection. -/
structure Lifeline (id : RunnerId) (n₀ c₀ : Nat) (w : World) : Prop where
  runner_lt : id < w.runners.length
  opened_ge : n₀ ≤ w.driver.opened
  opened_le : w.driver.opened ≤ n₀ + 1
  holds : (w.runner id).released = false →
    ((w.runner id).connected = true ↔ w.driver.opened = n₀ + 1)
  levels_held : (w.runner id).released = false → 0 < (w.runner id).depth →
    (w.runner id).connected = true
  closed_live : (w.runner id).released = false → w.driver.closed = c₀
  dropped : (w.runner id).released = true → (w.runner id).connected = false
  closed_done : (w.runner id).released = true → w.driver.closed + n₀ = c₀ + w.driver.opened

namespace Lifeline

open DataSource

variable {id : RunnerId} {n₀ c₀ : Nat} {w w' : World}

theorem fresh (hid : id < w.runners.length) (mode : ReplicationMode)
    (hr : w.runner id = { mode }) : Lifeline id w.driver.opened w.driver.closed w where
  runner_lt := hid
  opened_ge := Nat.le_refl _
  opened_le := Nat.le_succ _
  holds := by simp [hr]
  levels_held := by simp [hr]
  closed_live := fun _ => rfl
  dropped := by simp [hr]
  closed_done := by simp [hr]

/-- A step that keeps the connections keeps the life of the runner, if it opens a level only on
a runner that holds its connection. -/
theorem keep (h : Lifeline id n₀ c₀ w) (hc : w'.connections = w.connections)
    (hdepth : (w'.runner id).depth ≤ (w.runner id).depth ∨ (w.runner id).connected = true) :
    Lifeline id n₀ c₀ w' := by
  obtain ⟨hcon, hrel⟩ := World.flags_of_connections_eq hc id
  have ho := World.opened_of_connections_eq hc
  have hcl := World.closed_of_connections_eq hc
  refine ⟨?_, ?_, ?_, ?_, ?_, ?_, ?_, ?_⟩ <;>
    simp only [World.length_of_connections_eq hc, hcon, hrel, ho, hcl]
  · exact h.runner_lt
  · exact h.opened_ge
  · exact h.opened_le
  · exact h.holds
  · intro hr hd
    rcases hdepth with hle | hheld
    · exact h.levels_held hr (by omega)
    · exact hheld
  · exact h.closed_live
  · exact h.dropped
  · exact h.closed_done

theorem connects (h : Lifeline id n₀ c₀ w) (hrel : (w.runner id).released = false)
    (hrun : w'.runners = w.runners.modify id fun r => { r with connected := true })
    (hopen : w'.driver.opened = n₀ + 1) (hclosed : w'.driver.closed = w.driver.closed) :
    Lifeline id n₀ c₀ w' := by
  have hr : w'.runner id = { w.runner id with connected := true } :=
    World.runner_of_runners_modify hrun h.runner_lt
  have hlen : id < w'.runners.length := by
    rw [hrun, List.length_modify]
    exact h.runner_lt
  refine ⟨hlen, by omega, by omega, ?_, ?_, ?_, ?_, ?_⟩ <;>
    simp [hr, hrel, hopen, hclosed, h.closed_live hrel]

theorem ensureConnected (ds : DataSource) (h : Lifeline id n₀ c₀ w) :
    Lifeline id n₀ c₀ ((ds.ensureConnected id).exec w).2 ∧
      (((ds.ensureConnected id).exec w).1.toBool = true →
        (((ds.ensureConnected id).exec w).2.runner id).connected = true) := by
  cases hrel : (w.runner id).released
  case true =>
    rw [ensureConnected_refuses ds hrel]
    exact ⟨h, by simp [Except.toBool]⟩
  case false =>
    cases hcon : (w.runner id).connected
    case true =>
      have hx : (ds.ensureConnected id).exec w = (.ok (), w) := by
        simp [DataSource.ensureConnected, exec_bind, hrel, hcon]
      rw [hx]
      exact ⟨h, fun _ => hcon⟩
    case false =>
      have hn : w.driver.opened = n₀ := by
        have := h.holds hrel
        have := h.opened_ge
        have := h.opened_le
        simp only [hcon, Bool.false_eq_true, false_iff] at *
        omega
      cases hc : (w.driver.connect (w.runner id).mode).1 with
      | error e =>
        have hx : (ds.ensureConnected id).exec w =
            (.error e, { w with driver := (w.driver.connect (w.runner id).mode).2 }) := by
          simp [DataSource.ensureConnected, exec_bind, hrel, hcon, hc]
        rw [hx]
        refine ⟨h.keep ?_ (.inl (Nat.le_refl _)), by simp [Except.toBool]⟩
        simp [World.connections, ScriptedDriver.opened_connect, hc, Except.toBool]
      | ok u =>
        have hopen : (w.driver.connect (w.runner id).mode).2.opened = n₀ + 1 := by
          rw [ScriptedDriver.opened_connect, hc, hn]
          rfl
        simp only [DataSource.ensureConnected, exec_bind, exec_runner, hrel, hcon,
          Bool.false_eq_true, if_false, Bool.not_false, if_true, exec_onDriver, hc, exec_ofResult,
          exec_updateRunner, exec_emit]
        refine ⟨h.connects hrel rfl hopen (ScriptedDriver.closed_connect _ _), fun _ => ?_⟩
        simp [World.runner_modify, h.runner_lt]

theorem connectsFirst {α : Type} {ds : DataSource} {x : ExecM α} (hx : ds.ConnectsFirst id x)
    (h : Lifeline id n₀ c₀ w) : Lifeline id n₀ c₀ (x.exec w).2 := by
  obtain ⟨k, hk, rfl⟩ := hx
  obtain ⟨h₁, hheld⟩ := h.ensureConnected ds
  rw [exec_bind]
  rcases he : (ds.ensureConnected id).exec w with ⟨_ | u, w₁⟩ <;> rw [he] at h₁ hheld
  · exact h₁
  · exact h₁.keep (hk u w₁) (.inr (hheld rfl))

theorem commit (ds : DataSource) (hd : TransactionHandle) (h : Lifeline id n₀ c₀ w) :
    Lifeline id n₀ c₀ ((ds.commit id hd).exec w).2 := by
  refine h.keep (commit_keeps ds id hd w) (.inl ?_)
  by_cases hh : Admits w id hd
  · rcases (commit_depth ds id w hh h.runner_lt).2.2 with hd' | ⟨hd', -⟩ <;> omega
  · obtain ⟨e, he⟩ := @commit_of_not_admits ds id hd w hh
    simp only [he, Nat.le_refl]

theorem rollback (ds : DataSource) (hd : TransactionHandle) (h : Lifeline id n₀ c₀ w) :
    Lifeline id n₀ c₀ ((ds.rollback id hd).exec w).2 := by
  refine h.keep (rollback_keeps ds id hd w) (.inl ?_)
  by_cases hh : Admits w id hd
  · rw [rollback_of_admits hh]
    obtain ⟨-, hdepth⟩ := rollbackLevel_depth ds id w h.runner_lt
    rcases hrb : (ds.rollbackLevel id).exec w with ⟨_ | u, w₁⟩ <;> rw [hrb] at hdepth <;>
      simp only at hdepth ⊢ <;> omega
  · obtain ⟨e, he⟩ := @rollback_of_not_admits ds id hd w hh
    simp only [he, Nat.le_refl]

theorem of_releases {ds : DataSource} {res : OrmResult Unit} (hr : ds.Releases id w (res, w'))
    (h : Lifeline id n₀ c₀ w) (hrel : (w.runner id).released = false) : Lifeline id n₀ c₀ w' := by
  have hr' : w'.runner id = { w.runner id with released := true, connected := false, depth := 0 } :=
    World.runner_of_runners_modify hr.runners h.runner_lt
  have hopen : w'.driver.opened = w.driver.opened := by
    rw [ScriptedDriver.opened_of_log hr.log, opens_releaseLog, Nat.add_zero]
  have hclose : w'.driver.closed = w.driver.closed + if (w.runner id).connected then 1 else 0 := by
    rw [ScriptedDriver.closed_of_log hr.log, closes_releaseLog]
  have hlen : id < w'.runners.length := by
    rw [hr.runners, List.length_modify]
    exact h.runner_lt
  have hheld := h.holds hrel
  have hlive := h.closed_live hrel
  refine ⟨hlen, hopen ▸ h.opened_ge, hopen ▸ h.opened_le, by simp [hr'], by simp [hr'],
    by simp [hr'], by simp [hr'], fun _ => ?_⟩
  rw [hopen, hclose, hlive]
  have := h.opened_ge
  have := h.opened_le
  by_cases hcon : (w.runner id).connected = true
  · rw [if_pos hcon, hheld.1 hcon]
    omega
  · have hn : w.driver.opened ≠ n₀ + 1 := fun he => hcon (hheld.2 he)
    rw [if_neg hcon]
    omega

theorem release (ds : DataSource) (h : Lifeline id n₀ c₀ w) :
    Lifeline id n₀ c₀ ((ds.release id).exec w).2 := by
  cases hrel : (w.runner id).released
  case true =>
    rw [release_of_released ds id w hrel]
    exact h
  case false => exact of_releases (release_releases ds id w h.runner_lt hrel) h hrel

end Lifeline

theorem Lifeline.closes_once {id : RunnerId} {n₀ c₀ : Nat} {w : World}
    (h : Lifeline id n₀ c₀ w) :
    w.driver.closed ≤ c₀ + 1 ∧
      (w.driver.closed = c₀ + 1 ↔ (w.runner id).released = true ∧ w.driver.opened = n₀ + 1) := by
  have := h.opened_ge
  have := h.opened_le
  cases hrel : (w.runner id).released
  case false =>
    have := h.closed_live hrel
    simp only [Bool.false_eq_true, false_and, iff_false]
    omega
  case true =>
    have := h.closed_done hrel
    simp only [true_and]
    omega

/-! ## Runs of calls and releases -/

/-- What a session does with its runner: a call, or releasing it. -/
inductive RunnerOp where
  | call (c : RunnerCall)
  | release

namespace ExecRequest.Session

def act (ds : DataSource) (id : RunnerId) (s : Session) : RunnerOp → OrmResult Unit × Session
  | .call c => s.perform ds id c
  | .release => s.call (ds.release id)

def runOps (ds : DataSource) (id : RunnerId) (s : Session) (ops : List RunnerOp) : Session :=
  ops.foldl (fun s o => (s.act ds id o).2) s

end ExecRequest.Session

open ExecRequest

namespace Lifeline

open DataSource Session

variable {id : RunnerId} {n₀ c₀ : Nat} {s : Session}

theorem act (ds : DataSource) (h : Lifeline id n₀ c₀ s.world) (o : RunnerOp) :
    Lifeline id n₀ c₀ (s.act ds id o).2.world := by
  cases o with
  | release => exact h.release ds
  | call c =>
    cases c with
    | connect => exact (h.ensureConnected ds).1
    | query sql params => exact h.connectsFirst (query_connectsFirst ds id sql params)
    | stream sql params => exact h.connectsFirst (stream_connectsFirst ds id sql params)
    | start iso =>
      have h' := h.connectsFirst (startTransaction_connectsFirst ds id iso)
      simp only [Session.act, Session.perform]
      rcases hout : (ds.startTransaction id iso).exec s.world with ⟨_ | hd, w⟩ <;>
        rw [hout] at h' <;> exact h'
    | commit i =>
      simp only [Session.act, Session.perform, Session.withHandle]
      split
      · exact h.commit ds _
      · exact h
    | rollback i =>
      simp only [Session.act, Session.perform, Session.withHandle]
      split
      · exact h.rollback ds _
      · exact h

theorem runOps (ds : DataSource) (h : Lifeline id n₀ c₀ s.world) (ops : List RunnerOp) :
    Lifeline id n₀ c₀ (s.runOps ds id ops).world := by
  induction ops generalizing s with
  | nil => exact h
  | cons o ops ih => exact ih (h.act ds o)

end Lifeline


/-! ## Release ends a runner -/

/-- Release ends a runner. Releasing a released runner does nothing, and every call on it is
refused before it reaches the database. Releasing a live runner rolls back its open level as
the statement pipeline lets the rollback through, closes the connection it holds, leaves it
released with no level open, and returns the failure of the rollback, else that of the closing,
else success (`DataSource.releaseResult`). Along every run of calls and releases from a fresh runner, it opens
at most one connection and closes at most one, and it has closed one exactly when it is released
after opening one; while it lives, a level open means a connection held. -/
theorem release_ends_runner (ds : DataSource) (id : RunnerId) :
    (∀ w : World, (w.runner id).released = true →
      (ds.release id).exec w = (.ok (), w) ∧ ds.RefusesCalls id w) ∧
    (∀ w : World, id < w.runners.length → (w.runner id).released = false →
      ds.Releases id w ((ds.release id).exec w)) ∧
    (∀ (s : Session) (mode : ReplicationMode), id < s.world.runners.length →
      s.world.runner id = { mode } → ∀ ops : List RunnerOp,
        let w := (s.runOps ds id ops).world
        w.driver.opened ≤ s.world.driver.opened + 1 ∧
        w.driver.closed ≤ s.world.driver.closed + 1 ∧
        (w.driver.closed = s.world.driver.closed + 1 ↔
          (w.runner id).released = true ∧ w.driver.opened = s.world.driver.opened + 1) ∧
        ((w.runner id).released = false → 0 < (w.runner id).depth →
          (w.runner id).connected = true)) := by
  refine ⟨fun w hrel => ⟨ds.release_of_released id w hrel, ds.refusesCalls_of_released hrel⟩,
    fun w hid hrel => ds.release_releases id w hid hrel, ?_⟩
  intro s mode hid hr ops
  have h := (Lifeline.fresh hid mode hr).runOps ds ops
  exact ⟨h.opened_le, h.closes_once.1, h.closes_once.2, h.levels_held⟩

/-- A postgres runner that opens a level and is released. -/
theorem release_ends_runner_postgres :
    let ds : DataSource := { dialect := .postgres, registry := {} }
    let s : Session :=
      { world := { driver := { dialect := .postgres }, runners := [{ mode := .master }] } }
    let w := (s.runOps ds 0 [.call (.start none), .release]).world
    w.driver.closed ≤ s.world.driver.closed + 1 ∧
      (w.driver.closed = s.world.driver.closed + 1 ↔
        (w.runner 0).released = true ∧ w.driver.opened = s.world.driver.opened + 1) := by
  intro ds s w
  have h := (release_ends_runner ds 0).2.2 s .master (by decide) rfl [.call (.start none), .release]
  exact ⟨h.2.1, h.2.2.1⟩

/-- A subscriber that refuses `ROLLBACK` before it runs makes the release of a runner with a
level open send no rollback: the transaction is left to the closing of the connection. -/
theorem release_closes_without_rollback :
    let refuse : Subscriber :=
      { onQuery := fun p e =>
          if p = .before ∧ e.sql = "ROLLBACK" then .error (.usage "no rollback") else .ok () }
    let ds : DataSource :=
      { dialect := .postgres, registry := {},
        broadcaster := { registry := {}, subscribers := [refuse] } }
    let s : Session :=
      { world := { driver := { dialect := .postgres }, runners := [{ mode := .master }] } }
    let opened := s.runOps ds 0 [.call (.start none)]
    let out := opened.act ds 0 .release
    opened.depth 0 = 1 ∧ out.1.toBool = false ∧
      out.2.world.driver.statements = ["START TRANSACTION"] ∧ out.2.world.driver.closed = 1 := by
  intro refuse ds s opened out
  exact ⟨by decide +kernel, by decide +kernel, by decide +kernel, by decide +kernel⟩

end EntitySql
