import EntitySql.Runner.Transaction

/-!
# The statement pipeline of a runner

A runner sends each statement through the same pipeline: the hooks decide on it, the
subscribers are told it is about to run, it is sent if the runner holds a connection, and its
answer (too late is a timeout) is reported and told to the subscribers again. This module says
once what that pipeline does to the two parts of the world that later statements are about: the
runners, which no statement changes, and the database, which sees the statement exactly when
the hooks and the subscribers let it through and the runner is connected.

`ExecM.exec` runs an operation on a world. Its lemmas take operations apart one bind at a time,
so the statements about transactions never unfold the pipeline again: they cite
`DataSource.execute_spec`.
-/

namespace EntitySql

namespace ExecM

variable {α β : Type}

def exec (x : ExecM α) (w : World) : OrmResult α × World := x.run.run w

theorem exec_bind (x : ExecM α) (f : α → ExecM β) (w : World) :
    (x >>= f).exec w = match x.exec w with
      | (.ok a, w') => (f a).exec w'
      | (.error e, w') => (.error e, w') := by
  unfold exec
  rcases h : x.run.run w with ⟨_ | a, w'⟩
  all_goals
    simp only [bind, ExceptT.bind, ExceptT.mk, ExceptT.bindCont, ExceptT.run, StateT.run,
      StateT.bind] at h ⊢
  · rw [h]
    rfl
  · rw [h]

@[simp] theorem exec_map (f : α → β) (x : ExecM α) (w : World) :
    (f <$> x).exec w = match x.exec w with
      | (.ok a, w') => (.ok (f a), w')
      | (.error e, w') => (.error e, w') := by
  rw [← bind_pure_comp, exec_bind]
  rcases x.exec w with ⟨_ | a, w'⟩ <;> rfl

@[simp] theorem exec_pure (a : α) (w : World) : (pure a : ExecM α).exec w = (.ok a, w) := rfl

@[simp] theorem exec_throw (e : OrmError) (w : World) :
    (throw e : ExecM α).exec w = (.error e, w) := rfl

@[simp] theorem exec_get (w : World) : (get : ExecM World).exec w = (.ok w, w) := rfl

@[simp] theorem exec_set (w' w : World) : (set w' : ExecM Unit).exec w = (.ok (), w') := rfl

@[simp] theorem exec_ofResult (r : OrmResult α) (w : World) : (ofResult r).exec w = (r, w) := by
  cases r <;> rfl

@[simp] theorem exec_attempt (x : ExecM α) (w : World) :
    (attempt x).exec w = (.ok (x.exec w).1, (x.exec w).2) := rfl

@[simp] theorem exec_updateRunner (id : RunnerId) (f : Runner → Runner) (w : World) :
    (updateRunner id f).exec w = (.ok (), { w with runners := w.runners.modify id f }) := rfl

@[simp] theorem exec_emit (e : TraceEvent) (w : World) :
    (emit e).exec w = (.ok (), { w with events := w.events ++ [e] }) := rfl

@[simp] theorem exec_emitAll (es : List TraceEvent) (w : World) :
    (emitAll es).exec w = (.ok (), { w with events := w.events ++ es }) := rfl

@[simp] theorem exec_onDriver (f : ScriptedDriver → α × ScriptedDriver) (w : World) :
    (onDriver f).exec w = (.ok (f w.driver).1, { w with driver := (f w.driver).2 }) := rfl

end ExecM

open ExecM

def World.runner (w : World) (id : RunnerId) : Runner := w.runners.getD id default

@[simp] theorem ExecM.exec_runner (id : RunnerId) (w : World) :
    (runner id).exec w = (.ok (w.runner id), w) := rfl

namespace World

@[simp] theorem runner_mk (w : World) (d : ScriptedDriver) (st : QueryStats)
    (c : Option ResultCache) (ev : List TraceEvent) (id : RunnerId) :
    ({ w with driver := d, stats := st, cache := c, events := ev } : World).runner id =
      w.runner id := rfl

theorem runner_modify (w : World) (d : ScriptedDriver) (st : QueryStats) (c : Option ResultCache)
    (ev : List TraceEvent) (id j : RunnerId) (f : Runner → Runner) :
    ({ w with
        driver := d, runners := w.runners.modify id f, stats := st, cache := c,
        events := ev } : World).runner j =
      if j = id ∧ id < w.runners.length then f (w.runner j) else w.runner j := by
  by_cases hj : j = id
  · subst hj
    by_cases hid : j < w.runners.length
    · simp [runner, List.getD_eq_getElem?_getD, hid]
    · simp [runner, List.getD_eq_getElem?_getD, hid]
  · simp only [runner, List.getD_eq_getElem?_getD, List.getElem?_modify, Ne.symm hj, if_false,
      hj, false_and]
    cases w.runners[j]? <;> rfl

theorem runner_of_runners_eq {w w' : World} (h : w'.runners = w.runners) (id : RunnerId) :
    w'.runner id = w.runner id := by
  simp [runner, h]

theorem runner_of_runners_modify {w w' : World} {id : RunnerId} {f : Runner → Runner}
    (h : w'.runners = w.runners.modify id f) (hid : id < w.runners.length) :
    w'.runner id = f (w.runner id) := by
  simp [runner, h, List.getD_eq_getElem?_getD, hid]

end World

/-- The statements a database was sent, oldest first. -/
def ScriptedDriver.statements (d : ScriptedDriver) : List String :=
  d.log.filterMap fun
    | .statement sql _ => some sql
    | _ => none

namespace ScriptedDriver

@[simp] theorem statements_query (d : ScriptedDriver) (sql : String) (params : List Value) :
    (d.query sql params).2.statements = d.statements ++ [sql] := by
  have hlog : (d.record (.statement sql params)).next.2.log = d.log ++ [.statement sql params] := by
    simp only [next, record]
    split <;> rfl
  unfold query
  rcases h : (d.record (.statement sql params)).next with ⟨_ | r, d'⟩ <;>
    simp only [h] at hlog ⊢ <;> simp [statements, hlog, List.filterMap_append]

@[simp] theorem statements_connect (d : ScriptedDriver) (mode : ReplicationMode) :
    (d.connect mode).2.statements = d.statements := by
  simp only [connect]
  split <;> simp [statements, record, List.filterMap_append]

@[simp] theorem statements_stream (d : ScriptedDriver) (sql : String) (params : List Value) :
    (d.stream sql params).2.statements = d.statements := by
  have hlog : (d.record (.stream sql params)).next.2.statements = d.statements := by
    simp only [next, record]
    split <;> simp [statements, List.filterMap_append]
  unfold stream
  split
  · rfl
  · rcases h : (d.record (.stream sql params)).next with ⟨_ | r, d'⟩ <;> simp only [h] at hlog ⊢
    · exact hlog
    · split
      · exact hlog
      · split <;> exact hlog

end ScriptedDriver

def World.SentWithin (allowed : List String) (w w' : World) : Prop :=
  ∃ sent, sent.Sublist allowed ∧ w'.driver.statements = w.driver.statements ++ sent

namespace World.SentWithin

theorem of_statements_eq {allowed : List String} {w w' : World}
    (h : w'.driver.statements = w.driver.statements) : SentWithin allowed w w' :=
  ⟨[], List.nil_sublist _, by rw [h, List.append_nil]⟩

theorem mono {allowed allowed' : List String} {w w' : World} (hsub : allowed.Sublist allowed')
    (h : SentWithin allowed w w') : SentWithin allowed' w w' :=
  let ⟨sent, hsent, heq⟩ := h
  ⟨sent, hsent.trans hsub, heq⟩

theorem append {a b : List String} {w₁ w₂ w₃ : World} (h₁ : SentWithin a w₁ w₂)
    (h₂ : SentWithin b w₂ w₃) : SentWithin (a ++ b) w₁ w₃ := by
  obtain ⟨s₁, hs₁, heq₁⟩ := h₁
  obtain ⟨s₂, hs₂, heq₂⟩ := h₂
  exact ⟨s₁ ++ s₂, hs₁.append hs₂, by rw [heq₂, heq₁, List.append_assoc]⟩

theorem of_driver_eq {allowed : List String} {w w₁ w₂ : World} (h : SentWithin allowed w w₁)
    (hd : w₂.driver = w₁.driver) : SentWithin allowed w w₂ := by
  rw [SentWithin, hd]
  exact h

theorem of_eq_left {allowed : List String} {w w₁ w₂ : World}
    (hs : w₁.driver.statements = w.driver.statements) (h : SentWithin allowed w₁ w₂) :
    SentWithin allowed w w₂ := by
  obtain ⟨sent, hsub, heq⟩ := h
  exact ⟨sent, hsub, by rw [heq, hs]⟩

end World.SentWithin

namespace DataSource

/-- What the hooks make of a statement: the context it goes on in, or the failure that stops
it. -/
def hooked (ds : DataSource) (c : QueryContext) : OrmResult QueryContext :=
  match (QueryHook.chain ds.hooks c).1 with
  | .pass => .ok c
  | .rewrite sql => .ok (c.rewrite sql)
  | .abort reason => .error (.aborted ("query aborted by hook: " ++ reason))

/-- The gate a statement passes on a runner at a depth before it is sent: the hooks, then the
subscribers told it is about to run. -/
def gate (ds : DataSource) (depth : Nat) (sql : String) (params : List Value) :
    OrmResult QueryContext := do
  let c ← ds.hooked (QueryContext.new ds.dialect sql params.length depth)
  ds.broadcaster.query .before { sql := c.sql, params }
  pure c

/-- The database's answer as the runner takes it: one that comes after the timeout is a
timeout. -/
def delivered (ds : DataSource) (answer : OrmResult DriverResult × Nat) : OrmResult DriverResult :=
  match ds.options.queryTimeout with
  | some limit => if limit < answer.2 then .error (.timeout limit) else answer.1
  | none => answer.1

/-- How a statement sent as `c` ends: its failure with the statement attached, else the failure
of a subscriber told it ran, else its result. -/
def finish (ds : DataSource) (c : QueryContext) (params : List Value)
    (answer : OrmResult DriverResult) : OrmResult DriverResult :=
  match answer with
  | .error e => .error (e.withStatement c.sql params)
  | .ok v =>
    match ds.broadcaster.query .after { sql := c.sql, params, error := none } with
    | .error e => .error e
    | .ok () => .ok v

theorem applyHooks_exec (ds : DataSource) (c : QueryContext) (w : World) :
    (ds.applyHooks c).exec w =
      (ds.hooked c, { w with events := w.events ++ (QueryHook.chain ds.hooks c).2 }) := by
  unfold applyHooks hooked
  rw [exec_bind, exec_emitAll]
  dsimp only
  split <;> next h => simp only [exec_pure, exec_throw, h]

theorem sendOnce_exec (ds : DataSource) (sql : String) (params : List Value) (w : World) :
    (ds.sendOnce sql params).exec w =
      (ds.delivered (w.driver.query sql params).1,
        { w with driver := (w.driver.query sql params).2 }) := by
  unfold sendOnce delivered
  rw [exec_bind, exec_onDriver]
  cases ds.options.queryTimeout with
  | none => simp
  | some limit =>
    by_cases hlate : limit < (w.driver.query sql params).1.2 <;> simp [hlate]

theorem sendWithRetry_runners (ds : DataSource) (sql : String) (params : List Value)
    (allowRetry : Bool) (fuel n : Nat) (w : World) :
    ((ds.sendWithRetry sql params allowRetry fuel n).exec w).2.runners = w.runners := by
  induction fuel generalizing n w with
  | zero =>
    unfold sendWithRetry
    rw [exec_bind, exec_attempt, sendOnce_exec]
    cases (ds.delivered (w.driver.query sql params).1) with
    | ok v => rfl
    | error e =>
      dsimp only
      split <;> rfl
  | succ fuel ih =>
    unfold sendWithRetry
    rw [exec_bind, exec_attempt, sendOnce_exec]
    cases (ds.delivered (w.driver.query sql params).1) <;> simp
    split
    · simp
    · split
      · rename_i fuel' delay hfuel _
        obtain rfl : fuel = fuel' := Nat.succ.inj hfuel
        simp [exec_bind, ih]
      · simp

theorem sendWithRetry_statements (ds : DataSource) (sql : String) (params : List Value)
    (allowRetry : Bool) (fuel n : Nat) (w : World) :
    ∃ k ≤ fuel + 1, ((ds.sendWithRetry sql params allowRetry fuel n).exec w).2.driver.statements =
      w.driver.statements ++ List.replicate k sql := by
  induction fuel generalizing n w with
  | zero =>
    unfold sendWithRetry
    rw [exec_bind, exec_attempt, sendOnce_exec]
    refine ⟨1, Nat.le_refl _, ?_⟩
    cases (ds.delivered (w.driver.query sql params).1) with
    | ok v => simp
    | error e =>
      dsimp only
      split <;> simp
  | succ fuel ih =>
    unfold sendWithRetry
    rw [exec_bind, exec_attempt, sendOnce_exec]
    cases (ds.delivered (w.driver.query sql params).1) with
    | ok v => exact ⟨1, by omega, by simp⟩
    | error e =>
      dsimp only
      split
      · exact ⟨1, by omega, by simp⟩
      · split
        · -- a retry: the statement went out once, and the retries send the rest
          rename_i fuel' delay hfuel _
          obtain rfl : fuel = fuel' := Nat.succ.inj hfuel
          simp only [exec_bind, exec_emit]
          obtain ⟨k, hk, hsent⟩ := ih (n + 1)
            { w with driver := (w.driver.query sql params).2, events := _ }
          refine ⟨k + 1, by omega, ?_⟩
          rw [hsent, ScriptedDriver.statements_query, List.replicate_succ]
          simp
        · exact ⟨1, by omega, by simp⟩

theorem sendWithRetry_once (ds : DataSource) (sql : String) (params : List Value)
    (fuel n : Nat) (w : World) :
    (ds.sendWithRetry sql params false fuel n).exec w = (ds.sendOnce sql params).exec w := by
  cases fuel <;>
  · unfold sendWithRetry
    rw [exec_bind, exec_attempt]
    rcases (ds.sendOnce sql params).exec w with ⟨_ | v, w'⟩ <;> simp

theorem tellMonitors_exec (ds : DataSource)
    (tell : QueryMonitor → QueryStats → List TraceEvent × QueryStats) (w : World) :
    (ds.tellMonitors tell).exec w =
      let told := QueryMonitor.tellAll tell ds.monitors w.stats
      (.ok (), { w with stats := told.2, events := w.events ++ told.1 }) := rfl

theorem report_exec (ds : DataSource) (c : QueryContext) (result : OrmResult DriverResult)
    (w : World) :
    ((ds.report c result).exec w).1 = .ok () ∧ ((ds.report c result).exec w).2.runners = w.runners ∧
      ((ds.report c result).exec w).2.driver = w.driver := by
  unfold report
  cases ds.isMonitoring <;> cases ds.isSlow <;>
    simp [exec_bind, tellMonitors_exec]

theorem report_ok (ds : DataSource) (c : QueryContext) (result : OrmResult DriverResult)
    (w : World) : (ds.report c result).exec w = (.ok (), ((ds.report c result).exec w).2) := by
  rw [← (report_exec ds c result w).1]

@[simp] theorem report_runners (ds : DataSource) (c : QueryContext)
    (result : OrmResult DriverResult) (w : World) :
    ((ds.report c result).exec w).2.runners = w.runners := (report_exec ds c result w).2.1

@[simp] theorem report_driver (ds : DataSource) (c : QueryContext)
    (result : OrmResult DriverResult) (w : World) :
    ((ds.report c result).exec w).2.driver = w.driver := (report_exec ds c result w).2.2

/-- One statement without retries. It changes no runner. It reaches the database exactly when
the hooks and the subscribers let it through and the runner is connected, and then it ends as the
database's answer, read with the timeout, and the subscribers told it ran, say. -/
theorem execute_spec (ds : DataSource) (id : RunnerId) (sql : String) (params : List Value)
    (w : World) :
    let r := w.runner id
    let out := (ds.execute id sql params false).exec w
    out.2.runners = w.runners ∧
    match ds.gate r.depth sql params with
    | .error e => out.1 = .error e ∧ out.2.driver = w.driver
    | .ok c =>
      if r.connected then
        out.1 = ds.finish c params (ds.delivered (w.driver.query c.sql params).1) ∧
          out.2.driver = (w.driver.query c.sql params).2
      else out.1 = .error .queryRunnerAlreadyReleased ∧ out.2.driver = w.driver := by
  intro r out
  have hr : (runner id).exec w = (.ok r, w) := rfl
  simp only [out, execute, exec_bind, hr, applyHooks_exec]
  cases hh : ds.hooked (QueryContext.new ds.dialect sql params.length r.depth) with
  | error e =>
    have hgate : ds.gate r.depth sql params = .error e := by simp only [gate, hh]; rfl
    simp [hgate]
  | ok c =>
    cases hb : ds.broadcaster.query .before { sql := c.sql, params } with
    | error e =>
      have hgate : ds.gate r.depth sql params = .error e := by
        simp only [gate, hh, hb, bind, Except.bind]
      simp [hgate, hb]
    | ok u =>
      have hgate : ds.gate r.depth sql params = .ok c := by
        simp only [gate, hh, hb, bind, Except.bind, pure, Except.pure]
      simp only [hgate, exec_ofResult, hb]
      cases hc : r.connected with
      | false => simp
      | true =>
        simp only [Bool.not_true, Bool.false_eq_true, if_false, if_true, exec_bind, exec_attempt,
          sendWithRetry_once, sendOnce_exec]
        rw [report_ok]
        cases hd : ds.delivered (w.driver.query c.sql params).1 with
        | error e => simp [finish]
        | ok v =>
          cases ha : ds.broadcaster.query .after { sql := c.sql, params } <;> simp [finish, ha]

/-- The texts a statement without parameters goes out as at a depth: the one the hooks make of
it, or none when they stop it. -/
def textsAt (ds : DataSource) (depth : Nat) (sql : String) : List String :=
  match ds.hooked (QueryContext.new ds.dialect sql 0 depth) with
  | .ok c => [c.sql]
  | .error _ => []

def HooksPass (ds : DataSource) : Prop := ∀ c, (QueryHook.chain ds.hooks c).1 = .pass

theorem hooksPass_of_nil {ds : DataSource} (h : ds.hooks = []) : ds.HooksPass := by
  intro c
  simp [h, QueryHook.chain, QueryHook.chainFrom]

theorem hooked_of_pass {ds : DataSource} (h : ds.HooksPass) (c : QueryContext) :
    ds.hooked c = .ok c := by
  simp [hooked, h c]

theorem textsAt_of_pass {ds : DataSource} (h : ds.HooksPass) (depth : Nat) :
    ds.textsAt depth = fun sql => [sql] := by
  funext sql
  simp [textsAt, hooked_of_pass h, QueryContext.new]

theorem gate_hooked {ds : DataSource} {depth : Nat} {sql : String} {params : List Value}
    {c : QueryContext} (h : ds.gate depth sql params = .ok c) :
    ds.hooked (QueryContext.new ds.dialect sql params.length depth) = .ok c := by
  unfold gate at h
  cases hh : ds.hooked (QueryContext.new ds.dialect sql params.length depth) with
  | error e => simp [hh, bind, Except.bind] at h
  | ok c' =>
    cases hb : ds.broadcaster.query .before { sql := c'.sql, params } with
    | error e => simp [hh, hb, bind, Except.bind] at h
    | ok u =>
      simp only [hh, hb, bind, Except.bind, pure, Except.pure, Except.ok.injEq] at h
      rw [h]

theorem gate_sql_of_pass {ds : DataSource} (h : ds.HooksPass) {depth : Nat} {sql : String}
    {params : List Value} {c : QueryContext} (ha : ds.gate depth sql params = .ok c) :
    c.sql = sql := by
  have hc := gate_hooked ha
  rw [hooked_of_pass h, Except.ok.injEq] at hc
  rw [← hc]
  rfl

@[simp] theorem execute_runners (ds : DataSource) (id : RunnerId) (sql : String)
    (params : List Value) (w : World) :
    ((ds.execute id sql params false).exec w).2.runners = w.runners :=
  (execute_spec ds id sql params w).1

theorem execute_statements (ds : DataSource) (id : RunnerId) (sql : String) (w : World) :
    World.SentWithin (ds.textsAt (w.runner id).depth sql) w
      ((ds.execute id sql [] false).exec w).2 := by
  obtain ⟨-, hspec⟩ := execute_spec ds id sql [] w
  cases ha : ds.gate (w.runner id).depth sql [] with
  | error e =>
    simp only [ha] at hspec
    exact .of_statements_eq (congrArg ScriptedDriver.statements hspec.2)
  | ok c =>
    simp only [ha] at hspec
    have htexts : ds.textsAt (w.runner id).depth sql = [c.sql] := by
      have hh := gate_hooked ha
      rw [List.length_nil] at hh
      simp [textsAt, hh]
    split at hspec
    · exact ⟨[c.sql], htexts ▸ List.Sublist.refl _,
        by rw [hspec.2, ScriptedDriver.statements_query]⟩
    · exact .of_statements_eq (congrArg ScriptedDriver.statements hspec.2)

theorem execute_ok_statements {ds : DataSource} {id : RunnerId} {sql : String} {w : World}
    {v : DriverResult} (h : ((ds.execute id sql [] false).exec w).1 = .ok v) :
    ((ds.execute id sql [] false).exec w).2.driver.statements =
      w.driver.statements ++ ds.textsAt (w.runner id).depth sql := by
  obtain ⟨-, hspec⟩ := execute_spec ds id sql [] w
  cases ha : ds.gate (w.runner id).depth sql [] with
  | error e =>
    simp only [ha] at hspec
    rw [hspec.1] at h
    cases h
  | ok c =>
    simp only [ha] at hspec
    have htexts : ds.textsAt (w.runner id).depth sql = [c.sql] := by
      have hh := gate_hooked ha
      rw [List.length_nil] at hh
      simp [textsAt, hh]
    split at hspec
    · rw [hspec.2, ScriptedDriver.statements_query, htexts]
    · rw [hspec.1] at h
      cases h

theorem execute_frame (ds : DataSource) (id : RunnerId) (sql : String) (params : List Value)
    (allowRetry : Bool) (w : World) :
    let out := (ds.execute id sql params allowRetry).exec w
    out.2.runners = w.runners ∧ ∃ k ≤ ds.options.retry.maxAttempts + 1, ∃ t : String,
      (0 < k → ∃ c, ds.gate (w.runner id).depth sql params = .ok c ∧ t = c.sql) ∧
      out.2.driver.statements = w.driver.statements ++ List.replicate k t := by
  intro out
  simp only [out, execute, exec_bind, exec_runner, applyHooks_exec]
  cases hh : ds.hooked (QueryContext.new ds.dialect sql params.length (w.runner id).depth) with
  | error e => exact ⟨by simp, 0, Nat.zero_le _, sql, by simp, by simp⟩
  | ok c =>
    cases hb : ds.broadcaster.query .before { sql := c.sql, params } with
    | error e => exact ⟨by simp [hb], 0, Nat.zero_le _, sql, by simp, by simp [hb]⟩
    | ok u =>
      have hgate : ds.gate (w.runner id).depth sql params = .ok c := by
        simp only [gate, hh, hb, bind, Except.bind, pure, Except.pure]
      cases (w.runner id).connected with
      | false => exact ⟨by simp [hb], 0, Nat.zero_le _, sql, by simp, by simp [hb]⟩
      | true =>
        simp only [hb, exec_ofResult, Bool.not_true, Bool.false_eq_true, if_false, exec_bind,
          exec_attempt]
        let w₀ : World := { w with events := w.events ++
          (QueryHook.chain ds.hooks (QueryContext.new ds.dialect sql params.length
            (w.runner id).depth)).2 }
        have hrun := sendWithRetry_runners ds c.sql params allowRetry
          ds.options.retry.maxAttempts 0 w₀
        obtain ⟨k, hk, hsent⟩ := sendWithRetry_statements ds c.sql params allowRetry
          ds.options.retry.maxAttempts 0 w₀
        rcases hs : (ds.sendWithRetry c.sql params allowRetry ds.options.retry.maxAttempts 0).exec
          w₀ with ⟨r, w₁⟩
        have hrun₁ : w₁.runners = w.runners := by rw [hs] at hrun; exact hrun
        have hsent₁ : w₁.driver.statements = w.driver.statements ++ List.replicate k c.sql := by
          rw [hs] at hsent; exact hsent
        rw [report_ok]
        refine ⟨?_, k, hk, c.sql, fun _ => ⟨c, hgate, rfl⟩, ?_⟩ <;>
        · cases r with
          | error e => simp [hrun₁, hsent₁]
          | ok v =>
            cases ds.broadcaster.query .after { sql := c.sql, params } <;> simp [hrun₁, hsent₁]

end DataSource

end EntitySql
