import EntitySql.Proofs.Runner.Calls

/-!
# The levels open on the database

The database keeps its own count of open transaction levels, from the statements it ran
successfully: `START TRANSACTION` or `BEGIN TRANSACTION` opens the first level, a `SAVEPOINT`
one more; `RELEASE SAVEPOINT` and `ROLLBACK TO SAVEPOINT` close one; `COMMIT` and `ROLLBACK`
close them all (`levelChange`, `openLevels`). Which statements ran is read off the driver: its
log, replayed against its script, each statement taking the next response
(`ScriptedDriver.Replayed`, `ScriptedDriver.Runs`).

A runner keeps a depth of its own, and the two agree along every run of calls when the runner
takes each statement as the database answered it (`DataSource.Faithful`: no hook rewrites or
stops a statement, no answer counts as late, and no subscriber told that a statement ran refuses
it), the dialect writes its transaction statements as the count reads them
(`Dialect.spellsLevels`), and no statement run by hand is one of them (`RunnerCall.inert`).
One call breaks the agreement all the same: opening the first level whose statements failed
after the first had run, and whose `ROLLBACK` then failed as well (`CallStep.leftOpening`). The
runner stays at depth zero while the database holds the transaction open. A subscriber that
refuses a statement after it ran breaks it too: refusing `START TRANSACTION` leaves the runner at
depth zero and the transaction open (`opening_refused_after_it_ran`).

`ExecRequest.Session.depth_tracks_open_levels` is the statement over runs, from one lemma per
call (`CallStep.tracks`), each assembled from one lemma per function of the runner.
-/

namespace EntitySql

/-! ## The database's count -/

/-- What a statement that ran does to the levels open on the database. -/
inductive LevelChange where
  | openFirst
  | openNested
  | closeOne
  | closeAll
  | keep
  deriving DecidableEq, Repr

namespace LevelChange

/-- The number of levels open after a change. -/
def apply : LevelChange → Nat → Nat
  | .openFirst, _ => 1
  | .openNested, n => n + 1
  | .closeOne, n => n - 1
  | .closeAll, _ => 0
  | .keep, n => n

end LevelChange

def beginsWith (sql keyword : String) : Bool := keyword.toList.isPrefixOf sql.toList

/-- How the database reads a statement for its count of levels. -/
def levelChange (sql : String) : LevelChange :=
  if sql = "START TRANSACTION" ∨ sql = "BEGIN TRANSACTION" then .openFirst
  else if sql = "COMMIT" ∨ sql = "ROLLBACK" then .closeAll
  else if beginsWith sql "SAVEPOINT " then .openNested
  else if beginsWith sql "RELEASE SAVEPOINT " || beginsWith sql "ROLLBACK TO SAVEPOINT " then
    .closeOne
  else .keep

def openLevels (n : Nat) (ran : List String) : Nat :=
  ran.foldl (fun n sql => (levelChange sql).apply n) n

@[simp] theorem openLevels_nil (n : Nat) : openLevels n [] = n := rfl

@[simp] theorem openLevels_append (n : Nat) (a b : List String) :
    openLevels n (a ++ b) = openLevels (openLevels n a) b := List.foldl_append

@[simp] theorem openLevels_cons (n : Nat) (sql : String) (ran : List String) :
    openLevels n (sql :: ran) = openLevels ((levelChange sql).apply n) ran := rfl

/-! ### Reading the statements of the dialects -/

theorem beginsWith_append (keyword rest : String) : beginsWith (keyword ++ rest) keyword := by
  rw [beginsWith, List.isPrefixOf_iff_prefix, String.toList_append]
  exact List.prefix_append _ _

theorem ne_of_beginsWith {sql other keyword : String} (h : beginsWith sql keyword)
    (hother : beginsWith other keyword = false) : sql ≠ other := by
  rintro rfl
  rw [h] at hother
  cases hother

theorem beginsWith_append_of_not {head keyword : String} (rest : String)
    (h : beginsWith head keyword = false) (hlen : keyword.toList.length ≤ head.toList.length) :
    beginsWith (head ++ rest) keyword = false := by
  rw [beginsWith] at h ⊢
  rw [Bool.eq_false_iff] at h ⊢
  intro hpre
  rw [List.isPrefixOf_iff_prefix, String.toList_append] at hpre
  exact h (List.isPrefixOf_iff_prefix.2
    (List.prefix_of_prefix_length_le hpre (List.prefix_append _ _) hlen))

theorem levelChange_savepoint (name : String) : levelChange ("SAVEPOINT " ++ name) = .openNested := by
  have h := beginsWith_append "SAVEPOINT " name
  rw [levelChange, if_neg, if_neg, if_pos h]
  · exact not_or.2 ⟨ne_of_beginsWith h (by decide), ne_of_beginsWith h (by decide)⟩
  · exact not_or.2 ⟨ne_of_beginsWith h (by decide), ne_of_beginsWith h (by decide)⟩

theorem levelChange_closeOne {head : String} (hhead : head = "RELEASE SAVEPOINT " ∨
    head = "ROLLBACK TO SAVEPOINT ") (name : String) :
    levelChange (head ++ name) = .closeOne := by
  have h := beginsWith_append head name
  have hnot : beginsWith (head ++ name) "SAVEPOINT " = false := by
    apply beginsWith_append_of_not
    all_goals rcases hhead with rfl | rfl <;> decide
  have hclose : (beginsWith (head ++ name) "RELEASE SAVEPOINT " ||
      beginsWith (head ++ name) "ROLLBACK TO SAVEPOINT ") = true := by
    rcases hhead with rfl | rfl <;> simp [h]
  rw [levelChange, if_neg, if_neg, if_neg (by simp [hnot]), if_pos hclose]
  all_goals
    rcases hhead with rfl | rfl <;>
    exact not_or.2 ⟨ne_of_beginsWith h (by decide), ne_of_beginsWith h (by decide)⟩

theorem levelChange_commit : levelChange "COMMIT" = .closeAll := by decide

theorem levelChange_rollback : levelChange "ROLLBACK" = .closeAll := by decide

theorem Dialect.levelChange_rollbackSql (d : Dialect) : levelChange d.rollbackSql = .closeAll :=
  levelChange_rollback

/-- The dialects whose transaction statements the count reads: they open a transaction with
`START TRANSACTION` or `BEGIN TRANSACTION` and name savepoints with `SAVEPOINT`. -/
def Dialect.spellsLevels : Dialect → Bool
  | .postgres | .cockroachDb | .mySql | .mariaDb | .sqlite | .libSql | .duckDb | .spanner => true
  | .msSql | .oracle | .sapHana => false

namespace Dialect

variable {d : Dialect}

theorem openLevels_startTransactionSql (hd : d.spellsLevels) (iso : Option Isolation) (n : Nat) :
    openLevels n (d.startTransactionSql iso) = 1 := by
  have hshape : (d.startTransactionSql iso).map levelChange ∈
      [[.openFirst], [.openFirst, .keep], [.keep, .openFirst]] := by
    cases d <;> simp only [spellsLevels, Bool.false_eq_true] at hd <;>
      rcases iso with _ | ⟨_ | _ | _ | _⟩ <;> decide
  rw [openLevels, ← List.foldl_map (g := fun n c => LevelChange.apply c n)]
  simp only [List.mem_cons, List.not_mem_nil, or_false] at hshape
  rcases hshape with h | h | h <;> rw [h] <;> rfl

theorem levelChange_createSavepointSql (hd : d.spellsLevels) (name : String) :
    levelChange (d.createSavepointSql name) = .openNested := by
  have hms : d ≠ msSql := by rintro rfl; cases hd
  rw [createSavepointSql, if_neg hms, levelChange_savepoint]

theorem levelChange_rollbackToSavepointSql (hd : d.spellsLevels) (name : String) :
    levelChange (d.rollbackToSavepointSql name) = .closeOne := by
  have hms : d ≠ msSql := by rintro rfl; cases hd
  rw [rollbackToSavepointSql, if_neg hms, levelChange_closeOne (.inr rfl)]

theorem releaseSavepointSql_eq (hd : d.spellsLevels) (name : String) :
    d.releaseSavepointSql name = some ("RELEASE SAVEPOINT " ++ name) := by
  have hms : ¬ (d = msSql ∨ d = oracle) := by rintro (rfl | rfl) <;> cases hd
  rw [releaseSavepointSql, if_neg hms]

end Dialect

namespace DataSource

variable {ds : DataSource}

theorem apply_rollbackStatement (hd : ds.dialect.spellsLevels) {d : Nat} (hpos : 0 < d) :
    (levelChange (ds.rollbackStatement d)).apply d = d - 1 := by
  unfold rollbackStatement
  split
  · rw [Dialect.levelChange_rollbackToSavepointSql hd]
    rfl
  · rw [Dialect.rollbackSql, levelChange_rollback]
    show 0 = d - 1
    omega

theorem apply_commitStatement (hd : ds.dialect.spellsLevels) {d : Nat} (hpos : 0 < d) :
    ∃ sql, ds.commitStatement d = some sql ∧ (levelChange sql).apply d = d - 1 := by
  unfold commitStatement
  split
  · rw [Dialect.releaseSavepointSql_eq hd]
    exact ⟨_, rfl, by rw [levelChange_closeOne (.inl rfl)]; rfl⟩
  · refine ⟨_, rfl, ?_⟩
    rw [Dialect.commitSql, levelChange_commit]
    show 0 = d - 1
    omega

end DataSource

/-! ## What the database ran -/

def ScriptedReply.succeeds : ScriptedReply → Bool
  | .success _ => true
  | .failure _ _ => false

namespace ScriptedDriver

/-- The database's side of a stretch of its log: the statements it ran successfully, in order,
and the responses of its script still to give. -/
structure Replayed where
  ran : List String
  left : List ScriptedResponse

/-- One event of the log: a statement takes the next response and ran when that is a result, or
when none is left; a stream takes the next response; the others take nothing. -/
def Replayed.step (r : Replayed) : DriverEvent → Replayed
  | .statement sql _ =>
    match r.left with
    | resp :: rest => ⟨if resp.reply.succeeds then r.ran ++ [sql] else r.ran, rest⟩
    | [] => ⟨r.ran ++ [sql], []⟩
  | .stream _ _ => ⟨r.ran, r.left.tail⟩
  | .connect _ | .connectRefused _ | .close => r

def replay (r : Replayed) (log : List DriverEvent) : Replayed := log.foldl Replayed.step r

theorem replay_append (r : Replayed) (a b : List DriverEvent) :
    replay r (a ++ b) = replay (replay r a) b := List.foldl_append

theorem replay_shift (ran : List String) (left : List ScriptedResponse) (log : List DriverEvent) :
    replay ⟨ran, left⟩ log =
      ⟨ran ++ (replay ⟨[], left⟩ log).ran, (replay ⟨[], left⟩ log).left⟩ := by
  induction log generalizing ran left with
  | nil => simp [replay]
  | cons e log ih =>
    simp only [replay, List.foldl_cons] at ih ⊢
    cases e with
    | statement sql params =>
      cases left with
      | nil => rw [Replayed.step, Replayed.step, ih, ih (([] : List String) ++ [sql])]; simp
      | cons resp rest =>
        simp only [Replayed.step]
        rw [ih, ih (if resp.reply.succeeds = true then [] ++ [sql] else [])]
        split <;> simp
    | stream sql params =>
      simp only [Replayed.step]
      rw [ih, ih []]
    | connect m | connectRefused m | close => simp only [Replayed.step]; rw [ih, ih []]

/-- The database ran `ran` between drivers `d` and `d'`: the log grew by events whose replay on
the responses left in `d` runs `ran` and leaves the responses of `d'`. -/
def Runs (d d' : ScriptedDriver) (ran : List String) : Prop :=
  ∃ new, d'.log = d.log ++ new ∧ replay ⟨[], d.responses⟩ new = ⟨ran, d'.responses⟩

namespace Runs

theorem of_eq {d d' : ScriptedDriver} (h : d' = d) : Runs d d' [] :=
  ⟨[], by simp [h], by simp [h, replay]⟩

theorem trans {d₁ d₂ d₃ : ScriptedDriver} {a b : List String} (h₁ : Runs d₁ d₂ a)
    (h₂ : Runs d₂ d₃ b) : Runs d₁ d₃ (a ++ b) := by
  obtain ⟨new₁, hlog₁, hrep₁⟩ := h₁
  obtain ⟨new₂, hlog₂, hrep₂⟩ := h₂
  refine ⟨new₁ ++ new₂, by rw [hlog₂, hlog₁, List.append_assoc], ?_⟩
  rw [replay_append, hrep₁, replay_shift, hrep₂]

theorem unique {d d' : ScriptedDriver} {a b : List String} (ha : Runs d d' a) (hb : Runs d d' b) :
    a = b := by
  obtain ⟨new₁, hlog₁, hrep₁⟩ := ha
  obtain ⟨new₂, hlog₂, hrep₂⟩ := hb
  obtain rfl : new₁ = new₂ := List.append_cancel_left (hlog₁.symm.trans hlog₂)
  rw [hrep₁] at hrep₂
  exact congrArg Replayed.ran hrep₂

end Runs

theorem runs_query (d : ScriptedDriver) (sql : String) (params : List Value) :
    Runs d (d.query sql params).2 (if (d.query sql params).1.1.toBool then [sql] else []) := by
  obtain ⟨dialect, responses, log, attempts, refused, closeFails, streams⟩ := d
  cases responses with
  | nil => exact ⟨[.statement sql params], rfl, rfl⟩
  | cons resp rest =>
    refine ⟨[.statement sql params], rfl, ?_⟩
    cases hrep : resp.reply <;>
      simp [query, record, next, replay, Replayed.step, hrep, ScriptedReply.outcome,
        ScriptedReply.succeeds, Except.toBool]

theorem runs_query_replicate (d : ScriptedDriver) (sql : String) (params : List Value) :
    ∃ k, Runs d (d.query sql params).2 (List.replicate k sql) := by
  have h := runs_query d sql params
  split at h
  · exact ⟨1, h⟩
  · exact ⟨0, h⟩

theorem runs_connect (d : ScriptedDriver) (mode : ReplicationMode) :
    Runs d (d.connect mode).2 [] := by
  dsimp only [connect]
  split
  · exact ⟨[.connectRefused mode], rfl, rfl⟩
  · exact ⟨[.connect mode], rfl, rfl⟩

theorem runs_stream (d : ScriptedDriver) (sql : String) (params : List Value) :
    Runs d (d.stream sql params).2 [] := by
  obtain ⟨dialect, responses, log, attempts, refused, closeFails, streams⟩ := d
  cases streams with
  | false => exact Runs.of_eq rfl
  | true =>
    refine ⟨[.stream sql params], ?_, ?_⟩
    all_goals
      cases responses with
      | nil => rfl
      | cons resp rest =>
        cases resp with
        | mk reply delay breakAt breakMessage =>
          cases reply with
          | failure m transient => rfl
          | success result => cases breakAt <;> rfl

end ScriptedDriver

/-! ## What each step of a runner runs -/

namespace DataSource

open ExecM ScriptedDriver

/-- The runner takes each statement as the database answered it: no hook rewrites or stops a
statement, no answer counts as late, and no subscriber told that a statement ran refuses it. -/
structure Faithful (ds : DataSource) : Prop where
  hooks_pass : ds.HooksPass
  no_timeout : ds.options.queryTimeout = none
  after_ok : ∀ sql params, ds.broadcaster.query .after { sql, params } = .ok ()

theorem ensureConnected_runs (ds : DataSource) (id : RunnerId) (w : World) :
    Runs w.driver ((ds.ensureConnected id).exec w).2.driver [] := by
  simp only [ensureConnected, exec_bind, exec_runner]
  cases hrel : (w.runner id).released
  · cases hcon : (w.runner id).connected
    · have hconn := runs_connect w.driver (w.runner id).mode
      cases hc : (w.driver.connect (w.runner id).mode).1 <;>
        simpa [exec_bind, hrel, hcon, hc] using hconn
    · simpa [hrel, hcon] using Runs.of_eq (d := w.driver) rfl
  · simpa [hrel] using Runs.of_eq (d := w.driver) rfl

theorem stream_runs (ds : DataSource) (id : RunnerId) (sql : String) (params : List Value)
    (w : World) : Runs w.driver ((ds.stream id sql params).exec w).2.driver [] := by
  have hconn := ensureConnected_runs ds id w
  simp only [stream, exec_bind]
  rcases hc : (ds.ensureConnected id).exec w with ⟨_ | u, w₁⟩ <;> rw [hc] at hconn
  · exact hconn
  · simp only [exec_runner, applyHooks_exec]
    cases ds.hooked (QueryContext.new ds.dialect sql params.length (w₁.runner id).depth) with
    | error e => simpa using hconn
    | ok c =>
      cases hb : ds.broadcaster.query .before { sql := c.sql, params } with
      | error e => simpa [hb] using hconn
      | ok u =>
        simp only [hb, exec_ofResult, exec_onDriver]
        have hstream := hconn.trans (runs_stream w₁.driver c.sql params)
        split <;> simpa using hstream

theorem sendWithRetry_runs (ds : DataSource) (sql : String) (params : List Value)
    (allowRetry : Bool) (fuel n : Nat) (w : World) :
    ∃ k, Runs w.driver ((ds.sendWithRetry sql params allowRetry fuel n).exec w).2.driver
      (List.replicate k sql) := by
  obtain ⟨j, hone⟩ := runs_query_replicate w.driver sql params
  induction fuel generalizing n w j with
  | zero =>
    unfold sendWithRetry
    rw [exec_bind, exec_attempt, sendOnce_exec]
    cases (ds.delivered (w.driver.query sql params).1) with
    | ok v => exact ⟨j, hone⟩
    | error e =>
      dsimp only
      split <;> exact ⟨j, hone⟩
  | succ fuel ih =>
    unfold sendWithRetry
    rw [exec_bind, exec_attempt, sendOnce_exec]
    cases (ds.delivered (w.driver.query sql params).1) with
    | ok v => exact ⟨j, hone⟩
    | error e =>
      dsimp only
      split
      · exact ⟨j, hone⟩
      · split
        · -- a retry runs the statement again from the driver the first try left
          rename_i fuel' delay hfuel _
          obtain rfl : fuel = fuel' := Nat.succ.inj hfuel
          simp only [exec_bind, exec_emit]
          have hretry : ∀ w₁ : World, w₁.driver = (w.driver.query sql params).2 →
              ∃ k, Runs w.driver
                ((ds.sendWithRetry sql params allowRetry fuel (n + 1)).exec w₁).2.driver
                (List.replicate k sql) := by
            intro w₁ hw₁
            obtain ⟨j₁, hone₁⟩ := runs_query_replicate w₁.driver sql params
            obtain ⟨k, hk⟩ := ih (n + 1) w₁ j₁ hone₁
            rw [hw₁] at hk
            exact ⟨j + k, by rw [← List.replicate_append_replicate]; exact hone.trans hk⟩
          exact hretry _ rfl
        · exact ⟨j, hone⟩

namespace Faithful

variable {ds : DataSource} (hf : ds.Faithful)
include hf

theorem delivered_eq (answer : OrmResult DriverResult × Nat) : ds.delivered answer = answer.1 := by
  simp [delivered, hf.no_timeout]

theorem finish_toBool (c : QueryContext) (params : List Value) (r : OrmResult DriverResult) :
    (ds.finish c params r).toBool = r.toBool := by
  cases r with
  | error e => rfl
  | ok v => simp [finish, hf.after_ok, Except.toBool]

end Faithful

theorem execute_runs {ds : DataSource} (hf : ds.Faithful) (id : RunnerId) (sql : String)
    (w : World) :
    let out := (ds.execute id sql [] false).exec w
    Runs w.driver out.2.driver (if out.1.toBool then [sql] else []) := by
  intro out
  obtain ⟨-, hspec⟩ := execute_spec ds id sql [] w
  cases hg : ds.gate (w.runner id).depth sql [] with
  | error e =>
    rw [hg] at hspec
    obtain ⟨hout, hdrv⟩ := hspec
    simpa [out, hout, Except.toBool] using Runs.of_eq hdrv
  | ok c =>
    rw [hg] at hspec
    have hc : c.sql = sql := gate_sql_of_pass hf.hooks_pass hg
    dsimp only at hspec
    rw [hc] at hspec
    split at hspec
    · obtain ⟨hout, hdrv⟩ := hspec
      rw [hdrv, hout, hf.finish_toBool, hf.delivered_eq]
      exact runs_query w.driver sql []
    · obtain ⟨hout, hdrv⟩ := hspec
      simpa [out, hout, Except.toBool] using Runs.of_eq hdrv

theorem execute_runs_replicate {ds : DataSource} (hpass : ds.HooksPass) (id : RunnerId)
    (sql : String) (params : List Value) (allowRetry : Bool) (w : World) :
    ∃ k, Runs w.driver ((ds.execute id sql params allowRetry).exec w).2.driver
      (List.replicate k sql) := by
  have hc : ds.hooked (QueryContext.new ds.dialect sql params.length (w.runner id).depth) =
      .ok (QueryContext.new ds.dialect sql params.length (w.runner id).depth) :=
    hooked_of_pass hpass _
  have hsql : (QueryContext.new ds.dialect sql params.length (w.runner id).depth).sql = sql := rfl
  simp only [execute, exec_bind, exec_runner, applyHooks_exec, hc, hsql]
  cases hb : ds.broadcaster.query .before { sql, params } with
  | error e => exact ⟨0, by simpa [hb] using Runs.of_eq (d := w.driver) rfl⟩
  | ok u =>
    cases (w.runner id).connected with
    | false => exact ⟨0, by simpa [hb] using Runs.of_eq (d := w.driver) rfl⟩
    | true =>
      simp only [exec_ofResult, Bool.not_true, Bool.false_eq_true, if_false, exec_bind,
        exec_attempt]
      let w₀ : World := { w with events := w.events ++
        (QueryHook.chain ds.hooks (QueryContext.new ds.dialect sql params.length
          (w.runner id).depth)).2 }
      obtain ⟨k, hk⟩ := sendWithRetry_runs ds sql params allowRetry ds.options.retry.maxAttempts 0 w₀
      refine ⟨k, ?_⟩
      rcases hs : (ds.sendWithRetry sql params allowRetry ds.options.retry.maxAttempts 0).exec w₀
        with ⟨r, w₁⟩
      rw [hs] at hk
      rw [report_ok]
      cases r with
      | error e => simpa using hk
      | ok v => cases ds.broadcaster.query .after { sql, params } <;> simpa using hk

theorem query_runs {ds : DataSource} (hpass : ds.HooksPass) (id : RunnerId) (sql : String)
    (params : List Value) (w : World) :
    ∃ k, Runs w.driver ((ds.query id sql params).exec w).2.driver (List.replicate k sql) := by
  have hconn := ensureConnected_runs ds id w
  simp only [query, exec_bind]
  rcases hc : (ds.ensureConnected id).exec w with ⟨_ | u, w₁⟩ <;> rw [hc] at hconn
  · exact ⟨0, hconn⟩
  · simp only [exec_runner]
    obtain ⟨k, hk⟩ := execute_runs_replicate hpass id sql params ((w₁.runner id).depth = 0) w₁
    exact ⟨k, hconn.trans hk⟩

theorem RunsOk.runs {ds : DataSource} (hf : ds.Faithful) {id : RunnerId} :
    ∀ {stmts : List String} {w w' : World}, RunsOk ds id stmts w w' → Runs w.driver w'.driver stmts
  | [], w, w', h => by
    simp only [RunsOk] at h
    subst h
    exact Runs.of_eq rfl
  | sql :: rest, w, w', ⟨v, w₁, hex, hrest⟩ => by
    have hone := execute_runs hf id sql w
    rw [hex] at hone
    exact (show sql :: rest = [sql] ++ rest from rfl) ▸ hone.trans (RunsOk.runs hf hrest)

/-- The statements of a new level, from a world where the runner is at depth `d`, ended as `body`
and ran `ran`: when they succeeded the database counts one level more, and when they failed it
counts as many as before, unless the failure says a rollback failed too. -/
theorem OpensLevel.tracks {id : RunnerId} {α : Type} {d : Nat} {w₀ : World} {body : OrmResult α × World}
    {out : OrmResult TransactionHandle × World} {ran : List String} (hopen : OpensLevel id d body out)
    (hruns : Runs w₀.driver body.2.driver ran) (hrunners : body.2.runners = w₀.runners)
    (hdepth : (w₀.runner id).depth = d) (hid : id < w₀.runners.length)
    (hok : body.1.toBool → openLevels d ran = d + 1)
    (herr : body.1.toBool = false →
      openLevels d ran = d ∨ ∃ e, body.1 = .error e ∧ e.rollbackFailure?.isSome) :
    Runs w₀.driver out.2.driver ran ∧
      (openLevels d ran = (out.2.runner id).depth ∨
        ∃ e, out.1 = .error e ∧ e.rollbackFailure?.isSome) := by
  refine ⟨hopen.driver id ▸ hruns, ?_⟩
  obtain ⟨-, hcases⟩ := hopen.depth id (hrunners ▸ hid)
  unfold OpensLevel at hopen
  rcases body with ⟨_ | v, w₁⟩
  · -- the statements failed: so did opening, and the runners stay as the statements left them
    simp only at hopen hrunners
    rw [hopen]
    rcases herr rfl with hlevels | ⟨e, he, hsome⟩
    · left
      rw [hlevels]
      show d = (w₁.runner id).depth
      rw [World.runner_of_runners_eq hrunners, hdepth]
    · cases he
      exact .inr ⟨_, rfl, hsome⟩
  · simp only at hopen hcases
    rw [hopen.1] at hcases
    exact .inl ((hok rfl).trans hcases.2.symm)

section Tracks

variable {ds : DataSource} (hf : ds.Faithful) (hd : ds.dialect.spellsLevels) (id : RunnerId)
  (w : World)
include hf

theorem rollbackLevel_runs :
    let out := (ds.rollbackLevel id).exec w
    Runs w.driver out.2.driver
      (if out.1.toBool then [ds.rollbackStatement (w.runner id).depth] else []) := by
  intro out
  have hspec := rollbackLevel_spec ds id w
  have hex := execute_runs hf id (ds.rollbackStatement (w.runner id).depth) w
  simp only at hspec hex
  cases hb : ds.broadcaster.transaction .beforeRollback (w.runner id).depth with
  | error e =>
    simp only [hb] at hspec
    simpa [out, hspec, Except.toBool] using Runs.of_eq (d := w.driver) rfl
  | ok u =>
    simp only [hb] at hspec
    rcases hrun : (ds.execute id (ds.rollbackStatement (w.runner id).depth) [] false).exec w
      with ⟨_ | v, w₁⟩ <;> rw [hrun] at hspec hex <;> simp only at hspec
    · simpa [out, hspec, Except.toBool] using hex
    · obtain ⟨hok, hdrv, -⟩ := hspec
      simpa [out, hok, hdrv, Except.toBool] using hex

include hd

theorem rollbackLevel_tracks (hid : id < w.runners.length) (hpos : 0 < (w.runner id).depth) :
    let out := (ds.rollbackLevel id).exec w
    ∃ ran, Runs w.driver out.2.driver ran ∧
      openLevels (w.runner id).depth ran = (out.2.runner id).depth ∧
      (ran = [] ∨ ran = [ds.rollbackStatement (w.runner id).depth]) := by
  have hruns := rollbackLevel_runs hf id w
  obtain ⟨-, hdepth⟩ := rollbackLevel_depth ds id w hid
  dsimp only at hruns hdepth ⊢
  rcases hout : (ds.rollbackLevel id).exec w with ⟨_ | u, w₁⟩ <;>
    rw [hout] at hruns hdepth <;> simp only [Except.toBool] at hruns hdepth
  · exact ⟨[], by simpa using hruns, by simp [hdepth], .inl rfl⟩
  · refine ⟨_, by simpa using hruns, ?_, .inr rfl⟩
    rw [openLevels_cons, openLevels_nil, DataSource.apply_rollbackStatement hd hpos, hdepth]

theorem ClosedAfter.tracks {e : OrmError} {w₀ : World} {out : OrmResult Unit × World}
    (h : ClosedAfter ds id e w₀ out) (hid : id < w₀.runners.length)
    (hpos : 0 < (w₀.runner id).depth) :
    ∃ ran, Runs w₀.driver out.2.driver ran ∧
      openLevels (w₀.runner id).depth ran = (out.2.runner id).depth ∧
      (ran = [] ∨ ran = [ds.rollbackStatement (w₀.runner id).depth]) := by
  obtain ⟨hrun, hdrv, -⟩ := h
  obtain ⟨ran, hruns, hlevels, hran⟩ := rollbackLevel_tracks hf hd id w₀ hid hpos
  refine ⟨ran, hdrv ▸ hruns, ?_, hran⟩
  rw [hlevels, World.runner_of_runners_eq hrun]

theorem commit_tracks {h : TransactionHandle} (hh : Admits w id h) (hid : id < w.runners.length) :
    let out := (ds.commit id h).exec w
    ∃ ran, Runs w.driver out.2.driver ran ∧
      openLevels (w.runner id).depth ran = (out.2.runner id).depth ∧
      (out.1 ≠ .ok () → ran = [] ∨ ran = [ds.rollbackStatement (w.runner id).depth]) := by
  have hpos : 0 < (w.runner id).depth := Nat.pos_of_ne_zero hh.2.2.1
  have hspec := commit_spec ds hh
  dsimp only at hspec ⊢
  cases hb : ds.broadcaster.transaction .beforeCommit (w.runner id).depth with
  | error e =>
    simp only [hb] at hspec
    obtain ⟨ran, hruns, hlevels, hran⟩ := hspec.tracks hf hd id hid hpos
    exact ⟨ran, hruns, hlevels, fun _ => hran⟩
  | ok u =>
    simp only [hb] at hspec
    obtain ⟨sql, hsql, happly⟩ := DataSource.apply_commitStatement hd hpos
    rw [hsql] at hspec
    have hex := execute_runs hf id sql w
    have hrun := execute_runners ds id sql [] w
    dsimp only at hspec hex
    rcases hexec : (ds.execute id sql [] false).exec w with ⟨_ | v, w₁⟩ <;>
      rw [hexec] at hspec hex hrun <;> simp only at hspec hrun
    · -- the commit statement failed: it did not run, and the level is closed from there
      have hdepth₁ : (w₁.runner id).depth = (w.runner id).depth := by
        rw [World.runner_of_runners_eq hrun]
      obtain ⟨ran, hruns, hlevels, hran⟩ :=
        hspec.tracks hf hd id (hrun ▸ hid) (hdepth₁ ▸ hpos)
      rw [hdepth₁] at hlevels hran
      exact ⟨ran, by simpa [Except.toBool] using hex.trans hruns, hlevels, fun _ => hran⟩
    · obtain ⟨hok, hdrv, hrunners⟩ := hspec
      refine ⟨[sql], hdrv ▸ (by simpa [Except.toBool] using hex), ?_, fun hne => absurd hok hne⟩
      rw [World.runner_of_runners_modify hrunners hid, openLevels_cons, openLevels_nil, happly]

theorem runStartStatements_tracks (iso : Option Isolation) :
    let body := (ds.runStartStatements id (ds.dialect.startTransactionSql iso) true).exec w
    ∃ ran, Runs w.driver body.2.driver ran ∧ (body.1.toBool → openLevels 0 ran = 1) ∧
      (body.1.toBool = false →
        openLevels 0 ran = 0 ∨ ∃ e, body.1 = .error e ∧ e.rollbackFailure?.isSome) := by
  dsimp only
  rcases hbody : (ds.runStartStatements id (ds.dialect.startTransactionSql iso) true).exec w
    with ⟨_ | u, w₁⟩
  · obtain ⟨pre, sql, post, w₂, e, w₃, -, hpre, hfail, hfirst, hlater⟩ :=
      runStartStatements_error hbody
    have hran : Runs w.driver w₃.driver pre := by
      have hexec := execute_runs hf id sql w₂
      rw [hfail] at hexec
      simpa [Except.toBool] using (RunsOk.runs hf hpre).trans hexec
    by_cases hnil : pre = []
    · obtain ⟨-, rfl⟩ := hfirst ⟨hnil, rfl⟩
      subst hnil
      exact ⟨[], hran, (fun h => by cases h), fun _ => .inl rfl⟩
    · -- a later statement failed: `ROLLBACK` ran after it, or failed too
      obtain ⟨rfl, herr⟩ := hlater (fun h => hnil h.1)
      have hrb := execute_runs hf id ds.dialect.rollbackSql w₃
      rcases hrbx : (ds.execute id ds.dialect.rollbackSql [] false).exec w₃ with ⟨_ | v, w₄⟩ <;>
        rw [hrbx] at hrb herr <;> simp only [Except.toBool] at hrb herr
      · exact ⟨_, hran.trans hrb, (fun h => by cases h), fun _ => .inr ⟨_, rfl, by rw [herr]; rfl⟩⟩
      · refine ⟨_, hran.trans hrb, (fun h => by cases h), fun _ => .inl ?_⟩
        simp [Dialect.levelChange_rollbackSql, LevelChange.apply]
  · have hok := (runStartStatements_ok ds id _ true w w₁).1 hbody
    exact ⟨_, RunsOk.runs hf hok, fun _ => Dialect.openLevels_startTransactionSql hd iso 0,
      fun h => by cases h⟩

theorem createSavepoint_tracks (d : Nat) :
    let body := (ds.execute id (ds.dialect.createSavepointSql (savepointName d)) [] false).exec w
    ∃ ran, Runs w.driver body.2.driver ran ∧ (body.1.toBool → openLevels d ran = d + 1) ∧
      (body.1.toBool = false → openLevels d ran = d) := by
  have hsp := execute_runs hf id (ds.dialect.createSavepointSql (savepointName d)) w
  dsimp only at hsp ⊢
  refine ⟨_, hsp, fun h => ?_, fun h => ?_⟩
  · rw [if_pos h, openLevels_cons, openLevels_nil, Dialect.levelChange_createSavepointSql hd]
    rfl
  · rw [if_neg (by simp [h])]
    rfl

theorem startTransaction_tracks (iso : Option Isolation) (hid : id < w.runners.length) :
    let out := (ds.startTransaction id iso).exec w
    ∃ ran, Runs w.driver out.2.driver ran ∧
      (openLevels (w.runner id).depth ran = (out.2.runner id).depth ∨
        ∃ e, out.1 = .error e ∧ e.rollbackFailure?.isSome) := by
  intro out
  let conn := (ds.ensureConnected id).exec w
  have hconn : Runs w.driver conn.2.driver [] := ensureConnected_runs ds id w
  obtain ⟨hlen, hdepth, -, -⟩ := ensureConnected_spec ds id w
  have hid₁ : id < conn.2.runners.length := hlen ▸ hid
  rcases startTransaction_cases ds id iso w with ⟨e, hout⟩ | ⟨hd0, hopen⟩ | ⟨-, hopen⟩
  · refine ⟨[], ?_, .inl ?_⟩
    · simpa [out, hout] using hconn
    · simp only [out, hout, openLevels_nil]
      exact hdepth.symm
  · -- the first level: the dialect's opening statements
    obtain ⟨ran, hran, hok, herr⟩ := runStartStatements_tracks hf hd id conn.2 iso
    obtain ⟨hruns, hcase⟩ := OpensLevel.tracks hopen hran
      (runStartStatements_runners ds id conn.2 _ true) hdepth hid₁
      (fun h => by rw [hd0]; exact hok h) (fun h => by rw [hd0]; exact herr h)
    exact ⟨ran, hconn.trans hruns, hcase⟩
  · -- a nested level: the savepoint of the level below
    obtain ⟨ran, hran, hok, herr⟩ := createSavepoint_tracks hf hd id conn.2 (w.runner id).depth
    obtain ⟨hruns, hcase⟩ := OpensLevel.tracks hopen hran (execute_runners ds id _ [] conn.2)
      hdepth hid₁ hok (fun h => .inl (herr h))
    exact ⟨ran, hconn.trans hruns, hcase⟩

end Tracks

end DataSource

/-! ## Runs of calls -/

theorem openLevels_replicate {sql : String} (h : levelChange sql = .keep) (n k : Nat) :
    openLevels n (List.replicate k sql) = n := by
  induction k with
  | zero => rfl
  | succ k ih => rw [List.replicate_succ, openLevels_cons, h, LevelChange.apply, ih]

namespace RunnerCall

/-- Whether a call leaves the count to the runner: a statement run by hand is none of those the
count reads. -/
def inert : RunnerCall → Bool
  | .query sql _ => levelChange sql == .keep
  | .connect | .stream _ _ | .start _ | .commit _ | .rollback _ => true

end RunnerCall

namespace CallStep

open DataSource ScriptedDriver ExecRequest ExecRequest.Session

/-- A failed opening whose failure says that a rollback failed as well: the first level's
statements failed after the first of them ran, and the `ROLLBACK` sent after them failed. -/
def leftOpening (t : CallStep) : Bool :=
  match t.call, t.outcome with
  | .start _, .error e => e.rollbackFailure?.isSome
  | _, _ => false

/-- The database ran `ran` during the call, and its count moved with the runner's depth; a commit
that failed ran at most the rollback of its level, so neither `COMMIT` nor the release of its
savepoint. -/
def Tracks (ds : DataSource) (id : RunnerId) (t : CallStep) : Prop :=
  ∃ ran, Runs t.before.world.driver t.after.world.driver ran ∧
    openLevels (t.before.depth id) ran = t.after.depth id ∧
    ∀ i, t.call = .commit i → t.outcome ≠ .ok () →
      ran = [] ∨ ran = [ds.rollbackStatement (t.before.depth id)]

theorem Tracks.of_nothing_ran {ds : DataSource} {id : RunnerId} {t : CallStep}
    (hruns : Runs t.before.world.driver t.after.world.driver [])
    (hdepth : t.after.depth id = t.before.depth id) : t.Tracks ds id :=
  ⟨[], hruns, hdepth.symm, fun _ _ _ => .inl rfl⟩

theorem Tracks.of_world_eq {ds : DataSource} {id : RunnerId} {t : CallStep}
    (h : t.after.world = t.before.world) : t.Tracks ds id :=
  .of_nothing_ran (Runs.of_eq (congrArg World.driver h)) (by rw [Session.depth, Session.depth, h])

section Step

variable {ds : DataSource} (hf : ds.Faithful) (hd : ds.dialect.spellsLevels) {id : RunnerId}
  {s : Session}
include hf hd

/-- Each call keeps the count and the depth together, but for an opening that left a level
behind. -/
theorem tracks (hid : id < s.world.runners.length) {c : RunnerCall} (hc : c.inert) :
    (of ds id s c).Tracks ds id ∨ (of ds id s c).leftOpening := by
  cases c with
  | connect =>
    obtain ⟨-, hdepth, -, -⟩ := ensureConnected_spec ds id s.world
    exact .inl (.of_nothing_ran (ensureConnected_runs ds id s.world) hdepth)
  | query sql params =>
    obtain ⟨k, hk⟩ := query_runs hf.hooks_pass id sql params s.world
    obtain ⟨-, hdepth, -⟩ := query_frame ds id sql params s.world
    refine .inl ⟨_, hk, ?_, fun _ h => by cases h⟩
    rw [openLevels_replicate (beq_iff_eq.1 hc)]
    exact hdepth.symm
  | stream sql params =>
    obtain ⟨-, hdepth, -⟩ := stream_frame ds id sql params s.world
    exact .inl (.of_nothing_ran (stream_runs ds id sql params s.world) hdepth)
  | start iso =>
    obtain ⟨ran, hruns, hcase⟩ := startTransaction_tracks hf hd id s.world iso hid
    simp only [of, Tracks, leftOpening, perform]
    rcases hout : (ds.startTransaction id iso).exec s.world with ⟨_ | h, w⟩ <;>
      rw [hout] at hruns hcase <;> dsimp only at hruns hcase ⊢
    · rcases hcase with hlevels | ⟨e, he, hsome⟩
      · exact .inl ⟨ran, hruns, hlevels, fun _ h => by cases h⟩
      · cases he
        exact .inr hsome
    · rcases hcase with hlevels | ⟨e, he, -⟩
      · exact .inl ⟨ran, hruns, hlevels, fun _ h => by cases h⟩
      · cases he
  | commit i =>
    refine .inl ?_
    rcases hi : s.handles[i]? with _ | ⟨h, _ | _⟩
    · exact .of_world_eq (by simp [of, perform, withHandle, hi])
    · by_cases hh : Admits s.world id h
      · obtain ⟨ran, hruns, hlevels, hfail⟩ := commit_tracks hf hd id s.world hh hid
        simp only [of, Tracks, perform, withHandle, hi, call_world, call_fst, Session.depth]
        exact ⟨ran, hruns, hlevels, fun _ _ hne => hfail hne⟩
      · obtain ⟨e, he⟩ := @commit_of_not_admits ds id h s.world hh
        exact .of_world_eq (by simp [of, perform, withHandle, hi, he])
    · exact .of_world_eq (by simp [of, perform, withHandle, hi])
  | rollback i =>
    refine .inl ?_
    rcases hi : s.handles[i]? with _ | ⟨h, _ | _⟩
    · exact .of_world_eq (by simp [of, perform, withHandle, hi])
    · by_cases hh : Admits s.world id h
      · obtain ⟨ran, hruns, hlevels, -⟩ :=
          rollbackLevel_tracks hf hd id s.world hid (Nat.pos_of_ne_zero hh.2.2.1)
        simp only [of, Tracks, perform, withHandle, hi, call_world, Session.depth,
          rollback_of_admits hh]
        exact ⟨ran, hruns, hlevels, fun _ h => by cases h⟩
      · obtain ⟨e, he⟩ := @rollback_of_not_admits ds id h s.world hh
        exact .of_world_eq (by simp [of, perform, withHandle, hi, he])
    · exact .of_world_eq (by simp [of, perform, withHandle, hi])

end Step

end CallStep

namespace ExecRequest.Session

open DataSource ScriptedDriver

variable {ds : DataSource} {id : RunnerId}

theorem perform_runner_lt {s : Session} (hid : id < s.world.runners.length) (c : RunnerCall) :
    id < (s.perform ds id c).2.world.runners.length :=
  (CallStep.of_moves ds hid c).1 ▸ hid

section Run

variable (hf : ds.Faithful) (hd : ds.dialect.spellsLevels)
include hf hd

theorem steps_tracks {s : Session} (hid : id < s.world.runners.length) {calls : List RunnerCall}
    (hinert : ∀ c ∈ calls, c.inert) :
    ∀ t ∈ s.steps ds id calls, t.Tracks ds id ∨ t.leftOpening := by
  induction calls generalizing s with
  | nil => exact fun _ ht => by cases ht
  | cons c cs ih =>
    intro t ht
    rcases List.mem_cons.1 ht with rfl | ht
    · exact CallStep.tracks hf hd hid (hinert c List.mem_cons_self)
    · exact ih (perform_runner_lt hid c) (fun c' hc' => hinert c' (List.mem_cons_of_mem c hc')) t ht

theorem runCalls_tracks {s : Session} (hid : id < s.world.runners.length) {calls : List RunnerCall}
    (hinert : ∀ c ∈ calls, c.inert) (hkept : ∀ t ∈ s.steps ds id calls, t.leftOpening = false) :
    ∃ ran, Runs s.world.driver (s.runCalls ds id calls).world.driver ran ∧
      openLevels (s.depth id) ran = (s.runCalls ds id calls).depth id := by
  induction calls generalizing s with
  | nil => exact ⟨[], Runs.of_eq rfl, rfl⟩
  | cons c cs ih =>
    have hfirst := hkept _ List.mem_cons_self
    rcases CallStep.tracks hf hd hid (hinert c List.mem_cons_self) with
      ⟨ran, hruns, hlevels, -⟩ | hleft
    · have hlevels : openLevels (s.depth id) ran = (s.perform ds id c).2.depth id := hlevels
      obtain ⟨rest, hrest, hlevels'⟩ := ih (perform_runner_lt hid c)
        (fun c' hc' => hinert c' (List.mem_cons_of_mem c hc'))
        (fun t ht => hkept t (List.mem_cons_of_mem _ ht))
      refine ⟨ran ++ rest, hruns.trans hrest, ?_⟩
      rw [openLevels_append, hlevels]
      exact hlevels'
    · exact absurd hleft (by simp [hfirst])

end Run

/-- Along every run of calls on a runner that takes each statement as the database answered it,
on a dialect that writes its transaction statements as the database's count reads them, and with
no transaction statement run by hand: every call keeps the count of open levels and the runner's
depth together, a failed commit running neither `COMMIT` nor the release of its savepoint, except
an opening that left a level behind; and after any number of calls with no such opening, the
count equals the depth. -/
theorem depth_tracks_open_levels (hf : ds.Faithful) (hd : ds.dialect.spellsLevels) {s : Session}
    (hid : id < s.world.runners.length) (calls : List RunnerCall)
    (hinert : ∀ c ∈ calls, c.inert) :
    (∀ t ∈ s.steps ds id calls, t.Tracks ds id ∨ t.leftOpening) ∧
      ∀ n, (∀ t ∈ s.steps ds id (calls.take n), t.leftOpening = false) →
        ∃ ran, Runs s.world.driver (s.runCalls ds id (calls.take n)).world.driver ran ∧
          openLevels (s.depth id) ran = (s.runCalls ds id (calls.take n)).depth id :=
  ⟨steps_tracks hf hd hid hinert, fun _ hkept =>
    runCalls_tracks hf hd hid (fun c hc => hinert c (List.mem_of_mem_take hc)) hkept⟩

/-- Two nested levels on a fresh postgres runner around a statement run by hand, the inner one
committed and the outer one rolled back. -/
theorem depth_tracks_open_levels_nested :
    let ds : DataSource := { dialect := .postgres, registry := {} }
    let s : Session :=
      { world := { driver := { dialect := .postgres }, runners := [{ mode := .master }] } }
    let calls := [.start none, .start none, .query "SELECT 1" [], .commit 1, .rollback 0]
    ds.Faithful ∧ ds.dialect.spellsLevels ∧ 0 < s.world.runners.length ∧
      (∀ c ∈ calls, c.inert) ∧
      ((∀ t ∈ s.steps ds 0 calls, t.Tracks ds 0 ∨ t.leftOpening) ∧
        ∀ n, (∀ t ∈ s.steps ds 0 (calls.take n), t.leftOpening = false) →
          ∃ ran, Runs s.world.driver (s.runCalls ds 0 (calls.take n)).world.driver ran ∧
            openLevels (s.depth 0) ran = (s.runCalls ds 0 (calls.take n)).depth 0) :=
  have hf : DataSource.Faithful { dialect := .postgres, registry := {} } :=
    ⟨fun _ => by simp [QueryHook.chain, QueryHook.chainFrom], rfl, fun _ _ => rfl⟩
  ⟨hf, rfl, by decide, by decide, depth_tracks_open_levels hf rfl (by decide) _ (by decide)⟩

end ExecRequest.Session

/-- A subscriber that refuses `START TRANSACTION` once it ran makes opening the first level fail:
the database ran it and holds a transaction open, while the runner stays at depth zero. -/
theorem opening_refused_after_it_ran :
    let refuse : Subscriber :=
      { onQuery := fun p e =>
          if p = .after ∧ e.sql = "START TRANSACTION" then .error (.usage "after") else .ok () }
    let ds : DataSource :=
      { dialect := .postgres, registry := {},
        broadcaster := { registry := {}, subscribers := [refuse] } }
    let w : World := { driver := { dialect := .postgres }, runners := [{ mode := .master }] }
    let out := (ds.startTransaction 0 none).exec w
    out.1.toBool = false ∧ (out.2.runner 0).depth = 0 ∧
      ScriptedDriver.Runs w.driver out.2.driver ["START TRANSACTION"] ∧
      openLevels 0 ["START TRANSACTION"] = 1 := by
  intro refuse ds w out
  have hran : (ScriptedDriver.replay ⟨[], []⟩ out.2.driver.log).ran = ["START TRANSACTION"] := by
    decide +kernel
  have hleft : (ScriptedDriver.replay ⟨[], []⟩ out.2.driver.log).left = [] :=
    List.eq_nil_of_length_eq_zero (by decide +kernel)
  have hresp : out.2.driver.responses = [] := List.eq_nil_of_length_eq_zero (by decide +kernel)
  refine ⟨by decide +kernel, by decide +kernel, ⟨out.2.driver.log, rfl, ?_⟩, by decide⟩
  calc ScriptedDriver.replay ⟨[], w.driver.responses⟩ out.2.driver.log
      = ⟨(ScriptedDriver.replay ⟨[], []⟩ out.2.driver.log).ran,
          (ScriptedDriver.replay ⟨[], []⟩ out.2.driver.log).left⟩ := rfl
    _ = ⟨["START TRANSACTION"], out.2.driver.responses⟩ := by rw [hran, hleft, hresp]

end EntitySql
