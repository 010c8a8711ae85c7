import EntitySql.Proofs.Runner.Pipeline

/-!
# Transaction levels

What each transaction step of a runner does to its depth and which statements it sends, read off
the statement pipeline (`DataSource.execute_spec`):

* opening a level raises the depth by one exactly when it succeeds, and gives the handle of the
  new level; the first level sends the dialect's opening statements, with `ROLLBACK` after them
  when one after the first fails, and a nested level sends the savepoint of the level below;
* committing or rolling back checks the handle first, and a handle that is not that of the
  innermost open level of the runner changes nothing and sends nothing;
* a level closes, lowering the depth by one, by its commit statement (none where the dialect
  releases savepoints by itself) or by its rollback statement; a commit that fails rolls the
  level back itself, and only a failure of that rollback leaves the level open.

Statements are named by the texts the hooks make of them (`DataSource.textsAt`): with no hooks,
the texts themselves.
-/

namespace EntitySql

open ExecM

namespace DataSource

/-- The statement that closes the level at `depth` by a commit: the release of its savepoint,
none where the dialect releases savepoints by itself, and `COMMIT` for the outermost level. -/
def commitStatement (ds : DataSource) (depth : Nat) : Option String :=
  if depth > 1 then ds.dialect.releaseSavepointSql (savepointName (depth - 1))
  else some ds.dialect.commitSql

/-- The statement that closes the level at `depth` by a rollback: the rollback to its savepoint,
and `ROLLBACK` for the outermost level. -/
def rollbackStatement (ds : DataSource) (depth : Nat) : String :=
  if depth > 1 then ds.dialect.rollbackToSavepointSql (savepointName (depth - 1))
  else ds.dialect.rollbackSql

@[simp] theorem exec_setDepth (id : RunnerId) (n : Nat) (w : World) :
    (setDepth id n).exec w =
      (.ok (), { w with runners := w.runners.modify id fun r => { r with depth := n } }) := rfl

theorem reportAfterStep_ok (t : String) (r : OrmResult Unit) (w : World) :
    (reportAfterStep t r).exec w = (.ok (), ((reportAfterStep t r).exec w).2) := by
  cases r <;> rfl

@[simp] theorem reportAfterStep_runners (t : String) (r : OrmResult Unit) (w : World) :
    ((reportAfterStep t r).exec w).2.runners = w.runners := by
  cases r <;> rfl

@[simp] theorem reportAfterStep_driver (t : String) (r : OrmResult Unit) (w : World) :
    ((reportAfterStep t r).exec w).2.driver = w.driver := by
  cases r <;> rfl

theorem ensureConnected_spec (ds : DataSource) (id : RunnerId) (w : World) :
    let out := (ds.ensureConnected id).exec w
    out.2.runners.length = w.runners.length ∧ (out.2.runner id).depth = (w.runner id).depth ∧
      (out.2.runner id).released = (w.runner id).released ∧
      out.2.driver.statements = w.driver.statements := by
  intro out
  simp only [out, ensureConnected, exec_bind, exec_runner]
  cases hrel : (w.runner id).released
  · cases hcon : (w.runner id).connected
    · cases hc : (w.driver.connect (w.runner id).mode).1 with
      | error e => simp [exec_bind, hrel, hc]
      | ok u =>
        simp [exec_bind, hrel, hc, World.runner_modify]
        split <;> simp [hrel]
    · simp [hrel]
  · simp [hrel]

theorem query_frame (ds : DataSource) (id : RunnerId) (sql : String) (params : List Value)
    (w : World) :
    let out := (ds.query id sql params).exec w
    out.2.runners.length = w.runners.length ∧ (out.2.runner id).depth = (w.runner id).depth ∧
      ∃ k ≤ ds.options.retry.maxAttempts + 1, ∃ t : String,
        (0 < k → ∃ c, ds.gate (w.runner id).depth sql params = .ok c ∧ t = c.sql) ∧
        out.2.driver.statements = w.driver.statements ++ List.replicate k t := by
  intro out
  obtain ⟨hlen, hdepth, -, hstmts⟩ := ensureConnected_spec ds id w
  simp only [out, query, exec_bind]
  rcases hconn : (ds.ensureConnected id).exec w with ⟨_ | u, w₁⟩ <;>
    rw [hconn] at hlen hdepth hstmts
  · exact ⟨hlen, hdepth, 0, Nat.zero_le _, sql, by simp, by simp [hstmts]⟩
  · obtain ⟨hrun, k, hk, t, ht, hsent⟩ :=
      execute_frame ds id sql params ((w₁.runner id).depth = 0) w₁
    simp only [exec_runner]
    rw [World.runner_of_runners_eq hrun, hrun, hsent, hstmts, hdepth]
    rw [hdepth] at ht
    exact ⟨hlen, rfl, k, hk, t, ht, rfl⟩

theorem stream_frame (ds : DataSource) (id : RunnerId) (sql : String) (params : List Value)
    (w : World) :
    let out := (ds.stream id sql params).exec w
    out.2.runners.length = w.runners.length ∧ (out.2.runner id).depth = (w.runner id).depth ∧
      out.2.driver.statements = w.driver.statements := by
  intro out
  obtain ⟨hlen, hdepth, -, hstmts⟩ := ensureConnected_spec ds id w
  simp only [out, stream, exec_bind]
  rcases hconn : (ds.ensureConnected id).exec w with ⟨_ | u, w₁⟩ <;>
    rw [hconn] at hlen hdepth hstmts
  · exact ⟨hlen, hdepth, hstmts⟩
  · simp only [exec_runner, applyHooks_exec]
    cases ds.hooked (QueryContext.new ds.dialect sql params.length (w₁.runner id).depth) with
    | error e => simp [hlen, hdepth, hstmts]
    | ok c =>
      cases hb : ds.broadcaster.query .before { sql := c.sql, params } with
      | error e => simp [hb, hlen, hdepth, hstmts]
      | ok u =>
        simp only [hb, exec_ofResult, exec_onDriver]
        split <;> simp [hlen, hdepth, hstmts]

theorem checkHandle_exec (id : RunnerId) (h : TransactionHandle) (w : World) :
    ∃ r, (checkHandle id h).exec w = (r, w) ∧
      (r = .ok () ↔ h.runner = id ∧ (w.runner id).released = false ∧ (w.runner id).depth ≠ 0 ∧
        h.depth = (w.runner id).depth) := by
  simp only [checkHandle, exec_bind, exec_runner]
  by_cases hr : h.runner = id <;> by_cases hrel : (w.runner id).released <;>
    by_cases hd : (w.runner id).depth = 0 <;> by_cases hh : h.depth = (w.runner id).depth <;>
    simp [hr, hrel, hd, hh]

theorem rollbackLevel_spec (ds : DataSource) (id : RunnerId) (w : World) :
    let d := (w.runner id).depth
    let out := (ds.rollbackLevel id).exec w
    let ex := (ds.execute id (ds.rollbackStatement d) [] false).exec w
    match ds.broadcaster.transaction .beforeRollback d with
    | .error e => out = (.error e, w)
    | .ok () =>
      match ex.1 with
      | .error e => out = (.error e, ex.2)
      | .ok _ => out.1 = .ok () ∧ out.2.driver = ex.2.driver ∧
          out.2.runners = w.runners.modify id fun r => { r with depth := d - 1 } := by
  intro d out ex
  simp only [out, ex, rollbackLevel, exec_bind, exec_runner]
  cases hb : ds.broadcaster.transaction .beforeRollback d with
  | error e => simp
  | ok u =>
    have hsql : (if (w.runner id).depth > 1 then
        ds.dialect.rollbackToSavepointSql (savepointName ((w.runner id).depth - 1))
        else ds.dialect.rollbackSql) = ds.rollbackStatement d := rfl
    simp only [exec_ofResult, hsql]
    rcases hex : (ds.execute id (ds.rollbackStatement d) [] false).exec w with ⟨_ | v, w₁⟩
    · simp
    · have hrun₁ : w₁.runners = w.runners := by
        rw [← execute_runners ds id (ds.rollbackStatement d) [] w, hex]
      simp only [exec_setDepth]
      rw [reportAfterStep_ok]
      simp [hrun₁, d]

theorem closeAfterFailure_spec (ds : DataSource) (id : RunnerId) (e : OrmError) (w : World) :
    let out := (ds.closeAfterFailure id e).exec w
    let rb := (ds.rollbackLevel id).exec w
    out.2.runners = rb.2.runners ∧ out.2.driver = rb.2.driver ∧
      out.1 = .ok (match rb.1 with
        | .ok () => e
        | .error r => e.withRollbackFailure r) := by
  intro out rb
  simp only [out, rb, closeAfterFailure, exec_bind, exec_attempt]
  rcases (ds.rollbackLevel id).exec w with ⟨_ | u, w₁⟩ <;> simp

def Admits (w : World) (id : RunnerId) (h : TransactionHandle) : Prop :=
  h.runner = id ∧ (w.runner id).released = false ∧ (w.runner id).depth ≠ 0 ∧
    h.depth = (w.runner id).depth

theorem commit_of_not_admits {ds : DataSource} {id : RunnerId} {h : TransactionHandle}
    {w : World} (hh : ¬ Admits w id h) :
    ∃ e, (ds.commit id h).exec w = (.error e, w) := by
  obtain ⟨r, hr, hiff⟩ := checkHandle_exec id h w
  cases r with
  | ok u => exact absurd (hiff.1 rfl) hh
  | error e => exact ⟨e, by simp only [commit, exec_bind, hr]⟩

theorem rollback_of_not_admits {ds : DataSource} {id : RunnerId} {h : TransactionHandle}
    {w : World} (hh : ¬ Admits w id h) :
    ∃ e, (ds.rollback id h).exec w = (.error e, w) := by
  obtain ⟨r, hr, hiff⟩ := checkHandle_exec id h w
  cases r with
  | ok u => exact absurd (hiff.1 rfl) hh
  | error e => exact ⟨e, by simp only [rollback, exec_bind, hr]⟩

theorem rollback_of_admits {ds : DataSource} {id : RunnerId} {h : TransactionHandle}
    {w : World} (hh : Admits w id h) :
    (ds.rollback id h).exec w = (ds.rollbackLevel id).exec w := by
  obtain ⟨r, hr, hiff⟩ := checkHandle_exec id h w
  have hok : r = .ok () := hiff.2 hh
  subst hok
  simp only [rollback, exec_bind, hr]

/-- `out` is how a failed commit with failure `e` ends when the level is closed from `w₀`: as
rolling the level back from `w₀` leaves the runners and the database, with the failure `e`, and
the rollback's failure attached when that failed too. -/
def ClosedAfter (ds : DataSource) (id : RunnerId) (e : OrmError) (w₀ : World)
    (out : OrmResult Unit × World) : Prop :=
  let rb := (ds.rollbackLevel id).exec w₀
  out.2.runners = rb.2.runners ∧ out.2.driver = rb.2.driver ∧
    out.1 = .error (match rb.1 with
      | .ok () => e
      | .error r => e.withRollbackFailure r)

theorem closedAfter_throw (ds : DataSource) (id : RunnerId) (e : OrmError) (w₀ : World) :
    ClosedAfter ds id e w₀ ((do throw (← ds.closeAfterFailure id e) : ExecM Unit).exec w₀) := by
  obtain ⟨hrun, hdrv, hout⟩ := closeAfterFailure_spec ds id e w₀
  rw [exec_bind]
  rcases hc : (ds.closeAfterFailure id e).exec w₀ with ⟨_ | v, w₁⟩
  · rw [hc] at hout
    cases hout
  · rw [hc] at hrun hdrv hout
    cases hout
    exact ⟨hrun, hdrv, rfl⟩

theorem commit_spec (ds : DataSource) {id : RunnerId} {h : TransactionHandle} {w : World}
    (hh : Admits w id h) :
    let d := (w.runner id).depth
    let out := (ds.commit id h).exec w
    let closed := w.runners.modify id fun r => { r with depth := d - 1 }
    match ds.broadcaster.transaction .beforeCommit d with
    | .error e => ClosedAfter ds id e w out
    | .ok () =>
      match ds.commitStatement d with
      | none => out.1 = .ok () ∧ out.2.driver = w.driver ∧ out.2.runners = closed
      | some sql =>
        let ex := (ds.execute id sql [] false).exec w
        match ex.1 with
        | .error e => ClosedAfter ds id e ex.2 out
        | .ok _ => out.1 = .ok () ∧ out.2.driver = ex.2.driver ∧ out.2.runners = closed := by
  intro d out closed
  obtain ⟨r, hr, hiff⟩ := checkHandle_exec id h w
  have hok : r = .ok () := hiff.2 hh
  subst hok
  simp only [out, commit, exec_bind, hr, exec_runner]
  cases hb : ds.broadcaster.transaction .beforeCommit d with
  | error e => exact closedAfter_throw ds id e w
  | ok u =>
    have hsql : (if (w.runner id).depth > 1 then
        ds.dialect.releaseSavepointSql (savepointName ((w.runner id).depth - 1))
        else some ds.dialect.commitSql) = ds.commitStatement d := rfl
    simp only [hsql]
    cases hs : ds.commitStatement d with
    | none =>
      simp only [exec_bind, exec_setDepth]
      rw [reportAfterStep_ok]
      simp [closed, d]
    | some sql =>
      simp only [exec_bind, exec_attempt]
      rcases hex : (ds.execute id sql [] false).exec w with ⟨_ | v, w₁⟩
      · exact closedAfter_throw ds id _ w₁
      · have hrun₁ : w₁.runners = w.runners := by
          rw [← execute_runners ds id sql [] w, hex]
        simp only [exec_bind, exec_setDepth]
        rw [reportAfterStep_ok]
        simp [closed, hrun₁, d]

/-- Statements that run one after the other from `w`, each succeeding, and leave `w'`. -/
def RunsOk (ds : DataSource) (id : RunnerId) : List String → World → World → Prop
  | [], w, w' => w' = w
  | sql :: rest, w, w' =>
    ∃ v w₁, (ds.execute id sql [] false).exec w = (.ok v, w₁) ∧ RunsOk ds id rest w₁ w'

theorem runsOk_append {ds : DataSource} {id : RunnerId} {pre rest : List String}
    {w w₁ w' : World} (h₁ : RunsOk ds id pre w w₁) (h₂ : RunsOk ds id rest w₁ w') :
    RunsOk ds id (pre ++ rest) w w' := by
  induction pre generalizing w with
  | nil =>
    simp only [RunsOk] at h₁
    subst h₁
    exact h₂
  | cons sql pre ih =>
    obtain ⟨v, w₂, hex, hrest⟩ := h₁
    exact ⟨v, w₂, hex, ih hrest⟩

theorem runStartStatements_ok (ds : DataSource) (id : RunnerId) (stmts : List String)
    (first : Bool) (w w' : World) :
    (ds.runStartStatements id stmts first).exec w = (.ok (), w') ↔ RunsOk ds id stmts w w' := by
  induction stmts generalizing first w with
  | nil =>
    simp only [runStartStatements, exec_pure, RunsOk, Prod.mk.injEq, true_and]
    exact eq_comm
  | cons sql rest ih =>
    simp only [runStartStatements, exec_bind, exec_attempt, RunsOk]
    rcases hex : (ds.execute id sql [] false).exec w with ⟨_ | v, w₁⟩
    · dsimp only
      constructor
      · intro h
        split at h
        · simp at h
        · simp only [exec_bind, exec_attempt] at h
          rcases hrb : (ds.execute id ds.dialect.rollbackSql [] false).exec w₁ with ⟨_ | v, w₂⟩ <;>
            simp [hrb] at h
      · rintro ⟨v, w₂, hv, -⟩
        cases hv
    · simp only [ih]
      constructor
      · intro h
        exact ⟨v, w₁, rfl, h⟩
      · rintro ⟨v', w₂, hv, hrest⟩
        cases hv
        exact hrest

theorem runStartStatements_error {ds : DataSource} {id : RunnerId} {stmts : List String}
    {first : Bool} {w w' : World} {err : OrmError}
    (h : (ds.runStartStatements id stmts first).exec w = (.error err, w')) :
    ∃ pre sql post w₁ e w₂, stmts = pre ++ sql :: post ∧ RunsOk ds id pre w w₁ ∧
      (ds.execute id sql [] false).exec w₁ = (.error e, w₂) ∧
      (pre = [] ∧ first = true → err = e ∧ w' = w₂) ∧
      (¬ (pre = [] ∧ first = true) →
        let rb := (ds.execute id ds.dialect.rollbackSql [] false).exec w₂
        w' = rb.2 ∧ err = match rb.1 with
          | .ok _ => e
          | .error r => e.withRollbackFailure r) := by
  induction stmts generalizing first w with
  | nil => simp [runStartStatements] at h
  | cons sql rest ih =>
    simp only [runStartStatements, exec_bind, exec_attempt] at h
    rcases hex : (ds.execute id sql [] false).exec w with ⟨_ | v, w₁⟩
    · -- the first statement of this call fails
      simp only [hex] at h
      refine ⟨[], sql, rest, w, _, w₁, rfl, rfl, hex, ?_, ?_⟩
      · rintro ⟨-, hfirst⟩
        simp only [hfirst, if_true, exec_bind, exec_throw, Prod.mk.injEq, Except.error.injEq] at h
        exact ⟨h.1.symm, h.2.symm⟩
      · intro hfirst
        have hf : first = false := by simpa using hfirst
        simp only [hf, Bool.false_eq_true, if_false, exec_bind, exec_attempt] at h
        rcases hrb : (ds.execute id ds.dialect.rollbackSql [] false).exec w₁ with ⟨_ | u, w₂⟩ <;>
          simp only [hrb, exec_throw, Prod.mk.injEq, Except.error.injEq] at h <;>
          exact ⟨h.2.symm, h.1.symm⟩
    · -- it succeeds, and the rest fails as a later part of the sequence
      simp only [hex] at h
      obtain ⟨pre, sql', post, w₂, e, w₃, hs, hrun, hfail, -, hrb⟩ := ih h
      refine ⟨sql :: pre, sql', post, w₂, e, w₃, by rw [hs]; rfl, ⟨v, w₁, hex, hrun⟩, hfail,
        fun hc => absurd hc.1 (List.cons_ne_nil _ _), fun _ => hrb (by simp)⟩

/-- `out` is how opening the level above `d` ends once its statements ended as `body`: with
their failure, or with the handle of the new level and the depth raised by one. -/
def OpensLevel {α : Type} (id : RunnerId) (d : Nat) (body : OrmResult α × World)
    (out : OrmResult TransactionHandle × World) : Prop :=
  match body.1 with
  | .error e => out = (.error e, body.2)
  | .ok _ => out.1 = .ok ⟨id, d + 1⟩ ∧ out.2.driver = body.2.driver ∧
      out.2.runners = body.2.runners.modify id fun r => { r with depth := d + 1 }

theorem startTransaction_spec (ds : DataSource) (id : RunnerId) (iso : Option Isolation)
    (w : World) :
    let d := (w.runner id).depth
    let out := (ds.startTransaction id iso).exec w
    let conn := (ds.ensureConnected id).exec w
    match conn.1 with
    | .error e => out = (.error e, conn.2)
    | .ok () =>
      if 0 < d ∧ ds.dialect.supportsSavepoints = false then
        out = (.error .transactionAlreadyStarted, conn.2)
      else
        match ds.broadcaster.transaction .beforeStart (d + 1) with
        | .error e => out = (.error e, conn.2)
        | .ok () =>
          if d = 0 then
            OpensLevel id d
              ((ds.runStartStatements id (ds.dialect.startTransactionSql iso) true).exec conn.2) out
          else
            OpensLevel id d
              ((ds.execute id (ds.dialect.createSavepointSql (savepointName d)) [] false).exec
                conn.2) out := by
  intro d out conn
  have hdepth : (conn.2.runner id).depth = d := (ensureConnected_spec ds id w).2.1
  simp only [out, conn, startTransaction, exec_bind]
  rcases hconn : (ds.ensureConnected id).exec w with ⟨_ | u, w₀⟩
  · rfl
  · simp only [conn, hconn] at hdepth
    simp only [exec_runner, hdepth]
    by_cases hg : 0 < d ∧ ds.dialect.supportsSavepoints = false
    · simp [hg]
    · have hguard : (decide (d > 0) && !ds.dialect.supportsSavepoints) = false := by
        cases hs : ds.dialect.supportsSavepoints <;> simp_all
      simp only [hg, hguard, if_false, Bool.false_eq_true, exec_bind, exec_ofResult]
      cases hb : ds.broadcaster.transaction .beforeStart (d + 1) with
      | error e => rfl
      | ok u =>
        by_cases hd0 : d = 0
        · simp only [hd0, if_true, exec_bind]
          rcases hbody : (ds.runStartStatements id (ds.dialect.startTransactionSql iso) true).exec w₀
            with ⟨_ | v, w₁⟩
          · rfl
          · simp only [exec_setDepth]
            rw [reportAfterStep_ok]
            simp [OpensLevel]
        · simp only [hd0, if_false, exec_bind]
          rcases hbody : (ds.execute id (ds.dialect.createSavepointSql (savepointName d)) [] false).exec
              w₀ with ⟨_ | v, w₁⟩
          · rfl
          · simp only [exec_setDepth]
            rw [reportAfterStep_ok]
            simp [OpensLevel]

theorem startTransaction_cases (ds : DataSource) (id : RunnerId) (iso : Option Isolation)
    (w : World) :
    let d := (w.runner id).depth
    let out := (ds.startTransaction id iso).exec w
    let conn := (ds.ensureConnected id).exec w
    (∃ e, out = (.error e, conn.2)) ∨
      d = 0 ∧ OpensLevel id d
        ((ds.runStartStatements id (ds.dialect.startTransactionSql iso) true).exec conn.2) out ∨
      d ≠ 0 ∧ OpensLevel id d
        ((ds.execute id (ds.dialect.createSavepointSql (savepointName d)) [] false).exec conn.2)
        out := by
  intro d out conn
  have hspec := startTransaction_spec ds id iso w
  simp only at hspec
  rcases hc : conn.1 with e | u
  · simp only [conn] at hc
    simp only [hc] at hspec
    exact .inl ⟨e, hspec⟩
  · simp only [conn] at hc
    simp only [hc] at hspec
    split at hspec
    · exact .inl ⟨_, hspec⟩
    · cases hb : ds.broadcaster.transaction .beforeStart (d + 1) with
      | error e =>
        simp only [d, hb] at hspec
        exact .inl ⟨e, hspec⟩
      | ok u =>
        simp only [d, hb] at hspec
        by_cases hd0 : d = 0
        · simp only [d] at hd0
          simp only [hd0, if_true] at hspec
          refine .inr (.inl ⟨hd0, ?_⟩)
          simp only [d, out, conn, hd0]
          exact hspec
        · simp only [d] at hd0
          simp only [hd0, if_false] at hspec
          exact .inr (.inr ⟨hd0, hspec⟩)

/-! ### Depths -/

section Depth

variable (ds : DataSource) (id : RunnerId) (w : World)

theorem runStartStatements_runners (stmts : List String) (first : Bool) :
    ((ds.runStartStatements id stmts first).exec w).2.runners = w.runners := by
  induction stmts generalizing first w with
  | nil => rfl
  | cons sql rest ih =>
    simp only [runStartStatements, exec_bind, exec_attempt]
    rcases hex : (ds.execute id sql [] false).exec w with ⟨_ | v, w₁⟩
    · have hrun : w₁.runners = w.runners := by
        rw [← execute_runners ds id sql [] w, hex]
      dsimp only
      split
      · simpa using hrun
      · simp only [exec_bind, exec_attempt]
        have hrb := execute_runners ds id ds.dialect.rollbackSql [] w₁
        rcases hex' : (ds.execute id ds.dialect.rollbackSql [] false).exec w₁ with ⟨_ | u, w₂⟩ <;>
          simpa [hex', hrun] using hrb
    · have hrun : w₁.runners = w.runners := by
        rw [← execute_runners ds id sql [] w, hex]
      simpa [hrun] using ih w₁ false

theorem depth_modify (hid : id < w.runners.length) (n : Nat) :
    ({ w with runners := w.runners.modify id fun r => { r with depth := n } } : World).runner id =
      { w.runner id with depth := n } := by
  rw [World.runner_modify]
  simp [hid]

theorem rollbackLevel_depth (hid : id < w.runners.length) :
    let out := (ds.rollbackLevel id).exec w
    out.2.runners.length = w.runners.length ∧
      (out.2.runner id).depth = match out.1 with
        | .ok () => (w.runner id).depth - 1
        | .error _ => (w.runner id).depth := by
  intro out
  have hspec := rollbackLevel_spec ds id w
  have hrun := execute_runners ds id (ds.rollbackStatement (w.runner id).depth) [] w
  cases hb : ds.broadcaster.transaction .beforeRollback (w.runner id).depth with
  | error e =>
    simp only [hb] at hspec
    simp [out, hspec]
  | ok u =>
    simp only [hb] at hspec
    rcases hex : (ds.execute id (ds.rollbackStatement (w.runner id).depth) [] false).exec w
      with ⟨_ | v, w₁⟩
    · rw [hex] at hrun hspec
      simp only at hrun hspec
      simp [out, hspec, hrun, World.runner_of_runners_eq hrun]
    · rw [hex] at hspec
      simp only at hspec
      obtain ⟨hok, -, hrunners⟩ := hspec
      simp [out, hok, hrunners, World.runner_of_runners_modify hrunners hid]

theorem ClosedAfter.depth {e : OrmError} {w₀ : World} {out : OrmResult Unit × World}
    (h : ClosedAfter ds id e w₀ out) (hid : id < w₀.runners.length) :
    out.2.runners.length = w₀.runners.length ∧
      ((out.2.runner id).depth = (w₀.runner id).depth - 1 ∧ out.1 = .error e ∨
        (out.2.runner id).depth = (w₀.runner id).depth ∧
          ∃ r, out.1 = .error (e.withRollbackFailure r)) := by
  obtain ⟨hrun, -, hout⟩ := h
  obtain ⟨hlen, hdepth⟩ := rollbackLevel_depth ds id w₀ hid
  rw [World.runner_of_runners_eq hrun, hrun]
  refine ⟨hlen, ?_⟩
  rcases hrb : (ds.rollbackLevel id).exec w₀ with ⟨_ | u, w₁⟩ <;>
    simp only [hrb] at hdepth hout ⊢
  · exact .inr ⟨hdepth, _, hout⟩
  · exact .inl ⟨hdepth, hout⟩

theorem commit_depth {h : TransactionHandle} (hh : Admits w id h) (hid : id < w.runners.length) :
    let out := (ds.commit id h).exec w
    out.2.runners.length = w.runners.length ∧
      (out.1 = .ok () → (out.2.runner id).depth = (w.runner id).depth - 1) ∧
      ((out.2.runner id).depth = (w.runner id).depth - 1 ∨
        (out.2.runner id).depth = (w.runner id).depth ∧
          ∃ e r : OrmError, out.1 = .error (e.withRollbackFailure r)) := by
  intro out
  have hspec := commit_spec ds hh
  simp only at hspec
  cases hb : ds.broadcaster.transaction .beforeCommit (w.runner id).depth with
  | error e =>
    simp only [hb] at hspec
    obtain ⟨hlen, hcases⟩ := hspec.depth ds id hid
    refine ⟨hlen, fun hok => ?_, ?_⟩
    · rcases hcases with ⟨-, herr⟩ | ⟨-, r, herr⟩ <;> simp [out, herr] at hok
    · rcases hcases with ⟨hd, -⟩ | ⟨hd, r, herr⟩
      · exact .inl hd
      · exact .inr ⟨hd, e, r, herr⟩
  | ok u =>
    simp only [hb] at hspec
    cases hs : ds.commitStatement (w.runner id).depth with
    | none =>
      simp only [hs] at hspec
      obtain ⟨hok, -, hrunners⟩ := hspec
      have hd := World.runner_of_runners_modify hrunners hid
      simp only [out, hrunners, List.length_modify, hd, true_and, true_or, implies_true]
    | some sql =>
      simp only [hs] at hspec
      have hrun := execute_runners ds id sql [] w
      rcases hex : (ds.execute id sql [] false).exec w with ⟨_ | v, w₁⟩
      · rw [hex] at hspec hrun
        simp only at hspec hrun
        have hid₁ : id < w₁.runners.length := by rw [hrun]; exact hid
        obtain ⟨hlen, hcases⟩ := hspec.depth ds id hid₁
        rw [World.runner_of_runners_eq hrun, hrun] at *
        refine ⟨hlen, fun hok => ?_, ?_⟩
        · rcases hcases with ⟨-, herr⟩ | ⟨-, r, herr⟩ <;> simp [out, herr] at hok
        · rcases hcases with ⟨hd, -⟩ | ⟨hd, r, herr⟩
          · exact .inl hd
          · exact .inr ⟨hd, _, r, herr⟩
      · rw [hex] at hspec
        simp only at hspec
        obtain ⟨hok, -, hrunners⟩ := hspec
        have hd := World.runner_of_runners_modify hrunners hid
        simp only [out, hrunners, List.length_modify, hd, true_and, true_or, implies_true]

theorem OpensLevel.driver {α : Type} {d : Nat} {body : OrmResult α × World}
    {out : OrmResult TransactionHandle × World} (h : OpensLevel id d body out) :
    out.2.driver = body.2.driver := by
  unfold OpensLevel at h
  rcases body with ⟨_ | v, w₁⟩ <;> simp only at h ⊢
  · rw [h]
  · exact h.2.1

theorem OpensLevel.depth {α : Type} {d : Nat} {body : OrmResult α × World}
    {out : OrmResult TransactionHandle × World} (h : OpensLevel id d body out)
    (hid : id < body.2.runners.length) :
    out.2.runners.length = body.2.runners.length ∧
      match out.1 with
      | .ok hd => hd = ⟨id, d + 1⟩ ∧ (out.2.runner id).depth = d + 1
      | .error _ => out.2.runners = body.2.runners := by
  unfold OpensLevel at h
  rcases body with ⟨_ | v, w₁⟩ <;> simp only at h hid ⊢
  · rw [h]
    exact ⟨rfl, rfl⟩
  · obtain ⟨hok, -, hrun⟩ := h
    rw [hok, hrun, World.runner_of_runners_modify hrun hid]
    exact ⟨List.length_modify .., rfl, rfl⟩

theorem startTransaction_depth (iso : Option Isolation) (hid : id < w.runners.length) :
    let out := (ds.startTransaction id iso).exec w
    out.2.runners.length = w.runners.length ∧
      match out.1 with
      | .ok h => h = ⟨id, (w.runner id).depth + 1⟩ ∧
          (out.2.runner id).depth = (w.runner id).depth + 1
      | .error _ => (out.2.runner id).depth = (w.runner id).depth := by
  intro out
  obtain ⟨hlen, hdepth, -, -⟩ := ensureConnected_spec ds id w
  have hid₁ : id < ((ds.ensureConnected id).exec w).2.runners.length := hlen ▸ hid
  have hopens : ∀ {α : Type} {body : OrmResult α × World},
      body.2.runners = ((ds.ensureConnected id).exec w).2.runners →
      OpensLevel id (w.runner id).depth body out →
      out.2.runners.length = w.runners.length ∧
        match out.1 with
        | .ok h => h = ⟨id, (w.runner id).depth + 1⟩ ∧
            (out.2.runner id).depth = (w.runner id).depth + 1
        | .error _ => (out.2.runner id).depth = (w.runner id).depth := by
    intro α body hbody hopen
    obtain ⟨hlen', hcases⟩ := hopen.depth id (hbody ▸ hid₁)
    refine ⟨by rw [hlen', hbody, hlen], ?_⟩
    split at hcases
    · exact hcases
    · rw [World.runner_of_runners_eq (hcases.trans hbody), hdepth]
  rcases startTransaction_cases ds id iso w with ⟨e, hout⟩ | ⟨-, hopen⟩ | ⟨-, hopen⟩
  · simp only [out, hout]
    exact ⟨hlen, hdepth⟩
  · exact hopens (runStartStatements_runners ds id _ _ _) hopen
  · exact hopens (execute_runners ds id _ [] _) hopen

end Depth

/-! ### Statements sent -/

section Statements

variable (ds : DataSource) (id : RunnerId) (w : World)

theorem runStartStatements_statements (stmts : List String) (first : Bool) :
    World.SentWithin ((stmts ++ [ds.dialect.rollbackSql]).flatMap (ds.textsAt (w.runner id).depth))
      w ((ds.runStartStatements id stmts first).exec w).2 := by
  induction stmts generalizing first w with
  | nil => exact .of_statements_eq rfl
  | cons sql rest ih =>
    have hsent := execute_statements ds id sql w
    have hrun := execute_runners ds id sql [] w
    have hsplit : (sql :: rest ++ [ds.dialect.rollbackSql]).flatMap (ds.textsAt (w.runner id).depth) =
        ds.textsAt (w.runner id).depth sql ++
          (rest ++ [ds.dialect.rollbackSql]).flatMap (ds.textsAt (w.runner id).depth) := by
      simp
    rw [hsplit]
    simp only [runStartStatements, exec_bind, exec_attempt]
    rcases hex : (ds.execute id sql [] false).exec w with ⟨_ | v, w₁⟩
    · rw [hex] at hsent hrun
      have hd : (w₁.runner id).depth = (w.runner id).depth := by
        rw [World.runner_of_runners_eq hrun]
      dsimp only
      split
      · exact hsent.mono (List.sublist_append_left _ _)
      · -- `ROLLBACK` runs after the failure
        simp only [exec_bind, exec_attempt]
        have hrb := execute_statements ds id ds.dialect.rollbackSql w₁
        rw [hd] at hrb
        have hsub : (ds.textsAt (w.runner id).depth sql ++
            ds.textsAt (w.runner id).depth ds.dialect.rollbackSql).Sublist
            (ds.textsAt (w.runner id).depth sql ++
              (rest ++ [ds.dialect.rollbackSql]).flatMap (ds.textsAt (w.runner id).depth)) :=
          (List.Sublist.refl _).append (by simp)
        rcases hex' : (ds.execute id ds.dialect.rollbackSql [] false).exec w₁ with ⟨_ | u, w₂⟩ <;>
          rw [hex'] at hrb <;> exact (hsent.append hrb).mono hsub
    · rw [hex] at hsent hrun
      have hd : (w₁.runner id).depth = (w.runner id).depth := by
        rw [World.runner_of_runners_eq hrun]
      have hrest := ih w₁ false
      rw [hd] at hrest
      exact hsent.append hrest

theorem rollbackLevel_statements :
    World.SentWithin (ds.textsAt (w.runner id).depth (ds.rollbackStatement (w.runner id).depth)) w
      ((ds.rollbackLevel id).exec w).2 := by
  have hspec := rollbackLevel_spec ds id w
  have hsent := execute_statements ds id (ds.rollbackStatement (w.runner id).depth) w
  cases hb : ds.broadcaster.transaction .beforeRollback (w.runner id).depth with
  | error e =>
    simp only [hb] at hspec
    exact .of_statements_eq (by rw [hspec])
  | ok u =>
    simp only [hb] at hspec
    rcases hex : (ds.execute id (ds.rollbackStatement (w.runner id).depth) [] false).exec w
      with ⟨_ | v, w₁⟩ <;> rw [hex] at hsent hspec <;> simp only at hspec
    · rw [hspec]
      exact hsent
    · exact hsent.of_driver_eq hspec.2.1

theorem ClosedAfter.statements {e : OrmError} {w₀ : World} {out : OrmResult Unit × World}
    (h : ClosedAfter ds id e w₀ out) :
    World.SentWithin (ds.textsAt (w₀.runner id).depth (ds.rollbackStatement (w₀.runner id).depth))
      w₀ out.2 :=
  (rollbackLevel_statements ds id w₀).of_driver_eq h.2.1

theorem commit_statements {h : TransactionHandle} (hh : Admits w id h) :
    let d := (w.runner id).depth
    World.SentWithin (((ds.commitStatement d).toList ++ [ds.rollbackStatement d]).flatMap
      (ds.textsAt d)) w ((ds.commit id h).exec w).2 := by
  dsimp only
  have hspec := commit_spec ds hh
  simp only at hspec
  cases hb : ds.broadcaster.transaction .beforeCommit (w.runner id).depth with
  | error e =>
    simp only [hb] at hspec
    exact (hspec.statements ds id).mono (by simp)
  | ok u =>
    simp only [hb] at hspec
    cases hs : ds.commitStatement (w.runner id).depth with
    | none =>
      simp only [hs] at hspec
      exact .of_statements_eq (by rw [hspec.2.1])
    | some sql =>
      simp only [hs] at hspec
      have hsent := execute_statements ds id sql w
      have hrun := execute_runners ds id sql [] w
      rcases hex : (ds.execute id sql [] false).exec w with ⟨_ | v, w₁⟩ <;>
        rw [hex] at hsent hrun hspec <;> simp only at hspec hrun
      · -- the commit statement failed: the level's rollback follows it
        have hclose := hspec.statements ds id
        rw [World.runner_of_runners_eq hrun] at hclose
        exact (hsent.append hclose).mono (by simp)
      · exact (hsent.of_driver_eq hspec.2.1).mono (by simp)

theorem startTransaction_statements (iso : Option Isolation) :
    let d := (w.runner id).depth
    World.SentWithin
      (if d = 0 then
        (ds.dialect.startTransactionSql iso ++ [ds.dialect.rollbackSql]).flatMap (ds.textsAt 0)
      else ds.textsAt d (ds.dialect.createSavepointSql (savepointName d)))
      w ((ds.startTransaction id iso).exec w).2 := by
  dsimp only
  obtain ⟨-, hdepth, -, hstmts⟩ := ensureConnected_spec ds id w
  rcases startTransaction_cases ds id iso w with ⟨e, hout⟩ | ⟨hd0, hopen⟩ | ⟨hd0, hopen⟩
  · rw [hout]
    exact .of_statements_eq hstmts
  · have hbody := runStartStatements_statements ds id ((ds.ensureConnected id).exec w).2
      (ds.dialect.startTransactionSql iso) true
    rw [hdepth, hd0] at hbody
    rw [if_pos hd0]
    exact (hbody.of_eq_left hstmts).of_driver_eq hopen.driver
  · have hbody := execute_statements ds id
      (ds.dialect.createSavepointSql (savepointName (w.runner id).depth))
      ((ds.ensureConnected id).exec w).2
    rw [hdepth] at hbody
    rw [if_neg hd0]
    exact (hbody.of_eq_left hstmts).of_driver_eq hopen.driver

end Statements

/-! ### Failed steps -/

section Failures

variable (ds : DataSource) (id : RunnerId) (w : World)

/-- How an opening sequence run from `w₀` failed, ending in `w'`: its statements ran in order
until one failed, and when that one was not the first, `ROLLBACK` ran after it. -/
def OpeningFailed (stmts : List String) (w₀ w' : World) : Prop :=
  ∃ pre sql post w₁ e w₂, stmts = pre ++ sql :: post ∧ RunsOk ds id pre w₀ w₁ ∧
    (ds.execute id sql [] false).exec w₁ = (.error e, w₂) ∧
    (pre = [] → w' = w₂) ∧
    (pre ≠ [] → w' = ((ds.execute id ds.dialect.rollbackSql [] false).exec w₂).2)

theorem startTransaction_error_first {iso : Option Isolation} {e : OrmError}
    (he : ((ds.startTransaction id iso).exec w).1 = .error e) (hd : (w.runner id).depth = 0) :
    ((ds.startTransaction id iso).exec w).2 = ((ds.ensureConnected id).exec w).2 ∨
      ds.OpeningFailed id (ds.dialect.startTransactionSql iso) ((ds.ensureConnected id).exec w).2
        ((ds.startTransaction id iso).exec w).2 := by
  rcases startTransaction_cases ds id iso w with ⟨e', hout⟩ | ⟨-, hopen⟩ | ⟨hd', -⟩
  · rw [hout]
    exact .inl rfl
  · unfold OpensLevel at hopen
    rcases hrun : (ds.runStartStatements id (ds.dialect.startTransactionSql iso) true).exec
      ((ds.ensureConnected id).exec w).2 with ⟨_ | u, w'⟩ <;> rw [hrun] at hopen <;>
      simp only at hopen
    · obtain ⟨pre, sql, post, w₁, e', w₂, hs, hok, hfail, hfirst, hlater⟩ :=
        runStartStatements_error hrun
      refine .inr ⟨pre, sql, post, w₁, e', w₂, hs, hok, hfail, fun hpre => ?_, fun hpre => ?_⟩
      · rw [hopen]
        exact (hfirst ⟨hpre, rfl⟩).2
      · rw [hopen]
        exact (hlater fun h => hpre h.1).1
    · rw [hopen.1] at he
      cases he
  · exact absurd hd hd'

theorem rollback_error_depth {h : TransactionHandle} {e : OrmError}
    (he : ((ds.rollback id h).exec w).1 = .error e) (hid : id < w.runners.length) :
    (((ds.rollback id h).exec w).2.runner id).depth = (w.runner id).depth := by
  by_cases hh : Admits w id h
  · rw [rollback_of_admits hh] at he ⊢
    obtain ⟨-, hdepth⟩ := rollbackLevel_depth ds id w hid
    rw [hdepth, he]
  · obtain ⟨e', he'⟩ := @rollback_of_not_admits ds id h w hh
    rw [he']

end Failures

/-- What failed transaction steps leave. Opening a level that fails leaves the depth; at depth
zero it failed before any statement, or inside the opening sequence, which rolled back when the
statement that failed was not the first. A rollback that fails leaves the depth. A commit with
the handle of the innermost level closes it, unless the rollback it runs after a failure fails
too: then the depth stays and the failure carries the rollback's. -/
theorem failed_steps_depth (ds : DataSource) (id : RunnerId) (w : World)
    (hid : id < w.runners.length) :
    let d := (w.runner id).depth
    let conn := ((ds.ensureConnected id).exec w).2
    (∀ iso e, ((ds.startTransaction id iso).exec w).1 = .error e →
      (((ds.startTransaction id iso).exec w).2.runner id).depth = d ∧
      (d = 0 → ((ds.startTransaction id iso).exec w).2 = conn ∨
        ds.OpeningFailed id (ds.dialect.startTransactionSql iso) conn
          ((ds.startTransaction id iso).exec w).2)) ∧
    (∀ h e, ((ds.rollback id h).exec w).1 = .error e →
      (((ds.rollback id h).exec w).2.runner id).depth = d) ∧
    (∀ h, Admits w id h →
      let out := (ds.commit id h).exec w
      (out.2.runner id).depth = d - 1 ∨
        (out.2.runner id).depth = d ∧ ∃ e r : OrmError, out.1 = .error (e.withRollbackFailure r)) := by
  intro d conn
  refine ⟨fun iso e he => ⟨?_, startTransaction_error_first ds id w he⟩,
    fun h e he => rollback_error_depth ds id w he hid,
    fun h hh => (commit_depth ds id w hh hid).2.2⟩
  have hdepth := (startTransaction_depth ds id w iso hid).2
  rw [he] at hdepth
  exact hdepth

/-- The failed steps of a postgres runner at depth one. -/
theorem failed_steps_depth_postgres :
    let ds : DataSource := { dialect := .postgres, registry := {} }
    let w : World :=
      { driver := { dialect := .postgres }, runners := [{ mode := .master, connected := true, depth := 1 }] }
    let d := (w.runner 0).depth
    let conn := ((ds.ensureConnected 0).exec w).2
    0 < w.runners.length ∧
    (∀ iso e, ((ds.startTransaction 0 iso).exec w).1 = .error e →
      (((ds.startTransaction 0 iso).exec w).2.runner 0).depth = d ∧
      (d = 0 → ((ds.startTransaction 0 iso).exec w).2 = conn ∨
        ds.OpeningFailed 0 (ds.dialect.startTransactionSql iso) conn
          ((ds.startTransaction 0 iso).exec w).2)) ∧
    (∀ h e, ((ds.rollback 0 h).exec w).1 = .error e →
      (((ds.rollback 0 h).exec w).2.runner 0).depth = d) ∧
    (∀ h, Admits w 0 h →
      let out := (ds.commit 0 h).exec w
      (out.2.runner 0).depth = d - 1 ∨
        (out.2.runner 0).depth = d ∧ ∃ e r : OrmError, out.1 = .error (e.withRollbackFailure r)) :=
  ⟨by decide, failed_steps_depth _ 0 _ (by decide)⟩

/-- A commit whose subscribers refuse it, and then refuse the rollback it runs, leaves the level
open: the depth stays one. -/
theorem commit_leaves_level_when_rollback_refused :
    let refuse : Subscriber :=
      { onTransaction := fun p _ =>
          if p = .beforeCommit ∨ p = .beforeRollback then .error (.usage "refused") else .ok () }
    let ds : DataSource :=
      { dialect := .postgres, registry := {}, broadcaster := { registry := {}, subscribers := [refuse] } }
    let w : World :=
      { driver := { dialect := .postgres }, runners := [{ mode := .master, connected := true, depth := 1 }] }
    Admits w 0 ⟨0, 1⟩ ∧ (((ds.commit 0 ⟨0, 1⟩).exec w).2.runner 0).depth = 1 :=
  ⟨⟨rfl, rfl, by decide, rfl⟩, by decide⟩



end DataSource

end EntitySql
