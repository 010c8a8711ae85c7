import EntitySql.Proofs.Runner.Release

/-!
# Scoped work

`DataSource.inRunner` runs work on a runner the caller gives, or on a fresh one it owns, inside
a transaction when asked and none is open. `ScopedRun` lists the ways such a run can go, one
constructor per path: no level opened; the level refused; the work done and the level
committed; the work failed and the level rolled back, or its rollback failed too. In every path
the work runs at most once, and exactly once unless the level it was to run in failed to open;
the level opened is the one above the runner's depth, and its handle is used once, by the commit
or by the rollback; a failure of the work is returned as it is, with a failed rollback attached
(`inRunner_scoped`).

For work that keeps its runner (`KeepsRunner`), an owned runner ends released on every path, and
a runner the caller gave is not released and ends at the depth it had, or one above it when the
level could not be closed: its rollback failed, and the error says so.
-/

namespace EntitySql

open ExecM

/-! ## Releasing quietly -/

namespace DataSource

variable (ds : DataSource) (id : RunnerId) (w : World)

theorem release_released (hid : id < w.runners.length) :
    let w' := ((ds.release id).exec w).2
    w'.runners.length = w.runners.length ∧ (w'.runner id).released = true := by
  intro w'
  cases hrel : (w.runner id).released
  case true =>
    have hw : w' = w := by simp only [w', release_of_released ds id w hrel]
    rw [hw]
    exact ⟨rfl, hrel⟩
  case false =>
    have hr := release_releases ds id w hid hrel
    rw [World.runner_of_runners_modify hr.runners hid, hr.runners, List.length_modify]
    exact ⟨rfl, rfl⟩

theorem releaseQuietly_ok :
    (ds.releaseQuietly id).exec w = (.ok (), ((ds.releaseQuietly id).exec w).2) := by
  simp only [releaseQuietly, exec_bind, exec_attempt]
  split <;> simp

theorem releaseQuietly_bind {α : Type} (x : Unit → ExecM α) :
    (ds.releaseQuietly id >>= x).exec w = (x ()).exec ((ds.releaseQuietly id).exec w).2 := by
  rw [exec_bind, releaseQuietly_ok]

theorem releaseQuietly_runners :
    ((ds.releaseQuietly id).exec w).2.runners = ((ds.release id).exec w).2.runners := by
  simp only [releaseQuietly, exec_bind, exec_attempt]
  split <;> simp

theorem releaseQuietly_released (hid : id < w.runners.length) :
    let w' := ((ds.releaseQuietly id).exec w).2
    w'.runners.length = w.runners.length ∧ (w'.runner id).released = true := by
  intro w'
  have hrun := releaseQuietly_runners ds id w
  obtain ⟨hlen, hrel⟩ := release_released ds id w hid
  exact ⟨by rw [hrun, hlen], by rw [World.runner_of_runners_eq hrun, hrel]⟩

/-- An operation that connects first changes no release flag of its runner, and succeeds only
on a live runner. -/
theorem ConnectsFirst.released {α : Type} {x : ExecM α} (hx : ds.ConnectsFirst id x) :
    ((x.exec w).2.runner id).released = (w.runner id).released ∧
      ((x.exec w).1.toBool = true → (w.runner id).released = false) := by
  obtain ⟨k, hk, rfl⟩ := hx
  obtain ⟨-, -, hrel, -⟩ := ensureConnected_spec ds id w
  rw [exec_bind]
  rcases he : (ds.ensureConnected id).exec w with ⟨_ | u, w₁⟩ <;> rw [he] at hrel
  · exact ⟨hrel, by simp [Except.toBool]⟩
  · refine ⟨((World.flags_of_connections_eq (hk u w₁) id).2).trans hrel, fun _ => ?_⟩
    cases hw : (w.runner id).released
    · rfl
    · rw [ensureConnected_refuses ds hw] at he
      cases he

end DataSource

/-! ## The paths of scoped work -/

/-- Work that keeps the runner it is given: its depth and its release as they were, and every
runner still there. -/
structure KeepsRunner {α : Type} (work : RunnerId → ExecM α) : Prop where
  length : ∀ id w, w.runners.length ≤ ((work id).exec w).2.runners.length
  depth : ∀ id w, (((work id).exec w).2.runner id).depth = (w.runner id).depth
  released : ∀ id w, (((work id).exec w).2.runner id).released = (w.runner id).released

theorem DataSource.query_keepsRunner (ds : DataSource) (sql : String) (params : List Value) :
    KeepsRunner fun id => ds.query id sql params where
  length id w := Nat.le_of_eq (query_frame ds id sql params w).1.symm
  depth id w := (query_frame ds id sql params w).2.1
  released id w := ((DataSource.query_connectsFirst ds id sql params).released ds id w).1

namespace Scope

/-- The runner scoped work runs on, and the world where it is ready: the given runner, or a
fresh one of the mode added to the runners. -/
def ready (given : Option RunnerId) (mode : ReplicationMode) (w : World) : RunnerId × World :=
  match given with
  | some id => (id, w)
  | none => (w.runners.length, { w with runners := w.runners ++ [{ mode }] })

def leave (ds : DataSource) (id : RunnerId) (owned : Bool) (w : World) : World :=
  if owned then ((ds.releaseQuietly id).exec w).2 else w

def rollbackWarning (e rollback : OrmError) : TraceEvent :=
  .runner .warn "rollback after failed operation also failed"
    [("error", .str e.message), ("rollback_error", .str rollback.message)]

end Scope

/-- The paths of scoped work on runner `id`, found at depth `d`, owned or not, from the world
`w₀` where the runner is ready to the outcome and the world `out`; `opens` says whether a level
is to be opened for the work. -/
inductive ScopedRun {α : Type} (ds : DataSource) (id : RunnerId) (owned : Bool)
    (work : RunnerId → ExecM α) (d : Nat) : Bool → World → OrmResult α × World → Prop
  /-- No level to open: the work runs once. -/
  | direct {w₀ : World} :
      ScopedRun ds id owned work d false w₀
        (((work id).exec w₀).1, Scope.leave ds id owned ((work id).exec w₀).2)
  /-- The level fails to open: the work does not run, and the failure is returned. -/
  | refused {w₀ w₁ : World} {e : OrmError} :
      (ds.startTransaction id none).exec w₀ = (.error e, w₁) →
      ScopedRun ds id owned work d true w₀ (.error e, Scope.leave ds id owned w₁)
  /-- The work succeeds in the level above `d`, which is then committed. -/
  | committed {w₀ w₁ w₂ w₃ : World} {v : α} {r : OrmResult Unit} :
      (ds.startTransaction id none).exec w₀ = (.ok ⟨id, d + 1⟩, w₁) →
      (work id).exec w₁ = (.ok v, w₂) →
      (ds.commit id ⟨id, d + 1⟩).exec w₂ = (r, w₃) →
      ScopedRun ds id owned work d true w₀ (r.map fun _ => v, Scope.leave ds id owned w₃)
  /-- The work fails in the level above `d`, which is then rolled back. -/
  | rolledBack {w₀ w₁ w₂ w₃ : World} {e : OrmError} :
      (ds.startTransaction id none).exec w₀ = (.ok ⟨id, d + 1⟩, w₁) →
      (work id).exec w₁ = (.error e, w₂) →
      (ds.rollback id ⟨id, d + 1⟩).exec w₂ = (.ok (), w₃) →
      ScopedRun ds id owned work d true w₀ (.error e, Scope.leave ds id owned w₃)
  /-- The work fails, and so does the rollback of its level: the rollback's failure is attached
  to the work's, and reported. -/
  | rollbackFailed {w₀ w₁ w₂ w₃ : World} {e r : OrmError} :
      (ds.startTransaction id none).exec w₀ = (.ok ⟨id, d + 1⟩, w₁) →
      (work id).exec w₁ = (.error e, w₂) →
      (ds.rollback id ⟨id, d + 1⟩).exec w₂ = (.error r, w₃) →
      ScopedRun ds id owned work d true w₀ (.error (e.withRollbackFailure r),
        Scope.leave ds id owned { w₃ with events := w₃.events ++ [Scope.rollbackWarning e r] })

namespace Scope

variable (ds : DataSource)

theorem start_exec (given : Option RunnerId) (mode : ReplicationMode) (useTx : Bool) (w : World)
    {id : RunnerId} {w₀ : World} (hready : ready given mode w = (id, w₀)) :
    (start ds given mode useTx).exec w =
      if useTx = true ∧ (w₀.runner id).depth = 0 then
        match (ds.startTransaction id none).exec w₀ with
        | (.ok h, w₁) => (.ok ⟨id, given.isNone, some h⟩, w₁)
        | (.error e, w₁) => (.error e, leave ds id given.isNone w₁)
      else (.ok ⟨id, given.isNone, none⟩, w₀) := by
  cases given with
  | some i =>
    obtain ⟨rfl, rfl⟩ := Prod.mk.inj hready
    simp only [start, exec_bind, exec_pure, exec_runner, Bool.and_eq_true, decide_eq_true_eq,
      Option.isNone_some]
    by_cases hopen : useTx = true ∧ (w.runner i).depth = 0
    · rw [if_pos hopen, if_pos hopen]
      simp only [exec_bind, exec_attempt]
      rcases (ds.startTransaction i none).exec w with ⟨_ | h, w₁⟩
      · simp [leave]
      · simp
    · rw [if_neg hopen, if_neg hopen]
      rfl
  | none =>
    obtain ⟨rfl, rfl⟩ := Prod.mk.inj hready
    simp only [start, exec_bind, exec_pure, createRunner, exec_get, exec_set, exec_runner,
      Bool.and_eq_true, decide_eq_true_eq, Option.isNone_none]
    by_cases hopen : useTx = true ∧
        (({ w with runners := w.runners ++ [{ mode }] } : World).runner w.runners.length).depth = 0
    · rw [if_pos hopen, if_pos hopen]
      simp only [exec_bind, exec_attempt]
      rcases (ds.startTransaction w.runners.length none).exec _ with ⟨_ | h, w₁⟩
      · simp only [if_true, exec_bind, leave]
        rw [DataSource.releaseQuietly_ok]
        rfl
      · simp
    · rw [if_neg hopen, if_neg hopen]
      rfl

variable {α : Type} (sc : Scope)

theorem finish_none (hh : sc.handle = none) (o : OrmResult α) (w : World) :
    (sc.finish ds o).exec w = (o, leave ds sc.runner sc.owned w) := by
  cases o <;> simp only [finish, hh, exec_bind, exec_pure] <;> cases sc.owned <;>
    simp only [leave, Bool.false_eq_true, if_false, if_true, exec_ofResult,
      DataSource.releaseQuietly_bind]

theorem finish_commit {h : TransactionHandle} (hh : sc.handle = some h) (v : α) (w : World) :
    let c := (ds.commit sc.runner h).exec w
    (sc.finish ds (.ok v)).exec w = (c.1.map fun _ => v, leave ds sc.runner sc.owned c.2) := by
  intro c
  simp only [finish, hh, exec_bind, exec_attempt]
  rcases hc : (ds.commit sc.runner h).exec w with ⟨_ | u, w₃⟩ <;>
    simp only [c, hc, Except.map] <;> cases sc.owned <;>
    simp only [leave, Bool.false_eq_true, if_false, if_true, pure_bind, exec_ofResult,
      DataSource.releaseQuietly_bind]

theorem finish_rollback {h : TransactionHandle} (hh : sc.handle = some h) (e : OrmError)
    (w : World) :
    (sc.finish ds (.error e : OrmResult α)).exec w =
      match (ds.rollback sc.runner h).exec w with
      | (.ok (), w₃) => (.error e, leave ds sc.runner sc.owned w₃)
      | (.error r, w₃) => (.error (e.withRollbackFailure r),
          leave ds sc.runner sc.owned { w₃ with events := w₃.events ++ [rollbackWarning e r] }) := by
  simp only [finish, hh, exec_bind, exec_attempt]
  rcases (ds.rollback sc.runner h).exec w with ⟨_ | u, w₃⟩ <;>
    simp only [exec_pure, exec_bind, exec_emit] <;> cases sc.owned <;>
    simp only [leave, Bool.false_eq_true, if_false, if_true, exec_ofResult,
      DataSource.releaseQuietly_bind] <;> rfl

end Scope

theorem inRunner_path {α : Type} (ds : DataSource) (given : Option RunnerId)
    (mode : ReplicationMode) (useTx : Bool) (work : RunnerId → ExecM α) (w : World)
    {id : RunnerId} {w₀ : World} (hready : Scope.ready given mode w = (id, w₀))
    (hid : id < w₀.runners.length) :
    ScopedRun ds id given.isNone work (w₀.runner id).depth
      (useTx && (w₀.runner id).depth == 0) w₀ ((ds.inRunner given mode useTx work).exec w) := by
  simp only [DataSource.inRunner, exec_bind, Scope.start_exec ds given mode useTx w hready,
    exec_attempt]
  by_cases hopen : useTx = true ∧ (w₀.runner id).depth = 0
  case neg =>
    have hflag : (useTx && (w₀.runner id).depth == 0) = false := by simpa using hopen
    rw [if_neg hopen, hflag]
    dsimp only
    rw [Scope.finish_none ds ⟨id, given.isNone, none⟩ rfl]
    exact .direct
  case pos =>
    have hflag : (useTx && (w₀.runner id).depth == 0) = true := by simpa using hopen
    rw [if_pos hopen, hflag]
    obtain ⟨-, hcases⟩ := DataSource.startTransaction_depth ds id w₀ none hid
    rcases hst : (ds.startTransaction id none).exec w₀ with ⟨_ | h, w₁⟩ <;> rw [hst] at hcases
    · exact .refused hst
    · -- the handle is that of the level above the runner's depth
      obtain ⟨rfl, -⟩ := hcases
      dsimp only
      rcases hw : (work id).exec w₁ with ⟨_ | v, w₂⟩
      · rw [Scope.finish_rollback ds ⟨id, given.isNone, _⟩ rfl]
        rcases hrb : (ds.rollback id ⟨id, (w₀.runner id).depth + 1⟩).exec w₂ with ⟨_ | u, w₃⟩
        · exact .rollbackFailed hst hw hrb
        · exact .rolledBack hst hw hrb
      · rw [Scope.finish_commit ds ⟨id, given.isNone, _⟩ rfl]
        exact .committed hst hw rfl

/-! ## Where the runner is left -/

namespace ScopedRun

open DataSource

variable {α : Type} {ds : DataSource} {id : RunnerId} {work : RunnerId → ExecM α} {d : Nat}
  {w₀ w₁ w₂ : World}

theorem admits_after_work (hwork : KeepsRunner work)
    (hst : (ds.startTransaction id none).exec w₀ = (.ok ⟨id, d + 1⟩, w₁))
    {o : OrmResult α} (hw : (work id).exec w₁ = (o, w₂)) (hid : id < w₀.runners.length) :
    Admits w₂ id ⟨id, d + 1⟩ ∧ id < w₂.runners.length ∧ (w₀.runner id).released = false := by
  obtain ⟨hlen₁, hcases⟩ := startTransaction_depth ds id w₀ none hid
  obtain ⟨hrel₁, hlive⟩ := (startTransaction_connectsFirst ds id none).released ds id w₀
  rw [hst] at hlen₁ hcases hrel₁ hlive
  obtain ⟨hh, hdepth₁⟩ := hcases
  have hd : (w₀.runner id).depth = d := by
    have := congrArg TransactionHandle.depth hh
    simp only at this
    omega
  have hlive₀ : (w₀.runner id).released = false := hlive rfl
  have hlen₂ := hwork.length id w₁
  have hdepth₂ := hwork.depth id w₁
  have hrel₂ := hwork.released id w₁
  rw [hw] at hlen₂ hdepth₂ hrel₂
  simp only at hlen₁ hdepth₁ hrel₁ hlen₂ hdepth₂ hrel₂
  refine ⟨⟨rfl, ?_, ?_, ?_⟩, ?_, hlive₀⟩
  · rw [hrel₂, hrel₁, hlive₀]
  · omega
  · simp only
    omega
  · exact Nat.lt_of_lt_of_le hid (hlen₁ ▸ hlen₂)

theorem released_of_owned (hwork : KeepsRunner work) {opens : Bool}
    {out : OrmResult α × World} (hrun : ScopedRun ds id true work d opens w₀ out)
    (hid : id < w₀.runners.length) : (out.2.runner id).released = true := by
  cases hrun with
  | direct =>
    exact (releaseQuietly_released ds id _ (Nat.lt_of_lt_of_le hid (hwork.length id w₀))).2
  | refused hst =>
    have hlen := (startTransaction_depth ds id w₀ none hid).1
    rw [hst] at hlen
    exact (releaseQuietly_released ds id _ (hlen ▸ hid)).2
  | @committed _ _ w₂ _ _ _ hst hw hc =>
    obtain ⟨-, hid₂, -⟩ := admits_after_work hwork hst hw hid
    have hlen := World.length_of_connections_eq (commit_keeps ds id ⟨id, d + 1⟩ w₂)
    rw [hc] at hlen
    exact (releaseQuietly_released ds id _ (hlen ▸ hid₂)).2
  | @rolledBack _ _ w₂ _ _ hst hw hrb =>
    obtain ⟨-, hid₂, -⟩ := admits_after_work hwork hst hw hid
    have hlen := World.length_of_connections_eq (rollback_keeps ds id ⟨id, d + 1⟩ w₂)
    rw [hrb] at hlen
    exact (releaseQuietly_released ds id _ (hlen ▸ hid₂)).2
  | @rollbackFailed _ _ w₂ _ _ _ hst hw hrb =>
    obtain ⟨-, hid₂, -⟩ := admits_after_work hwork hst hw hid
    have hlen := World.length_of_connections_eq (rollback_keeps ds id ⟨id, d + 1⟩ w₂)
    rw [hrb] at hlen
    exact (releaseQuietly_released ds id _ (hlen ▸ hid₂)).2

theorem depth_of_given (hwork : KeepsRunner work) {opens : Bool} {out : OrmResult α × World}
    (hrun : ScopedRun ds id false work d opens w₀ out) (hid : id < w₀.runners.length)
    (hd : (w₀.runner id).depth = d) :
    (out.2.runner id).released = (w₀.runner id).released ∧
      ((out.2.runner id).depth = d ∨
        (out.2.runner id).depth = d + 1 ∧ ∃ e r, out.1 = .error (.rollbackFailed e r)) := by
  cases hrun with
  | direct => exact ⟨hwork.released id w₀, .inl ((hwork.depth id w₀).trans hd)⟩
  | refused hst =>
    have hdepth := (startTransaction_depth ds id w₀ none hid).2
    have hrel := ((startTransaction_connectsFirst ds id none).released ds id w₀).1
    rw [hst] at hdepth hrel
    exact ⟨hrel, .inl (hdepth.trans hd)⟩
  | @committed _ _ w₂ _ _ _ hst hw hc =>
    obtain ⟨hadm, hid₂, hlive⟩ := admits_after_work hwork hst hw hid
    have hdepth := (commit_depth ds id _ hadm hid₂).2.2
    have hrel := (World.flags_of_connections_eq (commit_keeps ds id ⟨id, d + 1⟩ w₂) id).2
    rw [hc] at hdepth hrel
    rw [← hadm.2.2.2] at hdepth
    refine ⟨hrel.trans (hadm.2.1.trans hlive.symm), ?_⟩
    rcases hdepth with hdepth | ⟨hdepth, e, r, rfl⟩
    · exact .inl hdepth
    · exact .inr ⟨hdepth, e, r, rfl⟩
  | @rolledBack _ _ w₂ _ _ hst hw hrb =>
    obtain ⟨hadm, hid₂, hlive⟩ := admits_after_work hwork hst hw hid
    have hdepth := (rollbackLevel_depth ds id _ hid₂).2
    have hrel := (World.flags_of_connections_eq (rollback_keeps ds id ⟨id, d + 1⟩ w₂) id).2
    rw [← rollback_of_admits hadm, hrb, ← hadm.2.2.2] at hdepth
    rw [hrb] at hrel
    exact ⟨hrel.trans (hadm.2.1.trans hlive.symm), .inl hdepth⟩
  | @rollbackFailed _ _ w₂ _ _ _ hst hw hrb =>
    obtain ⟨hadm, hid₂, hlive⟩ := admits_after_work hwork hst hw hid
    have hdepth := (rollbackLevel_depth ds id _ hid₂).2
    have hrel := (World.flags_of_connections_eq (rollback_keeps ds id ⟨id, d + 1⟩ w₂) id).2
    rw [← rollback_of_admits hadm, hrb, ← hadm.2.2.2] at hdepth
    rw [hrb] at hrel
    exact ⟨hrel.trans (hadm.2.1.trans hlive.symm), .inr ⟨hdepth, _, _, rfl⟩⟩

end ScopedRun

/-! ## Scoped work -/

/-- Scoped work on a runner the caller gives, or on a fresh one it owns, runs along one of the
paths of `ScopedRun`: the work runs once, unless the level it was to run in failed to open; a
level is opened only when asked and none is open, and its handle, that of the level above the
runner's depth, is used once, by the commit when the work succeeded and by the rollback when it
failed; a failure of the work is returned, with a failed rollback attached. For work that keeps
its runner, an owned runner ends released, and a given one keeps its release and ends at the
depth it had, or one above it when the rollback failed. -/
theorem inRunner_scoped {α : Type} (ds : DataSource) (given : Option RunnerId)
    (mode : ReplicationMode) (useTx : Bool) (work : RunnerId → ExecM α)
    (hwork : KeepsRunner work) (w : World) (hgiven : ∀ id ∈ given, id < w.runners.length) :
    let id := (Scope.ready given mode w).1
    let w₀ := (Scope.ready given mode w).2
    let d₀ := (w₀.runner id).depth
    let out := (ds.inRunner given mode useTx work).exec w
    ScopedRun ds id given.isNone work d₀ (useTx && d₀ == 0) w₀ out ∧
      (given = none → (out.2.runner id).released = true) ∧
      (given ≠ none → (out.2.runner id).released = (w.runner id).released ∧
        ((out.2.runner id).depth = d₀ ∨
          (out.2.runner id).depth = d₀ + 1 ∧ ∃ e r, out.1 = .error (.rollbackFailed e r))) := by
  intro id w₀ d₀ out
  have hid : id < w₀.runners.length := by
    cases given with
    | some i => exact hgiven i rfl
    | none => simp [id, w₀, Scope.ready]
  have hrun := inRunner_path ds given mode useTx work w rfl hid
  refine ⟨hrun, fun hnone => ?_, fun hsome => ?_⟩
  · subst hnone
    exact hrun.released_of_owned hwork hid
  · obtain ⟨i, rfl⟩ := Option.ne_none_iff_exists'.1 hsome
    exact hrun.depth_of_given hwork hid rfl

/-- A statement run on a fresh postgres runner inside a transaction of its own. -/
theorem inRunner_scoped_query :
    let ds : DataSource := { dialect := .postgres, registry := {} }
    let work := fun id => ds.query id "SELECT 1" []
    let w : World := { driver := { dialect := .postgres } }
    KeepsRunner work ∧ (∀ id ∈ (none : Option RunnerId), id < w.runners.length) ∧
      ScopedRun ds 0 true work 0 true { w with runners := [{ mode := .master }] }
        ((ds.inRunner none .master true work).exec w) ∧
      (((ds.inRunner none .master true work).exec w).2.runner 0).released = true := by
  intro ds work w
  have hwork : KeepsRunner work := ds.query_keepsRunner "SELECT 1" []
  have hgiven : ∀ id ∈ (none : Option RunnerId), id < w.runners.length := by simp
  have h := inRunner_scoped ds none .master true work hwork w hgiven
  exact ⟨hwork, hgiven, h.1, h.2.1 rfl⟩

/-- Work that fails on a runner the caller gave, in a transaction whose rollback the subscribers
refuse: the runner is left one level above the depth it had. -/
theorem inRunner_leaves_level_open :
    let refuse : Subscriber :=
      { onTransaction := fun p _ =>
          if p = .beforeRollback then .error (.usage "no rollback") else .ok () }
    let ds : DataSource :=
      { dialect := .postgres, registry := {},
        broadcaster := { registry := {}, subscribers := [refuse] } }
    let w : World := { driver := { dialect := .postgres }, runners := [{ mode := .master }] }
    let out := (ds.inRunner (some 0) .master true
      (fun _ => (throw (.usage "boom") : ExecM Unit))).exec w
    (w.runner 0).depth = 0 ∧ (out.2.runner 0).depth = 1 ∧ out.1.toBool = false := by
  intro refuse ds w out
  exact ⟨by decide +kernel, by decide +kernel, by decide +kernel⟩

end EntitySql
