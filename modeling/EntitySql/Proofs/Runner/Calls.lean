import EntitySql.Proofs.Runner.Levels
import EntitySql.Command.Exec.Session

/-!
# Runs of calls on one runner

A session makes calls on one runner: it connects, runs and streams statements, opens levels, and
commits or rolls them back with the handles it was given. Each handle is used once: a commit or
a rollback names a handle by its position among those given and marks it used, whatever the call
does; a position that names no handle still to use makes no call.

Along every run, from a session whose handles fit its runner (`Session.Fits`):

* the handles still to use are of that runner and stand for distinct levels, none above the
  depth;
* each call moves the depth as its kind says (`CallStep.Moves`): opening a level raises it by
  one exactly when it succeeds, and the handle given is that of the new level; a commit or a
  rollback with the handle of the innermost level lowers it by one when it succeeds, and one
  with any other handle changes nothing;
* each call sends a part of the statements its kind allows at the depth it found
  (`RunnerCall.allowed`): level `k + 1` is opened by the savepoint `polyorm_k`, and closed by
  its release or the rollback to it;
* `COMMIT` is sent only at depth one, and `ROLLBACK` only at depth one or, right after an
  opening sequence failed, at depth zero (`CallStep.OutermostAtOne`).

Statements are taken as written: the data source has no hooks.
-/

namespace EntitySql

open ExecM

/-- A call a session makes on its runner. A commit or a rollback names a handle by its position
among the handles the session was given. -/
inductive RunnerCall where
  | connect
  | query (sql : String) (params : List Value)
  | stream (sql : String) (params : List Value)
  | start (iso : Option Isolation)
  | commit (handle : Nat)
  | rollback (handle : Nat)

namespace RunnerCall

def isTransactionStep : RunnerCall → Bool
  | .start _ | .commit _ | .rollback _ => true
  | .connect | .query _ _ | .stream _ _ => false

/-- The statements a call may send, in order, when the runner is at depth `d`. A statement is
tried once more than the retries allow; no level is open to close at depth zero. -/
def allowed (ds : DataSource) (d : Nat) : RunnerCall → List String
  | .connect | .stream _ _ => []
  | .query sql _ => List.replicate (ds.options.retry.maxAttempts + 1) sql
  | .start iso =>
    if d = 0 then ds.dialect.startTransactionSql iso ++ [ds.dialect.rollbackSql]
    else [ds.dialect.createSavepointSql (savepointName d)]
  | .commit _ => if d = 0 then [] else (ds.commitStatement d).toList ++ [ds.rollbackStatement d]
  | .rollback _ => if d = 0 then [] else [ds.rollbackStatement d]

end RunnerCall

/-! ### Texts of transaction steps -/

theorem lt_length_append_right {k : Nat} {s : String} (t : String) (h : k < s.length) :
    k < (s ++ t).length := by
  rw [String.length_append]
  omega

namespace Dialect

variable (d : Dialect)

theorem long_of_mem_startTransactionSql (iso : Option Isolation) :
    ∀ x ∈ d.startTransactionSql iso, 8 < x.length := by
  have hset : ∀ x ∈ iso.toList.map (fun l => "SET TRANSACTION ISOLATION LEVEL " ++ l.sql),
      8 < x.length := by
    simp only [List.mem_map]
    rintro x ⟨l, -, rfl⟩
    exact lt_length_append_right _ (by decide)
  have hstart : 8 < "START TRANSACTION".length := by decide
  have hbegin : 8 < "BEGIN TRANSACTION".length := by decide
  have hpragma : 8 < "PRAGMA read_uncommitted = true".length := by decide
  cases d <;> simp only [startTransactionSql, List.forall_mem_cons, List.forall_mem_append] <;>
    generalize iso.toList.map (fun l => "SET TRANSACTION ISOLATION LEVEL " ++ l.sql) = setIso
      at hset ⊢ <;>
    (try split) <;> (try simp only [hstart, hbegin, hpragma, List.forall_mem_cons,
      List.not_mem_nil, false_implies, implies_true, true_and, and_true]) <;> exact hset

theorem long_createSavepointSql (n : String) : 8 < (d.createSavepointSql n).length := by
  unfold createSavepointSql
  split <;> exact lt_length_append_right n (by decide)

theorem long_of_releaseSavepointSql (n : String) :
    ∀ x ∈ (d.releaseSavepointSql n).toList, 8 < x.length := by
  unfold releaseSavepointSql
  split
  · simp
  · simpa using lt_length_append_right n (by decide)

theorem long_rollbackToSavepointSql (n : String) : 8 < (d.rollbackToSavepointSql n).length := by
  unfold rollbackToSavepointSql
  split <;> exact lt_length_append_right n (by decide)

end Dialect

namespace RunnerCall

theorem short_mem_allowed {ds : DataSource} {d : Nat} {c : RunnerCall} {x : String}
    (hc : c.isTransactionStep) (hx : x ∈ c.allowed ds d) (hlen : x.length ≤ 8) :
    d = 1 ∧ (x = ds.dialect.commitSql ∨ x = ds.dialect.rollbackSql) ∨
      d = 0 ∧ x = ds.dialect.rollbackSql ∧ ∃ iso, c = .start iso := by
  have hnested : 1 < d → x ∈ (ds.commitStatement d).toList ++ [ds.rollbackStatement d] → False := by
    intro hd hmem
    simp only [DataSource.commitStatement, DataSource.rollbackStatement, if_pos hd,
      List.mem_append, List.mem_singleton] at hmem
    rcases hmem with hmem | rfl
    · exact absurd (ds.dialect.long_of_releaseSavepointSql _ x hmem) (by omega)
    · exact absurd (ds.dialect.long_rollbackToSavepointSql (savepointName (d - 1))) (by omega)
  cases c with
  | connect | query _ _ | stream _ _ => cases hc
  | start iso =>
    simp only [allowed] at hx
    split at hx
    · rename_i hd
      rcases List.mem_append.1 hx with hmem | hmem
      · exact absurd (ds.dialect.long_of_mem_startTransactionSql iso x hmem) (by omega)
      · exact .inr ⟨hd, List.mem_singleton.1 hmem, iso, rfl⟩
    · rw [List.mem_singleton] at hx
      subst hx
      exact absurd (ds.dialect.long_createSavepointSql (savepointName d)) (by omega)
  | commit i =>
    simp only [allowed] at hx
    split at hx
    · cases hx
    · rename_i hd
      by_cases h1 : 1 < d
      · exact (hnested h1 hx).elim
      · obtain rfl : d = 1 := by omega
        simp [DataSource.commitStatement, DataSource.rollbackStatement] at hx
        exact .inl ⟨rfl, hx⟩
  | rollback i =>
    simp only [allowed] at hx
    split at hx
    · cases hx
    · rename_i hd
      by_cases h1 : 1 < d
      · exact (hnested h1 (List.mem_append_right _ hx)).elim
      · obtain rfl : d = 1 := by omega
        simp [DataSource.rollbackStatement] at hx
        exact .inl ⟨rfl, .inr hx⟩

end RunnerCall


namespace ExecRequest.Session

def depth (s : Session) (id : RunnerId) : Nat := (s.world.runner id).depth

def call {α : Type} (s : Session) (x : ExecM α) : OrmResult Unit × Session :=
  ((x.exec s.world).1.map fun _ => (), { s with world := (x.exec s.world).2 })

/-- Use the handle at position `i` for `op`, marking it used whatever `op` does. A position that
names no handle still to use makes no call. -/
def withHandle (s : Session) (i : Nat) (op : TransactionHandle → ExecM Unit) :
    OrmResult Unit × Session :=
  match s.handles[i]? with
  | some (h, false) => { s with handles := s.handles.modify i fun (h, _) => (h, true) }.call (op h)
  | _ => (.ok (), s)

/-- One call on runner `id`; opening a level gives the session its handle. -/
def perform (ds : DataSource) (id : RunnerId) (s : Session) : RunnerCall → OrmResult Unit × Session
  | .connect => s.call (ds.ensureConnected id)
  | .query sql params => s.call (ds.query id sql params)
  | .stream sql params => s.call (ds.stream id sql params)
  | .start iso =>
    match (ds.startTransaction id iso).exec s.world with
    | (.ok h, w) => (.ok (), { world := w, handles := s.handles ++ [(h, false)] })
    | (.error e, w) => (.error e, { s with world := w })
  | .commit i => s.withHandle i (ds.commit id)
  | .rollback i => s.withHandle i (ds.rollback id)

def runCalls (ds : DataSource) (id : RunnerId) (s : Session) (calls : List RunnerCall) : Session :=
  calls.foldl (fun s c => (s.perform ds id c).2) s

/-- The handles still to use of a session on runner `id` are all of that runner, stand for
distinct levels, and none for a level above its depth. -/
structure Fits (id : RunnerId) (s : Session) : Prop where
  runner_lt : id < s.world.runners.length
  live : ∀ (i : Nat) (h : TransactionHandle), s.handles[i]? = some (h, false) →
    h.runner = id ∧ h.depth ≤ s.depth id
  distinct : ∀ (i j : Nat) (h h' : TransactionHandle), s.handles[i]? = some (h, false) →
    s.handles[j]? = some (h', false) → h.depth = h'.depth → i = j

theorem getElem?_push_eq_some {l : List (TransactionHandle × Bool)} {x h : TransactionHandle}
    {i : Nat} :
    (l ++ [(x, false)])[i]? = some (h, false) ↔ l[i]? = some (h, false) ∨ i = l.length ∧ h = x := by
  by_cases hi : i < l.length
  · simp [List.getElem?_append_left hi, Nat.ne_of_lt hi]
  · have hnone : l[i]? = none := List.getElem?_eq_none (by omega)
    rw [List.getElem?_append_right (by omega), hnone]
    by_cases hlast : i = l.length
    · simp [hlast, eq_comm]
    · have hnone' : [(x, false)][i - l.length]? = none := List.getElem?_eq_none (by simp; omega)
      simp [hnone', hlast]

theorem getElem?_use_eq_some {l : List (TransactionHandle × Bool)} {i j : Nat}
    {h : TransactionHandle} :
    (l.modify i (fun (h, _) => (h, true)))[j]? = some (h, false) ↔
      j ≠ i ∧ l[j]? = some (h, false) := by
  rw [List.getElem?_modify]
  by_cases hj : i = j
  · subst hj
    cases l[i]? <;> simp
  · simp [hj, Ne.symm hj]

@[simp] theorem call_world {α : Type} (s : Session) (x : ExecM α) :
    (s.call x).2.world = (x.exec s.world).2 := rfl

@[simp] theorem call_handles {α : Type} (s : Session) (x : ExecM α) :
    (s.call x).2.handles = s.handles := rfl

@[simp] theorem call_fst (s : Session) (x : ExecM Unit) : (s.call x).1 = (x.exec s.world).1 := by
  simp only [call]
  cases (x.exec s.world).1 <;> rfl

namespace Fits

variable {id : RunnerId} {s s' : Session}

theorem of_same (hf : s.Fits id) (hlen : s'.world.runners.length = s.world.runners.length)
    (hd : s'.depth id = s.depth id) (hh : s'.handles = s.handles) : s'.Fits id where
  runner_lt := hlen ▸ hf.runner_lt
  live i h hi := by
    rw [hh] at hi
    rw [hd]
    exact hf.live i h hi
  distinct i j h h' hi hj := by
    rw [hh] at hi hj
    exact hf.distinct i j h h' hi hj

theorem push (hf : s.Fits id) (hlen : s'.world.runners.length = s.world.runners.length)
    (hd : s'.depth id = s.depth id + 1)
    (hh : s'.handles = s.handles ++ [(⟨id, s.depth id + 1⟩, false)]) : s'.Fits id where
  runner_lt := hlen ▸ hf.runner_lt
  live i h hi := by
    rw [hh, getElem?_push_eq_some] at hi
    rcases hi with hi | ⟨-, rfl⟩
    · obtain ⟨hr, hle⟩ := hf.live i h hi
      exact ⟨hr, by omega⟩
    · exact ⟨rfl, by simp only; omega⟩
  distinct i j h h' hi hj heq := by
    rw [hh, getElem?_push_eq_some] at hi hj
    rcases hi with hi | ⟨rfl, rfl⟩ <;> rcases hj with hj | ⟨rfl, rfl⟩
    · exact hf.distinct i j h h' hi hj heq
    · have := (hf.live i h hi).2
      simp only at heq
      omega
    · have := (hf.live j h' hj).2
      simp only at heq
      omega
    · rfl

/-- Using the handle at position `i` keeps the handles fitting, when the depth stays or, the
handle being that of the innermost level, goes down by one. -/
theorem use {i : Nat} {h : TransactionHandle} (hf : s.Fits id) (hi : s.handles[i]? = some (h, false))
    (hlen : s'.world.runners.length = s.world.runners.length)
    (hh : s'.handles = s.handles.modify i (fun (h, _) => (h, true)))
    (hd : s'.depth id = s.depth id ∨ s'.depth id = s.depth id - 1 ∧ h.depth = s.depth id) :
    s'.Fits id where
  runner_lt := hlen ▸ hf.runner_lt
  live j h' hj := by
    rw [hh, getElem?_use_eq_some] at hj
    obtain ⟨hne, hj⟩ := hj
    obtain ⟨hr, hle⟩ := hf.live j h' hj
    refine ⟨hr, ?_⟩
    rcases hd with hd | ⟨hd, hdepth⟩
    · omega
    · -- the used handle was the only one for the innermost level
      have hne' : h'.depth ≠ h.depth := fun heq => hne (hf.distinct j i h' h hj hi heq)
      omega
  distinct j k h₁ h₂ hj hk heq := by
    rw [hh, getElem?_use_eq_some] at hj hk
    exact hf.distinct j k h₁ h₂ hj.2 hk.2 heq

end Fits

end ExecRequest.Session

open ExecRequest

/-- A call of a run: the session before it, the call, its outcome and the session after. -/
structure CallStep where
  before : Session
  call : RunnerCall
  outcome : OrmResult Unit
  after : Session

namespace CallStep

def of (ds : DataSource) (id : RunnerId) (s : Session) (c : RunnerCall) : CallStep :=
  ⟨s, c, (s.perform ds id c).1, (s.perform ds id c).2⟩

/-- What a call does to the depth of runner `id` and to the handles, by its kind. -/
def Moves (id : RunnerId) (t : CallStep) : Prop :=
  let d := t.before.depth id
  let d' := t.after.depth id
  t.after.world.runners.length = t.before.world.runners.length ∧
  match t.call with
  | .connect | .query _ _ | .stream _ _ => d' = d ∧ t.after.handles = t.before.handles
  | .start _ =>
    match t.outcome with
    | .ok () => d' = d + 1 ∧ t.after.handles = t.before.handles ++ [(⟨id, d + 1⟩, false)]
    | .error _ => d' = d ∧ t.after.handles = t.before.handles
  | .commit i =>
    match t.before.handles[i]? with
    | some (h, false) =>
      t.after.handles = t.before.handles.modify i (fun (h, _) => (h, true)) ∧
      (DataSource.Admits t.before.world id h →
        (t.outcome = .ok () → d' = d - 1) ∧
        (d' = d - 1 ∨ d' = d ∧ ∃ e r : OrmError, t.outcome = .error (e.withRollbackFailure r))) ∧
      (¬ DataSource.Admits t.before.world id h →
        t.after.world = t.before.world ∧ t.outcome ≠ .ok ())
    | _ => t.after = t.before
  | .rollback i =>
    match t.before.handles[i]? with
    | some (h, false) =>
      t.after.handles = t.before.handles.modify i (fun (h, _) => (h, true)) ∧
      (DataSource.Admits t.before.world id h →
        t.outcome = .ok () ∧ d' = d - 1 ∨ t.outcome ≠ .ok () ∧ d' = d) ∧
      (¬ DataSource.Admits t.before.world id h →
        t.after.world = t.before.world ∧ t.outcome ≠ .ok ())
    | _ => t.after = t.before

def Sends (ds : DataSource) (id : RunnerId) (t : CallStep) : Prop :=
  World.SentWithin (t.call.allowed ds (t.before.depth id)) t.before.world t.after.world

/-- A transaction step sends `COMMIT` only at depth one, and `ROLLBACK` only at depth one or, as
a step opening the first level, at depth zero. -/
def OutermostAtOne (ds : DataSource) (id : RunnerId) (t : CallStep) : Prop :=
  t.call.isTransactionStep →
  ∀ sent, t.after.world.driver.statements = t.before.world.driver.statements ++ sent →
    (ds.dialect.commitSql ∈ sent → t.before.depth id = 1) ∧
    (ds.dialect.rollbackSql ∈ sent →
      t.before.depth id = 1 ∨ t.before.depth id = 0 ∧ ∃ iso, t.call = .start iso)

/-! ### One call -/

section Step

open DataSource Session

variable (ds : DataSource) {id : RunnerId} {s : Session}

theorem of_moves (hid : id < s.world.runners.length) (c : RunnerCall) :
    (of ds id s c).Moves id := by
  unfold Moves of
  cases c with
  | connect =>
    obtain ⟨hlen, hdepth, -, -⟩ := ensureConnected_spec ds id s.world
    exact ⟨hlen, hdepth, rfl⟩
  | query sql params =>
    obtain ⟨hlen, hdepth, -⟩ := query_frame ds id sql params s.world
    exact ⟨hlen, hdepth, rfl⟩
  | stream sql params =>
    obtain ⟨hlen, hdepth, -⟩ := stream_frame ds id sql params s.world
    exact ⟨hlen, hdepth, rfl⟩
  | start iso =>
    obtain ⟨hlen, hcases⟩ := startTransaction_depth ds id s.world iso hid
    simp only [perform]
    rcases hout : (ds.startTransaction id iso).exec s.world with ⟨_ | h, w⟩ <;>
      rw [hout] at hlen hcases <;> simp only at hcases ⊢
    · exact ⟨hlen, hcases, trivial⟩
    · obtain ⟨rfl, hd⟩ := hcases
      exact ⟨hlen, hd, rfl⟩
  | commit i =>
    simp only [perform, withHandle]
    rcases hi : s.handles[i]? with _ | ⟨h, _ | _⟩
    · simp
    · simp only [call_world, call_handles, call_fst, Session.depth]
      by_cases hh : Admits s.world id h
      · obtain ⟨hlen, hok, hcases⟩ := commit_depth ds id s.world hh hid
        exact ⟨hlen, trivial, fun _ => ⟨hok, hcases⟩, fun hn => absurd hh hn⟩
      · obtain ⟨e, he⟩ := @commit_of_not_admits ds id h s.world hh
        rw [he]
        exact ⟨rfl, trivial, fun h1 => absurd h1 hh, fun _ => ⟨rfl, by simp⟩⟩
    · simp
  | rollback i =>
    simp only [perform, withHandle]
    rcases hi : s.handles[i]? with _ | ⟨h, _ | _⟩
    · simp
    · simp only [call_world, call_handles, call_fst, Session.depth]
      by_cases hh : Admits s.world id h
      · obtain ⟨hlen, hdepth⟩ := rollbackLevel_depth ds id s.world hid
        rw [rollback_of_admits hh]
        refine ⟨hlen, trivial, fun _ => ?_, fun hn => absurd hh hn⟩
        rcases hrb : (ds.rollbackLevel id).exec s.world with ⟨_ | u, w⟩ <;>
          rw [hrb] at hdepth <;> simp only at hdepth ⊢
        · exact .inr ⟨by simp, hdepth⟩
        · exact .inl ⟨trivial, hdepth⟩
      · obtain ⟨e, he⟩ := @rollback_of_not_admits ds id h s.world hh
        rw [he]
        exact ⟨rfl, trivial, fun h1 => absurd h1 hh, fun _ => ⟨rfl, by simp⟩⟩
    · simp

theorem Moves.fits {t : CallStep} (hm : t.Moves id) (hf : t.before.Fits id) : t.after.Fits id := by
  obtain ⟨s, c, r, s'⟩ := t
  obtain ⟨hlen, hcall⟩ := hm
  cases c with
  | connect | query _ _ | stream _ _ => exact hf.of_same hlen hcall.1 hcall.2
  | start iso =>
    cases r with
    | ok u => exact hf.push hlen hcall.1 hcall.2
    | error e => exact hf.of_same hlen hcall.1 hcall.2
  | commit i =>
    simp only at hcall
    rcases hi : s.handles[i]? with _ | ⟨h, _ | _⟩ <;> simp only [hi] at hcall
    · rw [hcall]
      exact hf
    · obtain ⟨hh, hadmits, hrejected⟩ := hcall
      by_cases ha : Admits s.world id h
      · rcases (hadmits ha).2 with hd | ⟨hd, -⟩
        · exact hf.use hi hlen hh (.inr ⟨hd, ha.2.2.2⟩)
        · exact hf.use hi hlen hh (.inl hd)
      · exact hf.use hi hlen hh (.inl (by rw [Session.depth, (hrejected ha).1]; rfl))
    · rw [hcall]
      exact hf
  | rollback i =>
    simp only at hcall
    rcases hi : s.handles[i]? with _ | ⟨h, _ | _⟩ <;> simp only [hi] at hcall
    · rw [hcall]
      exact hf
    · obtain ⟨hh, hadmits, hrejected⟩ := hcall
      by_cases ha : Admits s.world id h
      · rcases hadmits ha with ⟨-, hd⟩ | ⟨-, hd⟩
        · exact hf.use hi hlen hh (.inr ⟨hd, ha.2.2.2⟩)
        · exact hf.use hi hlen hh (.inl hd)
      · exact hf.use hi hlen hh (.inl (by rw [Session.depth, (hrejected ha).1]; rfl))
    · rw [hcall]
      exact hf

theorem of_sends (hpass : ds.HooksPass) (c : RunnerCall) : (of ds id s c).Sends ds id := by
  unfold Sends of
  have htexts := textsAt_of_pass hpass
  cases c with
  | connect => exact .of_statements_eq (ensureConnected_spec ds id s.world).2.2.2
  | query sql params =>
    obtain ⟨-, -, k, hk, t, ht, hsent⟩ := query_frame ds id sql params s.world
    have hrep : List.replicate k t = List.replicate k sql := by
      rcases Nat.eq_zero_or_pos k with rfl | hpos
      · rfl
      · obtain ⟨c, ha, rfl⟩ := ht hpos
        rw [gate_sql_of_pass hpass ha]
    exact ⟨List.replicate k sql, (List.replicate_sublist_replicate sql).2 hk, hrep ▸ hsent⟩
  | stream sql params => exact .of_statements_eq (stream_frame ds id sql params s.world).2.2
  | start iso =>
    have hsent := startTransaction_statements ds id s.world iso
    simp only [htexts, List.flatMap_singleton'] at hsent
    have hworld : (s.perform ds id (.start iso)).2.world =
        ((ds.startTransaction id iso).exec s.world).2 := by
      simp only [perform]
      split <;> rename_i heq <;> rw [heq]
    rw [hworld]
    exact hsent
  | commit i =>
    simp only [perform, withHandle]
    rcases hi : s.handles[i]? with _ | ⟨h, _ | _⟩
    · exact .of_statements_eq rfl
    · by_cases ha : Admits s.world id h
      · have hsent := commit_statements ds id s.world ha
        simp only [htexts, List.flatMap_singleton'] at hsent
        simp only [RunnerCall.allowed, call_world]
        rw [if_neg (show s.depth id ≠ 0 from ha.2.2.1)]
        exact hsent
      · obtain ⟨e, he⟩ := @commit_of_not_admits ds id h s.world ha
        exact .of_statements_eq (by simp [he])
    · exact .of_statements_eq rfl
  | rollback i =>
    simp only [perform, withHandle]
    rcases hi : s.handles[i]? with _ | ⟨h, _ | _⟩
    · exact .of_statements_eq rfl
    · by_cases ha : Admits s.world id h
      · have hsent := rollbackLevel_statements ds id s.world
        simp only [htexts] at hsent
        simp only [RunnerCall.allowed, call_world, rollback_of_admits ha]
        rw [if_neg (show s.depth id ≠ 0 from ha.2.2.1)]
        exact hsent
      · obtain ⟨e, he⟩ := @rollback_of_not_admits ds id h s.world ha
        exact .of_statements_eq (by simp [he])
    · exact .of_statements_eq rfl

end Step

theorem Sends.outermost {ds : DataSource} {id : RunnerId} {t : CallStep} (hs : t.Sends ds id) :
    t.OutermostAtOne ds id := by
  intro hstep sent heq
  obtain ⟨sent', hsub, heq'⟩ := hs
  obtain rfl : sent = sent' := List.append_cancel_left (heq.symm.trans heq')
  refine ⟨fun hc => ?_, fun hr => ?_⟩
  · rcases RunnerCall.short_mem_allowed hstep (hsub.subset hc) (by rw [Dialect.commitSql]; decide)
      with ⟨hd, -⟩ | ⟨-, hcr, -⟩
    · exact hd
    · exact absurd hcr (by rw [Dialect.commitSql, Dialect.rollbackSql]; decide)
  · rcases RunnerCall.short_mem_allowed hstep (hsub.subset hr) (by rw [Dialect.rollbackSql]; decide) with
      ⟨hd, -⟩ | ⟨hd, -, hstart⟩
    · exact .inl hd
    · exact .inr ⟨hd, hstart⟩


end CallStep

namespace ExecRequest.Session

def steps (ds : DataSource) (id : RunnerId) : Session → List RunnerCall → List CallStep
  | _, [] => []
  | s, c :: cs => CallStep.of ds id s c :: steps ds id (s.perform ds id c).2 cs

end ExecRequest.Session

/-! ### Runs -/

namespace ExecRequest.Session

variable (ds : DataSource) {id : RunnerId}

theorem fits_of_handles_nil {s : Session} (hid : id < s.world.runners.length) (hh : s.handles = []) :
    s.Fits id where
  runner_lt := hid
  live i h hi := by simp [hh] at hi
  distinct i j h h' hi := by simp [hh] at hi

theorem perform_fits {s : Session} (hf : s.Fits id) (c : RunnerCall) :
    (s.perform ds id c).2.Fits id :=
  (CallStep.of_moves ds hf.runner_lt c).fits hf

theorem runCalls_fits {s : Session} (hf : s.Fits id) (calls : List RunnerCall) :
    (s.runCalls ds id calls).Fits id := by
  induction calls generalizing s with
  | nil => exact hf
  | cons c cs ih => exact ih (perform_fits ds hf c)

theorem mem_steps {s : Session} (hf : s.Fits id) {calls : List RunnerCall} {t : CallStep}
    (ht : t ∈ s.steps ds id calls) : ∃ s' c, s'.Fits id ∧ t = CallStep.of ds id s' c := by
  induction calls generalizing s with
  | nil => cases ht
  | cons c cs ih =>
    rcases List.mem_cons.1 ht with rfl | ht
    · exact ⟨s, c, hf, rfl⟩
    · exact ih (perform_fits ds hf c) ht

/-- Along every run of calls on a runner, from a session whose handles fit it, the handles keep
fitting and each call moves the depth as its kind says. With hooks that let every statement
through, each call also sends only what its kind allows at the depth it found, `COMMIT` goes out
only at depth one, and `ROLLBACK` only at depth one or after a failed opening sequence at depth
zero. -/
theorem calls_keep_level_stack {s : Session} (hf : s.Fits id) (calls : List RunnerCall) :
    (s.runCalls ds id calls).Fits id ∧
      ∀ t ∈ s.steps ds id calls, t.before.Fits id ∧ t.Moves id ∧
        (ds.HooksPass → t.Sends ds id ∧ t.OutermostAtOne ds id) := by
  refine ⟨runCalls_fits ds hf calls, fun t ht => ?_⟩
  obtain ⟨s', c, hf', rfl⟩ := mem_steps ds hf ht
  refine ⟨hf', CallStep.of_moves ds hf'.runner_lt c, fun hpass => ?_⟩
  have hsends : (CallStep.of ds id s' c).Sends ds id := CallStep.of_sends ds hpass c
  exact ⟨hsends, hsends.outermost⟩

/-- Two nested levels on a fresh postgres runner, the inner one committed and the outer one
rolled back. -/
theorem calls_keep_level_stack_nested :
    let ds : DataSource := { dialect := .postgres, registry := {} }
    let s : Session := { world := { driver := { dialect := .postgres }, runners := [{ mode := .master }] } }
    let calls := [.start none, .start none, .commit 1, .rollback 0]
    ds.HooksPass ∧ s.Fits 0 ∧
      ((s.runCalls ds 0 calls).Fits 0 ∧
        ∀ t ∈ s.steps ds 0 calls, t.before.Fits 0 ∧ t.Moves 0 ∧
          (ds.HooksPass → t.Sends ds 0 ∧ t.OutermostAtOne ds 0)) :=
  ⟨DataSource.hooksPass_of_nil rfl, fits_of_handles_nil (by decide) rfl,
    calls_keep_level_stack _ (fits_of_handles_nil (by decide) rfl) _⟩

end ExecRequest.Session

/-- Opening the first level on postgres with an isolation level whose statement fails sends
`ROLLBACK` while the runner is still at depth zero. -/
theorem rollback_sent_at_depth_zero :
    let ds : DataSource := { dialect := .postgres, registry := {} }
    let w : World :=
      { driver :=
          { dialect := .postgres,
            responses := [⟨.success {}, 0, none, none⟩, ⟨.failure "no isolation" false, 0, none, none⟩] },
        runners := [{ mode := .master }] }
    (w.runner 0).depth = 0 ∧
      ((ds.startTransaction 0 (some .serializable)).exec w).2.driver.statements =
        ["START TRANSACTION", "SET TRANSACTION ISOLATION LEVEL SERIALIZABLE", "ROLLBACK"] := by
  decide +kernel

end EntitySql
