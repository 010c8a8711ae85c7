import Mathlib
import EntitySql.Proofs.Runner.Levels

/-!
# The retry budget

A statement that fails transiently is sent again as the retry policy of its data source allows.
This module gives the policy's waits in closed form and says what the retry loop of a runner
does with them, whatever the database answers.

* The wait before retry `a` (counting from 0) is the initial backoff doubled `a` times, the
  product stopping at the longest duration, then capped by the maximum backoff; there is no
  wait, and no retry, once `a + 1` reaches the number of attempts (`RetryPolicy.delayFor?_eq`).
* The loop sends the statement at most `max 1 maxAttempts` times. It sends it again only after
  a transient failure while retries are allowed, and ends with the last answer as it came; it
  stops on a failure it could retry only when the attempts are spent
  (`DataSource.sendWithRetry_tries`). Inside a transaction retries are not allowed, so a
  statement is sent at most once (`DataSource.query_once_in_transaction`).

The database answers from its script, so the answers the runner takes form a tape
(`DataSource.answerAt`) that the loop reads from its start.
-/

namespace EntitySql

open ExecM

section Saturation

theorem saturatingMul_le_saturatingMul {d d' n n' : Nat} (hd : d ≤ d') (hn : n ≤ n') :
    saturatingMul d n ≤ saturatingMul d' n' :=
  min_le_min_right _ (Nat.mul_le_mul hd hn)

theorem saturatingMul_eq_of_lt {d n m : Nat} (h : saturatingMul d n < m)
    (hm : m ≤ maxDuration) : saturatingMul d n = d * n := by
  unfold saturatingMul at *
  omega

end Saturation

namespace RetryPolicy

theorem min_doubled (maximum : Nat) (hmax : maximum ≤ maxDuration) (d k : Nat) :
    min (doubled maximum d k) maximum = min (saturatingMul d (2 ^ k)) maximum := by
  induction k generalizing d with
  | zero =>
    unfold doubled saturatingMul
    omega
  | succ k ih =>
    have hmono : saturatingMul d 2 ≤ saturatingMul d (2 ^ (k + 1)) :=
      saturatingMul_le_saturatingMul le_rfl (Nat.le_self_pow (Nat.succ_ne_zero k) 2)
    simp only [doubled]
    split
    · -- the first doubling reached the maximum, and so did the power
      omega
    · rename_i hbelow
      have hexact := saturatingMul_eq_of_lt (Nat.lt_of_not_le hbelow) hmax
      rw [ih, hexact, saturatingMul, saturatingMul, Nat.mul_assoc, ← Nat.pow_succ']

theorem delayFor?_eq (p : RetryPolicy) (hmax : p.maxBackoff ≤ maxDuration) (a : Nat) :
    p.delayFor? a = if p.maxAttempts ≤ a + 1 then Option.none
      else some (min (saturatingMul p.initialBackoff (2 ^ a)) p.maxBackoff) := by
  unfold delayFor?
  rw [min_doubled p.maxBackoff hmax]

theorem delayFor?_eq_none_iff (p : RetryPolicy) (a : Nat) :
    p.delayFor? a = Option.none ↔ p.maxAttempts ≤ a + 1 := by
  unfold delayFor?
  split <;> simp_all

end RetryPolicy

namespace ScriptedDriver

/-- What a response answers a statement with, and after how long; once the script is spent,
an empty result at once. -/
def answerOf : Option ScriptedResponse → OrmResult DriverResult × Nat
  | some r => (r.reply.outcome, r.delay)
  | none => (.ok {}, 0)

theorem query_answer (d : ScriptedDriver) (sql : String) (params : List Value) :
    (d.query sql params).1 = answerOf d.responses[0]? := by
  unfold query next record
  cases d.responses <;> rfl

@[simp] theorem query_responses (d : ScriptedDriver) (sql : String) (params : List Value) :
    (d.query sql params).2.responses = d.responses.tail := by
  unfold query next record
  cases d.responses <;> rfl

end ScriptedDriver

/-- Whether the retry loop tries again after an answer: a failure whose root cause is a
transient driver failure, while retries are allowed. -/
def asksRetry (allowRetry : Bool) : OrmResult DriverResult → Bool
  | .ok _ => false
  | .error e => allowRetry && e.isTransient

namespace DataSource

/-- The answer the runner takes for the `i`th statement it sends to a database from now on,
counting from 0: the script's response, read with the timeout. -/
def answerAt (ds : DataSource) (d : ScriptedDriver) (i : Nat) : OrmResult DriverResult :=
  ds.delivered (ScriptedDriver.answerOf d.responses[i]?)

theorem sendOnce_answer (ds : DataSource) (sql : String) (params : List Value) (w : World) :
    (ds.sendOnce sql params).exec w =
      (ds.answerAt w.driver 0, { w with driver := (w.driver.query sql params).2 }) := by
  rw [sendOnce_exec, ScriptedDriver.query_answer]
  rfl

theorem answerAt_query (ds : DataSource) (d : ScriptedDriver) (sql : String)
    (params : List Value) (i : Nat) :
    ds.answerAt (d.query sql params).2 i = ds.answerAt d (i + 1) := by
  unfold answerAt
  rw [ScriptedDriver.query_responses, List.getElem?_tail]

theorem sendWithRetry_cases (ds : DataSource) (sql : String) (params : List Value)
    (allowRetry : Bool) (fuel n : Nat) (w : World) :
    let w₁ : World := { w with driver := (w.driver.query sql params).2 }
    ((ds.sendWithRetry sql params allowRetry fuel n).exec w = (ds.answerAt w.driver 0, w₁) ∧
        (asksRetry allowRetry (ds.answerAt w.driver 0) = true →
          fuel = 0 ∨ ds.options.retry.delayFor? n = none)) ∨
      ∃ fuel' ev, fuel = fuel' + 1 ∧ ds.options.retry.delayFor? n ≠ none ∧
        asksRetry allowRetry (ds.answerAt w.driver 0) = true ∧
        (ds.sendWithRetry sql params allowRetry fuel n).exec w =
          (ds.sendWithRetry sql params allowRetry fuel' (n + 1)).exec
            { w₁ with events := w₁.events ++ [ev] } := by
  intro w₁
  rw [sendWithRetry.eq_1 ds sql params allowRetry fuel n, exec_bind, exec_attempt,
    sendOnce_answer]
  dsimp only
  rcases ha : ds.answerAt w.driver 0 with e | v
  · cases hr : asksRetry allowRetry (.error e)
    · -- a failure that the loop does not retry
      have hc : (!allowRetry || !e.isTransient) = true := by
        cases ht : e.isTransient <;> cases allowRetry <;> simp_all [asksRetry]
      left
      simp [hc, w₁]
    · have hc : (!allowRetry || !e.isTransient) = false := by
        cases ht : e.isTransient <;> cases allowRetry <;> simp_all [asksRetry]
      simp only [hc, Bool.false_eq_true, if_false]
      rcases fuel with _ | fuel'
      · left
        simp [w₁]
      · cases hd : ds.options.retry.delayFor? n with
        | none =>
          left
          simp [w₁]
        | some delay =>
          right
          exact ⟨fuel', _, rfl, by simp, trivial, by dsimp only; rw [exec_bind, exec_emit]⟩
  · left
    simp [asksRetry, w₁]

/-- What the retry loop, started at attempt `n` in world `w`, did when it sent the statement `k`
times and ended with `out`: it read `k` answers off the tape, every answer but the last asked for
a retry, the last is the outcome, and it stopped on an answer that asked for a retry only when
the attempts were spent. -/
structure Tries (ds : DataSource) (sql : String) (allowRetry : Bool) (n : Nat) (w : World)
    (out : OrmResult DriverResult × World) (k : Nat) : Prop where
  pos : 0 < k
  within : n + k ≤ max (n + 1) ds.options.retry.maxAttempts
  sent : out.2.driver.statements = w.driver.statements ++ List.replicate k sql
  read : out.2.driver.responses = w.driver.responses.drop k
  retried : ∀ i, i + 1 < k → asksRetry allowRetry (ds.answerAt w.driver i) = true
  last : out.1 = ds.answerAt w.driver (k - 1)
  spent : asksRetry allowRetry out.1 = true → n + k = max (n + 1) ds.options.retry.maxAttempts

theorem tries_one {ds : DataSource} {sql : String} {params : List Value} {allowRetry : Bool}
    {fuel n : Nat} {w : World} (hfuel : ds.options.retry.maxAttempts ≤ n + fuel + 1)
    (hstop : asksRetry allowRetry (ds.answerAt w.driver 0) = true →
      fuel = 0 ∨ ds.options.retry.delayFor? n = none) :
    Tries ds sql allowRetry n w
      (ds.answerAt w.driver 0, { w with driver := (w.driver.query sql params).2 }) 1 where
  pos := Nat.one_pos
  within := by omega
  sent := by simp
  read := by simp
  retried i hi := absurd hi (by omega)
  last := rfl
  spent hask := by
    rcases hstop hask with hzero | hnone
    · omega
    · have := (RetryPolicy.delayFor?_eq_none_iff _ _).mp hnone
      omega

theorem tries_succ {ds : DataSource} {sql : String} {params : List Value} {allowRetry : Bool}
    {n k : Nat} {w : World} {ev : TraceEvent} {out : OrmResult DriverResult × World}
    (hdelay : ds.options.retry.delayFor? n ≠ none)
    (hask : asksRetry allowRetry (ds.answerAt w.driver 0) = true)
    (h : Tries ds sql allowRetry (n + 1)
      { w with driver := (w.driver.query sql params).2, events := w.events ++ [ev] } out k) :
    Tries ds sql allowRetry n w out (k + 1) := by
  have hattempts : n + 1 < ds.options.retry.maxAttempts := by
    have := mt (RetryPolicy.delayFor?_eq_none_iff _ _).mpr hdelay
    omega
  have htape (i : Nat) : ds.answerAt (w.driver.query sql params).2 i = ds.answerAt w.driver (i + 1) :=
    answerAt_query ds w.driver sql params i
  refine ⟨Nat.succ_pos k, by have := h.within; omega, ?_, ?_, ?_, ?_, ?_⟩
  · rw [h.sent, ScriptedDriver.statements_query, List.replicate_succ]
    simp
  · rw [h.read, ScriptedDriver.query_responses, List.drop_tail]
  · intro i hi
    cases i with
    | zero => exact hask
    | succ i => rw [← htape]; exact h.retried i (by omega)
  · rw [h.last, htape]
    congr 1
    have := h.pos
    omega
  · intro hlast
    have := h.spent hlast
    omega

theorem sendWithRetry_from (ds : DataSource) (sql : String) (params : List Value)
    (allowRetry : Bool) (fuel n : Nat) (w : World)
    (hfuel : ds.options.retry.maxAttempts ≤ n + fuel + 1) :
    ∃ k, Tries ds sql allowRetry n w ((ds.sendWithRetry sql params allowRetry fuel n).exec w) k := by
  induction fuel generalizing n w with
  | zero =>
    rcases sendWithRetry_cases ds sql params allowRetry 0 n w with
      ⟨hout, hstop⟩ | ⟨fuel', ev, hzero, -⟩
    · exact ⟨1, hout ▸ tries_one hfuel hstop⟩
    · exact absurd hzero.symm (Nat.succ_ne_zero fuel')
  | succ fuel ih =>
    rcases sendWithRetry_cases ds sql params allowRetry (fuel + 1) n w with
      ⟨hout, hstop⟩ | ⟨fuel', ev, hsucc, hdelay, hask, hout⟩
    · exact ⟨1, hout ▸ tries_one hfuel hstop⟩
    · obtain rfl : fuel = fuel' := Nat.succ.inj hsucc
      obtain ⟨k, hk⟩ := ih (n + 1)
        { w with driver := (w.driver.query sql params).2, events := w.events ++ [ev] } (by omega)
      exact ⟨k + 1, hout ▸ tries_succ hdelay hask hk⟩

theorem sendWithRetry_tries (ds : DataSource) (sql : String) (params : List Value)
    (allowRetry : Bool) (w : World) :
    ∃ k ≤ max 1 ds.options.retry.maxAttempts, Tries ds sql allowRetry 0 w
      ((ds.sendWithRetry sql params allowRetry ds.options.retry.maxAttempts 0).exec w) k := by
  obtain ⟨k, hk⟩ := sendWithRetry_from ds sql params allowRetry ds.options.retry.maxAttempts 0 w
    (by omega)
  exact ⟨k, by simpa using hk.within, hk⟩

theorem execute_sends_at_most_once (ds : DataSource) (id : RunnerId) (sql : String)
    (params : List Value) (w : World) :
    ∃ k ≤ 1, ∃ t : String, ((ds.execute id sql params false).exec w).2.driver.statements =
      w.driver.statements ++ List.replicate k t := by
  obtain ⟨-, hspec⟩ := execute_spec ds id sql params w
  cases ha : ds.gate (w.runner id).depth sql params with
  | error e =>
    simp only [ha] at hspec
    exact ⟨0, Nat.zero_le 1, sql, by rw [hspec.2]; simp⟩
  | ok c =>
    simp only [ha] at hspec
    split at hspec
    · exact ⟨1, le_rfl, c.sql, by rw [hspec.2, ScriptedDriver.statements_query]; simp⟩
    · exact ⟨0, Nat.zero_le 1, sql, by rw [hspec.2]; simp⟩

/-- Inside a transaction retries are not allowed: a statement run on a runner whose depth is not
0 is sent at most once. -/
theorem query_once_in_transaction (ds : DataSource) (id : RunnerId) (sql : String)
    (params : List Value) (w : World) (hdepth : (w.runner id).depth ≠ 0) :
    ∃ k ≤ 1, ∃ t : String, ((ds.query id sql params).exec w).2.driver.statements =
      w.driver.statements ++ List.replicate k t := by
  obtain ⟨-, hkept, -, hstmts⟩ := ensureConnected_spec ds id w
  simp only [query, exec_bind]
  rcases hconn : (ds.ensureConnected id).exec w with ⟨_ | u, w₁⟩ <;>
    rw [hconn] at hkept hstmts
  · exact ⟨0, Nat.zero_le 1, sql, by simp [hstmts]⟩
  · -- connecting kept the depth, so the statement goes out without retries
    have hno : decide ((w₁.runner id).depth = 0) = false := by simp [hkept, hdepth]
    simp only [exec_runner, hno]
    obtain ⟨k, hk, t, hsent⟩ := execute_sends_at_most_once ds id sql params w₁
    exact ⟨k, hk, t, by rw [hsent, hstmts]⟩

end DataSource

/-- The retry policy and the retry loop of a runner. The wait before retry `a` is the initial
backoff doubled `a` times, saturating at the longest duration, then capped by the maximum
backoff, and there is none once `a + 1` reaches the number of attempts. Whatever the database
answers, the loop sends the statement at most `max 1 maxAttempts` times, tries again only after
an answer that asks for a retry (a transient failure while retries are allowed), and ends with
the last answer as it came, stopping on one that asks for a retry only when the attempts are
spent. Retries are not allowed inside a transaction: there a statement is sent at most once. -/
theorem retries_follow_backoff_policy :
    (∀ p : RetryPolicy, p.maxBackoff ≤ maxDuration → ∀ a, p.delayFor? a =
      if p.maxAttempts ≤ a + 1 then none
      else some (min (saturatingMul p.initialBackoff (2 ^ a)) p.maxBackoff)) ∧
    (∀ (ds : DataSource) (sql : String) (params : List Value) (allowRetry : Bool) (w : World),
      ∃ k ≤ max 1 ds.options.retry.maxAttempts, DataSource.Tries ds sql allowRetry 0 w
        ((ds.sendWithRetry sql params allowRetry ds.options.retry.maxAttempts 0).exec w) k) ∧
    (∀ (ds : DataSource) (id : RunnerId) (sql : String) (params : List Value) (w : World),
      (w.runner id).depth ≠ 0 → ∃ k ≤ 1, ∃ t : String,
        ((ds.query id sql params).exec w).2.driver.statements =
          w.driver.statements ++ List.replicate k t) :=
  ⟨RetryPolicy.delayFor?_eq, DataSource.sendWithRetry_tries, DataSource.query_once_in_transaction⟩

/-- The doubling schedule of ten to fifty milliseconds over six attempts reaches its cap at the
fourth retry; a statement on a runner inside a transaction goes out once. -/
theorem retries_follow_backoff_policy_capped :
    let p := (RetryPolicy.new 6).withBackoff 10000000 50000000
    let ds : DataSource := { dialect := .postgres, registry := {} }
    let w : World :=
      { driver := { dialect := .postgres }, runners := [{ mode := .master, depth := 1 }] }
    p.maxBackoff ≤ maxDuration ∧ p.delayFor? 3 = some 50000000 ∧
      (w.runner 0).depth ≠ 0 ∧ ∃ k ≤ 1, ∃ t : String,
        ((ds.query 0 "SELECT 1" []).exec w).2.driver.statements =
          w.driver.statements ++ List.replicate k t :=
  ⟨by decide, by rw [retries_follow_backoff_policy.1 _ (by decide) 3]; decide, by decide,
    retries_follow_backoff_policy.2.2 _ 0 "SELECT 1" [] _ (by decide)⟩

end EntitySql
