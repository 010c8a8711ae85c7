import EntitySql.Error

/-!
# Chains of failures

A failure whose clean-up rollback failed too is wrapped with the rollback's failure, and the
wrapping may repeat along a chain of clean-ups. The root cause looks through every such wrapping
to the failure that started the chain (`OrmError.rootCause_foldl_withRollbackFailure`).

A builder keeps its first failure and reports a copy of it on every compile. The copy is the
error itself (`OrmError.replicate_eq_self`): each kind is copied into itself with its fields in
place, through nested failed rollbacks, so the copy keeps the kind, the text and the
classification that retries and callers read.

A driver failure gets its statement once: after the first statement is attached, a later one
changes nothing (`OrmError.withStatement_withStatement`).
-/

namespace EntitySql

namespace OrmError

@[simp] theorem replicate_eq_self (e : OrmError) : e.replicate = e := by
  induction e with
  | rollbackFailed c r ihc ihr => rw [replicate, ihc, ihr]
  | _ => rfl

@[simp] theorem rootCause_withRollbackFailure (e r : OrmError) :
    (e.withRollbackFailure r).rootCause = e.rootCause := rfl

theorem rootCause_foldl_withRollbackFailure (rs : List OrmError) (e : OrmError) :
    (rs.foldl withRollbackFailure e).rootCause = e.rootCause := by
  induction rs generalizing e with
  | nil => rfl
  | cons r rs ih => rw [List.foldl_cons, ih, rootCause_withRollbackFailure]

theorem withStatement_query (sql : String) (params : List Value) (m : String) (t : Bool)
    (s : String) (ps : List Value) :
    (OrmError.query sql params m t).withStatement s ps =
      if sql = "" then .query s ps m t else .query sql params m t := by
  by_cases h : sql = ""
  · subst h
    rfl
  · simp [withStatement, h]

theorem withStatement_withStatement (e : OrmError) {s₁ : String} (h : s₁ ≠ "")
    (p₁ : List Value) (s₂ : String) (p₂ : List Value) :
    (e.withStatement s₁ p₁).withStatement s₂ p₂ = e.withStatement s₁ p₁ := by
  cases e with
  | query sql params m t =>
    by_cases hsql : sql = ""
    · rw [withStatement_query, if_pos hsql, withStatement_query, if_neg h]
    · rw [withStatement_query, if_neg hsql, withStatement_query, if_neg hsql]
  | _ => rfl

end OrmError

/-- The algebra of failure chains. A chain of failed rollbacks keeps the root cause of the failure
it started from; the copy a builder reports keeps the kind, the text, the classification as
transient or as misuse, and the kind of the root cause, through nested failed rollbacks; and a
statement attached to a failure is not replaced by a later one. -/
theorem failure_chains_keep_their_cause :
    (∀ (e : OrmError) (rs : List OrmError),
      (rs.foldl OrmError.withRollbackFailure e).rootCause = e.rootCause) ∧
    (∀ e : OrmError, e.replicate.kindName = e.kindName ∧ e.replicate.message = e.message ∧
      e.replicate.isTransient = e.isTransient ∧ e.replicate.isUsage = e.isUsage ∧
      e.replicate.rootCause.kindName = e.rootCause.kindName) ∧
    (∀ (e : OrmError) (s₁ : String) (p₁ : List Value) (s₂ : String) (p₂ : List Value),
      s₁ ≠ "" → (e.withStatement s₁ p₁).withStatement s₂ p₂ = e.withStatement s₁ p₁) :=
  ⟨fun e rs => OrmError.rootCause_foldl_withRollbackFailure rs e,
    fun e => by simp,
    fun e _ p₁ s₂ p₂ h => OrmError.withStatement_withStatement e h p₁ s₂ p₂⟩

/-- A driver failure that got its statement keeps it when the runner attaches another. -/
theorem failure_chains_keep_their_cause_select :
    "SELECT 1" ≠ "" ∧
      ((OrmError.driver "lost connection" true).withStatement "SELECT 1" []).withStatement
          "SELECT 2" [] =
        (OrmError.driver "lost connection" true).withStatement "SELECT 1" [] :=
  ⟨by decide, failure_chains_keep_their_cause.2.2 _ _ _ _ _ (by decide)⟩

end EntitySql
