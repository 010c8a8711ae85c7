import EntitySql.Dialect.Basic

/-!
# Row locks

The row locks a `SELECT` may ask for, and where each dialect writes them: after the pagination
(`FOR UPDATE …`), as a hint after every table reference (`WITH (UPDLOCK, ROWLOCK)`), or not at
all. A mode a dialect cannot express is refused with the dialect and the mode named.
-/

namespace EntitySql

/-- A row lock requested on a query. -/
inductive LockMode where
  /-- A version check on the client after loading; no SQL. -/
  | optimistic
  | pessimisticRead
  | pessimisticWrite
  /-- Read rows not yet committed. -/
  | dirtyRead
  /-- A write lock that skips locked rows. -/
  | pessimisticPartialWrite
  /-- A write lock that fails on locked rows. -/
  | pessimisticWriteOrFail
  | forNoKeyUpdate
  | forKeyShare
  deriving DecidableEq, Repr, Inhabited

/-- What to do with a row another transaction holds. -/
inductive OnLocked where
  | skipLocked
  | noWait
  deriving DecidableEq, Repr, Inhabited

/-- Where the lock goes in the statement. -/
inductive LockClause where
  | none
  /-- Text appended after pagination. -/
  | suffix (sql : String)
  /-- Text placed after every table reference. -/
  | tableHint (sql : String)
  deriving DecidableEq, Repr, Inhabited

namespace LockMode

/-- The name of a lock mode in messages. -/
def name : LockMode → String
  | optimistic => "optimistic"
  | pessimisticRead => "pessimistic_read"
  | pessimisticWrite => "pessimistic_write"
  | dirtyRead => "dirty_read"
  | pessimisticPartialWrite => "pessimistic_partial_write"
  | pessimisticWriteOrFail => "pessimistic_write_or_fail"
  | forNoKeyUpdate => "for_no_key_update"
  | forKeyShare => "for_key_share"

def isPessimistic : LockMode → Bool
  | optimistic | dirtyRead => false
  | _ => true

/-- The two shorthand modes as a write lock with their policy for locked rows. -/
def expand (m : LockMode) (onLocked : Option OnLocked) : LockMode × Option OnLocked :=
  match m with
  | pessimisticPartialWrite => (pessimisticWrite, some .skipLocked)
  | pessimisticWriteOrFail => (pessimisticWrite, some .noWait)
  | m => (m, onLocked)

end LockMode

/-- The words for a policy on locked rows, as most dialects write it. -/
def OnLocked.suffix : Option OnLocked → String
  | some .skipLocked => " SKIP LOCKED"
  | some .noWait => " NOWAIT"
  | none => ""

namespace Dialect

/-- The lock clause of a mode. `tables` are escaped aliases for `FOR UPDATE OF`. -/
def lockClause (d : Dialect) (mode : LockMode) (tables : List String)
    (onLocked : Option OnLocked) : OrmResult LockClause :=
  let refuse : OrmResult LockClause := .error (.lockNotSupported d.name mode.name)
  if mode = .optimistic then .ok .none
  else
    let (m, onLocked) := mode.expand onLocked
    match d with
    | msSql =>
      match m, onLocked with
      | .dirtyRead, _ => .ok (.tableHint "WITH (NOLOCK)")
      | .pessimisticRead, none => .ok (.tableHint "WITH (HOLDLOCK, ROWLOCK)")
      | .pessimisticWrite, none => .ok (.tableHint "WITH (UPDLOCK, ROWLOCK)")
      | .pessimisticWrite, some .skipLocked => .ok (.tableHint "WITH (UPDLOCK, ROWLOCK, READPAST)")
      | _, _ => refuse
    | _ =>
      if m = .dirtyRead then .ok .none
      else if d.isPostgresFamily ∨ d.isMySqlFamily then
        if d = mariaDb ∧ m = .pessimisticRead then
          if !tables.isEmpty ∨ onLocked.isSome then refuse
          else .ok (.suffix " LOCK IN SHARE MODE")
        else
          let base : Option String :=
            match m with
            | .pessimisticRead => some " FOR SHARE"
            | .pessimisticWrite => some " FOR UPDATE"
            | .forNoKeyUpdate => if d = postgres then some " FOR NO KEY UPDATE" else none
            | .forKeyShare => if d = postgres then some " FOR KEY SHARE" else none
            | _ => none
          match base with
          | none => refuse
          | some base =>
            if !tables.isEmpty ∧ d = mariaDb then refuse
            else
              let ofTables := if tables.isEmpty then "" else " OF " ++ ", ".intercalate tables
              .ok (.suffix (base ++ ofTables ++ OnLocked.suffix onLocked))
      else if d = oracle then
        if m ≠ .pessimisticWrite then refuse
        else .ok (.suffix (" FOR UPDATE" ++ OnLocked.suffix onLocked))
      else if d = sapHana then
        let base : Option String :=
          match m with
          | .pessimisticRead => some " FOR SHARE LOCK"
          | .pessimisticWrite => some " FOR UPDATE"
          | _ => none
        match base with
        | none => refuse
        | some base =>
          let tail := match onLocked with
            | some .noWait => " NOWAIT"
            | some .skipLocked => " IGNORE LOCKED"
            | none => ""
          .ok (.suffix (base ++ tail))
      else refuse

end Dialect

end EntitySql
