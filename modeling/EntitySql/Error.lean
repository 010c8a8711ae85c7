import EntitySql.Value.Inspect

/-!
# Errors

Every way an operation of the library can fail, as one type. `OrmError.message` gives the text of
each. The failures fall into groups: misuse of a builder (`isUsage`), names that resolve to
nothing, concurrency conflicts, execution failures, and dialects that lack a feature.

A driver failure starts as a `query` error without a statement; `withStatement` attaches the
statement that was sent and leaves every other error alone. A failure whose clean-up rollback
failed too is `rollbackFailed`; its `rootCause` is the first failure, through any nesting, and
the classifications look at the root cause.
-/

namespace EntitySql

/-- A span of time as written in diagnostics: the largest unit of seconds, milliseconds,
microseconds and nanoseconds that it reaches, with the fraction of that unit and no trailing
zeros (`0ns`, `5ms`, `1.5s`). -/
def durationText (nanos : Nat) : String :=
  let unitText (whole frac fracDigits : Nat) (suffix : String) : String :=
    let digits := (padNat fracDigits frac).toList.reverse.dropWhile (· = '0') |>.reverse
    toString whole ++ (if digits.isEmpty then "" else "." ++ String.ofList digits) ++ suffix
  if nanos ≥ 1000000000 then unitText (nanos / 1000000000) (nanos % 1000000000) 9 "s"
  else if nanos ≥ 1000000 then unitText (nanos / 1000000) (nanos % 1000000) 6 "ms"
  else if nanos ≥ 1000 then unitText (nanos / 1000) (nanos % 1000) 3 "µs"
  else toString nanos ++ "ns"

/-- A failure of the library. -/
inductive OrmError where
  | missingMainAlias
  | duplicateAlias (name : String)
  | relationCardinality (operation kind entity property : String)
  | returningNotSupported (dialect statement : String)
  | pessimisticLockTransactionRequired
  | updateValuesMissing
  | insertValuesMissing
  | missingDeleteDateColumn (entity : String)
  | usage (message : String)
  | columnNotFound (entity path : String)
  | entityIdMissing (entity : String)
  | parameterNotFound (name : String)
  | metadataNotFound (target : String)
  | optimisticLockVersionMismatch (entity expected actual : String)
  | transactionAlreadyStarted
  | transactionNotStarted
  | queryRunnerAlreadyReleased
  | query (sql : String) (params : List Value) (message : String) (transient : Bool)
  | connection (message : String)
  | pool (message : String)
  | timeout (nanos : Nat)
  | notFound (message : String)
  | tooManyRows (count : Nat)
  | decode (column message : String)
  | serialization (message : String)
  | aborted (message : String)
  | dialectUnsupported (dialect feature : String)
  | lockNotSupported (dialect mode : String)
  | optimisticLockCannotBeUsed (entity : String)
  | rollbackFailed (cause rollback : OrmError)
  deriving Inhabited

namespace OrmError

/-- The text of an error. -/
def message : OrmError → String
  | .missingMainAlias => "Cannot build query: main alias is not set (call from() first)"
  | .duplicateAlias n => "Alias \"" ++ n ++ "\" is already used in this query"
  | .relationCardinality op k e p => "Cannot use " ++ op ++ "() on " ++ k ++ " relation " ++ e ++ "." ++ p
  | .returningNotSupported d s => "RETURNING is not supported by " ++ d ++ " for " ++ s ++ " statements"
  | .pessimisticLockTransactionRequired => "Pessimistic locks require an active transaction"
  | .updateValuesMissing => "Cannot perform update query because update values are not defined"
  | .insertValuesMissing => "Cannot perform insert query because values are not defined"
  | .missingDeleteDateColumn e => "Entity " ++ e ++ " has no delete date column"
  | .usage m => "Usage error: " ++ m
  | .columnNotFound e p => "No column \"" ++ p ++ "\" found in entity " ++ e
  | .entityIdMissing e => "Cannot resolve primary key of " ++ e ++ " entity"
  | .parameterNotFound n => "Parameter \"" ++ n ++ "\" is referenced but has no value"
  | .metadataNotFound t => "No metadata for \"" ++ t ++ "\" was found"
  | .optimisticLockVersionMismatch e x a =>
    "The optimistic lock on entity " ++ e ++ " failed, version " ++ x ++ " was expected, but is actually " ++ a
  | .transactionAlreadyStarted =>
    "Transaction already started for the given connection, commit current transaction before starting a new one"
  | .transactionNotStarted =>
    "Transaction is not started yet, start transaction before committing or rolling it back"
  | .queryRunnerAlreadyReleased => "Query runner already released. Cannot run queries anymore"
  | .query sql params m _ =>
    "Query failed: " ++ m ++ "\n  sql: " ++ sql ++ "\n  params: " ++ Value.inspectList params
  | .connection m => "Connection error: " ++ m
  | .pool m => "Pool error: " ++ m
  | .timeout n => "Query timeout after " ++ durationText n
  | .notFound m => "Not found: " ++ m
  | .tooManyRows n => "Expected at most one row, got " ++ toString n
  | .decode c m => "Decode error on column '" ++ c ++ "': " ++ m
  | .serialization m => "Serialization error: " ++ m
  | .aborted m => "Aborted: " ++ m
  | .dialectUnsupported d f => f ++ " is not supported by " ++ d
  | .lockNotSupported d m => "Lock mode " ++ m ++ " is not supported by " ++ d
  | .optimisticLockCannotBeUsed e =>
    "Cannot use optimistic lock on " ++ e ++ ": it has neither a version nor an update date column"
  | .rollbackFailed c r => message c ++ " (rollback failed: " ++ message r ++ ")"

/-- The name of the kind of error. -/
def kindName : OrmError → String
  | .missingMainAlias => "MissingMainAlias"
  | .duplicateAlias _ => "DuplicateAlias"
  | .relationCardinality .. => "RelationCardinality"
  | .returningNotSupported .. => "ReturningNotSupported"
  | .pessimisticLockTransactionRequired => "PessimisticLockTransactionRequired"
  | .updateValuesMissing => "UpdateValuesMissing"
  | .insertValuesMissing => "InsertValuesMissing"
  | .missingDeleteDateColumn _ => "MissingDeleteDateColumn"
  | .usage _ => "Usage"
  | .columnNotFound .. => "ColumnNotFound"
  | .entityIdMissing _ => "EntityIdMissing"
  | .parameterNotFound _ => "ParameterNotFound"
  | .metadataNotFound _ => "MetadataNotFound"
  | .optimisticLockVersionMismatch .. => "OptimisticLockVersionMismatch"
  | .transactionAlreadyStarted => "TransactionAlreadyStarted"
  | .transactionNotStarted => "TransactionNotStarted"
  | .queryRunnerAlreadyReleased => "QueryRunnerAlreadyReleased"
  | .query .. => "Query"
  | .connection _ => "Connection"
  | .pool _ => "Pool"
  | .timeout _ => "Timeout"
  | .notFound _ => "NotFound"
  | .tooManyRows _ => "TooManyRows"
  | .decode .. => "Decode"
  | .serialization _ => "Serialization"
  | .aborted _ => "Aborted"
  | .dialectUnsupported .. => "DialectUnsupported"
  | .lockNotSupported .. => "LockNotSupported"
  | .optimisticLockCannotBeUsed _ => "OptimisticLockCannotBeUsed"
  | .rollbackFailed .. => "RollbackFailed"

def driver (message : String) (transient : Bool) : OrmError := .query "" [] message transient

/-- Attach the statement to a driver failure that has none; other errors pass unchanged. -/
def withStatement (e : OrmError) (sql : String) (params : List Value) : OrmError :=
  match e with
  | .query "" _ m t => .query sql params m t
  | other => other

def withRollbackFailure (e rollback : OrmError) : OrmError := .rollbackFailed e rollback

/-- The copy of an error that a builder reports each time it is compiled after a failed call: each
kind rebuilt with its own fields, a failed rollback copied on both sides. The error a driver
raised underneath a driver failure is not part of this type, so the copy drops nothing here. -/
def replicate : OrmError → OrmError
  | .missingMainAlias => .missingMainAlias
  | .duplicateAlias n => .duplicateAlias n
  | .relationCardinality op k e p => .relationCardinality op k e p
  | .returningNotSupported d s => .returningNotSupported d s
  | .pessimisticLockTransactionRequired => .pessimisticLockTransactionRequired
  | .updateValuesMissing => .updateValuesMissing
  | .insertValuesMissing => .insertValuesMissing
  | .missingDeleteDateColumn e => .missingDeleteDateColumn e
  | .usage m => .usage m
  | .columnNotFound e p => .columnNotFound e p
  | .entityIdMissing e => .entityIdMissing e
  | .parameterNotFound n => .parameterNotFound n
  | .metadataNotFound t => .metadataNotFound t
  | .optimisticLockVersionMismatch e x a => .optimisticLockVersionMismatch e x a
  | .transactionAlreadyStarted => .transactionAlreadyStarted
  | .transactionNotStarted => .transactionNotStarted
  | .queryRunnerAlreadyReleased => .queryRunnerAlreadyReleased
  | .query sql params m t => .query sql params m t
  | .connection m => .connection m
  | .pool m => .pool m
  | .timeout n => .timeout n
  | .notFound m => .notFound m
  | .tooManyRows n => .tooManyRows n
  | .decode c m => .decode c m
  | .serialization m => .serialization m
  | .aborted m => .aborted m
  | .dialectUnsupported d f => .dialectUnsupported d f
  | .lockNotSupported d m => .lockNotSupported d m
  | .optimisticLockCannotBeUsed e => .optimisticLockCannotBeUsed e
  | .rollbackFailed c r => .rollbackFailed (replicate c) (replicate r)

def rootCause : OrmError → OrmError
  | .rollbackFailed c _ => rootCause c
  | e => e

def rollbackFailure? : OrmError → Option OrmError
  | .rollbackFailed _ r => some r
  | _ => none

/-- The statement of the root cause, if it is a driver failure. -/
def sql? (e : OrmError) : Option String :=
  match e.rootCause with
  | .query sql .. => some sql
  | _ => none

/-- Whether the root cause is a misuse of a builder. -/
def isUsage (e : OrmError) : Bool :=
  match e.rootCause with
  | .missingMainAlias | .duplicateAlias _ | .relationCardinality .. | .returningNotSupported ..
  | .pessimisticLockTransactionRequired | .updateValuesMissing | .insertValuesMissing
  | .missingDeleteDateColumn _ | .usage _ => true
  | _ => false

/-- Whether the root cause is a driver failure marked transient. -/
def isTransient (e : OrmError) : Bool :=
  match e.rootCause with
  | .query _ _ _ t => t
  | _ => false

/-- Whether the root cause is a missing record. -/
def isNotFound (e : OrmError) : Bool :=
  match e.rootCause with
  | .notFound _ => true
  | _ => false

/-- Whether the root cause is a timeout. -/
def isTimeout (e : OrmError) : Bool :=
  match e.rootCause with
  | .timeout _ => true
  | _ => false

/-- Whether the root cause is an optimistic lock conflict. -/
def isVersionMismatch (e : OrmError) : Bool :=
  match e.rootCause with
  | .optimisticLockVersionMismatch .. => true
  | _ => false

end OrmError

/-- A result of the library. -/
abbrev OrmResult (α : Type) := Except OrmError α

end EntitySql
