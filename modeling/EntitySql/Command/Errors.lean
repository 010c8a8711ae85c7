import EntitySql.Command.Entities
import EntitySql.Command.DialectTable
import EntitySql.Query.State

/-!
# Requests on errors and alias registries

An `error` request builds one library error from its description and shows it: its encoding,
its text, its root cause and rollback failure, its statement, how it is classified, and the copy
a builder reports after keeping it as its first failure.

An `aliases` request runs steps on one alias registry and shows the registry after each.
-/

namespace EntitySql

namespace ErrorRequest

/-- An error from its description. -/
def errorOf : Nat → Json → Reply OrmError
  | 0, _ => Reply.malformed "request nested too deeply"
  | fuel + 1, spec => do
    let text := fun (k : String) => Request.strOrEmpty spec k
    let e : OrmError ← match ← Request.str spec "kind" with
      | "MissingMainAlias" => pure .missingMainAlias
      | "PessimisticLockTransactionRequired" => pure .pessimisticLockTransactionRequired
      | "UpdateValuesMissing" => pure .updateValuesMissing
      | "InsertValuesMissing" => pure .insertValuesMissing
      | "TransactionAlreadyStarted" => pure .transactionAlreadyStarted
      | "TransactionNotStarted" => pure .transactionNotStarted
      | "QueryRunnerAlreadyReleased" => pure .queryRunnerAlreadyReleased
      | "DuplicateAlias" => do pure (.duplicateAlias (← text "name"))
      | "MissingDeleteDateColumn" => do pure (.missingDeleteDateColumn (← text "entity"))
      | "Usage" => do pure (.usage (← text "message"))
      | "ColumnNotFound" => do pure (.columnNotFound (← text "entity") (← text "path"))
      | "EntityIdMissing" => do pure (.entityIdMissing (← text "entity"))
      | "ParameterNotFound" => do pure (.parameterNotFound (← text "name"))
      | "MetadataNotFound" => do pure (.metadataNotFound (← text "target"))
      | "OptimisticLockCannotBeUsed" => do pure (.optimisticLockCannotBeUsed (← text "entity"))
      | "RelationCardinality" => do
        pure (.relationCardinality (← text "operation") (← text "relation_kind") (← text "entity")
          (← text "property"))
      | "ReturningNotSupported" => do pure (.returningNotSupported (← text "dialect") (← text "statement"))
      | "LockNotSupported" => do pure (.lockNotSupported (← text "dialect") (← text "mode"))
      | "OptimisticLockVersionMismatch" => do
        pure (.optimisticLockVersionMismatch (← text "entity") (← text "expected") (← text "actual"))
      | "Query" => do pure (OrmError.driver (← text "message") (← Request.flag spec "transient" false))
      | "Connection" => do pure (.connection (← text "message"))
      | "Pool" => do pure (.pool (← text "message"))
      | "NotFound" => do pure (.notFound (← text "message"))
      | "Serialization" => do pure (.serialization (← text "message"))
      | "Aborted" => do pure (.aborted (← text "message"))
      | "Timeout" => do pure (.timeout ((← Request.nat spec "ms") * 1000000))
      | "TooManyRows" => do pure (.tooManyRows (← Request.nat spec "count"))
      | "Decode" => do pure (.decode (← text "column") (← text "message"))
      | "DialectUnsupported" => do pure (.dialectUnsupported (← text "dialect") (← text "feature"))
      | "Json" => do
        match Json.parse (← text "text") with
        | .error err => pure (.serialization err.message)
        | .ok _ => Reply.malformed "the text parses"
      | "RollbackFailed" => do
        let cause ← errorOf fuel (← Request.field spec "cause")
        let rollback ← errorOf fuel (← Request.field spec "rollback")
        pure (cause.withRollbackFailure rollback)
      | other => Reply.malformed ("unknown error kind " ++ other)
    match Request.opt? spec "with_statement" with
    | some st => do
      let params ← Request.values (← Request.arrOrEmpty st "params")
      pure (e.withStatement (← Request.str st "sql") params)
    | none => pure e

def shown (e : OrmError) : Json :=
  Json.ofFields [("error", e.toJson), ("display", .str e.message)]

/-- Answer an `error` request. -/
def answer (req : Json) : Reply Json := do
  let fuel := req.nodes
  let e ← errorOf fuel (← Request.field req "error")
  let later ← match Request.opt? req "later" with
    | some l => some <$> errorOf fuel l
    | none => pure none
  let kept := (QueryState.new .postgres .select).fail e
  let kept := match later with
    | some l => kept.fail l
    | none => kept
  let reported := match kept.check with
    | .error r => r
    | .ok () => e
  pure (Json.ofFields [("error", e.toJson), ("display", .str e.message),
    ("root_cause", .str e.rootCause.kindName),
    ("rollback_failure", match e.rollbackFailure? with
      | some r => r.toJson
      | none => .null),
    ("sql", Json.ofOptStr e.sql?),
    ("is_usage", .bool e.isUsage), ("is_transient", .bool e.isTransient),
    ("is_not_found", .bool e.isNotFound), ("is_timeout", .bool e.isTimeout),
    ("is_version_mismatch", .bool e.isVersionMismatch),
    ("replicated", shown reported), ("cloned", reported.toJson)])

end ErrorRequest

namespace AliasRequest

/-- The name of an alias kind. -/
def kindName : AliasKind → String
  | .source => "from"
  | .join => "join"
  | .other => "other"

/-- An alias as JSON. -/
def aliasJson (a : Alias) : Json :=
  Json.ofFields [("name", .str a.name), ("kind", .str (kindName a.kind)),
    ("entity", Json.ofOptStr (a.entity.map (·.name))), ("table", Json.ofOptStr a.tablePath),
    ("sub_query", Json.ofOptStr a.subQuery), ("has_metadata", .bool a.hasEntity)]

def stepJson (as : Aliases) (result : Json) : Json :=
  Json.ofFields [("result", result), ("len", .int as.items.length), ("is_empty", .bool as.items.isEmpty),
    ("has_main", .bool as.hasMain), ("aliases", .arr (as.items.map aliasJson))]

/-- A result or its error. -/
def resultJson {α : Type} (r : OrmResult α) (f : α → Json) : Json :=
  match r with
  | .ok a => Json.ofFields [("ok", f a)]
  | .error e => Json.ofFields [("error", e.toJson)]

/-- Run one step: the registry after it and the step's answer. -/
def step (reg : Registry) (as : Aliases) (j : Json) : Reply (Aliases × Json) := do
  match ← Request.str j "do" with
  | "create" =>
    let kind ← match ← Request.str? j "kind" with
      | none | some "other" => pure AliasKind.other
      | some "from" => pure .source
      | some "join" => pure .join
      | some other => Reply.malformed ("unknown alias kind " ++ other)
    let entity ← match ← Request.str? j "entity" with
      | some n => pure (some (reg.get n))
      | none => pure none
    match entity with
    | some (.error e) => pure (as, Json.ofFields [("error", e.toJson)])
    | _ =>
      let name ← Request.str? j "name"
      let tablePath ← Request.str? j "table"
      let subQuery ← Request.str? j "sub_query"
      let spec : AliasSpec :=
        { kind, name, entity := entity.bind fun r => r.toOption, tablePath, subQuery }
      match as.create spec with
      | .ok (as', a) => pure (as', stepJson as' (Json.ofFields [("ok", .str a.name)]))
      | .error e => pure (as, stepJson as (Json.ofFields [("error", e.toJson)]))
  | "set_main" =>
    match as.setMain (← Request.str j "name") with
    | .ok as' => pure (as', stepJson as' (Json.ofFields [("ok", .null)]))
    | .error e => pure (as, stepJson as (Json.ofFields [("error", e.toJson)]))
  | "main" => pure (as, stepJson as (resultJson as.mainAlias fun a => .str a.name))
  | "get" =>
    let r := as.get (← Request.str j "name")
    pure (as, stepJson as (resultJson r fun a =>
      Json.ofFields [("name", .str a.name),
        ("metadata", match a.metadata with
          | .ok e => .str e.name
          | .error e => Json.ofFields [("error", e.toJson)])]))
  | other => Reply.malformed ("unknown alias step " ++ other)

/-- Answer an `aliases` request. -/
def answer (req : Json) : Reply Json := do
  let reg ← Entities.registryOf req
  let (_, answers) ← (← Request.arrOrEmpty req "steps").foldlM (fun (acc : Aliases × List Json) j => do
    let (as, a) ← step reg acc.1 j
    pure (as, acc.2 ++ [a])) ({}, [])
  pure (.arr answers)

end AliasRequest

/-- The handler of `error` and `aliases` requests. -/
def ErrorRequest.answer? (op : String) (req : Json) : Option (Reply Json) :=
  if op = "error" then some (ErrorRequest.answer req)
  else if op = "aliases" then some (AliasRequest.answer req)
  else none

end EntitySql
