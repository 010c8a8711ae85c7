import EntitySql.Command.Codec
import EntitySql.Dialect.Lock
import EntitySql.Dialect.Coerce

/-!
# Requests on the dialect table

Each request names a dialect and asks one of its decisions: its capabilities, how it quotes,
shortens aliases, paginates, locks, names savepoints, concatenates and compares.
-/

namespace EntitySql

namespace Request

def dialect (req : Json) : Reply Dialect := do
  Reply.lift (Dialect.parse (← str req "dialect"))

/-- A lock mode by its name in requests. -/
def lockMode (s : String) : Reply LockMode :=
  match s with
  | "Optimistic" => .ok .optimistic
  | "PessimisticRead" => .ok .pessimisticRead
  | "PessimisticWrite" => .ok .pessimisticWrite
  | "DirtyRead" => .ok .dirtyRead
  | "PessimisticPartialWrite" => .ok .pessimisticPartialWrite
  | "PessimisticWriteOrFail" => .ok .pessimisticWriteOrFail
  | "ForNoKeyUpdate" => .ok .forNoKeyUpdate
  | "ForKeyShare" => .ok .forKeyShare
  | other => Reply.malformed ("unknown lock mode " ++ other)

/-- A policy for locked rows by its name in requests. -/
def onLocked (s : String) : Reply OnLocked :=
  match s with
  | "SkipLocked" => .ok .skipLocked
  | "NoWait" => .ok .noWait
  | other => Reply.malformed ("unknown on_locked " ++ other)

/-- An isolation level by its name in requests. -/
def isolation (s : String) : Reply Isolation :=
  match s with
  | "ReadUncommitted" => .ok .readUncommitted
  | "ReadCommitted" => .ok .readCommitted
  | "RepeatableRead" => .ok .repeatableRead
  | "Serializable" => .ok .serializable
  | other => Reply.malformed ("unknown isolation " ++ other)

/-- A column type by its name. -/
def columnType (s : String) : Reply ColumnType :=
  match ColumnType.ofName? s with
  | some t => .ok t
  | none => Reply.malformed ("unknown column type " ++ s)

end Request

/-- The name of an isolation level in requests. -/
def Isolation.name : Isolation → String
  | .readUncommitted => "ReadUncommitted"
  | .readCommitted => "ReadCommitted"
  | .repeatableRead => "RepeatableRead"
  | .serializable => "Serializable"

/-- The name of a returning style. -/
def ReturningStyle.name : ReturningStyle → String
  | .returning => "Returning"
  | .output => "Output"
  | .none => "None"

/-- The name of an upsert style. -/
def UpsertStyle.name : UpsertStyle → String
  | .onConflict => "OnConflict"
  | .onDuplicateKey => "OnDuplicateKey"
  | .unsupported => "Unsupported"

/-- The name of an insert id strategy. -/
def InsertIdStrategy.name : InsertIdStrategy → String
  | .firstOfBatch => "FirstOfBatch"
  | .lastOfBatch => "LastOfBatch"
  | .none => "None"

def Json.ofOptStr : Option String → Json
  | some s => .str s
  | none => .null

def Json.ofOptNat : Option Nat → Json
  | some n => .int n
  | none => .null

namespace DialectTable

/-- Every capability of a dialect that takes no argument. -/
def capabilities (d : Dialect) : Json :=
  let (o, c) := d.quoteChars
  let isolations : List Isolation := [.readUncommitted, .readCommitted, .repeatableRead, .serializable]
  let texts (xs : List String) : Json := .arr (xs.map .str)
  Json.ofFields [
    ("name", .str d.name), ("display", .str d.name),
    ("quote_chars", texts [String.singleton o, String.singleton c]),
    ("max_alias_length", Json.ofOptNat d.maxAliasLength),
    ("reuses_placeholders", .bool d.reusesPlaceholders),
    ("uuid_generation", .bool d.isUuidGenerationSupported),
    ("create_parameter", texts ([0, 1, 9, 10].map d.createParameter)),
    ("returning_style", .str d.returningStyle.name),
    ("upsert_style", .str d.upsertStyle.name),
    ("insert_id_strategy", .str d.insertIdStrategy.name),
    ("returning_supported", Json.ofFields [
      ("insert", .bool (d.isReturningSupported .insert)),
      ("update", .bool (d.isReturningSupported .update)),
      ("delete", .bool (d.isReturningSupported .delete))]),
    ("insert_ignore_keyword", Json.ofOptStr d.insertIgnoreKeyword),
    ("default_keyword", .str d.defaultKeyword),
    ("empty_values_clause", .str d.emptyValuesClause),
    ("current_timestamp", .str d.currentTimestamp),
    ("supports_ilike", .bool d.supportsIlike),
    ("supports_array_operators", .bool d.supportsArrayOperators),
    ("supports_update_limit", .bool d.supportsUpdateLimit),
    ("supports_savepoints", .bool d.supportsSavepoints),
    ("dual_table", Json.ofOptStr d.dualTable),
    ("commit_sql", .str d.commitSql),
    ("rollback_sql", .str d.rollbackSql),
    ("start_transaction_sql", Json.ofFields
      (("none", texts (d.startTransactionSql none)) ::
        isolations.map fun l => (l.name, texts (d.startTransactionSql (some l))))),
    ("normalize_type", Json.ofFields (ColumnType.all.map fun t => (t.name, .str (d.nativeType t)))),
    ("create_full_type", Json.ofFields (ColumnType.all.map fun t => (t.name, .str (d.fullType t))))]

/-- A lock clause as JSON. -/
def lockJson : LockClause → List (String × Json)
  | .none => [("none", .bool true)]
  | .suffix s => [("suffix", .str s)]
  | .tableHint s => [("table_hint", .str s)]

open Request in
/-- Answer a request on the dialect table, if it is one. -/
def answer? (op : String) (req : Json) : Option (Reply Json) :=
  match op with
  | "dialect_parse" => some do
    let d ← Reply.lift (Dialect.parse (← str req "name"))
    pure (Json.ofFields [("name", .str d.name), ("serde", .str d.configName)])
  | "dialect_caps" => some do
    pure (capabilities (← dialect req))
  | "escape" => some do
    let d ← dialect req
    let ident ← str req "ident"
    pure (Json.ofFields [("escape", .str (d.escape ident)), ("escape_path", .str (d.escapePath ident))])
  | "shorten_alias" => some do
    let d ← dialect req
    let name ← str req "alias"
    let column ← str? req "column"
    pure (Json.ofFields (("shortened", .str (d.shortenAlias name)) ::
      (column.toList.map fun c => ("column_alias", .str (d.buildColumnAlias name c)))))
  | "pagination" => some do
    let d ← dialect req
    let sql ← Reply.lift (d.paginationClause (← nat? req "limit") (← nat? req "offset")
      (← flag req "has_order_by" false))
    pure (.str sql)
  | "lock_clause" => some do
    let d ← dialect req
    let mode ← lockMode (← str req "mode")
    let tables ← strs (← arrOrEmpty req "tables")
    let policy ← match ← str? req "on_locked" with
      | some s => some <$> onLocked s
      | none => pure none
    let clause := match d.lockClause mode tables policy with
      | .ok c => lockJson c
      | .error e => match e.toJson with
        | .obj fields => fields
        | _ => []
    pure (Json.ofFields (clause ++ [("is_pessimistic", .bool mode.isPessimistic),
      ("mode_name", .str mode.name)]))
  | "savepoint_sql" => some do
    let d ← dialect req
    let n ← str req "name"
    pure (Json.ofFields [("create", .str (d.createSavepointSql n)),
      ("release", Json.ofOptStr (d.releaseSavepointSql n)),
      ("rollback_to", .str (d.rollbackToSavepointSql n))])
  | "concat" => some do
    let d ← dialect req
    pure (.str (d.concat (← strs (← arr req "parts"))))
  | "distinct_from" => some do
    let d ← dialect req
    pure (.str (← Reply.lift (d.distinctFrom (← str req "left") (← str req "right"))))
  | _ => none

end DialectTable

end EntitySql
