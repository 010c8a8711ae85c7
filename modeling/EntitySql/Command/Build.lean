import EntitySql.Command.Conditions
import EntitySql.Command.Entities
import EntitySql.Command.DialectTable
import EntitySql.Query.Builder
import EntitySql.Value.Tagged

/-!
# Requests that build queries

A `build` request makes a builder over a data source (its entities, table prefix and dialect),
applies calls to it one after the other, and answers a snapshot after each: the SQL with named
parameters, the SQL with the dialect's placeholders, the values bound and the parameters; or
the failure that compiling reports. A call that fails at once answers its failure with the
snapshot of the builder as it stands.
-/

namespace EntitySql

/-- What builders need of a data source: its entities, its dialect, and whether results are
cached unless a query says otherwise. -/
structure Source where
  registry : Registry
  dialect : Dialect
  cacheAlways : Bool := false

namespace BuildRequest

/-- The data source of a request: the entities (with those the options register), the table
prefix, the dialect or its override, and the cache default. A failed registration is a
library failure. -/
def sourceOf (req : Json) : Reply (OrmResult Source) := do
  let d ← Request.dialect req
  let reg ← Entities.registryOf req
  let options := (Request.opt? req "options").getD (.obj [])
  let extra ← (← Request.arrOrEmpty options "register").mapM Entities.entityOf
  match Registry.registerAll reg extra with
  | .error e => pure (.error e)
  | .ok reg =>
    let reg := match ← Request.str? options "prefix" with
      | some pre => reg.withTablePrefix pre
      | none => reg
    let d ← match ← Request.str? options "dialect_override" with
      | some name => Reply.lift (Dialect.parse name)
      | none => pure d
    let cacheAlways ← match Request.opt? options "cache" with
      | some c => Request.flag c "always" false
      | none => pure false
    pure (.ok { registry := reg, dialect := d, cacheAlways })

/-- The snapshot of a builder that compiles to SQL. -/
def sqlSnapshot (reg : Registry) (s : QueryState) : Json :=
  match s.query reg with
  | .error e => Json.ofFields [("error", e.toJson)]
  | .ok q =>
    let parameters := Json.ofFields (s.parameters.map fun (k, v) => (k, v.toTagged))
    match s.dialect.bindNamed q s.parameters s.nativeParameters with
    | .ok (sql, params) =>
      Json.ofFields [("query", .str q), ("sql", .str sql), ("params", .arr (params.map Value.toTagged)),
        ("parameters", parameters)]
    | .error e => Json.ofFields [("query", .str q), ("parameters", parameters), ("error", e.toJson)]

/-- The snapshot of a builder: a relation builder shows its loader, a soft delete whether it
restores. -/
def snapshot (src : Source) (s : QueryState) : Json :=
  match s.kind with
  | .relation =>
    match RelationQuery.loader src.registry src.cacheAlways s with
    | .ok l => Json.ofFields [("loader", sqlSnapshot src.registry l)]
    | .error e => Json.ofFields [("error", e.toJson)]
  | .softDelete | .restore =>
    match sqlSnapshot src.registry s with
    | .obj fs => .obj (Json.insertField "is_restore" (.bool (s.kind = .restore)) fs)
    | other => other
  | _ => sqlSnapshot src.registry s

/-- The builder a request asks for. -/
def builderOf (src : Source) (spec : Json) : Reply QueryState := do
  let reg := src.registry
  let d := src.dialect
  match ← Request.str spec "kind" with
  | "select" =>
    match Request.opt? spec "from" with
    | some (.arr [.str target, .str name]) => pure (Builder.select reg d src.cacheAlways (some (target, name)))
    | some _ => Reply.malformed "from must be [target, alias]"
    | none => pure (Builder.select reg d src.cacheAlways none)
  | "insert" => pure (Builder.insert d)
  | "update" => pure (Builder.update reg d (← Request.str spec "target"))
  | "delete" => pure (Builder.delete reg d (← Request.str spec "target"))
  | "relation" => pure (RelationQuery.new reg d (← Request.str spec "entity") (← Request.str spec "property"))
  | other => Reply.malformed ("unknown builder kind " ++ other)

/-- A direction by its name, ascending by default. -/
def sortOrder (j : Json) : Reply SortOrder := do
  match ← Request.str? j "order" with
  | none | some "ASC" => pure .asc
  | some "DESC" => pure .desc
  | some other => Reply.malformed ("unknown order " ++ other)

/-- The place of nulls by its name. -/
def nullsOrder (j : Json) : Reply NullsOrder := do
  match ← Request.str j "nulls" with
  | "FIRST" => pure .first
  | "LAST" => pure .last
  | other => Reply.malformed ("unknown nulls " ++ other)

def objectField (j : Json) (k : String) : Reply Fields := do
  ConditionRequest.fieldsOf (← Request.field j k)

def objectsField (j : Json) (k : String) : Reply (List Fields) := do
  (← Request.arr j k).mapM ConditionRequest.fieldsOf

def textsField (j : Json) (k : String) : Reply (List String) := do
  Request.strs (← Request.arr j k)

def sequence (steps : List (QueryM Unit)) : QueryM Unit := steps.forM id

/-- A join call: direction, whether selected and whether it maps one or many. -/
def joinCall (name : String) : Option (JoinDirection × Bool × Option Bool) :=
  match name with
  | "inner_join" => some (.inner, false, none)
  | "left_join" => some (.left, false, none)
  | "inner_join_and_select" => some (.inner, true, none)
  | "left_join_and_select" => some (.left, true, none)
  | "inner_join_and_map_one" => some (.inner, true, some false)
  | "left_join_and_map_one" => some (.left, true, some false)
  | "inner_join_and_map_many" => some (.inner, true, some true)
  | "left_join_and_map_many" => some (.left, true, some true)
  | _ => none

/-- The expected version of an optimistic lock. -/
def lockVersion (j : Json) : Reply LockVersion := do
  match ← Request.int? j "version" with
  | some n => pure (.version n)
  | none =>
    match Timestamp.parseRfc3339 (← Request.str j "date") with
    | .ok t => pure (.date t)
    | .error e => Reply.malformed e.message

/-- A call every SQL builder takes. -/
def commonCall (name : String) (j : Json) : Option (Reply (QueryM Unit)) :=
  match name with
  | "set_parameter" => some do
    let n ← Request.str j "name"
    let v ← Request.value (← Request.field j "value")
    pure (QueryM.setParameter n v)
  | "set_parameters" => some do
    let ps ← Request.namedValues (← Request.field j "params")
    pure (QueryM.mergeParameters ps)
  | "set_native_parameters" => some do
    let vs ← Request.values (← Request.arr j "values")
    pure (modify fun s => { s with nativeParameters := vs })
  | "disable_escaping" => some do
    let b ← Request.flag j "disabled" true
    pure (modify fun s => { s with disableEscaping := b })
  | "use_transaction" => some do
    let b ← Request.flag j "enabled" true
    pure (modify fun s => { s with useTransaction := b })
  | "call_listeners" => some do
    let b ← Request.flag j "enabled" true
    pure (modify fun s => { s with callListeners := b })
  | _ => none

/-- A call of the write builders: returning, entity updates, ordering and limits. -/
def writeCall (name : String) (j : Json) : Option (Reply (QueryM Unit)) :=
  match name with
  | "returning" => some do
    let cs ← textsField j "columns"
    pure (modify fun s => { s with returning := some (.columns cs) })
  | "returning_raw" => some do
    let sql ← Request.str j "sql"
    pure (modify fun s => { s with returning := some (.raw sql) })
  | "update_entity" => some do
    let b ← Request.flag j "enabled" true
    pure (modify fun s => { s with updateEntity := b })
  | "where_entity" => some do
    pure (Update.whereEntity (← objectsField j "entities"))
  | "order_by" => some do
    pure (Select.orderBy { expression := ← Request.str j "expression", order := ← sortOrder j })
  | "limit" => some do
    let n ← Request.nat j "value"
    pure (modify fun s => { s with limit := some n })
  | _ => none

mutual

/-- A call of a select builder. -/
def selectCall (src : Source) : Nat → String → Json → Option (Reply (QueryM Unit))
  | 0, _, _ => some (Reply.malformed "request nested too deeply")
  | fuel + 1, name, j =>
    let reg := src.registry
    match joinCall name with
    | some (direction, selected, mapping) => some do
      let target ← Request.str j "target"
      let aliasName ← Request.str j "alias"
      let condition ← match Request.opt? j "condition" with
        | some c => some <$> ConditionRequest.rawCondition c
        | none => pure none
      let mapTo ← match mapping with
        | some many => do pure (some (← Request.str j "map_to", many))
        | none => pure none
      pure (Select.join reg direction target aliasName condition selected mapTo)
    | none =>
    match name with
    | "select" => some do pure (Select.select (← textsField j "selections"))
    | "add_select" => some do pure (Select.addSelect (← Request.str j "selection"))
    | "add_select_as" => some do
      pure (Select.addSelectAs (← Request.str j "selection") (← Request.str j "alias"))
    | "distinct" => some do pure (Select.distinct (← Request.flag j "value" true))
    | "from" => some do pure (Select.from reg (← Request.str j "target") (← Request.str j "alias"))
    | "add_from" => some do pure (Select.addFrom reg (← Request.str j "target") (← Request.str j "alias"))
    | "from_sub_query" => some do
      let build ← selectCalls src fuel (← Request.arr j "calls")
      pure (Select.fromSubQuery reg build (← Request.str j "alias"))
    | "left_join_sub_query" => some do
      let build ← selectCalls src fuel (← Request.arr j "calls")
      let condition ← ConditionRequest.rawCondition (← Request.field j "condition")
      pure (Select.leftJoinSubQuery reg build (← Request.str j "alias") condition)
    | "sub_query_where" => some do
      let build ← selectCalls src fuel (← Request.arr j "calls")
      let k ← match ← Request.str? j "mode" with
        | some "where" => pure Connective.first
        | none | some "and" => pure .and
        | some "or" => pure .or
        | some other => Reply.malformed ("unknown mode " ++ other)
      pure (Builder.subQueryWhere reg (← Request.str j "template") build k)
    | "having" | "and_having" | "or_having" => some do
      let k : Connective := if name = "having" then .first else if name = "and_having" then .and else .or
      pure (Select.having k (← ConditionRequest.input (fuel + 1) (← Request.field j "input")))
    | "group_by" => some do pure (Select.groupBy (← Request.str j "expression"))
    | "add_group_by" => some do pure (Select.addGroupBy (← Request.str j "expression"))
    | "order_by" => some do
      pure (Select.orderBy { expression := ← Request.str j "expression", order := ← sortOrder j })
    | "add_order_by" => some do
      pure (Select.addOrderBy { expression := ← Request.str j "expression", order := ← sortOrder j })
    | "add_order_by_nulls" => some do
      let o : Ordering :=
        { expression := ← Request.str j "expression", order := ← sortOrder j, nulls := some (← nullsOrder j) }
      pure (Select.addOrderBy o)
    | "limit" => some do
      let n ← Request.nat j "value"
      pure (modify fun s => { s with limit := some n })
    | "offset" => some do
      let n ← Request.nat j "value"
      pure (modify fun s => { s with offset := some n })
    | "skip" => some do
      let n ← Request.nat j "value"
      pure (modify fun s => { s with skip := some n })
    | "take" => some do
      let n ← Request.nat j "value"
      pure (modify fun s => { s with take := some n })
    | "set_lock" => some do
      let m ← Request.lockMode (← Request.str j "mode")
      pure (modify fun s => { s with lockMode := some m })
    | "set_optimistic_lock" => some do
      let v ← lockVersion j
      pure (modify fun s => { s with lockMode := some .optimistic, lockVersion := some v })
    | "set_on_locked" => some do
      let o ← Request.onLocked (← Request.str j "value")
      pure (modify fun s => { s with onLocked := some o })
    | "set_lock_tables" => some do
      let ts ← textsField j "aliases"
      pure (modify fun s => { s with lockTables := ts })
    | "with_deleted" => some (pure (modify fun s => { s with withDeleted := true }))
    | "cache" => some do
      let b ← Request.flag j "enabled" true
      pure (modify fun s => { s with cache := b })
    | "cache_for" => some do
      let ms ← Request.nat j "ms"
      pure (modify fun s => { s with cache := true, cacheDuration := some ms })
    | "cache_with_id" => some do
      let id ← Request.str j "id"
      let ms ← Request.nat j "ms"
      pure (modify fun s => { s with cache := true, cacheId := some id, cacheDuration := some ms })
    | "load_relation_id_and_map" => some do
      pure (Select.loadRelationIds (← Request.str j "map_to") (← Request.str j "relation"))
    | "load_relation_count_and_map" => some do
      pure (Select.loadRelationCount (← Request.str j "map_to") (← Request.str j "relation"))
    | "to_insert" => some (pure (Builder.convert .insert))
    | "to_update" => some do pure (Builder.toUpdate (← objectField j "values"))
    | "to_delete" => some (pure (Builder.convert .delete))
    | "to_soft_delete" => some (pure (Builder.convert .softDelete))
    | "to_restore" => some (pure (Builder.convert .restore))
    | "to_relation" => some do pure (Builder.toRelation (← Request.str j "property"))
    | _ => none

/-- The calls of a select sub-builder, as one step. -/
def selectCalls (src : Source) : Nat → List Json → Reply (QueryM Unit)
  | 0, _ => Reply.malformed "request nested too deeply"
  | fuel + 1, calls => do
    let steps ← calls.mapM fun j => do
      let name ← Request.str j "call"
      match commonCall name j with
      | some r => r
      | none =>
        match ConditionRequest.connective name with
        | some _ => do pure (applyWhereCall (← ConditionRequest.whereCall (fuel + 1) j))
        | none =>
          match selectCall src fuel name j with
          | some r => r
          | none => Reply.malformed ("unknown select call " ++ name)
    pure (sequence steps)

end

/-- A call of an insert builder. -/
def insertCall (src : Source) (name : String) (j : Json) : Option (Reply (QueryM Unit)) :=
  match name with
  | "into_table" => some do pure (Insert.intoTable src.registry (← Request.str j "target"))
  | "values" => some do pure (Insert.values (← objectsField j "rows"))
  | "value" => some do pure (Insert.values [← objectField j "row"])
  | "or_ignore" => some (pure Insert.orIgnore)
  | "on_conflict" => some do pure (Insert.onConflict (← Request.str j "statement"))
  | "or_update" => some do
    let columns ← textsField j "columns"
    let target ← textsField j "conflict_target"
    let skip ← Request.flag j "skip" false
    pure (Insert.orUpdate { columns, conflictTarget := target, skipUnchanged := skip })
  | "returning" | "returning_raw" | "update_entity" => writeCall name j
  | _ => none

/-- A call of an update builder. -/
def updateCall (name : String) (j : Json) : Option (Reply (QueryM Unit)) :=
  match name with
  | "set" => some do pure (Update.set (← objectField j "values"))
  | "set_raw" => some do pure (Update.setRaw (← Request.str j "property") (← Request.str j "sql"))
  | _ => writeCall name j

/-- A call of a builder of the given kind as a step. -/
def call (src : Source) (fuel : Nat) (kind : QueryKind) (j : Json) : Reply (QueryM Unit) := do
  let name ← Request.str j "call"
  let unknown : Reply (QueryM Unit) := Reply.malformed ("unknown call " ++ name)
  let orUnknown := fun (r : Option (Reply (QueryM Unit))) => r.getD unknown
  if kind = .relation then
    match name with
    | "of" => pure (RelationQuery.of (← Request.field j "entities"))
    | "use_transaction" => do
      let b ← Request.flag j "enabled" true
      pure (modify fun s => { s with useTransaction := b })
    | _ => unknown
  else
    match commonCall name j with
    | some r => r
    | none =>
      if (ConditionRequest.connective name).isSome ∧ kind ≠ .insert then do
        pure (applyWhereCall (← ConditionRequest.whereCall fuel j))
      else
        match kind with
        | .select => orUnknown (selectCall src fuel name j)
        | .insert => orUnknown (insertCall src name j)
        | .update => orUnknown (updateCall name j)
        | .delete =>
          if name = "from" then do pure (Builder.deleteFrom src.registry (← Request.str j "target"))
          else if name = "update_entity" then unknown
          else orUnknown (writeCall name j)
        | _ => orUnknown (writeCall name j)

/-- Answer a `build` request. -/
def answer (req : Json) : Reply Json := do
  match ← sourceOf req with
  | .error e => pure e.toJson
  | .ok src =>
    let start ← builderOf src (← Request.field req "builder")
    let fuel := req.nodes
    let (snaps, _) ← (← Request.arrOrEmpty req "calls").foldlM
      (fun (acc : List Json × QueryState) j => do
        let step ← call src fuel acc.2.kind j
        let (r, s) := step.run.run acc.2
        let snap := match r with
          | .ok () => snapshot src s
          | .error e => Json.ofFields [("call_error", e.toJson), ("state", snapshot src s)]
        pure (acc.1 ++ [snap], s))
      ([snapshot src start], start)
    pure (Json.ofFields [("steps", .arr snaps)])

def answer? (op : String) (req : Json) : Option (Reply Json) :=
  if op = "build" then some (answer req) else none

end BuildRequest

end EntitySql
