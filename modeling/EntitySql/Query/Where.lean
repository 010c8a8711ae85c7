import EntitySql.Query.State

/-!
# Building conditions

This module turns the forms in which conditions are given into bound `Condition`s.

*Binding an operator* gives each value a made-up parameter. A value compared with a known column
is first converted to the column's stored form (`Dialect.toStored`); patterns and array operands
are bound as given. An empty `IN` list binds nothing and matches no row.

*A `FindWhere`* is read against an alias. Without an entity every path is a column name. With
one, a path names a column, an owning to-one relation (compared through its join columns), or
an embedded object (its entries are paths under it); a nested condition on a relation is read
against the alias that joins that relation, or, for an owning to-one relation not joined, on its
join columns by the referenced property. An entry that compares with null is `IS NULL`. No
entries at all is `1=1`.

*A bracket group* is built in a fresh state over the same aliases and joins; its parameters are
kept even when it fails, and its first failure is the failure of the group.

*A condition on ids* matches the primary keys of given entities: `IN` with the values written
as literals when all are numbers, with a bound array otherwise, and for a composite key one
alternative of equalities per entity. No ids match no row.

Each WHERE call runs with `QueryM.record`: a clause is added only when it was built.
-/

namespace EntitySql

/-- The stored form of a value compared with a column; null and values without a column stay. -/
def prepareCompared (d : Dialect) (column : Option Column) (v : Value) : Value :=
  match column with
  | some c => if v.isNull then v else Dialect.toStored d c.type v.toJson
  | none => v

def fillTemplate (sql : String) : List (Nat × String) → String
  | [] => sql
  | (i, name) :: rest => fillTemplate (Text.replaceAll sql ("\x7b" ++ toString i ++ "\x7d") (":" ++ name)) rest

namespace Op

mutual

/-- Bind the values of an operator, converting them for the column when one is known. -/
def bind (column : Option Column) : Op → QueryM BoundOp
  | .eq v => do pure (.eq (← QueryM.bindValue (prepareCompared (← get).dialect column v)))
  | .ne v => do pure (.ne (← QueryM.bindValue (prepareCompared (← get).dialect column v)))
  | .gt v => do pure (.gt (← QueryM.bindValue (prepareCompared (← get).dialect column v)))
  | .gte v => do pure (.gte (← QueryM.bindValue (prepareCompared (← get).dialect column v)))
  | .lt v => do pure (.lt (← QueryM.bindValue (prepareCompared (← get).dialect column v)))
  | .lte v => do pure (.lte (← QueryM.bindValue (prepareCompared (← get).dialect column v)))
  | .like v => do pure (.like (← QueryM.bindValue v))
  | .ilike v => do pure (.ilike (← QueryM.bindValue v))
  | .inList [] => pure .emptyIn
  | .inList vs => do
    let d := (← get).dialect
    pure (.inList (← QueryM.bindValue (.array (vs.map (prepareCompared d column)))))
  | .between lo hi => do
    let d := (← get).dialect
    let a ← QueryM.bindValue (prepareCompared d column lo)
    let b ← QueryM.bindValue (prepareCompared d column hi)
    pure (.between a b)
  | .isNull => pure .isNull
  | .any vs => do pure (.any (← QueryM.bindValue (.array vs)))
  | .arrayContains v => do pure (.arrayContains (← QueryM.bindValue v))
  | .arrayContainedBy v => do pure (.arrayContainedBy (← QueryM.bindValue v))
  | .arrayOverlap v => do pure (.arrayOverlap (← QueryM.bindValue v))
  | .raw template params => do
    let names ← params.mapM QueryM.bindValue
    pure (.raw (fillTemplate template ((List.range names.length).zip names)))
  | .not inner => do pure (.not (← bind column inner))
  | .and ops => do pure (.and (← bindAll column ops))
  | .or ops => do pure (.or (← bindAll column ops))

/-- Bind several operators in order. -/
def bindAll (column : Option Column) : List Op → QueryM (List BoundOp)
  | [] => pure []
  | op :: rest => do
    let first ← bind column op
    let others ← bindAll column rest
    pure (first :: others)

end

end Op

/-- A comparison of a column of an alias; comparing with null is `IS NULL`. -/
def predicate (aliasName column : String) (known : Option Column) (op : Op) : QueryM Condition := do
  let bound ← match op with
    | .eq .null => pure BoundOp.isNull
    | other => other.bind known
  pure (.predicate (some aliasName) column bound)

/-- A comparison of the one column a property path names. -/
def lowerColumn (aliasName : String) (e : Entity) (path : String) (op : Op) :
    QueryM (List Condition) := do
  match e.findColumnsByPath path with
  | [] => throw (.columnNotFound e.name path)
  | [c] => pure [← predicate aliasName c.databaseName (some c) op]
  | _ => throw (.usage ("property " ++ e.name ++ "." ++ path ++ " maps to several columns"))

/-- Comparisons of the join columns of an owning to-one relation, by referenced property. -/
def lowerJoinKeys (aliasName : String) (e : Entity) (path : String) :
    List (String × FindValue) → QueryM (List Condition)
  | [] => pure []
  | (referenced, value) :: rest => do
    let refused : OrmError :=
      .usage ("relation " ++ e.name ++ "." ++ path ++ " must be joined to filter on \"" ++
        referenced ++ "\"")
    let column ← match e.columns.find? fun c =>
        c.relation = some path ∧ c.referencedProperty = some referenced with
      | some c => pure c
      | none => throw refused
    let op ← match value with
      | .value v => pure (Op.eq v)
      | .op o => pure o
      | .nested _ => throw refused
    let first ← predicate aliasName column.databaseName (some column) op
    let others ← lowerJoinKeys aliasName e path rest
    pure (first :: others)

/-- The path of an entry under an optional prefix. -/
def underPrefix (pre : Option String) (path : String) : String :=
  match pre with
  | some p => p ++ "." ++ path
  | none => path

mutual

/-- The condition of a `FindWhere` read against an alias. -/
def resolveFindWhere (aliasName : String) (f : FindWhere) : QueryM Condition := do
  let a ← QueryM.lift ((← get).aliases.get aliasName)
  let parts ← lowerEntries aliasName a.entity none f
  pure (match parts with
    | [] => .verbatim "1=1"
    | [c] => c
    | cs => .and cs)

/-- The conditions of entries, their paths under a prefix. -/
def lowerEntries (aliasName : String) (known : Option Entity) (pre : Option String) :
    List (String × FindValue) → QueryM (List Condition)
  | [] => pure []
  | (path, value) :: rest => do
    let first ← lowerEntry aliasName known (underPrefix pre path) value
    let others ← lowerEntries aliasName known pre rest
    pure (first ++ others)

/-- The conditions of one entry. -/
def lowerEntry (aliasName : String) (known : Option Entity) (path : String) :
    FindValue → QueryM (List Condition)
  | .nested inner => do
    match known with
    | none => throw (.usage ("nested condition on \"" ++ path ++ "\" needs an entity-bound alias"))
    | some e =>
      match e.findRelation? path with
      | some r =>
        match (← get).findRelationJoin? aliasName path with
        | some j => pure [← resolveFindWhere j.name inner]
        | none =>
          if !r.isToOneOwner then
            throw (.usage ("relation " ++ e.name ++ "." ++ path ++ " must be joined to filter on it"))
          else lowerJoinKeys aliasName e path inner
      | none => lowerEntries aliasName known (some path) inner
  | .value v => do
    match known with
    | none => pure [← predicate aliasName path none (.eq v)]
    | some e => lowerColumn aliasName e path (.eq v)
  | .op o => do
    match known with
    | none => pure [← predicate aliasName path none o]
    | some e => lowerColumn aliasName e path o

end

/-- The condition matching the primary keys of entities given by id. -/
def whereIdsCondition (ids : List Json) : QueryM Condition := do
  let a ← QueryM.mainAlias
  let e ← QueryM.lift a.metadata
  let d := (← get).dialect
  let idMaps ← ids.mapM fun id =>
    match e.ensureIdMap? id with
    | some m => pure m
    | none => throw (OrmError.entityIdMissing e.name)
  if idMaps.isEmpty then return .never
  let valueOf := fun (c : Column) (m : Fields) =>
    Dialect.toStored d c.type ((Json.findField? c.propertyPath m).getD .null)
  match e.primaryColumns with
  | [c] =>
    let values := idMaps.map (valueOf c)
    let op ← match values.mapM Value.numericLiteral? with
      | some literals => pure (BoundOp.inLiteral literals)
      | none => do pure (BoundOp.inList (← QueryM.bindValue (.array values)))
    pure (.predicate (some a.name) c.databaseName op)
  | primaries =>
    let alternatives ← idMaps.mapM fun m => do
      let keys ← primaries.mapM fun c => do
        let n ← QueryM.bindValue (valueOf c m)
        pure (Condition.predicate (some a.name) c.databaseName (.eq n))
      pure (Condition.and keys)
    pure (.or alternatives)

/-- A condition as given to a WHERE or HAVING call. -/
inductive WhereInput where
  | raw (c : RawCondition)
  | find (f : FindWhere)
  | anyOf (fs : List FindWhere)
  /-- A group built by WHERE calls, negated or not. -/
  | brackets (calls : List (Connective × WhereInput ⊕ Connective × List Json)) (negate : Bool)
  deriving Inhabited

/-- A WHERE call: a condition, or the ids of entities, joined by a connective; the first
connective starts the clauses afresh. -/
abbrev WhereCall := Connective × WhereInput ⊕ Connective × List Json

/-- Add a clause built by a step, after clearing the clauses for a first one. -/
def pushWhere (k : Connective) (step : QueryM Condition) : QueryM Unit := do
  if k = .first then modify fun s => { s with wheres := [] }
  match ← QueryM.record step with
  | some c => modify fun s => { s with wheres := s.wheres ++ [(k, c)] }
  | none => pure ()

mutual

/-- The condition of an input. -/
def lowerCondition : WhereInput → QueryM Condition
  | .raw rc => do
    QueryM.mergeParameters rc.params
    pure (if rc.verbatim then .verbatim rc.sql else .raw rc.sql)
  | .find f => do
    let a ← QueryM.mainAlias
    resolveFindWhere a.name f
  | .anyOf fs => do
    let a ← QueryM.mainAlias
    let cs ← fs.mapM (resolveFindWhere a.name)
    pure (.or cs)
  | .brackets calls negate => do
    let s ← get
    let child := (applyWhereCalls calls).run.run s.deriveChild |>.2
    set { s with parameters := mergeParams s.parameters child.parameters, counter := child.counter }
    match child.buildError with
    | some e => throw e
    | none => pure (.group child.wheres negate)

/-- Run WHERE calls in order. -/
def applyWhereCalls : List WhereCall → QueryM Unit
  | [] => pure ()
  | .inl (k, input) :: rest => do
    pushWhere k (lowerCondition input)
    applyWhereCalls rest
  | .inr (k, ids) :: rest => do
    pushWhere k (whereIdsCondition ids)
    applyWhereCalls rest

end

def applyWhereCall (call : WhereCall) : QueryM Unit := applyWhereCalls [call]

end EntitySql
