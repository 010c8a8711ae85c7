import EntitySql.Query.Where
import EntitySql.Query.Clauses

/-!
# Updates, deletes, soft deletes and restores

An update assigns columns: the properties of a given object (each bound to `orm_update_i`, in
the order of the object's keys) and raw SQL for chosen properties; a raw assignment wins over a
bound one of the same column. The version column is increased and the update date set to the
current time unless they are assigned. A soft delete sets the delete date column to the current
time, a restore sets it to null, with the same automatic assignments. A delete has no
assignments. All of them filter by the WHERE clauses (columns without an alias prefix) and may
read written rows back; `ORDER BY` and `LIMIT` are written where the dialect has them.

An update of an entity refuses a relation other than an owning to-one relation and a property
without columns; virtual and read-only columns and properties the object does not hold are
skipped.
-/

namespace EntitySql

def updateParameter (i : Nat) : String := "orm_update_" ++ toString i

def putLast {α : Type} (xs : List (String × α)) (k : String) (v : α) : List (String × α) :=
  xs.filter (·.1 ≠ k) ++ [(k, v)]

namespace QueryState

/-- The stored values an entity object assigns, by database name. -/
def entityAssignments (s : QueryState) (e : Entity) (values : Fields) :
    OrmResult (List (String × Value)) :=
  values.foldlM (fun out (property, _) => do
    if let some r := e.findRelation? property then
      if !r.isToOneOwner then
        throw (.usage ("cannot set " ++ r.kind.name ++ " relation " ++ e.name ++ "." ++ property ++
          " in an update; use the relation builder"))
    let columns := e.findColumnsByPath property
    if columns.isEmpty then throw (.columnNotFound e.name property)
    pure (columns.foldl (fun out c =>
      if c.isVirtual ∨ !c.isUpdate then out
      else match c.getValue? values with
        | some v => putLast out c.databaseName (Dialect.toStored s.dialect c.type v)
        | none => out) out)) []

/-- The version increase and update date an update sets unless they are assigned. -/
def automaticAssignments (s : QueryState) (assigned : List (String × String)) : List String :=
  match s.mainEntity? with
  | none => []
  | some e =>
    let free := fun (c : Column) => !assigned.any (·.1 = c.databaseName)
    let version := match e.versionColumn? with
      | some c => if free c then
          [s.escape c.databaseName ++ " = " ++ s.escape c.databaseName ++ " + 1"] else []
      | none => []
    let date := match e.updateDateColumn? with
      | some c => if free c then [s.escape c.databaseName ++ " = " ++ s.dialect.currentTimestamp] else []
      | none => []
    version ++ date

/-- An update statement with given assignments. -/
def updateStatement (s : QueryState) (sets : List String) : OrmResult String := do
  let returning ← s.returningColumns .update
  let table ← s.mainTable
  let whereSql ← s.compileWhere false
  let limitSql ← s.writeLimitClause
  pure ("UPDATE " ++ table ++ " SET " ++ ", ".intercalate sets ++ s.outputClause .update returning ++
    whereSql ++ limitSql ++ s.returningClause returning)

/-- The update statement. -/
def compileUpdate (s : QueryState) : OrmResult String := do
  if s.assignments.isEmpty then throw .updateValuesMissing
  let sets := s.assignments.map fun (c, sql) => s.escape c ++ " = " ++ sql
  s.updateStatement (sets ++ s.automaticAssignments s.assignments)

/-- The soft delete or restore statement. -/
def compileSoftDelete (s : QueryState) : OrmResult String := do
  let e ← (← s.mainAlias).metadata
  let c ← match e.deleteDateColumn? with
    | some c => pure c
    | none => throw (.missingDeleteDateColumn e.name)
  let stamp := if s.kind = .restore then "NULL" else s.dialect.currentTimestamp
  let assigned := [(c.databaseName, stamp)]
  s.updateStatement ((s.escape c.databaseName ++ " = " ++ stamp) :: s.automaticAssignments assigned)

/-- The delete statement. -/
def compileDelete (s : QueryState) : OrmResult String := do
  let returning ← s.returningColumns .delete
  let table ← s.mainTable
  let whereSql ← s.compileWhere false
  let limitSql ← s.writeLimitClause
  pure ("DELETE FROM " ++ table ++ s.outputClause .delete returning ++ whereSql ++ limitSql ++
    s.returningClause returning)

end QueryState

namespace Update

/-- Assign the values of the object afresh. Bound assignments of before are dropped, also when
the object turns out wrong; raw assignments are kept and win. -/
def bindAssignments : QueryM Unit := do
  let s ← get
  match s.valuesSet with
  | [] => pure ()
  | values :: _ =>
    let main ← QueryM.lift s.mainAlias
    modify fun s => { s with
      parameters := s.parameters.filter fun (k, _) => !"orm_update_".isPrefixOf k,
      assignments := s.assignments.filter fun (_, sql) => !":orm_update_".isPrefixOf sql }
    let s ← get
    let bound ← match main.entity with
      | some e => QueryM.lift (s.entityAssignments e values)
      | none => pure (values.map fun (k, v) => (k, Value.ofJson v))
    let named := bound.zipIdx.map fun ((c, v), i) => (c, updateParameter i, v)
    QueryM.mergeParameters (named.map fun (_, n, v) => (n, v))
    let fresh := named.map fun (c, n, _) => (c, ":" ++ n)
    modify fun s => { s with assignments := s.assignments.foldl (fun acc (c, sql) => putLast acc c sql) fresh }

def set (values : Fields) : QueryM Unit := do
  modify fun s => { s with valuesSet := [values] }
  let _ ← QueryM.record bindAssignments

/-- The columns a property names for a raw assignment. -/
def targetColumns (property : String) : QueryM (List String) := do
  let main ← QueryM.mainAlias
  match main.entity with
  | none => pure [property]
  | some e =>
    match e.findColumnsByPath property with
    | [] => throw (.columnNotFound e.name property)
    | cs => pure (cs.map (·.databaseName))

/-- Assign raw SQL to the columns of a property. -/
def setRaw (property sql : String) : QueryM Unit := do
  match ← QueryM.record (targetColumns property) with
  | some columns =>
    modify fun s => { s with assignments := columns.foldl (fun acc c => putLast acc c sql) s.assignments }
  | none => pure ()

/-- Filter by the ids of entities, added to the WHERE clauses; the entities are kept for the
listeners. -/
def whereEntity (entities : List Fields) : QueryM Unit := do
  match ← QueryM.record (whereIdsCondition (entities.map Json.obj)) with
  | some c =>
    modify fun s => { s with wheres := s.wheres ++ [(if s.wheres.isEmpty then .first else .and, c)] }
  | none => pure ()
  modify fun s => { s with whereEntities := s.whereEntities ++ entities }

end Update

end EntitySql
