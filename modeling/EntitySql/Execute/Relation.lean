import EntitySql.Execute.Write

/-!
# Writing and loading a relation

A relation builder changes which entities a relation of its owners points at, or loads them.
Writes run on the builder's runner, else on a fresh runner writing to the primary, and every
statement of one operation runs on that runner.

* A to-one relation its entity owns is set by updating the owners' foreign key (null clears
  it), with at most one value.
* The other side of a one-to-one relation is set by first detaching the target rows pointing
  at the owner, and then pointing the new target at it.
* Adding to a one-to-many relation points the targets' foreign key at the single owner;
  adding to a many-to-many relation inserts a junction row for every owner and target.
* Removing from a one-to-many relation nulls the foreign key of the targets that point at the
  owners; removing from a many-to-many relation deletes the junction rows of the owners and
  targets. Removing runs before adding.

Targets are given by id or id object; null targets are skipped, and nothing is written when
none is left.
-/

namespace EntitySql

namespace DataSource

open ExecM

/-- The id objects of targets of an entity; null targets are left out. -/
def targetIds (e : Entity) (values : List Json) : OrmResult (List Fields) :=
  (values.filter (!·.isNull)).mapM fun v =>
    match e.ensureIdMap? v with
    | some m => .ok m
    | none => .error (.entityIdMissing e.name)

def keyRows (d : Dialect) (e : Entity) (ids : List Fields) (columns : List JoinColumn) :
    OrmResult (List (List Value)) :=
  ids.mapM fun m => columns.mapM (referencedValue d e m)

/-- The only owner of a relation write that needs exactly one. -/
def singleOwner (r : ResolvedRelation) (operation : String) : OrmResult Fields :=
  match r.owners with
  | [one] => .ok one
  | _ => .error (.usage (operation ++ " on " ++ r.relation.kind.name ++ " relation " ++
      r.entity.name ++ "." ++ r.relation.propertyPath ++ " needs exactly one entity in of()"))

def junctionRow (j : Junction) (owner target : List Value) : Fields :=
  ((j.ownerColumns.zip owner) ++ (j.inverseColumns.zip target)).foldl
    (fun acc (jc, v) => Json.insertField jc.databaseName v.toJson acc) []

/-- Update the rows of an entity with the given ids on a runner. -/
def updateByIds (ds : DataSource) (id : RunnerId) (target : String) (values : Fields)
    (ids : List Fields) : ExecM Unit := do
  let q := (Builder.update ds.registry ds.dialect target).apply do
    Update.set values
    applyWhereCall (.inr (.first, ids.map .obj))
  let _ ← ds.executeWrite (some id) q

/-- Point the relation of the owners at the targets. -/
def relate (ds : DataSource) (id : RunnerId) (r : ResolvedRelation) (values : List Json) :
    ExecM Unit := do
  let reg := ds.registry
  let d := ds.dialect
  let rel := r.relation
  if rel.isToOneOwner then
    let value ← match values with
      | [] => pure Json.null
      | [v] => pure v
      | _ => throw (.usage (rel.kind.name ++ " relation " ++ r.entity.name ++ "." ++
          rel.propertyPath ++ " takes a single value"))
    ds.updateByIds id r.entity.name [(rel.propertyPath, value)] r.owners
    return
  let target ← ofResult (reg.get rel.target)
  let targets ← ofResult (targetIds target values)
  if targets.isEmpty then return
  if rel.kind = .manyToMany then
    let j ← ofResult (reg.junction rel)
    let ownerRows ← ofResult (keyRows d r.entity r.owners j.ownerColumns)
    let targetRows ← ofResult (keyRows d target targets j.inverseColumns)
    let rows := ownerRows.flatMap fun owner => targetRows.map (junctionRow j owner)
    let q := (Builder.insert d).apply do
      Insert.intoTable reg j.tableName
      Insert.values rows
    let _ ← ds.executeInsert (some id) q
    return
  let (_, inverse) ← ofResult (reg.inverseRelation rel)
  let owner ← ofResult (singleOwner r "update")
  ds.updateByIds id target.name [(inverse.propertyPath, .obj owner)] targets

/-- Null the foreign key of the target rows pointing at the owners, only of the given targets
when some are given. -/
def detach (ds : DataSource) (id : RunnerId) (r : ResolvedRelation) (target : Entity)
    (only : Option (List Fields)) : ExecM Unit := do
  let (_, inverse) ← ofResult (ds.registry.inverseRelation r.relation)
  let columns := inverse.joinColumns.map (·.databaseName)
  let ownerRows ← ofResult (keyRows ds.dialect r.entity r.owners inverse.joinColumns)
  let q := (Builder.update ds.registry ds.dialect target.name).apply do
    Update.set [(inverse.propertyPath, .null)]
    applyWhereCall (.inl (.first, .raw (keyMatchCondition ds.dialect none columns ownerRows
      "orm_rel_of")))
    if let some targets := only then
      applyWhereCall (.inr (.and, targets.map .obj))
  let _ ← ds.executeWrite (some id) q

/-- Detach the targets from the owners. -/
def unrelate (ds : DataSource) (id : RunnerId) (r : ResolvedRelation) (values : List Json) :
    ExecM Unit := do
  let reg := ds.registry
  let d := ds.dialect
  let rel := r.relation
  let target ← ofResult (reg.get rel.target)
  let targets ← ofResult (targetIds target values)
  if targets.isEmpty || r.owners.isEmpty then return
  if rel.kind = .manyToMany then
    let j ← ofResult (reg.junction rel)
    let ownerRows ← ofResult (keyRows d r.entity r.owners j.ownerColumns)
    let targetRows ← ofResult (keyRows d target targets j.inverseColumns)
    let q := (Builder.delete reg d j.tableName).apply do
      applyWhereCall (.inl (.first, .raw (keyMatchCondition d none
        (j.ownerColumns.map (·.databaseName)) ownerRows "orm_rel_of")))
      applyWhereCall (.inl (.and, .raw (keyMatchCondition d none
        (j.inverseColumns.map (·.databaseName)) targetRows "orm_rel_value")))
    let _ ← ds.executeWrite (some id) q
    return
  if !rel.isToOneOrManyInverse then
    throw (.usage ("cannot remove from " ++ rel.kind.name ++ " relation " ++ r.entity.name ++ "." ++
      rel.propertyPath))
  ds.detach id r target (some targets)

/-- Point a to-one relation of the owners at a target, or clear it with null. -/
def setRelation (ds : DataSource) (given : Option RunnerId) (s : QueryState) (value : Json) :
    ExecM Unit := do
  let r ← ofResult (RelationQuery.resolve s "set" fun k => k = .manyToOne ∨ k = .oneToOne)
  ds.inRunner given .master s.useTransaction fun id => do
    if r.relation.isToOneOwner then
      ds.relate id r (if value.isNull then [] else [value])
    else
      let target ← ofResult (ds.registry.get r.relation.target)
      ds.detach id r target none
      if !value.isNull then ds.relate id r [value]

/-- Detach some targets from the owners of a collection relation and then add others. -/
def addAndRemove (ds : DataSource) (given : Option RunnerId) (s : QueryState)
    (added removed : List Json) : ExecM Unit := do
  let operation := match added.isEmpty, removed.isEmpty with
    | false, true => "add"
    | true, false => "remove"
    | _, _ => "add_and_remove"
  let r ← ofResult (RelationQuery.resolve s operation RelationKind.isCollection)
  ds.inRunner given .master s.useTransaction fun id => do
    if !removed.isEmpty then ds.unrelate id r removed
    if !added.isEmpty then ds.relate id r added

def relationLoader (ds : DataSource) (s : QueryState) : OrmResult QueryState :=
  RelationQuery.loader ds.registry ds.cacheAlways s

end DataSource

end EntitySql
