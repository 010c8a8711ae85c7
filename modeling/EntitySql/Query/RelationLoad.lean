import EntitySql.Query.Select

/-!
# Relation builders and their loaders

A relation builder works on one relation of an entity for some owning entities, given by id.
Before it does anything it checks, in this order: the first building failure, the entity, the
relation, that the operation suits the relation's kind, that owners were given, and that each
owner has its id.

Its loader is a select of the relation's target (alias `relation_target`) restricted to the
rows related to the owners: through the owner's table for an owning to-one relation, through
the junction table for a many-to-many relation, and by the inverse side's join columns
otherwise. The restriction is one alternative of key equalities per owner, bound to
`orm_rel_of_i_j`; no owners match no row (`1=0`).
-/

namespace EntitySql

/-- The condition that a row's key columns equal one of the key tuples, with the parameters
that hold the tuples' values. Columns are prefixed by an alias when one is given. -/
def keyMatchCondition (d : Dialect) (aliasName : Option String) (columns : List String)
    (rows : List (List Value)) (pre : String) : RawCondition :=
  if rows.isEmpty then { sql := "1=0", verbatim := true }
  else
    let columnRef := fun (c : String) => match aliasName with
      | some a => d.escape a ++ "." ++ d.escape c
      | none => d.escape c
    let perRow : List (String × List (String × Value)) := rows.zipIdx.map fun (row, i) =>
      let cells := (columns.zip row).zipIdx.map fun ((c, (v : Value)), j) =>
        let name := pre ++ "_" ++ toString i ++ "_" ++ toString j
        (columnRef c ++ " = :" ++ name, (name, v))
      (" AND ".intercalate (cells.map (·.1)), cells.map (·.2))
    let alternatives := perRow.map (·.1)
    let sql := match alternatives with
      | [one] => one
      | more => "((" ++ ") OR (".intercalate more ++ "))"
    { sql, params := perRow.flatMap (·.2), verbatim := true }

/-- The stored value of the column a join column references, read from an owner's id. -/
def referencedValue (d : Dialect) (e : Entity) (ids : Fields) (jc : JoinColumn) : OrmResult Value := do
  let c ← match e.findColumnByName? jc.referencedColumn with
    | some c => pure c
    | none => throw (.columnNotFound e.name jc.referencedColumn)
  match Json.getPath? ids c.propertyPath with
  | some v => pure (Dialect.toStored d c.type v)
  | none => throw (.entityIdMissing e.name)

/-- A relation of an entity with the ids of its owners. -/
structure ResolvedRelation where
  entity : Entity
  relation : Relation
  owners : List Fields

namespace RelationQuery

/-- A relation builder for a property of an entity. -/
def new (reg : Registry) (d : Dialect) (entity property : String) : QueryState :=
  let s := (QueryState.new d .relation).apply do
    let _ ← QueryM.record (registerMain reg entity none)
  { s with relationProperty := some property }

/-- Set the owners: the items of an array, or one entity. -/
def «of» (entities : Json) : QueryM Unit :=
  modify fun s => { s with owners := match entities with
    | .arr items => items
    | single => [single] }

/-- Check a relation builder for an operation allowed on some relation kinds. -/
def resolve (s : QueryState) (operation : String) (allowed : RelationKind → Bool) :
    OrmResult ResolvedRelation := do
  s.check
  let e ← (← s.mainAlias).metadata
  let property ← match s.relationProperty with
    | some p => pure p
    | none => throw (.usage "relation builder has no relation property")
  let rel ← match e.findRelation? property with
    | some r => pure r
    | none => throw (.columnNotFound e.name property)
  if !allowed rel.kind then
    throw (.relationCardinality operation rel.kind.name e.name property)
  if s.owners.isEmpty then
    throw (.usage (operation ++ "() on " ++ e.name ++ "." ++ property ++
      " needs the owning entities; call of() first"))
  let owners ← s.owners.mapM fun id =>
    match e.ensureIdMap? id with
    | some m => pure m
    | none => throw (OrmError.entityIdMissing e.name)
  pure { entity := e, relation := rel, owners }

/-- A select of every column of an entity or table under an alias. -/
def selectAll (reg : Registry) (d : Dialect) (cacheAlways : Bool) (target name : String) :
    QueryState :=
  { QueryState.new d .select with cache := cacheAlways }.apply do
    Select.select [name]
    Select.from reg target name

/-- The select that loads the related rows of the owners. -/
def loaderOf (reg : Registry) (d : Dialect) (cacheAlways : Bool) (r : ResolvedRelation) :
    OrmResult QueryState := do
  let target ← reg.get r.relation.target
  let qualified := fun (a c : String) => d.escape a ++ "." ++ d.escape c
  let base := selectAll reg d cacheAlways target.name "relation_target"
  let keyRows := fun (jcs : List JoinColumn) =>
    r.owners.mapM fun ids => jcs.mapM (referencedValue d r.entity ids)
  if r.relation.isToOneOwner then
    let on := " AND ".intercalate (r.relation.joinColumns.map fun jc =>
      qualified "relation_owner" jc.databaseName ++ " = " ++
        qualified "relation_target" jc.referencedColumn)
    let primaries := r.entity.primaryColumns
    let rows := r.owners.map fun ids => primaries.map fun c =>
      Dialect.toStored d c.type ((Json.findField? c.propertyPath ids).getD .null)
    let cond := keyMatchCondition d (some "relation_owner") (primaries.map (·.databaseName)) rows
      "orm_rel_of"
    return base.apply do
      Select.join reg .inner r.entity.name "relation_owner" (some { sql := on, verbatim := true })
        false none
      applyWhereCall (.inl (.first, .raw cond))
  if r.relation.kind = .manyToMany then
    let junction ← reg.junction r.relation
    let on := " AND ".intercalate (junction.inverseColumns.map fun jc =>
      qualified "relation_junction" jc.databaseName ++ " = " ++
        qualified "relation_target" jc.referencedColumn)
    let rows ← keyRows junction.ownerColumns
    let cond := keyMatchCondition d (some "relation_junction")
      (junction.ownerColumns.map (·.databaseName)) rows "orm_rel_of"
    return base.apply do
      Select.join reg .inner junction.tableName "relation_junction"
        (some { sql := on, verbatim := true }) false none
      applyWhereCall (.inl (.first, .raw cond))
  let (_, inverse) ← reg.inverseRelation r.relation
  let rows ← keyRows inverse.joinColumns
  let cond := keyMatchCondition d (some "relation_target") (inverse.joinColumns.map (·.databaseName))
    rows "orm_rel_of"
  pure (base.apply (applyWhereCall (.inl (.first, .raw cond))))

def loader (reg : Registry) (cacheAlways : Bool) (s : QueryState) : OrmResult QueryState := do
  let r ← resolve s "load" fun _ => true
  loaderOf reg s.dialect cacheAlways r

end RelationQuery

end EntitySql
