import EntitySql.Hydration.Keys

/-!
# Entities out of joined rows

A select with joins gives one row per combination of joined rows. The entities of an alias are
read back from them:

* the rows are grouped by the alias's primary key, in the order first seen; rows with no key
  (an unmatched left join) belong to no entity, and an entity without primary columns takes one
  row per entity;
* in a single-table hierarchy the discriminator value of the group's first row picks the
  descendant the entity is read as;
* the entity's stored columns come from the first row, each at its property path, converted
  from the stored form; the aliases joined under this alias (selected or mapped) become its
  nested entities, one object or a list, read from the rows of the group;
* loaded related ids and counts are matched by the parent's key: a to-one relation takes the
  first id or null, other relations the list of ids, and a count is zero when none was found.

An entity is kept if its type has a primary key, or if anything non-null was read for it.
-/

namespace EntitySql

namespace Hydration

/-- What reading entities needs besides the rows: the query, the registry, and the related ids
and counts loaded for it. -/
structure Loaded where
  query : QueryState
  registry : Registry
  ids : List RelatedIds := []
  counts : List RelatedCounts := []

namespace Loaded

/-- The entity a row of an alias is read as: the descendant its discriminator value names, else
the alias's own. -/
def subtypeOf (l : Loaded) (row : Row) (aliasName : String) (e : Entity) : Entity :=
  match e.discriminatorColumn? with
  | none => e
  | some c =>
    match (row.get? (l.query.dialect.buildColumnAlias aliasName c.databaseName)).bind Value.asStr? with
    | none => e
    | some v =>
      ((l.registry.descendants e.name).find? fun child =>
        child.inheritance.any (·.discriminatorValue = v)).getD e

/-- The rows of each entity of an alias, in the order first seen. -/
def groups (l : Loaded) (rows : List Row) (aliasName : String) (e : Entity) : List (List Row) :=
  let primaries := e.primaryColumns.map (·.databaseName)
  if primaries.isEmpty then rows.map ([·])
  else
    (rows.foldl (fun gs row =>
      match rowKey l.query.dialect row aliasName primaries with
      | some k => pushAt gs k row
      | none => gs) []).map (·.2)

/-- Without primary columns every row is an entity of its own. -/
theorem groups_of_keyless (l : Loaded) (rows : List Row) (aliasName : String) (e : Entity)
    (h : e.primaryColumns = []) : l.groups rows aliasName e = rows.map ([·]) := by
  simp [groups, h]

/-- The stored columns of an entity read from a row, and whether any of them is not null. -/
def columnsOf (l : Loaded) (row : Row) (aliasName : String) (e : Entity) : Fields × Bool :=
  let d := l.query.dialect
  (e.columns.filter fun c => !c.isVirtual && c.relation.isNone).foldl (fun acc c =>
    match row.get? (d.buildColumnAlias aliasName c.databaseName) with
    | some v => (Json.setPath acc.1 c.propertyPath (d.ofStored c.type v), acc.2 || !v.isNull)
    | none => acc) ([], false)

/-- The property a join's entities go to, and whether it holds a list. -/
def joinProperty (j : Join) : Option (String × Bool) :=
  match j.mapTo, j.relation? with
  | some m, _ => some (m.property, m.many)
  | none, some r => some (r.propertyPath, r.isCollection)
  | none, none => none

/-- The joins whose entities are nested under an alias, with their aliases and properties. -/
def nestedJoins (l : Loaded) (aliasName : String) : List (Alias × String × Bool) :=
  l.query.joins.filterMap fun j =>
    if j.parentAlias? = some aliasName ∧ (j.selected ∨ j.mapTo.isSome) then do
      let a ← (l.query.aliases.find? j.name).filter (·.hasEntity)
      let (property, many) ← joinProperty j
      pure (a, property, many)
    else none

/-- Put the loaded related ids and counts of an alias into an entity read from a row. -/
def withRelated (l : Loaded) (row : Row) (aliasName : String) (entity : Fields) : Fields :=
  let d := l.query.dialect
  let entity := (l.ids.filter (·.request.parentAlias = aliasName)).foldl (fun obj r =>
    let ids := (rowKey d row aliasName r.parentColumns).bind fun k => List.lookup k r.ids
    let v := if r.request.relation.isToOne then (ids.bind List.head?).getD .null
      else .arr (ids.getD [])
    Json.setPath obj r.request.mapTo v) entity
  (l.counts.filter (·.request.parentAlias = aliasName)).foldl (fun obj r =>
    let n := ((rowKey d row aliasName r.parentColumns).bind fun k => List.lookup k r.counts).getD 0
    Json.setPath obj r.request.mapTo (.int n)) entity

/-- The entity of one group of rows, given how to read the entities of a nested alias. -/
def entityOf (l : Loaded) (nested : List Row → Alias → OrmResult (List Fields)) (a : Alias)
    (e : Entity) (rows : List Row) : OrmResult (Option Fields) := do
  let some first := rows.head? | return none
  let e := l.subtypeOf first a.name e
  let (entity, hasData) := l.columnsOf first a.name e
  let (entity, hasData) ← (l.nestedJoins a.name).foldlM (fun (acc : Fields × Bool) (ja, property, many) => do
    let children ← nested rows ja
    let v : Json := if many then .arr (children.map .obj)
      else match children.head? with
        | some c => .obj c
        | none => .null
    pure (Json.setPath acc.1 property v, acc.2 || !children.isEmpty)) (entity, hasData)
  let entity := l.withRelated first a.name entity
  pure (if !e.primaryColumns.isEmpty || hasData then some entity else none)

/-- The entities of an alias read from rows, nesting at most `fuel` levels of joins. -/
def entitiesOf (l : Loaded) : Nat → List Row → Alias → OrmResult (List Fields)
  | 0, _, _ => .ok []
  | fuel + 1, rows, a => do
    let e ← a.metadata
    let found ← (l.groups rows a.name e).mapM (l.entityOf (l.entitiesOf fuel) a e)
    pure (found.filterMap id)

/-- No rows give no entities. -/
theorem entitiesOf_nil (l : Loaded) (fuel : Nat) (a : Alias) (e : Entity)
    (h : a.metadata = .ok e) : l.entitiesOf (fuel + 1) [] a = .ok [] := by
  simp [entitiesOf, h, groups, pure, Except.pure, bind, Except.bind]

/-- The entities of an alias read from rows. Every nesting step goes down one join, so the
joins bound the depth. -/
def entities (l : Loaded) (rows : List Row) (a : Alias) : OrmResult (List Fields) :=
  l.entitiesOf (l.query.joins.length + 1) rows a

end Loaded

end Hydration

end EntitySql
