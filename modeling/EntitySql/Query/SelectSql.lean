import EntitySql.Query.Clauses

/-!
# The SQL of a select

`compileSelect` writes a select statement from its state, in this order: the lock (refused or
turned into a suffix or a table hint), the select list, the sources, the joins, WHERE, GROUP BY,
HAVING, ORDER BY, paging and the lock suffix. The first failure in that order is the result.

The select list names each selected column of an alias as `"a"."col" AS "a_col"` (the column
alias shortened to fit the dialect). An item that is an alias selects all its columns (those
not virtual and not hidden; for the root of an inheritance hierarchy the columns of all its
descendants too, each database name once); an item `alias.path` selects the columns of the path
and the primary key. Other items are written as given, their property references rewritten.
An empty list is `*`.

A join of a relation is written with the `ON` condition of its keys: the join columns of an
owning to-one relation, the two halves of the junction table of a many-to-many relation
(whose alias is `parent_alias`, shortened), or the inverse side's join columns; a given
condition is added in brackets, and the soft-delete filter of the target unless deleted rows
are asked for.
-/

namespace EntitySql

/-- The database name of a property of an entity, or the property itself. -/
def Entity.columnName (e : Entity) (property : String) : String :=
  match e.findColumnByPath? property with
  | some c => c.databaseName
  | none => property

namespace QueryState

/-- The select items an alias takes: whether it is selected whole, the property paths selected
of it, and the positions of the items it consumed. -/
def selectedOf (s : QueryState) (a : Alias) : Bool × List String × List Nat :=
  s.selects.zipIdx.foldl (fun (acc : Bool × List String × List Nat) (item, i) =>
    let (whole, paths, used) := acc
    if item.label.isSome then acc
    else if item.expression = a.name then (true, paths, used ++ [i])
    else if (a.name ++ ".").isPrefixOf item.expression then
      let path := String.ofList (item.expression.toList.drop (a.name.length + 1))
      let known := match a.entity with
        | some e => !(e.findColumnsByPath path).isEmpty
        | none => false
      if known then (whole, paths ++ [path], used ++ [i]) else acc
    else acc) (false, [], [])

/-- The selected columns of an alias bound to an entity. -/
def entityColumns (reg : Registry) (s : QueryState) (a : Alias) (e : Entity) (whole : Bool)
    (paths : List String) : List String :=
  let sources := if e.discriminatorColumn?.isSome then e :: reg.descendants e.name else [e]
  let named := paths.flatMap fun p => (e.findColumnsByPath p).map (·.databaseName)
  let chosen := (sources.flatMap (·.columns)).foldl (fun (acc : List Column) c =>
    let selected := if whole then !c.isVirtual ∧ c.isSelect
      else named.contains c.databaseName ∨ c.isPrimary
    if selected ∧ !acc.any (·.databaseName = c.databaseName) then acc ++ [c] else acc) []
  chosen.map fun c =>
    s.escape a.name ++ "." ++ s.escape c.databaseName ++ " AS " ++
      s.escape (s.dialect.buildColumnAlias a.name c.databaseName)

/-- The select list. -/
def compileSelection (reg : Registry) (s : QueryState) : String :=
  let (columns, consumed) := s.aliases.items.foldl (fun (acc : List String × List Nat) a =>
    let (whole, paths, used) := s.selectedOf a
    if !whole ∧ paths.isEmpty then acc
    else
      let cols := match a.entity with
        | none => [s.escape a.name ++ ".*"]
        | some e => entityColumns reg s a e whole paths
      (acc.1 ++ cols, acc.2 ++ used)) ([], [])
  let rest := s.selects.zipIdx.filterMap fun (item, i) =>
    if consumed.contains i then none
    else
      let expr := PropertyNames.replace s.dialect s.aliases true item.expression
      some (match item.label with
        | some l => expr ++ " AS " ++ s.escape l
        | none => expr)
  match columns ++ rest with
  | [] => "*"
  | all => ", ".intercalate all

/-- The condition given to a join, rendered with aliases before its columns. -/
def joinCondition (s : QueryState) (j : Join) : OrmResult (Option String) :=
  match j.condition with
  | some c => some <$> c.render (s.renderContext true)
  | none => pure none

/-- The SQL of a join, with the table hint of the lock after each table. -/
def compileJoin (reg : Registry) (s : QueryState) (hint : String) (j : Join) : OrmResult String := do
  let d := s.dialect
  let direction := j.direction.sql
  let destination := s.escape j.name
  let condition ← s.joinCondition j
  let softDelete := fun (e : Entity) =>
    match e.deleteDateColumn? with
    | some c => if s.withDeleted then "" else
        " AND " ++ destination ++ "." ++ s.escape c.databaseName ++ " IS NULL"
    | none => ""
  let qualified := fun (a c : String) => s.escape a ++ "." ++ s.escape c
  let on := (condition.map (" ON " ++ ·)).getD ""
  match j.target with
  | .relation parentAlias rel =>
    let target ← reg.get rel.target
    let parent ← (← s.aliases.get parentAlias).metadata
    let table := d.escapePath target.tablePath ++ hint
    let extra := (condition.map fun c => " AND (" ++ c ++ ")").getD ""
    if rel.isToOneOwner then
      let keys := rel.joinColumns.map fun jc =>
        qualified j.name (target.columnName jc.referencedColumn) ++ "=" ++
          qualified parentAlias jc.databaseName
      return direction ++ " " ++ table ++ " " ++ destination ++ " ON " ++ " AND ".intercalate keys ++
        extra ++ softDelete target
    if rel.kind = .manyToMany then
      let junction ← reg.junction rel
      let between := d.shortenAlias (parentAlias ++ "_" ++ j.name)
      let ownerOn := junction.ownerColumns.map fun jc =>
        qualified between jc.databaseName ++ "=" ++
          qualified parentAlias (parent.columnName jc.referencedColumn)
      let inverseOn := junction.inverseColumns.map fun jc =>
        qualified between jc.databaseName ++ "=" ++
          qualified j.name (target.columnName jc.referencedColumn)
      return direction ++ " " ++ d.escapePath junction.tableName ++ hint ++ " " ++ s.escape between ++
        " ON " ++ " AND ".intercalate ownerOn ++ " " ++ direction ++ " " ++ table ++ " " ++
        destination ++ " ON " ++ " AND ".intercalate inverseOn ++ extra ++ softDelete target
    let (_, inverse) ← reg.inverseRelation rel
    let keys := inverse.joinColumns.map fun jc =>
      qualified j.name jc.databaseName ++ "=" ++
        qualified parentAlias (parent.columnName jc.referencedColumn)
    pure (direction ++ " " ++ table ++ " " ++ destination ++ " ON " ++ " AND ".intercalate keys ++
      extra ++ softDelete target)
  | .entity name =>
    let target ← reg.get name
    let soft := if on.isEmpty then "" else softDelete target
    pure (direction ++ " " ++ d.escapePath target.tablePath ++ hint ++ " " ++ destination ++ on ++ soft)
  | .table path => pure (direction ++ " " ++ d.escapePath path ++ hint ++ " " ++ destination ++ on)
  | .subQuery sql => pure (direction ++ " " ++ sql ++ " " ++ destination ++ on)

/-- An `ORDER BY` item. -/
def orderText (expression : String) (o : SortOrder) (nulls : Option NullsOrder) : String :=
  expression ++ " " ++ o.sql ++
    (match nulls with
      | some .first => " NULLS FIRST"
      | some .last => " NULLS LAST"
      | none => "")

/-- The lock of a select: checked for an optimistic lock, else the dialect's clause. -/
def lockOf (s : QueryState) : OrmResult LockClause := do
  match s.lockMode with
  | none => pure .none
  | some .optimistic =>
    let e ← (← s.mainAlias).metadata
    if e.versionColumn?.isNone ∧ e.updateDateColumn?.isNone then
      throw (.optimisticLockCannotBeUsed e.name)
    pure .none
  | some mode =>
    let tables ← s.lockTables.mapM fun n => do
      let a ← s.aliases.get n
      pure (s.escape a.name)
    s.dialect.lockClause mode tables s.onLocked

/-- The select statement. -/
def compileSelect (reg : Registry) (s : QueryState) : OrmResult String := do
  let d := s.dialect
  let lock ← s.lockOf
  let hint := match lock with
    | .tableHint h => " " ++ h
    | _ => ""
  let froms := (s.aliases.items.filter (·.kind = .source)).map fun a =>
    a.sourceSql d ++ " " ++ s.escape a.name ++ hint
  let fromSql := if froms.isEmpty then "" else " FROM " ++ ", ".intercalate froms
  let joins ← s.joins.mapM (compileJoin reg s hint)
  let whereSql ← s.compileWhere true
  let groupSql := if s.groupBys.isEmpty then "" else
    " GROUP BY " ++ ", ".intercalate (s.groupBys.map (PropertyNames.replace d s.aliases true))
  let havingSql ← if s.havings.isEmpty then pure "" else do
    pure (" HAVING " ++ (← Condition.renderClauses (s.renderContext true) s.havings))
  let orderSql := if s.orderBys.isEmpty then "" else
    " ORDER BY " ++ ", ".intercalate (s.orderBys.map fun o =>
      orderText (PropertyNames.replace d s.aliases true o.expression) o.order o.nulls)
  let (limit, offset) := s.effectivePagination
  let page ← d.paginationClause limit offset (!s.orderBys.isEmpty)
  let suffix := match lock with
    | .suffix x => x
    | _ => ""
  pure ("SELECT " ++ (if s.distinct then "DISTINCT " else "") ++ s.compileSelection reg ++ fromSql ++
    String.join (joins.map (" " ++ ·)) ++ whereSql ++ groupSql ++ havingSql ++ orderSql ++ page ++
    suffix)

def selectQuery (reg : Registry) (s : QueryState) : OrmResult String := do
  let sql ← s.compileSelect reg
  pure (if s.subQuery then "(" ++ sql ++ ")" else sql)

end QueryState

end EntitySql
