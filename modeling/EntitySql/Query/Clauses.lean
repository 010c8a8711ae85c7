import EntitySql.Query.State
import EntitySql.Row

/-!
# Clauses shared by the statements

`compileWhere` writes the WHERE clause of a statement: the built clauses, then for an entity
the filter that hides soft-deleted rows (selects only, unless deleted rows are asked for) and,
for a child entity of an inheritance hierarchy, the filter on its discriminator values, then an
extra condition. One condition stands alone; several are written `( a ) AND ( b )`.

`returningColumns` says which columns a write statement reads back: the columns asked for (a
property path is written as its columns), or, when the written entity is to be updated, the
columns the database fills in (defaults, generated keys, dates and versions on insert; the
update date and version on update). The dialect writes them as `RETURNING` after the statement
or as `OUTPUT` inside it.
-/

namespace EntitySql

/-- Whether a column is filled in by the database on a write of a kind. -/
def Column.filledOn (k : StatementKind) (c : Column) : Bool :=
  match k with
  | .insert => c.default.isSome ∨ c.generation.isSome ∨ c.isCreateDate ∨ c.isUpdateDate ∨
      c.isDeleteDate ∨ c.isVersion
  | .update => c.isUpdateDate ∨ c.isVersion
  | .delete => false

/-- A WHERE clause over conditions: none gives no clause, one stands alone, and several are each
put in parentheses and joined by `AND`. -/
def whereClause : List String → String
  | [] => ""
  | [c] => " WHERE " ++ c
  | cs => " WHERE ( " ++ " ) AND ( ".intercalate cs ++ " )"

namespace QueryState

def aliasColumn (s : QueryState) (a : Alias) (prefixAlias : Bool) (column : String) : String :=
  if prefixAlias then s.escape a.name ++ "." ++ s.escape column else s.escape column

/-- The filter that hides the soft-deleted rows of the main entity: in a select that does not
ask for deleted rows, when the entity has a delete date. -/
def deletedFilter (s : QueryState) (main : Alias) (e : Entity) (prefixAlias : Bool) :
    List String :=
  if s.kind = .select ∧ !s.withDeleted then
    (e.deleteDateColumn?.map fun c => s.aliasColumn main prefixAlias c.databaseName ++ " IS NULL").toList
  else []

/-- The filter on the discriminator values of a child entity of an inheritance hierarchy. -/
def typeFilter (s : QueryState) (main : Alias) (e : Entity) (prefixAlias : Bool) : List String :=
  if e.parent?.isSome then
    (e.discriminatorColumn?.map fun c =>
      s.aliasColumn main prefixAlias c.databaseName ++ " IN (:...discriminatorColumnValues)").toList
  else []

/-- The conditions a statement adds of itself for the entity of its main alias. -/
def impliedConditions (s : QueryState) (prefixAlias : Bool) : List String :=
  match s.mainAlias with
  | .ok main =>
    match main.entity with
    | some e => s.deletedFilter main e prefixAlias ++ s.typeFilter main e prefixAlias
    | none => []
  | .error _ => []

def builtConditions (s : QueryState) (prefixAlias : Bool) : OrmResult (List String) :=
  if s.wheres.isEmpty then .ok []
  else do pure [← Condition.renderClauses (s.renderContext prefixAlias) s.wheres]

def compileWhere (s : QueryState) (prefixAlias : Bool) : OrmResult String := do
  let built ← s.builtConditions prefixAlias
  pure (whereClause (built ++ s.impliedConditions prefixAlias ++ s.extraWhere.toList))

/-- The columns a write statement reads back, as database names or raw SQL. -/
def returningColumns (s : QueryState) (k : StatementKind) : OrmResult (Option Returning) := do
  let d := s.dialect
  let known := s.mainEntity?
  match s.returning with
  | some r =>
    if !d.isReturningSupported k then throw (.returningNotSupported d.name k.name)
    match r with
    | .raw sql => pure (some (.raw sql))
    | .columns paths =>
      pure (some (.columns (paths.flatMap fun p =>
        let found := match known with
          | some e => (e.findColumnsByPath p).map (·.databaseName)
          | none => []
        if found.isEmpty then [p] else found)))
  | none =>
    if !s.updateEntity ∨ !d.isReturningSupported k then pure none
    else
      match known with
      | none => pure none
      | some e =>
        let cols := (e.columns.filter fun c => !c.isVirtual ∧ Column.filledOn k c).map (·.databaseName)
        pure (if cols.isEmpty then none else some (.columns cols))

/-- The `OUTPUT` clause of a dialect that reads written rows that way. -/
def outputClause (s : QueryState) (k : StatementKind) (r : Option Returning) : String :=
  if s.dialect.returningStyle ≠ .output then ""
  else
    let pre := if k = .delete then "DELETED" else "INSERTED"
    match r with
    | none => ""
    | some (.raw sql) => " OUTPUT " ++ sql
    | some (.columns cs) => " OUTPUT " ++ ", ".intercalate (cs.map fun c => pre ++ "." ++ s.escape c)

/-- The `RETURNING` clause of a dialect that reads written rows that way. -/
def returningClause (s : QueryState) (r : Option Returning) : String :=
  if s.dialect.returningStyle ≠ .returning then ""
  else
    match r with
    | none => ""
    | some (.raw sql) => " RETURNING " ++ sql
    | some (.columns cs) => " RETURNING " ++ ", ".intercalate (cs.map s.escape)

def mainTable (s : QueryState) : OrmResult String := do
  let a ← s.mainAlias
  pure (a.sourceSql s.dialect)

/-- `ORDER BY` and `LIMIT` of an update or delete, where the dialect has them. -/
def writeLimitClause (s : QueryState) : OrmResult String := do
  if s.orderBys.isEmpty ∧ s.limit.isNone then return ""
  if !s.dialect.supportsUpdateLimit then
    throw (.dialectUnsupported s.dialect.name "ORDER BY and LIMIT in UPDATE or DELETE")
  let orders := s.orderBys.map fun o =>
    PropertyNames.replace s.dialect s.aliases false o.expression ++ " " ++ o.order.sql
  let orderSql := if orders.isEmpty then "" else " ORDER BY " ++ ", ".intercalate orders
  let limitSql := match s.limit with
    | some l => " LIMIT " ++ toString l
    | none => ""
  pure (orderSql ++ limitSql)

/-- The values a written row reports, as an entity object: a column of the main entity is
read back into its property, any other cell kept under its name. -/
def generatedMap (s : QueryState) (row : Row) : Fields :=
  let known := s.mainEntity?
  row.cells.foldl (fun acc (name, v) =>
    match known.bind (·.findColumnByName? name) with
    | some c => c.setValue acc (Dialect.ofStored s.dialect c.type v)
    | none => Json.insertField name v.toJson acc) []

end QueryState

end EntitySql
