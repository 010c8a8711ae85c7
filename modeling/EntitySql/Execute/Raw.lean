import EntitySql.Runner.Transaction
import EntitySql.Query.Builder

/-!
# Reading the rows of a select

A select's rows are read on a runner, after checking that a pessimistic lock runs inside a
transaction.

* *The result cache.* A select that asks for caching, on a data source that has a cache, looks
  its key up first (its own cache id, else the statement with its parameters). A live entry
  answers without sending anything, and is reported; otherwise the rows read are stored under
  the key, replacing the entry found, for the query's lifetime, else the data source's, else one
  second.
* *Paging over joined rows.* Skipping and taking over a select with joins pages by entity, not
  by row: a first statement selects the distinct primary keys of one page from the select
  (without paging, ordering or lock), ordered as asked and then by the keys; a second reads the
  full rows of those keys only. Numeric keys are written into the statement, other keys are
  bound, and a composite key becomes one alternative per entity.
-/

namespace EntitySql

open ExecM

namespace DataSource

def cacheAlways (ds : DataSource) : Bool := ds.options.cache.any (·.alwaysEnabled)

def selectBuilder (ds : DataSource) : QueryState :=
  Builder.select ds.registry ds.dialect ds.cacheAlways none

/-- A pessimistic lock needs an open transaction on the runner. -/
def checkLock (s : QueryState) (id : RunnerId) : ExecM Unit := do
  match s.lockMode with
  | some m =>
    if m.isPessimistic && (← runner id).depth = 0 then throw .pessimisticLockTransactionRequired
  | none => pure ()

/-- The lifetime of a cached result, in nanoseconds: the query's, the data source's, or one
second. -/
def cacheLifetime (ds : DataSource) (s : QueryState) : Nat :=
  match s.cacheDuration, ds.options.cache with
  | some ms, _ => ms * 1000000
  | none, some o => o.duration
  | none, none => 1000000000

/-- The rows of a statement, through the result cache when the query asks for it. -/
def queryCached (ds : DataSource) (id : RunnerId) (s : QueryState) (sql : String)
    (params : List Value) : ExecM (List Row) := do
  let w ← get
  match (if s.cache then w.cache else none) with
  | none => pure (← ds.query id sql params).rows
  | some c =>
    let key := s.cacheId.getD (cacheKey sql params)
    let (previous, c) := c.get key
    modify fun w => { w with cache := some c }
    match previous with
    | some e =>
      if !e.isExpired then
        emit { level := .debug, target := TraceEvent.cacheTarget, message := some "result cache hit",
               fields := [("key", .str key)] }
        return ← ofResult e.rows
    | none => pure ()
    let rows := (← ds.query id sql params).rows
    let stored := Json.arr (rows.map Row.toSnapshot)
    modify fun w => { w with cache := w.cache.map (·.store key previous stored (ds.cacheLifetime s)) }
    pure rows

/-- Compile a select and read its rows. -/
def loadRaw (ds : DataSource) (id : RunnerId) (s : QueryState) : ExecM (List Row) := do
  let sql ← ofResult (s.compileSelect ds.registry)
  let (sql, params) ← ofResult (s.dialect.bindNamed sql s.parameters s.nativeParameters)
  ds.queryCached id s sql params

/-- The result column of an `alias.property` expression naming exactly one column of an entity
alias. -/
def selectedColumnAlias (s : QueryState) (expression : String) : Option String := do
  let (aliasName, path) ← match expression.splitOn "." with
    | a :: rest@(_ :: _) => some (a, ".".intercalate rest)
    | _ => none
  let e ← (s.aliases.find? aliasName).bind (·.entity)
  match e.findColumnsByPath path with
  | [c] => some (s.dialect.buildColumnAlias aliasName c.databaseName)
  | _ => none

/-- The key value a row of the first statement of paging gives for a key column: its
`ids_` result column, or null. -/
def pageKeyValue (d : Dialect) (aliasName : String) (row : Row) (c : Column) : Value :=
  (row.get? ("ids_" ++ d.buildColumnAlias aliasName c.databaseName)).getD .null

def pageKeyParam (i : Nat) (c : Column) : String :=
  "orm_distinct_ids_" ++ toString i ++ "_" ++ c.databaseName

/-- The condition on the keys of the entities of one page, and the query it goes into. -/
def pageCondition (s : QueryState) (aliasName : String) (keys : List Column) (idRows : List Row) :
    QueryState × String :=
  let d := s.dialect
  let columnRef := fun (db : String) => s.escape aliasName ++ "." ++ s.escape db
  match keys with
  | [c] =>
    let values := idRows.map fun r => pageKeyValue d aliasName r c
    match values.mapM Value.numericLiteral? with
    | some literals => (s, columnRef c.databaseName ++ " IN (" ++ ", ".intercalate literals ++ ")")
    | none =>
      ({ s with parameters := setParam s.parameters "orm_distinct_ids" (.array values) },
        columnRef c.databaseName ++ " IN (:...orm_distinct_ids)")
  | cs =>
    let (s, alternatives) := idRows.zipIdx.foldl (fun (acc : QueryState × List String) (row, i) =>
      let (s, alts) := acc
      let (s, conds) := cs.foldl (fun (acc : QueryState × List String) c =>
        let name := pageKeyParam i c
        let v := pageKeyValue d aliasName row c
        let s' : QueryState := { acc.1 with parameters := setParam acc.1.parameters name v }
        (s', acc.2 ++ [columnRef c.databaseName ++ " = :" ++ name])) (s, [])
      (s, alts ++ ["(" ++ " AND ".intercalate conds ++ ")"])) (s, [])
    (s, "(" ++ " OR ".intercalate alternatives ++ ")")

/-- The second statement of paging by entity: the select without skip and take, restricted to
the keys of the page. -/
def pageRestricted (s : QueryState) (aliasName : String) (keys : List Column) (idRows : List Row) :
    QueryState :=
  let (outer, condition) := pageCondition { s with skip := none, take := none } aliasName keys idRows
  { outer with extraWhere := some condition }

/-- The ORDER BY of the first statement of paging: the select's own order, then each key column
not yet ordered by, ascending. -/
def orderKeysLast (columnOf : String → String) (primaries orders : List String) : List String :=
  primaries.foldl (fun ords c =>
    let ex := columnOf c
    if ords.any fun o => (ex ++ " ").isPrefixOf o then ords else ords ++ [ex ++ " ASC"]) orders

/-- The first statement of paging by entity, before its parameters are bound: the distinct keys
of one page, selected from the select without paging, ordering or lock, ordered as asked and
then by the keys. -/
def pageKeysQuery (reg : Registry) (s : QueryState) (aliasName : String) (e : Entity) :
    OrmResult String := do
  let d := s.dialect
  let inner := { s with skip := none, take := none, orderBys := [], lockMode := none }
  let innerSql ← inner.compileSelect reg
  let distinctAlias := s.escape "distinctAlias"
  let columnOf := fun (n : String) => distinctAlias ++ "." ++ s.escape n
  let primaries := e.primaryColumns.map fun c => d.buildColumnAlias aliasName c.databaseName
  let keySelects := primaries.map fun c => columnOf c ++ " AS " ++ s.escape ("ids_" ++ c)
  let (selects, orders) := s.orderBys.foldl (fun (acc : List String × List String) o =>
    let (sel, ords) := acc
    match selectedColumnAlias s o.expression with
    | some c =>
      let ex := columnOf c
      (if primaries.contains c then sel else sel ++ [ex], ords ++ [QueryState.orderText ex o.order o.nulls])
    | none => (sel, ords ++ [QueryState.orderText o.expression o.order o.nulls])) (keySelects, [])
  let page ← d.paginationClause s.take s.skip true
  pure ("SELECT DISTINCT " ++ ", ".intercalate selects ++ " FROM (" ++ innerSql ++ ") " ++
    distinctAlias ++ " ORDER BY " ++ ", ".intercalate (orderKeysLast columnOf primaries orders) ++
    page)

/-- Page by entity over joined rows: the keys of one page first, then their rows. -/
def pagedRows (ds : DataSource) (id : RunnerId) (s : QueryState) : ExecM (List Row) := do
  let main ← ofResult s.mainAlias
  let e ← ofResult main.metadata
  let sql ← ofResult (pageKeysQuery ds.registry s main.name e)
  let (sql, params) ← ofResult (s.dialect.bindNamed sql s.parameters s.nativeParameters)
  let idRows := (← ds.query id sql params).rows
  if idRows.isEmpty then return []
  ds.loadRaw id (pageRestricted s main.name e.primaryColumns idRows)

def rawRows (ds : DataSource) (id : RunnerId) (s : QueryState) : ExecM (List Row) := do
  checkLock s id
  if s.needsTwoPhase then ds.pagedRows id s else ds.loadRaw id s

def getRawMany (ds : DataSource) (given : Option RunnerId) (s : QueryState) : ExecM (List Row) := do
  ofResult s.check
  ds.inRunner given .slave s.useTransaction fun id => ds.rawRows id s

end DataSource

end EntitySql
