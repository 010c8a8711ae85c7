import EntitySql.Execute.Related

/-!
# Running a select

A select runs on the runner it was given, else on a fresh runner reading from a replica, inside
a transaction when it asks for one. Its first building failure stops it before any runner is
used.

* *Entities.* The rows read become entities (`Hydration.Loaded.entities`) after the related
  ids and counts asked for are loaded. An optimistic lock then compares the expected version
  with the first entity's, and the after-load listeners see the entities, the most deeply
  joined ones first.
* *Counting* drops ordering, grouping, paging and distinctness and counts the distinct primary
  keys of the main alias: one key as is, a composite key as its parts joined by `|;|`, and
  every row when the entity has no key.
* *Existence* wraps the select in `EXISTS` over a one-row table and reads at most one row.
* *Streaming* hands over the rows one by one; a runner made for the stream is released once
  the stream has been read.
-/

namespace EntitySql

namespace DataSource

open ExecM Hydration

/-- The text of a version found in a loaded entity: a string as is, other values as JSON, and
`null` when there is none. -/
def versionText : Option Json → String
  | some (.str s) => s
  | some v => v.render
  | none => "null"

/-- An optimistic lock holds when the first loaded entity has the expected version: the same
number, or an update date at the same millisecond. -/
def checkOptimisticLock (s : QueryState) (e : Entity) (entities : List Fields) :
    OrmResult Unit := do
  if s.lockMode ≠ some .optimistic then return
  let (some expected, some entity) := (s.lockVersion, entities.head?) | return
  let mismatch := fun (actual : Option Json) =>
    OrmError.optimisticLockVersionMismatch e.name expected.text (versionText actual)
  match expected with
  | .version n =>
    let some c := e.versionColumn? | throw (.optimisticLockCannotBeUsed e.name)
    let actual := c.getValue? entity
    if actual.bind Json.asI64? ≠ some n then throw (mismatch actual)
  | .date t =>
    let some c := e.updateDateColumn? | throw (.optimisticLockCannotBeUsed e.name)
    let actual := c.getValue? entity
    let loaded := (actual.bind Json.getStr?).bind fun text =>
      match Timestamp.parseRfc3339 text with
      | .ok stamp => some stamp
      | .error _ => none
    if loaded.map Timestamp.toMillis ≠ some t.toMillis then throw (mismatch actual)

/-- The objects of a loaded value: one object, or the objects of a list. -/
def nestedObjects : Json → Option (List Fields)
  | .obj o => some [o]
  | .arr items => some (items.filterMap Json.getObj?)
  | _ => none

/-- Run the after-load listeners on entities of an alias, after running them, in the same way,
on the entities nested under it; `fuel` bounds the depth. -/
def broadcastLoaded (ds : DataSource) (s : QueryState) :
    Nat → String → Entity → List Fields → OrmResult (List Fields)
  | 0, _, _, entities => .ok entities
  | fuel + 1, aliasName, e, entities => do
    let entities ← s.joins.foldlM (fun entities j => do
      if j.parentAlias? ≠ some aliasName ∨ !(j.selected ∨ j.mapTo.isSome) then return entities
      let some child := (s.aliases.find? j.name).bind (·.entity) | return entities
      let some (property, _) := Loaded.joinProperty j | return entities
      entities.mapM fun entity => do
        let some v := Json.getPath? entity property | return entity
        let some objects := nestedObjects v | return entity
        let nested ← ds.broadcastLoaded s fuel j.name child objects
        let updated : Json := match v with
          | .arr _ => .arr (nested.map .obj)
          | _ => match nested.head? with
            | some o => .obj o
            | none => .null
        pure (Json.setPath entity property updated)) entities
    ds.broadcaster.all .afterLoad e.name entities

/-- The entities of rows read on a runner. -/
def hydrate (ds : DataSource) (id : RunnerId) (s : QueryState) (rows : List Row) :
    ExecM (List Fields) := do
  let main ← ofResult s.mainAlias
  let e ← ofResult main.metadata
  let ids ← s.relationIds.mapM (ds.loadRelatedIds id s rows)
  let counts ← s.relationCounts.mapM (ds.loadRelatedCounts id s rows)
  let loaded : Loaded := { query := s, registry := ds.registry, ids, counts }
  let entities ← ofResult (loaded.entities rows main)
  ofResult (checkOptimisticLock s e entities)
  if s.callListeners && !entities.isEmpty then
    ofResult (ds.broadcastLoaded s (s.joins.length + 1) main.name e entities)
  else pure entities

/-- The rows of a select and the entities read from them. -/
def getRawAndEntities (ds : DataSource) (given : Option RunnerId) (s : QueryState) :
    ExecM (List Row × List Fields) := do
  ofResult s.check
  ds.inRunner given .slave s.useTransaction fun id => do
    let rows ← ds.rawRows id s
    pure (rows, ← ds.hydrate id s rows)

def getMany (ds : DataSource) (given : Option RunnerId) (s : QueryState) : ExecM (List Fields) :=
  (·.2) <$> ds.getRawAndEntities given s

def getOne (ds : DataSource) (given : Option RunnerId) (s : QueryState) :
    ExecM (Option Fields) :=
  (·.head?) <$> ds.getMany given s

/-- The first entity of a select, which must exist. -/
def getOneOrFail (ds : DataSource) (given : Option RunnerId) (s : QueryState) : ExecM Fields := do
  match ← ds.getOne given s with
  | some e => pure e
  | none =>
    let target := match s.mainAlias with
      | .ok a => (a.entity.map (·.name)).getD ""
      | .error _ => ""
    throw (.notFound ("could not find any entity of type \"" ++ target ++ "\" matching the query"))

/-- The select counting the distinct entities of the main alias. -/
def countQuery (s : QueryState) : OrmResult QueryState := do
  let s := { s with orderBys := [], groupBys := [], limit := none, offset := none, skip := none,
                    take := none, distinct := false }
  let main ← s.mainAlias
  let e ← main.metadata
  let keys := e.primaryColumns.map fun c => s.escape main.name ++ "." ++ s.escape c.databaseName
  let counted := match keys with
    | [] => "*"
    | [k] => "DISTINCT(" ++ k ++ ")"
    | ks => "DISTINCT(" ++ s.dialect.concat (ks.intersperse "'|;|'") ++ ")"
  pure { s with selects := [{ expression := "COUNT(" ++ counted ++ ")", label := some "cnt" }] }

/-- Count the entities of a select on a runner; a negative or missing count is zero. -/
def countOn (ds : DataSource) (id : RunnerId) (s : QueryState) : ExecM Nat := do
  checkLock s id
  let rows ← ds.loadRaw id (← ofResult (countQuery s))
  pure (((rows.head?.bind (·.get? "cnt")).bind Value.asI64?).getD 0).toNat

def getCount (ds : DataSource) (given : Option RunnerId) (s : QueryState) : ExecM Nat := do
  ofResult s.check
  ds.inRunner given .slave s.useTransaction fun id => ds.countOn id s

/-- One page of entities and the number of all of them, on one runner. -/
def getManyAndCount (ds : DataSource) (given : Option RunnerId) (s : QueryState) :
    ExecM (List Fields × Nat) := do
  ofResult s.check
  ds.inRunner given .slave s.useTransaction fun id => do
    let rows ← ds.rawRows id s
    let entities ← ds.hydrate id s rows
    pure (entities, ← ds.countOn id s)

/-- The statement asking whether a select finds a row. -/
def existsQuery (ds : DataSource) (s : QueryState) : OrmResult String := do
  let d := s.dialect
  let inner ← s.compileSelect ds.registry
  let dual := match d.dualTable with
    | some t => " FROM " ++ t
    | none => ""
  let page ← d.paginationClause (some 1) none false
  pure ("SELECT 1 AS " ++ s.escape "row_exists" ++ " FROM (SELECT 1 AS " ++ s.escape "dummy_column" ++
    dual ++ ") " ++ s.escape "dummy_table" ++ " WHERE EXISTS (" ++ inner ++ ")" ++ page)

/-- Whether a select finds a row. -/
def getExists (ds : DataSource) (given : Option RunnerId) (s : QueryState) : ExecM Bool := do
  ofResult s.check
  let sql ← ofResult (ds.existsQuery s)
  let (sql, params) ← ofResult (s.dialect.bindNamed sql s.parameters s.nativeParameters)
  ds.inRunner given .slave s.useTransaction fun id => do
    checkLock s id
    pure !(← ds.queryCached id s sql params).isEmpty

/-- The rows of a select as a stream, with the runner made for it, if one was. -/
structure SelectStream where
  rows : RowStream
  owner : Option RunnerId

/-- Open a stream over the rows of a select. A runner made for it is released when opening
fails. -/
def openStream (ds : DataSource) (given : Option RunnerId) (s : QueryState) :
    ExecM SelectStream := do
  ofResult s.check
  let sql ← ofResult (s.selectQuery ds.registry)
  let (sql, params) ← ofResult (s.dialect.bindNamed sql s.parameters s.nativeParameters)
  let id ← match given with
    | some id => pure id
    | none => createRunner .slave
  match ← attempt (do checkLock s id; ds.stream id sql params) with
  | .ok rows => pure { rows, owner := if given.isNone then some id else none }
  | .error e =>
    if given.isNone then ds.releaseQuietly id
    throw e

/-- Close a stream after reading it: the runner made for it is released. -/
def closeStream (ds : DataSource) (st : SelectStream) : ExecM Unit :=
  match st.owner with
  | some id => ds.releaseQuietly id
  | none => pure ()

end DataSource

end EntitySql
