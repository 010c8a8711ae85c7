import EntitySql.Execute.Raw
import EntitySql.Hydration.Entities

/-!
# Loading related ids and counts

A select can ask for the ids, or the number, of the rows related to each loaded entity by a
relation. They are read before the entities are built, one request at a time, on the select's
runner.

* The ids of a to-one relation the entity owns are its own join columns, already in the rows:
  the first row of each parent gives them.
* Otherwise the related rows of the distinct parents are read from the table holding the keys,
  with the related ids as `id_0`, `id_1`, and so on; every related row adds its id to its
  parent's list. A debug event tells how many parents were asked for.
* Counts group the related rows by the parent key and count them. A to-one relation the entity
  owns has nothing to count, and asking for it is a usage error.

Without parents nothing is read.
-/

namespace EntitySql

namespace DataSource

open ExecM Hydration

/-- The related ids of one relation loaded into a property. -/
def loadRelatedIds (ds : DataSource) (id : RunnerId) (s : QueryState) (rows : List Row)
    (r : RelationAttribute) : ExecM RelatedIds := do
  let d := s.dialect
  let parent ← ofResult ((s.aliases.get r.parentAlias).bind Alias.metadata)
  let rel := r.relation
  match ← ofResult (RelatedKeys.resolve ds.registry parent rel) with
  | none =>
    let parentColumns := rel.joinColumns.map (·.databaseName)
    let referenced := rel.joinColumns.map (·.referencedColumn)
    let ids := rows.foldl (fun (acc : List (String × List Json)) row =>
      let values := parentColumns.map fun c => row.get? (d.buildColumnAlias r.parentAlias c)
      match keyOf values with
      | some k => if acc.any (·.1 = k) then acc else acc ++ [(k, [idValue referenced values])]
      | none => acc) []
    pure { request := r, parentColumns, ids }
  | some k =>
    let parentColumns := k.parentKeyColumns
    let parents := collectParents d rows r.parentAlias parentColumns
    if parents.isEmpty then return { request := r, parentColumns, ids := [] }
    let properties := k.idColumns.map (·.2)
    let q := (k.query ds.selectBuilder ds.registry parents).apply do
      for ((column, _), i) in k.idColumns.zipIdx do
        Select.addSelectAs (RelatedKeys.columnRef d column) ("id_" ++ toString i)
    emit { level := .debug, target := TraceEvent.hydrationTarget,
           message := some "loading relation ids",
           fields := [("relation", .str rel.propertyPath), ("parents", .int parents.length)] }
    let found ← ds.getRawMany (some id) q
    let width := k.parentColumns.length
    let ids := found.foldl (fun acc row =>
      match parentKey row width with
      | some key => pushAt acc key (idValue properties ((numbered "id_" properties.length).map row.get?))
      | none => acc) []
    pure { request := r, parentColumns, ids }

/-- The related row counts of one relation loaded into a property. -/
def loadRelatedCounts (ds : DataSource) (id : RunnerId) (s : QueryState) (rows : List Row)
    (r : RelationAttribute) : ExecM RelatedCounts := do
  let d := s.dialect
  let parent ← ofResult ((s.aliases.get r.parentAlias).bind Alias.metadata)
  let rel := r.relation
  let some k ← ofResult (RelatedKeys.resolve ds.registry parent rel)
    | throw (.usage ("relation count needs a collection or inverse relation, " ++ parent.name ++
        "." ++ rel.propertyPath ++ " owns its key"))
  let parentColumns := k.parentKeyColumns
  let parents := collectParents d rows r.parentAlias parentColumns
  if parents.isEmpty then return { request := r, parentColumns, counts := [] }
  let q := (k.query ds.selectBuilder ds.registry parents).apply do
    Select.addSelectAs "COUNT(*)" "cnt"
    for (column, _) in k.parentColumns do
      Select.addGroupBy (RelatedKeys.columnRef d column)
  let found ← ds.getRawMany (some id) q
  let width := k.parentColumns.length
  let counts := found.foldl (fun acc row =>
    match parentKey row width with
    | some key => putAt acc key (((row.get? "cnt").bind Value.asI64?).getD 0)
    | none => acc) []
  pure { request := r, parentColumns, counts }

end DataSource

end EntitySql
