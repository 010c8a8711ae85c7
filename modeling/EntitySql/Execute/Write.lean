import EntitySql.Execute.Select

/-!
# Running inserts, updates and deletes

A write runs on the runner it was given, else on a fresh runner writing to the primary, inside
a transaction when it asks for one. Its first building failure stops it before any runner is
used.

* *Listeners.* When the query calls listeners and writes an entity, the before-listeners see
  the rows to insert or the values to set (else the entities the query was restricted to, else
  one empty object) and may change them; an insert and an update then bind their values
  afresh. The after-listeners see them once the statement ran, with what the database reported
  for the first row merged in (for an insert, what it reported for each row).
* *What an insert reports.* Returned rows give each inserted row its generated values. With no
  rows returned, a reported insert id gives an auto-increment key to the rows that had none:
  counting up from the first row or down from the last, as the dialect reports it, by the
  position of the row in the whole batch and in signed 64-bit arithmetic that wraps. The
  identifier of a row is the primary key of the row with its generated values, if complete.
-/

namespace EntitySql

/-- What an insert reports. -/
structure InsertResult where
  /-- The primary key of each inserted row, when it is known. -/
  identifiers : List (Option Fields)
  /-- The values generated for each inserted row. -/
  generatedMaps : List Fields
  raw : Json

namespace InsertResult

/-- The rows written with their generated values. -/
def merged (r : InsertResult) (rows : List Fields) : List Fields :=
  rows.zipIdx.map fun (row, i) => match r.generatedMaps[i]? with
    | some g => g.foldl (fun acc (path, v) => Json.setPath acc path v) row
    | none => row

/-- The report of an insert as JSON. -/
def toJson (r : InsertResult) : Json :=
  let idJson := fun (m : Option Fields) => match m with
    | some m => Json.obj m
    | none => Json.null
  Json.ofFields [("identifiers", .arr (r.identifiers.map idJson)),
    ("generated_maps", .arr (r.generatedMaps.map .obj)), ("raw", r.raw),
    ("identifier", idJson (r.identifiers.head?.bind id))]

end InsertResult

namespace QueryState

/-- The generated values of inserted rows, from the rows the database returned or from the
insert id it reported. -/
def insertedValues (s : QueryState) (e? : Option Entity) (r : DriverResult) : List Fields :=
  let blank : List Fields := s.valuesSet.map fun _ => []
  if !r.rows.isEmpty then
    blank.zipIdx.map fun (g, i) => match r.rows[i]? with
      | some row => (s.generatedMap row).foldl (fun acc (k, v) => Json.insertField k v acc) g
      | none => g
  else
    match e?, r.insertId.bind Value.asI64? with
    | some e, some first =>
      match e.primaryColumns with
      | [c] =>
        if c.generation ≠ some .increment then blank
        else
          let count : Int := blank.length
          (s.valuesSet.zipIdx).map fun (row, i) =>
            if (c.getValue? row).any (!·.isNull) then []
            else match s.dialect.insertIdStrategy with
              | .firstOfBatch => Json.setPath [] c.propertyPath (.int (Value.wrapI64 (first + i)))
              | .lastOfBatch =>
                Json.setPath [] c.propertyPath (.int (Value.wrapI64 (first - (count - 1 - i))))
              | .none => []
      | _ => blank
    | _, _ => blank

/-- The report of an insert whose statement gave a result. -/
def insertResult (s : QueryState) (e? : Option Entity) (r : DriverResult) : InsertResult :=
  let generated := s.insertedValues e? r
  let identifiers := match e? with
    | some e => (s.valuesSet.zip generated).map fun (row, g) =>
      e.idMap? (g.foldl (fun acc (path, v) => Json.setPath acc path v) row)
    | none => s.valuesSet.map fun _ => none
  { identifiers, generatedMaps := generated, raw := r.raw }

/-- The listener points around a write of this kind. -/
def writePoints (s : QueryState) : Option (ListenerKind × ListenerKind) :=
  match s.kind with
  | .update => some (.beforeUpdate, .afterUpdate)
  | .delete => some (.beforeRemove, .afterRemove)
  | .softDelete => some (.beforeSoftRemove, .afterSoftRemove)
  | .restore => some (.beforeRecover, .afterRecover)
  | _ => none

/-- The statement of an update, delete, soft delete or restore. -/
def writeStatement (s : QueryState) : OrmResult String :=
  match s.kind with
  | .update => s.compileUpdate
  | .delete => s.compileDelete
  | _ => s.compileSoftDelete

/-- Run a building step that must succeed. -/
def run (s : QueryState) (step : QueryM Unit) : OrmResult QueryState :=
  match (step.run).run s with
  | (.ok (), s) => .ok s
  | (.error e, _) => .error e

end QueryState

namespace DataSource

open ExecM

/-- Run an insert. -/
def executeInsert (ds : DataSource) (given : Option RunnerId) (s : QueryState) :
    ExecM InsertResult := do
  ofResult s.check
  let e? := (← ofResult s.mainAlias).entity
  let listen := if s.callListeners then e? else none
  ds.inRunner given .master s.useTransaction fun id => do
    let s ← match listen with
      | some e => do
        let rows ← ofResult (ds.broadcaster.all .beforeInsert e.name s.valuesSet)
        ofResult ({ s with valuesSet := rows }.run Insert.bindCells)
      | none => pure s
    let sql ← ofResult s.compileInsert
    let (sql, params) ← ofResult (s.dialect.bindNamed sql s.parameters s.nativeParameters)
    let result := s.insertResult e? (← ds.query id sql params)
    if let some e := listen then
      let _ ← ofResult (ds.broadcaster.all .afterInsert e.name (result.merged s.valuesSet))
    pure result

/-- Run an update, delete, soft delete or restore: the statement's result. -/
def executeWrite (ds : DataSource) (given : Option RunnerId) (s : QueryState) :
    ExecM DriverResult := do
  ofResult s.check
  let main ← ofResult s.mainAlias
  let listen := if s.callListeners then
      s.writePoints.bind fun points => main.entity.map fun e => (points, e)
    else none
  ds.inRunner given .master s.useTransaction fun id => do
    let subjects := if !s.valuesSet.isEmpty then s.valuesSet
      else if !s.whereEntities.isEmpty then s.whereEntities
      else [[]]
    let (s, subjects) ← match listen with
      | some ((before, _), e) => do
        let subjects ← ofResult (ds.broadcaster.all before e.name subjects)
        if s.kind = .update && !s.valuesSet.isEmpty then
          pure (← ofResult ({ s with valuesSet := subjects }.run Update.bindAssignments), subjects)
        else pure (s, subjects)
      | none => pure (s, subjects)
    let sql ← ofResult s.writeStatement
    let (sql, params) ← ofResult (s.dialect.bindNamed sql s.parameters s.nativeParameters)
    let result ← ds.query id sql params
    if let some ((_, after), e) := listen then
      let subjects := match subjects, result.rows.head? with
        | first :: rest, some row =>
          (s.generatedMap row).foldl (fun acc (path, v) => Json.setPath acc path v) first :: rest
        | _, _ => subjects
      let _ ← ofResult (ds.broadcaster.all after e.name subjects)
    pure result

/-- The report of an update, soft delete or restore as JSON. -/
def updateReport (s : QueryState) (r : DriverResult) : Json :=
  Json.ofFields [("affected", match r.affected with
      | some n => .int n
      | none => .null),
    ("generated_maps", .arr (r.rows.map fun row => .obj (s.generatedMap row))), ("raw", r.raw)]

/-- The report of a delete as JSON. -/
def deleteReport (r : DriverResult) : Json :=
  Json.ofFields [("affected", match r.affected with
      | some n => .int n
      | none => .null), ("raw", r.raw)]

end DataSource

end EntitySql
