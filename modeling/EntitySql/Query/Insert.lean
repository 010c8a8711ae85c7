import EntitySql.Query.Clauses

/-!
# Inserts

The rows of an insert are entity objects. For an entity, the written columns are its insertable
columns that at least one row gives a value for (a version column starts at 1 and the
discriminator takes the entity's value when a row has none); a cell without a value is written
as the dialect's default keyword. For a plain table the columns are the keys of the rows, in
the order first seen. Cell `c` of row `r` is bound to the parameter `orm_insert_r_c`; the
parameters are bound again whenever the rows or the table change.

A conflict is handled by a given `ON CONFLICT` text, by an upsert of some columns (`ON CONFLICT
… DO UPDATE` or `ON DUPLICATE KEY UPDATE`, optionally only where a value changed), or by
ignoring the row (a keyword of the dialect, else `ON CONFLICT DO NOTHING`).
-/

namespace EntitySql

def insertParameter (row column : Nat) : String :=
  "orm_insert_" ++ toString row ++ "_" ++ toString column

/-- The written columns of an insert and the value of each cell, if any. -/
structure InsertShape where
  columns : List String
  rows : List (List (Option Value))

namespace QueryState

/-- The value a row gives a column of an entity. -/
def cellValue (s : QueryState) (e : Entity) (c : Column) (row : Fields) : Option Value :=
  match c.getValue? row with
  | some v => some (Dialect.toStored s.dialect c.type v)
  | none =>
    if c.isVersion then some (.int 1)
    else if c.isDiscriminator then
      let own := match e.inheritance with
        | some i => some i.discriminatorValue
        | none => e.discriminatorValue
      own.map Value.text
    else none

def firstSeenKeys (rows : List Fields) : List String :=
  rows.foldl (fun acc row => row.foldl (fun acc (k, _) => if acc.contains k then acc else acc ++ [k]) acc) []

/-- The written columns and cells of the rows. -/
def insertShape (s : QueryState) : OrmResult InsertShape := do
  let main ← s.mainAlias
  match main.entity with
  | none =>
    let columns := firstSeenKeys s.valuesSet
    pure { columns, rows := s.valuesSet.map fun row =>
      columns.map fun c => (Json.findField? c row).map Value.ofJson }
  | some e =>
    let written := e.insertableColumns.filterMap fun c =>
      let cells := s.valuesSet.map (s.cellValue e c)
      if cells.all Option.isNone then none else some (c.databaseName, cells)
    pure { columns := written.map (·.1),
           rows := (List.range s.valuesSet.length).map fun r =>
             written.map fun (_, cells) => (cells[r]?).getD none }

end QueryState

namespace Insert

/-- Bind the cells of the rows afresh; the old cells are dropped first, also when reading the
rows fails. -/
def bindCells : QueryM Unit := do
  let s ← get
  if s.valuesSet.isEmpty ∨ !s.aliases.hasMain then return
  modify fun s => { s with parameters := s.parameters.filter fun (k, _) => !"orm_insert_".isPrefixOf k }
  let shape ← QueryM.lift (← get).insertShape
  QueryM.mergeParameters (shape.rows.zipIdx.flatMap fun (row, r) =>
    row.zipIdx.filterMap fun (v, c) => v.map fun v => (insertParameter r c, v))

def bindValues : QueryM Unit := do
  let _ ← QueryM.record bindCells

/-- Insert into an entity or table. -/
def intoTable (reg : Registry) (target : String) : QueryM Unit := do
  modify fun s => { s with aliases := s.aliases.removeKind .source }
  let _ ← QueryM.record (registerMain reg target none)
  bindValues

def values (rows : List Fields) : QueryM Unit := do
  modify fun s => { s with valuesSet := rows }
  bindValues

def orIgnore : QueryM Unit := modify fun s => { s with onIgnore := true }

def onConflict (statement : String) : QueryM Unit := modify fun s => { s with onConflict := some statement }

def orUpdate (u : Upsert) : QueryM Unit := modify fun s => { s with onUpdate := some u }

end Insert

namespace QueryState

/-- The database names of property paths, a path without columns standing for itself. -/
def columnNames (s : QueryState) (paths : List String) : List String :=
  paths.flatMap fun p =>
    let found := match s.mainEntity? with
      | some e => (e.findColumnsByPath p).map (·.databaseName)
      | none => []
    if found.isEmpty then [p] else found

/-- What an insert does on a conflict. -/
def conflictClause (s : QueryState) (table : String) (ignoredByKeyword : Bool) : OrmResult String := do
  let d := s.dialect
  let _ ← s.mainAlias
  match s.onConflict with
  | some statement =>
    if d.upsertStyle = .onConflict then pure (" ON CONFLICT " ++ statement)
    else throw (.dialectUnsupported d.name "ON CONFLICT")
  | none =>
  match s.onUpdate with
  | some u =>
    let columns := s.columnNames u.columns
    match d.upsertStyle with
    | .onConflict =>
      let target := s.columnNames u.conflictTarget
      let targetSql := if target.isEmpty then "" else " ( " ++ ", ".intercalate (target.map s.escape) ++ " )"
      let sets := columns.map fun c => s.escape c ++ " = EXCLUDED." ++ s.escape c
      let changed ← if u.skipUnchanged ∧ !columns.isEmpty then do
          let tests ← columns.mapM fun c =>
            d.distinctFrom (table ++ "." ++ s.escape c) ("EXCLUDED." ++ s.escape c)
          pure (" WHERE (" ++ " OR ".intercalate tests ++ ")")
        else pure ""
      pure (" ON CONFLICT" ++ targetSql ++ " DO UPDATE SET " ++ ", ".intercalate sets ++ changed)
    | .onDuplicateKey =>
      let sets := columns.map fun c => s.escape c ++ " = VALUES(" ++ s.escape c ++ ")"
      pure (" ON DUPLICATE KEY UPDATE " ++ ", ".intercalate sets)
    | .unsupported => throw (.dialectUnsupported d.name "upsert")
  | none =>
    if s.onIgnore ∧ !ignoredByKeyword then
      if d.upsertStyle = .onConflict then pure " ON CONFLICT DO NOTHING"
      else throw (.dialectUnsupported d.name "INSERT ... ignoring conflicts")
    else pure ""

/-- The insert statement. -/
def compileInsert (s : QueryState) : OrmResult String := do
  let d := s.dialect
  if s.valuesSet.isEmpty then throw .insertValuesMissing
  let table ← s.mainTable
  let shape ← s.insertShape
  let returning ← s.returningColumns .insert
  let keyword := if s.onIgnore then d.insertIgnoreKeyword else none
  let head := keyword.getD "INSERT" ++ " INTO " ++ table
  let body ← if shape.columns.isEmpty then do
      if shape.rows.length > 1 then
        throw (.usage "cannot insert several rows without any column value")
      pure (s.outputClause .insert returning ++ " " ++ d.emptyValuesClause)
    else
      let rows := shape.rows.zipIdx.map fun (row, r) =>
        "(" ++ ", ".intercalate (row.zipIdx.map fun (v, c) =>
          match v with
          | some _ => ":" ++ insertParameter r c
          | none => d.defaultKeyword) ++ ")"
      pure ("(" ++ ", ".intercalate (shape.columns.map s.escape) ++ ")" ++
        s.outputClause .insert returning ++ " VALUES " ++ ", ".intercalate rows)
  let conflict ← s.conflictClause table keyword.isSome
  pure (head ++ body ++ conflict ++ s.returningClause returning)

end QueryState

end EntitySql
