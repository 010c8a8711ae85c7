import EntitySql.Schema.Column
import EntitySql.Schema.Relation

/-!
# Entities

An entity is a named record type stored in a table: its columns and relations, and, in a
single-table inheritance hierarchy, its parent with the discriminator value that marks its rows.

The lookups here resolve property paths to columns and read the primary key of an entity
object. A primary key is known only if every primary column has a non-null value.
-/

namespace EntitySql

/-- A child's place in a single-table inheritance hierarchy. -/
structure Inheritance where
  parent : String
  discriminatorValue : String
  deriving Inhabited

/-- An entity type. -/
structure Entity where
  name : String
  tableName : String
  schema : Option String := none
  columns : List Column := []
  relations : List Relation := []
  inheritance : Option Inheritance := none
  /-- The discriminator value of the root of a hierarchy. -/
  discriminatorValue : Option String := none
  /-- The names of the direct children, kept by the registry. -/
  children : List String := []
  deriving Inhabited

namespace Entity

/-- The table, qualified by its schema if there is one. -/
def tablePath (e : Entity) : String :=
  match e.schema with
  | some s => s ++ "." ++ e.tableName
  | none => e.tableName

def parent? (e : Entity) : Option String := e.inheritance.map (·.parent)

def primaryColumns (e : Entity) : List Column := e.columns.filter (·.isPrimary)

def hasMultiplePrimaryKeys (e : Entity) : Bool := e.primaryColumns.length > 1

def versionColumn? (e : Entity) : Option Column := e.columns.find? (·.isVersion)

def updateDateColumn? (e : Entity) : Option Column := e.columns.find? (·.isUpdateDate)

def createDateColumn? (e : Entity) : Option Column := e.columns.find? (·.isCreateDate)

def deleteDateColumn? (e : Entity) : Option Column := e.columns.find? (·.isDeleteDate)

def discriminatorColumn? (e : Entity) : Option Column := e.columns.find? (·.isDiscriminator)

def insertableColumns (e : Entity) : List Column := e.columns.filter fun c => !c.isVirtual ∧ c.isInsert

def findColumnByPath? (e : Entity) (path : String) : Option Column :=
  e.columns.find? fun c => c.relation.isNone ∧ c.propertyPath = path

def findColumnByName? (e : Entity) (name : String) : Option Column :=
  e.columns.find? (·.databaseName = name)

def findRelation? (e : Entity) (path : String) : Option Relation :=
  e.relations.find? (·.propertyPath = path)

/-- The columns a property path denotes: its own column; the join columns of an owning to-one
relation; the join column `relation.referencedProperty`; or every column under an embedded
prefix. -/
def findColumnsByPath (e : Entity) (path : String) : List Column :=
  match e.findColumnByPath? path with
  | some c => [c]
  | none =>
    let joined := e.columns.filter (·.relation = some path)
    if !joined.isEmpty then joined
    else
      let viaReference : List Column :=
        match path.splitOn "." with
        | rel :: rest@(_ :: _) =>
          let referenced := ".".intercalate rest
          e.columns.filter fun c => c.relation = some rel ∧ c.referencedProperty = some referenced
        | _ => []
      if !viaReference.isEmpty then viaReference
      else e.columns.filter fun c => c.relation.isNone ∧ (path ++ ".").isPrefixOf c.propertyPath

/-- The primary key of an entity object, keyed by property path; `none` unless every primary
column has a non-null value. -/
def idMap? (e : Entity) (entity : Fields) : Option Fields :=
  let step := fun (acc : Option Fields) (c : Column) =>
    acc.bind fun ids =>
      match c.getValue? entity with
      | some v => if v.isNull then none else some (Json.insertField c.propertyPath v ids)
      | none => none
  match e.primaryColumns.foldl step (some []) with
  | some [] => none
  | other => other

/-- A primary key given as an object, or as a bare value for an entity with one key column. -/
def ensureIdMap? (e : Entity) (id : Json) : Option Fields :=
  match id with
  | .obj fields => e.idMap? fields
  | .null => none
  | scalar =>
    match e.primaryColumns with
    | [c] => some [(c.propertyPath, scalar)]
    | _ => none

end Entity

end EntitySql
