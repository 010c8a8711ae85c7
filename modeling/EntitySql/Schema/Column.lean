import EntitySql.Schema.ColumnType
import EntitySql.Schema.Path

/-!
# Columns

A column maps a property path of an entity to a database column. Besides its type, a column says
whether it is part of the primary key, may hold null, is generated by the database, has a
special role (creation, update and deletion dates, the version counter, the discriminator of an
inheritance hierarchy), is computed by queries only (virtual), and takes part in selects,
inserts and updates.

A join column of a to-one relation is stored under the relation's property: the entity holds
either the related object, whose referenced property is the key, or the bare key itself.
-/

namespace EntitySql

/-- How a column gets its value when an insert does not give one. -/
inductive Generation where
  | increment
  | uuid
  | rowid
  deriving DecidableEq, Repr, Inhabited

/-- The name of a generation strategy. -/
def Generation.name : Generation → String
  | .increment => "Increment"
  | .uuid => "Uuid"
  | .rowid => "Rowid"

/-- A column of an entity. -/
structure Column where
  /-- Dotted path inside the entity object. -/
  propertyPath : String
  databaseName : String
  type : ColumnType
  isPrimary : Bool := false
  isNullable : Bool := false
  generation : Option Generation := none
  isCreateDate : Bool := false
  isUpdateDate : Bool := false
  isDeleteDate : Bool := false
  isVersion : Bool := false
  isDiscriminator : Bool := false
  /-- Computed by a query, never stored. -/
  isVirtual : Bool := false
  isSelect : Bool := true
  isInsert : Bool := true
  isUpdate : Bool := true
  /-- Default expression of the database. -/
  default : Option String := none
  /-- The owning relation, for a join column. -/
  relation : Option String := none
  /-- The property of the referenced entity, for a join column. -/
  referencedProperty : Option String := none
  deriving Inhabited

namespace Column

def new (path : String) (t : ColumnType) : Column :=
  { propertyPath := path, databaseName := "_".intercalate (path.splitOn "."), type := t }

def named (c : Column) (n : String) : Column := { c with databaseName := n }

def primary (c : Column) : Column := { c with isPrimary := true }

def nullable (c : Column) : Column := { c with isNullable := true }

def generated (c : Column) (g : Generation) : Column := { c with generation := some g }

def defaultExpr (c : Column) (e : String) : Column := { c with default := some e }

def hidden (c : Column) : Column := { c with isSelect := false }

def readonly (c : Column) : Column := { c with isInsert := false, isUpdate := false }

def entityProperty (c : Column) : String := c.relation.getD c.propertyPath

/-- The column's value in an entity. For a join column: the referenced property of the related
object, or the bare value held under the relation (null included). -/
def getValue? (c : Column) (entity : Fields) : Option Json :=
  match c.relation with
  | some rel =>
    match Json.findField? rel entity with
    | none => none
    | some (.obj related) =>
      match c.referencedProperty with
      | some r => Json.getPath? related r
      | none => none
    | some other => some other
  | none => Json.getPath? entity c.propertyPath

/-- Write the column's value into an entity. A join column writes into the related object,
creating it unless the value is null, in which case the relation becomes null. -/
def setValue (c : Column) (entity : Fields) (v : Json) : Fields :=
  match c.relation with
  | some rel =>
    let referenced := c.referencedProperty.getD "id"
    match Json.findField? rel entity with
    | some (.obj related) => Json.insertField rel (.obj (Json.setPath related referenced v)) entity
    | _ =>
      if v.isNull then Json.insertField rel .null entity
      else Json.insertField rel (.obj (Json.setPath [] referenced v)) entity
  | none => Json.setPath entity c.propertyPath v

end Column

end EntitySql
