import EntitySql.Schema.Entity

/-!
# Declaring entities

Entities are declared member by member: `Entity.declare name table` starts an entity without
columns, and each function here appends one column or relation. A to-one relation that owns its
foreign key adds one join column per key column, typed as integers and nullable.
-/

namespace EntitySql

namespace Entity

def declare (name table : String) : Entity := { name, tableName := table }

def inSchema (e : Entity) (s : String) : Entity := { e with schema := some s }

def addColumn (e : Entity) (c : Column) : Entity := { e with columns := e.columns ++ [c] }

def addRelation (e : Entity) (r : Relation) : Entity := { e with relations := e.relations ++ [r] }

def column (e : Entity) (path : String) (t : ColumnType) : Entity := e.addColumn (Column.new path t)

def nullableColumn (e : Entity) (path : String) (t : ColumnType) : Entity :=
  e.addColumn (Column.new path t).nullable

def primary (e : Entity) (path : String) (t : ColumnType) : Entity :=
  e.addColumn (Column.new path t).primary

def primaryGenerated (e : Entity) (path : String) : Entity :=
  e.addColumn ((Column.new path .integer).primary.generated .increment)

def primaryUuid (e : Entity) (path : String) : Entity :=
  e.addColumn ((Column.new path .uuid).primary.generated .uuid)

def createDate (e : Entity) (path : String) : Entity :=
  e.addColumn { (Column.new path .timestamp).defaultExpr "CURRENT_TIMESTAMP" with
    isCreateDate := true, isUpdate := false }

def updateDate (e : Entity) (path : String) : Entity :=
  e.addColumn { (Column.new path .timestamp).defaultExpr "CURRENT_TIMESTAMP" with isUpdateDate := true }

def deleteDate (e : Entity) (path : String) : Entity :=
  e.addColumn { (Column.new path .timestamp).nullable with isDeleteDate := true }

def version (e : Entity) (path : String) : Entity :=
  e.addColumn { Column.new path .integer with isVersion := true }

def discriminator (e : Entity) (path rootValue : String) : Entity :=
  { e with discriminatorValue := some rootValue }.addColumn
    { Column.new path .text with isDiscriminator := true }

def extends_ (e : Entity) (parent value : String) : Entity :=
  { e with inheritance := some ⟨parent, value⟩ }

/-- The owning side of a to-one relation with its key columns and the columns they reference. -/
def toOneOwner (e : Entity) (kind : RelationKind) (property target : String)
    (keys : List (String × String)) (inverse : Option String) : Entity :=
  let e := keys.foldl (fun e (col, referenced) =>
    e.addColumn { (Column.new property .integer).named col |>.nullable with
      relation := some property, referencedProperty := some referenced }) e
  e.addRelation
    { propertyPath := property, kind := kind, target := target, isOwning := true,
      inverseSide := inverse, joinColumns := keys.map fun (col, referenced) => ⟨col, referenced⟩ }

/-- A side without the foreign key; `inverse` is the owning property on the target. -/
def inverseOf (e : Entity) (kind : RelationKind) (property target inverse : String) : Entity :=
  e.addRelation
    { propertyPath := property, kind := kind, target := target, isOwning := false,
      inverseSide := some inverse }

def manyToOne (e : Entity) (property target joinColumn : String) : Entity :=
  e.toOneOwner .manyToOne property target [(joinColumn, "id")] none

def manyToOneWith (e : Entity) (property target : String) (keys : List (String × String))
    (inverse : Option String) : Entity :=
  e.toOneOwner .manyToOne property target keys inverse

def oneToOneOwner (e : Entity) (property target joinColumn : String) (inverse : Option String) :
    Entity :=
  e.toOneOwner .oneToOne property target [(joinColumn, "id")] inverse

def oneToOneInverse (e : Entity) (property target inverse : String) : Entity :=
  e.inverseOf .oneToOne property target inverse

def oneToMany (e : Entity) (property target inverse : String) : Entity :=
  e.inverseOf .oneToMany property target inverse

/-- The owning side of a many-to-many relation through a junction table. -/
def manyToMany (e : Entity) (property target table ownerColumn inverseColumn : String)
    (inverse : Option String) : Entity :=
  e.addRelation
    { propertyPath := property, kind := .manyToMany, target := target, isOwning := true,
      inverseSide := inverse, junction := some ⟨table, [⟨ownerColumn, "id"⟩], [⟨inverseColumn, "id"⟩]⟩ }

def manyToManyInverse (e : Entity) (property target inverse : String) : Entity :=
  e.inverseOf .manyToMany property target inverse

end Entity

end EntitySql
