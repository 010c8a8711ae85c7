import EntitySql.Change.Equal
import EntitySql.Schema.Entity

/-!
# Changes of an entity

The changes of an entity object against the row last loaded: each column the object holds whose
value differs from the loaded one (or has none loaded), and each owned to-one relation the object
holds whose key differs. Columns that the database maintains or never writes (join columns,
virtual, not updatable, version, dates, discriminator) make no change. Without a loaded row every
present value is a change.
-/

namespace EntitySql

/-- What a change writes. -/
inductive ChangeTarget where
  | column (c : Column)
  | relation (r : Relation)

def ChangeTarget.propertyPath : ChangeTarget → String
  | .column c => c.propertyPath
  | .relation r => r.propertyPath

/-- One changed property with its new value. -/
structure Change where
  target : ChangeTarget
  value : Json

namespace Entity

def untracked (c : Column) : Bool :=
  c.relation.isSome ∨ c.isVirtual ∨ !c.isUpdate ∨ c.isVersion ∨ c.isCreateDate ∨ c.isUpdateDate ∨
    c.isDeleteDate ∨ c.isDiscriminator

/-- The changed columns. -/
def columnChanges (e : Entity) (entity : Fields) (database : Option Fields) : List Change :=
  e.columns.filterMap fun c =>
    if untracked c then none
    else
      match c.getValue? entity with
      | none => none
      | some v =>
        match database.bind c.getValue? with
        | some loaded => if c.type.sameValue v loaded then none else some ⟨.column c, v⟩
        | none => some ⟨.column c, v⟩

/-- Whether every join column of a relation holds the same key in both objects. -/
def sameKey (e : Entity) (rel : Relation) (entity db : Fields) : Bool :=
  (e.columns.filter (·.relation = some rel.propertyPath)).all fun c =>
    match c.getValue? entity, c.getValue? db with
    | some a, some b => c.type.sameValue a b
    | none, none => true
    | _, _ => false

/-- The changed owned to-one relations. -/
def relationChanges (e : Entity) (entity : Fields) (database : Option Fields) : List Change :=
  (e.relations.filter (·.isToOneOwner)).filterMap fun rel =>
    match Json.findField? rel.propertyPath entity with
    | none => none
    | some v =>
      let unchanged := match database with
        | some db => e.sameKey rel entity db
        | none => false
      if unchanged then none else some ⟨.relation rel, v⟩

def diff (e : Entity) (entity : Fields) (database : Option Fields) : List Change :=
  e.columnChanges entity database ++ e.relationChanges entity database

end Entity

/-- The changes as an object to update with: columns at their paths, relations under their
property. -/
def Change.values (changes : List Change) : Fields :=
  changes.foldl (fun acc ch =>
    match ch.target with
    | .column c => Json.setPath acc c.propertyPath ch.value
    | .relation r => Json.insertField r.propertyPath ch.value acc) []

end EntitySql
