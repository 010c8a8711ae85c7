/-!
# Relations

A relation links an entity to a target entity. Its kind says how many on each side. The owning
side of a to-one relation holds the foreign key in join columns; the owning side of a
many-to-many relation names a junction table, whose owner columns point at the owner and whose
inverse columns point at the target. The other side of a relation names the owning property on
its target as its inverse side.
-/

namespace EntitySql

/-- How many entities each side of a relation holds. -/
inductive RelationKind where
  | manyToOne
  | oneToOne
  | oneToMany
  | manyToMany
  deriving DecidableEq, Repr, Inhabited

namespace RelationKind

/-- The name of a kind. -/
def name : RelationKind → String
  | manyToOne => "many-to-one"
  | oneToOne => "one-to-one"
  | oneToMany => "one-to-many"
  | manyToMany => "many-to-many"

def isCollection : RelationKind → Bool
  | oneToMany | manyToMany => true
  | _ => false

end RelationKind

/-- One column of a foreign key. -/
structure JoinColumn where
  /-- The column on the owning or junction table. -/
  databaseName : String
  /-- The column it references. -/
  referencedColumn : String
  deriving DecidableEq, Repr, Inhabited

/-- The table behind a many-to-many relation. -/
structure Junction where
  tableName : String
  ownerColumns : List JoinColumn
  inverseColumns : List JoinColumn
  deriving DecidableEq, Repr, Inhabited

/-- A relation of an entity. -/
structure Relation where
  propertyPath : String
  kind : RelationKind
  /-- The target entity's name. -/
  target : String
  isOwning : Bool
  inverseSide : Option String
  joinColumns : List JoinColumn := []
  junction : Option Junction := none
  isNullable : Bool := true
  deriving Inhabited

namespace Relation

def isToOne (r : Relation) : Bool := r.kind = .manyToOne ∨ r.kind = .oneToOne

def isToOneOwner (r : Relation) : Bool :=
  r.kind = .manyToOne ∨ (r.kind = .oneToOne ∧ r.isOwning)

def isToOneOrManyInverse (r : Relation) : Bool :=
  r.kind = .oneToMany ∨ (r.kind = .oneToOne ∧ !r.isOwning)

def isCollection (r : Relation) : Bool := r.kind.isCollection

end Relation

end EntitySql
