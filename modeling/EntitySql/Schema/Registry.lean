import EntitySql.Schema.Entity
import EntitySql.Error

/-!
# The registry of entities

The registry holds every entity by name, and for each child of a single-table hierarchy the name
of its parent. Registering a child needs its parent registered first: the child takes the
parent's table, and the parent's columns and relations, each replaced by the child's own member
of the same property path; the parent records the child.

An entity is found by its name, else by the table of an entity that is no child. Registering a
name again replaces the entity in its place.
-/

namespace EntitySql

/-- All known entities. -/
structure Registry where
  /-- The entities, in the order of their first registration. -/
  entities : List Entity := []
  /-- Child name and parent name of each registered child. -/
  parents : List (String × String) := []
  deriving Inhabited

namespace Registry

def byName? (r : Registry) (name : String) : Option Entity := r.entities.find? (·.name = name)

/-- Store an entity under its name, in place if the name is known. -/
def put (r : Registry) (e : Entity) : Registry :=
  if r.entities.any (·.name = e.name) then
    { r with entities := r.entities.map fun x => if x.name = e.name then e else x }
  else { r with entities := r.entities ++ [e] }

/-- The parent's members, each replaced by the child's member of the same property path, then
the child's own members. -/
def mergeMembers {α : Type} (key : α → String) (parent child : List α) : List α :=
  child.foldl (fun acc m => acc.filter (fun x => key x ≠ key m) ++ [m]) parent

/-- Register an entity. -/
def register (r : Registry) (e : Entity) : OrmResult Registry :=
  match e.inheritance with
  | none => .ok (r.put e)
  | some inh =>
    match r.byName? inh.parent with
    | none => .error (.metadataNotFound inh.parent)
    | some parent =>
      let child := { e with
        tableName := parent.tableName
        schema := parent.schema
        columns := mergeMembers (·.propertyPath) parent.columns e.columns
        relations := mergeMembers (·.propertyPath) parent.relations e.relations }
      let parent := if parent.children.contains e.name then parent
        else { parent with children := parent.children ++ [e.name] }
      let r := r.put parent
      let r := { r with parents := (e.name, inh.parent) :: r.parents.filter (·.1 ≠ e.name) }
      .ok (r.put child)

def registerAll (r : Registry) : List Entity → OrmResult Registry
  | [] => .ok r
  | e :: rest => do registerAll (← r.register e) rest

/-- Look an entity up by name, else by the table of an entity that is no child. -/
def find? (r : Registry) (target : String) : Option Entity :=
  match r.byName? target with
  | some e => some e
  | none => r.entities.find? fun e => e.inheritance.isNone ∧ e.tableName = target

/-- Look an entity up, or fail naming the target. -/
def get (r : Registry) (target : String) : OrmResult Entity :=
  match r.find? target with
  | some e => .ok e
  | none => .error (.metadataNotFound target)

def has (r : Registry) (target : String) : Bool := (r.find? target).isSome

def size (r : Registry) : Nat := r.entities.length

/-- The registry with a prefix in front of every table and junction table name. -/
def withTablePrefix (r : Registry) (pre : String) : Registry :=
  if pre.isEmpty then r
  else
    { r with entities := r.entities.map fun e =>
        { e with
          tableName := pre ++ e.tableName
          relations := e.relations.map fun rel =>
            { rel with junction := rel.junction.map fun j => { j with tableName := pre ++ j.tableName } } } }

def parentOf? (r : Registry) (name : String) : Option String := r.parents.lookup name

/-- Whether `entity` is `ancestor` or inherits from it. The walk is bounded by the number of
recorded parents, which a chain without cycles never exceeds. -/
def isSubtypeOf (r : Registry) (entity ancestor : String) : Bool :=
  let rec go (fuel : Nat) (name : String) : Bool :=
    if name = ancestor then true
    else
      match fuel, r.parentOf? name with
      | fuel + 1, some p => go fuel p
      | _, _ => false
  go (r.parents.length + 1) entity

/-- The registered entities among the children an entity records. -/
def kids (r : Registry) (name : String) : List Entity :=
  match r.byName? name with
  | some e => e.children.filterMap r.byName?
  | none => []

/-- The descendants of an entity, as a work list visits them: its children in order, then,
taking the last child first, the descendants of each child. The walk goes down at most one level
more than there are entities, which no chain of children built by registration exceeds. -/
def descendants (r : Registry) (name : String) : List Entity :=
  let rec go : Nat → String → List Entity
    | 0, _ => []
    | fuel + 1, name => r.kids name ++ (r.kids name).reverse.flatMap fun k => go fuel k.name
  go (r.entities.length + 1) name

/-- The relation on the target that points back at a relation, with the target. -/
def inverseRelation (r : Registry) (rel : Relation) : OrmResult (Entity × Relation) := do
  let target ← r.get rel.target
  let name ← match rel.inverseSide with
    | some n => pure n
    | none => throw (.usage ("relation " ++ rel.propertyPath ++ " has no inverse side configured"))
  match target.findRelation? name with
  | some inv => pure (target, inv)
  | none => throw (.columnNotFound target.name name)

/-- The junction of a many-to-many relation, seen from the relation's side: the owner columns
point at the entity holding the relation. -/
def junction (r : Registry) (rel : Relation) : OrmResult Junction := do
  if rel.kind ≠ .manyToMany then
    throw (.usage ("relation " ++ rel.propertyPath ++ " is not many-to-many"))
  match rel.junction with
  | some j => pure j
  | none =>
    let (_, owner) ← r.inverseRelation rel
    match owner.junction with
    | some j => pure ⟨j.tableName, j.inverseColumns, j.ownerColumns⟩
    | none => throw (.usage ("neither side of relation " ++ rel.propertyPath ++
        " defines a junction table"))

end Registry

end EntitySql
