import EntitySql.Query.Builder
import EntitySql.Query.Select

/-!
# Keys of loaded rows and of related rows

Loaded rows are grouped into entities, and related ids and counts are matched to their parents,
by a *key*: the texts of some values joined by `|`, where a missing or null value stands as the
character 0, which no value's text holds. A row whose values are all missing or null has no
key: it belongs to no entity (an unmatched left join) and to no parent.

The keys of a relation's related rows live in a table of their own: the junction table of a
many-to-many relation, else the target of the relation's inverse side. A to-one relation owned
by its entity keeps them in the entity's own join columns, and needs no table. The related rows
of some parents are read by a select over that table under the alias `rel`, which names the
parent key `parent_0`, `parent_1`, and so on. A single-column parent key becomes one list
parameter; a composite key one alternative per parent, or a condition that never holds when
there are no parents.
-/

namespace EntitySql

namespace Hydration

def nullKeyPart : String := "\x00"

/-- The key of some values: their texts joined by `|`, unless all are missing or null. -/
def keyOf (values : List (Option Value)) : Option String :=
  if values.all fun v => v.all Value.isNull then none
  else some ("|".intercalate (values.map fun
    | some v => if v.isNull then nullKeyPart else v.keyText
    | none => nullKeyPart))

/-- Exactly the values that are all missing or null have no key. -/
theorem keyOf_eq_none_iff (values : List (Option Value)) :
    keyOf values = none ↔ values.all (fun v => v.all Value.isNull) = true := by
  unfold keyOf
  split <;> simp_all

def rowKey (d : Dialect) (row : Row) (aliasName : String) (columns : List String) :
    Option String :=
  keyOf (columns.map fun c => row.get? (d.buildColumnAlias aliasName c))

/-- The distinct keyed values of some columns of an alias, in the order first seen. -/
def collectParents (d : Dialect) (rows : List Row) (aliasName : String) (columns : List String) :
    List (List Value) :=
  let (_, parents) := rows.foldl (fun (acc : List String × List (List Value)) row =>
    let (seen, parents) := acc
    match rowKey d row aliasName columns with
    | some k =>
      if seen.contains k then acc
      else (seen ++ [k], parents ++ [columns.map fun c =>
        (row.get? (d.buildColumnAlias aliasName c)).getD .null])
    | none => acc) ([], [])
  parents

def numbered (pre : String) (width : Nat) : List String :=
  (List.range width).map fun i => pre ++ toString i

def parentKey (row : Row) (width : Nat) : Option String :=
  keyOf ((numbered "parent_" width).map row.get?)

/-- The database name of a property of an entity, or the property itself when no column has
it. -/
def columnNameOf (e : Entity) (property : String) : String :=
  match e.findColumnByPath? property with
  | some c => c.databaseName
  | none => property

/-- Add a value to the list under a key, opening the list when the key is new. -/
def pushAt {α : Type} (groups : List (String × List α)) (k : String) (a : α) :
    List (String × List α) :=
  if groups.any (·.1 = k) then groups.map fun (k', as) => if k' = k then (k', as ++ [a]) else (k', as)
  else groups ++ [(k, [a])]

def putAt {α : Type} (pairs : List (String × α)) (k : String) (a : α) : List (String × α) :=
  if pairs.any (·.1 = k) then pairs.map fun (k', b) => if k' = k then (k', a) else (k', b)
  else pairs ++ [(k, a)]

/-- Pushing under a key keeps the keys in place and adds a new key last. -/
theorem pushAt_keys {α : Type} (groups : List (String × List α)) (k : String) (a : α) :
    (pushAt groups k a).map (·.1) =
      if groups.any (·.1 = k) then groups.map (·.1) else groups.map (·.1) ++ [k] := by
  unfold pushAt
  split
  · simp only [List.map_map]
    congr 1
    funext p
    simp only [Function.comp]
    split <;> rfl
  · simp

/-- Setting under a key keeps the keys in place and adds a new key last. -/
theorem putAt_keys {α : Type} (pairs : List (String × α)) (k : String) (a : α) :
    (putAt pairs k a).map (·.1) =
      if pairs.any (·.1 = k) then pairs.map (·.1) else pairs.map (·.1) ++ [k] := by
  unfold putAt
  split
  · simp only [List.map_map]
    congr 1
    funext p
    simp only [Function.comp]
    split <;> rfl
  · simp

/-- Where the keys of a relation's related rows live. -/
structure RelatedKeys where
  /-- The entity name or junction table read. -/
  target : String
  /-- Pairs of a column on the target and the parent column it holds. -/
  parentColumns : List (String × String)
  /-- Pairs of a column on the target and the property of the related entity it holds. -/
  idColumns : List (String × String)

namespace RelatedKeys

/-- The table holding the keys of a relation of a parent entity; none for a to-one relation
the parent owns. -/
def resolve (reg : Registry) (parent : Entity) (rel : Relation) :
    OrmResult (Option RelatedKeys) := do
  if rel.isToOneOwner then return none
  if rel.kind = .manyToMany then
    let j ← reg.junction rel
    return some {
      target := j.tableName
      parentColumns := j.ownerColumns.map fun jc =>
        (jc.databaseName, columnNameOf parent jc.referencedColumn)
      idColumns := j.inverseColumns.map fun jc => (jc.databaseName, jc.referencedColumn) }
  let (target, inverse) ← reg.inverseRelation rel
  pure (some {
    target := target.name
    parentColumns := inverse.joinColumns.map fun jc =>
      (jc.databaseName, columnNameOf parent jc.referencedColumn)
    idColumns := target.primaryColumns.map fun c => (c.databaseName, c.propertyPath) })

def parentKeyColumns (k : RelatedKeys) : List String := k.parentColumns.map (·.2)

def columnRef (d : Dialect) (column : String) : String :=
  d.escape "rel" ++ "." ++ d.escape column

/-- The condition matching the related rows of some parents, with its parameters. -/
def condition (k : RelatedKeys) (d : Dialect) (parents : List (List Value)) : RawCondition :=
  match k.parentColumns with
  | [(column, _)] =>
    { sql := columnRef d column ++ " IN (:...orm_relation_parents)"
      params := [("orm_relation_parents", .array (parents.filterMap List.head?))]
      verbatim := true }
  | columns =>
    let keyed := parents.zipIdx.map fun (values, i) =>
      (columns.zip values).zipIdx.map fun ((pair, v), j) =>
        let column := pair.1
        let name := "orm_relation_parent_" ++ toString i ++ "_" ++ toString j
        (columnRef d column ++ " = :" ++ name, (name, v))
    let alternatives := keyed.map fun (keys : List (String × String × Value)) =>
      "(" ++ " AND ".intercalate (keys.map (·.1)) ++ ")"
    { sql := if alternatives.isEmpty then "0=1" else "(" ++ " OR ".intercalate alternatives ++ ")"
      params := keyed.flatMap fun (keys : List (String × String × Value)) => keys.map (·.2)
      verbatim := true }

/-- The select over the related rows of some parents, naming the parent key `parent_i`. -/
def query (k : RelatedKeys) (base : QueryState) (reg : Registry) (parents : List (List Value)) :
    QueryState :=
  base.apply do
    Select.from reg k.target "rel"
    for ((column, _), i) in k.parentColumns.zipIdx do
      Select.addSelectAs (columnRef base.dialect column) ("parent_" ++ toString i)
    applyWhereCall (.inl (.first, .raw (k.condition base.dialect parents)))

end RelatedKeys

/-- The related ids of a relation loaded into a property, by the key of the parent. -/
structure RelatedIds where
  request : RelationAttribute
  /-- The parent columns whose values key the ids. -/
  parentColumns : List String
  /-- Each parent key with its related ids: bare values, or objects for composite keys. -/
  ids : List (String × List Json)

/-- The related row counts of a relation loaded into a property, by the key of the parent. -/
structure RelatedCounts where
  request : RelationAttribute
  /-- The parent columns whose values key the counts. -/
  parentColumns : List String
  counts : List (String × Int)

/-- An id as loaded: the bare value of a single-column key, else an object by property. -/
def idValue (properties : List String) (values : List (Option Value)) : Json :=
  let json := fun (v : Option Value) => (v.map Value.toJson).getD .null
  match properties, values with
  | [_], [v] => json v
  | _, _ => Json.ofFields ((properties.zip values).map fun (p, v) => (p, json v))

end Hydration

end EntitySql
