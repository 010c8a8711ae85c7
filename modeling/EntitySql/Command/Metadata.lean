import EntitySql.Command.Entities
import EntitySql.Change.Diff

/-!
# Requests on entity metadata

Shows entities, their columns and relations, and the lookups on them: columns of a property
path, primary keys of objects, paths inside objects, the registry's hierarchy and relation
sides, and the changes of an object against a loaded row.
-/

namespace EntitySql

namespace MetadataView

def optStr (o : Option String) : Json := Json.ofOptStr o

/-- A column as JSON. -/
def columnJson (c : Column) : Json :=
  Json.ofFields [("property_path", .str c.propertyPath), ("database_name", .str c.databaseName),
    ("type", .str c.type.name), ("generation", optStr (c.generation.map (·.name))),
    ("default", optStr c.default), ("is_primary", .bool c.isPrimary),
    ("is_nullable", .bool c.isNullable), ("is_create_date", .bool c.isCreateDate),
    ("is_update_date", .bool c.isUpdateDate), ("is_delete_date", .bool c.isDeleteDate),
    ("is_version", .bool c.isVersion), ("is_discriminator", .bool c.isDiscriminator),
    ("is_virtual", .bool c.isVirtual), ("is_select", .bool c.isSelect),
    ("is_insert", .bool c.isInsert), ("is_update", .bool c.isUpdate),
    ("relation", optStr c.relation), ("referenced_property", optStr c.referencedProperty),
    ("entity_property", .str c.entityProperty)]

def joinColumnsJson (js : List JoinColumn) : Json :=
  .arr (js.map fun j => .arr [.str j.databaseName, .str j.referencedColumn])

def junctionJson (j : Junction) : Json :=
  Json.ofFields [("table_name", .str j.tableName), ("owner_columns", joinColumnsJson j.ownerColumns),
    ("inverse_columns", joinColumnsJson j.inverseColumns)]

/-- A relation as JSON. -/
def relationJson (r : Relation) : Json :=
  Json.ofFields [("property_path", .str r.propertyPath), ("kind", .str r.kind.name),
    ("target", .str r.target), ("is_owning", .bool r.isOwning), ("inverse_side", optStr r.inverseSide),
    ("is_nullable", .bool r.isNullable), ("join_columns", joinColumnsJson r.joinColumns),
    ("junction", match r.junction with
      | some j => junctionJson j
      | none => .null),
    ("is_to_one", .bool r.isToOne), ("is_to_one_owner", .bool r.isToOneOwner),
    ("is_to_one_or_many_inverse", .bool r.isToOneOrManyInverse),
    ("is_collection", .bool r.isCollection)]

def names (cs : List Column) : Json := .arr (cs.map fun c => .str c.databaseName)

/-- An entity as JSON. -/
def entityJson (e : Entity) : Json :=
  Json.ofFields [("name", .str e.name), ("table_name", .str e.tableName), ("schema", optStr e.schema),
    ("table_path", .str e.tablePath), ("parent", optStr e.parent?),
    ("discriminator_value", optStr e.discriminatorValue),
    ("inheritance_value", optStr (e.inheritance.map (·.discriminatorValue))),
    ("children", .arr (e.children.map .str)),
    ("columns", .arr (e.columns.map columnJson)), ("relations", .arr (e.relations.map relationJson)),
    ("primary_columns", names e.primaryColumns),
    ("has_multiple_primary_keys", .bool e.hasMultiplePrimaryKeys),
    ("insertable_columns", names e.insertableColumns),
    ("version_column", optStr (e.versionColumn?.map (·.databaseName))),
    ("update_date_column", optStr (e.updateDateColumn?.map (·.databaseName))),
    ("create_date_column", optStr (e.createDateColumn?.map (·.databaseName))),
    ("delete_date_column", optStr (e.deleteDateColumn?.map (·.databaseName))),
    ("discriminator_column", optStr (e.discriminatorColumn?.map (·.databaseName)))]

/-- An optional object as JSON. -/
def optObject (o : Option Fields) : Json :=
  match o with
  | some fs => .obj fs
  | none => .null

/-- A read and, when the request gives `set`, the object after writing it. -/
def readAndWrite (req : Json) (found : Option Json) (write : Json → Fields) : Json :=
  let get := match found with
    | some v => Json.ofFields [("found", .bool true), ("value", v)]
    | none => Json.ofFields [("found", .bool false)]
  match req.getField? "set" with
  | some v => Json.ofFields [("get", get), ("after", .obj (write v))]
  | none => Json.ofFields [("get", get)]

/-- The object of a request field. -/
def objectField (req : Json) (k : String) : Reply Fields := do
  match ← Request.field req k with
  | .obj fs => pure fs
  | _ => Reply.malformed (k ++ " must be an object")

/-- A change as JSON. -/
def changeJson (ch : Change) : Json :=
  Json.ofFields [("target", .str (match ch.target with
      | .column _ => "column"
      | .relation _ => "relation")),
    ("property", .str ch.target.propertyPath), ("value", ch.value)]

open Request in
/-- Answer one metadata function. -/
def answerFn (r : Registry) (fn : String) (req : Json) : Reply Json := do
  let entity : Reply Entity := do Reply.lift (r.get (← str req "entity"))
  match fn with
  | "entity_info" => pure (entityJson (← entity))
  | "find_columns" => pure (names ((← entity).findColumnsByPath (← str req "path")))
  | "find_column_with_property_path" =>
    pure (optStr (((← entity).findColumnByPath? (← str req "path")).map (·.databaseName)))
  | "id_map" => pure (optObject ((← entity).idMap? (← objectField req "object")))
  | "ensure_id" => pure (optObject ((← entity).ensureIdMap? (← field req "id")))
  | "column_value" =>
    let e ← entity
    match e.findColumnByName? (← str req "column") with
    | none => pure (Json.ofFields [("column_missing", .bool true)])
    | some c =>
      let obj ← objectField req "object"
      pure (readAndWrite req (c.getValue? obj) (c.setValue obj))
  | "path" =>
    let obj ← objectField req "object"
    let p ← str req "path"
    pure (readAndWrite req (Json.getPath? obj p) (Json.setPath obj p))
  | "find" => pure (optStr ((r.find? (← str req "target")).map (·.name)))
  | "has" => pure (.bool (r.has (← str req "target")))
  | "len" => pure (Json.ofFields [("len", .int r.size), ("is_empty", .bool (r.size = 0))])
  | "is_subtype_of" => pure (.bool (r.isSubtypeOf (← str req "entity") (← str req "ancestor")))
  | "descendants" => pure (.arr ((r.descendants (← str req "entity")).map fun e => .str e.name))
  | "junction" =>
    let e ← entity
    match e.findRelation? (← str req "relation") with
    | none => pure (Json.ofFields [("relation_missing", .bool true)])
    | some rel => pure (Reply.orError (r.junction rel) junctionJson)
  | "inverse_relation" =>
    let e ← entity
    match e.findRelation? (← str req "relation") with
    | none => pure (Json.ofFields [("relation_missing", .bool true)])
    | some rel => pure (Reply.orError (r.inverseRelation rel) fun (t, inv) =>
        Json.ofFields [("target", .str t.name), ("inverse", .str inv.propertyPath),
          ("kind", .str inv.kind.name)])
  | "compute_diff" =>
    let e ← entity
    let obj ← objectField req "object"
    let database ← match opt? req "database" with
      | some (.obj fs) => pure (some fs)
      | some _ => Reply.malformed "database must be an object"
      | none => pure none
    let changes := e.diff obj database
    let identifier := (e.idMap? obj).orElse fun _ => database.bind e.idMap?
    pure (Json.ofFields [("changes", .arr (changes.map changeJson)),
      ("must_be_updated", .bool !changes.isEmpty), ("changed_values", .obj (Change.values changes)),
      ("identifier", optObject identifier)])
  | other => Reply.malformed ("unknown metadata function " ++ other)

/-- Answer a metadata request, if it is one. -/
def answer? (op : String) (req : Json) : Option (Reply Json) :=
  match op with
  | "metadata" => some do
    let r ← Entities.registryOf req
    let r := match req.getField? "prefix" with
      | some (.str p) => r.withTablePrefix p
      | _ => r
    answerFn r (← Request.str req "fn") req
  | _ => none

end MetadataView

end EntitySql
