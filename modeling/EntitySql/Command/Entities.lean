import EntitySql.Command.DialectTable
import EntitySql.Schema.Builder
import EntitySql.Schema.Registry

/-!
# Entities in requests

A request may declare its own entities; otherwise it works on the sample schema below, a small
blog: users with profiles and photos, posts with categories, memberships keyed by two columns,
and a content hierarchy with articles.

An entity is declared as `{"name", "table", "schema"?, "extends"?: [parent, value], "members"}`,
each member an array naming a declaration and its arguments.
-/

namespace EntitySql

namespace Entities

/-- The sample schema. -/
def sample : OrmResult Registry :=
  Registry.registerAll {} [
    ((((((((Entity.declare "User" "users").primaryGenerated "id").addColumn
      ((Column.new "firstName" .text).named "first_name")).nullableColumn "lastName" .text).version
      "version").updateDate "updatedAt").deleteDate "deletedAt").oneToOneOwner "profile" "Profile"
      "profileId" (some "user") |>.oneToMany "posts" "Post" "author" |>.oneToMany "photos" "Photo" "user"),
    (((((Entity.declare "Post" "posts").primaryGenerated "id").column "title" .text).createDate
      "createdAt").manyToOneWith "author" "User" [("authorId", "id")] (some "posts")
      |>.manyToMany "categories" "Category" "post_categories" "postId" "categoryId" (some "posts")),
    (((Entity.declare "Category" "categories").primaryGenerated "id").column "name" .text
      |>.manyToManyInverse "posts" "Post" "categories"),
    (((Entity.declare "Photo" "photos").primaryUuid "id").column "url" .text
      |>.manyToOneWith "user" "User" [("userId", "id")] (some "photos")),
    (((Entity.declare "Profile" "profiles").primaryGenerated "id").nullableColumn "bio" .text
      |>.oneToOneInverse "user" "User" "profile"),
    ((((Entity.declare "Membership" "memberships").primary "userId" .integer).primary "groupId"
      .integer).column "role" .text),
    ((((Entity.declare "Content" "content").primaryGenerated "id").column "title" .text).discriminator
      "kind" "content"),
    (((Entity.declare "Article" "content").extends_ "Content" "article").nullableColumn "body" .text)]

/-- An optional text: null or a string. -/
def optText (j : Json) : Reply (Option String) :=
  match j with
  | .null => .ok none
  | .str s => .ok (some s)
  | _ => Reply.malformed "expected a string or null"

/-- A text argument. -/
def text (j : Json) : Reply String :=
  match j with
  | .str s => .ok s
  | _ => Reply.malformed "expected a string"

/-- A column from its full description. -/
def columnOf (spec : Json) : Reply Column := do
  let path ← Request.str spec "path"
  let t ← Request.columnType (← Request.str spec "type")
  let c := Column.new path t
  let c := match spec.getField? "named" with
    | some (.str n) => c.named n
    | _ => c
  let c := if (← Request.flag spec "primary" false) then c.primary else c
  let c := if (← Request.flag spec "nullable" false) then c.nullable else c
  let c ← match ← Request.str? spec "generated" with
    | some "Increment" => pure (c.generated .increment)
    | some "Uuid" => pure (c.generated .uuid)
    | some "Rowid" => pure (c.generated .rowid)
    | some other => Reply.malformed ("unknown generation " ++ other)
    | none => pure c
  let c := match spec.getField? "default" with
    | some (.str d) => c.defaultExpr d
    | _ => c
  let c := if (← Request.flag spec "hidden" false) then c.hidden else c
  let c := if (← Request.flag spec "readonly" false) then c.readonly else c
  let flags := match spec.getField? "flags" with
    | some (.obj fs) => fs
    | _ => []
  flags.foldlM (fun (c : Column) (k, v) => do
    let b ← match v with
      | .bool b => pure b
      | _ => Reply.malformed "a flag must be a boolean"
    match k with
    | "is_virtual" => pure { c with isVirtual := b }
    | "is_select" => pure { c with isSelect := b }
    | "is_insert" => pure { c with isInsert := b }
    | "is_update" => pure { c with isUpdate := b }
    | "is_create_date" => pure { c with isCreateDate := b }
    | "is_update_date" => pure { c with isUpdateDate := b }
    | "is_delete_date" => pure { c with isDeleteDate := b }
    | "is_version" => pure { c with isVersion := b }
    | "is_discriminator" => pure { c with isDiscriminator := b }
    | other => Reply.malformed ("unknown flag " ++ other)) c

/-- Key column pairs `[[column, referenced], ...]`. -/
def keyPairs (j : Json) : Reply (List (String × String)) :=
  match j with
  | .arr items => items.mapM fun
    | .arr [.str a, .str b] => .ok (a, b)
    | _ => Reply.malformed "expected a [column, referenced] pair"
  | _ => Reply.malformed "expected key pairs"

/-- Apply one member declaration. -/
def applyMember (e : Entity) (m : Json) : Reply Entity := do
  match m with
  | .arr (.str kind :: args) =>
    match kind, args with
    | "column", [p, t] => pure (e.column (← text p) (← Request.columnType (← text t)))
    | "nullable_column", [p, t] => pure (e.nullableColumn (← text p) (← Request.columnType (← text t)))
    | "primary", [p, t] => pure (e.primary (← text p) (← Request.columnType (← text t)))
    | "primary_generated", [p] => pure (e.primaryGenerated (← text p))
    | "primary_uuid", [p] => pure (e.primaryUuid (← text p))
    | "create_date", [p] => pure (e.createDate (← text p))
    | "update_date", [p] => pure (e.updateDate (← text p))
    | "delete_date", [p] => pure (e.deleteDate (← text p))
    | "version", [p] => pure (e.version (← text p))
    | "discriminator", [p, v] => pure (e.discriminator (← text p) (← text v))
    | "many_to_one", [p, t, c] => pure (e.manyToOne (← text p) (← text t) (← text c))
    | "many_to_one_with", [p, t, keys, inv] =>
      pure (e.manyToOneWith (← text p) (← text t) (← keyPairs keys) (← optText inv))
    | "one_to_one_owner", [p, t, c, inv] =>
      pure (e.oneToOneOwner (← text p) (← text t) (← text c) (← optText inv))
    | "one_to_one_inverse", [p, t, inv] => pure (e.oneToOneInverse (← text p) (← text t) (← text inv))
    | "one_to_many", [p, t, inv] => pure (e.oneToMany (← text p) (← text t) (← text inv))
    | "many_to_many", [p, t, table, oc, ic, inv] =>
      pure (e.manyToMany (← text p) (← text t) (← text table) (← text oc) (← text ic) (← optText inv))
    | "many_to_many_inverse", [p, t, inv] =>
      pure (e.manyToManyInverse (← text p) (← text t) (← text inv))
    | "add_column", [spec] => pure (e.addColumn (← columnOf spec))
    | other, _ => Reply.malformed ("unknown member " ++ other)
  | _ => Reply.malformed "a member must be an array"

/-- An entity from its declaration. -/
def entityOf (spec : Json) : Reply Entity := do
  let e := Entity.declare (← Request.str spec "name") (← Request.str spec "table")
  let e := match spec.getField? "schema" with
    | some (.str s) => e.inSchema s
    | _ => e
  let e ← match spec.getField? "extends" with
    | some (.arr [.str parent, .str value]) => pure (e.extends_ parent value)
    | some .null | none => pure e
    | some _ => Reply.malformed "extends must be [parent, value]"
  (← Request.arrOrEmpty spec "members").foldlM applyMember e

/-- The registry of a request: its declared entities, or the sample schema. -/
def registryOf (req : Json) : Reply Registry := do
  match Request.opt? req "entities" with
  | some (.arr specs) =>
    let es ← specs.mapM entityOf
    Reply.lift (Registry.registerAll {} es)
  | some _ => Reply.malformed "entities must be an array"
  | none => Reply.lift sample

end Entities

end EntitySql
