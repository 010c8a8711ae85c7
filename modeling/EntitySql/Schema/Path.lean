import EntitySql.Json.Basic

/-!
# Property paths

An entity is a JSON object, and a property path names a value inside it: the parts of the path,
separated by dots, are the keys from the outside in (`address.city`). Reading a path fails where
a key is missing or a value on the way is no object. Writing a path creates the objects on the
way, and replaces a value on the way that is no object.
-/

namespace EntitySql

/-- The fields of an entity object, sorted by key. -/
abbrev Fields := List (String × Json)

namespace Json

/-- The value at a list of keys. -/
def getKeys? (fields : Fields) : List String → Option Json
  | [] => none
  | [k] => findField? k fields
  | k :: rest =>
    match findField? k fields with
    | some (.obj inner) => getKeys? inner rest
    | _ => none

def getPath? (fields : Fields) (path : String) : Option Json := getKeys? fields (path.splitOn ".")

/-- Write a value at a list of keys, creating or replacing objects on the way. -/
def setKeys (fields : Fields) (v : Json) : List String → Fields
  | [] => fields
  | [k] => insertField k v fields
  | k :: rest =>
    let inner := match findField? k fields with
      | some (.obj inner) => inner
      | _ => []
    insertField k (.obj (setKeys inner v rest)) fields

def setPath (fields : Fields) (path : String) (v : Json) : Fields :=
  setKeys fields v (path.splitOn ".")

end Json

end EntitySql
