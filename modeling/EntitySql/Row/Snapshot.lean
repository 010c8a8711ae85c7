import EntitySql.Row
import EntitySql.Value.Tagged

/-!
# Row snapshots

A row is stored as `{"columns": [names], "values": [tagged values]}`, and is read back from that
object or from the two-item array `[names, values]`. Reading a list of rows refuses what is not
that shape with the reason, naming what was found and what was expected.
-/

namespace EntitySql

namespace Row

def toSnapshot (r : Row) : Json :=
  Json.ofFields [("columns", .arr (r.columns.map .str)), ("values", .arr (r.values.map Value.toTagged))]

def snapshotColumns (j : Json) : Except String (List String) := do
  Json.mapItems Json.expectStr (← Json.expectArr j)

def snapshotValues (j : Json) : Except String (List Value) := do
  Json.mapItems Value.ofTagged (← Json.expectArr j)

def ofColumns (columns : List String) (values : List Value) : Row := ⟨columns.zip values⟩

/-- Read a stored row. -/
def ofSnapshot (j : Json) : Except String Row :=
  match j with
  | .arr items =>
    match items with
    | [] => .error "invalid length 0, expected struct Row with 2 elements"
    | [c] => do
      let _ ← snapshotColumns c
      .error "invalid length 1, expected struct Row with 2 elements"
    | [c, v] => do
      let cs ← snapshotColumns c
      let vs ← snapshotValues v
      pure (ofColumns cs vs)
    | c :: v :: _ => do
      let _ ← snapshotColumns c
      let _ ← snapshotValues v
      .error ("invalid length " ++ toString items.length ++ ", expected fewer elements in array")
  | .obj fields => do
    let mut cs : Option (List String) := Option.none
    let mut vs : Option (List Value) := Option.none
    for (k, x) in fields do
      if k = "columns" then
        if cs.isSome then throw "duplicate field `columns`"
        cs := some (← snapshotColumns x)
      else if k = "values" then
        if vs.isSome then throw "duplicate field `values`"
        vs := some (← snapshotValues x)
    match cs, vs with
    | Option.none, _ => .error "missing field `columns`"
    | _, Option.none => .error "missing field `values`"
    | some names, some vals => pure (ofColumns names vals)
  | other => .error (Json.invalidType other "struct Row")

def listOfSnapshot (j : Json) : Except String (List Row) := do
  Json.mapItems ofSnapshot (← Json.expectArr j)

end Row

end EntitySql
