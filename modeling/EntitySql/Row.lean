import EntitySql.Value.Convert
import EntitySql.Error

/-!
# Result rows

A row is the list of its cells, each a column name and a value, in the order of the select list.
Column names are unique: adding a cell under a name already present replaces its value in place.
-/

namespace EntitySql

/-- One result row. -/
structure Row where
  cells : List (String × Value) := []
  deriving Inhabited

namespace Row

/-- Add a cell; a name already present keeps its place and takes the new value. -/
def push (r : Row) (column : String) (v : Value) : Row :=
  if r.cells.any (·.1 = column) then
    ⟨r.cells.map fun (c, x) => if c = column then (c, v) else (c, x)⟩
  else ⟨r.cells ++ [(column, v)]⟩

def ofPairs (pairs : List (String × Value)) : Row :=
  pairs.foldl (fun r (c, v) => r.push c v) {}

def get? (r : Row) (column : String) : Option Value := r.cells.lookup column

def getIndex? (r : Row) (i : Nat) : Option Value := (r.cells[i]?).map (·.2)

def columns (r : Row) : List String := r.cells.map (·.1)

def values (r : Row) : List Value := r.cells.map (·.2)

def size (r : Row) : Nat := r.cells.length

def isEmpty (r : Row) : Bool := r.cells.isEmpty

def toObject (r : Row) : Json := Json.ofFields (r.cells.map fun (c, v) => (c, v.toJson))

/-- Read a column with a reader; a missing column or a value the reader refuses is a decoding
failure of that column. -/
def read {α : Type} (r : Row) (column : String) (read : Value → Option α) : OrmResult α :=
  match r.get? column with
  | none => .error (.decode column "column not present in row")
  | some v =>
    match read v with
    | some a => .ok a
    | none => .error (.decode column "cannot convert the value")

end Row

end EntitySql
