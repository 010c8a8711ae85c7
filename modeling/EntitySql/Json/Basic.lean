/-!
# JSON values

A JSON value as the library reads and writes it. Numbers keep the distinction that their text
needs: an integer (in the range of a signed or an unsigned 64-bit word) is written as an integer,
a finite float with its shortest decimal digits.

Objects are field lists kept sorted by key, without repeated keys. `Json.insertField` keeps that
shape, so two objects hold the same fields exactly when their field lists are equal, and the
written text lists the keys in order.
-/

namespace EntitySql

/-- A JSON value. An object's fields are sorted by key and hold each key once. -/
inductive Json where
  | null
  | bool (b : Bool)
  | int (n : Int)
  | float (x : Float)
  | str (s : String)
  | arr (items : List Json)
  | obj (fields : List (String × Json))
  deriving Inhabited

namespace Json

/-- Insert a field into a sorted field list, replacing the value of an equal key. -/
def insertField (k : String) (v : Json) : List (String × Json) → List (String × Json)
  | [] => [(k, v)]
  | (k', v') :: rest =>
    if k < k' then (k, v) :: (k', v') :: rest
    else if k = k' then (k, v) :: rest
    else (k', v') :: insertField k v rest

def findField? (k : String) : List (String × Json) → Option Json
  | [] => none
  | (k', v) :: rest => if k = k' then some v else findField? k rest

def eraseField (k : String) : List (String × Json) → List (String × Json)
  | [] => []
  | (k', v) :: rest => if k = k' then rest else (k', v) :: eraseField k rest

@[simp] theorem findField?_nil (k : String) : findField? k [] = none := rfl

@[simp] theorem eraseField_nil (k : String) : eraseField k [] = [] := rfl

def ofFields (fields : List (String × Json)) : Json :=
  .obj (fields.foldl (fun acc (k, v) => insertField k v acc) [])

def getField? : Json → String → Option Json
  | .obj fs, k => findField? k fs
  | _, _ => none

def getStr? : Json → Option String
  | .str s => some s
  | _ => none

def getBool? : Json → Option Bool
  | .bool b => some b
  | _ => none

def getArr? : Json → Option (List Json)
  | .arr xs => some xs
  | _ => none

def getObj? : Json → Option (List (String × Json))
  | .obj fs => some fs
  | _ => none

def isNull : Json → Bool
  | .null => true
  | _ => false

def i64Max : Int := 9223372036854775807

def i64Min : Int := -9223372036854775808

def u64Max : Int := 18446744073709551615

def asI64? : Json → Option Int
  | .int n => if i64Min ≤ n ∧ n ≤ i64Max then some n else none
  | _ => none

def asU64? : Json → Option Nat
  | .int n => if 0 ≤ n ∧ n ≤ u64Max then some n.toNat else none
  | _ => none

/-- Any number as a float: an integer is rounded to the nearest float, ties to even. -/
def asF64? : Json → Option Float
  | .int n => some (Float.ofInt n)
  | .float x => some x
  | _ => none

/-- Whether the value is a number. -/
def isNumber : Json → Bool
  | .int _ => true
  | .float _ => true
  | _ => false

mutual

/-- Structural equality; floats compare as numbers (`0.0` equals `-0.0`) and an integer never
equals a float. -/
def beq : Json → Json → Bool
  | .null, .null => true
  | .bool a, .bool b => a == b
  | .int a, .int b => a == b
  | .float a, .float b => a == b
  | .str a, .str b => a == b
  | .arr a, .arr b => beqItems a b
  | .obj a, .obj b => beqFields a b
  | _, _ => false

/-- Item-wise equality of two arrays. -/
def beqItems : List Json → List Json → Bool
  | [], [] => true
  | a :: as, b :: bs => beq a b && beqItems as bs
  | _, _ => false

/-- Field-wise equality of two sorted field lists. -/
def beqFields : List (String × Json) → List (String × Json) → Bool
  | [], [] => true
  | (k, a) :: as, (k', b) :: bs => k == k' && beq a b && beqFields as bs
  | _, _ => false

end

instance : BEq Json := ⟨beq⟩

mutual

/-- The number of values in a value, itself included; readers of nested requests take it as
the bound of their depth. -/
def nodes : Json → Nat
  | .arr items => nodesOfItems items + 1
  | .obj fields => nodesOfFields fields + 1
  | _ => 1

def nodesOfItems : List Json → Nat
  | [] => 0
  | j :: rest => nodes j + nodesOfItems rest

def nodesOfFields : List (String × Json) → Nat
  | [] => 0
  | (_, j) :: rest => nodes j + nodesOfFields rest

end

end Json

end EntitySql
