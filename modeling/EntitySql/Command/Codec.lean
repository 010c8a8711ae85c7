import EntitySql.Value.Tagged
import EntitySql.Error

/-!
# Requests and replies

The library answers requests written as JSON objects. This module holds what every request
handler shares: reading fields of a request, reading values, and writing errors.

A value in a request is plain JSON (read by `Value.ofJson`) or `{"$v": tagged}`. An error of the
library is written `{"error": kind, "message": text}`, except three kinds that carry data: a
driver failure (`message`, `sql`, `params`, `transient`), a failed rollback (`cause`,
`rollback`) and a decoding failure (`column`).
-/

namespace EntitySql

/-- Why a request got no answer of its own. -/
inductive Fault where
  /-- The request does not have the fields its operation needs. -/
  | malformed (message : String)
  /-- The library refused, and the error is the answer. -/
  | failed (e : OrmError)
  deriving Inhabited

/-- A handler's result. -/
abbrev Reply (α : Type) := Except Fault α

namespace OrmError

/-- An error as JSON. -/
def toJson : OrmError → Json
  | .query sql params m t =>
    Json.ofFields [("error", .str "Query"), ("message", .str m), ("sql", .str sql),
      ("params", .arr (params.map Value.toTagged)), ("transient", .bool t)]
  | .rollbackFailed c r =>
    Json.ofFields [("error", .str "RollbackFailed"), ("cause", toJson c), ("rollback", toJson r)]
  | .decode c _ => Json.ofFields [("error", .str "Decode"), ("column", .str c)]
  | e => Json.ofFields [("error", .str e.kindName), ("message", .str e.message)]

end OrmError

def Fault.toJson : Fault → Json
  | .malformed m => Json.ofFields [("error", .str "bad_input"), ("message", .str m)]
  | .failed e => e.toJson

namespace Reply

def malformed {α : Type} (m : String) : Reply α := .error (.malformed m)

def lift {α : Type} : OrmResult α → Reply α
  | .ok a => .ok a
  | .error e => .error (.failed e)

def ofExcept {α : Type} : Except String α → Reply α
  | .ok a => .ok a
  | .error m => .error (.malformed m)

/-- A library result as JSON: the value, or the error object. -/
def orError {α : Type} (r : OrmResult α) (f : α → Json) : Json :=
  match r with
  | .ok a => f a
  | .error e => e.toJson

end Reply

namespace Request

/-- A field of a request, if present and not null. -/
def opt? (req : Json) (k : String) : Option Json :=
  match req.getField? k with
  | some .null => none
  | other => other

/-- A required field. -/
def field (req : Json) (k : String) : Reply Json :=
  match req.getField? k with
  | some j => .ok j
  | none => Reply.malformed ("missing field " ++ k)

/-- A required text field. -/
def str (req : Json) (k : String) : Reply String := do
  match ← field req k with
  | .str s => pure s
  | _ => Reply.malformed ("field " ++ k ++ " must be a string")

/-- An optional text field. -/
def str? (req : Json) (k : String) : Reply (Option String) :=
  match opt? req k with
  | none => .ok none
  | some (.str s) => .ok (some s)
  | some _ => Reply.malformed ("field " ++ k ++ " must be a string")

def strOrEmpty (req : Json) (k : String) : Reply String := do
  pure ((← str? req k).getD "")

/-- An optional boolean field with its default. -/
def flag (req : Json) (k : String) (default : Bool) : Reply Bool :=
  match opt? req k with
  | none => .ok default
  | some (.bool b) => .ok b
  | some _ => Reply.malformed ("field " ++ k ++ " must be a boolean")

/-- An optional integer field. -/
def int? (req : Json) (k : String) : Reply (Option Int) :=
  match opt? req k with
  | none => .ok none
  | some (.int n) => .ok (some n)
  | some (.float x) =>
    match Value.Float.wholeValue? x with
    | some n => .ok (some n)
    | none => Reply.malformed ("field " ++ k ++ " must be an integer")
  | some _ => Reply.malformed ("field " ++ k ++ " must be an integer")

/-- An optional natural number field. -/
def nat? (req : Json) (k : String) : Reply (Option Nat) := do
  match ← int? req k with
  | none => pure none
  | some n =>
    if n < 0 then Reply.malformed ("field " ++ k ++ " must not be negative")
    else pure (some n.toNat)

/-- A required natural number field. -/
def nat (req : Json) (k : String) : Reply Nat := do
  match ← nat? req k with
  | some n => pure n
  | none => Reply.malformed ("missing field " ++ k)

/-- A required array field. -/
def arr (req : Json) (k : String) : Reply (List Json) := do
  match ← field req k with
  | .arr xs => pure xs
  | _ => Reply.malformed ("field " ++ k ++ " must be an array")

/-- An optional array field, empty when absent. -/
def arrOrEmpty (req : Json) (k : String) : Reply (List Json) :=
  match opt? req k with
  | none => .ok []
  | some (.arr xs) => .ok xs
  | some _ => Reply.malformed ("field " ++ k ++ " must be an array")

/-- The texts of an array. -/
def strs (xs : List Json) : Reply (List String) :=
  xs.mapM fun
    | .str s => .ok s
    | _ => Reply.malformed "expected a string"

/-- A value: plain JSON, or `{"$v": tagged}`. -/
def value (j : Json) : Reply Value :=
  match j with
  | .obj fields =>
    match Json.findField? "$v" fields with
    | some t => Reply.ofExcept (Value.ofTagged t)
    | none => .ok (Value.ofJson j)
  | _ => .ok (Value.ofJson j)

def values (xs : List Json) : Reply (List Value) := xs.mapM value

/-- Named values, as an object or as a list of name and value pairs; a later pair of the same
name wins. -/
def namedValues (j : Json) : Reply (List (String × Value)) := do
  let pairs ← match j with
    | .obj fields => pure fields
    | .arr items => items.mapM fun
      | .arr [.str k, v] => .ok (k, v)
      | _ => Reply.malformed "expected a [name, value] pair"
    | _ => Reply.malformed "expected named values"
  let decoded ← pairs.mapM fun (k, v) => do pure (k, ← value v)
  pure (decoded.foldl (fun acc (k, v) => (acc.filter (·.1 ≠ k)) ++ [(k, v)]) [])

end Request

end EntitySql
