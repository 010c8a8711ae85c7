import EntitySql.Command.Codec
import EntitySql.Query.Where

/-!
# Reading conditions from requests

Operators, `FindWhere` entries, WHERE inputs and WHERE calls as requests write them. Nested
forms are read with the number of values in the request as the bound of their depth.
-/

namespace EntitySql

namespace ConditionRequest

/-- The fields of an object. -/
def fieldsOf (j : Json) : Reply Fields :=
  match j with
  | .obj fs => .ok fs
  | _ => Reply.malformed "expected an object"

/-- The items of an array. -/
def itemsOf (j : Json) : Reply (List Json) :=
  match j with
  | .arr xs => .ok xs
  | _ => Reply.malformed "expected an array"

/-- An operator with one value. -/
def unary (k : String) (v : Value) : Option Op :=
  match k with
  | "eq" => some (.eq v)
  | "ne" => some (.ne v)
  | "gt" => some (.gt v)
  | "gte" => some (.gte v)
  | "lt" => some (.lt v)
  | "lte" => some (.lte v)
  | "like" => some (.like v)
  | "ilike" => some (.ilike v)
  | "not_like" => some (.not (.like v))
  | "array_contains" => some (.arrayContains v)
  | "array_contained_by" => some (.arrayContainedBy v)
  | "array_overlap" => some (.arrayOverlap v)
  | _ => none

/-- An operator. -/
def op : Nat → Json → Reply Op
  | 0, _ => Reply.malformed "request nested too deeply"
  | fuel + 1, j =>
    match j with
    | .str "is_null" => .ok .isNull
    | .str "is_not_null" => .ok (.not .isNull)
    | .obj fields =>
      match Json.findField? "raw" fields with
      | some (.str template) => do
        let params ← Request.values (← Request.arrOrEmpty j "params")
        pure (.raw template params)
      | some _ => Reply.malformed "raw must be a string"
      | none =>
        match fields with
        | [(k, v)] =>
          match k with
          | "in" => do pure (.inList (← Request.values (← itemsOf v)))
          | "not_in" => do pure (.not (.inList (← Request.values (← itemsOf v))))
          | "any" => do pure (.any (← Request.values (← itemsOf v)))
          | "between" =>
            match v with
            | .arr [a, b] => do pure (.between (← Request.value a) (← Request.value b))
            | _ => Reply.malformed "between takes two values"
          | "not" => do pure (.not (← op fuel v))
          | "and" => do pure (.and (← (← itemsOf v).mapM (op fuel)))
          | "or" => do pure (.or (← (← itemsOf v).mapM (op fuel)))
          | other => do
            match unary other (← Request.value v) with
            | some o => pure o
            | none => Reply.malformed ("unknown operator " ++ other)
        | _ => Reply.malformed "an operator has one key"
    | _ => Reply.malformed "unknown operator"

/-- The entries of a `FindWhere`: pairs of a path and an entry. -/
def entries : Nat → Json → Reply FindWhere
  | 0, _ => Reply.malformed "request nested too deeply"
  | fuel + 1, j => do
    (← itemsOf j).mapM fun item =>
      match item with
      | .arr [.str path, .obj e] =>
        match Json.findField? "value" e, Json.findField? "null" e, Json.findField? "op" e,
            Json.findField? "nested" e with
        | some v, _, _, _ => do pure (path, .value (← Request.value v))
        | none, some _, _, _ => pure (path, .value .null)
        | none, none, some o, _ => do pure (path, .op (← op fuel o))
        | none, none, none, some n => do pure (path, .nested (← entries fuel n))
        | none, none, none, none => Reply.malformed "unknown find entry"
      | _ => Reply.malformed "a find entry is [path, entry]"

/-- A raw condition: a string, or an object with `raw`, `params` and `opaque`. -/
def rawCondition (j : Json) : Reply RawCondition :=
  match j with
  | .str sql => .ok { sql }
  | .obj _ => do
    let sql ← Request.str j "raw"
    let params ← match Request.opt? j "params" with
      | some p => Request.namedValues p
      | none => pure []
    let verbatim ← Request.flag j "opaque" false
    pure { sql, params, verbatim }
  | _ => Reply.malformed "expected a condition"

/-- The connective of a WHERE call name. -/
def connective (name : String) : Option (Connective × Bool) :=
  match name with
  | "where" => some (.first, false)
  | "and_where" => some (.and, false)
  | "or_where" => some (.or, false)
  | "where_in_ids" => some (.first, true)
  | "and_where_in_ids" => some (.and, true)
  | "or_where_in_ids" => some (.or, true)
  | _ => none

mutual

/-- A WHERE input. -/
def input : Nat → Json → Reply WhereInput
  | 0, _ => Reply.malformed "request nested too deeply"
  | fuel + 1, j =>
    match j with
    | .str sql => .ok (.raw { sql })
    | .obj fields =>
      if (Json.findField? "raw" fields).isSome then .raw <$> rawCondition j
      else match Json.findField? "find" fields with
      | some f => .find <$> entries fuel f
      | none =>
      match Json.findField? "find_object" fields with
      | some (.obj o) => .ok (.find (FindWhere.ofObject o))
      | some _ => Reply.malformed "find_object must be an object"
      | none =>
      match Json.findField? "any_of" fields with
      | some a => do pure (.anyOf (← (← itemsOf a).mapM (entries fuel)))
      | none =>
      match Json.findField? "brackets" fields with
      | some b => do
        let calls ← (← itemsOf b).mapM (whereCall fuel)
        pure (.brackets calls (← Request.flag j "negate" false))
      | none => Reply.malformed "unknown where input"
    | _ => Reply.malformed "unknown where input"

/-- A WHERE call. -/
def whereCall : Nat → Json → Reply WhereCall
  | 0, _ => Reply.malformed "request nested too deeply"
  | fuel + 1, j => do
    let name ← Request.str j "call"
    match connective name with
    | some (k, false) => do pure (.inl (k, ← input fuel (← Request.field j "input")))
    | some (k, true) => do pure (.inr (k, ← Request.arr j "ids"))
    | none => Reply.malformed ("unknown where call " ++ name)

end

end ConditionRequest

end EntitySql
