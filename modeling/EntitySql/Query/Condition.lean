import EntitySql.Query.PropertyNames
import EntitySql.Value.Basic
import EntitySql.Text.Search

/-!
# Conditions

A WHERE or HAVING condition is given in one of four forms: raw SQL, a `FindWhere` (property
paths with values or operators), a list of `FindWhere` of which any may hold, or a bracketed
group of further conditions. Building the query turns each form into a `Condition`, whose values
are already bound to named parameters; the condition is written as SQL when the statement is
compiled.

An operator (`Op`) compares one column with values. Bound, it becomes a `BoundOp`, which holds
parameter names instead of values. Writing a bound operator needs the dialect only: `ILIKE` is
written with `UPPER` where the dialect lacks it, and the array operators are refused where the
dialect has no arrays.

A list of alternatives is written `(a OR b)`, one alternative by itself and none as `0=1`. A
group is `(…)` or `NOT(…)`, and an empty group stands for `1=1`.
-/

namespace EntitySql

/-- A comparison of a column with values. -/
inductive Op where
  | eq (v : Value)
  | ne (v : Value)
  | gt (v : Value)
  | gte (v : Value)
  | lt (v : Value)
  | lte (v : Value)
  | like (v : Value)
  | ilike (v : Value)
  | inList (vs : List Value)
  | between (lo hi : Value)
  | isNull
  | any (vs : List Value)
  | arrayContains (v : Value)
  | arrayContainedBy (v : Value)
  | arrayOverlap (v : Value)
  /-- SQL with `{col}` for the column and `{i}` for the `i`-th value. -/
  | raw (template : String) (params : List Value)
  | not (op : Op)
  | and (ops : List Op)
  | or (ops : List Op)
  deriving Inhabited

/-- The right side of an entry of a `FindWhere`. -/
inductive FindValue where
  | value (v : Value)
  | op (o : Op)
  | nested (entries : List (String × FindValue))
  deriving Inhabited

/-- Property paths with what they must match, all of which must hold. -/
abbrev FindWhere := List (String × FindValue)

/-- A `FindWhere` of an object: its keys in order, a nested object as a nested condition. -/
def FindWhere.ofObject : List (String × Json) → FindWhere
  | [] => []
  | (k, v) :: rest =>
    let entry := match v with
      | .obj inner => FindValue.nested (FindWhere.ofObject inner)
      | other => .value (Value.ofJson other)
    (k, entry) :: FindWhere.ofObject rest

/-- Raw SQL with named parameters. A verbatim condition is never rewritten. -/
structure RawCondition where
  sql : String
  params : List (String × Value) := []
  verbatim : Bool := false
  deriving Inhabited

/-- An operator whose values are bound to parameters, named here. -/
inductive BoundOp where
  | eq (p : String)
  | ne (p : String)
  | gt (p : String)
  | gte (p : String)
  | lt (p : String)
  | lte (p : String)
  | like (p : String)
  | ilike (p : String)
  | inList (p : String)
  | inLiteral (items : List String)
  | emptyIn
  | between (lo hi : String)
  | isNull
  | any (p : String)
  | arrayContains (p : String)
  | arrayContainedBy (p : String)
  | arrayOverlap (p : String)
  | raw (sql : String)
  | not (op : BoundOp)
  | and (ops : List BoundOp)
  | or (ops : List BoundOp)
  deriving Inhabited

/-- How a clause joins the clauses before it. -/
inductive Connective where
  | first
  | and
  | or
  deriving DecidableEq, Repr, Inhabited

/-- A condition with its values bound. -/
inductive Condition where
  /-- SQL whose property references are rewritten. -/
  | raw (sql : String)
  /-- SQL taken as it is. -/
  | verbatim (sql : String)
  | predicate (qualifier : Option String) (column : String) (op : BoundOp)
  | and (items : List Condition)
  | or (items : List Condition)
  | group (clauses : List (Connective × Condition)) (negate : Bool)
  | never
  deriving Inhabited

/-- Alternatives: none is `0=1`, one stands alone, more are `(a OR b)`. -/
def anyOf (parts : List String) : String :=
  match parts with
  | [] => "0=1"
  | [p] => p
  | ps => "(" ++ " OR ".intercalate ps ++ ")"

namespace BoundOp

def arrayOp (d : Dialect) (col symbol p : String) : OrmResult String :=
  if d.supportsArrayOperators then .ok (col ++ " " ++ symbol ++ " :" ++ p)
  else .error (.dialectUnsupported d.name ("array operator " ++ symbol))

mutual

/-- The SQL of a bound operator on a column. -/
def render (d : Dialect) (col : String) : BoundOp → OrmResult String
  | .eq p => .ok (col ++ " = :" ++ p)
  | .ne p => .ok (col ++ " != :" ++ p)
  | .gt p => .ok (col ++ " > :" ++ p)
  | .gte p => .ok (col ++ " >= :" ++ p)
  | .lt p => .ok (col ++ " < :" ++ p)
  | .lte p => .ok (col ++ " <= :" ++ p)
  | .like p => .ok (col ++ " LIKE :" ++ p)
  | .ilike p =>
    if d.supportsIlike then .ok (col ++ " ILIKE :" ++ p)
    else .ok ("UPPER(" ++ col ++ ") LIKE UPPER(:" ++ p ++ ")")
  | .inList p => .ok (col ++ " IN (:..." ++ p ++ ")")
  | .inLiteral items => .ok (col ++ " IN (" ++ ", ".intercalate items ++ ")")
  | .emptyIn => .ok "0=1"
  | .between a b => .ok (col ++ " BETWEEN :" ++ a ++ " AND :" ++ b)
  | .isNull => .ok (col ++ " IS NULL")
  | .any p =>
    if d.supportsArrayOperators then .ok (col ++ " = ANY(:" ++ p ++ ")")
    else .error (.dialectUnsupported d.name "ANY operator")
  | .arrayContains p => arrayOp d col "@>" p
  | .arrayContainedBy p => arrayOp d col "<@" p
  | .arrayOverlap p => arrayOp d col "&&" p
  | .raw sql => .ok (Text.replaceAll sql "\x7bcol\x7d" col)
  | .not inner => renderNot d col inner
  | .and ops => do
    let parts ← renderAll d col ops
    pure (" AND ".intercalate parts)
  | .or ops => do
    let parts ← renderAll d col ops
    pure (anyOf parts)

/-- The SQL of a negated operator: the negated form where SQL has one, else `NOT(…)`. -/
def renderNot (d : Dialect) (col : String) : BoundOp → OrmResult String
  | .eq p => .ok (col ++ " != :" ++ p)
  | .isNull => .ok (col ++ " IS NOT NULL")
  | .like p => .ok (col ++ " NOT LIKE :" ++ p)
  | .ilike p =>
    if d.supportsIlike then .ok (col ++ " NOT ILIKE :" ++ p)
    else .ok ("UPPER(" ++ col ++ ") NOT LIKE UPPER(:" ++ p ++ ")")
  | .inList p => .ok (col ++ " NOT IN (:..." ++ p ++ ")")
  | .inLiteral items => .ok (col ++ " NOT IN (" ++ ", ".intercalate items ++ ")")
  | .between a b => .ok (col ++ " NOT BETWEEN :" ++ a ++ " AND :" ++ b)
  | other => do
    let inner ← render d col other
    pure ("NOT(" ++ inner ++ ")")

/-- The SQL of several operators, stopping at the first failure. -/
def renderAll (d : Dialect) (col : String) : List BoundOp → OrmResult (List String)
  | [] => .ok []
  | op :: rest => do
    let first ← render d col op
    let others ← renderAll d col rest
    pure (first :: others)

end

end BoundOp

/-- What writing a condition needs: the dialect, the aliases for property references, whether
columns take their alias as prefix, and whether names are quoted. -/
structure RenderContext where
  dialect : Dialect
  aliases : Aliases
  prefixAlias : Bool
  escaping : Bool

def RenderContext.escape (ctx : RenderContext) (name : String) : String :=
  if ctx.escaping then ctx.dialect.escape name else name

namespace Condition

mutual

/-- The SQL of a condition. -/
def render (ctx : RenderContext) : Condition → OrmResult String
  | .raw sql => .ok (PropertyNames.replace ctx.dialect ctx.aliases ctx.prefixAlias sql)
  | .verbatim sql => .ok sql
  | .predicate qualifier column op =>
    let col := match qualifier with
      | some a => if ctx.prefixAlias then ctx.escape a ++ "." ++ ctx.escape column else ctx.escape column
      | none => ctx.escape column
    op.render ctx.dialect col
  | .and items => do
    let parts ← renderAll ctx items
    pure (" AND ".intercalate parts)
  | .or items => do
    let parts ← renderAll ctx items
    pure (anyOf parts)
  | .group clauses negate => do
    let inner ← if clauses.isEmpty then pure "1=1" else renderClauses ctx clauses
    pure (if negate then "NOT(" ++ inner ++ ")" else "(" ++ inner ++ ")")
  | .never => .ok "0=1"

/-- The SQL of several conditions, stopping at the first failure. -/
def renderAll (ctx : RenderContext) : List Condition → OrmResult (List String)
  | [] => .ok []
  | c :: rest => do
    let first ← render ctx c
    let others ← renderAll ctx rest
    pure (first :: others)

/-- The SQL of clauses: each after the first joined by `OR` or `AND` as its connective says. -/
def renderClauses (ctx : RenderContext) : List (Connective × Condition) → OrmResult String
  | [] => .ok ""
  | (_, c) :: rest => do
    let first ← render ctx c
    let others ← renderJoined ctx rest
    pure (first ++ others)

/-- Clauses after the first, each with its joining word. -/
def renderJoined (ctx : RenderContext) : List (Connective × Condition) → OrmResult String
  | [] => .ok ""
  | (k, c) :: rest => do
    let text ← render ctx c
    let others ← renderJoined ctx rest
    pure ((if k = .or then " OR " else " AND ") ++ text ++ others)

end

end Condition

end EntitySql
