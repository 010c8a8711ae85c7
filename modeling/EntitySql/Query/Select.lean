import EntitySql.Query.Where
import EntitySql.Query.SelectSql
import EntitySql.Text.Split

/-!
# Building a select

The steps of a select builder. Each step that can fail runs with `QueryM.record`, so a failure
is kept for compile time and the builder goes on.

A source is an entity (by name or table name) or a table; the first source becomes the main
alias. A subquery is built in a state of its own that shares the parameter counter; its SQL
goes in brackets, and its parameters join the query's only when it compiled.

A join reaches a relation of a joined alias (`alias.property`), an entity or a table. Its alias
must be free; its condition is raw SQL; a selected join adds its alias to the select list, and
a mapped join (`alias.property`) says where its rows go in the loaded entities.
-/

namespace EntitySql

namespace Select

def select (items : List String) : QueryM Unit :=
  modify fun s => { s with selects := items.map fun e => { expression := e } }

def addSelect (item : String) : QueryM Unit :=
  modify fun s => { s with selects := s.selects ++ [{ expression := item }] }

def addSelectAs (item label : String) : QueryM Unit :=
  modify fun s => { s with selects := s.selects ++ [{ expression := item, label := some label }] }

def distinct (on : Bool) : QueryM Unit := modify fun s => { s with distinct := on }

def «from» (reg : Registry) (target name : String) : QueryM Unit := do
  let _ ← QueryM.record (registerMain reg target (some name))

/-- Add a source; the first source becomes the main alias. -/
def addFrom (reg : Registry) (target name : String) : QueryM Unit := do
  match ← QueryM.record (registerSource reg target (some name)) with
  | some n =>
    if !(← get).aliases.hasMain then
      let _ ← QueryM.record (QueryM.setMainAlias n)
  | none => pure ()

def query (reg : Registry) (s : QueryState) : OrmResult String := do
  s.check
  s.selectQuery reg

/-- Build a subquery: its SQL, with its parameters added when it compiled. -/
def buildSubQuery (reg : Registry) (build : QueryM Unit) : QueryM String := do
  let s ← get
  let sub := s.deriveSubQuery.apply build
  set { s with counter := sub.counter }
  let sql ← QueryM.lift (query reg sub)
  QueryM.mergeParameters sub.parameters
  pure sql

/-- Select from a subquery. -/
def fromSubQuery (reg : Registry) (build : QueryM Unit) (name : String) : QueryM Unit := do
  let _ ← QueryM.record do
    let sql ← buildSubQuery reg build
    let a ← QueryM.createAlias { kind := .source, name := some name, subQuery := some sql }
    if !(← get).aliases.hasMain then QueryM.setMainAlias a.name

/-- What a join target names: a relation of a joined entity alias, with that alias. -/
def relationTarget? (s : QueryState) (target : String) : Option (String × String × Entity) := do
  let (parent, property) ← splitFirst? target '.'
  let a ← s.aliases.find? parent
  let e ← a.entity
  pure (parent, property, e)

def noRelation (e : Entity) (property : String) : OrmError :=
  .usage ("relation with property path \"" ++ property ++ "\" was not found in entity " ++ e.name)

/-- Add a join. -/
def tryJoin (reg : Registry) (direction : JoinDirection) (target name : String)
    (condition : Option RawCondition) (selected : Bool) (mapTo : Option (String × Bool)) :
    QueryM Unit := do
  let (jt, spec) ← match relationTarget? (← get) target with
    | some (parent, property, e) => do
      let rel ← match e.findRelation? property with
        | some r => pure r
        | none => throw (noRelation e property)
      let te ← QueryM.lift (reg.get rel.target)
      pure (JoinTarget.relation parent rel, ({ kind := .join, name := some name, entity := some te } : AliasSpec))
    | none =>
      match reg.find? target with
      | some e => pure (.entity e.name, { kind := .join, name := some name, entity := some e })
      | none => pure (.table target, { kind := .join, name := some name, tablePath := some target })
  let mapping ← match mapTo with
    | some (path, many) =>
      match splitFirst? path '.' with
      | some (parent, property) => do
        let _ ← QueryM.lift ((← get).aliases.get parent)
        pure (some { parentAlias := parent, property, many : JoinMapping })
      | none => throw (.usage ("join mapping \"" ++ path ++ "\" must have the form alias.property"))
    | none => pure none
  let a ← QueryM.createAlias spec
  let cond ← match condition with
    | some rc => some <$> lowerCondition (.raw rc)
    | none => pure none
  if selected then addSelect a.name
  let j : Join :=
    { direction, target := jt, name := a.name, condition := cond, selected, mapTo := mapping }
  modify fun s => { s with joins := s.joins ++ [j] }

/-- Add a join, keeping a failure for compile time. -/
def join (reg : Registry) (direction : JoinDirection) (target name : String)
    (condition : Option RawCondition) (selected : Bool) (mapTo : Option (String × Bool)) :
    QueryM Unit := do
  let _ ← QueryM.record (tryJoin reg direction target name condition selected mapTo)

/-- Left join a subquery on a condition. -/
def leftJoinSubQuery (reg : Registry) (build : QueryM Unit) (name : String) (condition : RawCondition) :
    QueryM Unit := do
  let _ ← QueryM.record do
    let sql ← buildSubQuery reg build
    let cond ← lowerCondition (.raw condition)
    let a ← QueryM.createAlias { kind := .join, name := some name, subQuery := some sql }
    let j : Join := { direction := .left, target := .subQuery sql, name := a.name, condition := some cond }
    modify fun s => { s with joins := s.joins ++ [j] }

/-- Add a HAVING clause, after clearing them for a first one. -/
def having (k : Connective) (input : WhereInput) : QueryM Unit := do
  if k = .first then modify fun s => { s with havings := [] }
  match ← QueryM.record (lowerCondition input) with
  | some c => modify fun s => { s with havings := s.havings ++ [(k, c)] }
  | none => pure ()

def groupBy (e : String) : QueryM Unit := modify fun s => { s with groupBys := [e] }

def addGroupBy (e : String) : QueryM Unit := modify fun s => { s with groupBys := s.groupBys ++ [e] }

def addOrderBy (o : Ordering) : QueryM Unit := modify fun s => { s with orderBys := s.orderBys ++ [o] }

def orderBy (o : Ordering) : QueryM Unit := modify fun s => { s with orderBys := [o] }

/-- The owner alias, relation and target property of a relation attribute. -/
def relationAttribute (mapTo relation : String) : QueryM RelationAttribute := do
  let (parent, property) ← match splitFirst? relation '.' with
    | some p => pure p
    | none => throw (.usage ("relation \"" ++ relation ++ "\" must have the form alias.property"))
  let s ← get
  let e ← QueryM.lift (do
    let a ← s.aliases.get parent
    a.metadata)
  let rel ← match e.findRelation? property with
    | some r => pure r
    | none => throw (noRelation e property)
  let target ← match splitFirst? mapTo '.' with
    | some (a, t) =>
      if a = parent then pure t
      else throw (.usage ("\"" ++ mapTo ++ "\" must be a property of alias \"" ++ parent ++ "\""))
    | none => pure mapTo
  pure { parentAlias := parent, relation := rel, mapTo := target }

/-- Load the ids of a relation into a property. -/
def loadRelationIds (mapTo relation : String) : QueryM Unit := do
  match ← QueryM.record (relationAttribute mapTo relation) with
  | some r => modify fun s => { s with relationIds := s.relationIds ++ [r] }
  | none => pure ()

/-- Load the count of a relation into a property. -/
def loadRelationCount (mapTo relation : String) : QueryM Unit := do
  match ← QueryM.record (relationAttribute mapTo relation) with
  | some r => modify fun s => { s with relationCounts := s.relationCounts ++ [r] }
  | none => pure ()

end Select

end EntitySql
