import EntitySql.Query.Condition
import EntitySql.Dialect.Lock
import EntitySql.Dialect.Coerce

/-!
# The state of a query under construction

A query builder collects its statement in a `QueryState`: the aliases, conditions, joins,
selections, ordering, paging, locking, values to write and the named parameters, together with
the first error any building step met. Building steps are `QueryM` actions: they change the
state and may fail, and a failed step keeps the changes it made before it failed. A fluent call
runs its step with `QueryM.record`, which keeps the first failure in the state; compiling the
statement reports it.

Parameters made up by the builder are named `orm_param_n`, where `n` counts up over the query
and every subquery and bracket group built inside it, so no two share a name. A copy of the
state (turning a select into an update, say) counts on by itself.
-/

namespace EntitySql

/-- What statement a query builds. -/
inductive QueryKind where
  | select
  | insert
  | update
  | delete
  | softDelete
  | restore
  | relation
  deriving DecidableEq, Repr, Inhabited

/-- The direction of an ordering. -/
inductive SortOrder where
  | asc
  | desc
  deriving DecidableEq, Repr, Inhabited

def SortOrder.sql : SortOrder → String
  | .asc => "ASC"
  | .desc => "DESC"

/-- Where nulls sort. -/
inductive NullsOrder where
  | first
  | last
  deriving DecidableEq, Repr, Inhabited

/-- One expression of an `ORDER BY`. -/
structure Ordering where
  expression : String
  order : SortOrder := .asc
  nulls : Option NullsOrder := none
  deriving Inhabited

/-- One item of the select list, with the name it is selected as. -/
structure Selection where
  expression : String
  label : Option String := none
  deriving Inhabited

/-- Inner or left join. -/
inductive JoinDirection where
  | inner
  | left
  deriving DecidableEq, Repr, Inhabited

def JoinDirection.sql : JoinDirection → String
  | .inner => "INNER JOIN"
  | .left => "LEFT JOIN"

/-- What a join reaches: a relation of a joined alias, an entity, a table or a subquery. -/
inductive JoinTarget where
  | relation (parentAlias : String) (rel : Relation)
  | entity (name : String)
  | table (path : String)
  | subQuery (sql : String)
  deriving Inhabited

/-- Where the rows of a join are put in the loaded entities. -/
structure JoinMapping where
  parentAlias : String
  property : String
  many : Bool
  deriving Inhabited

/-- A join of the query. -/
structure Join where
  direction : JoinDirection
  target : JoinTarget
  /-- The alias of the joined source. -/
  name : String
  condition : Option Condition := none
  selected : Bool := false
  mapTo : Option JoinMapping := none
  deriving Inhabited

namespace Join

/-- The relation joined, if the join follows one. -/
def relation? (j : Join) : Option Relation :=
  match j.target with
  | .relation _ r => some r
  | _ => none

/-- The alias the join hangs from: the owner of its relation, else that of its mapping. -/
def parentAlias? (j : Join) : Option String :=
  match j.target with
  | .relation p _ => some p
  | _ => j.mapTo.map (·.parentAlias)

end Join

/-- The version an optimistic lock expects. -/
inductive LockVersion where
  | version (n : Int)
  | date (t : Timestamp)
  deriving Inhabited

def LockVersion.text : LockVersion → String
  | .version n => toString n
  | .date t => t.rfc3339

/-- What an upsert updates when a row already exists. -/
structure Upsert where
  columns : List String
  conflictTarget : List String
  skipUnchanged : Bool
  deriving Inhabited

/-- Columns a write statement returns: property paths, or raw SQL. -/
inductive Returning where
  | columns (paths : List String)
  | raw (sql : String)
  deriving Inhabited

/-- A relation whose ids or counts are loaded into a property of the loaded entities. -/
structure RelationAttribute where
  parentAlias : String
  relation : Relation
  mapTo : String
  deriving Inhabited

/-- A query under construction. -/
structure QueryState where
  dialect : Dialect
  kind : QueryKind
  aliases : Aliases := {}
  wheres : List (Connective × Condition) := []
  havings : List (Connective × Condition) := []
  joins : List Join := []
  selects : List Selection := []
  distinct : Bool := false
  orderBys : List Ordering := []
  groupBys : List String := []
  parameters : List (String × Value) := []
  nativeParameters : List Value := []
  limit : Option Nat := none
  offset : Option Nat := none
  skip : Option Nat := none
  take : Option Nat := none
  lockMode : Option LockMode := none
  lockVersion : Option LockVersion := none
  lockTables : List String := []
  onLocked : Option OnLocked := none
  cache : Bool := false
  cacheId : Option String := none
  /-- How long a cached result lives, in milliseconds. -/
  cacheDuration : Option Nat := none
  valuesSet : List Fields := []
  /-- Column and SQL of each assignment of an update. -/
  assignments : List (String × String) := []
  onConflict : Option String := none
  onIgnore : Bool := false
  onUpdate : Option Upsert := none
  returning : Option Returning := none
  updateEntity : Bool := true
  useTransaction : Bool := false
  withDeleted : Bool := false
  callListeners : Bool := true
  relationIds : List RelationAttribute := []
  relationCounts : List RelationAttribute := []
  relationProperty : Option String := none
  owners : List Json := []
  disableEscaping : Bool := false
  whereEntities : List Fields := []
  extraWhere : Option String := none
  subQuery : Bool := false
  buildError : Option OrmError := none
  /-- The number of the next made-up parameter name. -/
  counter : Nat := 0
  deriving Inhabited

/-- A building step: it changes the query and may fail, keeping what it changed. -/
abbrev QueryM := ExceptT OrmError (StateM QueryState)

def paramName (n : Nat) : String := "orm_param_" ++ toString n

def setParam (ps : List (String × Value)) (name : String) (v : Value) : List (String × Value) :=
  if ps.any (·.1 = name) then ps.map fun (k, w) => if k = name then (k, v) else (k, w)
  else ps ++ [(name, v)]

def mergeParams (ps more : List (String × Value)) : List (String × Value) :=
  more.foldl (fun acc (k, v) => setParam acc k v) ps

namespace QueryState

def new (d : Dialect) (k : QueryKind) : QueryState := { dialect := d, kind := k }

def deriveChild (s : QueryState) : QueryState :=
  { QueryState.new s.dialect .select with aliases := s.aliases, joins := s.joins, counter := s.counter }

def deriveSubQuery (s : QueryState) : QueryState :=
  { QueryState.new s.dialect .select with
    counter := s.counter, disableEscaping := s.disableEscaping, subQuery := true }

/-- Keep the first failure. -/
def fail (s : QueryState) (e : OrmError) : QueryState :=
  match s.buildError with
  | some _ => s
  | none => { s with buildError := some e }

@[simp] theorem fail_counter (s : QueryState) (e : OrmError) : (s.fail e).counter = s.counter := by
  unfold fail
  split <;> rfl

@[simp] theorem fail_parameters (s : QueryState) (e : OrmError) :
    (s.fail e).parameters = s.parameters := by
  unfold fail
  split <;> rfl

/-- The first failure, if any, as a copy. -/
def check (s : QueryState) : OrmResult Unit :=
  match s.buildError with
  | some e => .error e.replicate
  | none => .ok ()

def escape (s : QueryState) (name : String) : String :=
  if s.disableEscaping then name else s.dialect.escape name

def mainAlias (s : QueryState) : OrmResult Alias := s.aliases.mainAlias

/-- The entity of the main alias, if there is one. -/
def mainEntity? (s : QueryState) : Option Entity :=
  match s.mainAlias with
  | .ok a => a.entity
  | .error _ => none

/-- The join that follows a relation of an alias. -/
def findRelationJoin? (s : QueryState) (parent property : String) : Option Join :=
  s.joins.find? fun j =>
    match j.target with
    | .relation p r => p = parent ∧ r.propertyPath = property
    | _ => false

/-- The limit and offset written: `take` and `skip` stand for them when neither is given and
nothing is joined. -/
def effectivePagination (s : QueryState) : Option Nat × Option Nat :=
  if s.limit.isNone ∧ s.offset.isNone ∧ s.joins.isEmpty then (s.take, s.skip) else (s.limit, s.offset)

def needsTwoPhase (s : QueryState) : Bool := (s.skip.isSome ∨ s.take.isSome) ∧ !s.joins.isEmpty

def renderContext (s : QueryState) (prefixAlias : Bool) : RenderContext :=
  { dialect := s.dialect, aliases := s.aliases, prefixAlias, escaping := !s.disableEscaping }

def apply (s : QueryState) (step : QueryM Unit) : QueryState := (step.run.run s).2

end QueryState

namespace QueryM

/-- Run a step; a failure is kept in the state and the step gives nothing. -/
def record {α : Type} (step : QueryM α) : QueryM (Option α) :=
  tryCatch (some <$> step) fun e => do
    modify (·.fail e)
    pure none

/-- Lift a result. -/
def lift {α : Type} (r : OrmResult α) : QueryM α :=
  match r with
  | .ok a => pure a
  | .error e => throw e

def nextParameterName : QueryM String :=
  modifyGet fun s => (paramName s.counter, { s with counter := s.counter + 1 })

/-- Bind a value to a made-up parameter name. -/
def bindValue (v : Value) : QueryM String := do
  let name ← nextParameterName
  modify fun s => { s with parameters := setParam s.parameters name v }
  pure name

def setParameter (name : String) (v : Value) : QueryM Unit :=
  modify fun s => { s with parameters := setParam s.parameters name v }

def mergeParameters (ps : List (String × Value)) : QueryM Unit :=
  modify fun s => { s with parameters := mergeParams s.parameters ps }

def mainAlias : QueryM Alias := do lift (← get).mainAlias

/-- Add an alias. -/
def createAlias (spec : AliasSpec) : QueryM Alias := do
  let (as, a) ← lift ((← get).aliases.create spec)
  modify fun s => { s with aliases := as }
  pure a

def setMainAlias (name : String) : QueryM Unit := do
  let as ← lift ((← get).aliases.setMain name)
  modify fun s => { s with aliases := as }

end QueryM

/-- The discriminator values of an entity's rows: its own, then those of its descendants. -/
def discriminatorValues (reg : Registry) (e : Entity) : List Value :=
  let own := match e.inheritance with
    | some i => some i.discriminatorValue
    | none => e.discriminatorValue
  (own.toList ++ (reg.descendants e.name).filterMap fun c => c.inheritance.map (·.discriminatorValue)).map
    Value.text

/-- Add a source alias for an entity or a table. A child entity of an inheritance hierarchy sets
the parameter `discriminatorColumnValues` to the values its rows may carry. -/
def registerSource (reg : Registry) (target : String) (name : Option String) : QueryM String := do
  let spec : AliasSpec ← match reg.find? target with
    | some e => do
      if e.parent?.isSome then
        QueryM.setParameter "discriminatorColumnValues" (.array (discriminatorValues reg e))
      pure { kind := .source, name := some (name.getD e.name), entity := some e }
    | none => pure { kind := .source, name := some (name.getD target), tablePath := some target }
  let a ← QueryM.createAlias spec
  pure a.name

/-- Add a source alias and make it the main one. -/
def registerMain (reg : Registry) (target : String) (name : Option String) : QueryM String := do
  let n ← registerSource reg target name
  QueryM.setMainAlias n
  pure n

end EntitySql
