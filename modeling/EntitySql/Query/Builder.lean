import EntitySql.Query.Insert
import EntitySql.Query.Update
import EntitySql.Query.RelationLoad

/-!
# Query builders

A builder is a `QueryState` whose kind says which statement it builds. This module makes the
builders of a data source, turns a select into the other kinds (the copy keeps everything built
so far), and compiles a builder: first its recorded failure, then its statement, then the named
parameters replaced by the dialect's placeholders.

A subquery condition is the one step that fails at once rather than at compile time: the
subquery is built and compiled first, and only when it compiles is its SQL put into the
template (at `{sub}`) and added as a WHERE clause, with the subquery's parameters.
-/

namespace EntitySql

namespace QueryState

/-- The statement of a builder, without looking at its recorded failure. A relation builder's
statement is that of its loader. -/
def statement (reg : Registry) (s : QueryState) : OrmResult String :=
  match s.kind with
  | .select => s.selectQuery reg
  | .insert => s.compileInsert
  | .update => s.compileUpdate
  | .delete => s.compileDelete
  | .softDelete | .restore => s.compileSoftDelete
  | .relation => do (← RelationQuery.loader reg false s).selectQuery reg

def query (reg : Registry) (s : QueryState) : OrmResult String := do
  s.check
  s.statement reg

def queryAndParameters (reg : Registry) (s : QueryState) : OrmResult (String × List Value) := do
  let sql ← s.query reg
  s.dialect.bindNamed sql s.parameters s.nativeParameters

end QueryState

namespace Builder

/-- A select builder, optionally of all columns of a source under an alias. -/
def select (reg : Registry) (d : Dialect) (cacheAlways : Bool) (source : Option (String × String)) :
    QueryState :=
  match source with
  | some (target, name) => RelationQuery.selectAll reg d cacheAlways target name
  | none => { QueryState.new d .select with cache := cacheAlways }

def insert (d : Dialect) : QueryState := QueryState.new d .insert

def update (reg : Registry) (d : Dialect) (target : String) : QueryState :=
  (QueryState.new d .update).apply do
    let _ ← QueryM.record (registerMain reg target none)

def deleteFrom (reg : Registry) (target : String) : QueryM Unit := do
  modify fun s => { s with aliases := s.aliases.removeKind .source }
  let _ ← QueryM.record (registerMain reg target none)

def delete (reg : Registry) (d : Dialect) (target : String) : QueryState :=
  (QueryState.new d .delete).apply (deleteFrom reg target)

def convert (k : QueryKind) : QueryM Unit := modify fun s => { s with kind := k }

def toUpdate (values : Fields) : QueryM Unit := do
  convert .update
  Update.set values

def toRelation (property : String) : QueryM Unit :=
  modify fun s => { s with kind := .relation, relationProperty := some property }

/-- Add a WHERE clause made of a template around a subquery. Fails at once when the subquery
does not compile. -/
def subQueryWhere (reg : Registry) (template : String) (build : QueryM Unit) (k : Connective) :
    QueryM Unit := do
  let s ← get
  let sub := s.deriveSubQuery.apply build
  set { s with counter := sub.counter }
  let sql ← QueryM.lift (sub.query reg)
  applyWhereCall (.inl (k, .raw { sql := Text.replaceAll template "\x7bsub\x7d" sql }))
  QueryM.mergeParameters sub.parameters

end Builder

end EntitySql
