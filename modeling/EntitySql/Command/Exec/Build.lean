import EntitySql.Command.Exec.Steps
import EntitySql.Execute.Relation

/-!
# Building and running queries in a session

A `build` step builds a query as a `build` request does, applies its calls, and runs it as its
`run` field says, on the current runner when it asks for one (`use_runner`). The first call that
fails ends the step with that failure as its answer.

Every builder but a relation builder gives its final SQL (`get_sql`). A select loads entities or
rows, counts, checks for existence or streams; an insert, update, delete, soft delete or restore
runs (`execute`) and reports; a relation builder sets, adds, removes or loads.
-/

namespace EntitySql

namespace ExecRequest

open DataSource

def entityJson (e : Fields) : Json := .obj e

def entityOrNull : Option Fields → Json
  | some e => .obj e
  | none => .null

def rowOrNull : Option Row → Json
  | some r => Values.rowPairs r
  | none => .null

/-- Run a select as a step asks. -/
def runSelect (ds : DataSource) (given : Option RunnerId) (s : QueryState) (j : Json) :
    Reply (ExecM Json) := do
  match ← Request.str j "run" with
  | "get_many" | "get_many_as" => pure ((·.map entityJson |> .arr) <$> ds.getMany given s)
  | "get_one" | "get_one_as" => pure (entityOrNull <$> ds.getOne given s)
  | "get_one_or_fail" => pure (entityJson <$> ds.getOneOrFail given s)
  | "get_raw_many" => pure ((·.map Values.rowPairs |> .arr) <$> ds.getRawMany given s)
  | "get_raw_one" => pure ((rowOrNull ·.head?) <$> ds.getRawMany given s)
  | "get_raw_and_entities" => pure do
    let (rows, entities) ← ds.getRawAndEntities given s
    pure (Json.ofFields [("raw", .arr (rows.map Values.rowPairs)),
      ("entities", .arr (entities.map entityJson))])
  | "get_count" => pure ((Json.int ·) <$> ds.getCount given s)
  | "get_many_and_count" => pure do
    let (entities, n) ← ds.getManyAndCount given s
    pure (Json.ofFields [("entities", .arr (entities.map entityJson)), ("count", .int n)])
  | "get_exists" => pure (Json.bool <$> ds.getExists given s)
  | "stream" => pure do
    let st ← ds.openStream given s
    let answer := streamJson st.rows
    ds.closeStream st
    pure answer
  | other => Reply.malformed ("unknown run " ++ other)

/-- Run a relation builder as a step asks. -/
def runRelation (ds : DataSource) (given : Option RunnerId) (s : QueryState) (j : Json) :
    Reply (ExecM Json) := do
  let done := fun (x : ExecM Unit) => (fun () => Json.null) <$> x
  match ← Request.str j "run" with
  | "set" => pure (done (ds.setRelation given s ((Request.opt? j "value").getD .null)))
  | "add" => pure (done (ds.addAndRemove given s (← Request.arrOrEmpty j "values") []))
  | "remove" => pure (done (ds.addAndRemove given s [] (← Request.arrOrEmpty j "values")))
  | "add_and_remove" =>
    pure (done (ds.addAndRemove given s (← Request.arrOrEmpty j "added")
      (← Request.arrOrEmpty j "removed")))
  | "load_one" => pure do
    let loader ← ExecM.ofResult (ds.relationLoader s)
    entityOrNull <$> ds.getOne given loader
  | "load_many" => pure do
    let loader ← ExecM.ofResult (ds.relationLoader s)
    (·.map entityJson |> .arr) <$> ds.getMany given loader
  | other => Reply.malformed ("unknown run " ++ other)

/-- Run a built query as a step asks. -/
def runBuilt (ds : DataSource) (given : Option RunnerId) (s : QueryState) (j : Json) :
    Reply (ExecM Json) := do
  let run ← Request.str j "run"
  if run = "get_sql" ∧ s.kind ≠ .relation then
    return ((Json.str ·.1) <$> ExecM.ofResult (s.queryAndParameters ds.registry))
  match s.kind with
  | .select => runSelect ds given s j
  | .relation => runRelation ds given s j
  | .insert =>
    if run = "execute" then pure (InsertResult.toJson <$> ds.executeInsert given s)
    else Reply.malformed ("unknown run " ++ run)
  | .delete =>
    if run = "execute" then pure (deleteReport <$> ds.executeWrite given s)
    else Reply.malformed ("unknown run " ++ run)
  | .update | .softDelete | .restore =>
    if run = "execute" then pure (updateReport s <$> ds.executeWrite given s)
    else Reply.malformed ("unknown run " ++ run)

/-- Run a `build` step. -/
def buildStep (setup : Setup) (current : Option RunnerId) (j : Json) : StepM BuildOutcome := do
  let ds := setup.source
  let src : Source := { registry := ds.registry, dialect := ds.dialect, cacheAlways := ds.cacheAlways }
  let start ← liftReply (BuildRequest.builderOf src (← liftReply (Request.field j "builder")))
  let fuel := j.nodes
  let calls ← liftReply (Request.arrOrEmpty j "calls")
  let built ← calls.foldlM (fun (acc : Except OrmError QueryState) c => do
    match acc with
    | .error e => pure (.error e)
    | .ok s =>
      let step ← liftReply (BuildRequest.call src fuel s.kind c)
      pure (s.run step)) (.ok start)
  match built with
  | .error e => pure (.callFailed e)
  | .ok s =>
    let given := if ← liftReply (Request.flag j "use_runner" false) then current else none
    let work ← liftReply (runBuilt ds given s j)
    pure (.ran (← onWorld work))

def answer (req : Json) : Reply Json := answerWith buildStep req

def answer? (op : String) (req : Json) : Option (Reply Json) :=
  if op = "exec" then some (answer req) else none

end ExecRequest

end EntitySql
