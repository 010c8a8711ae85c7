import EntitySql.Command.Exec.Session

/-!
# The steps of a session

Each step names what it does in `do`. Steps that work on a runner use the current runner: the
runner of the enclosing `transaction` step, else the one the last `create_runner` step made.

* `query` runs a statement on a fresh runner of its own; `runner_query` and `runner_stream` run
  one on the current runner.
* `create_runner`, `connect`, `release` and `phase` make a runner and work with it.
* `start_transaction` opens a level and keeps its handle; `commit` and `rollback` use the handle
  given by position, or the newest one not yet used, and are skipped when there is none.
* `transaction` runs its steps inside a transaction on a fresh runner. Its work fails with the
  first failing step (the steps after it are skipped unless told to go on), else with a usage
  error when told to fail, and the transaction commits or rolls back accordingly.
* `describe`, `stats`, `stats_reset`, `clear_cache` and `runner_info` look at or reset the data
  source.
* `build` builds a query and runs it; a call that fails is the step's answer.

At the end every handle never used is dropped, with a warning.
-/

namespace EntitySql

namespace ExecRequest

open ExecM

/-- What a step leaves behind: its answer, its failure if it failed, and the current runner
after it. -/
structure StepResult where
  answer : Json
  failure : Option OrmError
  current : Option RunnerId

def liftReply {α : Type} : Reply α → StepM α
  | .ok a => pure a
  | .error f => throw f

/-- The current runner, which a step needs. -/
def currentRunner (current : Option RunnerId) : StepM RunnerId :=
  match current with
  | some id => pure id
  | none => throw (.malformed "no current runner")

/-- The answer of a step with an outcome. -/
def finishStep (setup : Setup) (current : Option RunnerId) (r : OrmResult Json)
    (more : List (String × Json) := []) : StepM StepResult := do
  let answer ← stepAnswer setup (outcomeField r) more
  pure ⟨answer, match r with
    | .ok _ => none
    | .error e => some e, current⟩

/-- The position of the handle a step names, or of the newest handle not yet used. -/
def chosenHandle (j : Json) : StepM (Option (Nat × TransactionHandle)) := do
  let s ← get
  match ← Request.nat? j "handle" with
  | some i =>
    match s.handles[i]? with
    | some (h, false) => pure (some (i, h))
    | _ => pure none
  | none =>
    let open_ := s.handles.zipIdx.filter fun ((_, used), _) => !used
    pure (open_.getLast?.map fun ((h, _), i) => (i, h))

def useHandle (i : Nat) : StepM Unit :=
  modify fun s => { s with handles := s.handles.modify i fun (h, _) => (h, true) }

/-- The statement counts as the `stats` step shows them, if they are shown. -/
def statsAnswer (setup : Setup) (s : QueryStats) : Json :=
  if setup.showStats then
    Json.ofFields (statsJson s ++ [("slow", .int s.slow), ("count_select", .int s.select),
      ("count_other", .int s.other)])
  else .null

def droppedHandle (h : TransactionHandle) : TraceEvent :=
  .runner .warn "transaction handle dropped without commit or rollback" [("depth", .int h.depth)]

/-- What a `build` step did: ran its query, with the outcome, or failed at a call. A failed
call is the step's answer, not a failure of the step. -/
inductive BuildOutcome where
  | ran (r : OrmResult Json)
  | callFailed (e : OrmError)

mutual

/-- Run one step. -/
def runStep (setup : Setup) (build : Setup → Option RunnerId → Json → StepM BuildOutcome) :
    Nat → Option RunnerId → Json → StepM StepResult
  | 0, _, _ => throw (.malformed "steps nested too deeply")
  | fuel + 1, current, j => do
    let ds := setup.source
    match ← Request.str j "do" with
    | "build" => do
      match ← build setup current j with
      | .ran r => finishStep setup current r
      | .callFailed e =>
        let answer ← stepAnswer setup [("call_error", e.toJson)]
        pure ⟨answer, none, current⟩
    | "query" => do
      let (sql, params) ← statementOf j
      let r ← onWorld (ds.inRunner none .master false fun id => ds.query id sql params)
      finishStep setup current (r.map resultJson)
    | "create_runner" => do
      let mode ← match ← Request.str? j "mode" with
        | none | some "master" => pure ReplicationMode.master
        | some "slave" => pure .slave
        | some other => throw (.malformed ("unknown mode " ++ other))
      let r ← onWorld (do
        let id ← createRunner mode
        pure (id, phaseJson ds (← runner id)))
      match r with
      | .ok (id, answer) =>
        let answer ← stepAnswer setup [("ok", answer)]
        pure ⟨answer, none, some id⟩
      | .error e => finishStep setup current (.error e)
    | "connect" => do
      let id ← currentRunner current
      let r ← onWorld (ds.ensureConnected id)
      finishStep setup current (r.map fun () => .null)
    | "release" => do
      let id ← currentRunner current
      let r ← onWorld (ds.release id)
      finishStep setup current (r.map fun () => .null)
    | "phase" => do
      let id ← currentRunner current
      let r ← onWorld (runner id)
      finishStep setup current (r.map (phaseJson ds))
    | "runner_query" => do
      let id ← currentRunner current
      let (sql, params) ← statementOf j
      let r ← onWorld (ds.query id sql params)
      finishStep setup current (r.map resultJson)
    | "runner_stream" => do
      let id ← currentRunner current
      let (sql, params) ← statementOf j
      let r ← onWorld (ds.stream id sql params)
      finishStep setup current (r.map streamJson)
    | "start_transaction" => do
      let id ← currentRunner current
      let iso ← match ← Request.str? j "isolation" with
        | some s => some <$> liftReply (Request.isolation s)
        | none => pure none
      let r ← onWorld (ds.startTransaction id iso)
      match r with
      | .ok h =>
        let s ← get
        set { s with handles := s.handles ++ [(h, false)] }
        finishStep setup current
          (.ok (Json.ofFields [("depth", .int h.depth), ("handle", .int s.handles.length)]))
      | .error e => finishStep setup current (.error e)
    | "commit" | "rollback" => do
      let id ← currentRunner current
      match ← chosenHandle j with
      | none =>
        let answer ← stepAnswer setup [("skipped", .str "no open transaction handle")]
        pure ⟨answer, none, current⟩
      | some (i, h) =>
        useHandle i
        let r ← onWorld (if (← Request.str j "do") = "commit" then ds.commit id h
          else ds.rollback id h)
        finishStep setup current (r.map fun () => .null)
    | "transaction" => do
      let fail ← Request.str? j "fail"
      let goOn := !(← Request.flag j "stop_on_error" true)
      let inner ← Request.arrOrEmpty j "steps"
      match ← onWorld (Scope.start ds none .master true) with
      | .error e => finishStep setup current (.error e) [("steps", .arr [])]
      | .ok sc =>
        let (answers, failure) ← runSteps setup build fuel (some sc.runner) goOn inner
        let outcome : OrmResult Unit := match failure, fail with
          | some e, _ => .error e
          | none, some m => .error (.usage m)
          | none, none => .ok ()
        let r ← onWorld (sc.finish ds outcome)
        finishStep setup current (r.map fun () => .null) [("steps", .arr answers)]
    | "clear_cache" => do
      modify fun s => { s with world := { s.world with cache := s.world.cache.map (·.clear) } }
      finishStep setup current (.ok .null)
    | "runner_info" => do
      let s ← get
      let newest := (s.handles.filter fun (_, used) => !used).getLast?
      let mine : Json := match newest, current with
        | some (h, _), some id => .bool (h.runner = id)
        | some _, none => .bool false
        | none, _ => .null
      finishStep setup current
        (.ok (Json.ofFields [("shares_broadcaster", .bool true), ("handle_of_runner", mine)]))
    | "describe" => do
      finishStep setup current (.ok (describe ds (← get).world))
    | "stats" => do
      finishStep setup current (.ok (statsAnswer setup (← get).world.stats))
    | "stats_reset" => do
      modify fun s => { s with world := { s.world with stats := {} } }
      finishStep setup current (.ok (statsAnswer setup (← get).world.stats))
    | other => throw (.malformed ("unknown step " ++ other))

/-- Run steps in order: their answers, and the first failure. Unless `goOn`, the steps after a
failure are not run. -/
def runSteps (setup : Setup) (build : Setup → Option RunnerId → Json → StepM BuildOutcome) :
    Nat → Option RunnerId → Bool → List Json → StepM (List Json × Option OrmError)
  | _, _, _, [] => pure ([], none)
  | fuel, current, goOn, j :: rest => do
    let r ← runStep setup build fuel current j
    if r.failure.isSome && !goOn then pure ([r.answer], r.failure)
    else
      let (answers, failure) ← runSteps setup build fuel r.current goOn rest
      pure (r.answer :: answers, r.failure.orElse fun _ => failure)

end

/-- Answer an `exec` request, with the given way to run `build` steps. -/
def answerWith (build : Setup → Option RunnerId → Json → StepM BuildOutcome) (req : Json) :
    Reply Json := do
  match ← setupOf req with
  | .error e => pure e.toJson
  | .ok setup =>
    let steps ← Request.arrOrEmpty req "steps"
    let run : StepM Json := do
      let (answers, _) ← runSteps setup build (req.nodes + 1) none true steps
      let log ← drainLog
      let s ← get
      let dropped := (s.handles.filter fun (_, used) => !used).map fun (h, _) => droppedHandle h
      let events := s.world.events ++ dropped
      pure (Json.ofFields ([("steps", .arr answers), ("log_rest", log)] ++
        (if setup.showStats then [("stats", Json.ofFields (statsJson s.world.stats))] else []) ++
        (if setup.trace then [("events_rest", .arr (events.map TraceEvent.toJson))] else [])))
    let (r, _) := (run.run).run { world := setup.world }
    match r with
    | .ok j => pure j
    | .error f => throw f

end ExecRequest

end EntitySql
