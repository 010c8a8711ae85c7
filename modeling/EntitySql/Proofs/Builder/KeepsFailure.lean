import Mathlib
import EntitySql.Query.Builder

set_option mvcgen.warning false

/-!
# Building steps keep the first failure

A builder keeps the first failure of its fluent calls in `QueryState.buildError`:
`QueryM.record` runs a call's step and, when the step fails, writes the failure there with
`QueryState.fail`, which leaves a failure already written in place (`fail_buildError`). No
other building step writes that field.

`QueryM.KeepsFailure x` is the Hoare triple saying that a run of `x` from a state holding the
failure `e` ends in a state holding `e`, whether `x` returns or throws. Every step of the
builders has it, each stated as a `spec` lemma beside the others so that `mvcgen` uses it for
the steps built from it: the steps of the state (`bindValue`, `createAlias`, `registerMain`),
of conditions (`Op.bind`, `resolveFindWhere`, `lowerCondition`, `applyWhereCall`), of the
select, insert, update, delete and relation builders, and the conversions between them.
`KeepsFailure.apply_buildError` reads a triple back as a fact about a run.
-/

namespace EntitySql

open Std.Do

namespace QueryState

@[simp] theorem fail_buildError (s : QueryState) (e : OrmError) :
    (s.fail e).buildError = s.buildError.or (some e) := by
  cases h : s.buildError <;> simp [fail, h]

end QueryState

namespace QueryM

variable {α β : Type} (e : OrmError)

/-- Run from a state holding the failure `e`, the step ends in a state holding `e`, whether it
returns or throws. -/
abbrev KeepsFailure (x : QueryM α) : Prop :=
  ⦃fun s => ⌜s.buildError = some e⌝⦄ x
    ⦃post⟨fun _ s => ⌜s.buildError = some e⌝, fun _ s => ⌜s.buildError = some e⌝⟩⦄

variable {e}

theorem KeepsFailure.run_buildError {x : QueryM α} (hx : KeepsFailure e x) {s : QueryState}
    (hs : s.buildError = some e) : (x.run.run s).2.buildError = some e := by
  refine @StateM.of_wp_run_eq _ _ _ s x.run rfl (fun p => p.2.buildError = some e) ?_
  simp only [WP.ExceptT_run]
  exact fun _ => hx s hs

theorem KeepsFailure.apply_buildError {x : QueryM Unit} (hx : KeepsFailure e x) {s : QueryState}
    (hs : s.buildError = some e) : (s.apply x).buildError = some e :=
  hx.run_buildError hs

@[spec, simp] theorem record_keepsFailure {x : QueryM α} (hx : KeepsFailure e x) :
    KeepsFailure e (record x) := by
  mvcgen [record, hx]
  all_goals simp_all +zetaDelta

@[spec, simp] theorem mapM_keepsFailure {f : β → QueryM α} (hf : ∀ b, KeepsFailure e (f b)) :
    ∀ l : List β, KeepsFailure e (l.mapM f)
  | [] => by mvcgen
  | b :: l => by
    have hb := hf b
    have hl := mapM_keepsFailure hf l
    mvcgen [List.mapM_cons, hb, hl]

variable (e)

/-! ## Steps of the state -/

@[simp] theorem modify_keepsFailure {f : QueryState → QueryState}
    (hf : ∀ s, (f s).buildError = s.buildError) : KeepsFailure e (modify f) := by
  mvcgen
  simp_all +zetaDelta

@[spec, simp] theorem lift_keepsFailure (r : OrmResult α) : KeepsFailure e (lift r) := by
  mvcgen [lift]

@[spec, simp] theorem nextParameterName_keepsFailure : KeepsFailure e nextParameterName := by
  mvcgen [nextParameterName]

@[spec, simp] theorem bindValue_keepsFailure (v : Value) : KeepsFailure e (bindValue v) := by
  mvcgen [bindValue]

@[spec, simp] theorem setParameter_keepsFailure (name : String) (v : Value) :
    KeepsFailure e (setParameter name v) := by
  mvcgen [setParameter]

@[spec, simp] theorem mergeParameters_keepsFailure (ps : List (String × Value)) :
    KeepsFailure e (mergeParameters ps) := by
  mvcgen [mergeParameters]

@[spec, simp] theorem mainAlias_keepsFailure : KeepsFailure e mainAlias := by
  mvcgen [mainAlias]

@[spec, simp] theorem createAlias_keepsFailure (spec : AliasSpec) :
    KeepsFailure e (createAlias spec) := by
  mvcgen [createAlias]

@[spec, simp] theorem setMainAlias_keepsFailure (name : String) : KeepsFailure e (setMainAlias name) := by
  mvcgen [setMainAlias]

end QueryM

open QueryM

variable (e : OrmError)

@[spec, simp] theorem registerSource_keepsFailure (reg : Registry) (target : String)
    (name : Option String) : KeepsFailure e (registerSource reg target name) := by
  mvcgen [registerSource]

@[spec, simp] theorem registerMain_keepsFailure (reg : Registry) (target : String)
    (name : Option String) : KeepsFailure e (registerMain reg target name) := by
  mvcgen [registerMain]

/-! ## Steps of conditions -/

namespace Op

mutual

@[spec, simp] theorem bind_keepsFailure (column : Option Column) : (op : Op) → KeepsFailure e (bind column op)
  | .not inner => by
    have ih := bind_keepsFailure column inner
    mvcgen [bind, ih]
  | .and ops | .or ops => by
    have ih := bindAll_keepsFailure column ops
    mvcgen [bind, ih]
  | .raw _ params => by
    have hparams := mapM_keepsFailure (bindValue_keepsFailure e) params
    mvcgen [bind, hparams]
  | .eq _ | .ne _ | .gt _ | .gte _ | .lt _ | .lte _ | .like _ | .ilike _ | .inList []
  | .inList (_ :: _) | .between _ _ | .isNull | .any _ | .arrayContains _ | .arrayContainedBy _
  | .arrayOverlap _ => by
    mvcgen [bind]

@[spec, simp] theorem bindAll_keepsFailure (column : Option Column) :
    (ops : List Op) → KeepsFailure e (bindAll column ops)
  | [] => by mvcgen [bindAll]
  | op :: rest => by
    have hop := bind_keepsFailure column op
    have hrest := bindAll_keepsFailure column rest
    mvcgen [bindAll, hop, hrest]

end

end Op

@[spec, simp] theorem predicate_keepsFailure (aliasName column : String) (known : Option Column)
    (op : Op) : KeepsFailure e (predicate aliasName column known op) := by
  mvcgen [predicate]

@[spec, simp] theorem lowerColumn_keepsFailure (aliasName : String) (ent : Entity) (path : String)
    (op : Op) : KeepsFailure e (lowerColumn aliasName ent path op) := by
  mvcgen [lowerColumn]

@[spec, simp] theorem lowerJoinKeys_keepsFailure (aliasName : String) (ent : Entity) (path : String) :
    (entries : List (String × FindValue)) → KeepsFailure e (lowerJoinKeys aliasName ent path entries)
  | [] => by mvcgen [lowerJoinKeys]
  | _ :: rest => by
    have hrest := lowerJoinKeys_keepsFailure aliasName ent path rest
    mvcgen [lowerJoinKeys, hrest]

@[spec, simp] theorem resolveFindWhere_keepsFailure (aliasName : String) (f : FindWhere) :
    KeepsFailure e (resolveFindWhere aliasName f) := by
  refine resolveFindWhere.induct (fun a f => KeepsFailure e (resolveFindWhere a f))
    (fun a known pre entries => KeepsFailure e (lowerEntries a known pre entries))
    (fun a known path v => KeepsFailure e (lowerEntry a known path v))
    ?resolve ?nil ?cons ?unknown ?joined ?embedded ?value ?valueOf ?op ?opOf aliasName f
  case resolve =>
    intro a f hentries
    mvcgen [resolveFindWhere, hentries]
  case nil => intro _ _ _; mvcgen [lowerEntries]
  case cons =>
    intro _ _ _ _ _ _ hfirst hrest
    mvcgen [lowerEntries, hfirst, hrest]
  case unknown => intro _ _ _; mvcgen [lowerEntry]
  case joined =>
    intro _ _ _ _ _ hrel hjoin
    mvcgen [lowerEntry, hrel, hjoin]
  case embedded =>
    intro _ _ _ _ hrel hinner
    mvcgen [lowerEntry, hrel, hinner]
  case value => intro _ _ _; mvcgen [lowerEntry]
  case valueOf => intro _ _ _ _; mvcgen [lowerEntry]
  case op => intro _ _ _; mvcgen [lowerEntry]
  case opOf => intro _ _ _ _; mvcgen [lowerEntry]

@[spec, simp] theorem whereIdsCondition_keepsFailure (ids : List Json) :
    KeepsFailure e (whereIdsCondition ids) := by
  mvcgen [whereIdsCondition]

@[spec, simp] theorem pushWhere_keepsFailure (k : Connective) {step : QueryM Condition}
    (hstep : KeepsFailure e step) : KeepsFailure e (pushWhere k step) := by
  mvcgen [pushWhere, hstep]

@[spec, simp] theorem lowerCondition_keepsFailure (input : WhereInput) :
    KeepsFailure e (lowerCondition input) := by
  cases input <;> mvcgen [lowerCondition]

@[spec, simp] theorem applyWhereCalls_keepsFailure :
    (calls : List WhereCall) → KeepsFailure e (applyWhereCalls calls)
  | [] => by mvcgen [applyWhereCalls]
  | .inl _ :: rest | .inr _ :: rest => by
    have hrest := applyWhereCalls_keepsFailure rest
    mvcgen [applyWhereCalls, hrest]

@[spec, simp] theorem applyWhereCall_keepsFailure (call : WhereCall) :
    KeepsFailure e (applyWhereCall call) := by
  mvcgen [applyWhereCall]

/-! ## Steps of the builders -/

namespace Select

@[spec, simp] theorem select_keepsFailure (items : List String) : KeepsFailure e (select items) := by
  mvcgen [select]

@[spec, simp] theorem addSelect_keepsFailure (item : String) : KeepsFailure e (addSelect item) := by
  mvcgen [addSelect]

@[spec, simp] theorem addSelectAs_keepsFailure (item label : String) :
    KeepsFailure e (addSelectAs item label) := by
  mvcgen [addSelectAs]

@[spec, simp] theorem distinct_keepsFailure (on : Bool) : KeepsFailure e (distinct on) := by
  mvcgen [distinct]

@[spec, simp] theorem from_keepsFailure (reg : Registry) (target name : String) :
    KeepsFailure e (Select.from reg target name) := by
  mvcgen [Select.from]

@[spec, simp] theorem addFrom_keepsFailure (reg : Registry) (target name : String) :
    KeepsFailure e (addFrom reg target name) := by
  mvcgen [addFrom]

@[spec, simp] theorem buildSubQuery_keepsFailure (reg : Registry) (build : QueryM Unit) :
    KeepsFailure e (buildSubQuery reg build) := by
  mvcgen [buildSubQuery]

@[spec, simp] theorem fromSubQuery_keepsFailure (reg : Registry) (build : QueryM Unit) (name : String) :
    KeepsFailure e (fromSubQuery reg build name) := by
  mvcgen [fromSubQuery]

@[spec, simp] theorem tryJoin_keepsFailure (reg : Registry) (direction : JoinDirection)
    (target name : String) (condition : Option RawCondition) (selected : Bool)
    (mapTo : Option (String × Bool)) :
    KeepsFailure e (tryJoin reg direction target name condition selected mapTo) := by
  mvcgen [tryJoin]

@[spec, simp] theorem join_keepsFailure (reg : Registry) (direction : JoinDirection)
    (target name : String) (condition : Option RawCondition) (selected : Bool)
    (mapTo : Option (String × Bool)) :
    KeepsFailure e (join reg direction target name condition selected mapTo) := by
  mvcgen [join]

@[spec, simp] theorem leftJoinSubQuery_keepsFailure (reg : Registry) (build : QueryM Unit)
    (name : String) (condition : RawCondition) :
    KeepsFailure e (leftJoinSubQuery reg build name condition) := by
  mvcgen [leftJoinSubQuery]

@[spec, simp] theorem having_keepsFailure (k : Connective) (input : WhereInput) :
    KeepsFailure e (having k input) := by
  mvcgen [having]

@[spec, simp] theorem groupBy_keepsFailure (ex : String) : KeepsFailure e (groupBy ex) := by
  mvcgen [groupBy]

@[spec, simp] theorem addGroupBy_keepsFailure (ex : String) : KeepsFailure e (addGroupBy ex) := by
  mvcgen [addGroupBy]

@[spec, simp] theorem orderBy_keepsFailure (o : Ordering) : KeepsFailure e (orderBy o) := by
  mvcgen [orderBy]

@[spec, simp] theorem addOrderBy_keepsFailure (o : Ordering) : KeepsFailure e (addOrderBy o) := by
  mvcgen [addOrderBy]

@[spec, simp] theorem relationAttribute_keepsFailure (mapTo relation : String) :
    KeepsFailure e (relationAttribute mapTo relation) := by
  mvcgen [relationAttribute]

@[spec, simp] theorem loadRelationIds_keepsFailure (mapTo relation : String) :
    KeepsFailure e (loadRelationIds mapTo relation) := by
  mvcgen [loadRelationIds]

@[spec, simp] theorem loadRelationCount_keepsFailure (mapTo relation : String) :
    KeepsFailure e (loadRelationCount mapTo relation) := by
  mvcgen [loadRelationCount]

end Select

namespace Insert

@[spec, simp] theorem bindCells_keepsFailure : KeepsFailure e bindCells := by
  mvcgen [bindCells]

@[spec, simp] theorem bindValues_keepsFailure : KeepsFailure e bindValues := by
  mvcgen [bindValues]

@[spec, simp] theorem intoTable_keepsFailure (reg : Registry) (target : String) :
    KeepsFailure e (intoTable reg target) := by
  mvcgen [intoTable]

@[spec, simp] theorem values_keepsFailure (rows : List Fields) : KeepsFailure e (values rows) := by
  mvcgen [values]

@[spec, simp] theorem orIgnore_keepsFailure : KeepsFailure e orIgnore := by
  mvcgen [orIgnore]

@[spec, simp] theorem onConflict_keepsFailure (statement : String) :
    KeepsFailure e (onConflict statement) := by
  mvcgen [onConflict]

@[spec, simp] theorem orUpdate_keepsFailure (u : Upsert) : KeepsFailure e (orUpdate u) := by
  mvcgen [orUpdate]

end Insert

namespace Update

@[spec, simp] theorem bindAssignments_keepsFailure : KeepsFailure e bindAssignments := by
  mvcgen [bindAssignments]

@[spec, simp] theorem set_keepsFailure (values : Fields) : KeepsFailure e (Update.set values) := by
  mvcgen [Update.set]

@[spec, simp] theorem targetColumns_keepsFailure (property : String) :
    KeepsFailure e (targetColumns property) := by
  mvcgen [targetColumns]

@[spec, simp] theorem setRaw_keepsFailure (property sql : String) :
    KeepsFailure e (setRaw property sql) := by
  mvcgen [setRaw]

@[spec, simp] theorem whereEntity_keepsFailure (entities : List Fields) :
    KeepsFailure e (whereEntity entities) := by
  mvcgen [whereEntity]

end Update

namespace Builder

@[spec, simp] theorem deleteFrom_keepsFailure (reg : Registry) (target : String) :
    KeepsFailure e (deleteFrom reg target) := by
  mvcgen [deleteFrom]

@[spec, simp] theorem convert_keepsFailure (k : QueryKind) : KeepsFailure e (convert k) := by
  mvcgen [convert]

@[spec, simp] theorem toUpdate_keepsFailure (values : Fields) : KeepsFailure e (toUpdate values) := by
  mvcgen [toUpdate]

@[spec, simp] theorem toRelation_keepsFailure (property : String) :
    KeepsFailure e (toRelation property) := by
  mvcgen [toRelation]

@[spec, simp] theorem subQueryWhere_keepsFailure (reg : Registry) (template : String)
    (build : QueryM Unit) (k : Connective) :
    KeepsFailure e (subQueryWhere reg template build k) := by
  mvcgen [subQueryWhere]

end Builder

@[spec, simp] theorem RelationQuery.of_keepsFailure (entities : Json) :
    KeepsFailure e (RelationQuery.of entities) := by
  mvcgen [RelationQuery.of]

end EntitySql
