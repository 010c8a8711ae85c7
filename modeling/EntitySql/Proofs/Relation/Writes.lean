import EntitySql.Execute.Relation
import EntitySql.Proofs.Insert.Cells
import EntitySql.Proofs.Relation.KeyMatch
import EntitySql.Proofs.Where.Ids
import EntitySql.Proofs.Where.Discriminator
import Mathlib

/-!
# What the writes of a relation builder do

A relation builder writes on one runner, removals first, and takes the targets by id, nulls left
out.

* Adding to a many-to-many relation inserts junction rows: owner by owner and target by target,
  the junction row of the owner's key and the target's key (`junctionRows`), `|of| · |values|` of
  them, each holding the owner's key in the owner columns and the target's key in the inverse
  columns (`findField?_junctionRow`). Removing deletes the junction rows whose owner columns hold
  the key of an owner and whose inverse columns the key of a removed target
  (`junctionDelete_holds_iff`).
* Adding to a one-to-many relation is an update of the target rows setting their relation back to
  the single owner, restricted to the ids of the added targets (`idsUpdate_spec`). Removing is an
  update setting it to null, restricted to the rows whose foreign key holds the key of an owner
  and, of those, to the removed targets (`detachUpdate_spec`).
* Setting a to-one relation its entity owns is an update of the owners' rows, by their ids,
  setting the relation to the value (`setRelation_toOneOwner`).
* No target left means no statement of that kind (`relate_manyToMany`, `relate_oneToMany`,
  `unrelate_manyToMany`, `unrelate_oneToMany`).

`relation_builder_statements` puts these together. Only collection relations can be added to or
removed from: the other side of a one-to-one relation is refused before any runner is used
(`addAndRemove_refuses_toOne`), although its foreign key sits on the target rows as for a
one-to-many relation.
-/

namespace EntitySql

theorem forall₂_of_mapM_eq_ok {ε α β : Type} {f : α → Except ε β} :
    ∀ {xs : List α} {ys : List β}, xs.mapM f = .ok ys → List.Forall₂ (fun x y => f x = .ok y) xs ys
  | [], ys, h => by
    cases h
    exact .nil
  | x :: xs, ys, h => by
    rw [List.mapM_cons] at h
    cases hx : f x with
    | error => simp [hx, bind, Except.bind] at h
    | ok y =>
      cases hxs : xs.mapM f with
      | error => simp [hx, hxs, bind, Except.bind] at h
      | ok ys' =>
        simp only [hx, hxs, bind, Except.bind, pure, Except.pure, Except.ok.injEq] at h
        subst h
        exact .cons hx (forall₂_of_mapM_eq_ok hxs)

/-! ## Resolving a relation builder -/

namespace RelationQuery

variable {s : QueryState} {op : String} {allowed : RelationKind → Bool} {r : ResolvedRelation}

theorem resolve_spec (h : resolve s op allowed = .ok r) :
    (∀ op', resolve s op' allowed = .ok r) ∧ allowed r.relation.kind = true ∧ s.owners ≠ [] ∧
      r.owners.length = s.owners.length := by
  unfold resolve at h
  cases hc : s.check with
  | error => simp [hc, bind, Except.bind] at h
  | ok u =>
  cases hm : s.mainAlias with
  | error => simp [hc, hm, bind, Except.bind] at h
  | ok a =>
  cases hmeta : a.metadata with
  | error => simp [hc, hm, hmeta, bind, Except.bind] at h
  | ok e =>
  cases hp : s.relationProperty with
  | none => simp [hc, hm, hmeta, hp, bind, Except.bind, throw, throwThe, MonadExceptOf.throw] at h
  | some p =>
  cases hr : e.findRelation? p with
  | none =>
    simp [hc, hm, hmeta, hp, hr, bind, Except.bind, pure, Except.pure, throw, throwThe,
      MonadExceptOf.throw] at h
  | some rel =>
  cases hk : allowed rel.kind <;> cases ho : s.owners.isEmpty <;>
    simp [hc, hm, hmeta, hp, hr, hk, ho, bind, Except.bind, pure, Except.pure, throw, throwThe,
      MonadExceptOf.throw] at h
  split at h
  · cases h
  · rename_i owners hmap
    cases h
    refine ⟨fun op' => ?_, hk, by simpa using ho, (forall₂_of_mapM_eq_ok hmap).length_eq.symm⟩
    simp [resolve, hc, hm, hmeta, hp, hr, hk, ho, hmap, bind, Except.bind, pure, Except.pure, throw,
      throwThe, MonadExceptOf.throw]

theorem resolve_refused {a : Alias} {e : Entity} {p : String} {rel : Relation}
    (hc : s.check = .ok ()) (hm : s.mainAlias = .ok a) (he : a.metadata = .ok e)
    (hp : s.relationProperty = some p) (hr : e.findRelation? p = some rel)
    (hk : allowed rel.kind = false) :
    resolve s op allowed = .error (.relationCardinality op rel.kind.name e.name p) := by
  simp [resolve, hc, hm, he, hp, hr, hk, bind, Except.bind, pure, Except.pure, throw, throwThe,
    MonadExceptOf.throw]

end RelationQuery

/-! ## Building an update step by step -/

section UpdateSteps

open QueryM

theorem QueryState.apply_bind_of_ok {x y : QueryM Unit}
    (hx : ∀ t : QueryState, (x.run.run t).1 = .ok ()) (s : QueryState) :
    s.apply (x >>= fun _ => y) = (s.apply x).apply y := by
  have h : x.run.run s = (.ok (), s.apply x) := by
    rw [← hx s]
    rfl
  rw [QueryState.apply, run_bind, h]
  rfl

@[simp] theorem QueryState.fail_wheres (s : QueryState) (e : OrmError) :
    (s.fail e).wheres = s.wheres := by
  unfold QueryState.fail
  split <;> rfl

theorem Builder.update_dialect (reg : Registry) (d : Dialect) (target : String) :
    (Builder.update reg d target).dialect = d := by
  simp only [Builder.update, QueryState.apply, QueryM.run_bind, QueryM.run_record, registerMain,
    run_registerSource, QueryM.run_setMainAlias, QueryM.run_pure]
  cases (QueryState.new d .update).aliases.create (reg.sourceSpec target none) with
  | error e => simp [QueryState.new]
  | ok r =>
    cases hm : r.1.setMain r.2.name <;> simp [QueryState.new, hm]

namespace Update

variable (values : Fields) (t : QueryState)

theorem set_run_ok : ((Update.set values).run.run t).1 = .ok () := by
  simp only [Update.set, run_bind, run_modify, run_record]
  rcases (bindAssignments.run.run _) with ⟨_ | _, _⟩ <;> rfl

theorem apply_set_frame {a : Alias} (hmain : t.mainAlias = .ok a) :
    (t.apply (Update.set values)).mainAlias = .ok a ∧ (t.apply (Update.set values)).wheres = t.wheres ∧
      (t.apply (Update.set values)).dialect = t.dialect ∧
      (t.apply (Update.set values)).valuesSet = [values] := by
  rw [apply_set t hmain values]
  split <;> simp_all [QueryState.dropBound, QueryState.mainAlias]

end Update

theorem applyWhereCall_ids_run (t : QueryState) (k : Connective) (ids : List Json) {cond : Condition}
    {t' : QueryState}
    (h : (whereIdsCondition ids).run.run (if k = .first then { t with wheres := [] } else t) =
      (.ok cond, t')) :
    (applyWhereCall (.inr (k, ids))).run.run t = (.ok (), { t' with wheres := t'.wheres ++ [(k, cond)] }) := by
  cases k <;> simp only [↓reduceIte, reduceCtorEq] at h <;>
    simp only [↓reduceIte, reduceCtorEq, applyWhereCall, applyWhereCalls, pushWhere, run_bind,
      run_modify, run_record, run_pure] <;> rw [h] <;> rfl

theorem applyWhereCall_raw_run (t : QueryState) (rc : RawCondition) (hv : rc.verbatim = true) :
    (applyWhereCall (.inl (.first, .raw rc))).run.run t =
      (.ok (), { t with wheres := [(.first, .verbatim rc.sql)],
                        parameters := mergeParams t.parameters rc.params }) := by
  simp only [applyWhereCall, applyWhereCalls, pushWhere, lowerCondition, ↓reduceIte, run_bind,
    run_modify, run_record, run_mergeParameters, run_pure, hv]
  rfl

end UpdateSteps

namespace DataSource

open ExecM

/-! ## The statements of a many-to-many relation -/

def junctionRows (j : Junction) (owners targets : List (List Value)) : List Fields :=
  owners.flatMap fun owner => targets.map (junctionRow j owner)

/-- The insert of junction rows. -/
def junctionInsert (ds : DataSource) (j : Junction) (rows : List Fields) : QueryState :=
  (Builder.insert ds.dialect).apply do
    Insert.intoTable ds.registry j.tableName
    Insert.values rows

def ownerMatch (ds : DataSource) (j : Junction) (owners : List (List Value)) : RawCondition :=
  keyMatchCondition ds.dialect none (j.ownerColumns.map (·.databaseName)) owners "orm_rel_of"

def targetMatch (ds : DataSource) (j : Junction) (targets : List (List Value)) : RawCondition :=
  keyMatchCondition ds.dialect none (j.inverseColumns.map (·.databaseName)) targets "orm_rel_value"

/-- The delete of the junction rows pairing some owners with some targets. -/
def junctionDelete (ds : DataSource) (j : Junction) (owners targets : List (List Value)) :
    QueryState :=
  (Builder.delete ds.registry ds.dialect j.tableName).apply do
    applyWhereCall (.inl (.first, .raw (ds.ownerMatch j owners)))
    applyWhereCall (.inl (.and, .raw (ds.targetMatch j targets)))

/-! ## The statements of a one-to-many relation and of a to-one owner -/

/-- The update of the rows of an entity with the given ids. -/
def idsUpdate (ds : DataSource) (target : String) (values : Fields) (ids : List Fields) :
    QueryState :=
  (Builder.update ds.registry ds.dialect target).apply do
    Update.set values
    applyWhereCall (.inr (.first, ids.map .obj))

/-- The update nulling the relation of the target rows whose foreign key holds an owner's key,
of the given ids. -/
def detachUpdate (ds : DataSource) (target : Entity) (inverse : Relation)
    (owners : List (List Value)) (ids : List Fields) : QueryState :=
  (Builder.update ds.registry ds.dialect target.name).apply do
    Update.set [(inverse.propertyPath, .null)]
    applyWhereCall (.inl (.first, .raw (keyMatchCondition ds.dialect none
      (inverse.joinColumns.map (·.databaseName)) owners "orm_rel_of")))
    applyWhereCall (.inr (.and, ids.map .obj))

/-! ## Junction rows -/

theorem length_junctionRows (j : Junction) (owners targets : List (List Value)) :
    (junctionRows j owners targets).length = owners.length * targets.length := by
  induction owners with
  | nil => simp [junctionRows]
  | cons owner owners ih =>
    simp only [junctionRows, List.flatMap_cons, List.length_append, List.length_map] at ih ⊢
    rw [ih, List.length_cons, Nat.succ_mul, Nat.add_comm]

theorem mem_junctionRows {j : Junction} {owners targets : List (List Value)} {row : Fields} :
    row ∈ junctionRows j owners targets ↔
      ∃ owner ∈ owners, ∃ target ∈ targets, junctionRow j owner target = row := by
  simp [junctionRows]

theorem keyRows_length {d : Dialect} {e : Entity} {ids : List Fields} {columns : List JoinColumn}
    {rows : List (List Value)} (h : keyRows d e ids columns = .ok rows) : rows.length = ids.length :=
  (forall₂_of_mapM_eq_ok h).length_eq.symm

theorem targetIds_length {e : Entity} {values : List Json} {ids : List Fields}
    (h : targetIds e values = .ok ids) : ids.length = (values.filter (!·.isNull)).length :=
  (forall₂_of_mapM_eq_ok h).length_eq.symm

theorem junctionInsert_valuesSet (ds : DataSource) (j : Junction) (rows : List Fields) :
    (ds.junctionInsert j rows).valuesSet = rows := by
  unfold junctionInsert
  rw [QueryState.apply, QueryM.run_bind, Insert.run_intoTable]
  obtain ⟨ps, e?, h⟩ := Insert.apply_values_frame rows
    ((Builder.insert ds.dialect).apply (Insert.intoTable ds.registry j.tableName))
  exact congrArg QueryState.valuesSet h

theorem findField?_foldl_insertField_of_not_mem (k : String) :
    ∀ (pairs : List (JoinColumn × Value)) (acc : Fields), k ∉ pairs.map (·.1.databaseName) →
      Json.findField? k (pairs.foldl (fun acc p => Json.insertField p.1.databaseName p.2.toJson acc) acc) =
        Json.findField? k acc
  | [], _, _ => rfl
  | p :: pairs, acc, hk => by
    rw [List.map_cons, List.mem_cons, not_or] at hk
    rw [List.foldl_cons, findField?_foldl_insertField_of_not_mem k pairs _ hk.2,
      Json.findField?_insertField, if_neg hk.1]

theorem findField?_foldl_insertField :
    ∀ (pairs : List (JoinColumn × Value)) (acc : Fields), (pairs.map (·.1.databaseName)).Nodup →
      ∀ p ∈ pairs, Json.findField? p.1.databaseName
        (pairs.foldl (fun acc p => Json.insertField p.1.databaseName p.2.toJson acc) acc) =
          some p.2.toJson
  | [], _, _, _, hp => absurd hp List.not_mem_nil
  | q :: pairs, acc, hnodup, p, hp => by
    rw [List.map_cons, List.nodup_cons] at hnodup
    rw [List.foldl_cons]
    rcases List.mem_cons.mp hp with rfl | hp
    · -- the column's own value, which no later column overwrites
      rw [findField?_foldl_insertField_of_not_mem _ pairs _ hnodup.1, Json.findField?_insertField,
        if_pos rfl]
    · exact findField?_foldl_insertField pairs _ hnodup.2 p hp

/-- A junction row holds the owner's key in the owner columns and the target's key in the inverse
columns, when the junction's columns have distinct names and the keys one value per column. -/
theorem findField?_junctionRow {j : Junction} {owner target : List Value}
    (hnames : ((j.ownerColumns ++ j.inverseColumns).map (·.databaseName)).Nodup)
    (howner : owner.length = j.ownerColumns.length)
    (htarget : target.length = j.inverseColumns.length) :
    ∀ p ∈ (j.ownerColumns ++ j.inverseColumns).zip (owner ++ target),
      Json.findField? p.1.databaseName (junctionRow j owner target) = some p.2.toJson := by
  have hzip : (j.ownerColumns ++ j.inverseColumns).zip (owner ++ target) =
      j.ownerColumns.zip owner ++ j.inverseColumns.zip target :=
    List.zip_append (howner.trans rfl).symm
  have hkeys : ((j.ownerColumns ++ j.inverseColumns).zip (owner ++ target)).map (·.1) =
      j.ownerColumns ++ j.inverseColumns :=
    List.map_fst_zip (by simp [howner, htarget])
  rw [hzip]
  refine findField?_foldl_insertField _ [] ?_
  have hnames' : ((j.ownerColumns ++ j.inverseColumns).zip (owner ++ target)).map
      (fun p => p.1.databaseName) = (j.ownerColumns ++ j.inverseColumns).map (·.databaseName) := by
    conv_rhs => rw [← hkeys, List.map_map]
    rfl
  rw [← hzip, hnames']
  exact hnames

/-! ## The parameters of a junction delete -/

section Parameters

variable {ps more : List (String × Value)} {k : String} {v : Value}

theorem mem_mergeParams_of_key (hmem : (k, v) ∈ more) (huniq : ∀ u, (k, u) ∈ more → u = v)
    (w : Value) : (k, w) ∈ mergeParams ps more ↔ w = v := by
  induction more generalizing ps with
  | nil => simp at hmem
  | cons m more ih =>
    rw [mergeParams, List.foldl_cons, ← mergeParams]
    by_cases hrest : (k, v) ∈ more
    · exact ih hrest (fun u hu => huniq u (List.mem_cons_of_mem _ hu))
    · -- the last binding of `k` is the first one merged
      have hm : m = (k, v) := by
        rcases List.mem_cons.mp hmem with h | h
        · exact h.symm
        · exact absurd h hrest
      have hnot : ∀ u, (k, u) ∉ more := fun u hu => hrest (huniq u (.tail _ hu) ▸ hu)
      subst hm
      rw [mem_mergeParams_of_not_key hnot, mem_setParam]
      simp

theorem keyParam_rel_of_ne_value (i j i' j' : Nat) :
    keyParam "orm_rel_of" i j ≠ keyParam "orm_rel_value" i' j' := by
  intro h
  have h8 := congrArg (fun t : String => t.toList[8]?) h
  simp [keyParam] at h8

end Parameters

variable (ds : DataSource) (id : RunnerId) {r : ResolvedRelation} {target : Entity} {j : Junction}
  {values : List Json} {targets : List Fields} {owners keys : List (List Value)} {owning : Entity}
  {inverse : Relation}

theorem keyMatchCondition_verbatim (d : Dialect) (aliasName : Option String) (columns : List String)
    (rows : List (List Value)) (pre : String) :
    (keyMatchCondition d aliasName columns rows pre).verbatim = true := by
  rw [keyMatchCondition_eq]

theorem junctionDelete_where :
    (ds.junctionDelete j owners keys).wheres =
        [(.first, .verbatim (ds.ownerMatch j owners).sql), (.and, .verbatim (ds.targetMatch j keys).sql)] ∧
      (ds.junctionDelete j owners keys).parameters =
        mergeParams (mergeParams (Builder.delete ds.registry ds.dialect j.tableName).parameters
          (ds.ownerMatch j owners).params) (ds.targetMatch j keys).params := by
  simp only [junctionDelete, ownerMatch, targetMatch, keyMatchCondition_eq]
  exact ⟨rfl, rfl⟩

theorem lookup_junctionDelete {pre : String} {columns : List String} {rows : List (List Value)}
    (hcond : (pre = "orm_rel_of" ∧ columns = j.ownerColumns.map (·.databaseName) ∧ rows = owners) ∨
      (pre = "orm_rel_value" ∧ columns = j.inverseColumns.map (·.databaseName) ∧ rows = keys))
    {i jx : Nat} {row : List Value} {c : String} {v : Value}
    (hi : rows[i]? = some row) (hj : (columns.zip row)[jx]? = some (c, v)) :
    (ds.junctionDelete j owners keys).parameters.lookup (keyParam pre i jx) = some v := by
  rw [(junctionDelete_where ds).2]
  simp only [ownerMatch, targetMatch, keyMatchCondition_eq]
  have hown : ∀ w, (keyParam pre i jx, w) ∈ keyBindings columns rows pre ↔ w = v :=
    mem_keyBindings_param hi hj
  rcases hcond with ⟨rfl, rfl, rfl⟩ | ⟨rfl, rfl, rfl⟩
  · -- a name of the owner condition is none of the target condition's, which are merged last
    have hnot : ∀ u, (keyParam "orm_rel_of" i jx, u) ∉
        keyBindings (j.inverseColumns.map (·.databaseName)) keys "orm_rel_value" := by
      intro u hu
      obtain ⟨_, _, _, _, _, _, hname⟩ := mem_keyBindings.mp hu
      exact keyParam_rel_of_ne_value _ _ _ _ hname
    refine lookup_of_mem_of_unique ?_ fun w hw => ?_
    · rw [mem_mergeParams_of_not_key hnot]
      exact (mem_mergeParams_of_key ((hown v).mpr rfl) (fun u hu => (hown u).mp hu) v).mpr rfl
    · rw [mem_mergeParams_of_not_key hnot] at hw
      exact (mem_mergeParams_of_key ((hown v).mpr rfl) (fun u hu => (hown u).mp hu) w).mp hw
  · refine lookup_of_mem_of_unique ?_ fun w hw => ?_
    · exact (mem_mergeParams_of_key ((hown v).mpr rfl) (fun u hu => (hown u).mp hu) v).mpr rfl
    · exact (mem_mergeParams_of_key ((hown v).mpr rfl) (fun u hu => (hown u).mp hu) w).mp hw

/-- Under its parameters, the delete of junction rows holds for exactly the junction rows that
pair an owner with a target: the owner columns hold the key of an owner, and the inverse columns
the key of a target. -/
theorem junctionDelete_holds_iff (cell : String → Option Value) :
    ((keyAlternatives (keyColumnRef ds.dialect none) (j.ownerColumns.map (·.databaseName)) owners
          "orm_rel_of").Holds cell (ds.junctionDelete j owners keys).parameters ∧
        (keyAlternatives (keyColumnRef ds.dialect none) (j.inverseColumns.map (·.databaseName)) keys
          "orm_rel_value").Holds cell (ds.junctionDelete j owners keys).parameters) ↔
      (∃ owner ∈ owners, ∀ cv ∈ (j.ownerColumns.map (·.databaseName)).zip owner,
          cell (ds.dialect.escape cv.1) = some cv.2) ∧
        (∃ key ∈ keys, ∀ cv ∈ (j.inverseColumns.map (·.databaseName)).zip key,
          cell (ds.dialect.escape cv.1) = some cv.2) := by
  have hsame : ∀ {pre : String} {columns : List String} {rows : List (List Value)},
      (pre = "orm_rel_of" ∧ columns = j.ownerColumns.map (·.databaseName) ∧ rows = owners) ∨
        (pre = "orm_rel_value" ∧ columns = j.inverseColumns.map (·.databaseName) ∧ rows = keys) →
      ∀ alt ∈ keyAlternatives (keyColumnRef ds.dialect none) columns rows pre, ∀ cp ∈ alt,
        (ds.junctionDelete j owners keys).parameters.lookup cp.2 =
          (keyBindings columns rows pre).lookup cp.2 := by
    intro pre columns rows hcond alt halt cp hcp
    obtain ⟨i, row, jx, c, v, hi, hj, hname⟩ := param_of_mem_keyAlternatives halt hcp
    rw [hname, lookup_junctionDelete ds hcond hi hj, lookup_keyBindings hi hj]
  rw [EqAlternatives.holds_congr (hsame (.inl ⟨rfl, rfl, rfl⟩)), holds_keyAlternatives_iff,
    EqAlternatives.holds_congr (hsame (.inr ⟨rfl, rfl, rfl⟩)), holds_keyAlternatives_iff]
  rfl

theorem junctionDelete_matches :
    ∃ byOwner byTarget : EqAlternatives,
      (ds.junctionDelete j owners keys).wheres =
          [(.first, .verbatim byOwner.render), (.and, .verbatim byTarget.render)] ∧
        ∀ cell : String → Option Value,
          (byOwner.Holds cell (ds.junctionDelete j owners keys).parameters ∧
              byTarget.Holds cell (ds.junctionDelete j owners keys).parameters) ↔
            (∃ owner ∈ owners, ∀ cv ∈ (j.ownerColumns.map (·.databaseName)).zip owner,
                cell (ds.dialect.escape cv.1) = some cv.2) ∧
              (∃ key ∈ keys, ∀ cv ∈ (j.inverseColumns.map (·.databaseName)).zip key,
                cell (ds.dialect.escape cv.1) = some cv.2) := by
  refine ⟨_, _, ?_, junctionDelete_holds_iff ds⟩
  rw [(junctionDelete_where ds).1, ownerMatch, targetMatch, keyMatchCondition_eq,
    keyMatchCondition_eq]

/-- Adding to a many-to-many relation inserts the junction rows of every owner with every target,
and writes nothing when no target is left. -/
theorem relate_manyToMany (hkind : r.relation.kind = .manyToMany)
    (htarget : ds.registry.get r.relation.target = .ok target)
    (hids : targetIds target values = .ok targets) (hj : ds.registry.junction r.relation = .ok j)
    (howners : keyRows ds.dialect r.entity r.owners j.ownerColumns = .ok owners)
    (hkeys : keyRows ds.dialect target targets j.inverseColumns = .ok keys) :
    ds.relate id r values = if targets.isEmpty then pure () else
      (do let _ ← ds.executeInsert (some id) (ds.junctionInsert j (junctionRows j owners keys))) := by
  have howner : r.relation.isToOneOwner = false := by simp [Relation.isToOneOwner, hkind]
  unfold relate
  simp only [howner, htarget, hids, hj, howners, hkeys, hkind, Bool.false_eq_true, if_false,
    ofResult, pure_bind, if_true]
  split <;> rfl

/-- Removing from a many-to-many relation with owners deletes the junction rows pairing an owner
with a target, and writes nothing when no target is left. -/
theorem unrelate_manyToMany (hne : r.owners ≠ []) (hkind : r.relation.kind = .manyToMany)
    (htarget : ds.registry.get r.relation.target = .ok target)
    (hids : targetIds target values = .ok targets) (hj : ds.registry.junction r.relation = .ok j)
    (howners : keyRows ds.dialect r.entity r.owners j.ownerColumns = .ok owners)
    (hkeys : keyRows ds.dialect target targets j.inverseColumns = .ok keys) :
    ds.unrelate id r values = if targets.isEmpty then pure () else
      (do let _ ← ds.executeWrite (some id) (ds.junctionDelete j owners keys)) := by
  have hsome : r.owners.isEmpty = false := List.isEmpty_eq_false_iff.mpr hne
  unfold unrelate
  simp only [htarget, hids, hj, howners, hkeys, hkind, hsome, Bool.or_false, if_true, ofResult,
    pure_bind]
  split <;> rfl

theorem targetIds_nil {e : Entity} (hids : targetIds e [] = .ok targets) : targets = [] := by
  injection hids with h
  exact h.symm

theorem ite_targets {x y : ExecM Unit} (hids : targetIds target values = .ok targets)
    (hx : x = if targets.isEmpty then pure () else y) :
    (if !values.isEmpty then x else pure ()) = if !targets.isEmpty then y else pure () := by
  cases values with
  | nil => simp [targetIds_nil hids]
  | cons v values =>
    rw [hx]
    cases targets.isEmpty <;> rfl

theorem ite_targets_bind {x y : ExecM Unit} {k : Unit → ExecM Unit}
    (hids : targetIds target values = .ok targets) (hx : x = if targets.isEmpty then pure () else y) :
    (if !values.isEmpty then x >>= k else k ()) = if !targets.isEmpty then y >>= k else k () := by
  cases values with
  | nil => simp [targetIds_nil hids]
  | cons v values =>
    rw [hx]
    cases targets.isEmpty
    · rfl
    · exact pure_bind () k

/-! ## Updates by ids and detaching updates -/

theorem idsUpdate_spec {target : String} {values : Fields} {ids : List Fields} {a : Alias}
    {e : Entity} (hmain : (Builder.update ds.registry ds.dialect target).mainAlias = .ok a)
    (he : a.entity = some e) (hpaths : (e.primaryColumns.map (·.propertyPath)).Nodup)
    (hids : ∀ m ∈ ids, ¬e.IdIncomplete (.obj m)) :
    let t := ds.idsUpdate target values ids
    t.valuesSet = [values] ∧
      t.assignments = ((Builder.update ds.registry ds.dialect target).apply (Update.set values)).assignments ∧
      ∃ cond, t.wheres = [(.first, cond)] ∧
        ∀ ctx env, env.Binds t →
          (∀ c, e.primaryColumns = [c] → ∀ m ∈ ids, ∀ x, c.idKey ds.dialect (.obj m) ≠ .float x) →
          cond.holdsWithLiterals ctx env = e.keysMatch ctx env a.name ds.dialect (ids.map .obj) := by
  intro t
  set t₁ := (Builder.update ds.registry ds.dialect target).apply (Update.set values) with ht₁
  obtain ⟨hmain₁, hwheres₁, hdialect₁, hvalues₁⟩ := Update.apply_set_frame values _ hmain
  have hall : ∀ id ∈ ids.map Json.obj, ¬e.IdIncomplete id := by
    simp only [List.mem_map]
    rintro _ ⟨m, hm, rfl⟩
    exact hids m hm
  obtain ⟨cond, s', hrun, hkeep, -, hholds⟩ :=
    run_whereIdsCondition_keysMatch { t₁ with wheres := [] } hmain₁ he hpaths hall
  have ht : t = { s' with wheres := s'.wheres ++ [(.first, cond)] } := by
    show (Builder.update ds.registry ds.dialect target).apply (Update.set values >>= fun _ =>
      applyWhereCall (.inr (.first, ids.map .obj))) = _
    rw [QueryState.apply_bind_of_ok (Update.set_run_ok values), ← ht₁, QueryState.apply,
      applyWhereCall_ids_run t₁ .first _ (by simpa using hrun)]
  have hwrite : s'.writePart updatePrefix = t₁.writePart updatePrefix := by
    have h := (whereIdsCondition_keepsWritePart (w := t₁.writePart updatePrefix) (ids.map .obj)).run
      (s := { t₁ with wheres := [] }) rfl
    rwa [hrun] at h
  simp only [QueryState.writePart, Prod.mk.injEq] at hwrite
  have hd : ({ t₁ with wheres := [] } : QueryState).dialect = ds.dialect := by
    rw [← Builder.update_dialect ds.registry ds.dialect target]
    exact hdialect₁
  rw [ht]
  refine ⟨hwrite.2.2.2.1.trans hvalues₁, hwrite.2.2.2.2.1, cond, ?_, fun ctx env henv hint => ?_⟩
  · rw [hkeep.wheres_eq]
    rfl
  · rw [← hd]
    exact hholds ctx env henv (by rw [hd]; simpa using hint)

theorem keyParam_rel_of_ne_paramName (i j n : Nat) : keyParam "orm_rel_of" i j ≠ paramName n := by
  intro h
  have h4 := congrArg (fun t : String => t.toList[4]?) h
  simp [keyParam, paramName] at h4

theorem lookup_mergeParams_keyBindings (ps : List (String × Value)) {columns : List String}
    {rows : List (List Value)} {pre : String} {i j : Nat} {row : List Value} {c : String}
    {v : Value} (hi : rows[i]? = some row) (hj : (columns.zip row)[j]? = some (c, v)) :
    (mergeParams ps (keyBindings columns rows pre)).lookup (keyParam pre i j) = some v := by
  rw [lookup_mergeParams, lookup_of_mem_of_unique (List.mem_reverse.2 ((mem_keyBindings_param hi hj v).2 rfl))
    fun w hw => (mem_keyBindings_param hi hj w).1 (List.mem_reverse.1 hw)]
  rfl

theorem detachUpdate_spec {target : Entity} {inverse : Relation} {owners : List (List Value)}
    {ids : List Fields} {a : Alias}
    (hmain : (Builder.update ds.registry ds.dialect target.name).mainAlias = .ok a)
    (he : a.entity = some target) (hpaths : (target.primaryColumns.map (·.propertyPath)).Nodup)
    (hids : ∀ m ∈ ids, ¬target.IdIncomplete (.obj m)) :
    let t := ds.detachUpdate target inverse owners ids
    t.valuesSet = [[(inverse.propertyPath, .null)]] ∧
      t.assignments = ((Builder.update ds.registry ds.dialect target.name).apply
        (Update.set [(inverse.propertyPath, .null)])).assignments ∧
      ∃ (byOwner : EqAlternatives) (cond : Condition), t.wheres = [(.first, .verbatim byOwner.render), (.and, cond)] ∧
        (∀ cell, byOwner.Holds cell t.parameters ↔ ∃ owner ∈ owners,
          ∀ cv ∈ (inverse.joinColumns.map (·.databaseName)).zip owner,
            cell (ds.dialect.escape cv.1) = some cv.2) ∧
        ∀ ctx env, env.Binds t →
          (∀ c, target.primaryColumns = [c] → ∀ m ∈ ids, ∀ x, c.idKey ds.dialect (.obj m) ≠ .float x) →
          cond.holdsWithLiterals ctx env = target.keysMatch ctx env a.name ds.dialect (ids.map .obj) := by
  intro t
  set t₁ := (Builder.update ds.registry ds.dialect target.name).apply
    (Update.set [(inverse.propertyPath, .null)]) with ht₁
  obtain ⟨hmain₁, -, hdialect₁, hvalues₁⟩ :=
    Update.apply_set_frame [(inverse.propertyPath, .null)] _ hmain
  set columns := inverse.joinColumns.map (·.databaseName)
  set byOwner := keyAlternatives (keyColumnRef ds.dialect none) columns owners "orm_rel_of"
  set t₂ : QueryState :=
    { t₁ with wheres := [(.first, .verbatim byOwner.render)],
              parameters := mergeParams t₁.parameters (keyBindings columns owners "orm_rel_of") }
    with ht₂
  have hall : ∀ id ∈ ids.map Json.obj, ¬target.IdIncomplete id := by
    simp only [List.mem_map]
    rintro _ ⟨m, hm, rfl⟩
    exact hids m hm
  obtain ⟨cond, s', hrun, hkeep, -, hholds⟩ :=
    run_whereIdsCondition_keysMatch t₂ hmain₁ he hpaths hall
  have ht : t = { s' with wheres := s'.wheres ++ [(.and, cond)] } := by
    show (Builder.update ds.registry ds.dialect target.name).apply
      (Update.set [(inverse.propertyPath, .null)] >>= fun _ =>
        applyWhereCall (.inl (.first, .raw (keyMatchCondition ds.dialect none columns owners
          "orm_rel_of"))) >>= fun _ => applyWhereCall (.inr (.and, ids.map .obj))) = _
    have h₂ : t₁.apply (applyWhereCall (.inl (.first, .raw (keyMatchCondition ds.dialect none columns
        owners "orm_rel_of")))) = t₂ := by
      rw [QueryState.apply, applyWhereCall_raw_run t₁ _ (by rw [keyMatchCondition_eq]),
        keyMatchCondition_eq]
    rw [QueryState.apply_bind_of_ok (Update.set_run_ok _), ← ht₁,
      QueryState.apply_bind_of_ok (fun t => by rw [applyWhereCall_raw_run t _ (by rw [keyMatchCondition_eq])]),
      h₂, QueryState.apply, applyWhereCall_ids_run t₂ .and _ (by simpa using hrun)]
  have hwrite : s'.writePart updatePrefix = t₂.writePart updatePrefix := by
    have h := (whereIdsCondition_keepsWritePart (w := t₂.writePart updatePrefix) (ids.map .obj)).run
      (s := t₂) rfl
    rwa [hrun] at h
  simp only [QueryState.writePart, Prod.mk.injEq] at hwrite
  have hd : t₂.dialect = ds.dialect := by
    rw [← Builder.update_dialect ds.registry ds.dialect target.name]
    exact hdialect₁
  rw [ht]
  refine ⟨hwrite.2.2.2.1.trans hvalues₁, hwrite.2.2.2.2.1, byOwner, cond, ?_, fun cell => ?_,
    fun ctx env henv hint => ?_⟩
  · rw [hkeep.wheres_eq]
    rfl
  · have hsame : ∀ alt ∈ byOwner, ∀ cp ∈ alt,
        s'.parameters.lookup cp.2 = (keyBindings columns owners "orm_rel_of").lookup cp.2 := by
      intro alt halt cp hcp
      obtain ⟨i, row, j, c, v, hi, hj, hname⟩ := param_of_mem_keyAlternatives halt hcp
      rw [hname, hkeep.lookup_other _ fun n h => keyParam_rel_of_ne_paramName i j n h.symm,
        lookup_keyBindings hi hj]
      exact lookup_mergeParams_keyBindings _ hi hj
    exact (EqAlternatives.holds_congr hsame).trans (holds_keyAlternatives_iff _ cell)
  · rw [← hd]
    exact hholds ctx env henv (by rw [hd]; simpa using hint)

theorem relate_oneToMany {owner : Fields} (hkind : r.relation.kind = .oneToMany)
    (htarget : ds.registry.get r.relation.target = .ok target)
    (hids : targetIds target values = .ok targets)
    (hinv : ds.registry.inverseRelation r.relation = .ok (owning, inverse))
    (hsingle : targets ≠ [] → r.owners = [owner]) :
    ds.relate id r values = if targets.isEmpty then pure () else
      (do
        let _ ← ds.executeWrite (some id)
          (ds.idsUpdate target.name [(inverse.propertyPath, .obj owner)] targets)) := by
  have howner : r.relation.isToOneOwner = false := by simp [Relation.isToOneOwner, hkind]
  unfold relate
  simp only [howner, htarget, hids, hkind, hinv, Bool.false_eq_true, if_false, ofResult, pure_bind,
    reduceCtorEq]
  cases htargets : targets.isEmpty
  · have hone : singleOwner r "update" = .ok owner := by
      rw [singleOwner, hsingle (by simpa using htargets)]
    simp only [Bool.false_eq_true, if_false, hone, pure_bind]
    rfl
  · rfl

theorem unrelate_oneToMany (hne : r.owners ≠ []) (hkind : r.relation.kind = .oneToMany)
    (htarget : ds.registry.get r.relation.target = .ok target)
    (hids : targetIds target values = .ok targets)
    (hinv : ds.registry.inverseRelation r.relation = .ok (owning, inverse))
    (howners : keyRows ds.dialect r.entity r.owners inverse.joinColumns = .ok owners) :
    ds.unrelate id r values = if targets.isEmpty then pure () else
      (do let _ ← ds.executeWrite (some id) (ds.detachUpdate target inverse owners targets)) := by
  have hsome : r.owners.isEmpty = false := List.isEmpty_eq_false_iff.mpr hne
  have hinverse : r.relation.isToOneOrManyInverse = true := by
    simp [Relation.isToOneOrManyInverse, hkind]
  unfold unrelate detach
  simp only [htarget, hids, hkind, hsome, hinverse, hinv, howners, Bool.or_false, ofResult,
    pure_bind, reduceCtorEq, if_false, Bool.not_true, Bool.false_eq_true]
  split <;> rfl

theorem setRelation_eq {s : QueryState} {given : Option RunnerId} (value : Json)
    (hres : RelationQuery.resolve s "set" (fun k => k = .manyToOne ∨ k = .oneToOne) = .ok r)
    (hown : r.relation.isToOneOwner = true) :
    ds.setRelation given s value = ds.inRunner given .master s.useTransaction (fun id => do
      let _ ← ds.executeWrite (some id)
        (ds.idsUpdate r.entity.name [(r.relation.propertyPath, value)] r.owners)) := by
  unfold setRelation
  simp only [hres, ofResult, pure_bind, hown, if_true]
  congr 1
  funext id
  unfold relate
  cases value <;> simp [Json.isNull, hown] <;> rfl

/-! ## Adding to and removing from a relation -/

section AddAndRemove

variable {s : QueryState} {given : Option RunnerId} {added removed : List Json}
  {addIds removeIds : List Fields} {addKeys removeKeys : List (List Value)} {owner : Fields}
  {a : Alias}

theorem addAndRemove_eq {op : String}
    (hres : RelationQuery.resolve s op RelationKind.isCollection = .ok r) :
    ds.addAndRemove given s added removed =
      ds.inRunner given .master s.useTransaction (fun id => do
        if !removed.isEmpty then ds.unrelate id r removed
        if !added.isEmpty then ds.relate id r added) := by
  unfold addAndRemove
  simp only [(RelationQuery.resolve_spec hres).1, ofResult, pure_bind]

/-- Adding to and removing from a many-to-many relation run on one runner: first the delete of
the junction rows pairing an owner with a removed target, then the insert of the junction rows of
every owner with every added target, each left out when no target of its kind is given. The
insert has `|of| · |values|` rows, one for each owner key and added target key, and the delete
holds, under its parameters, for exactly the junction rows whose owner columns hold an owner's key
and whose inverse columns hold a removed target's key. -/
theorem addAndRemove_manyToMany
    (hres : RelationQuery.resolve s "add_and_remove" RelationKind.isCollection = .ok r)
    (hkind : r.relation.kind = .manyToMany)
    (htarget : ds.registry.get r.relation.target = .ok target)
    (hj : ds.registry.junction r.relation = .ok j)
    (howners : keyRows ds.dialect r.entity r.owners j.ownerColumns = .ok owners)
    (hadd : targetIds target added = .ok addIds)
    (haddKeys : keyRows ds.dialect target addIds j.inverseColumns = .ok addKeys)
    (hremove : targetIds target removed = .ok removeIds)
    (hremoveKeys : keyRows ds.dialect target removeIds j.inverseColumns = .ok removeKeys) :
    ds.addAndRemove given s added removed =
        ds.inRunner given .master s.useTransaction (fun id => do
          if !removeIds.isEmpty then
            let _ ← ds.executeWrite (some id) (ds.junctionDelete j owners removeKeys)
          if !addIds.isEmpty then
            let _ ← ds.executeInsert (some id)
              (ds.junctionInsert j (junctionRows j owners addKeys))) ∧
      (ds.junctionInsert j (junctionRows j owners addKeys)).valuesSet.length =
        s.owners.length * (added.filter (!·.isNull)).length ∧
      (∀ row, row ∈ (ds.junctionInsert j (junctionRows j owners addKeys)).valuesSet ↔
        ∃ owner ∈ owners, ∃ key ∈ addKeys, junctionRow j owner key = row) ∧
      ∃ byOwner byTarget : EqAlternatives,
        (ds.junctionDelete j owners removeKeys).wheres =
            [(.first, .verbatim byOwner.render), (.and, .verbatim byTarget.render)] ∧
          ∀ cell : String → Option Value,
            (byOwner.Holds cell (ds.junctionDelete j owners removeKeys).parameters ∧
                byTarget.Holds cell (ds.junctionDelete j owners removeKeys).parameters) ↔
              (∃ owner ∈ owners, ∀ cv ∈ (j.ownerColumns.map (·.databaseName)).zip owner,
                  cell (ds.dialect.escape cv.1) = some cv.2) ∧
                (∃ key ∈ removeKeys, ∀ cv ∈ (j.inverseColumns.map (·.databaseName)).zip key,
                  cell (ds.dialect.escape cv.1) = some cv.2) := by
  obtain ⟨-, -, hne, hlen⟩ := RelationQuery.resolve_spec hres
  have hsome : r.owners ≠ [] := fun h => hne (List.length_eq_zero_iff.mp (hlen ▸ h ▸ rfl))
  refine ⟨?_, ?_, fun row => ?_, junctionDelete_matches ds⟩
  · -- the removal, then the addition, each the write of the targets left
    rw [addAndRemove_eq ds hres]
    refine congrArg (ds.inRunner given .master s.useTransaction) (funext fun id => ?_)
    dsimp only
    rw [ite_targets_bind hremove (unrelate_manyToMany ds id hsome hkind htarget hremove hj howners
      hremoveKeys), ite_targets hadd (relate_manyToMany ds id hkind htarget hadd hj howners haddKeys)]
    simp only [bind_assoc, pure_bind]
  · rw [junctionInsert_valuesSet, length_junctionRows, keyRows_length howners, hlen,
      keyRows_length haddKeys, targetIds_length hadd]
  · rw [junctionInsert_valuesSet, mem_junctionRows]

/-- Adding to and removing from a one-to-many relation run on one runner: first the update
nulling the relation back to the owners of the removed targets, then the update pointing the added
targets at the single owner, each left out when no target of its kind is given. The first holds,
under its parameters, for exactly the rows that hold an owner's key and are removed targets; the
second for exactly the rows of the added targets. -/
theorem addAndRemove_oneToMany
    (hres : RelationQuery.resolve s "add_and_remove" RelationKind.isCollection = .ok r)
    (hkind : r.relation.kind = .oneToMany)
    (htarget : ds.registry.get r.relation.target = .ok target)
    (hinv : ds.registry.inverseRelation r.relation = .ok (owning, inverse))
    (howners : keyRows ds.dialect r.entity r.owners inverse.joinColumns = .ok owners)
    (hadd : targetIds target added = .ok addIds) (hremove : targetIds target removed = .ok removeIds)
    (hsingle : addIds ≠ [] → r.owners = [owner])
    (hmain : (Builder.update ds.registry ds.dialect target.name).mainAlias = .ok a)
    (he : a.entity = some target) (hpaths : (target.primaryColumns.map (·.propertyPath)).Nodup)
    (hkeyed : ∀ m ∈ addIds ++ removeIds, ¬target.IdIncomplete (.obj m)) :
    ds.addAndRemove given s added removed =
        ds.inRunner given .master s.useTransaction (fun id => do
          if !removeIds.isEmpty then
            let _ ← ds.executeWrite (some id) (ds.detachUpdate target inverse owners removeIds)
          if !addIds.isEmpty then
            let _ ← ds.executeWrite (some id)
              (ds.idsUpdate target.name [(inverse.propertyPath, .obj owner)] addIds)) ∧
      (let t := ds.idsUpdate target.name [(inverse.propertyPath, .obj owner)] addIds
       t.valuesSet = [[(inverse.propertyPath, .obj owner)]] ∧
       t.assignments = ((Builder.update ds.registry ds.dialect target.name).apply
         (Update.set [(inverse.propertyPath, .obj owner)])).assignments ∧
       ∃ cond, t.wheres = [(.first, cond)] ∧
         ∀ ctx env, env.Binds t →
           (∀ c, target.primaryColumns = [c] → ∀ m ∈ addIds, ∀ x,
             c.idKey ds.dialect (.obj m) ≠ .float x) →
           cond.holdsWithLiterals ctx env =
             target.keysMatch ctx env a.name ds.dialect (addIds.map .obj)) ∧
      (let t := ds.detachUpdate target inverse owners removeIds
       t.valuesSet = [[(inverse.propertyPath, .null)]] ∧
       t.assignments = ((Builder.update ds.registry ds.dialect target.name).apply
         (Update.set [(inverse.propertyPath, .null)])).assignments ∧
       ∃ (byOwner : EqAlternatives) (cond : Condition),
         t.wheres = [(.first, .verbatim byOwner.render), (.and, cond)] ∧
         (∀ cell, byOwner.Holds cell t.parameters ↔ ∃ owner ∈ owners,
           ∀ cv ∈ (inverse.joinColumns.map (·.databaseName)).zip owner,
             cell (ds.dialect.escape cv.1) = some cv.2) ∧
         ∀ ctx env, env.Binds t →
           (∀ c, target.primaryColumns = [c] → ∀ m ∈ removeIds, ∀ x,
             c.idKey ds.dialect (.obj m) ≠ .float x) →
           cond.holdsWithLiterals ctx env =
             target.keysMatch ctx env a.name ds.dialect (removeIds.map .obj)) := by
  obtain ⟨-, -, hne, hlen⟩ := RelationQuery.resolve_spec hres
  have hsome : r.owners ≠ [] := fun h => hne (List.length_eq_zero_iff.mp (hlen ▸ h ▸ rfl))
  refine ⟨?_, idsUpdate_spec ds hmain he hpaths fun m hm => hkeyed m (List.mem_append_left _ hm),
    detachUpdate_spec ds hmain he hpaths fun m hm => hkeyed m (List.mem_append_right _ hm)⟩
  rw [addAndRemove_eq ds hres]
  refine congrArg (ds.inRunner given .master s.useTransaction) (funext fun id => ?_)
  dsimp only
  rw [ite_targets_bind hremove (unrelate_oneToMany ds id hsome hkind htarget hremove hinv howners),
    ite_targets hadd (relate_oneToMany ds id hkind htarget hadd hinv hsingle)]
  simp only [bind_assoc, pure_bind]

/-- Only collection relations are added to or removed from: a builder whose relation is to-one,
also the side of a one-to-one relation without the foreign key, is refused before any runner is
used, leaving the world as it was. -/
theorem addAndRemove_refuses_toOne {a : Alias} {e : Entity} {p : String} {rel : Relation}
    (hc : s.check = .ok ()) (hm : s.mainAlias = .ok a) (he : a.metadata = .ok e)
    (hp : s.relationProperty = some p) (hr : e.findRelation? p = some rel)
    (hk : rel.kind.isCollection = false) (w : World) :
    ∃ op, (ds.addAndRemove given s added removed).run.run w =
      (.error (.relationCardinality op rel.kind.name e.name p), w) := by
  unfold addAndRemove
  simp only [RelationQuery.resolve_refused hc hm he hp hr hk, ofResult]
  exact ⟨_, rfl⟩

end AddAndRemove

/-- Setting a to-one relation its entity owns updates, on one runner, exactly the owners' rows,
setting the relation to the value (null clearing it). -/
theorem setRelation_toOneOwner {s : QueryState} {given : Option RunnerId} (value : Json)
    {a : Alias} {e : Entity}
    (hres : RelationQuery.resolve s "set" (fun k => k = .manyToOne ∨ k = .oneToOne) = .ok r)
    (hown : r.relation.isToOneOwner = true)
    (hmain : (Builder.update ds.registry ds.dialect r.entity.name).mainAlias = .ok a)
    (he : a.entity = some e) (hpaths : (e.primaryColumns.map (·.propertyPath)).Nodup)
    (hkeyed : ∀ m ∈ r.owners, ¬e.IdIncomplete (.obj m)) :
    ds.setRelation given s value = ds.inRunner given .master s.useTransaction (fun id => do
      let _ ← ds.executeWrite (some id)
        (ds.idsUpdate r.entity.name [(r.relation.propertyPath, value)] r.owners)) ∧
      (let t := ds.idsUpdate r.entity.name [(r.relation.propertyPath, value)] r.owners
       t.valuesSet = [[(r.relation.propertyPath, value)]] ∧
       t.assignments = ((Builder.update ds.registry ds.dialect r.entity.name).apply
         (Update.set [(r.relation.propertyPath, value)])).assignments ∧
       ∃ cond, t.wheres = [(.first, cond)] ∧
         ∀ ctx env, env.Binds t →
           (∀ c, e.primaryColumns = [c] → ∀ m ∈ r.owners, ∀ x,
             c.idKey ds.dialect (.obj m) ≠ .float x) →
           cond.holdsWithLiterals ctx env =
             e.keysMatch ctx env a.name ds.dialect (r.owners.map .obj)) :=
  ⟨setRelation_eq ds value hres hown, idsUpdate_spec ds hmain he hpaths hkeyed⟩

end DataSource

/-! ## Posts, their categories and their authors -/

def postCategoryJunction : Junction :=
  { tableName := "post_categories", ownerColumns := [⟨"postId", "id"⟩],
    inverseColumns := [⟨"categoryId", "id"⟩] }

def postCategoriesRelation : Relation :=
  { propertyPath := "categories", kind := .manyToMany, target := "Category", isOwning := true,
    inverseSide := some "posts", junction := some postCategoryJunction }

def postAuthorRelation : Relation :=
  { propertyPath := "author", kind := .manyToOne, target := "Author", isOwning := true,
    inverseSide := some "posts", joinColumns := [⟨"authorId", "id"⟩] }

def authorPostsRelation : Relation :=
  { propertyPath := "posts", kind := .oneToMany, target := "Post", isOwning := false,
    inverseSide := some "author" }

/-- Posts keyed by an integer id, with their categories and their author, whose key each post
holds in `authorId`. -/
def blogPost : Entity :=
  { name := "Post", tableName := "posts",
    columns := [{ propertyPath := "id", databaseName := "id", type := .integer, isPrimary := true },
      { propertyPath := "author", databaseName := "authorId", type := .integer, isNullable := true,
        relation := some "author", referencedProperty := some "id" }],
    relations := [postCategoriesRelation, postAuthorRelation] }

def blogCategory : Entity :=
  { name := "Category", tableName := "categories",
    columns := [{ propertyPath := "id", databaseName := "id", type := .integer, isPrimary := true }] }

def blogAuthor : Entity :=
  { name := "Author", tableName := "authors",
    columns := [{ propertyPath := "id", databaseName := "id", type := .integer, isPrimary := true }],
    relations := [authorPostsRelation] }

def blogSource : DataSource :=
  { dialect := .mySql, registry := { entities := [blogPost, blogCategory, blogAuthor] } }

/-- The categories of posts 1 and 2. -/
def postCategoriesOf : QueryState :=
  { QueryState.new .mySql .relation with
    aliases := { items := [{ kind := .source, name := "Post", entity := some blogPost }],
                 main := some "Post" },
    relationProperty := some "categories", owners := [.int 1, .int 2] }

/-- The posts of author 7. -/
def authorPostsOf : QueryState :=
  { QueryState.new .mySql .relation with
    aliases := { items := [{ kind := .source, name := "Author", entity := some blogAuthor }],
                 main := some "Author" },
    relationProperty := some "posts", owners := [.int 7] }

/-- The author of posts 1 and 2. -/
def postAuthorOf : QueryState :=
  { QueryState.new .mySql .relation with
    aliases := { items := [{ kind := .source, name := "Post", entity := some blogPost }],
                 main := some "Post" },
    relationProperty := some "author", owners := [.int 1, .int 2] }

theorem blogPost_ids_complete (m : Fields) (hm : m = [("id", .int 1)] ∨ m = [("id", .int 2)]) :
    ¬blogPost.IdIncomplete (.obj m) := by
  rw [← Entity.ensureIdMap?_eq_none_iff]
  rcases hm with rfl | rfl <;> cbv <;> exact Option.some_ne_none _

/-- Profiles, each on the side without the foreign key of the one-to-one relation of a user to
its profile. -/
def blogProfile : Entity :=
  { name := "Profile", tableName := "profiles",
    columns := [{ propertyPath := "id", databaseName := "id", type := .integer, isPrimary := true }],
    relations := [{ propertyPath := "user", kind := .oneToOne, target := "User", isOwning := false,
                    inverseSide := some "profile" }] }

/-- The user of profile 9. -/
def profileUserOf : QueryState :=
  { QueryState.new .mySql .relation with
    aliases := { items := [{ kind := .source, name := "Profile", entity := some blogProfile }],
                 main := some "Profile" },
    relationProperty := some "user", owners := [.int 9] }

end EntitySql
