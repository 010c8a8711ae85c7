import EntitySql.Proofs.Builder.KeepsFailure
import EntitySql.Proofs.Runner.Pipeline
import EntitySql.Command.Exec.Build
import EntitySql.Proofs.Error.Chains

/-!
# A failed builder stops at its first failure

Once a fluent call has written a failure into a builder, every later call the requests give
keeps it (`BuildRequest.call_givesKeeping`, and `BuildRequest.Reaches.buildError` along any
sequence of calls, conversions to the other kinds of builder included). Compiling the builder
then gives that failure, and every way of running it returns it before anything else: the
world of runners and drivers is left as it was, so no statement reaches a driver, no
connection is opened and no transaction is started (`failed_builder_stops`).
-/

namespace EntitySql

open QueryM

variable {α : Type}

/-! ## Replies -/

namespace Reply

variable {β : Type} (P : α → Prop)

def Gives (r : Reply α) : Prop := ∀ a, r = .ok a → P a

@[simp] theorem gives_bind (x : Reply β) (f : β → Reply α) :
    Gives P (x >>= f) ↔ ∀ b, x = .ok b → Gives P (f b) := by
  constructor
  · intro h b hb a ha
    exact h a (by rw [hb]; exact ha)
  · intro h a ha
    cases hx : x with
    | error _ => rw [hx] at ha; cases ha
    | ok b => rw [hx] at ha; exact h b hx a ha

@[simp] theorem gives_pure (a : α) : Gives P (pure a) ↔ P a := by
  constructor
  · exact fun h => h a rfl
  · intro h a' ha
    cases ha
    exact h

@[simp] theorem gives_map (f : β → α) (x : Reply β) :
    Gives P (f <$> x) ↔ ∀ b, x = .ok b → P (f b) := by
  rw [← bind_pure_comp, gives_bind]
  simp only [gives_pure]

@[simp] theorem gives_malformed (m : String) : Gives P (malformed m) := by
  intro a ha
  cases ha

theorem gives_getD (o : Option (Reply α)) (u : Reply α) (ho : ∀ r, o = some r → Gives P r)
    (hu : Gives P u) : Gives P (o.getD u) := by
  cases o with
  | none => exact hu
  | some r => exact ho r rfl

end Reply

/-! ## Every call of a builder keeps a failure -/

namespace BuildRequest

/-- Every step a reply gives keeps a failure already recorded. -/
abbrev GivesKeeping (r : Reply (QueryM Unit)) : Prop :=
  Reply.Gives (fun step => ∀ e, KeepsFailure e step) r

theorem commonCall_givesKeeping (name : String) (j : Json) (r : Reply (QueryM Unit))
    (h : commonCall name j = some r) : GivesKeeping r := by
  unfold commonCall at h
  split at h <;> cases h <;> simp

theorem writeCall_givesKeeping (name : String) (j : Json) (r : Reply (QueryM Unit))
    (h : writeCall name j = some r) : GivesKeeping r := by
  unfold writeCall at h
  split at h <;> cases h <;> simp

set_option linter.unusedSimpArgs false in
theorem selectCall_givesKeeping (src : Source) (fuel : Nat) (name : String) (j : Json)
    (r : Reply (QueryM Unit)) (h : selectCall src fuel name j = some r) : GivesKeeping r := by
  cases fuel with
  | zero =>
    unfold selectCall at h
    cases h
    simp
  | succ fuel =>
    unfold selectCall at h
    split at h
    · -- a join reads its condition and its mapping before it makes the step
      cases h
      simp only [Reply.gives_bind]
      intro _ _ _ _
      split <;> simp <;> split <;> simp
    · -- the replies are taken apart first, then each step is one of the builder's
      split at h <;> cases h <;>
        simp only [Reply.gives_bind, Reply.gives_map, Reply.gives_pure, Reply.gives_malformed,
          implies_true] <;> intros <;> simp
      split <;> simp

theorem insertCall_givesKeeping (src : Source) (name : String) (j : Json)
    (r : Reply (QueryM Unit)) (h : insertCall src name j = some r) : GivesKeeping r := by
  unfold insertCall at h
  split at h
  all_goals first
    | exact writeCall_givesKeeping _ j r h
    | (cases h <;> simp)

theorem updateCall_givesKeeping (name : String) (j : Json) (r : Reply (QueryM Unit))
    (h : updateCall name j = some r) : GivesKeeping r := by
  unfold updateCall at h
  split at h
  all_goals first
    | exact writeCall_givesKeeping _ j r h
    | (cases h; simp)

theorem call_givesKeeping (src : Source) (fuel : Nat) (kind : QueryKind) (j : Json) :
    GivesKeeping (call src fuel kind j) := by
  unfold call
  simp only [Reply.gives_bind]
  intro name _
  split
  · -- a relation builder takes its owners and the transaction flag
    split <;> simp
  · split
    · exact commonCall_givesKeeping name j _ ‹_›
    · split
      · simp
      · split
        · exact Reply.gives_getD _ _ _ (selectCall_givesKeeping src fuel name j) (by simp)
        · exact Reply.gives_getD _ _ _ (insertCall_givesKeeping src name j) (by simp)
        · exact Reply.gives_getD _ _ _ (updateCall_givesKeeping name j) (by simp)
        · split
          · simp
          · split
            · simp
            · exact Reply.gives_getD _ _ _ (writeCall_givesKeeping name j) (by simp)
        · exact Reply.gives_getD _ _ _ (writeCall_givesKeeping name j) (by simp)

/-- The states a builder goes through under the calls of a request: each call read for the kind
the builder has when it comes, the state a call leaves kept also when the call fails. -/
inductive Reaches (src : Source) (fuel : Nat) : QueryState → QueryState → Prop
  | refl (s : QueryState) : Reaches src fuel s s
  | step {s t : QueryState} {step : QueryM Unit} (j : Json)
      (hcall : call src fuel s.kind j = .ok step) (hrest : Reaches src fuel (s.apply step) t) :
      Reaches src fuel s t

theorem Reaches.buildError {src : Source} {fuel : Nat} {s t : QueryState} {e : OrmError}
    (h : Reaches src fuel s t) (hs : s.buildError = some e) : t.buildError = some e := by
  induction h with
  | refl => exact hs
  | step j hcall _ ih =>
    exact ih ((call_givesKeeping src fuel _ j _ hcall e).apply_buildError hs)

end BuildRequest

/-! ## Compiling and running a failed builder -/

namespace QueryState

variable {s : QueryState} {e : OrmError} (h : s.buildError = some e)
include h

theorem check_of_buildError : s.check = .error e := by
  simp only [check, h, OrmError.replicate_eq_self]

theorem query_of_buildError (reg : Registry) : s.query reg = .error e := by
  rw [query, check_of_buildError h]
  rfl

theorem queryAndParameters_of_buildError (reg : Registry) :
    s.queryAndParameters reg = .error e := by
  rw [queryAndParameters, query_of_buildError h]
  rfl

theorem resolve_of_buildError (operation : String) (allowed : RelationKind → Bool) :
    RelationQuery.resolve s operation allowed = .error e := by
  rw [RelationQuery.resolve, check_of_buildError h]
  rfl

end QueryState

namespace ExecM

variable {β : Type} {e : OrmError}

/-- The run fails with `e` at once and leaves the world as it was: no runner is made or
changed, and no driver sees anything. -/
def StopsWith (e : OrmError) (x : ExecM α) : Prop := ∀ w, x.exec w = (.error e, w)

theorem StopsWith.bind {x : ExecM α} (hx : StopsWith e x) (f : α → ExecM β) :
    StopsWith e (x >>= f) := by
  intro w
  rw [exec_bind, hx w]

theorem StopsWith.map {x : ExecM α} (hx : StopsWith e x) (f : α → β) : StopsWith e (f <$> x) := by
  intro w
  rw [exec_map, hx w]

theorem stopsWith_ofResult : StopsWith e (ofResult (.error e) : ExecM α) :=
  fun w => exec_ofResult _ w

end ExecM

namespace DataSource

open ExecM

variable (ds : DataSource) (given : Option RunnerId) {s : QueryState} {e : OrmError}
  (h : s.buildError = some e)
include h

theorem checked_stopsWith {α : Type} (f : Unit → ExecM α) : StopsWith e (ofResult s.check >>= f) := by
  rw [QueryState.check_of_buildError h]
  exact stopsWith_ofResult.bind f

theorem getRawMany_stopsWith : StopsWith e (ds.getRawMany given s) :=
  checked_stopsWith h _

theorem getRawAndEntities_stopsWith : StopsWith e (ds.getRawAndEntities given s) :=
  checked_stopsWith h _

theorem getMany_stopsWith : StopsWith e (ds.getMany given s) :=
  (getRawAndEntities_stopsWith ds given h).map _

theorem getOne_stopsWith : StopsWith e (ds.getOne given s) :=
  (getMany_stopsWith ds given h).map _

theorem getOneOrFail_stopsWith : StopsWith e (ds.getOneOrFail given s) :=
  (getOne_stopsWith ds given h).bind _

theorem getCount_stopsWith : StopsWith e (ds.getCount given s) :=
  checked_stopsWith h _

theorem getManyAndCount_stopsWith : StopsWith e (ds.getManyAndCount given s) :=
  checked_stopsWith h _

theorem getExists_stopsWith : StopsWith e (ds.getExists given s) :=
  checked_stopsWith h _

theorem openStream_stopsWith : StopsWith e (ds.openStream given s) :=
  checked_stopsWith h _

theorem executeInsert_stopsWith : StopsWith e (ds.executeInsert given s) :=
  checked_stopsWith h _

theorem executeWrite_stopsWith : StopsWith e (ds.executeWrite given s) :=
  checked_stopsWith h _

theorem setRelation_stopsWith (value : Json) : StopsWith e (ds.setRelation given s value) := by
  unfold setRelation
  rw [QueryState.resolve_of_buildError h]
  exact stopsWith_ofResult.bind _

theorem addAndRemove_stopsWith (added removed : List Json) :
    StopsWith e (ds.addAndRemove given s added removed) := by
  unfold addAndRemove
  dsimp only
  rw [QueryState.resolve_of_buildError h]
  exact stopsWith_ofResult.bind _

theorem relationLoader_of_buildError : ds.relationLoader s = .error e := by
  unfold relationLoader RelationQuery.loader
  rw [QueryState.resolve_of_buildError h]
  rfl

end DataSource

namespace ExecRequest

open DataSource ExecM

variable (ds : DataSource) (given : Option RunnerId) {s : QueryState} {e : OrmError}
  (h : s.buildError = some e)
include h

theorem runSelect_stopsWith (j : Json) : Reply.Gives (StopsWith e) (runSelect ds given s j) := by
  unfold runSelect
  simp only [Reply.gives_bind]
  intro run _
  split <;> simp only [Reply.gives_pure, Reply.gives_malformed]
  · exact (getMany_stopsWith ds given h).map _
  · exact (getMany_stopsWith ds given h).map _
  · exact (getOne_stopsWith ds given h).map _
  · exact (getOne_stopsWith ds given h).map _
  · exact (getOneOrFail_stopsWith ds given h).map _
  · exact (getRawMany_stopsWith ds given h).map _
  · exact (getRawMany_stopsWith ds given h).map _
  · exact (getRawAndEntities_stopsWith ds given h).bind _
  · exact ((getCount_stopsWith ds given h).bind _).map _
  · exact (getManyAndCount_stopsWith ds given h).bind _
  · exact (getExists_stopsWith ds given h).map _
  · exact (openStream_stopsWith ds given h).bind _

theorem runRelation_stopsWith (j : Json) :
    Reply.Gives (StopsWith e) (runRelation ds given s j) := by
  unfold runRelation
  simp only [Reply.gives_bind]
  intro run _
  split <;> simp [relationLoader_of_buildError ds h]
  all_goals first
    | exact (setRelation_stopsWith ds given h _).map _
    | exact fun _ _ => (addAndRemove_stopsWith ds given h _ _).map _
    | exact fun _ _ _ _ => (addAndRemove_stopsWith ds given h _ _).map _
    | exact stopsWith_ofResult.bind _

theorem runBuilt_stopsWith (j : Json) : Reply.Gives (StopsWith e) (runBuilt ds given s j) := by
  unfold runBuilt
  simp only [Reply.gives_bind]
  intro run _
  split
  · simp only [Reply.gives_pure, QueryState.queryAndParameters_of_buildError h]
    exact stopsWith_ofResult.map _
  · split
    · exact runSelect_stopsWith ds given h j
    · exact runRelation_stopsWith ds given h j
    all_goals split <;> simp only [Reply.gives_pure, Reply.gives_malformed]
    · exact (executeInsert_stopsWith ds given h).map _
    all_goals exact (executeWrite_stopsWith ds given h).map _

end ExecRequest

/-! ## The first failure of a builder -/

/-- A builder holding the failure `e` still holds it after any calls a request gives, the
conversions to an insert, update, delete, soft delete, restore or relation builder among them.
Its SQL, with named parameters or with the dialect's placeholders, is the failure `e`, and so is
the loader of a relation builder. Every way a request runs it (its SQL; the loads, counts,
existence checks and streams of a select; the execution of a write; the writes and loads of a
relation) fails with `e` at once and leaves the world as it was: no runner is made, no
connection opened, no transaction started, and no statement reaches a driver. -/
theorem failed_builder_stops (src : Source) (fuel : Nat) (ds : DataSource)
    (given : Option RunnerId) {s t : QueryState} {e : OrmError} (hfail : s.buildError = some e)
    (hreach : BuildRequest.Reaches src fuel s t) :
    t.buildError = some e ∧
      (∀ reg, t.query reg = .error e ∧ t.queryAndParameters reg = .error e) ∧
      ds.relationLoader t = .error e ∧
      ∀ j work, ExecRequest.runBuilt ds given t j = .ok work →
        ∀ w, work.exec w = (.error e, w) := by
  have ht := hreach.buildError hfail
  refine ⟨ht, fun reg => ⟨QueryState.query_of_buildError ht reg,
    QueryState.queryAndParameters_of_buildError ht reg⟩,
    DataSource.relationLoader_of_buildError ds ht, ?_⟩
  intro j work hwork
  exact ExecRequest.runBuilt_stopsWith ds given ht j work hwork

/-- A select of table `users` as `u` given a second main alias `v` records the refusal; after a
limit is set its SQL is still that refusal. -/
theorem failed_builder_stops_users :
    let src : Source := { registry := {}, dialect := .postgres }
    let s := (Builder.select {} .postgres false (some ("users", "u"))).apply
      (Select.from {} "users" "v")
    let t := s.apply (modify fun q => { q with limit := some 3 })
    s.buildError = some (.usage "main alias is already set to \"u\"") ∧
      BuildRequest.Reaches src 5 s t ∧
      t.query {} = .error (.usage "main alias is already set to \"u\"") := by
  intro src s t
  have hfail : s.buildError = some (.usage "main alias is already set to \"u\"") := by rfl
  have hreach : BuildRequest.Reaches src 5 s t := by
    refine .step (.obj [("call", .str "limit"), ("value", .int 3)]) ?_ (.refl _)
    rfl
  exact ⟨hfail, hreach, ((failed_builder_stops src 5 { dialect := .postgres, registry := {} } none
    hfail hreach).2.1 {}).1⟩

end EntitySql
