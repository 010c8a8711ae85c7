import EntitySql.Proofs.Builder.FreshNames

set_option mvcgen.warning false

/-!
# WHERE calls leave the rest of a builder alone

A WHERE call adds a clause, binds the values of its condition under made-up names, sets the
parameters its raw parts carry and may record a failure; nothing else. `QueryState.writePart p` is
what it leaves alone: the dialect, kind and aliases of the builder, the rows or values it
writes, its assignments, and the parameters whose names pass a test `p` that no made-up name
passes, given that the raw parts of the condition use no such name (`WhereInput.RawNamesAvoid`):
the names with the prefix `orm_update_` of the bound assignments (`updatePrefix`), or the name
of the discriminator values.

`QueryM.KeepsWritePart` is the triple saying that a step ends where it began in that part,
whether it returns or throws. The WHERE steps have it as `spec` lemmas, one per step as for
the made-up names, so that `mvcgen` carries it through the steps built from them.
-/

namespace EntitySql

open Std.Do

/-- A set of parameter names, as a test, that no made-up name is in. -/
abbrev ParamNames : Type := { names : String → Bool // ∀ n, names (paramName n) = false }

theorem paramName_not_update (n : Nat) : "orm_update_".isPrefixOf (paramName n) = false := by
  simp [paramName, String.isPrefixOf]

/-- The names of the parameters of bound assignments. -/
def updatePrefix : ParamNames := ⟨"orm_update_".isPrefixOf, paramName_not_update⟩

/-- The name of the parameter of the discriminator values. -/
def discriminatorName : ParamNames :=
  ⟨(· == "discriminatorColumnValues"), fun n =>
    beq_false_of_ne fun h => not_madeUp_discriminatorColumnValues ⟨n, h⟩⟩

/-- What the WHERE calls of a builder leave alone: its dialect, kind and aliases, the rows or
values it writes, its assignments, and the parameters whose names are in `p`. -/
def QueryState.writePart (p : ParamNames) (s : QueryState) :
    Dialect × QueryKind × Aliases × List Fields × List (String × String) × List (String × Value) :=
  (s.dialect, s.kind, s.aliases, s.valuesSet, s.assignments,
    s.parameters.filter fun kv => p.1 kv.1)

@[simp] theorem QueryState.writePart_fail (p : ParamNames) (s : QueryState) (e : OrmError) :
    (s.fail e).writePart p = s.writePart p := by
  unfold QueryState.fail
  split <;> rfl

section Params

variable {names : String → Bool} {k : String} {v : Value} {ps qs : List (String × Value)}

theorem filter_names_map_replace (hk : names k = false) (ps : List (String × Value)) :
    (ps.map fun (k', w) => if k' = k then (k', v) else (k', w)).filter
      (fun kv => names kv.1) = ps.filter fun kv => names kv.1 := by
  induction ps with
  | nil => rfl
  | cons kw ps ih =>
    obtain ⟨k', w⟩ := kw
    by_cases h : k' = k
    · subst h
      simp [hk, ih]
    · simp [List.filter_cons, h, ih]

theorem setParam_filter_names (hk : names k = false) :
    (setParam ps k v).filter (fun kv => names kv.1) =
      ps.filter fun kv => names kv.1 := by
  unfold setParam
  split
  · exact filter_names_map_replace hk ps
  · simp [List.filter_append, hk]

theorem lookup_filter_names (hk : names k = true) (ps : List (String × Value)) :
    (ps.filter fun kv => names kv.1).lookup k = ps.lookup k := by
  induction ps with
  | nil => rfl
  | cons p ps ih =>
    obtain ⟨k', v⟩ := p
    by_cases hk' : names k'
    · simp [hk', List.lookup_cons, ih]
    · have hne : (k == k') = false := by
        simpa using fun h : k = k' => hk' (h ▸ hk)
      simp [hk', List.lookup_cons, ih, hne]

theorem mergeParams_filter_names (hqs : ∀ k v, (k, v) ∈ qs → names k = false) :
    (mergeParams ps qs).filter (fun kv => names kv.1) =
      ps.filter fun kv => names kv.1 := by
  induction qs generalizing ps with
  | nil => rfl
  | cons kv qs ih =>
    rw [mergeParams, List.foldl_cons, ← mergeParams,
      ih fun k v h => hqs k v (List.mem_cons_of_mem _ h),
      setParam_filter_names (hqs kv.1 kv.2 List.mem_cons_self)]

end Params

/-- The raw parts of a condition, in bracket groups too, set no parameter whose name is in
`names`. -/
inductive WhereInput.RawNamesAvoid (names : String → Bool) : WhereInput → Prop
  | raw {rc : RawCondition} :
      (∀ k v, (k, v) ∈ rc.params → names k = false) → RawNamesAvoid names (.raw rc)
  | find {f : FindWhere} : RawNamesAvoid names (.find f)
  | anyOf {fs : List FindWhere} : RawNamesAvoid names (.anyOf fs)
  | brackets {calls : List WhereCall} {negate : Bool} :
      (∀ k input, .inl (k, input) ∈ calls → RawNamesAvoid names input) →
        RawNamesAvoid names (.brackets calls negate)

def WhereCall.RawNamesAvoid (names : String → Bool) : WhereCall → Prop
  | .inl (_, input) => input.RawNamesAvoid names
  | .inr _ => True

namespace QueryM

variable {α β : Type} (p : ParamNames) (w : Dialect × QueryKind × Aliases × List Fields ×
  List (String × String) × List (String × Value))

/-- Run from a state whose write part is `w`, the step ends in one whose write part is `w`,
whether it returns or throws. -/
abbrev KeepsWritePart (x : QueryM α) : Prop :=
  ⦃fun s => ⌜s.writePart p = w⌝⦄ x
    ⦃post⟨fun _ s => ⌜s.writePart p = w⌝, fun _ s => ⌜s.writePart p = w⌝⟩⦄

variable {p w}

theorem KeepsWritePart.run {x : QueryM α} (hx : KeepsWritePart p w x) {s : QueryState}
    (hs : s.writePart p = w) : (x.run.run s).2.writePart p = w := by
  refine @StateM.of_wp_run_eq _ _ _ s x.run rfl (fun q => q.2.writePart p = w) ?_
  simp only [WP.ExceptT_run]
  exact fun _ => hx s hs

theorem KeepsWritePart.apply {x : QueryM Unit} (hx : ∀ w, KeepsWritePart p w x)
    (s : QueryState) : (s.apply x).writePart p = s.writePart p :=
  (hx _).run rfl

@[spec 1200, simp] theorem record_keepsWritePart {x : QueryM α} (hx : KeepsWritePart p w x) :
    KeepsWritePart p w (record x) := by
  unfold record
  mvcgen [hx, -record_keepsNames]
  all_goals simp_all +zetaDelta

@[spec 1200, simp] theorem mapM_keepsWritePart {f : β → QueryM α}
    (hf : ∀ b, KeepsWritePart p w (f b)) : ∀ l : List β, KeepsWritePart p w (l.mapM f)
  | [] => by
    rw [List.mapM_nil]
    mvcgen
  | b :: l => by
    have hb := hf b
    have hl := mapM_keepsWritePart hf l
    rw [List.mapM_cons]
    mvcgen [hb, hl, -mapM_keepsNames, -mapM_keepsFailure]

variable (w)

theorem modify_keepsWritePart {f : QueryState → QueryState}
    (hf : ∀ s, (f s).writePart p = s.writePart p) : KeepsWritePart p w (modify f) := by
  mvcgen
  simp_all +zetaDelta

@[spec 1200, simp] theorem lift_keepsWritePart (r : OrmResult α) :
    KeepsWritePart p w (lift r) := by
  unfold lift
  mvcgen

@[spec 1200, simp] theorem mainAlias_keepsWritePart : KeepsWritePart p w mainAlias := by
  unfold mainAlias
  mvcgen

@[spec 1200, simp] theorem nextParameterName_keepsWritePart :
    KeepsWritePart p w nextParameterName := by
  unfold nextParameterName
  mvcgen

theorem mergeParameters_keepsWritePart {ps : List (String × Value)}
    (h : ∀ k v, (k, v) ∈ ps → p.1 k = false) :
    KeepsWritePart p w (mergeParameters ps) := by
  unfold mergeParameters
  mvcgen
  simp_all +zetaDelta [QueryState.writePart, mergeParams_filter_names h]

end QueryM

open QueryM

section WhereSteps

variable {p : ParamNames} (w : Dialect × QueryKind × Aliases × List Fields × List (String × String) ×
  List (String × Value))

@[spec 1200, simp] theorem bindValue_keepsWritePart (v : Value) :
    KeepsWritePart p w (bindValue v) := by
  unfold bindValue nextParameterName
  mvcgen
  simp_all +zetaDelta [QueryState.writePart, setParam_filter_names (p.2 _)]

namespace Op

mutual

@[spec 1200, simp] theorem bind_keepsWritePart (column : Option Column) :
    (op : Op) → KeepsWritePart p w (bind column op)
  | .not inner => by
    have ih := bind_keepsWritePart column inner
    unfold bind
    mvcgen [ih, -bind_keepsNames, -bind_keepsFailure]
  | .and ops | .or ops => by
    have ih := bindAll_keepsWritePart column ops
    unfold bind
    mvcgen [ih, -bindAll_keepsNames, -bindAll_keepsFailure]
  | .raw _ params => by
    have hparams := mapM_keepsWritePart (p := p) (bindValue_keepsWritePart (p := p) w) params
    unfold bind
    mvcgen [hparams, -mapM_keepsWritePart, -mapM_keepsNames, -mapM_keepsFailure]
  | .eq _ | .ne _ | .gt _ | .gte _ | .lt _ | .lte _ | .like _ | .ilike _ | .inList []
  | .inList (_ :: _) | .between _ _ | .isNull | .any _ | .arrayContains _ | .arrayContainedBy _
  | .arrayOverlap _ => by
    unfold bind
    mvcgen
    all_goals simp_all

@[spec 1200, simp] theorem bindAll_keepsWritePart (column : Option Column) :
    (ops : List Op) → KeepsWritePart p w (bindAll column ops)
  | [] => by
    unfold bindAll
    mvcgen
  | op :: rest => by
    have hop := bind_keepsWritePart column op
    have hrest := bindAll_keepsWritePart column rest
    unfold bindAll
    mvcgen [hop, hrest, -bind_keepsNames, -bindAll_keepsNames, -bind_keepsFailure,
      -bindAll_keepsFailure]

end

end Op

@[spec 1200, simp] theorem predicate_keepsWritePart (aliasName column : String)
    (known : Option Column) (op : Op) : KeepsWritePart p w (predicate aliasName column known op) := by
  unfold predicate
  mvcgen
  all_goals simp_all

@[spec 1200, simp] theorem lowerColumn_keepsWritePart (aliasName : String) (ent : Entity)
    (path : String) (op : Op) : KeepsWritePart p w (lowerColumn aliasName ent path op) := by
  unfold lowerColumn
  mvcgen
  all_goals simp_all

@[spec 1200, simp] theorem lowerJoinKeys_keepsWritePart (aliasName : String) (ent : Entity)
    (path : String) :
    (entries : List (String × FindValue)) →
      KeepsWritePart p w (lowerJoinKeys aliasName ent path entries)
  | [] => by
    unfold lowerJoinKeys
    mvcgen
  | _ :: rest => by
    have hrest := lowerJoinKeys_keepsWritePart aliasName ent path rest
    unfold lowerJoinKeys
    mvcgen [hrest, -lowerJoinKeys_keepsNames, -lowerJoinKeys_keepsFailure]
    all_goals simp_all

@[spec 1200, simp] theorem resolveFindWhere_keepsWritePart (aliasName : String) (f : FindWhere) :
    KeepsWritePart p w (resolveFindWhere aliasName f) := by
  refine resolveFindWhere.induct (fun a f => KeepsWritePart p w (resolveFindWhere a f))
    (fun a known path entries => KeepsWritePart p w (lowerEntries a known path entries))
    (fun a known path v => KeepsWritePart p w (lowerEntry a known path v))
    ?resolve ?nil ?cons ?unknown ?joined ?embedded ?value ?valueOf ?op ?opOf aliasName f
  case resolve =>
    intro a f hentries
    unfold resolveFindWhere
    mvcgen [hentries]
    all_goals simp_all
  case nil =>
    intro _ _ _
    unfold lowerEntries
    mvcgen
  case cons =>
    intro _ _ _ _ _ _ hfirst hrest
    unfold lowerEntries
    mvcgen [hfirst, hrest]
  case unknown =>
    intro _ _ _
    unfold lowerEntry
    mvcgen
  case joined =>
    intro _ _ _ _ _ hrel hjoin
    unfold lowerEntry
    mvcgen [hrel, hjoin, -resolveFindWhere_keepsNames, -resolveFindWhere_keepsFailure]
  case embedded =>
    intro _ _ _ _ hrel hinner
    unfold lowerEntry
    mvcgen [hrel, hinner]
  case value =>
    intro _ _ _
    unfold lowerEntry
    mvcgen
    all_goals simp_all
  case valueOf =>
    intro _ _ _ _
    unfold lowerEntry
    mvcgen
  case op =>
    intro _ _ _
    unfold lowerEntry
    mvcgen
    all_goals simp_all
  case opOf =>
    intro _ _ _ _
    unfold lowerEntry
    mvcgen

@[spec 1200, simp] theorem whereIdsCondition_keepsWritePart (ids : List Json) :
    KeepsWritePart p w (whereIdsCondition ids) := by
  unfold whereIdsCondition
  mvcgen
  all_goals simp_all

@[spec 1200, simp] theorem pushWhere_keepsWritePart (k : Connective) {step : QueryM Condition}
    (hstep : KeepsWritePart p w step) : KeepsWritePart p w (pushWhere k step) := by
  unfold pushWhere
  mvcgen [hstep, -pushWhere_keepsNames]
  all_goals simp_all +zetaDelta [QueryState.writePart]

theorem applyWhereCalls_keepsWritePart {calls : List WhereCall}
    (h : ∀ k input, .inl (k, input) ∈ calls → ∀ w, KeepsWritePart p w (lowerCondition input)) :
    KeepsWritePart p w (applyWhereCalls calls) := by
  induction calls generalizing w with
  | nil =>
    unfold applyWhereCalls
    mvcgen
  | cons call rest ih =>
    have hrest := ih w (fun k input hk => h k input (List.mem_cons_of_mem _ hk))
    rcases call with ⟨k, input⟩ | ⟨k, ids⟩
    · have hinput := h k input List.mem_cons_self w
      clear ih h
      unfold applyWhereCalls
      mvcgen [hinput, hrest, -lowerCondition_keepsFailure, -applyWhereCalls_keepsFailure,
        -pushWhere_keepsNames]
      all_goals simp_all
    · clear ih h
      unfold applyWhereCalls
      mvcgen [hrest, -applyWhereCalls_keepsFailure, -pushWhere_keepsNames]
      all_goals simp_all

theorem lowerCondition_keepsWritePart {input : WhereInput} (h : input.RawNamesAvoid p.1) :
    KeepsWritePart p w (lowerCondition input) := by
  induction h generalizing w with
  | raw hrc =>
    have hmerge := mergeParameters_keepsWritePart w hrc
    unfold lowerCondition
    mvcgen [hmerge, -mergeParameters_keepsFailure]
  | find =>
    unfold lowerCondition
    mvcgen
    all_goals simp_all
  | anyOf =>
    unfold lowerCondition
    mvcgen
    all_goals simp_all
  | @brackets calls negate _ ih =>
    have hchild : ∀ s : QueryState, ∀ k v,
        (k, v) ∈ ((applyWhereCalls calls).run.run s.deriveChild).2.parameters →
          p.1 k = false := by
      intro s k v hkv
      have hrun := (applyWhereCalls_keepsWritePart _ fun k input hk => ih k input hk).run
        (s := s.deriveChild) rfl
      simp only [QueryState.writePart, Prod.mk.injEq] at hrun
      have hnil := hrun.2.2.2.2.2
      simp only [QueryState.deriveChild, QueryState.new, List.filter_nil,
        List.filter_eq_nil_iff] at hnil
      simpa using hnil (k, v) hkv
    clear ih
    unfold lowerCondition
    mvcgen
    all_goals simp_all +zetaDelta [QueryState.writePart, mergeParams_filter_names (hchild _)]

theorem applyWhereCall_keepsWritePart {call : WhereCall} (h : call.RawNamesAvoid p.1) :
    KeepsWritePart p w (applyWhereCall call) :=
  applyWhereCalls_keepsWritePart w fun k input hk w' => by
    rcases call with ⟨k', input'⟩ | ⟨k', ids⟩
    · simp only [List.mem_singleton, Sum.inl.injEq, Prod.mk.injEq] at hk
      exact hk.2 ▸ lowerCondition_keepsWritePart w' h
    · simp at hk

@[spec 1200, simp] theorem whereEntity_keepsWritePart (entities : List Fields) :
    KeepsWritePart p w (Update.whereEntity entities) := by
  unfold Update.whereEntity
  mvcgen [-whereIdsCondition_keepsNames]
  all_goals simp_all +zetaDelta [QueryState.writePart]

end WhereSteps

end EntitySql
