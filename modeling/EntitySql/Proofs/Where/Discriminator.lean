import EntitySql.Proofs.Where.Clause
import EntitySql.Proofs.Builder.WhereFrame
import EntitySql.Command.Build

set_option mvcgen.warning false

/-!
# The discriminator filter of a child entity

A select whose main alias is a child entity of a single-table hierarchy restricts the rows to
those of the child and its descendants: its WHERE clause has the operand
`main.type IN (:...discriminatorColumnValues)`. The values are not in that text. They are bound
to one parameter of a fixed name, and that name is written by every source registration of a
child entity, whichever alias it makes, by every merge of a compiled subquery's parameters that
carries it, and by every set of parameters under it.

`SourceFrame` is what the later steps of a select keep: aliases that extend those it had, so the
main alias stays, and the value of that parameter. Joins and WHERE calls keep it, given that
their raw conditions bind no parameter of that name; a source added, a subquery (selected from
or left joined) and a set of parameters keep the aliases and write the parameter
(`SourceCall.discriminatorWrite`, which for a subquery depends on the state it is built from).

So the filter reads the last write. `Select.discriminatorFilter_lastWrite` follows a select
from a child entity through any sequence of such calls: the main alias and its filter stay, and
the parameter holds the last value written (`SourceCall.writes`), or the child's own values when
nothing wrote it. A second child entity added as a source, or the source of a subquery, therefore
replaces the values of the first, `Select.discriminatorParameter_replaced_by_added_source`.
-/

namespace EntitySql

/-! ## The last write to a parameter wins -/

theorem lookup_cons_pair (a k : String) (b : Value) (ps : List (String × Value)) :
    ((a, b) :: ps).lookup k = if k = a then some b else ps.lookup k := by
  rw [List.lookup_cons]
  by_cases h : k = a
  · simp [h]
  · rw [beq_false_of_ne h, if_neg h]

theorem any_key_eq_isSome (ps : List (String × Value)) (name : String) :
    (ps.any (·.1 = name)) = (ps.lookup name).isSome := by
  induction ps with
  | nil => rfl
  | cons p ps ih =>
    obtain ⟨a, b⟩ := p
    by_cases h : name = a
    · subst h
      simp
    · simp [lookup_cons_pair, h, ih, Ne.symm h]

theorem lookup_replace (ps : List (String × Value)) (name : String) (v : Value) (k : String) :
    (ps.map fun (n, w) => if n = name then (n, v) else (n, w)).lookup k =
      (ps.lookup k).map fun w => if k = name then v else w := by
  induction ps with
  | nil => rfl
  | cons p ps ih =>
    obtain ⟨a, b⟩ := p
    by_cases han : a = name
    · subst han
      by_cases hk : k = a
      · simp [hk]
      · simp [lookup_cons_pair, hk, ih]
    · by_cases hk : k = a
      · subst hk
        simp [han]
      · simp [lookup_cons_pair, han, hk, ih]

theorem lookup_setParam (ps : List (String × Value)) (name : String) (v : Value) (k : String) :
    (setParam ps name v).lookup k = if k = name then some v else ps.lookup k := by
  unfold setParam
  split
  · rename_i hany
    rw [any_key_eq_isSome] at hany
    rw [lookup_replace]
    by_cases hk : k = name
    · subst hk
      obtain ⟨w, hw⟩ := Option.isSome_iff_exists.1 hany
      simp [hw]
    · simp [hk]
  · rename_i hany
    have hnone : ps.lookup name = none := by
      rw [any_key_eq_isSome] at hany
      cases h : ps.lookup name with
      | none => rfl
      | some w => simp [h] at hany
    rw [List.lookup_append]
    by_cases hk : k = name
    · subst hk
      simp [hnone]
    · simp [lookup_cons_pair, hk]

theorem lookup_mergeParams (ps more : List (String × Value)) (k : String) :
    (mergeParams ps more).lookup k = (more.reverse.lookup k).or (ps.lookup k) := by
  induction more generalizing ps with
  | nil => rfl
  | cons p more ih =>
    obtain ⟨a, b⟩ := p
    simp only [mergeParams, List.foldl_cons] at ih ⊢
    rw [ih, lookup_setParam, List.reverse_cons, List.lookup_append, Option.or_assoc,
      lookup_cons_pair]
    by_cases hk : k = a <;> simp [hk]

/-! ## Building steps, one bind at a time -/

namespace QueryM

variable {α β : Type}

theorem run_bind (x : QueryM α) (f : α → QueryM β) (s : QueryState) :
    (x >>= f).run.run s = match x.run.run s with
      | (.ok a, s') => (f a).run.run s'
      | (.error e, s') => (.error e, s') := by
  rcases h : x.run.run s with ⟨_ | a, s'⟩
  all_goals
    simp only [bind, ExceptT.bind, ExceptT.mk, ExceptT.bindCont, ExceptT.run, StateT.run,
      StateT.bind] at h ⊢
  · rw [h]
    rfl
  · rw [h]

@[simp] theorem run_pure (a : α) (s : QueryState) : (pure a : QueryM α).run.run s = (.ok a, s) :=
  rfl

@[simp] theorem run_get (s : QueryState) : (get : QueryM QueryState).run.run s = (.ok s, s) := rfl

@[simp] theorem run_lift (r : OrmResult α) (s : QueryState) : (lift r).run.run s = (r, s) := by
  cases r <;> rfl

@[simp] theorem run_setParameter (name : String) (v : Value) (s : QueryState) :
    (setParameter name v).run.run s =
      (.ok (), { s with parameters := setParam s.parameters name v }) := rfl

@[simp] theorem run_modify (f : QueryState → QueryState) (s : QueryState) :
    (modify f : QueryM Unit).run.run s = (.ok (), f s) := rfl

@[simp] theorem run_mergeParameters (ps : List (String × Value)) (s : QueryState) :
    (mergeParameters ps).run.run s =
      (.ok (), { s with parameters := mergeParams s.parameters ps }) := rfl

theorem run_record (x : QueryM α) (s : QueryState) :
    (record x).run.run s = match x.run.run s with
      | (.ok a, s') => (.ok (some a), s')
      | (.error e, s') => (.ok none, s'.fail e) := by
  rcases h : x.run.run s with ⟨_ | a, s'⟩
  all_goals
    simp only [record, tryCatchThe, MonadExceptOf.tryCatch, tryCatch, ExceptT.tryCatch, ExceptT.mk,
      ExceptT.run, StateT.run, bind, StateT.bind, Functor.map, ExceptT.map] at h ⊢
    rw [h]
    rfl

theorem run_createAlias (spec : AliasSpec) (s : QueryState) :
    (createAlias spec).run.run s = match s.aliases.create spec with
      | .ok (as, a) => (.ok a, { s with aliases := as })
      | .error e => (.error e, s) := by
  simp only [createAlias, run_bind, run_get, run_lift]
  cases s.aliases.create spec <;> rfl

theorem run_setMainAlias (name : String) (s : QueryState) :
    (setMainAlias name).run.run s = match s.aliases.setMain name with
      | .ok as => (.ok (), { s with aliases := as })
      | .error e => (.error e, s) := by
  simp only [setMainAlias, run_bind, run_get, run_lift]
  cases s.aliases.setMain name <;> rfl

theorem apply_forM (steps : List (QueryM Unit)) (s : QueryState)
    (hok : ∀ x ∈ steps, ∀ t : QueryState, (x.run.run t).1 = .ok ()) :
    s.apply (steps.forM id) = steps.foldl QueryState.apply s := by
  induction steps generalizing s with
  | nil => rfl
  | cons x steps ih =>
    have hx : x.run.run s = (.ok (), s.apply x) := by
      rw [← hok x List.mem_cons_self s]
      rfl
    have hrest : ∀ y ∈ steps, ∀ t : QueryState, (y.run.run t).1 = .ok () :=
      fun y hy => hok y (List.mem_cons_of_mem x hy)
    have hcons : (x :: steps).forM id = (x >>= fun _ => steps.forM id) := rfl
    rw [List.foldl_cons, ← ih (s.apply x) hrest, QueryState.apply, QueryState.apply, hcons,
      run_bind, hx]

end QueryM

namespace QueryState

theorem typeFilter_of_child (s : QueryState) (main : Alias) {e : Entity} {c : Column}
    (hchild : e.parent?.isSome) (hc : e.discriminatorColumn? = some c) (p : Bool) :
    s.typeFilter main e p =
      [s.aliasColumn main p c.databaseName ++ " IN (:...discriminatorColumnValues)"] := by
  simp [typeFilter, hchild, hc]

@[simp] theorem fail_aliases (s : QueryState) (e : OrmError) : (s.fail e).aliases = s.aliases := by
  unfold fail
  split <;> rfl

end QueryState

/-! ## Aliases only grow -/

namespace Aliases

/-- A second set of aliases keeps the main alias of the first and every alias under its name. -/
structure Extends (as as' : Aliases) : Prop where
  main_eq : as'.main = as.main
  find_eq : ∀ n a, as.find? n = some a → as'.find? n = some a

theorem Extends.refl (as : Aliases) : Extends as as := ⟨rfl, fun _ _ h => h⟩

theorem Extends.trans {as as' as'' : Aliases} (h : Extends as as') (h' : Extends as' as'') :
    Extends as as'' :=
  ⟨h'.main_eq.trans h.main_eq, fun n a ha => h'.find_eq n a (h.find_eq n a ha)⟩

theorem Extends.hasMain_eq {as as' : Aliases} (h : Extends as as') : as'.hasMain = as.hasMain := by
  rw [hasMain, hasMain, h.main_eq]

theorem Extends.mainAlias {as as' : Aliases} {main : Alias} (h : Extends as as')
    (hmain : as.mainAlias = .ok main) : as'.mainAlias = .ok main := by
  unfold Aliases.mainAlias at hmain ⊢
  rw [h.main_eq]
  cases hm : as.main with
  | none => simp [hm] at hmain
  | some n =>
    simp only [hm, Option.bind_some] at hmain ⊢
    cases hf : as.find? n with
    | none => simp [hf] at hmain
    | some a =>
      simp only [hf] at hmain
      rw [h.find_eq n a hf]
      exact hmain

theorem create_extends {as as' : Aliases} {spec : AliasSpec} {a : Alias}
    (h : as.create spec = .ok (as', a)) : Extends as as' ∧ as'.items = as.items ++ [a] := by
  have hshape : as' = { as with items := as.items ++ [a] } := by
    unfold create at h
    cases hn : spec.name with
    | none =>
      simp only [hn, bind, Except.bind, pure, Except.pure, Except.ok.injEq, Prod.mk.injEq] at h
      rw [← h.1, ← h.2]
    | some n =>
      by_cases hfree : (as.find? n).isSome
      · simp [hn, hfree, bind, Except.bind, throw, throwThe, MonadExceptOf.throw] at h
      · simp only [hn, hfree, Bool.false_eq_true, ↓reduceIte, bind, Except.bind, pure,
          Except.pure, Except.ok.injEq, Prod.mk.injEq] at h
        rw [← h.1, ← h.2]
  subst hshape
  refine ⟨⟨rfl, fun n b hb => ?_⟩, rfl⟩
  simp only [find?, List.find?_append] at hb ⊢
  rw [hb]
  rfl

theorem create_named {as : Aliases} {spec : AliasSpec} {n : String} (hn : spec.name = some n)
    (hfree : as.find? n = none) :
    let a : Alias := ⟨spec.kind, n, spec.entity, spec.tablePath, spec.subQuery⟩
    as.create spec = .ok ({ as with items := as.items ++ [a] }, a) := by
  simp [create, hn, hfree, bind, Except.bind, pure, Except.pure]

theorem setMain_first {as : Aliases} {n : String} (hmain : as.main = none)
    (hfound : (as.find? n).isSome) : as.setMain n = .ok { as with main := some n } := by
  obtain ⟨a, ha⟩ := Option.isSome_iff_exists.1 hfound
  simp [setMain, get, ha, hmain, bind, Except.bind, pure, Except.pure]

theorem setMain_of_hasMain {as as' : Aliases} {name : String} (hmain : as.hasMain)
    (h : as.setMain name = .ok as') : as' = as := by
  unfold setMain at h
  cases hg : as.get name with
  | error e => simp [hg, bind, Except.bind] at h
  | ok a =>
    cases hm : as.main with
    | none => simp [hasMain, hm] at hmain
    | some current =>
      by_cases hc : current = name
      · simp [hg, hm, hc, bind, Except.bind, pure, Except.pure] at h
        exact h.symm
      · simp [hg, hm, hc, bind, Except.bind, throw, throwThe, MonadExceptOf.throw] at h

theorem hasMain_of_mainAlias {as : Aliases} {main : Alias} (h : as.mainAlias = .ok main) :
    as.hasMain := by
  unfold Aliases.mainAlias at h
  cases hm : as.main with
  | none => simp [hm] at h
  | some n => simp [hasMain, hm]

end Aliases

/-! ## Registering a source -/

namespace Registry

/-- The discriminator values that registering a target as a source binds: those of a child
entity of an inheritance hierarchy, and nothing for any other target. -/
def childValues? (reg : Registry) (target : String) : Option Value :=
  match reg.find? target with
  | some e => if e.parent?.isSome then some (.array (discriminatorValues reg e)) else none
  | none => none

/-- The alias a source registration asks for: of the entity the target names, or of a table. -/
def sourceSpec (reg : Registry) (target : String) (name : Option String) : AliasSpec :=
  match reg.find? target with
  | some e => { kind := .source, name := some (name.getD e.name), entity := some e }
  | none => { kind := .source, name := some (name.getD target), tablePath := some target }

/-- The parameters once a target is registered as a source. -/
def bindSource (reg : Registry) (target : String) (ps : List (String × Value)) :
    List (String × Value) :=
  match reg.childValues? target with
  | some v => setParam ps "discriminatorColumnValues" v
  | none => ps

theorem lookup_bindSource (reg : Registry) (target : String) (ps : List (String × Value)) :
    (reg.bindSource target ps).lookup "discriminatorColumnValues" =
      (reg.childValues? target).or (ps.lookup "discriminatorColumnValues") := by
  unfold bindSource
  cases reg.childValues? target <;> simp [lookup_setParam]

end Registry

open QueryM

theorem run_registerSource (reg : Registry) (target : String) (name : Option String)
    (s : QueryState) :
    (registerSource reg target name).run.run s =
      let s₁ := { s with parameters := reg.bindSource target s.parameters }
      match s₁.aliases.create (reg.sourceSpec target name) with
      | .ok (as, a) => (.ok a.name, { s₁ with aliases := as })
      | .error e => (.error e, s₁) := by
  cases hf : reg.find? target with
  | none =>
    simp only [registerSource, Registry.bindSource, Registry.childValues?, Registry.sourceSpec,
      hf, run_pure, run_bind, run_createAlias]
    cases Aliases.create _ _ <;> rfl
  | some e =>
    cases hp : e.parent?.isSome
    all_goals
      simp only [registerSource, Registry.bindSource, Registry.childValues?, Registry.sourceSpec,
        hf, hp, run_pure, run_bind, run_createAlias, run_setParameter, Bool.false_eq_true,
        ↓reduceIte]
      cases Aliases.create _ _ <;> rfl

namespace Select

theorem addFrom_spec (reg : Registry) (target name : String) (s : QueryState) :
    let out := (addFrom reg target name).run.run s
    out.1 = .ok () ∧ out.2.parameters = reg.bindSource target s.parameters ∧
      (s.aliases.hasMain → Aliases.Extends s.aliases out.2.aliases) := by
  simp only [addFrom, run_bind, run_record, run_registerSource]
  cases hc : Aliases.create s.aliases (reg.sourceSpec target (some name)) with
  | error e =>
    refine ⟨rfl, ?_, fun _ => ?_⟩
    · show (QueryState.fail _ e).parameters = _
      simp
    · show Aliases.Extends s.aliases (QueryState.fail _ e).aliases
      simpa using Aliases.Extends.refl s.aliases
  | ok r =>
    obtain ⟨as, a⟩ := r
    obtain ⟨hext, -⟩ := Aliases.create_extends hc
    by_cases hmain : s.aliases.hasMain
    · have hmain' : as.hasMain := hext.hasMain_eq ▸ hmain
      simp only [run_bind, run_get, hmain', Bool.not_true, Bool.false_eq_true, ↓reduceIte, run_pure]
      exact ⟨trivial, trivial, fun _ => hext⟩
    · have hnomain : as.hasMain = false := by
        rw [hext.hasMain_eq]
        exact Bool.eq_false_iff.2 hmain
      simp only [run_bind, run_get, hnomain, Bool.not_false, ↓reduceIte, run_record,
        run_setMainAlias]
      refine ⟨?_, ?_, fun h => absurd h hmain⟩
      all_goals cases Aliases.setMain as a.name
      · rfl
      · rfl
      · exact QueryState.fail_parameters _ _
      · rfl

end Select

/-! ## The later steps of a select -/

open Std.Do

/-- What a select keeps of its sources while it is built: aliases that extend `as`, and the
value `v` of the parameter of the discriminator values. -/
def SourceFrame (as : Aliases) (v : Option Value) (s : QueryState) : Prop :=
  Aliases.Extends as s.aliases ∧ s.parameters.lookup "discriminatorColumnValues" = v

theorem SourceFrame.fail {as : Aliases} {v : Option Value} {s : QueryState}
    (h : SourceFrame as v s) (e : OrmError) : SourceFrame as v (s.fail e) := by
  simpa [SourceFrame] using h

theorem discriminatorName_self : discriminatorName.1 "discriminatorColumnValues" = true :=
  beq_self_eq_true _

theorem lookup_mergeParams_avoid (ps : List (String × Value)) {qs : List (String × Value)}
    (h : ∀ k v, (k, v) ∈ qs → discriminatorName.1 k = false) :
    (mergeParams ps qs).lookup "discriminatorColumnValues" = ps.lookup "discriminatorColumnValues" := by
  rw [← lookup_filter_names discriminatorName_self, mergeParams_filter_names h,
    lookup_filter_names discriminatorName_self]

/-- What a subquery built by `build` from the state `s` writes to the parameter of the
discriminator values: its own value of it, once it compiled. -/
def subQueryWrite (reg : Registry) (build : QueryM Unit) (s : QueryState) : Option Value :=
  let sub := s.deriveSubQuery.apply build
  match Select.query reg sub with
  | .ok _ => sub.parameters.reverse.lookup "discriminatorColumnValues"
  | .error _ => none

namespace QueryM

variable {α : Type} {as : Aliases} {v : Option Value}

theorem apply_of_triple {P Q : QueryState → Prop} {x : QueryM α}
    (hx : ⦃fun s => ⌜P s⌝⦄ x ⦃post⟨fun _ s => ⌜Q s⌝, fun _ s => ⌜Q s⌝⟩⦄) {s : QueryState}
    (hs : P s) : Q (x.run.run s).2 := by
  refine @StateM.of_wp_run_eq _ _ _ s x.run rfl (fun q => Q q.2) ?_
  simp only [WP.ExceptT_run]
  exact fun _ => hx s hs

/-- Run from a state that keeps the sources `as` and the value `v`, the step ends in one that
keeps them, whether it returns or throws. -/
abbrev KeepsSourceFrame (as : Aliases) (v : Option Value) (x : QueryM α) : Prop :=
  ⦃fun s => ⌜SourceFrame as v s⌝⦄ x
    ⦃post⟨fun _ s => ⌜SourceFrame as v s⌝, fun _ s => ⌜SourceFrame as v s⌝⟩⦄

theorem createAlias_keepsSourceFrame (spec : AliasSpec) :
    KeepsSourceFrame as v (createAlias spec) := by
  unfold createAlias lift
  mvcgen
  rename_i s hs r hr _
  exact ⟨hs.1.trans (Aliases.create_extends hr).1, hs.2⟩

theorem setMainAlias_keepsSourceFrame (hmain : as.hasMain) (name : String) :
    KeepsSourceFrame as v (setMainAlias name) := by
  unfold setMainAlias lift
  mvcgen
  rename_i s hs r hr _
  have hsmain : s.aliases.hasMain := hs.1.hasMain_eq ▸ hmain
  obtain rfl := Aliases.setMain_of_hasMain hsmain hr
  exact hs

theorem lowerRaw_keepsSourceFrame {rc : RawCondition}
    (h : ∀ k v, (k, v) ∈ rc.params → discriminatorName.1 k = false) :
    KeepsSourceFrame as v (lowerCondition (.raw rc)) := by
  unfold lowerCondition mergeParameters
  mvcgen
  rename_i s hs _
  exact ⟨hs.1, (lookup_mergeParams_avoid s.parameters h).trans hs.2⟩

end QueryM

open QueryM

namespace Select

variable {as : Aliases} {v : Option Value}

theorem tryJoin_keepsSourceFrame (reg : Registry) (direction : JoinDirection)
    (target name : String) {condition : Option RawCondition}
    (hc : ∀ rc ∈ condition, ∀ k v, (k, v) ∈ rc.params → discriminatorName.1 k = false)
    (selected : Bool) (mapTo : Option (String × Bool)) :
    KeepsSourceFrame as v (tryJoin reg direction target name condition selected mapTo) := by
  have halias : ∀ spec, KeepsSourceFrame as v (createAlias spec) := createAlias_keepsSourceFrame
  cases condition with
  | none =>
    unfold tryJoin addSelect lift
    mvcgen [halias, -createAlias_keepsNames, -createAlias_keepsFailure]
  | some rc =>
    have hcond : KeepsSourceFrame as v (lowerCondition (.raw rc)) :=
      lowerRaw_keepsSourceFrame (hc rc rfl)
    unfold tryJoin addSelect lift
    mvcgen [halias, hcond, -createAlias_keepsNames, -createAlias_keepsFailure,
      -lowerCondition_keepsFailure]

theorem join_keepsSourceFrame (reg : Registry) (direction : JoinDirection)
    (target name : String) {condition : Option RawCondition}
    (hc : ∀ rc ∈ condition, ∀ k v, (k, v) ∈ rc.params → discriminatorName.1 k = false)
    (selected : Bool) (mapTo : Option (String × Bool)) :
    KeepsSourceFrame as v (join reg direction target name condition selected mapTo) := by
  have htry : KeepsSourceFrame as v (tryJoin reg direction target name condition selected mapTo) :=
    tryJoin_keepsSourceFrame reg direction target name hc selected mapTo
  unfold join record
  mvcgen [htry, -tryJoin_keepsFailure]
  rename_i hs _
  exact hs.fail _

theorem buildSubQuery_writes (as : Aliases) (v : Option Value) (reg : Registry)
    (build : QueryM Unit) (w : Option Value) :
    ⦃fun s => ⌜SourceFrame as v s ∧ subQueryWrite reg build s = w⌝⦄ buildSubQuery reg build
      ⦃post⟨fun _ s => ⌜SourceFrame as (w.or v) s⌝, fun _ s => ⌜SourceFrame as (w.or v) s⌝⟩⦄ := by
  unfold buildSubQuery lift mergeParameters
  mvcgen
  · rename_i s hs sub sql hq _
    obtain ⟨⟨hext, hv⟩, rfl⟩ := hs
    refine ⟨hext, ?_⟩
    show (mergeParams s.parameters sub.parameters).lookup _ = _
    rw [lookup_mergeParams, hv]
    simp only [subQueryWrite, sub] at hq ⊢
    rw [hq]
  · rename_i s hs sub e hq
    obtain ⟨⟨hext, hv⟩, rfl⟩ := hs
    have hw : subQueryWrite reg build s = none := by
      simp only [subQueryWrite, sub] at hq ⊢
      rw [hq]
    rw [hw]
    exact ⟨hext, hv⟩

theorem fromSubQuery_writes (reg : Registry) (build : QueryM Unit) (name : String)
    (hmain : as.hasMain) (w : Option Value) :
    ⦃fun s => ⌜SourceFrame as v s ∧ subQueryWrite reg build s = w⌝⦄ fromSubQuery reg build name
      ⦃post⟨fun _ s => ⌜SourceFrame as (w.or v) s⌝, fun _ s => ⌜SourceFrame as (w.or v) s⌝⟩⦄ := by
  have hsub := buildSubQuery_writes as v reg build w
  have halias : ∀ spec, KeepsSourceFrame as (w.or v) (createAlias spec) :=
    createAlias_keepsSourceFrame
  have hset := setMainAlias_keepsSourceFrame (v := w.or v) hmain
  unfold fromSubQuery record
  mvcgen [hsub, halias, hset, -buildSubQuery_keepsFailure, -createAlias_keepsNames,
    -createAlias_keepsFailure, -setMainAlias_keepsNames, -setMainAlias_keepsFailure]
  all_goals
    rename_i hs _
    exact hs.fail _

theorem leftJoinSubQuery_writes (reg : Registry) (build : QueryM Unit) (name : String)
    {condition : RawCondition}
    (hc : ∀ k v, (k, v) ∈ condition.params → discriminatorName.1 k = false) (w : Option Value) :
    ⦃fun s => ⌜SourceFrame as v s ∧ subQueryWrite reg build s = w⌝⦄
      leftJoinSubQuery reg build name condition
      ⦃post⟨fun _ s => ⌜SourceFrame as (w.or v) s⌝, fun _ s => ⌜SourceFrame as (w.or v) s⌝⟩⦄ := by
  have hsub := buildSubQuery_writes as v reg build w
  have hcond : KeepsSourceFrame as (w.or v) (lowerCondition (.raw condition)) :=
    lowerRaw_keepsSourceFrame hc
  have halias : ∀ spec, KeepsSourceFrame as (w.or v) (createAlias spec) :=
    createAlias_keepsSourceFrame
  unfold leftJoinSubQuery record
  mvcgen [hsub, hcond, halias, -buildSubQuery_keepsFailure, -lowerCondition_keepsFailure,
    -createAlias_keepsNames, -createAlias_keepsFailure]
  all_goals
    rename_i hs _
    exact hs.fail _

end Select

/-- A step of a select after its first source: a source added, a join, a subquery as a source or
left joined, a WHERE call with its bracket groups, or named parameters set. -/
inductive SourceCall
  | addFrom (target name : String)
  | join (direction : JoinDirection) (target name : String) (condition : Option RawCondition)
      (selected : Bool) (mapTo : Option (String × Bool))
  | fromSubQuery (build : QueryM Unit) (name : String)
  | leftJoinSubQuery (build : QueryM Unit) (name : String) (condition : RawCondition)
  | filter (call : WhereCall)
  | setParameters (ps : List (String × Value))

theorem run_record_discard {α : Type} (x : QueryM α) (s : QueryState) :
    ((do let _ ← record x : QueryM Unit).run.run s).1 = .ok () := by
  rw [run_bind, run_record]
  rcases x.run.run s with ⟨_ | _, _⟩ <;> rfl

theorem pushWhere_run_ok (k : Connective) (step : QueryM Condition) (s : QueryState) :
    ((pushWhere k step).run.run s).1 = .ok () := by
  unfold pushWhere
  split
  all_goals
    simp only [run_bind, run_record, run_modify]
    rcases (step.run.run _) with ⟨_ | c, s'⟩ <;> rfl

theorem applyWhereCall_run_ok (call : WhereCall) (s : QueryState) :
    ((applyWhereCall call).run.run s).1 = .ok () := by
  rcases call with ⟨k, input⟩ | ⟨k, ids⟩
  all_goals
    simp only [applyWhereCall, applyWhereCalls, run_bind]
    rcases h : (pushWhere _ _).run.run s with ⟨r, s'⟩
    obtain rfl : r = .ok () := by rw [← pushWhere_run_ok _ _ s, h]
    rfl

namespace SourceCall

def run (reg : Registry) : SourceCall → QueryM Unit
  | .addFrom target name => Select.addFrom reg target name
  | .join direction target name condition selected mapTo =>
    Select.join reg direction target name condition selected mapTo
  | .fromSubQuery build name => Select.fromSubQuery reg build name
  | .leftJoinSubQuery build name condition => Select.leftJoinSubQuery reg build name condition
  | .filter call => applyWhereCall call
  | .setParameters ps => QueryM.mergeParameters ps

/-- What a call run from `s` writes to the parameter of the discriminator values: the values of a
child entity added as a source, the value of a subquery that compiled, or a value set under that
name. -/
def discriminatorWrite (reg : Registry) : SourceCall → QueryState → Option Value
  | .addFrom target _, _ => reg.childValues? target
  | .fromSubQuery build _, s => subQueryWrite reg build s
  | .leftJoinSubQuery build _ _, s => subQueryWrite reg build s
  | .setParameters ps, _ => ps.reverse.lookup "discriminatorColumnValues"
  | .join .., _ => none
  | .filter _, _ => none

/-- The raw conditions of a call, of a join or in a WHERE call, set no parameter whose name is in
`names`. -/
def RawNamesAvoid (names : String → Bool) : SourceCall → Prop
  | .join _ _ _ condition _ _ => ∀ rc ∈ condition, ∀ k v, (k, v) ∈ rc.params → names k = false
  | .leftJoinSubQuery _ _ condition => ∀ k v, (k, v) ∈ condition.params → names k = false
  | .filter call => call.RawNamesAvoid names
  | .addFrom .. | .fromSubQuery .. | .setParameters _ => True

/-- The values the calls write to the parameter of the discriminator values, in order, each
call run from the state the calls before it left. -/
def writes (reg : Registry) : List SourceCall → QueryState → List Value
  | [], _ => []
  | c :: cs, s => (c.discriminatorWrite reg s).toList ++ writes reg cs (s.apply (c.run reg))

theorem run_ok (reg : Registry) (c : SourceCall) (s : QueryState) :
    ((c.run reg).run.run s).1 = .ok () := by
  cases c with
  | addFrom target name => exact (Select.addFrom_spec reg target name s).1
  | join direction target name condition selected mapTo => exact run_record_discard _ s
  | fromSubQuery build name => exact run_record_discard _ s
  | leftJoinSubQuery build name condition => exact run_record_discard _ s
  | filter call => exact applyWhereCall_run_ok call s
  | setParameters ps => rfl

/-- One call: the sources still extend `as`, and the parameter holds what the call wrote, or
what it held before. -/
theorem sourceFrame_apply (reg : Registry) {c : SourceCall}
    (hc : c.RawNamesAvoid discriminatorName.1) {as : Aliases} (hmain : as.hasMain)
    {v : Option Value} {s : QueryState} (hs : SourceFrame as v s) :
    SourceFrame as ((c.discriminatorWrite reg s).or v) (s.apply (c.run reg)) := by
  cases c with
  | addFrom target name =>
    obtain ⟨-, hparams, hext⟩ := Select.addFrom_spec reg target name s
    refine ⟨hs.1.trans (hext (hs.1.hasMain_eq ▸ hmain)), ?_⟩
    rw [QueryState.apply, run, hparams, Registry.lookup_bindSource, hs.2]
    rfl
  | join direction target name condition selected mapTo =>
    exact apply_of_triple (Select.join_keepsSourceFrame reg direction target name hc selected mapTo) hs
  | fromSubQuery build name =>
    exact apply_of_triple (Select.fromSubQuery_writes reg build name hmain _) ⟨hs, rfl⟩
  | leftJoinSubQuery build name condition =>
    exact apply_of_triple (Select.leftJoinSubQuery_writes reg build name hc _) ⟨hs, rfl⟩
  | filter call =>
    have hpart := KeepsWritePart.apply (fun w => applyWhereCall_keepsWritePart (p := discriminatorName) w hc) s
    simp only [QueryState.writePart, Prod.mk.injEq] at hpart
    obtain ⟨-, -, haliases, -, -, hparams⟩ := hpart
    refine ⟨haliases ▸ hs.1, ?_⟩
    rw [run, ← lookup_filter_names discriminatorName_self, hparams,
      lookup_filter_names discriminatorName_self, hs.2]
    rfl
  | setParameters ps =>
    exact ⟨hs.1, by rw [QueryState.apply, run, run_mergeParameters, lookup_mergeParams, hs.2]; rfl⟩

end SourceCall

/-- Calls run one after another: the sources still extend `as`, and the parameter holds the last
value written, or what it held before. -/
theorem sequence_sourceFrame (reg : Registry) {calls : List SourceCall}
    (hcalls : ∀ c ∈ calls, c.RawNamesAvoid discriminatorName.1) {as : Aliases} (hmain : as.hasMain)
    {v : Option Value} {s : QueryState} (hs : SourceFrame as v s) :
    SourceFrame as ((SourceCall.writes reg calls s).getLast?.or v)
      (s.apply (BuildRequest.sequence (calls.map (·.run reg)))) := by
  have hok : ∀ x ∈ calls.map (·.run reg), ∀ t : QueryState, (x.run.run t).1 = .ok () := by
    intro x hx t
    obtain ⟨c, -, rfl⟩ := List.mem_map.1 hx
    exact SourceCall.run_ok reg c t
  simp only [BuildRequest.sequence]
  rw [apply_forM _ s hok, List.foldl_map]
  clear hok
  induction calls generalizing s v with
  | nil => exact hs
  | cons c calls ih =>
    have hstep := SourceCall.sourceFrame_apply reg (hcalls c List.mem_cons_self) hmain hs
    have hrest := ih (fun c' hc' => hcalls c' (List.mem_cons_of_mem _ hc')) hstep
    have hlast : (SourceCall.writes reg (c :: calls) s).getLast? =
        (SourceCall.writes reg calls (s.apply (c.run reg))).getLast?.or
          (c.discriminatorWrite reg s) := by
      rw [SourceCall.writes, List.getLast?_append]
      cases c.discriminatorWrite reg s <;> simp
    rw [List.foldl_cons, hlast, Option.or_assoc]
    exact hrest

namespace Select

theorem from_new (reg : Registry) (d : Dialect) (target name : String) (e : Entity)
    (he : reg.find? target = some e) :
    let s := (QueryState.new d .select).apply (Select.from reg target name)
    s.mainAlias = .ok { kind := .source, name, entity := some e } ∧
      s.parameters = reg.bindSource target [] := by
  let a : Alias := { kind := .source, name, entity := some e }
  have hcreate : (QueryState.new d .select).aliases.create
      { kind := .source, name := some name, entity := some e } = .ok ({ items := [a] }, a) :=
    Aliases.create_named rfl rfl
  have hmain : ({ items := [a] } : Aliases).setMain a.name = .ok { items := [a], main := some name } :=
    Aliases.setMain_first rfl (by simp [Aliases.find?, a])
  simp only [Select.from, QueryState.apply, run_bind, run_record, registerMain,
    run_registerSource, Registry.sourceSpec, he, Option.getD_some, hcreate, run_setMainAlias, hmain]
  refine ⟨?_, rfl⟩
  show Aliases.mainAlias { items := [a], main := some name } = _
  simp [Aliases.mainAlias, Aliases.find?, a]

/-- The discriminator filter of a select from a child entity reads the last write. Start a select
from a child entity `C` and go on with any sources added and parameters set: the main alias stays
that of `C`; its WHERE clause has `main.type IN (:...discriminatorColumnValues)` as an operand,
after the built conditions and the soft-delete filter; and that parameter holds the value of the
last call that wrote it, or, when none did, the discriminator values of `C` and of its
descendants. -/
theorem discriminatorFilter_lastWrite (reg : Registry) (d : Dialect) (target name : String)
    (C : Entity) (col : Column) (hC : reg.find? target = some C) (hchild : C.parent?.isSome)
    (hcol : C.discriminatorColumn? = some col) (calls : List SourceCall)
    (hcalls : ∀ c ∈ calls, c.RawNamesAvoid discriminatorName.1) (p : Bool) :
    let s₀ := (QueryState.new d .select).apply (Select.from reg target name)
    let s := s₀.apply (BuildRequest.sequence (calls.map (·.run reg)))
    ∃ main : Alias, s.mainAlias = .ok main ∧ main.name = name ∧ main.entity = some C ∧
      s.compileWhere p = (s.builtConditions p).map (fun built => whereClause
        (built ++ s.deletedFilter main C p ++
          [s.aliasColumn main p col.databaseName ++ " IN (:...discriminatorColumnValues)"] ++
          s.extraWhere.toList)) ∧
      s.parameters.lookup "discriminatorColumnValues" =
        some ((SourceCall.writes reg calls s₀).getLast?.getD
          (.array (discriminatorValues reg C))) := by
  intro s₀ s
  obtain ⟨hmain₀, hparams₀⟩ := from_new reg d target name C hC
  have hown : reg.childValues? target = some (.array (discriminatorValues reg C)) := by
    simp [Registry.childValues?, hC, hchild]
  have hs₀ : SourceFrame s₀.aliases (some (.array (discriminatorValues reg C))) s₀ := by
    refine ⟨Aliases.Extends.refl _, ?_⟩
    rw [hparams₀, Registry.lookup_bindSource, hown]
    rfl
  obtain ⟨hext, hlookup⟩ :=
    sequence_sourceFrame reg hcalls (Aliases.hasMain_of_mainAlias hmain₀) hs₀
  have hmain := hext.mainAlias hmain₀
  refine ⟨_, hmain, rfl, rfl, ?_, ?_⟩
  · rw [QueryState.compileWhere_eq, QueryState.impliedConditions_of_entity hmain rfl,
      QueryState.typeFilter_of_child s _ hchild hcol]
    simp only [List.append_assoc]
    rfl
  · rw [hlookup]
    cases (SourceCall.writes reg calls s₀).getLast? <;> rfl

/-- The filter at a select of dogs that goes on to join cats on a raw condition, to filter by a
bracket group with the same condition, and to select from a subquery of cats. -/
theorem discriminatorFilter_lastWrite_dogs :
    let kind : Column :=
      { propertyPath := "type", databaseName := "type", type := .text, isDiscriminator := true }
    let dog : Entity :=
      { name := "Dog", tableName := "animals", columns := [kind],
        inheritance := some ⟨"Animal", "dog"⟩, children := ["Puppy"] }
    let reg : Registry :=
      { entities :=
          [{ name := "Animal", tableName := "animals", columns := [kind],
              discriminatorValue := some "animal", children := ["Dog", "Cat"] },
            dog,
            { name := "Puppy", tableName := "animals", columns := [kind],
              inheritance := some ⟨"Dog", "puppy"⟩ },
            { name := "Cat", tableName := "animals", columns := [kind],
              inheritance := some ⟨"Animal", "cat"⟩ }] }
    let lives : RawCondition := { sql := "c.lives > :lives", params := [("lives", .int 1)] }
    let calls := [SourceCall.join .left "Cat" "c" (some lives) false none,
      .filter (.inl (.and, .brackets [.inl (.first, .raw lives)] false)),
      .fromSubQuery (Select.from reg "Cat" "sc") "cats"]
    let s₀ := (QueryState.new .postgres .select).apply (Select.from reg "Dog" "d")
    let s := s₀.apply (BuildRequest.sequence (calls.map (·.run reg)))
    reg.find? "Dog" = some dog ∧ dog.parent?.isSome ∧ dog.discriminatorColumn? = some kind ∧
    (∀ c ∈ calls, c.RawNamesAvoid discriminatorName.1) ∧
    ∃ main : Alias, s.mainAlias = .ok main ∧ main.name = "d" ∧ main.entity = some dog ∧
      s.compileWhere true = (s.builtConditions true).map (fun built => whereClause
        (built ++ s.deletedFilter main dog true ++
          [s.aliasColumn main true kind.databaseName ++ " IN (:...discriminatorColumnValues)"] ++
          s.extraWhere.toList)) ∧
      s.parameters.lookup "discriminatorColumnValues" =
        some ((SourceCall.writes reg calls s₀).getLast?.getD
          (.array (discriminatorValues reg dog))) := by
  intro kind dog reg lives calls s₀ s
  have hlives : ∀ k v, (k, v) ∈ lives.params → discriminatorName.1 k = false := by
    simp [lives, discriminatorName]
  have hcalls : ∀ c ∈ calls, c.RawNamesAvoid discriminatorName.1 := by
    simp only [calls, List.mem_cons, List.not_mem_nil, or_false, forall_eq_or_imp, forall_eq,
      SourceCall.RawNamesAvoid, WhereCall.RawNamesAvoid]
    refine ⟨fun rc hrc => ?_, .brackets fun k input hk => ?_, trivial⟩
    · cases hrc
      exact hlives
    · simp only [List.mem_singleton, Sum.inl.injEq, Prod.mk.injEq] at hk
      obtain ⟨rfl, rfl⟩ := hk
      exact .raw hlives
  exact ⟨rfl, rfl, rfl, hcalls,
    discriminatorFilter_lastWrite _ .postgres "Dog" "d" _ _ rfl rfl rfl _ hcalls true⟩

/-- A second child entity replaces the values of the first, whether it is added as a source or is
the source of a subquery selected from: a select of dogs keeps its dogs as the main alias and
filters them by the discriminator parameter, which then holds the cats' value and not those of
dogs and puppies. -/
theorem discriminatorParameter_replaced_by_added_source :
    let kind : Column :=
      { propertyPath := "type", databaseName := "type", type := .text, isDiscriminator := true }
    let dog : Entity :=
      { name := "Dog", tableName := "animals", columns := [kind],
        inheritance := some ⟨"Animal", "dog"⟩, children := ["Puppy"] }
    let reg : Registry :=
      { entities :=
          [{ name := "Animal", tableName := "animals", columns := [kind],
              discriminatorValue := some "animal", children := ["Dog", "Cat"] },
            dog,
            { name := "Puppy", tableName := "animals", columns := [kind],
              inheritance := some ⟨"Dog", "puppy"⟩ },
            { name := "Cat", tableName := "animals", columns := [kind],
              inheritance := some ⟨"Animal", "cat"⟩ }] }
    let dogs := (QueryState.new .postgres .select).apply (Select.from reg "Dog" "d")
    let added := dogs.apply (Select.addFrom reg "Cat" "c")
    let selected := dogs.apply (Select.fromSubQuery reg (Select.from reg "Cat" "sc") "cats")
    discriminatorValues reg dog = [.text "dog", .text "puppy"] ∧
    added.mainEntity?.map (·.name) = some "Dog" ∧
    added.compileWhere true = .ok " WHERE \"d\".\"type\" IN (:...discriminatorColumnValues)" ∧
    added.parameters.lookup "discriminatorColumnValues" = some (.array [.text "cat"]) ∧
    selected.mainEntity?.map (·.name) = some "Dog" ∧
    selected.compileWhere true = .ok " WHERE \"d\".\"type\" IN (:...discriminatorColumnValues)" ∧
    selected.parameters.lookup "discriminatorColumnValues" = some (.array [.text "cat"]) :=
  ⟨rfl, rfl, rfl, rfl, rfl, rfl, rfl⟩

end Select

end EntitySql
