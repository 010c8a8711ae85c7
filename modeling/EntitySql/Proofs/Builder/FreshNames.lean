import Mathlib
import EntitySql.Proofs.Builder.KeepsFailure

set_option mvcgen.warning false

/-!
# Building steps keep the made-up parameter names

A builder makes up the names of the values it binds from a counter: `orm_param_n`, where `n` is
the counter, which then counts on (`QueryM.bindValue`). The names a user gives, and those of the
insert and update builders, are other names; `MadeUp` says which names are made up.

`NamesFrom start old counter ps` is what a step keeps of the made-up names of a query whose
parameters were `old` when its counter stood at `start`: the counter has not gone back below
`start`, each made-up name among the parameters `ps` is numbered below the counter and bound to
one value, and the names numbered below `start` are bound as in `old`. A step keeps it when it
makes up names only by counting and never rebinds a name made up before it began
(`QueryM.KeepsNames`, a triple over `QueryM`).

Every step of the builders keeps the made-up names, given that the names the user sets are not
made up: a bracket group and a subquery count on from their query in a state of their own, and
their parameters, set back on the query, carry only names made up since (`NamesFrom.merge`).
The lemmas are `spec` lemmas, so that `mvcgen` uses them for the steps built from them.
-/

namespace EntitySql

open Std.Do

def MadeUp (k : String) : Prop := ∃ n, paramName n = k

theorem paramName_injective : Function.Injective paramName := by
  intro m n h
  simp only [paramName, String.append_right_inj] at h
  exact Nat.repr_inj.mp h

theorem not_madeUp_of_toList {k : String} (h : ∀ t, k.toList ≠ "orm_param_".toList ++ t) :
    ¬MadeUp k := by
  rintro ⟨n, rfl⟩
  exact h _ String.toList_append

theorem not_madeUp_discriminatorColumnValues : ¬MadeUp "discriminatorColumnValues" :=
  not_madeUp_of_toList fun t => by simp

theorem not_madeUp_insertParameter (r c : Nat) : ¬MadeUp (insertParameter r c) :=
  not_madeUp_of_toList fun t => by simp [insertParameter, String.toList_append]

theorem not_madeUp_updateParameter (i : Nat) : ¬MadeUp (updateParameter i) :=
  not_madeUp_of_toList fun t => by simp [updateParameter, String.toList_append]

section Params

variable {ps more : List (String × Value)} {k k' : String} {v w : Value}

theorem mem_setParam : (k', w) ∈ setParam ps k v ↔ k' = k ∧ w = v ∨ k' ≠ k ∧ (k', w) ∈ ps := by
  unfold setParam
  split
  · next hany =>
    obtain ⟨⟨k₀, w₀⟩, h₀, hk₀⟩ := List.any_eq_true.mp hany
    simp only [decide_eq_true_eq] at hk₀
    subst hk₀
    simp only [List.mem_map, Prod.exists]
    constructor
    · rintro ⟨a, b, hab, he⟩
      split at he <;> simp_all
    · rintro (⟨rfl, rfl⟩ | ⟨hne, hmem⟩)
      · exact ⟨k', w₀, h₀, by simp⟩
      · exact ⟨k', w, hmem, by simp [hne]⟩
  · next hany =>
    simp only [List.any_eq_true, decide_eq_true_eq, not_exists, not_and] at hany
    simp only [List.mem_append, List.mem_singleton, Prod.mk.injEq]
    constructor
    · rintro (h | h)
      · exact .inr ⟨fun he => hany _ h he, h⟩
      · exact .inl h
    · rintro (h | h)
      · exact .inr h
      · exact .inl h.2

theorem mem_mergeParams (h : (k, w) ∈ mergeParams ps more) : (k, w) ∈ ps ∨ (k, w) ∈ more := by
  induction more generalizing ps with
  | nil => exact .inl h
  | cons kv more ih =>
    rcases ih h with h | h
    · rcases mem_setParam.mp h with ⟨rfl, rfl⟩ | ⟨-, h⟩
      · exact .inr (List.mem_cons_self ..)
      · exact .inl h
    · exact .inr (List.mem_cons_of_mem _ h)

theorem mem_mergeParams_of_not_key (hk : ∀ w, (k, w) ∉ more) :
    (k, w) ∈ mergeParams ps more ↔ (k, w) ∈ ps := by
  induction more generalizing ps with
  | nil => rfl
  | cons kv more ih =>
    have hne : k ≠ kv.1 := fun he => hk kv.2 (by simp [he])
    rw [mergeParams, List.foldl_cons, ← mergeParams, ih (fun w hw => hk w (List.mem_cons_of_mem _ hw)),
      mem_setParam]
    simp [hne]

theorem exists_mem_mergeParams (h : (k, v) ∈ ps) : ∃ w, (k, w) ∈ mergeParams ps more := by
  induction more generalizing ps v with
  | nil => exact ⟨v, h⟩
  | cons kv more ih =>
    by_cases hk : k = kv.1
    · exact ih (mem_setParam.mpr (.inl ⟨hk, rfl⟩))
    · exact ih (mem_setParam.mpr (.inr ⟨hk, h⟩))

end Params

/-- What a step keeps of the made-up names of a query whose parameters were `old` when its
counter stood at `start`, said of the counter and parameters it leaves. -/
structure NamesFrom (start : Nat) (old : List (String × Value)) (counter : Nat)
    (ps : List (String × Value)) : Prop where
  start_le : start ≤ counter
  below : ∀ n v, (paramName n, v) ∈ ps → n < counter
  unique : ∀ n v w, (paramName n, v) ∈ ps → (paramName n, w) ∈ ps → v = w
  kept : ∀ n < start, ∀ v, (paramName n, v) ∈ ps ↔ (paramName n, v) ∈ old

namespace NamesFrom

variable {start c c' : Nat} {old ps qs : List (String × Value)} {k : String} {v : Value}

theorem empty (c : Nat) : NamesFrom c [] c [] :=
  ⟨le_refl c, by simp, by simp, fun _ _ _ => Iff.rfl⟩

theorem mono (h : NamesFrom start old c ps) (hc : c ≤ c') : NamesFrom start old c' ps :=
  ⟨h.start_le.trans hc, fun n v hn => (h.below n v hn).trans_le hc, h.unique, h.kept⟩

theorem congr (h : NamesFrom start old c ps)
    (he : ∀ n v, (paramName n, v) ∈ qs ↔ (paramName n, v) ∈ ps) :
    NamesFrom start old c qs := by
  refine ⟨h.start_le, ?_, ?_, ?_⟩
  · intro n w hw; exact h.below n w ((he n w).mp hw)
  · intro n w₁ w₂ h₁ h₂; exact h.unique n w₁ w₂ ((he n w₁).mp h₁) ((he n w₂).mp h₂)
  · intro n hn w; rw [he]; exact h.kept n hn w

theorem setParam (h : NamesFrom start old c ps) (hk : ¬MadeUp k) :
    NamesFrom start old c (EntitySql.setParam ps k v) :=
  h.congr fun n w => by
    have hne : paramName n ≠ k := fun he => hk ⟨n, he⟩
    simp [mem_setParam, hne]

theorem mergeParams (h : NamesFrom start old c ps) (hk : ∀ k v, (k, v) ∈ qs → ¬MadeUp k) :
    NamesFrom start old c (EntitySql.mergeParams ps qs) :=
  h.congr fun n _ => mem_mergeParams_of_not_key fun _ hw => hk _ _ hw ⟨n, rfl⟩

theorem filter (h : NamesFrom start old c ps) {f : String × Value → Bool}
    (hf : ∀ n v, f (paramName n, v) = true) : NamesFrom start old c (ps.filter f) :=
  h.congr fun n w => by simp [List.mem_filter, hf]

theorem bind (h : NamesFrom start old c ps) :
    NamesFrom start old (c + 1) (EntitySql.setParam ps (paramName c) v) := by
  refine ⟨by have := h.start_le; omega, ?_, ?_, ?_⟩
  · intro n w hw
    rcases mem_setParam.mp hw with ⟨he, -⟩ | ⟨-, hw⟩
    · rw [paramName_injective.eq_iff.mp he]; omega
    · have := h.below n w hw; omega
  · intro n w₁ w₂ h₁ h₂
    rcases mem_setParam.mp h₁ with ⟨he₁, rfl⟩ | ⟨hn₁, h₁⟩ <;>
      rcases mem_setParam.mp h₂ with ⟨he₂, rfl⟩ | ⟨hn₂, h₂⟩
    · rfl
    · exact absurd he₁ hn₂
    · exact absurd he₂ hn₁
    · exact h.unique n w₁ w₂ h₁ h₂
  · intro n hn w
    have hne : paramName n ≠ paramName c := fun he => by
      have := paramName_injective he; have := h.start_le; omega
    simp only [mem_setParam, hne, false_and, ne_eq, not_false_eq_true, true_and, false_or]
    exact h.kept n hn w

theorem merge (h : NamesFrom start old c ps) (hq : NamesFrom c [] c' qs) :
    NamesFrom start old c' (EntitySql.mergeParams ps qs) := by
  have hqlow : ∀ n w, n < c → (paramName n, w) ∉ qs := fun n w hn hw => by
    simpa using (hq.kept n hn w).mp hw
  have hlow : ∀ n w, n < c →
      ((paramName n, w) ∈ EntitySql.mergeParams ps qs ↔ (paramName n, w) ∈ ps) :=
    fun n w hn => mem_mergeParams_of_not_key fun w' => hqlow n w' hn
  refine ⟨h.start_le.trans hq.start_le, ?_, ?_, ?_⟩
  · intro n w hw
    rcases mem_mergeParams hw with hw | hw
    · exact (h.below n w hw).trans_le hq.start_le
    · exact hq.below n w hw
  · intro n w₁ w₂ h₁ h₂
    by_cases hn : n < c
    · exact h.unique n w₁ w₂ ((hlow n w₁ hn).mp h₁) ((hlow n w₂ hn).mp h₂)
    · have hps : ∀ w, (paramName n, w) ∉ ps := fun w hw => hn (h.below n w hw)
      have hq₁ := (mem_mergeParams h₁).resolve_left (hps w₁)
      have hq₂ := (mem_mergeParams h₂).resolve_left (hps w₂)
      exact hq.unique n w₁ w₂ hq₁ hq₂
  · intro n hn w
    rw [hlow n w (lt_of_lt_of_le hn h.start_le)]
    exact h.kept n hn w

end NamesFrom

def RawCondition.NoMadeUpNames (rc : RawCondition) : Prop := ∀ k v, (k, v) ∈ rc.params → ¬MadeUp k

/-- A condition whose raw parts, in bracket groups too, set none of the made-up names. -/
inductive WhereInput.NoMadeUpNames : WhereInput → Prop
  | raw {rc : RawCondition} : rc.NoMadeUpNames → NoMadeUpNames (.raw rc)
  | find {f : FindWhere} : NoMadeUpNames (.find f)
  | anyOf {fs : List FindWhere} : NoMadeUpNames (.anyOf fs)
  | brackets {calls : List WhereCall} {negate : Bool} :
      (∀ k input, .inl (k, input) ∈ calls → NoMadeUpNames input) →
        NoMadeUpNames (.brackets calls negate)

namespace QueryM

variable {α β : Type} (start : Nat) (old : List (String × Value))

/-- Run from a state that keeps the made-up names counted from `start`, the step ends in one that
keeps them, whether it returns or throws. -/
abbrev KeepsNames (x : QueryM α) : Prop :=
  ⦃fun s => ⌜NamesFrom start old s.counter s.parameters⌝⦄ x
    ⦃post⟨fun _ s => ⌜NamesFrom start old s.counter s.parameters⌝,
      fun _ s => ⌜NamesFrom start old s.counter s.parameters⌝⟩⦄

variable {start old}

theorem KeepsNames.run {x : QueryM α} (hx : KeepsNames start old x) {s : QueryState}
    (hs : NamesFrom start old s.counter s.parameters) :
    NamesFrom start old (x.run.run s).2.counter (x.run.run s).2.parameters := by
  refine @StateM.of_wp_run_eq _ _ _ s x.run rfl
    (fun p => NamesFrom start old p.2.counter p.2.parameters) ?_
  simp only [WP.ExceptT_run]
  exact fun _ => hx s hs

@[spec 1100, simp] theorem record_keepsNames {x : QueryM α} (hx : KeepsNames start old x) :
    KeepsNames start old (record x) := by
  unfold record
  mvcgen [hx]
  all_goals simp_all +zetaDelta

@[spec 1100, simp] theorem mapM_keepsNames {f : β → QueryM α}
    (hf : ∀ b, KeepsNames start old (f b)) : ∀ l : List β, KeepsNames start old (l.mapM f)
  | [] => by
    rw [List.mapM_nil]
    mvcgen
  | b :: l => by
    have hb := hf b
    have hl := mapM_keepsNames hf l
    rw [List.mapM_cons]
    mvcgen [hb, hl, -mapM_keepsFailure]

variable (start old)

@[simp] theorem modify_keepsNames {f : QueryState → QueryState}
    (hf : ∀ s, (f s).counter = s.counter ∧ (f s).parameters = s.parameters) :
    KeepsNames start old (modify f) := by
  mvcgen
  simp_all +zetaDelta

@[spec 1100, simp] theorem lift_keepsNames (r : OrmResult α) : KeepsNames start old (lift r) := by
  unfold lift
  mvcgen

@[spec 1100, simp] theorem nextParameterName_keepsNames :
    KeepsNames start old nextParameterName := by
  unfold nextParameterName
  mvcgen
  simp_all +zetaDelta
  exact ‹NamesFrom _ _ _ _›.mono (Nat.le_succ _)

@[spec 1100, simp] theorem bindValue_keepsNames (v : Value) : KeepsNames start old (bindValue v) := by
  unfold bindValue nextParameterName
  mvcgen
  simp_all +zetaDelta
  exact ‹NamesFrom _ _ _ _›.bind

theorem setParameter_keepsNames {name : String} (h : ¬MadeUp name) (v : Value) :
    KeepsNames start old (setParameter name v) := by
  unfold setParameter
  mvcgen
  simp_all +zetaDelta
  exact ‹NamesFrom _ _ _ _›.setParam h

theorem mergeParameters_keepsNames {ps : List (String × Value)}
    (h : ∀ k v, (k, v) ∈ ps → ¬MadeUp k) : KeepsNames start old (mergeParameters ps) := by
  unfold mergeParameters
  mvcgen
  simp_all +zetaDelta
  exact ‹NamesFrom _ _ _ _›.mergeParams h

@[spec 1100, simp] theorem mainAlias_keepsNames : KeepsNames start old mainAlias := by
  unfold mainAlias
  mvcgen

@[spec 1100, simp] theorem createAlias_keepsNames (spec : AliasSpec) :
    KeepsNames start old (createAlias spec) := by
  unfold createAlias
  mvcgen

@[spec 1100, simp] theorem setMainAlias_keepsNames (name : String) :
    KeepsNames start old (setMainAlias name) := by
  unfold setMainAlias
  mvcgen

end QueryM

open QueryM

theorem NamesFrom.derived {x : QueryM Unit} (hx : ∀ start old, KeepsNames start old x)
    {t : QueryState} (ht : t.parameters = []) :
    NamesFrom t.counter [] (x.run.run t).2.counter (x.run.run t).2.parameters :=
  (hx t.counter []).run (by rw [ht]; exact NamesFrom.empty t.counter)

variable (start : Nat) (old : List (String × Value))

@[spec 1100, simp] theorem registerSource_keepsNames (reg : Registry) (target : String)
    (name : Option String) : KeepsNames start old (registerSource reg target name) := by
  have hset := setParameter_keepsNames start old not_madeUp_discriminatorColumnValues
  unfold registerSource
  mvcgen [hset, -setParameter_keepsFailure]

@[spec 1100, simp] theorem registerMain_keepsNames (reg : Registry) (target : String)
    (name : Option String) : KeepsNames start old (registerMain reg target name) := by
  unfold registerMain
  mvcgen

namespace Op

mutual

@[spec 1100, simp] theorem bind_keepsNames (column : Option Column) :
    (op : Op) → KeepsNames start old (bind column op)
  | .not inner => by
    have ih := bind_keepsNames column inner
    unfold bind
    mvcgen [ih, -bind_keepsFailure]
  | .and ops | .or ops => by
    have ih := bindAll_keepsNames column ops
    unfold bind
    mvcgen [ih, -bindAll_keepsFailure]
  | .raw _ params => by
    have hparams := mapM_keepsNames (bindValue_keepsNames start old) params
    unfold bind
    mvcgen [hparams, -mapM_keepsFailure]
  | .eq _ | .ne _ | .gt _ | .gte _ | .lt _ | .lte _ | .like _ | .ilike _ | .inList []
  | .inList (_ :: _) | .between _ _ | .isNull | .any _ | .arrayContains _ | .arrayContainedBy _
  | .arrayOverlap _ => by
    unfold bind
    mvcgen

@[spec 1100, simp] theorem bindAll_keepsNames (column : Option Column) :
    (ops : List Op) → KeepsNames start old (bindAll column ops)
  | [] => by
    unfold bindAll
    mvcgen
  | op :: rest => by
    have hop := bind_keepsNames column op
    have hrest := bindAll_keepsNames column rest
    unfold bindAll
    mvcgen [hop, hrest, -bind_keepsFailure, -bindAll_keepsFailure]

end

end Op

@[spec 1100, simp] theorem predicate_keepsNames (aliasName column : String) (known : Option Column)
    (op : Op) : KeepsNames start old (predicate aliasName column known op) := by
  unfold predicate
  mvcgen

@[spec 1100, simp] theorem lowerColumn_keepsNames (aliasName : String) (ent : Entity) (path : String)
    (op : Op) : KeepsNames start old (lowerColumn aliasName ent path op) := by
  unfold lowerColumn
  mvcgen

@[spec 1100, simp] theorem lowerJoinKeys_keepsNames (aliasName : String) (ent : Entity)
    (path : String) :
    (entries : List (String × FindValue)) → KeepsNames start old (lowerJoinKeys aliasName ent path entries)
  | [] => by
    unfold lowerJoinKeys
    mvcgen
  | _ :: rest => by
    have hrest := lowerJoinKeys_keepsNames aliasName ent path rest
    unfold lowerJoinKeys
    mvcgen [hrest, -lowerJoinKeys_keepsFailure]

@[spec 1100, simp] theorem resolveFindWhere_keepsNames (aliasName : String) (f : FindWhere) :
    KeepsNames start old (resolveFindWhere aliasName f) := by
  refine resolveFindWhere.induct (fun a f => KeepsNames start old (resolveFindWhere a f))
    (fun a known pre entries => KeepsNames start old (lowerEntries a known pre entries))
    (fun a known path v => KeepsNames start old (lowerEntry a known path v))
    ?resolve ?nil ?cons ?unknown ?joined ?embedded ?value ?valueOf ?op ?opOf aliasName f
  case resolve =>
    intro a f hentries
    unfold resolveFindWhere
    mvcgen [hentries]
  case nil =>
    intro _ _ _
    unfold lowerEntries
    mvcgen
  case cons =>
    intro _ _ _ _ _ _ hfirst hrest
    unfold lowerEntries
    mvcgen [hfirst, hrest]
  case unknown =>
    intro _ _ _
    unfold lowerEntry
    mvcgen
  case joined =>
    intro _ _ _ _ _ hrel hjoin
    unfold lowerEntry
    mvcgen [hrel, hjoin, -resolveFindWhere_keepsFailure]
  case embedded =>
    intro _ _ _ _ hrel hinner
    unfold lowerEntry
    mvcgen [hrel, hinner]
  case value =>
    intro _ _ _
    unfold lowerEntry
    mvcgen
  case valueOf =>
    intro _ _ _ _
    unfold lowerEntry
    mvcgen
  case op =>
    intro _ _ _
    unfold lowerEntry
    mvcgen
  case opOf =>
    intro _ _ _ _
    unfold lowerEntry
    mvcgen

@[spec 1100, simp] theorem whereIdsCondition_keepsNames (ids : List Json) :
    KeepsNames start old (whereIdsCondition ids) := by
  unfold whereIdsCondition
  mvcgen

@[spec 1100, simp] theorem pushWhere_keepsNames (k : Connective) {step : QueryM Condition}
    (hstep : KeepsNames start old step) : KeepsNames start old (pushWhere k step) := by
  unfold pushWhere
  mvcgen [hstep]

theorem applyWhereCalls_keepsNames {calls : List WhereCall}
    (h : ∀ k input, .inl (k, input) ∈ calls →
      ∀ start old, KeepsNames start old (lowerCondition input)) :
    KeepsNames start old (applyWhereCalls calls) := by
  induction calls generalizing start old with
  | nil =>
    unfold applyWhereCalls
    mvcgen
  | cons call rest ih =>
    have hrest := ih start old (fun k input hk => h k input (List.mem_cons_of_mem _ hk))
    rcases call with ⟨k, input⟩ | ⟨k, ids⟩
    · have hinput := h k input List.mem_cons_self start old
      unfold applyWhereCalls
      mvcgen [hinput, hrest, -lowerCondition_keepsFailure, -applyWhereCalls_keepsFailure]
    · unfold applyWhereCalls
      mvcgen [hrest, -applyWhereCalls_keepsFailure]

theorem lowerCondition_keepsNames {input : WhereInput} (h : input.NoMadeUpNames) :
    KeepsNames start old (lowerCondition input) := by
  induction h generalizing start old with
  | raw hrc =>
    have hmerge := mergeParameters_keepsNames start old hrc
    unfold lowerCondition
    mvcgen [hmerge, -mergeParameters_keepsFailure]
  | find =>
    unfold lowerCondition
    mvcgen
  | anyOf =>
    unfold lowerCondition
    mvcgen
  | brackets _ ih =>
    have hcalls := fun st o => applyWhereCalls_keepsNames st o (fun k input hk => ih k input hk)
    unfold lowerCondition
    mvcgen
    all_goals exact ‹NamesFrom _ _ _ _›.merge (NamesFrom.derived hcalls rfl)

theorem applyWhereCall_keepsNames {k : Connective} {input : WhereInput} (h : input.NoMadeUpNames) :
    KeepsNames start old (applyWhereCall (.inl (k, input))) :=
  applyWhereCalls_keepsNames start old fun _ _ hk st o => by
    simp only [List.mem_singleton, Sum.inl.injEq, Prod.mk.injEq] at hk
    exact hk.2 ▸ lowerCondition_keepsNames st o h

@[spec 1100, simp] theorem applyWhereCall_ids_keepsNames (k : Connective) (ids : List Json) :
    KeepsNames start old (applyWhereCall (.inr (k, ids))) :=
  applyWhereCalls_keepsNames start old fun _ _ hk => by simp at hk

namespace Select

@[spec 1100, simp] theorem select_keepsNames (items : List String) :
    KeepsNames start old (select items) := by
  unfold select
  mvcgen

@[spec 1100, simp] theorem addSelect_keepsNames (item : String) :
    KeepsNames start old (addSelect item) := by
  unfold addSelect
  mvcgen

@[spec 1100, simp] theorem addSelectAs_keepsNames (item label : String) :
    KeepsNames start old (addSelectAs item label) := by
  unfold addSelectAs
  mvcgen

@[spec 1100, simp] theorem distinct_keepsNames (on : Bool) : KeepsNames start old (distinct on) := by
  unfold distinct
  mvcgen

@[spec 1100, simp] theorem from_keepsNames (reg : Registry) (target name : String) :
    KeepsNames start old (Select.from reg target name) := by
  unfold Select.from
  mvcgen

@[spec 1100, simp] theorem addFrom_keepsNames (reg : Registry) (target name : String) :
    KeepsNames start old (addFrom reg target name) := by
  unfold addFrom
  mvcgen

theorem buildSubQuery_keepsNames (reg : Registry) {build : QueryM Unit}
    (hb : ∀ start old, KeepsNames start old build) :
    KeepsNames start old (buildSubQuery reg build) := by
  simp only [buildSubQuery, lift, mergeParameters]
  mvcgen
  · exact ‹NamesFrom _ _ _ _›.merge (NamesFrom.derived hb rfl)
  · exact ‹NamesFrom _ _ _ _›.mono (NamesFrom.derived hb rfl).start_le

theorem fromSubQuery_keepsNames (reg : Registry) {build : QueryM Unit}
    (hb : ∀ start old, KeepsNames start old build) (name : String) :
    KeepsNames start old (fromSubQuery reg build name) := by
  have hsub := buildSubQuery_keepsNames start old reg hb
  unfold fromSubQuery
  mvcgen [hsub, -buildSubQuery_keepsFailure]

theorem tryJoin_keepsNames (reg : Registry) (direction : JoinDirection)
    (target name : String) {condition : Option RawCondition} (hc : ∀ rc ∈ condition, rc.NoMadeUpNames)
    (selected : Bool) (mapTo : Option (String × Bool)) :
    KeepsNames start old (tryJoin reg direction target name condition selected mapTo) := by
  cases condition with
  | none =>
    unfold tryJoin
    mvcgen
  | some rc =>
    have hcond := lowerCondition_keepsNames start old (.raw (hc rc rfl))
    unfold tryJoin
    mvcgen [hcond, -lowerCondition_keepsFailure]

theorem join_keepsNames (reg : Registry) (direction : JoinDirection)
    (target name : String) {condition : Option RawCondition} (hc : ∀ rc ∈ condition, rc.NoMadeUpNames)
    (selected : Bool) (mapTo : Option (String × Bool)) :
    KeepsNames start old (join reg direction target name condition selected mapTo) := by
  have htry := tryJoin_keepsNames start old reg direction target name hc selected mapTo
  unfold join
  mvcgen [htry, -tryJoin_keepsFailure]

theorem leftJoinSubQuery_keepsNames (reg : Registry) {build : QueryM Unit}
    (hb : ∀ start old, KeepsNames start old build) (name : String) {condition : RawCondition}
    (hc : condition.NoMadeUpNames) :
    KeepsNames start old (leftJoinSubQuery reg build name condition) := by
  have hsub := buildSubQuery_keepsNames start old reg hb
  have hcond := lowerCondition_keepsNames start old (.raw hc)
  unfold leftJoinSubQuery
  mvcgen [hsub, hcond, -buildSubQuery_keepsFailure, -lowerCondition_keepsFailure]

theorem having_keepsNames (k : Connective) {input : WhereInput} (h : input.NoMadeUpNames) :
    KeepsNames start old (having k input) := by
  have hcond := lowerCondition_keepsNames start old h
  unfold having
  mvcgen [hcond, -lowerCondition_keepsFailure]

@[spec 1100, simp] theorem groupBy_keepsNames (ex : String) : KeepsNames start old (groupBy ex) := by
  unfold groupBy
  mvcgen

@[spec 1100, simp] theorem addGroupBy_keepsNames (ex : String) :
    KeepsNames start old (addGroupBy ex) := by
  unfold addGroupBy
  mvcgen

@[spec 1100, simp] theorem orderBy_keepsNames (o : Ordering) : KeepsNames start old (orderBy o) := by
  unfold orderBy
  mvcgen

@[spec 1100, simp] theorem addOrderBy_keepsNames (o : Ordering) :
    KeepsNames start old (addOrderBy o) := by
  unfold addOrderBy
  mvcgen

@[spec 1100, simp] theorem relationAttribute_keepsNames (mapTo relation : String) :
    KeepsNames start old (relationAttribute mapTo relation) := by
  unfold relationAttribute
  mvcgen

@[spec 1100, simp] theorem loadRelationIds_keepsNames (mapTo relation : String) :
    KeepsNames start old (loadRelationIds mapTo relation) := by
  unfold loadRelationIds
  mvcgen

@[spec 1100, simp] theorem loadRelationCount_keepsNames (mapTo relation : String) :
    KeepsNames start old (loadRelationCount mapTo relation) := by
  unfold loadRelationCount
  mvcgen

end Select

namespace Insert

@[spec 1100, simp] theorem bindCells_keepsNames : KeepsNames start old bindCells := by
  simp only [bindCells, mergeParameters]
  mvcgen
  case vc2 => exact ‹NamesFrom _ _ _ _›.filter fun n v => by simp [paramName, String.isPrefixOf]
  case vc3 =>
    refine ‹NamesFrom _ _ _ _›.mergeParams fun k v hk => ?_
    simp only [List.mem_flatMap, List.mem_filterMap, Option.map_eq_some_iff, Prod.mk.injEq] at hk
    obtain ⟨_, -, _, -, _, -, rfl, -⟩ := hk
    exact not_madeUp_insertParameter _ _

@[spec 1100, simp] theorem bindValues_keepsNames : KeepsNames start old bindValues := by
  unfold bindValues
  mvcgen

@[spec 1100, simp] theorem intoTable_keepsNames (reg : Registry) (target : String) :
    KeepsNames start old (intoTable reg target) := by
  unfold intoTable
  mvcgen

@[spec 1100, simp] theorem values_keepsNames (rows : List Fields) :
    KeepsNames start old (values rows) := by
  unfold values
  mvcgen

@[spec 1100, simp] theorem orIgnore_keepsNames : KeepsNames start old orIgnore := by
  unfold orIgnore
  mvcgen

@[spec 1100, simp] theorem onConflict_keepsNames (statement : String) :
    KeepsNames start old (onConflict statement) := by
  unfold onConflict
  mvcgen

@[spec 1100, simp] theorem orUpdate_keepsNames (u : Upsert) : KeepsNames start old (orUpdate u) := by
  unfold orUpdate
  mvcgen

end Insert

namespace Update

@[spec 1100, simp] theorem bindAssignments_keepsNames : KeepsNames start old bindAssignments := by
  have hkeep : ∀ n v,
      (fun x : String × Value => !"orm_update_".isPrefixOf x.1) (paramName n, v) = true :=
    fun n v => by simp [paramName, String.isPrefixOf]
  have hnames : ∀ (l : List ((String × Value) × Nat)) k v,
      (k, v) ∈ (l.map fun x => (x.1.1, updateParameter x.2, x.1.2)).map (fun x => (x.2.1, x.2.2)) →
        ¬MadeUp k := by
    intro l k v hk
    simp only [List.map_map, List.mem_map, Function.comp_apply, Prod.mk.injEq] at hk
    obtain ⟨_, -, rfl, -⟩ := hk
    exact not_madeUp_updateParameter _
  simp only [bindAssignments, mergeParameters]
  mvcgen
  case vc3 => exact ‹NamesFrom _ _ _ _›.filter hkeep
  case vc4 => exact ‹NamesFrom _ _ _ _›.mergeParams (hnames _)
  case vc5 => exact (‹NamesFrom _ _ _ _›.filter hkeep).mergeParams (hnames _)

@[spec 1100, simp] theorem set_keepsNames (values : Fields) :
    KeepsNames start old (Update.set values) := by
  unfold Update.set
  mvcgen

@[spec 1100, simp] theorem targetColumns_keepsNames (property : String) :
    KeepsNames start old (targetColumns property) := by
  unfold targetColumns
  mvcgen

@[spec 1100, simp] theorem setRaw_keepsNames (property sql : String) :
    KeepsNames start old (setRaw property sql) := by
  unfold setRaw
  mvcgen

@[spec 1100, simp] theorem whereEntity_keepsNames (entities : List Fields) :
    KeepsNames start old (whereEntity entities) := by
  unfold whereEntity
  mvcgen

end Update

namespace Builder

@[spec 1100, simp] theorem deleteFrom_keepsNames (reg : Registry) (target : String) :
    KeepsNames start old (deleteFrom reg target) := by
  unfold deleteFrom
  mvcgen

@[spec 1100, simp] theorem convert_keepsNames (k : QueryKind) : KeepsNames start old (convert k) := by
  unfold convert
  mvcgen

@[spec 1100, simp] theorem toUpdate_keepsNames (values : Fields) :
    KeepsNames start old (toUpdate values) := by
  unfold toUpdate
  mvcgen

@[spec 1100, simp] theorem toRelation_keepsNames (property : String) :
    KeepsNames start old (toRelation property) := by
  unfold toRelation
  mvcgen

theorem subQueryWhere_keepsNames (reg : Registry) (template : String) {build : QueryM Unit}
    (hb : ∀ start old, KeepsNames start old build) (k : Connective) :
    KeepsNames start old (subQueryWhere reg template build k) := by
  simp only [subQueryWhere, lift, mergeParameters, applyWhereCall, applyWhereCalls, pushWhere,
    lowerCondition, record]
  mvcgen
  · exact ‹NamesFrom _ _ _ _›.merge (NamesFrom.derived hb rfl)
  · exact ‹NamesFrom _ _ _ _›.merge (NamesFrom.derived hb rfl)
  · exact ‹NamesFrom _ _ _ _›.mono (NamesFrom.derived hb rfl).start_le

end Builder

@[spec 1100, simp] theorem RelationQuery.of_keepsNames (entities : Json) :
    KeepsNames start old (RelationQuery.of entities) := by
  unfold RelationQuery.of
  mvcgen

end EntitySql
