import EntitySql.Proofs.Query.Paging
import EntitySql.Proofs.Builder.FreshNames
import EntitySql.Proofs.Hydration.Grouping
import EntitySql.Proofs.Builder.SharedCounter
import EntitySql.Proofs.Schema.Paths

/-!
# The condition on the ids of entities

A WHERE call may give the ids of entities in place of a condition: bare values for an entity
whose key is one column, objects holding the values of the primary columns otherwise. The builder
turns each id into an id map, keyed by the property paths of the primary columns, and fails with
`EntityIdMissing` when one cannot be made (`Entity.ensureIdMap?_eq_none_iff`): for a null id, an
object without a value for some primary column, a bare value for an entity whose key is not one
column, and any id of an entity without primary columns.

Otherwise the condition compares the primary columns with the keys of the ids, as the dialect
stores them. A single key column is compared with a list: the keys written as numeric literals
when every key has one, else one bound array parameter. A composite key is an `OR` of one `AND`
per id, each column compared with a parameter of its own. With the parameters as bound and each
literal read as the integer it spells, the condition holds for a row exactly when its primary key
is that of one of the ids, and for no row when there are no ids (`whereIds_matchesKeys`). An
integer key is written as exactly that integer (`Sql.intLiteral?_toString`); a float key is
written as the float's shortest decimal, which need not spell its value.
-/

namespace EntitySql

/-! ## Id maps -/

namespace Column

/-- The value an id gives a primary column: the column's value in an id object (null when it has
none), or the bare value itself. -/
def idValue (c : Column) : Json → Json
  | .obj fields => (c.getValue? fields).getD .null
  | v => v

def idKey (c : Column) (d : Dialect) (id : Json) : Value := d.toStored c.type (c.idValue id)

def mapKey (c : Column) (d : Dialect) (m : Fields) : Value :=
  d.toStored c.type ((Json.findField? c.propertyPath m).getD .null)

theorem idValue_bare (c : Column) {id : Json} (hobj : ∀ fields, id ≠ .obj fields) :
    c.idValue id = id := by
  cases id with
  | obj fields => exact absurd rfl (hobj fields)
  | _ => rfl

end Column

namespace Entity

def Lacks (fields : Fields) (c : Column) : Prop := ∀ v, c.getValue? fields = some v → v.isNull = true

/-- An id that names no row: null; an object without a value for some primary column; a bare
value for an entity whose key is not one column; or any id of an entity without primary
columns. -/
def IdIncomplete (e : Entity) (id : Json) : Prop :=
  id = .null ∨ e.primaryColumns = [] ∨
    (∃ fields, id = .obj fields ∧ ∃ c ∈ e.primaryColumns, Lacks fields c) ∨
    ((∀ fields, id ≠ .obj fields) ∧ 2 ≤ e.primaryColumns.length)

/-- One step of making the id map of an object: the value of a primary column added under its
property path, while every column so far has a value that is not null. -/
def idStep (fields : Fields) (acc : Option Fields) (c : Column) : Option Fields :=
  acc.bind fun ids =>
    match c.getValue? fields with
    | some v => if v.isNull then none else some (Json.insertField c.propertyPath v ids)
    | none => none

theorem idMap?_eq (e : Entity) (fields : Fields) :
    e.idMap? fields = match e.primaryColumns.foldl (idStep fields) (some []) with
      | some [] => none
      | other => other := rfl

section IdStep

variable {fields : Fields}

theorem foldl_idStep_none (cs : List Column) : cs.foldl (idStep fields) none = none := by
  induction cs with
  | nil => rfl
  | cons c cs ih => exact ih

theorem idStep_some (ids : Fields) (c : Column) :
    idStep fields (some ids) c = none ∨
      ∃ v, c.getValue? fields = some v ∧ v.isNull = false ∧
        idStep fields (some ids) c = some (Json.insertField c.propertyPath v ids) := by
  unfold idStep
  cases hv : c.getValue? fields with
  | none => simp
  | some v => cases hn : v.isNull <;> simp [hn]

theorem foldl_idStep_eq_none_iff :
    ∀ (cs : List Column) (acc : Option Fields), cs.foldl (idStep fields) acc = none ↔
      acc = none ∨ ∃ c ∈ cs, Lacks fields c
  | [], acc => by simp
  | c :: cs, none => by
    rw [List.foldl_cons, show idStep fields none c = none from rfl, foldl_idStep_none]
    simp
  | c :: cs, some ids => by
    rw [List.foldl_cons, foldl_idStep_eq_none_iff cs]
    unfold idStep Lacks
    cases hv : c.getValue? fields with
    | none => simp [hv]
    | some v => cases hn : v.isNull <;> simp [hn, hv]

theorem foldl_idStep_ne_nil :
    ∀ (cs : List Column) (ids m : Fields), cs.foldl (idStep fields) (some ids) = some m →
      m = [] → cs = [] ∧ ids = []
  | [], ids, m, h, hm => by
    simp only [List.foldl_nil, Option.some.injEq] at h
    exact ⟨rfl, h.trans hm⟩
  | c :: cs, ids, m, h, hm => by
    rw [List.foldl_cons] at h
    rcases idStep_some ids c with hnone | ⟨v, -, -, hstep⟩
    · rw [hnone, foldl_idStep_none] at h
      cases h
    · rw [hstep] at h
      exact absurd (foldl_idStep_ne_nil cs _ m h hm).2 (Json.insertField_ne_nil _ _ _)

theorem findField?_foldl_idStep_of_not_mem :
    ∀ (cs : List Column) (ids m : Fields), cs.foldl (idStep fields) (some ids) = some m →
      ∀ k, k ∉ cs.map (·.propertyPath) → Json.findField? k m = Json.findField? k ids
  | [], ids, m, h, k, _ => by
    simp only [List.foldl_nil, Option.some.injEq] at h
    rw [h]
  | c :: cs, ids, m, h, k, hk => by
    rw [List.foldl_cons] at h
    rw [List.map_cons, List.mem_cons, not_or] at hk
    rcases idStep_some ids c with hnone | ⟨v, -, -, hstep⟩
    · rw [hnone, foldl_idStep_none] at h
      cases h
    · rw [hstep] at h
      rw [findField?_foldl_idStep_of_not_mem cs _ m h k hk.2, Json.findField?_insertField,
        if_neg hk.1]

theorem findField?_foldl_idStep :
    ∀ (cs : List Column) (ids m : Fields), cs.foldl (idStep fields) (some ids) = some m →
      (cs.map (·.propertyPath)).Nodup →
      ∀ c ∈ cs, ∃ v, c.getValue? fields = some v ∧ Json.findField? c.propertyPath m = some v
  | [], _, _, _, _, c, hc => absurd hc List.not_mem_nil
  | c₀ :: cs, ids, m, h, hnodup, c, hc => by
    rw [List.foldl_cons] at h
    rw [List.map_cons, List.nodup_cons] at hnodup
    rcases idStep_some ids c₀ with hnone | ⟨v, hv, -, hstep⟩
    · rw [hnone, foldl_idStep_none] at h
      cases h
    · rw [hstep] at h
      rcases List.mem_cons.1 hc with rfl | hc
      · -- the column's own value, which no later column overwrites
        refine ⟨v, hv, ?_⟩
        rw [findField?_foldl_idStep_of_not_mem cs _ m h _ hnodup.1, Json.findField?_insertField,
          if_pos rfl]
      · exact findField?_foldl_idStep cs _ m h hnodup.2 c hc

end IdStep

theorem idMap?_eq_none_iff (e : Entity) (fields : Fields) :
    e.idMap? fields = none ↔ e.primaryColumns = [] ∨ ∃ c ∈ e.primaryColumns, Lacks fields c := by
  rw [idMap?_eq]
  cases h : e.primaryColumns.foldl (idStep fields) (some []) with
  | none =>
    have := (foldl_idStep_eq_none_iff _ _).1 h
    simp only [reduceCtorEq, false_or] at this
    simp [this]
  | some m =>
    have hlacks : ¬∃ c ∈ e.primaryColumns, Lacks fields c := fun hl => by
      have := (foldl_idStep_eq_none_iff e.primaryColumns (some [])).2 (.inr hl)
      rw [h] at this
      cases this
    cases m with
    | nil => simp [(foldl_idStep_ne_nil _ _ _ h rfl).1]
    | cons kv m =>
      have hne : e.primaryColumns ≠ [] := by
        intro hnil
        rw [hnil, List.foldl_nil] at h
        cases h
      simp [hlacks, hne]

theorem ensureIdMap?_bare (e : Entity) {id : Json} (hnull : id ≠ .null)
    (hobj : ∀ fields, id ≠ .obj fields) :
    e.ensureIdMap? id = match e.primaryColumns with
      | [c] => some [(c.propertyPath, id)]
      | _ => none := by
  cases id with
  | null => exact absurd rfl hnull
  | obj fields => exact absurd rfl (hobj fields)
  | _ => rfl

theorem ensureIdMap?_eq_none_iff (e : Entity) (id : Json) :
    e.ensureIdMap? id = none ↔ e.IdIncomplete id := by
  unfold IdIncomplete
  by_cases hnull : id = .null
  · subst hnull
    simp [ensureIdMap?]
  by_cases hobj : ∃ fields, id = .obj fields
  · obtain ⟨fields, rfl⟩ := hobj
    simp only [ensureIdMap?, idMap?_eq_none_iff, hnull, false_or]
    constructor
    · rintro (h | h)
      · exact .inl h
      · exact .inr (.inl ⟨fields, rfl, h⟩)
    · rintro (h | ⟨fields', hf, h⟩ | ⟨h, -⟩)
      · exact .inl h
      · cases hf
        exact .inr h
      · exact absurd rfl (h fields)
  · simp only [not_exists] at hobj
    rw [ensureIdMap?_bare e hnull hobj]
    match hp : e.primaryColumns with
    | [] => simp
    | [c] => simp [hnull, hobj]
    | c₁ :: c₂ :: cs => simp [hnull, hobj]

theorem findField?_ensureIdMap? {e : Entity}
    (hpaths : (e.primaryColumns.map (·.propertyPath)).Nodup) {id : Json} {m : Fields}
    (h : e.ensureIdMap? id = some m) {c : Column} (hc : c ∈ e.primaryColumns) :
    Json.findField? c.propertyPath m = some (c.idValue id) := by
  by_cases hnull : id = .null
  · subst hnull
    cases h
  by_cases hobj : ∃ fields, id = .obj fields
  · obtain ⟨fields, rfl⟩ := hobj
    have hm : e.primaryColumns.foldl (idStep fields) (some []) = some m := by
      simp only [ensureIdMap?, idMap?_eq] at h
      split at h
      · cases h
      · exact h
    obtain ⟨v, hv, hfind⟩ := findField?_foldl_idStep _ _ _ hm hpaths c hc
    rw [hfind, Column.idValue, hv]
    rfl
  · simp only [not_exists] at hobj
    rw [ensureIdMap?_bare e hnull hobj] at h
    obtain ⟨c₀, hp⟩ : ∃ c₀, e.primaryColumns = [c₀] := by
      split at h
      · exact ⟨_, ‹_›⟩
      · cases h
    rw [hp] at h hc
    rw [List.mem_singleton] at hc
    subst hc
    cases h
    rw [c.idValue_bare hobj]
    simp [Json.findField?]

theorem mapKey_eq_idKey {e : Entity} (hpaths : (e.primaryColumns.map (·.propertyPath)).Nodup)
    {id : Json} {m : Fields} (h : e.ensureIdMap? id = some m) (d : Dialect) {c : Column}
    (hc : c ∈ e.primaryColumns) : c.mapKey d m = c.idKey d id := by
  rw [Column.mapKey, findField?_ensureIdMap? hpaths h hc]
  rfl

theorem mapM_ensureIdMap?_eq_none_iff (e : Entity) (ids : List Json) :
    ids.mapM e.ensureIdMap? = none ↔ ∃ id ∈ ids, e.IdIncomplete id := by
  induction ids with
  | nil => simp
  | cons id ids ih =>
    have hcons : (∃ x ∈ id :: ids, e.IdIncomplete x) ↔
        e.IdIncomplete id ∨ ∃ x ∈ ids, e.IdIncomplete x := by simp
    rw [List.mapM_cons, hcons, ← ensureIdMap?_eq_none_iff, ← ih]
    cases e.ensureIdMap? id <;> cases ids.mapM e.ensureIdMap? <;> simp

end Entity

/-! ## The condition on ids -/

/-- The condition on the primary keys of id maps, once there is one: a single key column compared
with a list of literals or with a bound array, a composite key with one parameter per column of
each map. -/
def keysCondition (a : Alias) (e : Entity) (d : Dialect) (idMaps : List Fields) :
    QueryM Condition :=
  match e.primaryColumns with
  | [c] =>
    let values := idMaps.map (c.mapKey d)
    match values.mapM Value.numericLiteral? with
    | some literals => pure (.predicate (some a.name) c.databaseName (.inLiteral literals))
    | none => do
      let n ← QueryM.bindValue (.array values)
      pure (.predicate (some a.name) c.databaseName (.inList n))
  | primaries => do
    let alternatives ← idMaps.mapM fun m => do
      let keys ← primaries.mapM fun c => do
        let n ← QueryM.bindValue (c.mapKey d m)
        pure (Condition.predicate (some a.name) c.databaseName (.eq n))
      pure (Condition.and keys)
    pure (.or alternatives)

open QueryM in
theorem run_mapM_idMaps (e : Entity) (ids : List Json) (s : QueryState) :
    (ids.mapM fun id => (match e.ensureIdMap? id with
      | some m => pure m
      | none => throw (OrmError.entityIdMissing e.name) : QueryM Fields)).run.run s =
      match ids.mapM e.ensureIdMap? with
      | some maps => (.ok maps, s)
      | none => (.error (.entityIdMissing e.name), s) := by
  induction ids with
  | nil => rfl
  | cons id ids ih =>
    rw [List.mapM_cons, run_bind, List.mapM_cons]
    cases hid : e.ensureIdMap? id with
    | none => rfl
    | some m =>
      simp only [run_pure, run_bind, ih]
      cases ids.mapM e.ensureIdMap? <;> rfl

open QueryM in
theorem run_whereIdsCondition (s : QueryState) {a : Alias} {e : Entity}
    (ha : s.mainAlias = .ok a) (he : a.entity = some e) (ids : List Json) :
    (whereIdsCondition ids).run.run s = match ids.mapM e.ensureIdMap? with
      | none => (.error (.entityIdMissing e.name), s)
      | some [] => (.ok .never, s)
      | some maps => (keysCondition a e s.dialect maps).run.run s := by
  have hmeta : a.metadata = .ok e := by simp [Alias.metadata, he]
  simp only [whereIdsCondition, QueryM.mainAlias, run_bind, run_get, run_lift, ha, hmeta]
  erw [run_mapM_idMaps]
  cases ids.mapM e.ensureIdMap? with
  | none => rfl
  | some maps =>
    cases maps with
    | nil => rfl
    | cons m maps => rfl

/-! ## Names made up and kept -/

/-- A later state keeps the names made up before it: its counter has not gone back, and each
name numbered below the earlier counter has the value it had. It has the same clauses, and
every name that is not made up has the value it had. -/
structure KeepsMadeUp (t t' : QueryState) : Prop where
  counter_le : t.counter ≤ t'.counter
  lookup_eq : ∀ n < t.counter,
    t'.parameters.lookup (paramName n) = t.parameters.lookup (paramName n)
  wheres_eq : t'.wheres = t.wheres
  lookup_other : ∀ k, (∀ n, paramName n ≠ k) → t'.parameters.lookup k = t.parameters.lookup k

namespace KeepsMadeUp

variable {t₁ t₂ t₃ : QueryState}

theorem refl (t : QueryState) : KeepsMadeUp t t :=
  ⟨le_refl _, fun _ _ => rfl, rfl, fun _ _ => rfl⟩

theorem trans (h₁ : KeepsMadeUp t₁ t₂) (h₂ : KeepsMadeUp t₂ t₃) : KeepsMadeUp t₁ t₃ :=
  ⟨h₁.counter_le.trans h₂.counter_le, fun n hn =>
    (h₂.lookup_eq n (lt_of_lt_of_le hn h₁.counter_le)).trans (h₁.lookup_eq n hn),
    h₂.wheres_eq.trans h₁.wheres_eq, fun k hk => (h₂.lookup_other k hk).trans (h₁.lookup_other k hk)⟩

end KeepsMadeUp

namespace QueryM

theorem run_bindValue_keeps (v : Value) (t : QueryState) :
    ∃ t', (bindValue v).run.run t = (.ok (paramName t.counter), t') ∧ KeepsMadeUp t t' ∧
      t.counter < t'.counter ∧ t'.parameters.lookup (paramName t.counter) = some v := by
  refine ⟨_, bindValue_run v t, ⟨Nat.le_succ _, fun n hn => ?_, rfl, fun k hk => ?_⟩,
    Nat.lt_succ_self _, ?_⟩
  · rw [lookup_setParam, if_neg (paramName_injective.ne (Nat.ne_of_lt hn))]
  · rw [lookup_setParam, if_neg (hk t.counter).symm]
  · rw [lookup_setParam, if_pos rfl]

theorem run_mapM_keeps {α β : Type} {f : α → QueryM β} {R : α → β → QueryState → Prop}
    (hR : ∀ x y t t', R x y t → KeepsMadeUp t t' → R x y t') :
    ∀ xs : List α, (∀ x ∈ xs, ∀ t, ∃ y t', (f x).run.run t = (.ok y, t') ∧ KeepsMadeUp t t' ∧
      R x y t') →
      ∀ s, ∃ ys s', (xs.mapM f).run.run s = (.ok ys, s') ∧ KeepsMadeUp s s' ∧
        List.Forall₂ (fun x y => R x y s') xs ys
  | [], _, s => ⟨[], s, rfl, .refl s, .nil⟩
  | x :: xs, hf, s => by
    obtain ⟨y, t, hx, hst, hy⟩ := hf x List.mem_cons_self s
    obtain ⟨ys, s', hxs, hts, hys⟩ :=
      run_mapM_keeps hR xs (fun x' hx' => hf x' (List.mem_cons_of_mem x hx')) t
    refine ⟨y :: ys, s', ?_, hst.trans hts, .cons (hR x y t s' hy hts) hys⟩
    rw [List.mapM_cons, run_bind, hx]
    simp only [run_bind, hxs, run_pure]

end QueryM

/-! ## Integer literals -/

namespace Sql

def intLiteral? : List Char → Option Int
  | '-' :: ds => (natLiteral? ds).map fun n => -(n : Int)
  | ds => (natLiteral? ds).map fun n => (n : Int)

theorem intLiteral?_toString (n : Int) : intLiteral? (toString n).toList = some n := by
  cases n with
  | ofNat m =>
    rw [Hydration.toList_toString_ofNat]
    unfold intLiteral?
    split
    · -- the digits of a natural number hold no minus sign
      rename_i ds h
      exact absurd (h ▸ List.mem_cons_self) (Hydration.minus_not_mem_toDigits m)
    · rw [natLiteral?_toDigits]
      rfl
  | negSucc m =>
    rw [Hydration.toList_toString_negSucc, intLiteral?, natLiteral?_toDigits]
    rfl

end Sql

/-! ## What the condition on ids means -/

open Sql (ColumnRef Env Truth isName)

theorem map_eq_map_of_forall₂ {α β γ : Type} {R : α → β → Prop} {f : β → γ} {g : α → γ}
    (hfg : ∀ x y, R x y → f y = g x) : ∀ {xs : List α} {ys : List β}, List.Forall₂ R xs ys →
      ys.map f = xs.map g
  | _, _, .nil => rfl
  | _, _, .cons h hs => by
    rw [List.map_cons, List.map_cons, hfg _ _ h, map_eq_map_of_forall₂ hfg hs]

theorem forall_mem_of_forall₂ {α β : Type} {R : α → β → Prop} {P : β → Prop}
    (hR : ∀ x y, R x y → P y) : ∀ {xs : List α} {ys : List β}, List.Forall₂ R xs ys →
      ∀ y ∈ ys, P y
  | _, _, .nil => fun _ h => absurd h List.not_mem_nil
  | _, _, .cons h hs => fun y hy => by
    rcases List.mem_cons.1 hy with rfl | hy
    · exact hR _ _ h
    · exact forall_mem_of_forall₂ hR hs y hy

theorem forall₂_of_mapM_eq_some {α β : Type} {f : α → Option β} :
    ∀ {xs : List α} {ys : List β}, xs.mapM f = some ys →
      List.Forall₂ (fun x y => f x = some y) xs ys
  | [], ys, h => by
    cases h
    exact .nil
  | x :: xs, ys, h => by
    rw [List.mapM_cons] at h
    cases hx : f x with
    | none => simp [hx] at h
    | some y =>
      cases hxs : xs.mapM f with
      | none => simp [hx, hxs] at h
      | some ys' =>
        simp only [hx, hxs, Option.bind_eq_bind, Option.bind_some, Option.pure_def,
          Option.some.injEq] at h
        subst h
        exact .cons hx (forall₂_of_mapM_eq_some hxs)

theorem isName_paramName (n : Nat) : isName (paramName n).toList = true := by
  have hdigits : ∀ ch ∈ Nat.toDigits 10 n, Placeholder.isNameChar ch = true := by
    intro ch hch
    have hd : ch.isDigit = true := Nat.isDigit_of_mem_toDigits (by decide) (by decide) hch
    simp [Placeholder.isNameChar, Char.isAlphanum, hd]
  unfold paramName
  simp only [String.toList_append, Nat.toString_eq_repr, Nat.toList_repr]
  have hstart : "orm_param_".toList = 'o' :: "rm_param_".toList := by simp
  rw [hstart]
  simp only [List.cons_append, isName, Bool.and_eq_true, List.all_append]
  exact ⟨by decide, by decide, List.all_eq_true.2 hdigits⟩

theorem Condition.allStructured_iff (cs : List Condition) :
    Condition.allStructured cs = true ↔ ∀ c ∈ cs, c.isStructured = true := by
  induction cs with
  | nil => simp [Condition.allStructured]
  | cons c cs ih => simp [Condition.allStructured, ih]

/-- What a list of literals means for a column: that the column equals the integer one of them
spells; a literal that spells no integer is given no meaning. -/
def BoundOp.literalsHold (env : Env) (r : ColumnRef) (items : List String) : Truth :=
  Truth.any (items.map fun t => match Sql.intLiteral? t.toList with
    | some n => env.engine.test .eq (env.column r) (.int n)
    | none => .unknown)

def Condition.holdsWithLiterals (ctx : RenderContext) (env : Env) : Condition → Truth
  | .predicate q c (.inLiteral items) => BoundOp.literalsHold env (ctx.columnRef q c) items
  | cond => cond.holds ctx env

/-- Whether a row's primary key is that of one of the ids: each primary column, under the alias,
equal to the key the id gives it. -/
def Entity.keysMatch (e : Entity) (ctx : RenderContext) (env : Env) (aliasName : String)
    (d : Dialect) (ids : List Json) : Truth :=
  Truth.any (ids.map fun id => Truth.all (e.primaryColumns.map fun c =>
    env.engine.test .eq (env.column (ctx.columnRef (some aliasName) c.databaseName))
      (c.idKey d id)))

def Sql.Env.Binds (env : Env) (t : QueryState) : Prop :=
  ∀ k v, t.parameters.lookup k = some v → env.param k = v

theorem literalsHold_keys (env : Env) (r : ColumnRef) {values : List Value}
    {literals : List String} (h : values.mapM Value.numericLiteral? = some literals)
    (hint : ∀ v ∈ values, ∀ x, v ≠ .float x) :
    BoundOp.literalsHold env r literals =
      Truth.any (values.map (env.engine.test .eq (env.column r))) := by
  have hpairs := (List.forall₂_and_left (p := fun v => ∀ x, v ≠ .float x) _ _).2
    ⟨hint, forall₂_of_mapM_eq_some h⟩
  rw [BoundOp.literalsHold]
  congr 1
  refine map_eq_map_of_forall₂ (fun v t hvt => ?_) hpairs
  obtain ⟨hfloat, hv⟩ := hvt
  cases v with
  | int n =>
    simp only [Value.numericLiteral?, Option.some.injEq] at hv
    subst hv
    rw [Sql.intLiteral?_toString]
  | float x => exact absurd rfl (hfloat x)
  | _ => simp [Value.numericLiteral?] at hv

/-- A condition comparing a column with a made-up parameter that holds the key an id map gives
the column. -/
def KeyBound (aliasName : String) (d : Dialect) (m : Fields) (c : Column) (key : Condition)
    (t : QueryState) : Prop :=
  ∃ k < t.counter, key = .predicate (some aliasName) c.databaseName (.eq (paramName k)) ∧
    t.parameters.lookup (paramName k) = some (c.mapKey d m)

namespace KeyBound

variable {aliasName : String} {d : Dialect} {m : Fields} {c : Column} {key : Condition}
  {t t' : QueryState}

theorem keep (h : KeyBound aliasName d m c key t) (ht : KeepsMadeUp t t') :
    KeyBound aliasName d m c key t' := by
  obtain ⟨k, hk, rfl, hv⟩ := h
  exact ⟨k, lt_of_lt_of_le hk ht.counter_le, rfl, (ht.lookup_eq k hk).trans hv⟩

theorem structured (h : KeyBound aliasName d m c key t) : key.isStructured = true := by
  obtain ⟨k, -, rfl, -⟩ := h
  exact isName_paramName k

theorem holds (h : KeyBound aliasName d m c key t) (ctx : RenderContext) {env : Env}
    (henv : env.Binds t) :
    key.holds ctx env =
      env.engine.test .eq (env.column (ctx.columnRef (some aliasName) c.databaseName))
        (c.mapKey d m) := by
  obtain ⟨k, -, rfl, hv⟩ := h
  rw [Condition.holds, BoundOp.holds, henv _ _ hv]

end KeyBound

theorem Entity.primaryColumns_ne_nil {e : Entity} {id : Json} {m : Fields}
    (h : e.ensureIdMap? id = some m) : e.primaryColumns ≠ [] := by
  intro hnil
  have hnone : e.ensureIdMap? id = none := (e.ensureIdMap?_eq_none_iff id).2 (.inr (.inl hnil))
  rw [h] at hnone
  cases hnone

open QueryM in
theorem run_keysCondition (a : Alias) {e : Entity}
    (hpaths : (e.primaryColumns.map (·.propertyPath)).Nodup) {ids : List Json}
    {maps : List Fields} (hmaps : ids.mapM e.ensureIdMap? = some maps) (hne : maps ≠ [])
    (d : Dialect) (s : QueryState) :
    ∃ cond s', (keysCondition a e d maps).run.run s = (.ok cond, s') ∧ KeepsMadeUp s s' ∧
      (cond.isStructured = true ∨ ∃ c literals, e.primaryColumns = [c] ∧
        cond = .predicate (some a.name) c.databaseName (.inLiteral literals)) ∧
      ∀ ctx env, env.Binds s' →
        (∀ c, e.primaryColumns = [c] → ∀ id ∈ ids, ∀ x, c.idKey d id ≠ .float x) →
        cond.holdsWithLiterals ctx env = e.keysMatch ctx env a.name d ids := by
  have hF := forall₂_of_mapM_eq_some hmaps
  have hkeys : ∀ c ∈ e.primaryColumns, maps.map (c.mapKey d) = ids.map (c.idKey d) :=
    fun c hc => map_eq_map_of_forall₂ (f := c.mapKey d) (g := c.idKey d)
      (fun id m h => Entity.mapKey_eq_idKey hpaths h d hc) hF
  unfold keysCondition
  split
  · -- a single key column, compared with a list
    rename_i c hc
    have hmem : c ∈ e.primaryColumns := by simp [hc]
    have hcol : ∀ ctx (env : Env), e.keysMatch ctx env a.name d ids =
        Truth.any ((ids.map (c.idKey d)).map
          (env.engine.test .eq (env.column (ctx.columnRef (some a.name) c.databaseName)))) := by
      intro ctx env
      simp [Entity.keysMatch, hc, List.map_map, Function.comp_def]
    dsimp only
    split
    · rename_i literals hlit
      refine ⟨_, s, rfl, .refl s, .inr ⟨c, literals, hc, rfl⟩, fun ctx env _ hint => ?_⟩
      have hint' : ∀ v ∈ maps.map (c.mapKey d), ∀ x, v ≠ .float x := by
        rw [hkeys c hmem]
        intro v hv x
        obtain ⟨id, hid, rfl⟩ := List.mem_map.1 hv
        exact hint c hc id hid x
      rw [Condition.holdsWithLiterals, literalsHold_keys env _ hlit hint', hkeys c hmem, hcol]
    · obtain ⟨t, hrun, hkeep, -, hv⟩ := run_bindValue_keeps (.array (maps.map (c.mapKey d))) s
      refine ⟨.predicate (some a.name) c.databaseName (.inList (paramName s.counter)), t,
        by simp only [run_bind, hrun, run_pure], hkeep, .inl (isName_paramName s.counter),
        fun ctx env henv _ => ?_⟩
      have hvalues : maps.map (c.mapKey d) ≠ [] := by simpa using hne
      show BoundOp.holds env _ (.inList _) = _
      rw [BoundOp.holds, henv _ _ hv, DataSource.spreadValues_array hvalues, hkeys c hmem, hcol]
  · -- a composite key: an alternative per map, a parameter per column
    have hprim : e.primaryColumns ≠ [] := by
      obtain ⟨m, ms, rfl⟩ := List.exists_cons_of_ne_nil hne
      cases hF with
      | cons h _ => exact Entity.primaryColumns_ne_nil h
    let Alt : Fields → Condition → QueryState → Prop := fun m alt t =>
      ∃ keys, alt = .and keys ∧
        List.Forall₂ (fun c key => KeyBound a.name d m c key t) e.primaryColumns keys
    have hkeep : ∀ m alt t t', Alt m alt t → KeepsMadeUp t t' → Alt m alt t' := by
      rintro m alt t t' ⟨keys, rfl, hk⟩ ht
      exact ⟨keys, rfl, hk.imp fun c key h => h.keep ht⟩
    have hstep : ∀ m ∈ maps, ∀ t, ∃ alt t', (do
        let keys ← e.primaryColumns.mapM fun c => do
          let n ← QueryM.bindValue (c.mapKey d m)
          pure (Condition.predicate (some a.name) c.databaseName (.eq n))
        pure (Condition.and keys) : QueryM Condition).run.run t = (.ok alt, t') ∧
          KeepsMadeUp t t' ∧ Alt m alt t' := by
      intro m _ t
      obtain ⟨keys, t', hrun, ht, hk⟩ :=
        run_mapM_keeps (f := fun c => do
            let n ← QueryM.bindValue (c.mapKey d m)
            pure (Condition.predicate (some a.name) c.databaseName (.eq n)))
          (R := fun c key t => KeyBound a.name d m c key t)
          (fun c key t t' h ht => h.keep ht) e.primaryColumns (fun c _ t => by
            obtain ⟨t', hrun, ht, hlt, hv⟩ := run_bindValue_keeps (c.mapKey d m) t
            exact ⟨_, t', by simp only [run_bind, hrun, run_pure], ht, t.counter, hlt, rfl, hv⟩) t
      exact ⟨_, t', by simp only [run_bind, hrun, run_pure], ht, keys, rfl, hk⟩
    obtain ⟨alts, s', hrun, hkept, halts⟩ := run_mapM_keeps hkeep maps hstep s
    refine ⟨.or alts, s', by simp only [run_bind, hrun, run_pure], hkept, .inl ?_,
      fun ctx env henv _ => ?_⟩
    · -- each alternative compares every key column with a parameter
      show Condition.allStructured alts = true
      rw [Condition.allStructured_iff]
      refine forall_mem_of_forall₂ (fun m alt h => ?_) halts
      obtain ⟨keys, rfl, hk⟩ := h
      have hkeys_ne : keys ≠ [] := by
        intro hnil
        subst hnil
        exact hprim (List.forall₂_nil_right_iff.1 hk)
      simp only [Condition.isStructured, Bool.and_eq_true, Bool.not_eq_true',
        List.isEmpty_eq_false_iff]
      exact ⟨hkeys_ne, (Condition.allStructured_iff keys).2
        (forall_mem_of_forall₂ (fun c key h => h.structured) hk)⟩
    · -- an alternative holds when every key column equals its map's key
      have halt : ∀ m alt, Alt m alt s' → alt.holds ctx env = Truth.all (e.primaryColumns.map
          fun c => env.engine.test .eq (env.column (ctx.columnRef (some a.name) c.databaseName))
            (c.mapKey d m)) := by
        rintro m alt ⟨keys, rfl, hk⟩
        rw [Condition.holds, Condition.holdsAll_eq_map,
          map_eq_map_of_forall₂ (fun c key h => h.holds ctx henv) hk]
      show (Condition.or alts).holds ctx env = _
      rw [Condition.holds, Condition.holdsAll_eq_map, map_eq_map_of_forall₂ halt halts,
        Entity.keysMatch]
      congr 1
      refine map_eq_map_of_forall₂ (fun id m h => ?_) hF
      congr 1
      exact List.map_congr_left fun c hc => by rw [Entity.mapKey_eq_idKey hpaths h d hc]
theorem run_whereIdsCondition_keysMatch (s : QueryState) {a : Alias} {e : Entity}
    (ha : s.mainAlias = .ok a) (he : a.entity = some e)
    (hpaths : (e.primaryColumns.map (·.propertyPath)).Nodup) {ids : List Json}
    (hall : ∀ id ∈ ids, ¬e.IdIncomplete id) :
    ∃ cond s', (whereIdsCondition ids).run.run s = (.ok cond, s') ∧ KeepsMadeUp s s' ∧
      (cond.isStructured = true ∨ ∃ c literals, e.primaryColumns = [c] ∧
        cond = .predicate (some a.name) c.databaseName (.inLiteral literals)) ∧
      ∀ ctx env, env.Binds s' →
        (∀ c, e.primaryColumns = [c] → ∀ id ∈ ids, ∀ x, c.idKey s.dialect id ≠ .float x) →
        cond.holdsWithLiterals ctx env = e.keysMatch ctx env a.name s.dialect ids := by
  obtain ⟨maps, hmaps⟩ : ∃ maps, ids.mapM e.ensureIdMap? = some maps := by
    refine Option.ne_none_iff_exists'.1 fun hnone => ?_
    obtain ⟨id, hid, hinc⟩ := (Entity.mapM_ensureIdMap?_eq_none_iff e ids).1 hnone
    exact hall id hid hinc
  rw [run_whereIdsCondition s ha he ids, hmaps]
  cases maps with
  | nil =>
    have hids : ids = [] := List.forall₂_nil_right_iff.1 (forall₂_of_mapM_eq_some hmaps)
    subst hids
    exact ⟨.never, s, rfl, .refl s, .inl rfl, fun ctx env _ _ => rfl⟩
  | cons m ms => exact run_keysCondition a hpaths hmaps (List.cons_ne_nil m ms) s.dialect s

/-- The condition on the ids of entities, for the main alias of an entity whose primary columns
have distinct property paths, and every list of ids. Building it fails with `EntityIdMissing`
exactly when an id names no row. Otherwise it is of the structured fragment or a list of
literals on the single key column; with the parameters as bound and each literal read as the
integer it spells, it holds for a row exactly when the row's primary key is that of one of the
ids, and for no row when there are none, given that no key of a single column is a float. -/
theorem whereIds_matchesKeys (s : QueryState) {a : Alias} {e : Entity}
    (ha : s.mainAlias = .ok a) (he : a.entity = some e)
    (hpaths : (e.primaryColumns.map (·.propertyPath)).Nodup) (ids : List Json) :
    (((whereIdsCondition ids).run.run s).1 = .error (.entityIdMissing e.name) ↔
      ∃ id ∈ ids, e.IdIncomplete id) ∧
    ((∀ id ∈ ids, ¬e.IdIncomplete id) →
      ∃ cond s', (whereIdsCondition ids).run.run s = (.ok cond, s') ∧
        (cond.isStructured = true ∨ ∃ c literals, e.primaryColumns = [c] ∧
          cond = .predicate (some a.name) c.databaseName (.inLiteral literals)) ∧
        ∀ ctx env, env.Binds s' →
          (∀ c, e.primaryColumns = [c] → ∀ id ∈ ids, ∀ x, c.idKey s.dialect id ≠ .float x) →
          cond.holdsWithLiterals ctx env = e.keysMatch ctx env a.name s.dialect ids) := by
  have hrun := run_whereIdsCondition s ha he ids
  constructor
  · rw [hrun, ← Entity.mapM_ensureIdMap?_eq_none_iff]
    cases hmaps : ids.mapM e.ensureIdMap? with
    | none => simp
    | some maps =>
      simp only [reduceCtorEq, iff_false]
      cases maps with
      | nil => simp
      | cons m ms =>
        obtain ⟨cond, s', hkeys, -⟩ :=
          run_keysCondition a hpaths hmaps (List.cons_ne_nil m ms) s.dialect s
        simp [hkeys]
  · intro hall
    obtain ⟨cond, s', hcond, -, hshape, hholds⟩ :=
      run_whereIdsCondition_keysMatch s ha he hpaths hall
    exact ⟨cond, s', hcond, hshape, hholds⟩

/-- Users by an id and an id object, with the hypotheses met: the key is one column, `id`. -/
theorem whereIds_matchesKeys_users :
    let idColumn : Column :=
      { propertyPath := "id", databaseName := "id", type := .integer, isPrimary := true }
    let e : Entity :=
      { name := "User", tableName := "users",
        columns := [idColumn, { propertyPath := "name", databaseName := "name", type := .text }] }
    let a : Alias := { kind := .source, name := "u", entity := some e }
    let s : QueryState :=
      { QueryState.new .postgres .select with aliases := { items := [a], main := some "u" } }
    let ids : List Json := [.int 1, .obj [("id", .int 2)]]
    s.mainAlias = .ok a ∧ a.entity = some e ∧ (e.primaryColumns.map (·.propertyPath)).Nodup ∧
    (((whereIdsCondition ids).run.run s).1 = .error (.entityIdMissing e.name) ↔
      ∃ id ∈ ids, e.IdIncomplete id) ∧
    ((∀ id ∈ ids, ¬e.IdIncomplete id) →
      ∃ cond s', (whereIdsCondition ids).run.run s = (.ok cond, s') ∧
        (cond.isStructured = true ∨ ∃ c literals, e.primaryColumns = [c] ∧
          cond = .predicate (some a.name) c.databaseName (.inLiteral literals)) ∧
        ∀ ctx env, env.Binds s' →
          (∀ c, e.primaryColumns = [c] → ∀ id ∈ ids, ∀ x, c.idKey s.dialect id ≠ .float x) →
          cond.holdsWithLiterals ctx env = e.keysMatch ctx env a.name s.dialect ids) :=
  ⟨rfl, rfl, by decide, whereIds_matchesKeys _ rfl rfl (by decide) _⟩

open QueryM in
/-- An entity without primary columns has no id: not even an object, which lacks the value of no
primary column, and the condition on it fails. -/
theorem whereIds_noPrimaryKey_fails :
    let e : Entity :=
      { name := "Log", tableName := "logs",
        columns := [{ propertyPath := "message", databaseName := "message", type := .text }] }
    let a : Alias := { kind := .source, name := "l", entity := some e }
    let s : QueryState :=
      { QueryState.new .postgres .select with aliases := { items := [a], main := some "l" } }
    e.primaryColumns = [] ∧
      ((whereIdsCondition [.obj []]).run.run s).1 = .error (.entityIdMissing "Log") := by
  intro e a s
  refine ⟨rfl, ?_⟩
  rw [run_whereIdsCondition s rfl rfl]
  rfl

end EntitySql
