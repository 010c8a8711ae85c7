import EntitySql.Proofs.Builder.WhereFrame
import EntitySql.Proofs.Builder.SharedCounter
import EntitySql.Proofs.Where.Discriminator
import EntitySql.Execute.Write

/-!
# The SET list of an update

An update keeps its assignments as one list of columns and SQL: bound ones, whose SQL is the
name `:orm_update_i` of the i-th value the object of the last `set` binds, and raw ones, given
by `set_raw`. Binding the object again drops the bound assignments, told apart by that prefix,
with their parameters, and puts the raw ones after the fresh bound ones, so that a raw
assignment wins (`run_bindAssignments`).

What an entity object binds: each property of the object names columns
(`Entity.findColumnsByPath`), and every stored, updatable column among them whose value the
object holds is written under its database name, with the value as the dialect stores it
(`Entity.UpdateWrite`, `QueryState.boundValues_spec`). A relation other than an owning to-one
relation, and a property without columns, are refused (`Entity.refusesUpdate`).

`UpdateInv` is what the calls of an update builder (`UpdateCall`: objects, raw SQL, WHERE calls
and entity filters) make of it: the assignments agree with the raw SQL of the last call that
gave each column one and with the values of the last object set (`AssignmentsAgree`). Each call
keeps it (`UpdateInv.step`), hence every sequence of calls (`UpdateInv.applyAll`), given that
the calls keep apart from the names of bound assignments (`UpdateCall.Apart`). The SET list is
read off it (`SetList`, `update_setList`), also once the object is bound again to the rows the
listeners give back. Two runs show what the conditions are for: raw SQL that starts as
`:orm_update_` is dropped by the next object set, and a column that is both the version and the
update date column is assigned twice.
-/

namespace EntitySql

/-! ## Entries put last -/

section PutLast

variable {α : Type} {xs ps : List (String × α)} {k c : String} {v w : α}

theorem mem_putLast : (c, w) ∈ putLast xs k v ↔ c = k ∧ w = v ∨ c ≠ k ∧ (c, w) ∈ xs := by
  simp only [putLast, List.mem_append, List.mem_filter, List.mem_singleton, Prod.mk.injEq,
    decide_eq_true_eq]
  tauto

theorem fst_mem_putLast : c ∈ (putLast xs k v).map Prod.fst ↔ c = k ∨ c ∈ xs.map Prod.fst := by
  simp only [List.mem_map, Prod.exists, exists_and_right, exists_eq_right]
  constructor
  · rintro ⟨w, hw⟩
    rcases mem_putLast.1 hw with ⟨rfl, -⟩ | ⟨-, hw⟩
    · exact .inl rfl
    · exact .inr ⟨w, hw⟩
  · rintro (rfl | ⟨w, hw⟩)
    · exact ⟨v, mem_putLast.2 (.inl ⟨rfl, rfl⟩)⟩
    · by_cases hc : c = k
      · exact ⟨v, mem_putLast.2 (.inl ⟨hc, rfl⟩)⟩
      · exact ⟨w, mem_putLast.2 (.inr ⟨hc, hw⟩)⟩

theorem nodup_putLast (h : (xs.map Prod.fst).Nodup) : ((putLast xs k v).map Prod.fst).Nodup := by
  have hfilter : ((xs.filter (·.1 ≠ k)).map Prod.fst).Nodup :=
    (h.sublist (List.filter_sublist.map Prod.fst))
  simp only [putLast, List.map_append, List.map_cons, List.map_nil]
  refine List.nodup_append.2 ⟨hfilter, List.nodup_singleton k, ?_⟩
  intro a ha b hb
  obtain ⟨⟨a', w'⟩, hmem, rfl⟩ := List.mem_map.1 ha
  rw [List.mem_singleton.1 hb]
  simpa using (List.mem_filter.1 hmem).2

theorem mem_foldl_putLast (hps : ∀ c w w', (c, w) ∈ ps → (c, w') ∈ ps → w = w') :
    (c, w) ∈ ps.foldl (fun acc p => putLast acc p.1 p.2) xs ↔
      (c, w) ∈ ps ∨ c ∉ ps.map Prod.fst ∧ (c, w) ∈ xs := by
  induction ps generalizing xs with
  | nil => simp
  | cons p ps ih =>
    have hps' : ∀ c w w', (c, w) ∈ ps → (c, w') ∈ ps → w = w' := fun c w w' h h' =>
      hps c w w' (List.mem_cons_of_mem _ h) (List.mem_cons_of_mem _ h')
    rw [List.foldl_cons, ih hps', mem_putLast]
    obtain ⟨k, v⟩ := p
    simp only [List.mem_cons, Prod.mk.injEq, List.map_cons, not_or]
    constructor
    · rintro (h | ⟨hc, ⟨rfl, rfl⟩ | ⟨hck, hxs⟩⟩)
      · exact .inl (.inr h)
      · exact .inl (.inl ⟨rfl, rfl⟩)
      · exact .inr ⟨⟨hck, hc⟩, hxs⟩
    · rintro ((⟨rfl, rfl⟩ | h) | ⟨⟨hck, hc⟩, hxs⟩)
      · by_cases hin : c ∈ ps.map Prod.fst
        · obtain ⟨⟨c', w'⟩, hmem, rfl⟩ := List.mem_map.1 hin
          have hw : w = w' := hps c' w w' List.mem_cons_self (List.mem_cons_of_mem _ hmem)
          exact .inl (hw ▸ hmem)
        · exact .inr ⟨hin, .inl ⟨rfl, rfl⟩⟩
      · exact .inl h
      · exact .inr ⟨hc, .inr ⟨hck, hxs⟩⟩

theorem mem_of_mem_foldl_putLast (h : (c, w) ∈ ps.foldl (fun acc p => putLast acc p.1 p.2) xs) :
    (c, w) ∈ ps ∨ (c, w) ∈ xs := by
  induction ps generalizing xs with
  | nil => exact .inr h
  | cons p ps ih =>
    rcases ih h with h | h
    · exact .inl (List.mem_cons_of_mem _ h)
    · rcases mem_putLast.1 h with ⟨rfl, rfl⟩ | ⟨-, h⟩
      · exact .inl List.mem_cons_self
      · exact .inr h

theorem fst_mem_foldl_putLast :
    c ∈ (ps.foldl (fun acc p => putLast acc p.1 p.2) xs).map Prod.fst ↔
      c ∈ ps.map Prod.fst ∨ c ∈ xs.map Prod.fst := by
  induction ps generalizing xs with
  | nil => simp
  | cons p ps ih =>
    rw [List.foldl_cons, ih, fst_mem_putLast, List.map_cons, List.mem_cons]
    tauto

theorem foldl_putLast_const (ks : List String) (sql : α) :
    ks.foldl (fun acc k => putLast acc k sql) xs =
      (ks.map fun k => (k, sql)).foldl (fun acc p => putLast acc p.1 p.2) xs := by
  rw [List.foldl_map]

theorem nodup_foldl_putLast (h : (xs.map Prod.fst).Nodup) :
    ((ps.foldl (fun acc p => putLast acc p.1 p.2) xs).map Prod.fst).Nodup := by
  induction ps generalizing xs with
  | nil => exact h
  | cons p ps ih => exact ih (nodup_putLast h)

end PutLast

/-! ## What an entity object stores -/

/-- Whether an update refuses a property of an entity: a relation other than an owning to-one
relation, or a property that names no column. -/
def Entity.refusesUpdate (e : Entity) (property : String) : Bool :=
  (match e.findRelation? property with
    | some r => !r.isToOneOwner
    | none => false) || (e.findColumnsByPath property).isEmpty

/-- The entry an update writes for a column of an object: stored and updatable columns whose
value the object holds, under the database name, with the value as the dialect stores it. -/
def Column.updateWrite? (d : Dialect) (values : Fields) (c : Column) : Option (String × Value) :=
  if c.isVirtual ∨ !c.isUpdate then none
  else (c.getValue? values).map fun v => (c.databaseName, Dialect.toStored d c.type v)

/-- A column an update of an entity writes from an object, with the object's value for it. -/
structure Entity.UpdateWrite (e : Entity) (values : Fields) (col : Column) (j : Json) : Prop where
  property : ∃ k ∈ values.map Prod.fst, col ∈ e.findColumnsByPath k
  stored : col.isVirtual = false
  updatable : col.isUpdate = true
  value : col.getValue? values = some j

section FoldM

variable {β γ ε : Type} {f : γ → β → Except ε γ} {l : List β} {init : γ}

theorem foldlM_except_eq_ok (step : γ → β → γ) (hf : ∀ g b, b ∈ l → f g b = .ok (step g b)) :
    l.foldlM f init = .ok (l.foldl step init) := by
  induction l generalizing init with
  | nil => rfl
  | cons b l ih =>
    rw [List.foldlM_cons, hf init b List.mem_cons_self, List.foldl_cons]
    exact ih fun g b' hb' => hf g b' (List.mem_cons_of_mem _ hb')

theorem foldlM_except_isError (bad : β → Bool)
    (hbad : ∀ g b, bad b → ∃ err, f g b = .error err)
    (hgood : ∀ g b, bad b = false → ∃ g', f g b = .ok g') :
    (∃ err, l.foldlM f init = .error err) ↔ ∃ b ∈ l, bad b := by
  induction l generalizing init with
  | nil =>
    simp only [List.foldlM_nil, List.not_mem_nil, false_and, exists_false, iff_false]
    rintro ⟨err, h⟩
    cases h
  | cons b l ih =>
    rw [List.foldlM_cons]
    cases hb : bad b
    · obtain ⟨g', hg'⟩ := hgood init b hb
      rw [hg']
      simp only [List.mem_cons, exists_eq_or_imp, hb, Bool.false_eq_true, false_or]
      exact ih
    · obtain ⟨err, herr⟩ := hbad init b hb
      rw [herr]
      exact ⟨fun _ => ⟨b, List.mem_cons_self, hb⟩, fun _ => ⟨err, rfl⟩⟩

end FoldM

namespace QueryState

variable (s : QueryState) (e : Entity) (values : Fields)

def entityWrites : List (String × Value) :=
  values.flatMap fun p => (e.findColumnsByPath p.1).filterMap (Column.updateWrite? s.dialect values)

theorem entityAssignments_eq_ok (h : ∀ k ∈ values.map Prod.fst, e.refusesUpdate k = false) :
    s.entityAssignments e values =
      .ok ((s.entityWrites e values).foldl (fun acc p => putLast acc p.1 p.2) []) := by
  unfold entityAssignments
  rw [foldlM_except_eq_ok (fun out p => ((e.findColumnsByPath p.1).filterMap
    (Column.updateWrite? s.dialect values)).foldl (fun acc p => putLast acc p.1 p.2) out)]
  · rw [entityWrites, List.foldl_flatMap]
  · rintro out ⟨k, j⟩ hk
    have hr := h k (List.mem_map_of_mem hk)
    simp only [Entity.refusesUpdate, Bool.or_eq_false_iff, List.isEmpty_eq_false_iff] at hr
    rcases hrel : e.findRelation? k with _ | r
    on_goal 1 => simp only [hrel, List.isEmpty_eq_false_iff.2 hr.2, Bool.false_eq_true, ↓reduceIte]
    on_goal 2 =>
      simp only [hrel, Bool.not_eq_eq_eq_not, Bool.not_false] at hr
      simp only [hrel, hr.1, List.isEmpty_eq_false_iff.2 hr.2, Bool.not_true, Bool.false_eq_true,
        ↓reduceIte]
    all_goals
      show Except.ok _ = Except.ok _
      congr 1
      generalize e.findColumnsByPath k = cols
      induction cols generalizing out with
      | nil => rfl
      | cons c cols ih =>
        rw [List.foldl_cons, ih, List.filterMap_cons, Column.updateWrite?]
        by_cases hc : c.isVirtual = true ∨ c.isUpdate = false
        · simp [hc]
        · cases c.getValue? values <;> simp [hc]

theorem entityAssignments_isError :
    (∃ err, s.entityAssignments e values = .error err) ↔
      ∃ k ∈ values.map Prod.fst, e.refusesUpdate k := by
  unfold entityAssignments
  rw [foldlM_except_isError (fun p => e.refusesUpdate p.1)]
  · simp
  · rintro out ⟨k, j⟩ hk
    simp only [Entity.refusesUpdate, Bool.or_eq_true] at hk
    rcases hrel : e.findRelation? k with _ | r
    all_goals simp only [hrel] at hk
    · simp only [hrel, List.isEmpty_iff.1 (hk.resolve_left (by simp)), List.isEmpty_nil,
        ↓reduceIte]
      exact ⟨_, rfl⟩
    · by_cases hown : r.isToOneOwner
      · simp only [hrel, hown, List.isEmpty_iff.1 (hk.resolve_left (by simp [hown])),
          List.isEmpty_nil, Bool.not_true, Bool.false_eq_true, ↓reduceIte]
        exact ⟨_, rfl⟩
      · simp only [hrel, hown, Bool.not_false, ↓reduceIte]
        exact ⟨_, rfl⟩
  · rintro out ⟨k, j⟩ hk
    simp only [Entity.refusesUpdate, Bool.or_eq_false_iff, List.isEmpty_eq_false_iff] at hk
    rcases hrel : e.findRelation? k with _ | r
    all_goals simp only [hrel] at hk
    · simp [hrel, hk.2]
      exact ⟨_, rfl⟩
    · simp only [Bool.not_eq_eq_eq_not, Bool.not_false] at hk
      simp [hrel, hk.1, hk.2]
      exact ⟨_, rfl⟩

/-- The values an update binds from an object, column by column: those the entity's columns
store, or every field of the object for a table. -/
def boundValues (e? : Option Entity) : OrmResult (List (String × Value)) :=
  match e? with
  | some e => s.entityAssignments e values
  | none => .ok (values.map fun p => (p.1, Value.ofJson p.2))

/-- The state once the bound assignments and their parameters are dropped. -/
def dropBound : QueryState :=
  { s with
    parameters := s.parameters.filter fun kv => !"orm_update_".isPrefixOf kv.1,
    assignments := s.assignments.filter fun kv => !":orm_update_".isPrefixOf kv.2 }

end QueryState

def boundParams (bs : List (String × Value)) : List (String × Value) :=
  bs.zipIdx.map fun p => (updateParameter p.2, p.1.2)

def boundAssignments (bs : List (String × Value)) : List (String × String) :=
  bs.zipIdx.map fun p => (p.1.1, ":" ++ updateParameter p.2)

namespace Alias

/-- Whether an update of the alias refuses an object: for an entity, when it refuses one of the
object's properties; a table takes every field. -/
def refusesUpdate (a : Alias) (values : Fields) : Bool :=
  match a.entity with
  | some e => (values.map Prod.fst).any e.refusesUpdate
  | none => false

/-- A column an update of the alias writes from an object, with the value bound to it: for an
entity, a column it writes and the value as the dialect stores it; for a table, a field of the
object. -/
def Writes (a : Alias) (d : Dialect) (values : Fields) (c : String) (v : Value) : Prop :=
  match a.entity with
  | some e => ∃ col j, e.UpdateWrite values col j ∧ col.databaseName = c ∧
      v = Dialect.toStored d col.type j
  | none => ∃ j, (c, j) ∈ values ∧ v = Value.ofJson j

end Alias

namespace QueryState

variable {s t : QueryState} {values : Fields} {a : Alias} {bs : List (String × Value)}

theorem boundValues_congr (h : s.dialect = t.dialect) : s.boundValues = t.boundValues := by
  funext values e?
  cases e? with
  | none => rfl
  | some e => simp only [boundValues, entityAssignments, h]

theorem boundValues_isError :
    (∃ err, s.boundValues values a.entity = .error err) ↔ a.refusesUpdate values := by
  cases he : a.entity with
  | none => simp [boundValues, Alias.refusesUpdate, he]
  | some e => simp [boundValues, Alias.refusesUpdate, he, entityAssignments_isError]

theorem entityWrites_spec (s : QueryState) (e : Entity) (values : Fields) :
    let bs := (s.entityWrites e values).foldl (fun acc p => putLast acc p.1 p.2) []
    (bs.map Prod.fst).Nodup ∧
      (∀ c v, (c, v) ∈ bs → ∃ col j, e.UpdateWrite values col j ∧ col.databaseName = c ∧
        v = Dialect.toStored s.dialect col.type j) ∧
      (∀ col j, e.UpdateWrite values col j → col.databaseName ∈ bs.map Prod.fst) := by
  refine ⟨nodup_foldl_putLast List.nodup_nil, fun c v hcv => ?_, fun col j hw => ?_⟩
  · rcases mem_of_mem_foldl_putLast hcv with hcv | hcv
    · simp only [entityWrites, List.mem_flatMap, List.mem_filterMap] at hcv
      obtain ⟨⟨k, j₀⟩, hk, col, hcol, hwrite⟩ := hcv
      simp only [Column.updateWrite?] at hwrite
      split at hwrite
      · cases hwrite
      · next hflags =>
        obtain ⟨j, hj, hcj⟩ := Option.map_eq_some_iff.1 hwrite
        simp only [Prod.mk.injEq] at hcj
        simp only [not_or, Bool.not_eq_true, Bool.not_eq_eq_eq_not, Bool.not_true,
          Bool.not_eq_false] at hflags
        exact ⟨col, j, ⟨⟨k, List.mem_map_of_mem hk, hcol⟩, hflags.1, hflags.2, hj⟩, hcj.1,
          hcj.2.symm⟩
    · cases hcv
  · rw [fst_mem_foldl_putLast]
    refine .inl (List.mem_map.2
      ⟨(col.databaseName, Dialect.toStored s.dialect col.type j), ?_, rfl⟩)
    obtain ⟨⟨k, hk, hcol⟩, hstored, hupdate, hvalue⟩ := hw
    obtain ⟨⟨k', j'⟩, hk', rfl⟩ := List.mem_map.1 hk
    simp only [entityWrites, List.mem_flatMap, List.mem_filterMap]
    exact ⟨(k', j'), hk', col, hcol, by simp [Column.updateWrite?, hstored, hupdate, hvalue]⟩

/-- The values an object binds for an update of the alias: one per column, each written by the
object, and every column the object writes among them. -/
theorem boundValues_spec (h : s.boundValues values a.entity = .ok bs)
    (hkeys : (values.map Prod.fst).Nodup) :
    (bs.map Prod.fst).Nodup ∧ (∀ c v, (c, v) ∈ bs → a.Writes s.dialect values c v) ∧
      (∀ c v, a.Writes s.dialect values c v → c ∈ bs.map Prod.fst) := by
  cases he : a.entity with
  | none =>
    simp only [boundValues, he, Except.ok.injEq] at h
    subst h
    refine ⟨by simpa [List.map_map, Function.comp_def] using hkeys, fun c v hcv => ?_,
      fun c v hw => ?_⟩
    · simp only [List.mem_map, Prod.mk.injEq, Prod.exists] at hcv
      obtain ⟨c', j, hj, rfl, rfl⟩ := hcv
      simp only [Alias.Writes, he]
      exact ⟨j, hj, rfl⟩
    · simp only [Alias.Writes, he] at hw
      obtain ⟨j, hj, -⟩ := hw
      simp only [List.map_map, Function.comp_def]
      exact List.mem_map.2 ⟨(c, j), hj, rfl⟩
  | some e =>
    have hok : ∀ k ∈ values.map Prod.fst, e.refusesUpdate k = false := by
      intro k hk
      by_contra hbad
      have hrefused : a.refusesUpdate values := by
        simp only [Alias.refusesUpdate, he, List.any_eq_true]
        exact ⟨k, hk, by simpa using hbad⟩
      obtain ⟨err, herr⟩ := boundValues_isError.2 hrefused
      rw [herr] at h
      cases h
    simp only [boundValues, he, entityAssignments_eq_ok s e values hok, Except.ok.injEq] at h
    subst h
    obtain ⟨hnodup, hmem, hcols⟩ := entityWrites_spec s e values
    refine ⟨hnodup, fun c v hcv => ?_, fun c v hw => ?_⟩
    · simp only [Alias.Writes, he]
      exact hmem c v hcv
    · simp only [Alias.Writes, he] at hw
      obtain ⟨col, j, hw, rfl, -⟩ := hw
      exact hcols col j hw

end QueryState

open QueryM in
/-- Binding the object of an update with a main alias: the bound assignments and their
parameters are dropped, then the values the object binds are put first, each under its
`orm_update_i`, and the raw assignments after them; a refused object leaves them dropped. -/
theorem run_bindAssignments (s : QueryState) {a : Alias} (hmain : s.mainAlias = .ok a)
    {values : Fields} {rest : List Fields} (hv : s.valuesSet = values :: rest) :
    Update.bindAssignments.run.run s =
      match s.dropBound.boundValues values a.entity with
      | .ok bs => (.ok (), { s.dropBound with
          parameters := mergeParams s.dropBound.parameters (boundParams bs),
          assignments := s.dropBound.assignments.foldl (fun acc p => putLast acc p.1 p.2)
            (boundAssignments bs) })
      | .error e => (.error e, s.dropBound) := by
  simp only [Update.bindAssignments, run_bind, run_get, hv, run_lift, hmain, run_modify,
    ← QueryState.dropBound.eq_1]
  cases he : a.entity with
  | none =>
    simp only [run_bind, run_pure, run_mergeParameters, run_modify, QueryState.boundValues]
    simp only [boundParams, boundAssignments, List.map_map, Function.comp_def]
  | some e =>
    simp only [QueryState.boundValues]
    cases s.dropBound.entityAssignments e values
    all_goals simp only [run_bind, run_lift, run_mergeParameters, run_modify]
    simp only [boundParams, boundAssignments, List.map_map, Function.comp_def]

/-! ## Assignments that agree with raw SQL and bound values -/

theorem updateParameter_injective : Function.Injective updateParameter := by
  intro m n h
  simp only [updateParameter, String.append_right_inj] at h
  exact Nat.repr_inj.mp h

theorem isPrefixOf_boundSql (i : Nat) : ":orm_update_".isPrefixOf (":" ++ updateParameter i) := by
  simp [updateParameter, String.isPrefixOf]

theorem isPrefixOf_updateParameter (i : Nat) : "orm_update_".isPrefixOf (updateParameter i) := by
  simp [updateParameter, String.isPrefixOf]

section Bound

variable {bs : List (String × Value)} {c sql : String}

theorem mem_boundAssignments :
    (c, sql) ∈ boundAssignments bs ↔
      ∃ i v, bs[i]? = some (c, v) ∧ sql = ":" ++ updateParameter i := by
  simp only [boundAssignments, List.mem_map, List.mem_zipIdx_iff_getElem?, Prod.mk.injEq,
    Prod.exists]
  constructor
  · rintro ⟨c', v, i, hi, rfl, rfl⟩
    exact ⟨i, v, hi, rfl⟩
  · rintro ⟨i, v, hi, rfl⟩
    exact ⟨c, v, i, hi, rfl, rfl⟩

@[simp] theorem boundAssignments_nil : boundAssignments [] = [] := rfl

theorem boundAssignments_fst : (boundAssignments bs).map Prod.fst = bs.map Prod.fst := by
  have hcomp : (Prod.fst ∘ fun p : (String × Value) × Nat => (p.1.1, ":" ++ updateParameter p.2)) =
      Prod.fst ∘ Prod.fst := rfl
  rw [boundAssignments, List.map_map, hcomp, ← List.map_map, List.zipIdx_map_fst]

theorem lookup_boundParams_reverse {i : Nat} {v : Value} (h : bs[i]? = some (c, v)) :
    (boundParams bs).reverse.lookup (updateParameter i) = some v := by
  refine Family.lookup_eq_some_of_mem (List.mem_reverse.2 ?_) fun w hw => ?_
  · simp only [boundParams, List.mem_map, List.mem_zipIdx_iff_getElem?, Prod.mk.injEq, Prod.exists]
    exact ⟨c, v, i, h, rfl, rfl⟩
  · simp only [boundParams, List.mem_reverse, List.mem_map, List.mem_zipIdx_iff_getElem?,
      Prod.mk.injEq, Prod.exists] at hw
    obtain ⟨c', w', j, hj, hij, rfl⟩ := hw
    rw [updateParameter_injective hij, h] at hj
    simp only [Option.some.injEq, Prod.mk.injEq] at hj
    exact hj.2.symm

end Bound

/-- The assignments of an update agree with the raw SQL `raw` of each column and the bound
values `bs`: each column is assigned once; a column with raw SQL gets it; every other column of
a bound value gets the name `:orm_update_i` of its place `i` among them, a parameter that holds
the value. -/
structure AssignmentsAgree (t : QueryState) (raw : String → Option String)
    (bs : List (String × Value)) : Prop where
  nodup : (t.assignments.map Prod.fst).Nodup
  mem_iff : ∀ c sql, (c, sql) ∈ t.assignments ↔
    raw c = some sql ∨ raw c = none ∧ (c, sql) ∈ boundAssignments bs
  param : ∀ i c v, bs[i]? = some (c, v) → t.parameters.lookup (updateParameter i) = some v

def RawApart (raw : String → Option String) : Prop :=
  ∀ c sql, raw c = some sql → ":orm_update_".isPrefixOf sql = false

namespace AssignmentsAgree

variable {t : QueryState} {raw : String → Option String} {bs : List (String × Value)}

theorem fst_mem_iff (h : AssignmentsAgree t raw []) (c : String) :
    c ∈ t.assignments.map Prod.fst ↔ (raw c).isSome := by
  simp only [List.mem_map, Prod.exists, exists_and_right, exists_eq_right, h.mem_iff,
    boundAssignments_nil, List.not_mem_nil, and_false, or_false]
  cases raw c <;> simp

theorem dropBound (h : AssignmentsAgree t raw bs) (hraw : RawApart raw) :
    AssignmentsAgree t.dropBound raw [] where
  nodup := h.nodup.sublist (List.filter_sublist.map Prod.fst)
  mem_iff c sql := by
    simp only [QueryState.dropBound, List.mem_filter, h.mem_iff, Bool.not_eq_eq_eq_not,
      Bool.not_true, boundAssignments_nil, List.not_mem_nil, and_false, or_false]
    constructor
    · rintro ⟨h | ⟨-, hb⟩, hsql⟩
      · exact h
      · obtain ⟨i, v, -, rfl⟩ := mem_boundAssignments.1 hb
        simp [isPrefixOf_boundSql] at hsql
    · intro h
      exact ⟨.inl h, hraw c sql h⟩
  param i c v hi := by simp at hi

theorem bind (h : AssignmentsAgree t raw []) (hbs : (bs.map Prod.fst).Nodup) :
    AssignmentsAgree { t with
      parameters := mergeParams t.parameters (boundParams bs),
      assignments := t.assignments.foldl (fun acc p => putLast acc p.1 p.2) (boundAssignments bs) }
      raw bs where
  nodup := nodup_foldl_putLast (boundAssignments_fst ▸ hbs)
  mem_iff c sql := by
    have hone : ∀ c w w', (c, w) ∈ t.assignments → (c, w') ∈ t.assignments → w = w' :=
      fun c w w' hw hw' => by
        have := (h.mem_iff c w).1 hw
        have := (h.mem_iff c w').1 hw'
        simp_all
    rw [mem_foldl_putLast hone, h.fst_mem_iff, h.mem_iff]
    simp only [boundAssignments_nil, List.not_mem_nil, and_false, or_false]
    cases raw c <;> simp
  param i c v hi := by
    show (mergeParams t.parameters (boundParams bs)).lookup (updateParameter i) = some v
    rw [lookup_mergeParams, lookup_boundParams_reverse hi, Option.some_or]

theorem setRaw (h : AssignmentsAgree t raw bs) (cols : List String) (sql : String) :
    AssignmentsAgree
      { t with assignments := cols.foldl (fun acc c => putLast acc c sql) t.assignments }
      (fun c => if c ∈ cols then some sql else raw c) bs where
  nodup := by
    show ((cols.foldl (fun acc c => putLast acc c sql) t.assignments).map Prod.fst).Nodup
    rw [foldl_putLast_const]
    exact nodup_foldl_putLast h.nodup
  mem_iff c sql' := by
    show (c, sql') ∈ cols.foldl (fun acc c => putLast acc c sql) t.assignments ↔ _
    have hone : ∀ c w w', (c, w) ∈ cols.map (fun c => (c, sql)) →
        (c, w') ∈ cols.map (fun c => (c, sql)) → w = w' := by
      simp only [List.mem_map, Prod.mk.injEq]
      rintro c w w' ⟨_, -, -, rfl⟩ ⟨_, -, -, rfl⟩
      rfl
    rw [foldl_putLast_const, mem_foldl_putLast hone, h.mem_iff]
    by_cases hc : c ∈ cols <;> simp [hc, eq_comm]
  param := h.param

theorem congr (h : AssignmentsAgree t raw bs) (t' : QueryState)
    (ha : t'.assignments = t.assignments)
    (hp : ∀ i, t'.parameters.lookup (updateParameter i) = t.parameters.lookup (updateParameter i)) :
    AssignmentsAgree t' raw bs where
  nodup := ha ▸ h.nodup
  mem_iff c sql := ha ▸ h.mem_iff c sql
  param i c v hi := (hp i).trans (h.param i c v hi)

end AssignmentsAgree

/-! ## The calls of an update builder -/

/-- A call of an update builder: setting the object, raw SQL for a property, a WHERE call, or
the ids of entities to filter by. -/
inductive UpdateCall
  | set (values : Fields)
  | setRaw (property sql : String)
  | filter (call : WhereCall)
  | whereEntity (entities : List Fields)

/-- The columns raw SQL for a property assigns: the columns of the entity's property, or the
property itself for a table; none for a property the entity does not have. -/
def Alias.rawColumns (a : Alias) (property : String) : List String :=
  match a.entity with
  | some e => (e.findColumnsByPath property).map (·.databaseName)
  | none => [property]

namespace UpdateCall

/-- The building step of a call. -/
def step : UpdateCall → QueryM Unit
  | .set values => Update.set values
  | .setRaw property sql => Update.setRaw property sql
  | .filter call => applyWhereCall call
  | .whereEntity entities => Update.whereEntity entities

def applyAll (s : QueryState) (calls : List UpdateCall) : QueryState :=
  calls.foldl (fun t c => t.apply c.step) s

def setValues? : UpdateCall → Option Fields
  | .set values => some values
  | _ => none

def rawFor (a : Alias) (c : String) : UpdateCall → Option String
  | .setRaw property sql => if c ∈ a.rawColumns property then some sql else none
  | _ => none

/-- Whether an update of the alias refuses a call: an object it refuses, or raw SQL for a
property without columns. -/
def refused (a : Alias) : UpdateCall → Bool
  | .set values => a.refusesUpdate values
  | .setRaw property _ => (a.rawColumns property).isEmpty
  | _ => false

/-- The calls whose names keep apart from those of bound assignments: objects with distinct
keys, raw SQL that does not start as the SQL of a bound assignment, and WHERE calls whose raw
parameters are not named as bound ones. -/
def Apart : UpdateCall → Prop
  | .set values => (values.map Prod.fst).Nodup
  | .setRaw _ sql => ":orm_update_".isPrefixOf sql = false
  | .filter call => call.RawNamesAvoid "orm_update_".isPrefixOf
  | .whereEntity _ => True

def lastSet (calls : List UpdateCall) : Option Fields :=
  (calls.filterMap setValues?).getLast?

def rawSql (a : Alias) (calls : List UpdateCall) (c : String) : Option String :=
  (calls.filterMap (rawFor a c)).getLast?

variable {s : QueryState} {a : Alias} {calls : List UpdateCall} {c : UpdateCall}

@[simp] theorem applyAll_append_singleton :
    applyAll s (calls ++ [c]) = (applyAll s calls).apply c.step := by
  simp [applyAll]

theorem getLast?_filterMap_append_singleton {β : Type} (f : UpdateCall → Option β) :
    ((calls ++ [c]).filterMap f).getLast? = (f c).or (calls.filterMap f).getLast? := by
  rw [List.filterMap_append, List.getLast?_append]
  cases h : f c <;> simp only [List.filterMap_cons, List.filterMap_nil, h, List.getLast?_nil,
    List.getLast?_singleton, Option.none_or, Option.some_or]

@[simp] theorem lastSet_append_singleton :
    lastSet (calls ++ [c]) = c.setValues?.or (lastSet calls) :=
  getLast?_filterMap_append_singleton _

@[simp] theorem rawSql_append_singleton (col : String) :
    rawSql a (calls ++ [c]) col = (c.rawFor a col).or (rawSql a calls col) :=
  getLast?_filterMap_append_singleton _

theorem rawApart_rawSql (h : ∀ c ∈ calls, c.Apart) : RawApart (rawSql a calls) := by
  intro col sql hsql
  obtain ⟨c, hc, hfor⟩ := List.mem_filterMap.1 (List.mem_of_getLast? hsql)
  cases c with
  | setRaw property sql' =>
    simp only [rawFor] at hfor
    split at hfor
    · cases hfor
      exact h _ hc
    · cases hfor
  | set _ | filter _ | whereEntity _ => cases hfor

end UpdateCall

open UpdateCall

/-- The bound values an update holds for the object it last set: none before an object is set,
and none for an object it refuses. -/
def BoundFor (t : QueryState) (a : Alias) (values? : Option Fields) (bs : List (String × Value)) :
    Prop :=
  match values? with
  | none => bs = []
  | some values => t.boundValues values a.entity = .ok bs ∨ a.refusesUpdate values ∧ bs = []

/-- What the calls so far make of an update builder whose main alias is `a`: the alias stays,
the object is the last one set, a refused call leaves a failure, and the assignments agree with
the raw SQL of the calls and the values the last object binds. -/
structure UpdateInv (a : Alias) (calls : List UpdateCall) (t : QueryState) : Prop where
  main : t.mainAlias = .ok a
  valuesSet : t.valuesSet = (lastSet calls).toList
  refused : calls.any (·.refused a) → t.buildError ≠ none
  agree : ∃ bs, BoundFor t a (lastSet calls) bs ∧ (bs.map Prod.fst).Nodup ∧
    AssignmentsAgree t (rawSql a calls) bs


theorem UpdateCall.step_keepsFailure (e : OrmError) :
    (c : UpdateCall) → QueryM.KeepsFailure e c.step
  | .set values => Update.set_keepsFailure e values
  | .setRaw property sql => Update.setRaw_keepsFailure e property sql
  | .filter call => applyWhereCall_keepsFailure e call
  | .whereEntity entities => Update.whereEntity_keepsFailure e entities

namespace QueryState

@[simp] theorem fail_assignments (s : QueryState) (e : OrmError) :
    (s.fail e).assignments = s.assignments := by
  unfold fail
  split <;> rfl

@[simp] theorem fail_valuesSet (s : QueryState) (e : OrmError) :
    (s.fail e).valuesSet = s.valuesSet := by
  unfold fail
  split <;> rfl

@[simp] theorem fail_dialect (s : QueryState) (e : OrmError) : (s.fail e).dialect = s.dialect := by
  unfold fail
  split <;> rfl

theorem fail_mainAlias (s : QueryState) (e : OrmError) : (s.fail e).mainAlias = s.mainAlias := by
  simp only [mainAlias, fail_aliases]

end QueryState

theorem apply_set (t : QueryState) {a : Alias} (hmain : t.mainAlias = .ok a) (values : Fields) :
    t.apply (Update.set values) =
      let t₁ := ({ t with valuesSet := [values] } : QueryState).dropBound
      match t.boundValues values a.entity with
      | .ok bs => { t₁ with
          parameters := mergeParams t₁.parameters (boundParams bs),
          assignments := t₁.assignments.foldl (fun acc p => putLast acc p.1 p.2)
            (boundAssignments bs) }
      | .error e => t₁.fail e := by
  have hb : ({ t with valuesSet := [values] } : QueryState).dropBound.boundValues =
      t.boundValues := QueryState.boundValues_congr rfl
  simp only [QueryState.apply, Update.set, QueryM.run_bind, QueryM.run_modify, QueryM.run_record,
    run_bindAssignments { t with valuesSet := [values] } hmain rfl, hb]
  cases t.boundValues values a.entity <;> rfl

theorem apply_setRaw (t : QueryState) {a : Alias} (hmain : t.mainAlias = .ok a)
    (property sql : String) :
    (a.rawColumns property = [] → ∃ err, t.apply (Update.setRaw property sql) = t.fail err) ∧
      (a.rawColumns property ≠ [] → t.apply (Update.setRaw property sql) =
        { t with assignments :=
          (a.rawColumns property).foldl (fun acc c => putLast acc c sql) t.assignments }) := by
  simp only [QueryState.apply, Update.setRaw, Update.targetColumns, QueryM.mainAlias,
    QueryM.run_bind, QueryM.run_get, QueryM.run_lift, hmain, QueryM.run_record]
  cases he : a.entity with
  | none =>
    refine ⟨fun h => by simp [Alias.rawColumns, he] at h, fun _ => ?_⟩
    simp only [Alias.rawColumns, he]
    rfl
  | some e =>
    cases hc : e.findColumnsByPath property with
    | nil =>
      refine ⟨fun _ => ?_, fun h => by simp [Alias.rawColumns, he, hc] at h⟩
      simp only [hc]
      exact ⟨_, rfl⟩
    | cons c cs =>
      refine ⟨fun h => by simp [Alias.rawColumns, he, hc] at h, fun _ => ?_⟩
      simp only [Alias.rawColumns, he, hc]
      rfl

namespace UpdateInv

variable {a : Alias} {calls : List UpdateCall} {t : QueryState}

theorem start (hmain : t.mainAlias = .ok a) (hv : t.valuesSet = []) (ha : t.assignments = []) :
    UpdateInv a [] t where
  main := hmain
  valuesSet := hv
  refused := by simp
  agree := ⟨[], rfl, List.nodup_nil,
    { nodup := by simp [ha]
      mem_iff := by simp [ha, rawSql]
      param := by simp }⟩

theorem frame (h : UpdateInv a calls t) {c : UpdateCall} (hset : c.setValues? = none)
    (hraw : ∀ col, c.rawFor a col = none) (href : c.refused a = false) {t' : QueryState}
    (hw : t'.writePart updatePrefix = t.writePart updatePrefix) (hf : t.buildError ≠ none → t'.buildError ≠ none) :
    UpdateInv a (calls ++ [c]) t' := by
  simp only [QueryState.writePart, updatePrefix, Prod.mk.injEq] at hw
  obtain ⟨hd, -, haliases, hvalues, hassign, hparams⟩ := hw
  obtain ⟨bs, hbound, hnodup, hagree⟩ := h.agree
  have hsame : rawSql a (calls ++ [c]) = rawSql a calls := funext fun col => by simp [hraw col]
  refine ⟨?_, ?_, ?_, bs, ?_, hnodup, ?_⟩
  · show t'.aliases.mainAlias = _
    rw [haliases]
    exact h.main
  · rw [hvalues, h.valuesSet, lastSet_append_singleton, hset, Option.none_or]
  · intro hany
    simp only [List.any_append, List.any_cons, href, List.any_nil, Bool.or_false] at hany
    exact hf (h.refused hany)
  · rw [lastSet_append_singleton, hset, Option.none_or]
    unfold BoundFor at hbound ⊢
    rwa [QueryState.boundValues_congr hd]
  · rw [hsame]
    refine hagree.congr t' hassign fun i => ?_
    rw [← lookup_filter_names (isPrefixOf_updateParameter i), hparams,
      lookup_filter_names (isPrefixOf_updateParameter i)]

/-- Setting an object binds it afresh: the raw assignments stay and win, and a refused object
leaves a failure and no bound assignment. -/
theorem set (h : UpdateInv a calls t) (hraw : RawApart (rawSql a calls)) {values : Fields}
    (hkeys : (values.map Prod.fst).Nodup) :
    UpdateInv a (calls ++ [.set values]) (t.apply (Update.set values)) := by
  obtain ⟨bs₀, -, -, hagree⟩ := h.agree
  have hdrop := hagree.dropBound hraw
  have hlast : lastSet (calls ++ [.set values]) = some values := by simp [setValues?]
  have hsame : rawSql a (calls ++ [.set values]) = rawSql a calls :=
    funext fun col => by simp [rawFor]
  rw [apply_set t h.main values]
  cases hbv : t.boundValues values a.entity with
  | error err =>
    simp only
    have hrefused : a.refusesUpdate values := QueryState.boundValues_isError.1 ⟨err, hbv⟩
    refine ⟨?_, ?_, fun _ => ?_, [], ?_, List.nodup_nil, ?_⟩
    · rw [QueryState.fail_mainAlias]
      exact h.main
    · rw [hlast]
      simp [QueryState.dropBound]
    · simp
    · rw [hlast]
      exact .inr ⟨hrefused, rfl⟩
    · rw [hsame]
      exact hdrop.congr _ (by simp [QueryState.dropBound]) fun i => by simp [QueryState.dropBound]
  | ok bs =>
    simp only
    obtain ⟨hnodup, -, -⟩ := QueryState.boundValues_spec hbv hkeys
    have hbound := (hdrop.congr { t with valuesSet := [values] }.dropBound rfl
      fun _ => rfl).bind hnodup
    refine ⟨h.main, ?_, fun hany => ?_, bs, ?_, hnodup, ?_⟩
    · rw [hlast]
      rfl
    · have hok : a.refusesUpdate values = false := by
        cases hr : a.refusesUpdate values
        · rfl
        · obtain ⟨err, herr⟩ := QueryState.boundValues_isError.2 hr
          rw [hbv] at herr
          cases herr
      simp only [List.any_append, List.any_cons, UpdateCall.refused, hok, List.any_nil,
        Bool.or_false] at hany
      exact h.refused hany
    · rw [hlast]
      exact .inl ((QueryState.boundValues_congr rfl).symm ▸ hbv)
    · rw [hsame]
      exact hbound

theorem setRaw (h : UpdateInv a calls t) (property sql : String) :
    UpdateInv a (calls ++ [.setRaw property sql]) (t.apply (Update.setRaw property sql)) := by
  obtain ⟨hnone, hsome⟩ := apply_setRaw t h.main property sql
  obtain ⟨bs, hbound, hnodup, hagree⟩ := h.agree
  have hlast : lastSet (calls ++ [.setRaw property sql]) = lastSet calls := by simp [setValues?]
  by_cases hcols : a.rawColumns property = []
  · obtain ⟨err, happ⟩ := hnone hcols
    have hsame : rawSql a (calls ++ [.setRaw property sql]) = rawSql a calls :=
      funext fun col => by simp [rawFor, hcols]
    rw [happ]
    refine ⟨?_, ?_, fun _ => by simp, bs, ?_, hnodup, ?_⟩
    · rw [QueryState.fail_mainAlias]
      exact h.main
    · rw [QueryState.fail_valuesSet, h.valuesSet, hlast]
    · rw [hlast]
      unfold BoundFor at hbound ⊢
      rwa [QueryState.boundValues_congr (QueryState.fail_dialect t err)]
    · rw [hsame]
      exact hagree.congr _ (by simp) fun i => by simp
  · have hraw : rawSql a (calls ++ [.setRaw property sql]) =
        fun c => if c ∈ a.rawColumns property then some sql else rawSql a calls c :=
      funext fun col => by by_cases hc : col ∈ a.rawColumns property <;> simp [rawFor, hc]
    rw [hsome hcols]
    refine ⟨h.main, by rw [hlast]; exact h.valuesSet, fun hany => ?_, bs, ?_, hnodup, ?_⟩
    · have hkept : (UpdateCall.setRaw property sql).refused a = false := by
        simpa [UpdateCall.refused] using hcols
      simp only [List.any_append, List.any_cons, hkept, List.any_nil, Bool.or_false] at hany
      exact h.refused hany
    · rw [hlast]
      exact hbound
    · rw [hraw]
      exact hagree.setRaw _ sql

/-- Every call keeps the invariant, given that the calls keep apart from the names of bound
assignments. -/
theorem step (h : UpdateInv a calls t) (hcalls : ∀ c ∈ calls, c.Apart) {c : UpdateCall}
    (hc : c.Apart) : UpdateInv a (calls ++ [c]) (t.apply c.step) := by
  have hfail : t.buildError ≠ none → (t.apply c.step).buildError ≠ none := fun hne => by
    obtain ⟨e, he⟩ := Option.ne_none_iff_exists'.1 hne
    rw [(step_keepsFailure e c).apply_buildError he]
    simp
  cases c with
  | set values => exact h.set (rawApart_rawSql hcalls) hc
  | setRaw property sql => exact h.setRaw property sql
  | filter call =>
    exact h.frame rfl (fun _ => rfl) rfl
      (QueryM.KeepsWritePart.apply (fun w => applyWhereCall_keepsWritePart (p := updatePrefix) w hc) t) hfail
  | whereEntity entities =>
    exact h.frame rfl (fun _ => rfl) rfl
      (QueryM.KeepsWritePart.apply (fun w => whereEntity_keepsWritePart (p := updatePrefix) w entities) t) hfail

theorem applyAll {s : QueryState} (h : UpdateInv a [] s) (calls : List UpdateCall)
    (hcalls : ∀ c ∈ calls, c.Apart) : UpdateInv a calls (UpdateCall.applyAll s calls) := by
  induction calls using List.reverseRecOn with
  | nil => exact h
  | append_singleton calls c ih =>
    have hprefix : ∀ c ∈ calls, c.Apart := fun c' hc' => hcalls c' (by simp [hc'])
    rw [applyAll_append_singleton]
    exact (ih hprefix).step hprefix (hcalls c (by simp))

end UpdateInv


/-! ## The SET list -/

namespace QueryState

/-- The automatic assignments of an update, as columns and SQL: the version column increased and
the update date column set to the current time, each unless the assignments name it. -/
def automaticPairs (t : QueryState) : List (String × String) :=
  match t.mainEntity? with
  | none => []
  | some e =>
    let free := fun (c : Column) => !t.assignments.any (·.1 = c.databaseName)
    ((e.versionColumn?.filter free).map fun c =>
        (c.databaseName, t.escape c.databaseName ++ " + 1")).toList ++
      ((e.updateDateColumn?.filter free).map fun c =>
        (c.databaseName, t.dialect.currentTimestamp)).toList

def setList (t : QueryState) : List (String × String) := t.assignments ++ t.automaticPairs

theorem automaticAssignments_eq (t : QueryState) :
    t.automaticAssignments t.assignments =
      t.automaticPairs.map fun p => t.escape p.1 ++ " = " ++ p.2 := by
  unfold automaticAssignments automaticPairs
  cases t.mainEntity? with
  | none => rfl
  | some e =>
    simp only [List.map_append]
    congr 1
    · cases e.versionColumn? with
      | none => rfl
      | some c =>
        cases hfree : t.assignments.any (·.1 = c.databaseName) <;>
          simp [Option.filter, hfree, String.append_assoc]
    · cases e.updateDateColumn? with
      | none => rfl
      | some c =>
        cases hfree : t.assignments.any (·.1 = c.databaseName) <;> simp [Option.filter, hfree]

theorem compileUpdate_eq (t : QueryState) (h : t.assignments ≠ []) :
    t.compileUpdate = t.updateStatement (t.setList.map fun p => t.escape p.1 ++ " = " ++ p.2) := by
  have hne : t.assignments.isEmpty = false := List.isEmpty_eq_false_iff.2 h
  simp only [compileUpdate, hne, Bool.false_eq_true, ↓reduceIte, automaticAssignments_eq, setList,
    List.map_append]

theorem mem_automaticPairs {t : QueryState} {c sql : String} :
    (c, sql) ∈ t.automaticPairs ↔ c ∉ t.assignments.map Prod.fst ∧ ∃ e, t.mainEntity? = some e ∧
      ((∃ vc, e.versionColumn? = some vc ∧ c = vc.databaseName ∧ sql = t.escape c ++ " + 1") ∨
        (∃ dc, e.updateDateColumn? = some dc ∧ c = dc.databaseName ∧
          sql = t.dialect.currentTimestamp)) := by
  unfold automaticPairs
  cases hm : t.mainEntity? with
  | none => simp
  | some e =>
    simp only [List.mem_append, Option.mem_toList, Option.map_eq_some_iff,
      Option.filter_eq_some_iff,
      Prod.mk.injEq, Option.some.injEq, exists_eq_left', decide_eq_true_eq,
      Bool.not_eq_true', List.any_eq_false, Prod.exists, List.mem_map, exists_and_right,
      exists_eq_right]
    constructor
    · rintro (⟨vc, ⟨hv, hfree⟩, rfl, rfl⟩ | ⟨dc, ⟨hd, hfree⟩, rfl, rfl⟩)
      · exact ⟨fun ⟨w, hw⟩ => hfree _ hw rfl, .inl ⟨vc, hv, rfl, rfl⟩⟩
      · exact ⟨fun ⟨w, hw⟩ => hfree _ hw rfl, .inr ⟨dc, hd, rfl, rfl⟩⟩
    · rintro ⟨hfree, ⟨vc, hv, rfl, rfl⟩ | ⟨dc, hd, rfl, rfl⟩⟩
      · exact .inl ⟨vc, ⟨hv, fun p hp he => hfree ⟨p.2, he ▸ hp⟩⟩, rfl, rfl⟩
      · exact .inr ⟨dc, ⟨hd, fun p hp he => hfree ⟨p.2, he ▸ hp⟩⟩, rfl, rfl⟩

end QueryState

def Alias.VersionApart (a : Alias) : Prop :=
  ∀ e vc dc, a.entity = some e → e.versionColumn? = some vc → e.updateDateColumn? = some dc →
    vc.databaseName ≠ dc.databaseName

/-- The automatic assignment of a column to the SQL: the version increase for the version column,
the current time for the update date column. -/
def QueryState.AutomaticSql (t : QueryState) (e : Entity) (c sql : String) : Prop :=
  (∃ vc, e.versionColumn? = some vc ∧ c = vc.databaseName ∧ sql = t.escape c ++ " + 1") ∨
    (∃ dc, e.updateDateColumn? = some dc ∧ c = dc.databaseName ∧ sql = t.dialect.currentTimestamp)

/-- The SET list of an update of the alias, given the raw SQL `raw` of each column and the object
`values?` set last: the statement writes it; it assigns each column once; a column with raw SQL
gets it; every other column the object writes gets a bound parameter of its own, which holds
the value as the column stores it, and no other column gets one; the version column is
increased and the update date set to the current time when no other assignment names them. -/
structure SetList (a : Alias) (raw : String → Option String) (values? : Option Fields)
    (t : QueryState) : Prop where
  compile : t.assignments ≠ [] →
    t.compileUpdate = t.updateStatement (t.setList.map fun p => t.escape p.1 ++ " = " ++ p.2)
  nodup : (t.setList.map Prod.fst).Nodup
  raw_mem : ∀ c sql, raw c = some sql → (c, sql) ∈ t.assignments
  bound_of_mem : ∀ c sql, (c, sql) ∈ t.assignments → raw c = none →
    ∃ values i v, values? = some values ∧ a.Writes t.dialect values c v ∧
      sql = ":" ++ updateParameter i ∧ t.parameters.lookup (updateParameter i) = some v
  mem_of_writes : ∀ values c v, values? = some values → a.Writes t.dialect values c v →
    raw c = none → ∃ i, (c, ":" ++ updateParameter i) ∈ t.assignments
  own : ∀ c c' i, (c, ":" ++ updateParameter i) ∈ t.assignments →
    (c', ":" ++ updateParameter i) ∈ t.assignments → c = c'
  automatic : ∀ c sql, (c, sql) ∈ t.automaticPairs ↔
    c ∉ t.assignments.map Prod.fst ∧ ∃ e, a.entity = some e ∧ t.AutomaticSql e c sql

namespace SetList

variable {a : Alias} {raw : String → Option String} {values? : Option Fields} {t : QueryState}
  {bs : List (String × Value)}

theorem automaticPairs_nodup (hent : t.mainEntity? = a.entity) (hapart : a.VersionApart) :
    (t.automaticPairs.map Prod.fst).Nodup := by
  unfold QueryState.automaticPairs
  rw [hent]
  cases he : a.entity with
  | none => simp
  | some e =>
    have hone : ∀ o : Option (String × String), (o.toList.map Prod.fst).Nodup := fun o => by
      cases o <;> simp
    dsimp only
    rw [List.map_append]
    refine List.nodup_append.2 ⟨hone _, hone _, ?_⟩
    intro x hx y hy hxy
    simp only [List.mem_map, Option.mem_toList, Option.map_eq_some_iff,
      Option.filter_eq_some_iff] at hx hy
    obtain ⟨_, ⟨vc, ⟨hv, -⟩, rfl⟩, rfl⟩ := hx
    obtain ⟨_, ⟨dc, ⟨hd, -⟩, rfl⟩, rfl⟩ := hy
    exact hapart e vc dc he hv hd hxy

theorem bound_spec (hbound : BoundFor t a values? bs)
    (hok : ∀ v, values? = some v → a.refusesUpdate v = false)
    (hkeys : ∀ v, values? = some v → (v.map Prod.fst).Nodup) :
    (∀ c v, (c, v) ∈ bs → ∃ values, values? = some values ∧ a.Writes t.dialect values c v) ∧
      (∀ values c v, values? = some values → a.Writes t.dialect values c v →
        c ∈ bs.map Prod.fst) := by
  cases values? with
  | none =>
    simp only [BoundFor] at hbound
    subst hbound
    exact ⟨fun c v h => by simp at h, fun values c v h => by simp at h⟩
  | some values =>
    have hbs : t.boundValues values a.entity = .ok bs := by
      rcases hbound with hbs | ⟨hrefused, -⟩
      · exact hbs
      · simp [hok values rfl] at hrefused
    obtain ⟨-, hmem, hwrites⟩ := QueryState.boundValues_spec hbs (hkeys values rfl)
    refine ⟨fun c v h => ⟨values, rfl, hmem c v h⟩, fun values' c v h hw => ?_⟩
    cases h
    exact hwrites c v hw

theorem of_agree (hmain : t.mainAlias = .ok a) (hapart : a.VersionApart) (hraw : RawApart raw)
    (hagree : AssignmentsAgree t raw bs) (hbound : BoundFor t a values? bs)
    (hok : ∀ v, values? = some v → a.refusesUpdate v = false)
    (hkeys : ∀ v, values? = some v → (v.map Prod.fst).Nodup) : SetList a raw values? t := by
  have hent : t.mainEntity? = a.entity := by simp [QueryState.mainEntity?, hmain]
  obtain ⟨hwritten, hcovered⟩ := bound_spec hbound hok hkeys
  have hplace : ∀ c i, (c, ":" ++ updateParameter i) ∈ t.assignments →
      ∃ v, bs[i]? = some (c, v) := by
    intro c i hc
    rcases (hagree.mem_iff c _).1 hc with hr | ⟨-, hb⟩
    · simpa [isPrefixOf_boundSql] using hraw c _ hr
    · obtain ⟨j, v, hj, hij⟩ := mem_boundAssignments.1 hb
      rw [updateParameter_injective (String.append_right_inj _ |>.1 hij)]
      exact ⟨v, hj⟩
  refine ⟨QueryState.compileUpdate_eq t, ?_, fun c sql hr => (hagree.mem_iff c sql).2 (.inl hr),
    ?_, ?_, ?_, ?_⟩
  · rw [QueryState.setList, List.map_append]
    refine List.nodup_append.2 ⟨hagree.nodup, automaticPairs_nodup hent hapart, ?_⟩
    intro c hc c' hc' hcc'
    obtain ⟨⟨c'', sql⟩, hmem, rfl⟩ := List.mem_map.1 hc'
    subst hcc'
    exact (QueryState.mem_automaticPairs.1 hmem).1 hc
  · intro c sql hc hnone
    rcases (hagree.mem_iff c sql).1 hc with hr | ⟨-, hb⟩
    · rw [hnone] at hr
      cases hr
    · obtain ⟨i, v, hi, rfl⟩ := mem_boundAssignments.1 hb
      obtain ⟨values, hv, hw⟩ := hwritten c v (List.mem_of_getElem? hi)
      exact ⟨values, i, v, hv, hw, rfl, hagree.param i c v hi⟩
  · intro values c v hv hw hnone
    obtain ⟨⟨c', v'⟩, hmem, rfl⟩ := List.mem_map.1 (hcovered values c v hv hw)
    obtain ⟨i, hi⟩ := List.getElem?_of_mem hmem
    exact ⟨i, (hagree.mem_iff _ _).2 (.inr ⟨hnone, mem_boundAssignments.2 ⟨i, v', hi, rfl⟩⟩)⟩
  · intro c c' i hc hc'
    obtain ⟨v, hv⟩ := hplace c i hc
    obtain ⟨v', hv'⟩ := hplace c' i hc'
    rw [hv] at hv'
    simp only [Option.some.injEq, Prod.mk.injEq] at hv'
    exact hv'.1
  · intro c sql
    rw [QueryState.mem_automaticPairs, hent]
    rfl

end SetList

theorem run_bindAssignments_nil (s : QueryState) (h : s.valuesSet = []) :
    Update.bindAssignments.run.run s = (.ok (), s) := by
  simp only [Update.bindAssignments, QueryM.run_bind, QueryM.run_get, h]
  rfl

namespace UpdateCall

variable {calls : List UpdateCall} {values : Fields}

theorem set_mem_of_lastSet (h : lastSet calls = some values) : UpdateCall.set values ∈ calls := by
  obtain ⟨c, hc, hset⟩ := List.mem_filterMap.1 (List.mem_of_getLast? h)
  cases c with
  | set values' =>
    cases hset
    exact hc
  | setRaw _ _ | filter _ | whereEntity _ => cases hset

end UpdateCall

namespace UpdateInv

variable {a : Alias} {calls : List UpdateCall} {t : QueryState}

theorem lastSet_kept (h : UpdateInv a calls t) (hnone : t.buildError = none) {values : Fields}
    (hv : lastSet calls = some values) : a.refusesUpdate values = false := by
  cases hr : a.refusesUpdate values
  · rfl
  · refine absurd hnone (h.refused (List.any_eq_true.2 ⟨_, set_mem_of_lastSet hv, ?_⟩))
    simpa [UpdateCall.refused] using hr

theorem rebind (h : UpdateInv a calls t) (hraw : RawApart (rawSql a calls)) {rows : List Fields}
    (hkeys : ∀ v ∈ rows.head?, (v.map Prod.fst).Nodup) {t' : QueryState}
    (hrun : { t with valuesSet := rows }.run Update.bindAssignments = .ok t') :
    t'.mainAlias = .ok a ∧ t'.buildError = t.buildError ∧
      (∀ v ∈ rows.head?, a.refusesUpdate v = false) ∧
      ∃ bs, BoundFor t' a (rows.head?.or (lastSet calls)) bs ∧
        AssignmentsAgree t' (rawSql a calls) bs := by
  obtain ⟨bs₀, hbound, -, hagree⟩ := h.agree
  cases rows with
  | nil =>
    simp only [QueryState.run, run_bindAssignments_nil { t with valuesSet := [] } rfl,
      Except.ok.injEq] at hrun
    subst hrun
    refine ⟨h.main, rfl, by simp, bs₀, ?_, hagree.congr _ rfl fun _ => rfl⟩
    simp only [List.head?_nil, Option.none_or]
    unfold BoundFor at hbound ⊢
    rwa [QueryState.boundValues_congr rfl]
  | cons v rest =>
    have hb : ({ t with valuesSet := v :: rest } : QueryState).dropBound.boundValues =
        t.boundValues := QueryState.boundValues_congr rfl
    simp only [QueryState.run, run_bindAssignments { t with valuesSet := v :: rest } h.main rfl,
      hb] at hrun
    cases hbv : t.boundValues v a.entity with
    | error err =>
      rw [hbv] at hrun
      cases hrun
    | ok bs =>
      rw [hbv] at hrun
      simp only [Except.ok.injEq] at hrun
      subst hrun
      obtain ⟨hnodup, -, -⟩ := QueryState.boundValues_spec hbv (hkeys v rfl)
      have hok : a.refusesUpdate v = false := by
        cases hr : a.refusesUpdate v
        · rfl
        · obtain ⟨err, herr⟩ := QueryState.boundValues_isError.2 hr
          rw [hbv] at herr
          cases herr
      refine ⟨h.main, rfl, by simpa using hok, bs, .inl ?_,
        ((hagree.dropBound hraw).congr { t with valuesSet := v :: rest }.dropBound rfl
          fun _ => rfl).bind hnodup⟩
      rw [← hbv]
      exact congrFun (congrFun (QueryState.boundValues_congr rfl) v) a.entity

end UpdateInv

theorem update_start (reg : Registry) (d : Dialect) (target : String) :
    (Builder.update reg d target).valuesSet = [] ∧
      (Builder.update reg d target).assignments = [] := by
  simp only [Builder.update, QueryState.apply, QueryM.run_bind, QueryM.run_record, registerMain,
    run_registerSource, QueryM.run_setMainAlias, QueryM.run_pure]
  cases (QueryState.new d .update).aliases.create (reg.sourceSpec target none) with
  | error e => simp [QueryState.new]
  | ok r =>
    cases hm : r.1.setMain r.2.name <;> simp [QueryState.new, hm]

open UpdateCall in
/-- The SET list of an update builder after any calls. Build an update of a target whose main
alias is `a`, then make calls whose names keep apart from those of bound assignments. A refused
call leaves a failure, and a refused last object leaves raw assignments only. A builder without
failure compiles the SET list the calls describe, and so does it once the object is bound again
to the rows the listeners give back. -/
theorem update_setList (reg : Registry) (d : Dialect) (target : String) {a : Alias}
    (hmain : (Builder.update reg d target).mainAlias = .ok a) (hapart : a.VersionApart)
    (calls : List UpdateCall) (hcalls : ∀ c ∈ calls, c.Apart) :
    let t := applyAll (Builder.update reg d target) calls
    (calls.any (·.refused a) → t.buildError ≠ none) ∧
      (∀ values, lastSet calls = some values → a.refusesUpdate values →
        ∀ c sql, (c, sql) ∈ t.assignments → rawSql a calls c = some sql) ∧
      (t.buildError = none →
        SetList a (rawSql a calls) (lastSet calls) t ∧
          ∀ rows t', (∀ v ∈ rows.head?, (v.map Prod.fst).Nodup) →
            { t with valuesSet := rows }.run Update.bindAssignments = .ok t' →
            SetList a (rawSql a calls) (rows.head?.or (lastSet calls)) t') := by
  intro t
  obtain ⟨hv₀, ha₀⟩ := update_start reg d target
  have h : UpdateInv a calls t := (UpdateInv.start hmain hv₀ ha₀).applyAll calls hcalls
  have hraw : RawApart (rawSql a calls) := rawApart_rawSql hcalls
  have hkeys : ∀ v, lastSet calls = some v → (v.map Prod.fst).Nodup :=
    fun v hv => hcalls _ (set_mem_of_lastSet hv)
  obtain ⟨bs, hbound, -, hagree⟩ := h.agree
  refine ⟨h.refused, fun values hv hrefused c sql hc => ?_, fun hnone => ⟨?_, ?_⟩⟩
  · -- a refused object binds nothing, so only raw assignments are left
    have hbs : bs = [] := by
      unfold BoundFor at hbound
      rw [hv] at hbound
      rcases hbound with hok | ⟨-, hbs⟩
      · obtain ⟨err, herr⟩ := QueryState.boundValues_isError.2 hrefused
        rw [hok] at herr
        cases herr
      · exact hbs
    subst hbs
    rcases (hagree.mem_iff c sql).1 hc with hr | ⟨-, hb⟩
    · exact hr
    · simp at hb
  · exact SetList.of_agree h.main hapart hraw hagree hbound (fun v hv => h.lastSet_kept hnone hv)
      hkeys
  · intro rows t' hrows hrun
    obtain ⟨hmain', -, hok, bs', hbound', hagree'⟩ := h.rebind hraw hrows hrun
    have hhead : ∀ v, rows.head?.or (lastSet calls) = some v →
        a.refusesUpdate v = false ∧ (v.map Prod.fst).Nodup := by
      intro v hv
      cases rows with
      | nil =>
        simp only [List.head?_nil, Option.none_or] at hv
        exact ⟨h.lastSet_kept hnone hv, hkeys v hv⟩
      | cons r rest =>
        simp only [List.head?_cons, Option.some_or, Option.some.injEq] at hv
        subst hv
        exact ⟨hok _ rfl, hrows _ rfl⟩
    exact SetList.of_agree hmain' hapart hraw hagree' hbound' (fun v hv => (hhead v hv).1)
      fun v hv => (hhead v hv).2

/-- The SET list of an update of the table `users` that sets a name and then gives `title` raw
SQL. -/
theorem update_setList_users :
    let a : Alias := { kind := .source, name := "users", tablePath := some "users" }
    let calls := [UpdateCall.set [("name", .str "x")], .setRaw "title" "NOW()"]
    let t := UpdateCall.applyAll (Builder.update {} .postgres "users") calls
    (Builder.update {} .postgres "users").mainAlias = .ok a ∧ a.VersionApart ∧
      (∀ c ∈ calls, c.Apart) ∧
      ((calls.any (·.refused a) → t.buildError ≠ none) ∧
        (∀ values, UpdateCall.lastSet calls = some values → a.refusesUpdate values →
          ∀ c sql, (c, sql) ∈ t.assignments → UpdateCall.rawSql a calls c = some sql) ∧
        (t.buildError = none →
          SetList a (UpdateCall.rawSql a calls) (UpdateCall.lastSet calls) t ∧
            ∀ rows t', (∀ v ∈ rows.head?, (v.map Prod.fst).Nodup) →
              { t with valuesSet := rows }.run Update.bindAssignments = .ok t' →
              SetList a (UpdateCall.rawSql a calls)
                (rows.head?.or (UpdateCall.lastSet calls)) t')) := by
  intro a calls t
  have hmain : (Builder.update {} .postgres "users").mainAlias = .ok a := rfl
  have hapart : a.VersionApart := fun e vc dc he => by cases he
  have hcalls : ∀ c ∈ calls, c.Apart := by
    simp only [calls, List.mem_cons, List.mem_nil_iff, or_false, forall_eq_or_imp, forall_eq,
      UpdateCall.Apart]
    exact ⟨by decide, by decide +kernel⟩
  exact ⟨hmain, hapart, hcalls, update_setList {} .postgres "users" hmain hapart calls hcalls⟩

/-- Raw SQL that starts as the SQL of a bound assignment is dropped when an object is set after
it: the raw assignment of `first_name` is lost. -/
theorem setRaw_boundPrefix_dropped :
    (UpdateCall.applyAll (Builder.update {} .postgres "users")
      [.setRaw "first_name" ":orm_update_first", .set [("lastName", .str "b")]]).assignments =
      [("lastName", ":orm_update_0")] := by
  decide +kernel

/-- A column that is both the version and the update date column is assigned twice. -/
example :
    let stamp : Column :=
      { propertyPath := "stamp", databaseName := "stamp", type := .integer, isVersion := true,
        isUpdateDate := true }
    let doc : Entity :=
      { name := "Doc", tableName := "docs",
        columns := [{ propertyPath := "title", databaseName := "title", type := .text }, stamp] }
    let t := UpdateCall.applyAll (Builder.update { entities := [doc] } .postgres "Doc")
      [.setRaw "title" "'t'"]
    t.setList.map Prod.fst = ["title", "stamp", "stamp"] := by
  rfl

end EntitySql
