import EntitySql.Proofs.Placeholder.References
import EntitySql.Proofs.Query.Paging
import EntitySql.Proofs.Update.Assignments

/-!
# The cells of an insert and its parameters

An insert builder keeps one named parameter per cell of its shape that has a value,
`orm_insert_r_c` for row `r` and column `c`, and writes its `VALUES` rows with these names. The
shape is read twice: when the rows are bound, at each call that sets the target or the rows, and
when the statement is compiled. This module shows the two agree.

`CellsInv` says that a builder without a failure, with rows and a main alias, binds exactly the
cells of its shape; each call keeps it (`CellsInv.step`), and so does binding the rows again, as
happens after the listeners before an insert. The statement of such a builder is read with
`ReadsAs`: its body refers, in order, to the parameters of the cells, and its conflict clause to
those of its raw conflict text (`InsertFrame.readsAs_statement`). When the raw texts refer to
nothing, escaping fills the placeholders with the values of the cells, row by row
(`insert_cellsAgree`); when the conflict text refers to a name that has no value, escaping fails
at that name (`InsertFrame.queryAndParameters_conflict_unbound`).
-/

namespace EntitySql

namespace InsertShape

def cell (shape : InsertShape) (r c : Nat) : Option Value :=
  (shape.rows[r]?.bind fun row => row[c]?).join

/-- The named parameters of the cells that have a value, row by row: cell `c` of row `r` under
`orm_insert_r_c`. -/
def params (shape : InsertShape) : List (String × Value) :=
  shape.rows.zipIdx.flatMap fun (row, r) =>
    row.zipIdx.filterMap fun (v, c) => v.map fun v => (insertParameter r c, v)

def values (shape : InsertShape) : List Value :=
  shape.rows.flatMap fun row => row.filterMap id

theorem mem_params {shape : InsertShape} {k : String} {v : Value} :
    (k, v) ∈ shape.params ↔ ∃ r c, k = insertParameter r c ∧ shape.cell r c = some v := by
  simp only [params, cell, List.mem_flatMap, List.mem_filterMap, List.mem_zipIdx_iff_getElem?,
    Option.map_eq_some_iff, Prod.mk.injEq, Prod.exists]
  constructor
  · rintro ⟨row, r, hrow, o, c, hc, w, rfl, rfl, rfl⟩
    exact ⟨r, c, rfl, by simp [hrow, hc]⟩
  · rintro ⟨r, c, rfl, hcell⟩
    obtain ⟨row, hrow, hc⟩ : ∃ row, shape.rows[r]? = some row ∧ row[c]? = some (some v) := by
      simpa [Option.join_eq_some_iff, Option.bind_eq_some_iff] using hcell
    exact ⟨row, r, hrow, some v, c, hc, v, rfl, rfl, rfl⟩

theorem params_map_snd (shape : InsertShape) : shape.params.map Prod.snd = shape.values := by
  have hrow : ∀ (row : List (Option Value)) (r : Nat),
      (row.zipIdx.filterMap fun (v, c) => v.map fun v => (insertParameter r c, v)).map Prod.snd =
        row.filterMap id := by
    intro row r
    conv_rhs => rw [← List.zipIdx_map_fst 0 row, List.filterMap_map]
    rw [List.map_filterMap]
    congr 1
    funext x
    obtain ⟨v, c⟩ := x
    cases v <;> rfl
  have hrows : shape.rows.zipIdx.flatMap (fun a => a.1.filterMap id) =
      (shape.rows.zipIdx.map Prod.fst).flatMap fun row => row.filterMap id := by
    rw [List.flatMap_map]
  unfold params values
  rw [List.map_flatMap]
  simpa [hrow, List.zipIdx_map_fst] using hrows

end InsertShape

/-! ## The names of the cells -/

theorem insertParameter_inj {r c r' c' : Nat} (h : insertParameter r c = insertParameter r' c') :
    r = r' ∧ c = c' := by
  have hl := congrArg String.toList h
  have hsep : "_".toList = ['_'] := by simp
  unfold insertParameter at hl
  simp only [String.toList_append, List.append_assoc] at hl
  have hrest := List.append_cancel_left hl
  rw [hsep, List.singleton_append, List.singleton_append] at hrest
  simp only [Nat.toString_eq_repr, Nat.toList_repr] at hrest
  obtain ⟨hr, hc⟩ := DataSource.append_underscore_inj Nat.underscore_not_in_toDigits
    Nat.underscore_not_in_toDigits hrest
  constructor
  · rw [← Nat.ofDigitChars_ten_toDigits (n := r), hr, Nat.ofDigitChars_ten_toDigits]
  · rw [← Nat.ofDigitChars_ten_toDigits (n := c), hc, Nat.ofDigitChars_ten_toDigits]

theorem isPrefixOf_insertParameter (r c : Nat) :
    "orm_insert_".isPrefixOf (insertParameter r c) := by
  simp [insertParameter, String.isPrefixOf]

theorem isName_insertParameter (r c : Nat) : Sql.isName (insertParameter r c).toList = true := by
  have hdigits : ∀ n, ∀ ch ∈ Nat.toDigits 10 n, Placeholder.isNameChar ch = true := by
    intro n ch hch
    have hd : ch.isDigit = true := Nat.isDigit_of_mem_toDigits (by decide) (by decide) hch
    simp [Placeholder.isNameChar, Char.isAlphanum, hd]
  unfold insertParameter
  simp only [String.toList_append, Nat.toString_eq_repr, Nat.toList_repr]
  have hstart : "orm_insert_".toList = 'o' :: "rm_insert_".toList := by simp
  have hsep : "_".toList = ['_'] := by simp
  rw [hstart, hsep]
  simp only [List.cons_append, Sql.isName, Bool.and_eq_true, List.all_append]
  exact ⟨by decide, ⟨⟨by decide, List.all_eq_true.2 (hdigits r)⟩, by decide⟩,
    List.all_eq_true.2 (hdigits c)⟩

theorem lookup_insertParameter {shape : InsertShape} {ps : List (String × Value)}
    (hps : ∀ p, p ∈ ps ↔ p ∈ shape.params) (r c : Nat) :
    ps.lookup (insertParameter r c) = shape.cell r c := by
  have hcell : ∀ w, (insertParameter r c, w) ∈ ps → shape.cell r c = some w := by
    intro w hw
    obtain ⟨r', c', hname, hw'⟩ := InsertShape.mem_params.1 ((hps _).1 hw)
    obtain ⟨rfl, rfl⟩ := insertParameter_inj hname
    exact hw'
  cases hv : shape.cell r c with
  | some v =>
    refine Family.lookup_eq_some_of_mem ((hps _).2 (InsertShape.mem_params.2 ⟨r, c, rfl, hv⟩))
      fun w hw => ?_
    rw [hv] at hcell
    exact (Option.some.inj (hcell w hw)).symm
  | none =>
    cases hl : ps.lookup (insertParameter r c) with
    | none => rfl
    | some w =>
      have := hcell w (Family.mem_of_lookup_eq_some hl)
      rw [hv] at this
      cases this

/-- The named parameters `ps` bind the cells of `shape` and nothing else under the prefix
`orm_insert_`: the parameter of cell `(r, c)` holds its value, or is unbound when the cell has
none, and every bound name with the prefix is a cell's. -/
structure CellsBound (shape : InsertShape) (ps : List (String × Value)) : Prop where
  cell : ∀ r c, ps.lookup (insertParameter r c) = shape.cell r c
  only : ∀ k v, ps.lookup k = some v → "orm_insert_".isPrefixOf k → ∃ r c, k = insertParameter r c

theorem lookup_filter_not_prefix {k : String} (hk : "orm_insert_".isPrefixOf k)
    (ps : List (String × Value)) :
    (ps.filter fun (k, _) => !"orm_insert_".isPrefixOf k).lookup k = none := by
  induction ps with
  | nil => rfl
  | cons p ps ih =>
    obtain ⟨k', v⟩ := p
    by_cases hk' : "orm_insert_".isPrefixOf k'
    · simp [hk', ih]
    · have hne : (k == k') = false := by
        simpa using fun h : k = k' => hk' (h ▸ hk)
      simp [hk', List.lookup_cons, ih, hne]

theorem cellsBound_rebind (shape : InsertShape) (ps : List (String × Value)) :
    CellsBound shape
      (mergeParams (ps.filter fun (k, _) => !"orm_insert_".isPrefixOf k) shape.params) where
  cell r c := by
    rw [lookup_mergeParams, lookup_filter_not_prefix (isPrefixOf_insertParameter r c),
      Option.or_none]
    exact lookup_insertParameter (fun p => List.mem_reverse) r c
  only k v hv hk := by
    rw [lookup_mergeParams, lookup_filter_not_prefix hk, Option.or_none] at hv
    obtain ⟨r, c, hname, -⟩ :=
      InsertShape.mem_params.1 (List.mem_reverse.1 (Family.mem_of_lookup_eq_some hv))
    exact ⟨r, c, hname⟩

theorem CellsBound.lookup_params {shape : InsertShape} {ps : List (String × Value)}
    (h : CellsBound shape ps) : ∀ p ∈ shape.params, ps.lookup p.1 = some p.2 := by
  intro p hp
  obtain ⟨r, c, hk, hv⟩ := InsertShape.mem_params.1 hp
  rw [hk, h.cell r c, hv]

/-! ## Binding the cells -/

@[simp] theorem QueryState.insertShape_parameters (s : QueryState) (ps : List (String × Value)) :
    ({ s with parameters := ps }).insertShape = s.insertShape := rfl

open QueryM in
theorem Insert.run_bindCells (s : QueryState) :
    Insert.bindCells.run.run s =
      if s.valuesSet.isEmpty ∨ !s.aliases.hasMain then (.ok (), s)
      else
        let kept := s.parameters.filter fun (k, _) => !"orm_insert_".isPrefixOf k
        match s.insertShape with
        | .ok shape => (.ok (), { s with parameters := mergeParams kept shape.params })
        | .error e => (.error e, { s with parameters := kept }) := by
  by_cases h : s.valuesSet.isEmpty ∨ !s.aliases.hasMain
  · simp only [Insert.bindCells, run_bind, run_get, h, if_true]
    rfl
  · simp only [Insert.bindCells, run_bind, run_get, h, if_false, run_modify, run_lift,
      QueryState.insertShape_parameters]
    cases s.insertShape <;> rfl

/-- An insert builder without a failure, with rows and a main alias, binds the cells of its
shape. -/
def CellsInv (t : QueryState) : Prop :=
  t.buildError = none → t.valuesSet ≠ [] → t.aliases.hasMain = true →
    ∃ shape, t.insertShape = .ok shape ∧ CellsBound shape t.parameters

theorem cellsInv_of_bindCells {s t : QueryState} (h : Insert.bindCells.run.run s = (.ok (), t)) :
    CellsInv t := by
  rw [Insert.run_bindCells] at h
  intro _ hrows hmain
  split at h
  · -- nothing was done, for want of rows or of a main alias
    rename_i hskip
    obtain rfl := (Prod.mk.inj h).2
    rcases hskip with hempty | hnomain
    · exact absurd (List.isEmpty_iff.1 hempty) hrows
    · simp [hmain] at hnomain
  · split at h
    · rename_i shape hshape
      obtain rfl := (Prod.mk.inj h).2
      exact ⟨shape, by simpa using hshape, cellsBound_rebind shape s.parameters⟩
    · cases h

open QueryM in
theorem Insert.apply_bindValues (s : QueryState) :
    s.apply Insert.bindValues = match Insert.bindCells.run.run s with
      | (.ok _, t) => t
      | (.error e, t) => t.fail e := by
  simp only [QueryState.apply, Insert.bindValues, run_bind, run_record]
  rcases Insert.bindCells.run.run s with ⟨_ | _, t⟩ <;> rfl

theorem cellsInv_bindValues (s : QueryState) : CellsInv (s.apply Insert.bindValues) := by
  rw [Insert.apply_bindValues]
  rcases h : Insert.bindCells.run.run s with ⟨_ | u, t⟩
  · intro hnone
    simp at hnone
  · exact cellsInv_of_bindCells h

open QueryM in
theorem Insert.apply_bindValues_frame (s : QueryState) :
    ∃ ps e?, s.apply Insert.bindValues = { s with parameters := ps, buildError := e? } := by
  rw [Insert.apply_bindValues, Insert.run_bindCells]
  by_cases h : s.valuesSet.isEmpty ∨ !s.aliases.hasMain
  · simp only [h, if_true]
    exact ⟨s.parameters, s.buildError, rfl⟩
  · simp only [h, if_false]
    cases s.insertShape with
    | ok shape => exact ⟨_, s.buildError, rfl⟩
    | error e =>
      dsimp only
      unfold QueryState.fail
      split
      · exact ⟨_, s.buildError, rfl⟩
      · exact ⟨_, some e, rfl⟩

open QueryM in
theorem Insert.apply_values (rows : List Fields) (s : QueryState) :
    s.apply (Insert.values rows) = ({ s with valuesSet := rows }).apply Insert.bindValues := by
  simp only [QueryState.apply, Insert.values, run_bind, run_modify]

open QueryM in
theorem Insert.apply_intoTable (reg : Registry) (target : String) (s : QueryState) :
    s.apply (Insert.intoTable reg target) =
      ((record (registerMain reg target none)).run.run
        { s with aliases := s.aliases.removeKind .source }).2.apply Insert.bindValues := by
  simp only [QueryState.apply, Insert.intoTable, run_bind, run_modify, run_record]
  rcases (registerMain reg target none).run.run { s with aliases := s.aliases.removeKind .source }
    with ⟨_ | _, t⟩ <;> rfl

/-! ## Sources of an insert -/

namespace Aliases

def TablesOnly (as : Aliases) : Prop := ∀ a ∈ as.items, a.subQuery = none

theorem create_subQuery {as as' : Aliases} {spec : AliasSpec} {a : Alias}
    (h : as.create spec = .ok (as', a)) : a.subQuery = spec.subQuery := by
  unfold create at h
  cases hn : spec.name with
  | none =>
    simp only [hn, bind, Except.bind, pure, Except.pure, Except.ok.injEq, Prod.mk.injEq] at h
    rw [← h.2]
  | some n =>
    by_cases hfree : (as.find? n).isSome
    · simp [hn, hfree, bind, Except.bind, throw, throwThe, MonadExceptOf.throw] at h
    · simp only [hn, hfree, Bool.false_eq_true, ↓reduceIte, bind, Except.bind, pure,
        Except.pure, Except.ok.injEq, Prod.mk.injEq] at h
      rw [← h.2]

theorem setMain_items {as as' : Aliases} {name : String} (h : as.setMain name = .ok as') :
    as'.items = as.items := by
  unfold setMain at h
  cases hg : as.get name with
  | error e => simp [hg, bind, Except.bind] at h
  | ok a =>
    cases hm : as.main with
    | none =>
      simp only [hg, hm, bind, Except.bind, pure, Except.pure, Except.ok.injEq] at h
      rw [← h]
    | some current =>
      by_cases hc : current = name
      · simp only [hg, hm, hc, bind, Except.bind, ↓reduceIte, pure, Except.pure,
          Except.ok.injEq] at h
        rw [← h]
      · simp [hg, hm, hc, bind, Except.bind, throw, throwThe, MonadExceptOf.throw] at h

theorem TablesOnly.removeKind {as : Aliases} (h : as.TablesOnly) (k : AliasKind) :
    (as.removeKind k).TablesOnly := fun a ha => h a (List.mem_filter.1 ha).1

theorem TablesOnly.create {as as' : Aliases} {spec : AliasSpec} {a : Alias} (h : as.TablesOnly)
    (hspec : spec.subQuery = none) (hc : as.create spec = .ok (as', a)) : as'.TablesOnly := by
  intro b hb
  rw [(create_extends hc).2, List.mem_append, List.mem_singleton] at hb
  rcases hb with hb | rfl
  · exact h b hb
  · rw [create_subQuery hc, hspec]

end Aliases

theorem Registry.sourceSpec_subQuery (reg : Registry) (target : String) (name : Option String) :
    (reg.sourceSpec target name).subQuery = none := by
  unfold Registry.sourceSpec
  split <;> rfl

open QueryM in
theorem record_registerMain_frame (reg : Registry) (target : String) (s : QueryState) :
    ∃ as ps e?, ((record (registerMain reg target none)).run.run s).2 =
      { s with aliases := as, parameters := ps, buildError := e? } ∧
      (s.aliases.TablesOnly → as.TablesOnly) := by
  have hfail : ∀ (t : QueryState) (e : OrmError), ∃ e?, t.fail e = { t with buildError := e? } := by
    intro t e
    unfold QueryState.fail
    split
    · exact ⟨t.buildError, rfl⟩
    · exact ⟨some e, rfl⟩
  simp only [run_record, registerMain, run_bind, run_registerSource]
  rcases hc : s.aliases.create (reg.sourceSpec target none) with _ | ⟨as, a⟩
  · obtain ⟨e?, he⟩ := hfail { s with parameters := reg.bindSource target s.parameters } ‹_›
    exact ⟨s.aliases, _, e?, he, id⟩
  · have has : s.aliases.TablesOnly → as.TablesOnly :=
      fun hs => hs.create (reg.sourceSpec_subQuery target none) hc
    simp only [run_setMainAlias]
    rcases hm : as.setMain a.name with _ | as'
    · obtain ⟨e?, he⟩ := hfail
        { s with parameters := reg.bindSource target s.parameters, aliases := as } ‹_›
      exact ⟨as, _, e?, he, has⟩
    · refine ⟨as', _, s.buildError, rfl, fun hs b hb => ?_⟩
      rw [Aliases.setMain_items hm] at hb
      exact has hs b hb

theorem Insert.apply_intoTable_frame (reg : Registry) (target : String) (s : QueryState) :
    ∃ as ps e?, s.apply (Insert.intoTable reg target) =
      { s with aliases := as, parameters := ps, buildError := e? } ∧
      (s.aliases.TablesOnly → as.TablesOnly) := by
  obtain ⟨as, ps, e?, hreg, has⟩ :=
    record_registerMain_frame reg target { s with aliases := s.aliases.removeKind .source }
  rw [Insert.apply_intoTable, hreg]
  obtain ⟨ps', e', hbind⟩ := Insert.apply_bindValues_frame
    { s with aliases := as, parameters := ps, buildError := e? }
  exact ⟨as, ps', e', hbind, fun hs => has (hs.removeKind _)⟩

open QueryM in
theorem Insert.run_bindValues (s : QueryState) :
    Insert.bindValues.run.run s = (.ok (), s.apply Insert.bindValues) := by
  simp only [QueryState.apply, Insert.bindValues, run_bind, run_record]
  rcases Insert.bindCells.run.run s with ⟨_ | _, t⟩ <;> rfl

open QueryM in
theorem Insert.run_intoTable (reg : Registry) (target : String) (s : QueryState) :
    (Insert.intoTable reg target).run.run s = (.ok (), s.apply (Insert.intoTable reg target)) := by
  simp only [QueryState.apply, Insert.intoTable, run_bind, run_modify, run_record]
  rcases (registerMain reg target none).run.run { s with aliases := s.aliases.removeKind .source }
    with ⟨_ | _, t⟩ <;> exact Insert.run_bindValues _

theorem Insert.apply_values_frame (rows : List Fields) (s : QueryState) :
    ∃ ps e?, s.apply (Insert.values rows) =
      { s with valuesSet := rows, parameters := ps, buildError := e? } := by
  rw [Insert.apply_values]
  exact Insert.apply_bindValues_frame _

/-! ## The calls of an insert builder -/

/-- A fluent call of an insert builder. A single row is `values [row]`; generating client-side
keys before a run sets the rows with the generated keys, as a `values` call does. -/
inductive InsertCall where
  | intoTable (target : String)
  | values (rows : List Fields)
  | orIgnore
  | onConflict (statement : String)
  | orUpdate (u : Upsert)
  | returning (r : Returning)
  | updateEntity (enabled : Bool)

namespace InsertCall

/-- The building step of a call. -/
def step (reg : Registry) : InsertCall → QueryM Unit
  | .intoTable target => Insert.intoTable reg target
  | .values rows => Insert.values rows
  | .orIgnore => Insert.orIgnore
  | .onConflict statement => Insert.onConflict statement
  | .orUpdate u => Insert.orUpdate u
  | .returning r => modify fun s => { s with returning := some r }
  | .updateEntity enabled => modify fun s => { s with updateEntity := enabled }

def applyAll (reg : Registry) (s : QueryState) (calls : List InsertCall) : QueryState :=
  calls.foldl (fun t c => t.apply (c.step reg)) s

/-- The raw text a call gives the statement, an `ON CONFLICT` text or raw returned columns, is
read with no reference whatever boundary follows it. -/
def NamesNothing (d : Dialect) : InsertCall → Prop
  | .onConflict statement => Placeholder.ReadsAs d Sql.Boundary statement.toList []
  | .returning (.raw sql) => Placeholder.ReadsAs d Sql.Boundary sql.toList []
  | _ => True

theorem applyAll_induction {P : QueryState → Prop} (reg : Registry) {calls : List InsertCall}
    (hstep : ∀ s, ∀ c ∈ calls, P s → P (s.apply (c.step reg))) :
    ∀ {s}, P s → P (applyAll reg s calls) := by
  induction calls with
  | nil => exact fun h => h
  | cons c calls ih =>
    intro s h
    exact ih (fun t c' hc' => hstep t c' (List.mem_cons_of_mem c hc'))
      (hstep s c List.mem_cons_self h)

end InsertCall

/-- What the statement of an insert builder is written from, whatever the calls: its dialect,
quoting on, and sources that are tables or entities. -/
structure InsertFrame (d : Dialect) (t : QueryState) : Prop where
  dialect : t.dialect = d
  escaping : t.disableEscaping = false
  tables : t.aliases.TablesOnly

open Placeholder in
/-- The raw texts of an insert builder: its conflict text refers to the parameters rs, its raw
returned columns to none. -/
structure RawTexts (d : Dialect) (rs : List (String × Bool)) (t : QueryState) : Prop where
  conflict : ∀ text, t.onConflict = some text → ReadsAs d Sql.Boundary text.toList rs
  returning : ∀ sql, t.returning = some (.raw sql) → ReadsAs d Sql.Boundary sql.toList []

/-- What every insert builder keeps that is reached by calls whose raw texts refer to nothing:
its frame, raw texts without parameters, and its cells bound. -/
structure InsertInv (d : Dialect) (t : QueryState) : Prop
    extends InsertFrame d t, RawTexts d [] t where
  cells : CellsInv t

section Steps

variable {d : Dialect} {s : QueryState}

theorem InsertFrame.start (d : Dialect) : InsertFrame d (Builder.insert d) where
  dialect := rfl
  escaping := rfl
  tables _ ha := absurd ha List.not_mem_nil

theorem InsertFrame.step (h : InsertFrame d s) (reg : Registry) (c : InsertCall) :
    InsertFrame d (s.apply (c.step reg)) := by
  cases c with
  | intoTable target =>
    obtain ⟨as, ps, e?, hs, has⟩ := Insert.apply_intoTable_frame reg target s
    rw [InsertCall.step, hs]
    exact ⟨h.dialect, h.escaping, has h.tables⟩
  | values rows =>
    obtain ⟨ps, e?, hs⟩ := Insert.apply_values_frame rows s
    rw [InsertCall.step, hs]
    exact ⟨h.dialect, h.escaping, h.tables⟩
  | _ => exact ⟨h.dialect, h.escaping, h.tables⟩

/-- Each call leaves the cells bound, or a failure: choosing the target or the rows binds them
afresh, and the other calls touch neither the rows nor the parameters. -/
theorem CellsInv.step (h : CellsInv s) (reg : Registry) (c : InsertCall) :
    CellsInv (s.apply (c.step reg)) := by
  cases c with
  | intoTable target =>
    rw [InsertCall.step, Insert.apply_intoTable]
    exact cellsInv_bindValues _
  | values rows =>
    rw [InsertCall.step, Insert.apply_values]
    exact cellsInv_bindValues _
  | _ => exact h

theorem RawTexts.step (h : RawTexts d [] s) (reg : Registry) {c : InsertCall}
    (hc : c.NamesNothing d) : RawTexts d [] (s.apply (c.step reg)) := by
  cases c with
  | intoTable target =>
    obtain ⟨as, ps, e?, hs, -⟩ := Insert.apply_intoTable_frame reg target s
    rw [InsertCall.step, hs]
    exact ⟨h.conflict, h.returning⟩
  | values rows =>
    obtain ⟨ps, e?, hs⟩ := Insert.apply_values_frame rows s
    rw [InsertCall.step, hs]
    exact ⟨h.conflict, h.returning⟩
  | onConflict statement =>
    refine ⟨fun text ht => ?_, h.returning⟩
    cases ht
    exact hc
  | returning r =>
    refine ⟨h.conflict, fun sql hr => ?_⟩
    cases hr
    exact hc
  | _ => exact ⟨h.conflict, h.returning⟩

namespace InsertInv

theorem start (d : Dialect) : InsertInv d (Builder.insert d) where
  toInsertFrame := InsertFrame.start d
  conflict _ h := by cases h
  returning _ h := by cases h
  cells _ hrows := absurd rfl hrows

theorem applyAll (reg : Registry) {calls : List InsertCall}
    (hcalls : ∀ c ∈ calls, c.NamesNothing d) (h : InsertInv d s) :
    InsertInv d (InsertCall.applyAll reg s calls) :=
  InsertCall.applyAll_induction reg (fun _ c hc h =>
    ⟨h.toInsertFrame.step reg c, h.toRawTexts.step reg (hcalls c hc), h.cells.step reg c⟩) h

theorem rebind (h : InsertInv d s) {rows : List Fields} {t : QueryState}
    (hrun : { s with valuesSet := rows }.run Insert.bindCells = .ok t) : InsertInv d t := by
  have hbind : Insert.bindCells.run.run { s with valuesSet := rows } = (.ok (), t) := by
    unfold QueryState.run at hrun
    split at hrun
    · rename_i u hu
      cases hrun
      exact hu
    · cases hrun
  have hcells := cellsInv_of_bindCells hbind
  rw [Insert.run_bindCells] at hbind
  split at hbind
  · obtain rfl := (Prod.mk.inj hbind).2
    exact ⟨⟨h.dialect, h.escaping, h.tables⟩, ⟨h.conflict, h.returning⟩, hcells⟩
  · split at hbind
    · obtain rfl := (Prod.mk.inj hbind).2
      exact ⟨⟨h.dialect, h.escaping, h.tables⟩, ⟨h.conflict, h.returning⟩, hcells⟩
    · cases hbind

end InsertInv

end Steps

/-! ## The statement of an insert -/

namespace InsertShape

/-- The `VALUES` rows of a shape: each row's cells in parentheses, a cell with a value written as
its parameter `:orm_insert_r_c` and any other as the dialect's default keyword. -/
def valuesSql (shape : InsertShape) (d : Dialect) : String :=
  ", ".intercalate (shape.rows.zipIdx.map fun (row, r) =>
    "(" ++ ", ".intercalate (row.zipIdx.map fun (v, c) =>
      match v with
      | some _ => ":" ++ insertParameter r c
      | none => d.defaultKeyword) ++ ")")

end InsertShape

namespace QueryState

/-- The keyword that starts an insert: the dialect's keyword that skips conflicting rows, when
conflicts are ignored and it has one. -/
def insertKeyword (t : QueryState) : Option String :=
  if t.onIgnore then t.dialect.insertIgnoreKeyword else none

/-- The text between the table and the conflict clause: the columns, the rows read back and the
`VALUES` rows, or the dialect's clause of a row with no given column. -/
def insertBody (t : QueryState) (shape : InsertShape) (r : Option Returning) : String :=
  if shape.columns.isEmpty then t.outputClause .insert r ++ " " ++ t.dialect.emptyValuesClause
  else "(" ++ ", ".intercalate (shape.columns.map t.escape) ++ ")" ++
    t.outputClause .insert r ++ " VALUES " ++ shape.valuesSql t.dialect

theorem compileInsert_eq_ok {t : QueryState} {sql : String} (h : t.compileInsert = .ok sql) :
    ∃ a shape r conflict, t.mainAlias = .ok a ∧ t.insertShape = .ok shape ∧
      t.returningColumns .insert = .ok r ∧
      t.conflictClause (a.sourceSql t.dialect) t.insertKeyword.isSome = .ok conflict ∧
      sql = t.insertKeyword.getD "INSERT" ++ " INTO " ++ a.sourceSql t.dialect ++
        t.insertBody shape r ++ conflict ++ t.returningClause r := by
  cases hv : t.valuesSet.isEmpty
  · cases ha : t.mainAlias with
    | error e => simp [compileInsert, mainTable, hv, ha, bind, Except.bind] at h
    | ok a =>
      cases hs : t.insertShape with
      | error e => simp [compileInsert, mainTable, hv, ha, hs, bind, Except.bind, pure, Except.pure] at h
      | ok shape =>
        cases hr : t.returningColumns .insert with
        | error e =>
          simp [compileInsert, mainTable, hv, ha, hs, hr, bind, Except.bind, pure, Except.pure] at h
        | ok r =>
          simp only [compileInsert, mainTable, hv, ha, hs, hr, bind, Except.bind, pure, Except.pure,
            Bool.false_eq_true, if_false] at h
          rw [show (if t.onIgnore = true then t.dialect.insertIgnoreKeyword else none) =
            t.insertKeyword from rfl] at h
          cases hc : t.conflictClause (a.sourceSql t.dialect) t.insertKeyword.isSome with
          | error e =>
            split_ifs at h <;> simp [hc] at h
          | ok conflict =>
            refine ⟨a, shape, r, conflict, rfl, rfl, rfl, hc, ?_⟩
            unfold insertBody
            by_cases h1 : shape.columns.isEmpty
            · by_cases h2 : shape.rows.length > 1
              · simp [h1, h2, throw, throwThe, MonadExceptOf.throw] at h
              · simp only [h1, h2, hc, if_true, if_false, Except.ok.injEq] at h
                rw [← h, if_pos h1]
            · simp only [h1, hc, Bool.false_eq_true, if_false, Except.ok.injEq] at h
              rw [← h, if_neg h1]
              rfl
  · simp [compileInsert, hv, bind, Except.bind, throw, throwThe, MonadExceptOf.throw] at h

end QueryState

/-! ## Reading the statement of an insert -/

theorem mem_of_mapM_except_ok {α β ε : Type} {f : α → Except ε β} :
    ∀ {l : List α} {ys : List β}, l.mapM f = .ok ys → ∀ y ∈ ys, ∃ x ∈ l, f x = .ok y
  | [], ys, h => by
    simp only [List.mapM_nil, pure, Except.pure, Except.ok.injEq] at h
    subst h
    simp
  | a :: l, ys, h => by
    rw [List.mapM_cons] at h
    cases ha : f a with
    | error e => simp [ha, bind, Except.bind] at h
    | ok b =>
      cases hl : l.mapM f with
      | error e => simp [ha, hl, bind, Except.bind] at h
      | ok bs =>
        simp only [ha, hl, bind, Except.bind, pure, Except.pure, Except.ok.injEq] at h
        subst h
        intro y hy
        rcases List.mem_cons.1 hy with rfl | hy
        · exact ⟨a, List.mem_cons_self, ha⟩
        · obtain ⟨x, hx, hfx⟩ := mem_of_mapM_except_ok hl y hy
          exact ⟨x, List.mem_cons_of_mem a hx, hfx⟩

open Placeholder

/-- What follows a cell of a `VALUES` row: the comma before the next cell, or the closing
parenthesis. -/
def CellFollows (rest : List Char) : Prop := ∃ more, rest = ',' :: more ∨ rest = ')' :: more

theorem InsertShape.params_refs (shape : InsertShape) :
    shape.params.map (fun p => (p.1, false)) =
      shape.rows.zipIdx.flatMap fun (row, r) =>
        row.zipIdx.flatMap fun (v, c) => (v.map fun _ => (insertParameter r c, false)).toList := by
  unfold InsertShape.params
  rw [List.map_flatMap]
  congr 1
  funext x
  obtain ⟨row, r⟩ := x
  rw [List.map_filterMap, List.filterMap_eq_flatMap_toList]
  congr 1
  funext y
  obtain ⟨v, c⟩ := y
  cases v <;> rfl

theorem InsertShape.readsAs_valuesSql (shape : InsertShape) (d : Dialect)
    {F : List Char → Prop} :
    ReadsAs d F (shape.valuesSql d).toList (shape.params.map fun p => (p.1, false)) := by
  have hkeyword : d.defaultKeyword.toList.all safeChar = true := by
    unfold Dialect.defaultKeyword
    split <;> decide
  have hcell : ∀ (r : Nat) (x : Option Value × Nat),
      ReadsAs d CellFollows
        (match x.1 with
          | some _ => ":" ++ insertParameter r x.2
          | none => d.defaultKeyword).toList
        (x.1.map fun _ => (insertParameter r x.2, false)).toList := by
    intro r x
    obtain ⟨v, c⟩ := x
    cases v with
    | some w =>
      have htext : (":" ++ insertParameter r c).toList = ':' :: (insertParameter r c).toList := by
        simp [String.toList_append]
      show ReadsAs d CellFollows (":" ++ insertParameter r c).toList [(insertParameter r c, false)]
      rw [htext]
      refine readsAs_ref (isName_insertParameter r c) fun rest hrest => ?_
      obtain ⟨more, rfl | rfl⟩ := hrest <;> simp <;> decide
    | none => exact readsAs_plain (plain_of_safe hkeyword)
  have hrow : ∀ x ∈ shape.rows.zipIdx,
      ReadsAs d (fun _ => True) ("(" ++ ", ".intercalate (x.1.zipIdx.map fun (v, c) =>
          match v with
          | some _ => ":" ++ insertParameter x.2 c
          | none => d.defaultKeyword) ++ ")").toList
        (x.1.zipIdx.flatMap fun (v, c) => (v.map fun _ => (insertParameter x.2 c, false)).toList) := by
    intro x _
    have hclose : ∀ more, CellFollows (')' :: more) := fun more => ⟨more, .inr rfl⟩
    refine ReadsAs.parenthesized ?_ hclose
    let parts : List (String × List (String × Bool)) := x.1.zipIdx.map fun y =>
      ((match y.1 with
        | some _ => ":" ++ insertParameter x.2 y.2
        | none => d.defaultKeyword), (y.1.map fun _ => (insertParameter x.2 y.2, false)).toList)
    have hparts : ∀ p ∈ parts, ReadsAs d CellFollows p.1.toList p.2 := by
      intro p hp
      obtain ⟨y, -, rfl⟩ := List.mem_map.1 hp
      exact hcell x.2 y
    have hjoin := ReadsAs.intercalate (plain_of_safe (by decide : ", ".toList.all safeChar = true))
      (fun more => ⟨_, .inl rfl⟩) (fun _ h => h) hparts
    rw [List.map_map, List.flatMap_map] at hjoin
    exact hjoin
  let rows : List (String × List (String × Bool)) := shape.rows.zipIdx.map fun x =>
    ("(" ++ ", ".intercalate (x.1.zipIdx.map fun (v, c) =>
        match v with
        | some _ => ":" ++ insertParameter x.2 c
        | none => d.defaultKeyword) ++ ")",
      x.1.zipIdx.flatMap fun (v, c) => (v.map fun _ => (insertParameter x.2 c, false)).toList)
  have hrows : ∀ p ∈ rows, ReadsAs d (fun _ => True) p.1.toList p.2 := by
    intro p hp
    obtain ⟨x, hx, rfl⟩ := List.mem_map.1 hp
    exact hrow x hx
  have hjoin : ReadsAs d F (", ".intercalate (rows.map Prod.fst)).toList (rows.flatMap Prod.snd) :=
    ReadsAs.intercalate (plain_of_safe (by decide)) (fun _ => trivial) (fun _ _ => trivial) hrows
  rw [List.map_map, List.flatMap_map] at hjoin
  rw [InsertShape.params_refs]
  exact hjoin

theorem Alias.readsAs_sourceSql {a : Alias} (h : a.subQuery = none) (d : Dialect) :
    ReadsAs d (NotClosing d) (a.sourceSql d).toList [] := by
  simp only [Alias.sourceSql, h, Dialect.escapePath]
  refine readsAs_join (by decide) (by decide) fun x hx => ?_
  obtain ⟨p, -, rfl⟩ := List.mem_map.1 hx
  exact readsAs_escape p fun _ h => h

theorem QueryState.returning_of_raw {t : QueryState} {k : StatementKind} {r : Option Returning}
    (h : t.returningColumns k = .ok r) {sql : String} (hr : r = some (.raw sql)) :
    t.returning = some (.raw sql) := by
  subst hr
  unfold QueryState.returningColumns at h
  cases hret : t.returning with
  | none =>
    simp only [hret] at h
    split_ifs at h
    · cases h
    · split at h <;> simp [pure, Except.pure] at h
  | some r =>
    simp only [hret] at h
    split_ifs at h
    · cases h
    · cases r with
      | raw s => simp [pure, Except.pure] at h; rw [h]
      | columns ps => simp [pure, Except.pure] at h

namespace InsertFrame

variable {d : Dialect} {t : QueryState}

theorem escape_eq (hf : InsertFrame d t) (n : String) : t.escape n = d.escape n := by
  simp [QueryState.escape, hf.escaping, hf.dialect]

theorem readsAs_names (hf : InsertFrame d t) (names : List String) :
    ReadsAs d (NotClosing d) (", ".intercalate (names.map t.escape)).toList [] := by
  refine readsAs_join (by decide) (by decide) fun x hx => ?_
  obtain ⟨n, -, rfl⟩ := List.mem_map.1 hx
  rw [hf.escape_eq]
  exact readsAs_escape n fun _ h => h

theorem readsAs_outputClause (hf : InsertFrame d t) {rs : List (String × Bool)}
    (hraw : RawTexts d rs t) {r : Option Returning} (hr : t.returningColumns .insert = .ok r) :
    ReadsAs d Sql.Boundary (t.outputClause .insert r).toList [] := by
  unfold QueryState.outputClause
  by_cases hs : t.dialect.returningStyle ≠ .output
  · rw [if_pos hs]
    exact readsAs_nil
  · rw [if_neg hs]
    rcases r with _ | ⟨cs⟩ | ⟨sql⟩
    · exact readsAs_nil
    · simp only [String.toList_append]
      refine ReadsAs.safe_append (by decide) ((readsAs_join (by decide) (by decide)
        fun x hx => ?_).mono fun rest hrest => Sql.Boundary.not_quote hrest d)
      obtain ⟨c, -, rfl⟩ := List.mem_map.1 hx
      simp only [String.toList_append, List.append_assoc]
      rw [hf.escape_eq]
      exact ReadsAs.safe_append (by decide) (ReadsAs.safe_append (by decide)
        (readsAs_escape c fun _ h => h))
    · simp only [String.toList_append]
      exact ReadsAs.safe_append (by decide) (hraw.returning sql (QueryState.returning_of_raw hr rfl))

theorem readsAs_returningClause (hf : InsertFrame d t) {rs : List (String × Bool)}
    (hraw : RawTexts d rs t) {r : Option Returning} (hr : t.returningColumns .insert = .ok r) :
    ReadsAs d Sql.Boundary (t.returningClause r).toList [] := by
  unfold QueryState.returningClause
  split_ifs
  · exact readsAs_nil
  · rcases r with _ | ⟨cs⟩ | ⟨sql⟩
    · exact readsAs_nil
    · simp only [String.toList_append]
      exact ReadsAs.safe_append (by decide)
        ((hf.readsAs_names cs).mono fun rest hrest => Sql.Boundary.not_quote hrest d)
    · simp only [String.toList_append]
      exact ReadsAs.safe_append (by decide) (hraw.returning sql (QueryState.returning_of_raw hr rfl))

end InsertFrame

namespace InsertFrame

variable {d : Dialect} {t : QueryState}

theorem readsAs_distinctFrom {l r test : String} (hl : ReadsAs d (NotClosing d) l.toList [])
    (hr : ReadsAs d (NotClosing d) r.toList []) (h : d.distinctFrom l r = .ok test) :
    ReadsAs d (NotClosing d) test.toList [] := by
  unfold Dialect.distinctFrom at h
  split_ifs at h
  · cases h
    simp only [String.toList_append, List.append_assoc]
    exact hl.append (ReadsAs.safe_append (by decide) hr)
      fun rest _ => notClosing_safe_append " IS DISTINCT FROM " (by decide) (by decide) _
  · cases h
    simp only [String.toList_append, List.append_assoc]
    exact hl.append (ReadsAs.safe_append (by decide) hr)
      fun rest _ => notClosing_safe_append " IS NOT " (by decide) (by decide) _

theorem readsAs_excluded (hf : InsertFrame d t) (c : String) :
    ReadsAs d (NotClosing d) (t.escape c ++ " = EXCLUDED." ++ t.escape c).toList [] := by
  simp only [String.toList_append, List.append_assoc, hf.escape_eq]
  exact (readsAs_escape c fun _ h => h).append
    (ReadsAs.safe_append (by decide) (readsAs_escape c fun _ h => h))
    fun rest _ => notClosing_safe_append " = EXCLUDED." (by decide) (by decide) _

theorem readsAs_insertedValue (hf : InsertFrame d t) (c : String) :
    ReadsAs d (NotClosing d) (t.escape c ++ " = VALUES(" ++ t.escape c ++ ")").toList [] := by
  simp only [String.toList_append, List.append_assoc, hf.escape_eq]
  refine (readsAs_escape c fun _ h => h).append (ReadsAs.safe_append (by decide) ?_)
    fun rest _ => notClosing_safe_append " = VALUES(" (by decide) (by decide) _
  exact (readsAs_escape c fun _ h => h).append (readsAs_plain (plain_of_safe (by decide)))
    fun rest _ => notClosing_safe_append ")" (by decide) (by decide) _

theorem readsAs_conflictTarget (hf : InsertFrame d t) (target : List String)
    {F : List Char → Prop} :
    ReadsAs d F (if target.isEmpty = true then ""
      else " ( " ++ ", ".intercalate (target.map t.escape) ++ " )").toList [] := by
  split_ifs
  · exact readsAs_nil
  · simp only [String.toList_append, List.append_assoc]
    exact ReadsAs.safe_append (by decide) ((hf.readsAs_names target).append
      (readsAs_plain (plain_of_safe (by decide)))
      fun rest _ => notClosing_safe_append " )" (by decide) (by decide) _)

theorem readsAs_changedTest (hf : InsertFrame d t) {table : String}
    (htable : ReadsAs d (NotClosing d) table.toList []) {columns tests : List String}
    (h : columns.mapM (fun c => t.dialect.distinctFrom (table ++ "." ++ t.escape c)
      ("EXCLUDED." ++ t.escape c)) = .ok tests) {F : List Char → Prop} :
    ReadsAs d F (" WHERE (" ++ " OR ".intercalate tests ++ ")").toList [] := by
  have htests : ∀ x ∈ tests, ReadsAs d (NotClosing d) x.toList [] := by
    intro x hx
    obtain ⟨c, -, hcx⟩ := mem_of_mapM_except_ok h x hx
    rw [hf.dialect] at hcx
    refine readsAs_distinctFrom ?_ ?_ hcx
    · simp only [String.toList_append, List.append_assoc, hf.escape_eq]
      exact htable.append (ReadsAs.safe_append (by decide) (readsAs_escape c fun _ h => h))
        fun rest _ => notClosing_safe_append "." (by decide) (by decide) _
    · simp only [String.toList_append, hf.escape_eq]
      exact ReadsAs.safe_append (by decide) (readsAs_escape c fun _ h => h)
  simp only [String.toList_append, List.append_assoc]
  exact ReadsAs.safe_append (by decide) ((readsAs_join (by decide) (by decide) htests).append
    (readsAs_plain (plain_of_safe (by decide)))
    fun rest _ => notClosing_safe_append ")" (by decide) (by decide) _)

theorem readsAs_conflictClause (hf : InsertFrame d t) {rs : List (String × Bool)}
    (hraw : RawTexts d rs t) {table : String} (htable : ReadsAs d (NotClosing d) table.toList [])
    {ignored : Bool} {conflict : String} (hc : t.conflictClause table ignored = .ok conflict) :
    ReadsAs d Sql.Boundary conflict.toList (if t.onConflict.isSome then rs else []) := by
  unfold QueryState.conflictClause at hc
  cases hm : t.mainAlias with
  | error e => simp [hm, bind, Except.bind] at hc
  | ok a =>
    simp only [hm, bind, Except.bind] at hc
    cases ho : t.onConflict with
    | some statement =>
      simp only [ho] at hc
      split_ifs at hc
      simp only [pure, Except.pure, Except.ok.injEq] at hc
      subst hc
      simp only [String.toList_append]
      rw [Option.isSome_some, if_pos rfl]
      exact ReadsAs.safe_append (by decide) (hraw.conflict statement ho)
    | none =>
      simp only [ho] at hc
      rw [Option.isSome_none, if_neg Bool.false_ne_true]
      cases hu : t.onUpdate with
      | none =>
        simp only [hu] at hc
        split_ifs at hc
        · simp only [pure, Except.pure, Except.ok.injEq] at hc
          subst hc
          exact readsAs_plain (plain_of_safe (by decide))
        · simp only [pure, Except.pure, Except.ok.injEq] at hc
          subst hc
          exact readsAs_nil
      | some u =>
        simp only [hu] at hc
        have hsets : ReadsAs d (NotClosing d) (", ".intercalate ((t.columnNames u.columns).map
            fun c => t.escape c ++ " = EXCLUDED." ++ t.escape c)).toList [] := by
          refine readsAs_join (by decide) (by decide) fun x hx => ?_
          obtain ⟨c, -, rfl⟩ := List.mem_map.1 hx
          exact hf.readsAs_excluded c
        have hupdate : ∀ changed : String, ReadsAs d Sql.Boundary changed.toList [] →
            (∀ rest, Sql.Boundary rest → NotClosing d (changed.toList ++ rest)) →
            ReadsAs d Sql.Boundary ((" ON CONFLICT" ++
              (if (t.columnNames u.conflictTarget).isEmpty = true then ""
                else " ( " ++ ", ".intercalate ((t.columnNames u.conflictTarget).map t.escape) ++
                  " )")) ++ " DO UPDATE SET " ++ ", ".intercalate ((t.columnNames u.columns).map
                    fun c => t.escape c ++ " = EXCLUDED." ++ t.escape c) ++ changed).toList [] := by
          intro changed hchanged hstart
          simp only [String.toList_append, List.append_assoc]
          exact ReadsAs.safe_append (by decide) ((hf.readsAs_conflictTarget (F := fun _ => True) _).append
            (ReadsAs.safe_append (by decide) (hsets.append hchanged hstart)) fun _ _ => trivial)
        cases hs : t.dialect.upsertStyle with
        | onConflict =>
          simp only [hs] at hc
          by_cases hskip : u.skipUnchanged = true ∧ (!(t.columnNames u.columns).isEmpty) = true
          · rw [if_pos hskip] at hc
            cases htests : (t.columnNames u.columns).mapM (fun c => t.dialect.distinctFrom
                (table ++ "." ++ t.escape c) ("EXCLUDED." ++ t.escape c)) with
            | error e => simp [htests] at hc
            | ok tests =>
              simp only [htests, pure, Except.pure, Except.ok.injEq] at hc
              subst hc
              exact hupdate (" WHERE (" ++ " OR ".intercalate tests ++ ")")
                (hf.readsAs_changedTest htable htests) fun rest _ => by
                  simp only [String.toList_append, List.append_assoc]
                  exact notClosing_safe_append " WHERE (" (by decide) (by decide) _
          · rw [if_neg hskip] at hc
            simp only [pure, Except.pure, Except.ok.injEq] at hc
            subst hc
            exact hupdate "" readsAs_nil fun rest hrest => Sql.Boundary.not_quote hrest d
        | onDuplicateKey =>
          simp only [hs, pure, Except.pure, Except.ok.injEq] at hc
          subst hc
          simp only [String.toList_append]
          refine ReadsAs.safe_append (by decide) ((readsAs_join (by decide) (by decide)
            fun x hx => ?_).mono fun rest hrest => Sql.Boundary.not_quote hrest d)
          obtain ⟨c, -, rfl⟩ := List.mem_map.1 hx
          exact hf.readsAs_insertedValue c
        | unsupported => simp [hs, throw, throwThe, MonadExceptOf.throw] at hc

end InsertFrame

/-! ## The cells in the statement -/

namespace QueryState

theorem insertKeyword_safe (t : QueryState) :
    (t.insertKeyword.getD "INSERT").toList.all safeChar = true := by
  unfold insertKeyword
  split
  · generalize t.dialect = d
    cases d <;> decide
  · decide

theorem insertShape_row_length {t : QueryState} {shape : InsertShape}
    (h : t.insertShape = .ok shape) : ∀ row ∈ shape.rows, row.length = shape.columns.length := by
  unfold insertShape at h
  cases hm : t.mainAlias with
  | error e => simp [hm, bind, Except.bind] at h
  | ok a =>
    simp only [hm, bind, Except.bind] at h
    cases he : a.entity with
    | none =>
      simp only [he, pure, Except.pure, Except.ok.injEq] at h
      subst h
      intro row hrow
      obtain ⟨x, -, rfl⟩ := List.mem_map.1 hrow
      simp
    | some e =>
      simp only [he, pure, Except.pure, Except.ok.injEq] at h
      subst h
      intro row hrow
      obtain ⟨x, -, rfl⟩ := List.mem_map.1 hrow
      simp

theorem boundary_blank_append (s : String) (hs : s.toList.head? = some ' ') (rest : List Char) :
    Sql.Boundary (s.toList ++ rest) := by
  cases h : s.toList with
  | nil => simp [h] at hs
  | cons c more =>
    simp only [h, List.head?_cons, Option.some.injEq] at hs
    subst hs
    exact Sql.boundary_space _

theorem outputClause_boundary (t : QueryState) (k : StatementKind) (r : Option Returning)
    {rest : List Char} (hrest : Sql.Boundary rest) :
    Sql.Boundary ((t.outputClause k r).toList ++ rest) := by
  unfold outputClause
  split_ifs
  · exact hrest
  all_goals
    rcases r with _ | ⟨cs⟩ | ⟨sql⟩
    · exact hrest
    all_goals
      simp only [String.toList_append, List.append_assoc]
      exact boundary_blank_append " OUTPUT " (by decide) _

theorem returningClause_boundary (t : QueryState) (r : Option Returning) {rest : List Char}
    (hrest : Sql.Boundary rest) : Sql.Boundary ((t.returningClause r).toList ++ rest) := by
  unfold returningClause
  split_ifs
  · exact hrest
  · rcases r with _ | ⟨cs⟩ | ⟨sql⟩
    · exact hrest
    all_goals
      simp only [String.toList_append, List.append_assoc]
      exact boundary_blank_append " RETURNING " (by decide) _

end QueryState

theorem InsertShape.params_eq_nil {shape : InsertShape}
    (hrows : ∀ row ∈ shape.rows, row.length = shape.columns.length) (hc : shape.columns = []) :
    shape.params = [] := by
  unfold InsertShape.params
  refine List.flatMap_eq_nil_iff.2 fun x hx => ?_
  have hrow : x.1 = [] := by
    have := hrows x.1 (List.fst_mem_of_mem_zipIdx hx)
    rw [hc] at this
    exact List.eq_nil_of_length_eq_zero this
  obtain ⟨row, r⟩ := x
  simp only at hrow
  subst hrow
  rfl

namespace InsertFrame

variable {d : Dialect} {t : QueryState}

theorem readsAs_insertBody (hf : InsertFrame d t) {rs : List (String × Bool)}
    (hraw : RawTexts d rs t) {shape : InsertShape} {r : Option Returning}
    (hr : t.returningColumns .insert = .ok r)
    (hrows : ∀ row ∈ shape.rows, row.length = shape.columns.length) {F : List Char → Prop} :
    ReadsAs d F (t.insertBody shape r).toList (shape.params.map fun p => (p.1, false)) := by
  unfold QueryState.insertBody
  by_cases hc : shape.columns.isEmpty
  · rw [if_pos hc, InsertShape.params_eq_nil hrows (List.isEmpty_iff.1 hc), List.map_nil]
    have hev : (" " ++ t.dialect.emptyValuesClause).toList.all safeChar = true := by
      rw [hf.dialect]
      cases d <;> decide
    simp only [String.toList_append, List.append_assoc]
    rw [← String.toList_append]
    exact (hf.readsAs_outputClause hraw hr).append (readsAs_plain (plain_of_safe hev))
      fun rest _ => by
        rw [String.toList_append, List.append_assoc]
        exact Sql.boundary_space _
  · rw [if_neg hc]
    have hcols : ReadsAs d (fun _ => True)
        ("(" ++ ", ".intercalate (shape.columns.map t.escape) ++ ")").toList [] :=
      (hf.readsAs_names shape.columns).parenthesized fun more => notClosing_of_safe more rfl
    have hrest : ReadsAs d F ((t.outputClause .insert r).toList ++
        (" VALUES ".toList ++ (shape.valuesSql t.dialect).toList))
        (shape.params.map fun p => (p.1, false)) := by
      rw [hf.dialect]
      exact (hf.readsAs_outputClause hraw hr).append
        (ReadsAs.safe_append (by decide) (shape.readsAs_valuesSql d))
        fun rest _ => Sql.boundary_space _
    have htext : ("(" ++ ", ".intercalate (shape.columns.map t.escape) ++ ")" ++
        t.outputClause .insert r ++ " VALUES " ++ shape.valuesSql t.dialect).toList =
        ("(" ++ ", ".intercalate (shape.columns.map t.escape) ++ ")").toList ++
          ((t.outputClause .insert r).toList ++
            (" VALUES ".toList ++ (shape.valuesSql t.dialect).toList)) := by
      simp only [String.toList_append, List.append_assoc]
    rw [htext]
    simpa using hcols.append hrest fun _ _ => trivial

theorem insertBody_notClosing (t : QueryState) (shape : InsertShape) (r : Option Returning)
    (rest : List Char) : NotClosing d ((t.insertBody shape r).toList ++ rest) := by
  unfold QueryState.insertBody
  split_ifs
  · simp only [String.toList_append, List.append_assoc]
    refine Sql.Boundary.not_quote (t.outputClause_boundary .insert r ?_) d
    exact QueryState.boundary_blank_append " " (by decide) _
  · simp only [String.toList_append, List.append_assoc]
    exact notClosing_safe_append "(" (by decide) (by decide) _

end InsertFrame

theorem Aliases.mem_of_mainAlias {as : Aliases} {a : Alias} (h : as.mainAlias = .ok a) :
    a ∈ as.items := by
  unfold Aliases.mainAlias at h
  cases hm : as.main.bind as.find? with
  | none => simp [hm] at h
  | some b =>
    simp only [hm, Except.ok.injEq] at h
    subst h
    obtain ⟨n, -, hn⟩ := Option.bind_eq_some_iff.1 hm
    exact List.mem_of_find?_eq_some hn

namespace InsertFrame

variable {d : Dialect} {t : QueryState}

/-- The statement of an insert refers, in order, to the parameters of the cells that have a
value, then to those of its raw conflict text, and to nothing else. -/
theorem readsAs_statement (hf : InsertFrame d t) {rs : List (String × Bool)}
    (hraw : RawTexts d rs t) {sql : String} {shape : InsertShape}
    (hsql : t.compileInsert = .ok sql) (hshape : t.insertShape = .ok shape) :
    ReadsAs d (· = []) sql.toList
      (shape.params.map (fun p => (p.1, false)) ++ if t.onConflict.isSome then rs else []) := by
  obtain ⟨a, shape', r, conflict, ha, hs, hr, hc, rfl⟩ := QueryState.compileInsert_eq_ok hsql
  rw [hshape] at hs
  cases hs
  have htable : ReadsAs d (NotClosing d) (a.sourceSql t.dialect).toList [] := by
    rw [hf.dialect]
    exact Alias.readsAs_sourceSql (hf.tables a (Aliases.mem_of_mainAlias ha)) d
  have htail : ReadsAs d (· = []) (conflict.toList ++ (t.returningClause r).toList)
      ((if t.onConflict.isSome then rs else []) ++ []) :=
    (hf.readsAs_conflictClause hraw htable hc).append
      ((hf.readsAs_returningClause hraw hr).mono fun rest h => by subst h; exact Sql.boundary_nil)
      fun rest h => by
        subst h
        exact t.returningClause_boundary r Sql.boundary_nil
  have hbody : ReadsAs d (fun _ => True) (t.insertBody shape r).toList
      (shape.params.map fun p => (p.1, false)) :=
    hf.readsAs_insertBody hraw hr (QueryState.insertShape_row_length hshape)
  have hrest := htable.append (hbody.append htail fun _ _ => trivial) fun rest _ => by
    rw [List.append_assoc]
    exact insertBody_notClosing t shape r _
  have htext : (t.insertKeyword.getD "INSERT" ++ " INTO " ++ a.sourceSql t.dialect ++
      t.insertBody shape r ++ conflict ++ t.returningClause r).toList =
      (t.insertKeyword.getD "INSERT").toList ++ (" INTO ".toList ++
        ((a.sourceSql t.dialect).toList ++ ((t.insertBody shape r).toList ++
          (conflict.toList ++ (t.returningClause r).toList)))) := by
    simp only [String.toList_append, List.append_assoc]
  rw [htext]
  have hinto : " INTO ".toList.all safeChar = true := by decide
  simpa using ReadsAs.safe_append t.insertKeyword_safe (ReadsAs.safe_append hinto hrest)

end InsertFrame

namespace InsertFrame

variable {d : Dialect} {t : QueryState}

theorem bindNamed_statement (hf : InsertFrame d t) (hraw : RawTexts d [] t) {sql : String}
    {shape : InsertShape} (hsql : t.compileInsert = .ok sql) (hshape : t.insertShape = .ok shape)
    (hcells : CellsBound shape t.parameters) (native : List Value) :
    ∃ out vals, d.bindNamed sql t.parameters native = .ok (out, vals) ∧
      ∃ E, Writes d native E out vals ∧ E.filterMap Sum.getRight? = shape.values ∧
        (d.reusesPlaceholders = false → vals = native ++ shape.values) := by
  have hlookup := hcells.lookup_params
  have hread := hf.readsAs_statement hraw hsql hshape
  rw [ite_self, List.append_nil, show (shape.params.map fun p => (p.1, false)) =
    (shape.params.map Prod.fst).map fun n => (n, false) by rw [List.map_map]; rfl] at hread
  have hbound : ∀ n ∈ shape.params.map Prod.fst, (t.parameters.lookup n).isSome = true := by
    intro n hn
    obtain ⟨p, hp, rfl⟩ := List.mem_map.1 hn
    simp [hlookup p hp]
  have hvalues : (shape.params.map Prod.fst).map (fun n => (t.parameters.lookup n).getD .null) =
      shape.values := by
    rw [List.map_map, ← InsertShape.params_map_snd]
    refine List.map_congr_left fun p hp => ?_
    simp [hlookup p hp]
  obtain ⟨out, vals, hbind, E, hw, hE⟩ := hread.bindNamed t.parameters native hbound
  refine ⟨out, vals, hbind, E, hw, hE.trans hvalues, fun hd => ?_⟩
  rw [hw.values_eq hd, hE, hvalues]

theorem bindNamed_conflict_unbound (hf : InsertFrame d t) {n : String}
    (hraw : RawTexts d [(n, false)] t) (hconflict : t.onConflict.isSome) {sql : String}
    {shape : InsertShape} (hsql : t.compileInsert = .ok sql) (hshape : t.insertShape = .ok shape)
    (hcells : CellsBound shape t.parameters) (hn : t.parameters.lookup n = none)
    (native : List Value) :
    d.bindNamed sql t.parameters native = .error (.parameterNotFound n) := by
  have hread := hf.readsAs_statement hraw hsql hshape
  rw [if_pos hconflict] at hread
  refine hread.bindNamed_error (r := (n, false)) native ?_
  have hcellsFound : (shape.params.map fun p => (p.1, false)).find?
      (fun r => (t.parameters.lookup r.1).isNone) = none := by
    refine List.find?_eq_none.2 fun r hr => ?_
    obtain ⟨p, hp, rfl⟩ := List.mem_map.1 hr
    simp [hcells.lookup_params p hp]
  rw [List.find?_append, hcellsFound]
  simp [hn]

theorem valuesSql_mem (hf : InsertFrame d t) {sql : String} {shape : InsertShape}
    (hsql : t.compileInsert = .ok sql) (hshape : t.insertShape = .ok shape)
    (hc : shape.columns ≠ []) : ∃ pre post, sql = pre ++ " VALUES " ++ shape.valuesSql d ++ post := by
  obtain ⟨a, shape', r, conflict, -, hs, -, -, rfl⟩ := QueryState.compileInsert_eq_ok hsql
  rw [hshape] at hs
  cases hs
  have hne : shape.columns.isEmpty = false := List.isEmpty_eq_false_iff.2 hc
  refine ⟨t.insertKeyword.getD "INSERT" ++ " INTO " ++ a.sourceSql t.dialect ++ "(" ++
    ", ".intercalate (shape.columns.map t.escape) ++ ")" ++ t.outputClause .insert r,
    conflict ++ t.returningClause r, ?_⟩
  simp only [QueryState.insertBody, hne, Bool.false_eq_true, if_false, hf.dialect,
    String.append_assoc]

end InsertFrame

/-- An insert builder without a failure, with rows and a main alias, binds exactly the cells of
its shape, and so does its statement: the `VALUES` rows write each cell with a value as its
parameter and any other as the default keyword, and escaping the statement succeeds and fills
its placeholders with the values of the cells, in order, row by row. -/
def InsertAgrees (d : Dialect) (t : QueryState) : Prop :=
  t.buildError = none → t.valuesSet ≠ [] → t.aliases.hasMain = true →
    ∃ shape, t.insertShape = .ok shape ∧ CellsBound shape t.parameters ∧
      ∀ sql, t.compileInsert = .ok sql →
        (shape.columns ≠ [] → ∃ pre post, sql = pre ++ " VALUES " ++ shape.valuesSql d ++ post) ∧
        ∃ out vals, d.bindNamed sql t.parameters t.nativeParameters = .ok (out, vals) ∧
          ∃ E, Writes d t.nativeParameters E out vals ∧ E.filterMap Sum.getRight? = shape.values ∧
            (d.reusesPlaceholders = false → vals = t.nativeParameters ++ shape.values)

theorem InsertInv.agrees {d : Dialect} {t : QueryState} (h : InsertInv d t) : InsertAgrees d t := by
  intro hnone hrows hmain
  obtain ⟨shape, hshape, hcells⟩ := h.cells hnone hrows hmain
  refine ⟨shape, hshape, hcells, fun sql hsql => ⟨h.valuesSql_mem hsql hshape, ?_⟩⟩
  exact h.bindNamed_statement h.toRawTexts hsql hshape hcells t.nativeParameters

/-- Every insert builder reached by the calls, and the builder once its rows are bound again (as
after the listeners before an insert), binds exactly the cells of its shape under the names
`orm_insert_r_c`, and its statement and its escaping agree with them, when the raw texts the
calls give refer to no parameter. -/
theorem insert_cellsAgree (reg : Registry) (d : Dialect) (calls : List InsertCall)
    (hcalls : ∀ c ∈ calls, c.NamesNothing d) :
    let t := InsertCall.applyAll reg (Builder.insert d) calls
    InsertAgrees d t ∧
      ∀ rows t', { t with valuesSet := rows }.run Insert.bindCells = .ok t' → InsertAgrees d t' := by
  intro t
  have h : InsertInv d t := (InsertInv.start d).applyAll reg hcalls
  exact ⟨h.agrees, fun rows t' hrun => (h.rebind hrun).agrees⟩

theorem insert_cellsAgree_users :
    (∀ c ∈ [InsertCall.intoTable "users", .values [[("a", .int 1)], [("b", .str "x")]],
      .onConflict "(a) DO NOTHING"], c.NamesNothing .postgres) ∧
      InsertAgrees .postgres (InsertCall.applyAll {} (Builder.insert .postgres)
        [.intoTable "users", .values [[("a", .int 1)], [("b", .str "x")]],
          .onConflict "(a) DO NOTHING"]) := by
  have hcalls : ∀ c ∈ [InsertCall.intoTable "users", .values [[("a", .int 1)], [("b", .str "x")]],
      .onConflict "(a) DO NOTHING"], c.NamesNothing .postgres := by
    intro c hc
    simp only [List.mem_cons, List.not_mem_nil, or_false] at hc
    rcases hc with rfl | rfl | rfl
    · trivial
    · trivial
    · exact Placeholder.readsAs_plain (Placeholder.plain_of_safe (by decide))
  exact ⟨hcalls, (insert_cellsAgree {} .postgres _ hcalls).1⟩

/-! ## A conflict text that refers to a parameter -/

theorem QueryState.queryAndParameters_insert {t : QueryState} (hkind : t.kind = .insert)
    (hnone : t.buildError = none) {sql : String} (hsql : t.compileInsert = .ok sql)
    (reg : Registry) :
    t.queryAndParameters reg = t.dialect.bindNamed sql t.parameters t.nativeParameters := by
  simp only [QueryState.queryAndParameters, QueryState.query, QueryState.check, hnone,
    QueryState.statement, hkind, hsql]
  rfl

/-- An insert builder without a failure, with rows and a main alias, whose statement compiles but
whose conflict text refers to a name without a value, cannot be escaped: binding fails at that
name. -/
theorem InsertFrame.queryAndParameters_conflict_unbound {d : Dialect} {t : QueryState}
    (hf : InsertFrame d t) (hcells : CellsInv t) {n : String} (hraw : RawTexts d [(n, false)] t)
    (hconflict : t.onConflict.isSome) (hkind : t.kind = .insert) (hnone : t.buildError = none)
    (hrows : t.valuesSet ≠ []) (hmain : t.aliases.hasMain = true)
    (hcompiles : t.compileInsert.isOk = true) (hn : t.parameters.lookup n = none)
    (reg : Registry) : t.queryAndParameters reg = .error (.parameterNotFound n) := by
  obtain ⟨shape, hshape, hbound⟩ := hcells hnone hrows hmain
  obtain ⟨sql, hsql⟩ : ∃ sql, t.compileInsert = .ok sql := by
    cases h : t.compileInsert with
    | error e => simp [h, Except.isOk, Except.toBool] at hcompiles
    | ok sql => exact ⟨sql, rfl⟩
  rw [t.queryAndParameters_insert hkind hnone hsql, hf.dialect]
  exact hf.bindNamed_conflict_unbound hraw hconflict hsql hshape hbound hn _

theorem RawTexts.of_conflict {d : Dialect} {rs : List (String × Bool)} {t : QueryState}
    {text : String} (htext : Placeholder.ReadsAs d Sql.Boundary text.toList rs)
    (hc : t.onConflict = some text) (hret : t.returning.isNone = true) : RawTexts d rs t where
  conflict text' h := by
    rw [hc] at h
    cases h
    exact htext
  returning sql h := by simp [h] at hret

open Placeholder in
/-- An insert whose conflict text refers to a parameter that is never set compiles, with its
cells bound, but cannot be escaped. -/
theorem insert_conflictParameter_unbound :
    (InsertCall.applyAll {} (Builder.insert .postgres)
      [.intoTable "plain_rows", .values [[("a", .str "x")]],
        .onConflict "(a) DO UPDATE SET a = :name"]).queryAndParameters {} =
      .error (.parameterNotFound "name") := by
  have htext : ReadsAs .postgres Sql.Boundary "(a) DO UPDATE SET a = :name".toList
      [("name", false)] := by
    rw [show "(a) DO UPDATE SET a = :name".toList =
      "(a) DO UPDATE SET a = ".toList ++ ':' :: "name".toList by decide]
    exact ReadsAs.safe_append (by decide) (readsAs_ref (by decide) fun _ h => h.endsRef)
  refine InsertFrame.queryAndParameters_conflict_unbound
    (InsertCall.applyAll_induction {} (fun _ c _ h => h.step {} c) (InsertFrame.start .postgres))
    (InsertCall.applyAll_induction {} (fun _ c _ h => h.step {} c) fun _ hrows => absurd rfl hrows)
    (RawTexts.of_conflict htext (by decide +kernel) (by decide +kernel)) (by decide +kernel)
    (by decide +kernel) (Option.isNone_iff_eq_none.1 (by decide +kernel))
    (List.isEmpty_eq_false_iff.1 (by decide +kernel)) (by decide +kernel) (by decide +kernel)
    (Option.isNone_iff_eq_none.1 (by decide +kernel)) {}

end EntitySql
