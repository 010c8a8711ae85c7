import EntitySql.Execute.Select

/-!
# The WHERE clause of a statement

A statement's WHERE clause joins three kinds of condition: the clauses built by WHERE calls,
written as one condition; the conditions the statement adds of itself for the entity of its main
alias (the filter that hides soft-deleted rows, in a select that does not ask for them, and the
filter on the discriminator values of a child entity); and an extra condition, the keys of one
page. One condition stands alone; several are each put in parentheses and joined by `AND`, so
each is one operand of the conjunction, whatever its text.

`QueryState.compileWhere_eq` says this once; the rest is read off it. A select of an entity with
a delete date has the filter as an operand of its WHERE clause, and so have the statement that
counts its entities and the second statement of paging by entity; a statement other than a
select has no such filter.
-/

namespace EntitySql

@[simp] theorem whereClause_nil : whereClause [] = "" := rfl

@[simp] theorem whereClause_singleton (c : String) : whereClause [c] = " WHERE " ++ c := rfl

theorem whereClause_cons_cons (a b : String) (rest : List String) :
    whereClause (a :: b :: rest) =
      " WHERE ( " ++ " ) AND ( ".intercalate (a :: b :: rest) ++ " )" := rfl

example : whereClause ["a = 1 OR b = 2", "c IS NULL"] =
    " WHERE ( a = 1 OR b = 2 ) AND ( c IS NULL )" := by decide

namespace QueryState

/-- The WHERE clause is the clause over the built condition, the implied conditions and the
extra condition, in this order; it fails only where writing the built clauses fails. -/
theorem compileWhere_eq (s : QueryState) (p : Bool) :
    s.compileWhere p = (s.builtConditions p).map fun built =>
      whereClause (built ++ s.impliedConditions p ++ s.extraWhere.toList) := by
  unfold compileWhere
  cases s.builtConditions p <;> rfl

theorem builtConditions_eq_ok {s : QueryState} {p : Bool} {built : List String}
    (h : s.builtConditions p = .ok built) :
    (s.wheres = [] ∧ built = []) ∨
      ∃ u, Condition.renderClauses (s.renderContext p) s.wheres = .ok u ∧ built = [u] := by
  unfold builtConditions at h
  by_cases hw : s.wheres = []
  · simp only [hw, List.isEmpty_nil, if_true, Except.ok.injEq] at h
    exact .inl ⟨hw, h.symm⟩
  · simp only [List.isEmpty_iff, hw, if_false] at h
    right
    cases hr : Condition.renderClauses (s.renderContext p) s.wheres with
    | error e => simp only [hr] at h; cases h
    | ok u =>
      simp only [hr] at h
      exact ⟨u, rfl, (Except.ok.inj h).symm⟩

theorem impliedConditions_of_entity {s : QueryState} {main : Alias} {e : Entity}
    (hmain : s.mainAlias = .ok main) (he : main.entity = some e) (p : Bool) :
    s.impliedConditions p = s.deletedFilter main e p ++ s.typeFilter main e p := by
  simp [impliedConditions, hmain, he]

theorem deletedFilter_of_select {s : QueryState} {main : Alias} {e : Entity} {c : Column}
    (hsel : s.kind = .select) (hwith : s.withDeleted = false) (hc : e.deleteDateColumn? = some c)
    (p : Bool) :
    s.deletedFilter main e p = [s.aliasColumn main p c.databaseName ++ " IS NULL"] := by
  simp [deletedFilter, hsel, hwith, hc]

theorem deletedFilter_of_ne_select {s : QueryState} (main : Alias) (e : Entity)
    (h : s.kind ≠ .select) (p : Bool) : s.deletedFilter main e p = [] := by
  simp [deletedFilter, h]

end QueryState

namespace DataSource

theorem compileWhere_countQuery {s counted : QueryState} (h : countQuery s = .ok counted)
    (p : Bool) : counted.compileWhere p = s.compileWhere p := by
  unfold countQuery at h
  cases hm : s.aliases.mainAlias with
  | error e => simp [QueryState.mainAlias, hm, bind, Except.bind] at h
  | ok main =>
    cases hmeta : main.metadata with
    | error e => simp [QueryState.mainAlias, hm, hmeta, bind, Except.bind] at h
    | ok e =>
      simp only [QueryState.mainAlias, hm, hmeta, bind, Except.bind, pure, Except.pure,
        Except.ok.injEq] at h
      subst h
      rfl

theorem foldl_preserves {α β : Type} (P : β → Prop) (f : β → α → β)
    (hf : ∀ b a, P b → P (f b a)) (l : List α) (b : β) (hb : P b) : P (l.foldl f b) := by
  induction l generalizing b with
  | nil => exact hb
  | cons a l ih => exact ih (f b a) (hf b a hb)

theorem pageCondition_fst (s : QueryState) (aliasName : String) (keys : List Column)
    (idRows : List Row) :
    ∃ ps, (pageCondition s aliasName keys idRows).1 = { s with parameters := ps } := by
  unfold pageCondition
  dsimp only
  split
  · split
    · exact ⟨s.parameters, rfl⟩
    · exact ⟨_, rfl⟩
  · -- a composite key: each step of both folds sets one parameter
    let Keeps : QueryState × List String → Prop := fun acc =>
      ∃ ps, acc.1 = { s with parameters := ps }
    apply foldl_preserves Keeps
    · rintro ⟨t, alts⟩ ⟨row, i⟩ ht
      apply foldl_preserves Keeps
      · rintro ⟨u, conds⟩ c ⟨ps, hu⟩
        dsimp only at hu
        subst hu
        exact ⟨_, rfl⟩
      · exact ht
    · exact ⟨s.parameters, rfl⟩

theorem compileWhere_pageRestricted (s : QueryState) (aliasName : String) (keys : List Column)
    (idRows : List Row) (condition : String) (p : Bool) :
    { (pageCondition { s with skip := none, take := none } aliasName keys idRows).1 with
        extraWhere := some condition }.compileWhere p =
      (s.builtConditions p).map fun built =>
        whereClause (built ++ s.impliedConditions p ++ [condition]) := by
  obtain ⟨ps, h⟩ := pageCondition_fst { s with skip := none, take := none } aliasName keys idRows
  rw [h, QueryState.compileWhere_eq]
  rfl

end DataSource

namespace QueryState

/-- The soft-delete filter of a select. For a statement whose main alias is an entity: in a select
of an entity with a delete date that does not ask for deleted rows, the filter
`main.deleteDate IS NULL` is an operand of the WHERE clause, after the user's whole condition and
before the discriminator filter and the extra condition; the same holds of the statement that
counts the select's entities and of the second statement of paging by entity. In any other
statement the WHERE clause has no soft-delete filter. -/
theorem compileWhere_deletedFilter (s : QueryState) (main : Alias) (e : Entity)
    (hmain : s.mainAlias = .ok main) (he : main.entity = some e) :
    (∀ c : Column, s.kind = .select → s.withDeleted = false → e.deleteDateColumn? = some c →
      let written := fun (extra : List String) => (s.builtConditions true).map fun built =>
        whereClause
          (built ++ (s.aliasColumn main true c.databaseName ++ " IS NULL") ::
            s.typeFilter main e true ++ extra)
      s.compileWhere true = written s.extraWhere.toList ∧
      (∀ counted, DataSource.countQuery s = .ok counted →
        counted.compileWhere true = written s.extraWhere.toList) ∧
      (∀ keys idRows condition,
        { (DataSource.pageCondition { s with skip := none, take := none } main.name keys
            idRows).1 with extraWhere := some condition }.compileWhere true = written [condition])) ∧
    (s.kind ≠ .select → ∀ p, s.compileWhere p = (s.builtConditions p).map fun built =>
      whereClause (built ++ s.typeFilter main e p ++ s.extraWhere.toList)) := by
  have himplied := impliedConditions_of_entity hmain he
  constructor
  · intro c hsel hwith hc
    have hfilter : s.impliedConditions true =
        (s.aliasColumn main true c.databaseName ++ " IS NULL") :: s.typeFilter main e true := by
      rw [himplied, deletedFilter_of_select hsel hwith hc, List.singleton_append]
    have hwhere := compileWhere_eq s true
    rw [hfilter] at hwhere
    refine ⟨by simpa using hwhere, ?_, ?_⟩
    · intro counted hcount
      rw [DataSource.compileWhere_countQuery hcount]
      simpa using hwhere
    · intro keys idRows condition
      rw [DataSource.compileWhere_pageRestricted, hfilter]
  · intro hkind p
    rw [compileWhere_eq, himplied, deletedFilter_of_ne_select main e hkind, List.nil_append]

/-- The filter at a select of users with a delete date. -/
theorem compileWhere_deletedFilter_users :
    let deletedAt : Column :=
      { propertyPath := "deletedAt", databaseName := "deletedAt", type := .timestamp,
        isNullable := true, isDeleteDate := true }
    let e : Entity := { name := "User", tableName := "users", columns := [deletedAt] }
    let main : Alias := { kind := .source, name := "u", entity := some e }
    let s : QueryState :=
      { QueryState.new .postgres .select with aliases := { items := [main], main := some "u" } }
    s.mainAlias = .ok main ∧ main.entity = some e ∧
    ((∀ c : Column, s.kind = .select → s.withDeleted = false → e.deleteDateColumn? = some c →
      let written := fun (extra : List String) => (s.builtConditions true).map fun built =>
        whereClause
          (built ++ (s.aliasColumn main true c.databaseName ++ " IS NULL") ::
            s.typeFilter main e true ++ extra)
      s.compileWhere true = written s.extraWhere.toList ∧
      (∀ counted, DataSource.countQuery s = .ok counted →
        counted.compileWhere true = written s.extraWhere.toList) ∧
      (∀ keys idRows condition,
        { (DataSource.pageCondition { s with skip := none, take := none } main.name keys
            idRows).1 with extraWhere := some condition }.compileWhere true = written [condition])) ∧
    (s.kind ≠ .select → ∀ p, s.compileWhere p = (s.builtConditions p).map fun built =>
      whereClause (built ++ s.typeFilter main e p ++ s.extraWhere.toList))) :=
  ⟨rfl, rfl, compileWhere_deletedFilter _ _ _ rfl rfl⟩

theorem compileWhere_emptyConjunction (s : QueryState) (p : Bool) (k : Connective)
    (qualifier : Option String) (column : String)
    (hw : s.wheres = [(k, .predicate qualifier column (.and []))]) :
    s.compileWhere p = .ok (whereClause ("" :: s.impliedConditions p ++ s.extraWhere.toList)) := by
  have hbuilt : s.builtConditions p = .ok [""] := by
    simp [builtConditions, hw, Condition.renderClauses, Condition.render, BoundOp.render,
      BoundOp.renderAll, Condition.renderJoined, bind, Except.bind, pure, Except.pure]
  rw [compileWhere_eq, hbuilt]
  rfl

end QueryState

end EntitySql
