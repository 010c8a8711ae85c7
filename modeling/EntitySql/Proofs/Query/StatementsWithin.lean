import EntitySql.Proofs.Query.ConditionsWithin
import EntitySql.Proofs.Placeholder.Written
import EntitySql.Proofs.Query.Count
import EntitySql.Proofs.Insert.Cells

/-!
# Compiled statements refer to allowed names

A statement is written from its builder's state: names it quotes, words and numbers it writes
itself, and the texts it holds: conditions, raw SQL the user gave, assignments, and the SQL of
its subqueries. `QueryState.TextsWithin N s` says that each of these refers only to names `N`
allows: the raw texts are clean (`Placeholder.Clean`), the conditions are within `N`, the SQL of
a subquery is read in place and refers to names `N` allows, names are quoted, and a child entity
of an inheritance hierarchy has its discriminator values among the names.

Then each clause is read in place and refers to names `N` allows, and so is every statement
compiled from the state: the select (`QueryState.selectQuery_refsWithin`), the statement that
counts its entities, the one that asks whether it finds a row, and the first statement of paging
by entity. Each clause starts with a blank or is empty (`Spaced`), so the clauses of a statement
are read one after the other.
-/

namespace EntitySql

open Placeholder

namespace QueryState

/-- What the statements of a query refer to is allowed by `N`: its names are quoted, its
conditions are within `N`, the texts the user gave are clean within `N`, the SQL of its
subqueries is read in place and refers to names `N` allows, and the discriminator values of a
child entity are among the names. -/
structure TextsWithin (N : String → Prop) (s : QueryState) : Prop where
  escaping : s.disableEscaping = false
  wheres : Condition.ClausesWithin s.dialect N s.wheres
  havings : Condition.ClausesWithin s.dialect N s.havings
  joinConditions : ∀ j ∈ s.joins, ∀ c, j.condition = some c → c.Within s.dialect N
  joinSubQueries : ∀ j ∈ s.joins, ∀ sql, j.target = .subQuery sql →
    RefsWithin s.dialect (fun _ => True) N sql.toList
  subQueries : ∀ a ∈ s.aliases.items, ∀ sql, a.subQuery = some sql →
    RefsWithin s.dialect (fun _ => True) N sql.toList
  selects : ∀ item ∈ s.selects, Clean s.dialect N item.expression.toList
  orderBys : ∀ o ∈ s.orderBys, Clean s.dialect N o.expression.toList
  groupBys : ∀ g ∈ s.groupBys, Clean s.dialect N g.toList
  onConflict : ∀ t, s.onConflict = some t → Clean s.dialect N t.toList
  returning : ∀ sql, s.returning = some (.raw sql) → Clean s.dialect N sql.toList
  extraWhere : s.extraWhere = none
  discriminator : ∀ main e, s.mainAlias = .ok main → main.entity = some e → e.parent?.isSome →
    N "discriminatorColumnValues"

variable {N : String → Prop} {s : QueryState}

theorem TextsWithin.escape_eq (h : s.TextsWithin N) (n : String) :
    s.escape n = s.dialect.escape n := by
  simp [QueryState.escape, h.escaping]

theorem TextsWithin.refsWithin_aliasColumn (h : s.TextsWithin N) (a : Alias) (p : Bool)
    (c : String) : RefsWithin s.dialect (Sep s.dialect) N (s.aliasColumn a p c).toList := by
  have hw : s.aliasColumn a p c =
      (Sql.ColumnRef.write s.dialect ⟨if p then some a.name else none, c⟩) := by
    cases p <;> simp [aliasColumn, Sql.ColumnRef.write, h.escape_eq]
  rw [hw]
  exact refsWithin_columnWrite _

theorem TextsWithin.refsWithin_sourceSql (h : s.TextsWithin N) {a : Alias}
    (ha : a ∈ s.aliases.items) :
    RefsWithin s.dialect (NotClosing s.dialect) N (a.sourceSql s.dialect).toList := by
  cases hsub : a.subQuery with
  | some sql =>
    simp only [Alias.sourceSql, hsub]
    exact (h.subQueries a ha sql hsub).mono (fun _ _ => trivial) fun _ h => h
  | none => exact (Alias.readsAs_sourceSql hsub s.dialect).refsWithin fun _ h => absurd h List.not_mem_nil

theorem clause_whereClause {d : Dialect} {cs : List String}
    (h : ∀ c ∈ cs, RefsWithin d (Sep d) N c.toList) : Clause d N (whereClause cs) := by
  match cs, h with
  | [], _ => exact clause_empty
  | [c], h => exact clause_word (by decide) rfl (h c List.mem_cons_self)
  | c :: c' :: cs, h =>
    have hjoin : RefsWithin d (Sep d) N (" ) AND ( ".intercalate (c :: c' :: cs)).toList :=
      RefsWithin.intercalate (plain_of_all (by cases d <;> decide))
        (fun more => sep_space d _) (fun _ h => h) h
    rw [whereClause_cons_cons, String.append_assoc]
    exact clause_word (by decide) rfl (hjoin.then_clause ((tidy_safe (by decide)).clause (by decide)))

theorem TextsWithin.refsWithin_impliedConditions (h : s.TextsWithin N) (p : Bool) :
    ∀ c ∈ s.impliedConditions p, RefsWithin s.dialect (Sep s.dialect) N c.toList := by
  intro c hc
  unfold impliedConditions at hc
  split at hc
  · rename_i main hmain
    split at hc
    · rename_i e he
      rcases List.mem_append.1 hc with hc | hc
      · -- the filter that hides soft-deleted rows
        unfold deletedFilter at hc
        split_ifs at hc
        · obtain ⟨col, -, rfl⟩ : ∃ col, e.deleteDateColumn? = some col ∧
              c = s.aliasColumn main p col.databaseName ++ " IS NULL" := by
            cases hcol : e.deleteDateColumn? <;> simp_all
          exact BoundOp.refsWithin_colPlain (h.refsWithin_aliasColumn main p _)
            (word_of_all (by cases s.dialect <;> decide))
        · cases hc
      · -- the filter on the discriminator values of a child entity
        unfold typeFilter at hc
        split_ifs at hc with hchild
        · obtain ⟨col, -, rfl⟩ : ∃ col, e.discriminatorColumn? = some col ∧
              c = s.aliasColumn main p col.databaseName ++ " IN (:...discriminatorColumnValues)" := by
            cases hcol : e.discriminatorColumn? <;> simp_all
          have hname : Named N "discriminatorColumnValues" :=
            ⟨h.discriminator main e hmain he hchild, by decide⟩
          simpa using refsWithin_compareText (w := " IN (:...")
            (h.refsWithin_aliasColumn main p col.databaseName) (BoundOp.word_compare " IN (" (by simp)) true
            (by simp) hname ")" (.inr rfl)
        · cases hc
    · cases hc
  · cases hc

theorem TextsWithin.clause_compileWhere (h : s.TextsWithin N) {p : Bool} {w : String}
    (hw : s.compileWhere p = .ok w) : Clause s.dialect N w := by
  rw [compileWhere_eq] at hw
  cases hb : s.builtConditions p with
  | error e => rw [hb] at hw; cases hw
  | ok built =>
    rw [hb] at hw
    cases hw
    refine clause_whereClause fun c hc => ?_
    rw [h.extraWhere, Option.toList_none, List.append_nil, List.mem_append] at hc
    rcases hc with hc | hc
    · -- the built clauses, written as one condition
      rcases builtConditions_eq_ok hb with ⟨-, rfl⟩ | ⟨u, hu, rfl⟩
      · cases hc
      · rw [List.mem_singleton] at hc
        subst hc
        exact Condition.renderClauses_refsWithin (s.renderContext p)
          (by simp [renderContext, h.escaping]) _ h.wheres hu
    · exact h.refsWithin_impliedConditions p c hc

theorem tidy_columnAs (d : Dialect) (a c x : String) :
    Tidy d (NotClosing d) (d.escape a ++ "." ++ d.escape c ++ " AS " ++ d.escape x).toList :=
  ((((tidy_escape a fun _ h => h).append_word (by decide) (by decide)).append_any
    (tidy_escape c fun _ h => h)).append_word (by decide) (by decide)).append_any
    (tidy_escape x fun _ h => h)

theorem TextsWithin.refsWithin_compileSelection (h : s.TextsWithin N) (reg : Registry) :
    RefsWithin s.dialect (Sep s.dialect) N (s.compileSelection reg).toList := by
  unfold compileSelection
  generalize hfold : s.aliases.items.foldl _ ([], []) = acc
  have hcols : ∀ x ∈ acc.1, Tidy s.dialect (NotClosing s.dialect) x.toList := by
    rw [← hfold]
    refine DataSource.foldl_preserves
      (fun acc : List String × List Nat => ∀ x ∈ acc.1, Tidy s.dialect (NotClosing s.dialect) x.toList)
      _ (fun acc a hacc => ?_) _ _ (by simp)
    dsimp only
    split
    · exact hacc
    · intro x hx
      rcases List.mem_append.1 hx with hx | hx
      · exact hacc x hx
      · split at hx
        · rw [List.mem_singleton] at hx
          subst hx
          rw [h.escape_eq, String.toList_append]
          refine Tidy.escape_append _ (tidy_plain (by cases s.dialect <;> decide)) fun rest _ => ?_
          rw [show ".*".toList = ['.', '*'] from rfl]
          exact notClosing_of_safe _ (by decide)
        · unfold entityColumns at hx
          obtain ⟨c, -, rfl⟩ := List.mem_map.1 hx
          rw [h.escape_eq, h.escape_eq, h.escape_eq]
          exact tidy_columnAs _ _ _ _
  obtain ⟨columns, consumed⟩ := acc
  dsimp only
  generalize hsel : s.selects.zipIdx.filterMap _ = rest
  have hrest : ∀ x ∈ rest, RefsWithin s.dialect (Sep s.dialect) N x.toList := by
    rw [← hsel]
    intro x hx
    obtain ⟨⟨item, i⟩, hmem, hx⟩ := List.mem_filterMap.1 hx
    have hexpr := (h.selects item (List.fst_mem_of_mem_zipIdx hmem)).replace s.aliases true
    dsimp only at hx
    split at hx
    · cases hx
    · cases hx
      split
      · rw [h.escape_eq, String.append_assoc]
        refine hexpr.then_spaced ?_ (spaced_word_append rfl _)
        rw [String.toList_append]
        exact (Tidy.safe_append (by decide) (tidy_escape _ fun _ h => h.notClosing)).refsWithin
      · exact hexpr
  split
  · exact (tidy_plain (by cases s.dialect <;> decide)).refsWithin
  · refine RefsWithin.intercalate (plain_of_safe (by decide))
      (fun more => sep_cons (by cases s.dialect <;> decide) _) (fun _ h => h) fun x hx => ?_
    rcases List.mem_append.1 hx with hx | hx
    · exact ((hcols x hx).mono fun _ h => h.notClosing).refsWithin
    · exact hrest x hx

theorem tidy_qualified (d : Dialect) (a c : String) :
    Tidy d (NotClosing d) (d.escape a ++ "." ++ d.escape c).toList :=
  ((tidy_escape a fun _ h => h).append_word (by decide) (by decide)).append_any
    (tidy_escape c fun _ h => h)

theorem tidy_joinKeys (d : Dialect) {α : Type} (cols : List α) (f g : α → String × String) :
    Tidy d (NotClosing d) (" AND ".intercalate (cols.map fun c =>
      d.escape (f c).1 ++ "." ++ d.escape (f c).2 ++ "=" ++
        (d.escape (g c).1 ++ "." ++ d.escape (g c).2))).toList := by
  refine Tidy.intercalate (by cases d <;> decide)
    (fun more => notClosing_safe_append " AND " (by decide) (by decide) more) (fun _ h => h)
    fun k hk => ?_
  obtain ⟨c, -, rfl⟩ := List.mem_map.1 hk
  exact ((tidy_qualified d _ _).append_word (by decide) (by decide)).append_any
    (tidy_qualified d _ _)

theorem TextsWithin.refsWithin_joinCondition (h : s.TextsWithin N) {j : Join} (hj : j ∈ s.joins)
    {condition : Option String} (hc : s.joinCondition j = .ok condition) :
    ∀ c ∈ condition, RefsWithin s.dialect (Sep s.dialect) N c.toList := by
  intro c hmem
  unfold joinCondition at hc
  split at hc
  · rename_i cond hcond
    cases hr : cond.render (s.renderContext true) with
    | error e => rw [hr] at hc; cases hc
    | ok u =>
      rw [hr] at hc
      cases hc
      cases hmem
      exact Condition.render_refsWithin (s.renderContext true) (by simp [renderContext, h.escaping])
        cond (h.joinConditions j hj cond hcond) hr
  · cases hc
    cases hmem

theorem TextsWithin.refsWithin_compileJoin (h : s.TextsWithin N) (reg : Registry) {hint : String}
    (hhint : hint.toList.all safeChar = true) {j : Join} (hj : j ∈ s.joins)
    {t : String} (ht : s.compileJoin reg hint j = .ok t) :
    RefsWithin s.dialect (Sep s.dialect) N t.toList := by
  unfold compileJoin at ht
  dsimp only at ht
  obtain ⟨condition, hc, ht⟩ := BoundOp.ok_of_bind_eq_ok ht
  have hcond := h.refsWithin_joinCondition hj hc
  have hdir : j.direction.sql.toList.all safeChar = true := by cases j.direction <;> decide
  have hon : Clause s.dialect N ((condition.map (" ON " ++ ·)).getD "") :=
    clause_getD fun x hx => by
      obtain ⟨c, hc, rfl⟩ := Option.mem_map.1 hx
      exact clause_word (by decide) rfl (hcond c hc)
  have hextra : Clause s.dialect N ((condition.map fun c => " AND (" ++ c ++ ")").getD "") :=
    clause_getD fun x hx => by
      obtain ⟨c, hc, rfl⟩ := Option.mem_map.1 hx
      have hword : " AND (" = " AND " ++ "(" := by decide
      have heq : " AND (" ++ c ++ ")" = " AND " ++ ("(" ++ c ++ ")") := by
        rw [hword]
        simp only [String.append_assoc]
      rw [heq]
      exact clause_word (by decide) rfl
        ((hcond c hc).parenthesized fun more => sep_cons (by cases s.dialect <;> decide) _)
  have hsoft : ∀ o : Option Column, Clause s.dialect N
      (o.elim "" fun c => if s.withDeleted = true then "" else
        " AND " ++ s.escape j.name ++ "." ++ s.escape c.databaseName ++ " IS NULL") := by
    intro o
    cases o with
    | some c =>
      dsimp only [Option.elim]
      split
      · exact clause_empty
      · rw [h.escape_eq, h.escape_eq]
        exact ((((tidy_safe (w := " AND ") (F := fun _ => True) (by decide)).append_any
          (tidy_escape _ fun _ h => h)).append_word (by decide) (by decide)).append_any
          (tidy_escape _ fun _ h => h)).append_safe (w := " IS NULL") (by decide)
          |>.clause (spaced_word_append (by simp [String.toList_append]) _)
    | none => exact clause_empty
  have htable : ∀ path, Tidy s.dialect (NotClosing s.dialect)
      (s.dialect.escapePath path ++ hint).toList := fun path =>
    (Dialect.tidy_escapePath _ _).append_safe hhint
  split at ht
  · -- a relation of a joined alias, joined on its keys
    rename_i parentAlias rel _
    obtain ⟨target, -, ht⟩ := BoundOp.ok_of_bind_eq_ok ht
    obtain ⟨pa, -, ht⟩ := BoundOp.ok_of_bind_eq_ok ht
    obtain ⟨parent, -, ht⟩ := BoundOp.ok_of_bind_eq_ok ht
    split at ht
    · -- the join columns of an owning to-one relation
      obtain rfl := Except.ok.inj ht
      refine (RefsWithin.then_clause ?_ hextra).then_clause ?_
      rotate_left
      · cases target.deleteDateColumn? with
        | some c => exact hsoft (some c)
        | none => exact hsoft none
      simp only [h.escape_eq]
      have hkeys := tidy_joinKeys s.dialect rel.joinColumns
        (fun jc => (j.name, target.columnName jc.referencedColumn))
        (fun jc => (parentAlias, jc.databaseName))
      have hpre := ((((((tidy_safe (F := NotClosing s.dialect) hdir).append_word (w := " ")
        (by decide) (by decide)).append_any (htable target.tablePath)).append_word (w := " ")
        (by decide) (by decide)).append_any (tidy_escape j.name fun _ h => h)).append_word
        (w := " ON ") (by decide) (by decide)).append_any hkeys
      exact hpre.refsWithin_sep
    split at ht
    · -- the two halves of the junction table of a many-to-many relation
      obtain ⟨junction, -, ht⟩ := BoundOp.ok_of_bind_eq_ok ht
      obtain rfl := Except.ok.inj ht
      refine (RefsWithin.then_clause ?_ hextra).then_clause ?_
      rotate_left
      · cases target.deleteDateColumn? with
        | some c => exact hsoft (some c)
        | none => exact hsoft none
      simp only [h.escape_eq]
      have howner := tidy_joinKeys s.dialect junction.ownerColumns
        (fun jc => (s.dialect.shortenAlias (parentAlias ++ "_" ++ j.name), jc.databaseName))
        (fun jc => (parentAlias, parent.columnName jc.referencedColumn))
      have hinverse := tidy_joinKeys s.dialect junction.inverseColumns
        (fun jc => (s.dialect.shortenAlias (parentAlias ++ "_" ++ j.name), jc.databaseName))
        (fun jc => (j.name, target.columnName jc.referencedColumn))
      have hfirst := ((((((tidy_safe (F := NotClosing s.dialect) hdir).append_word (w := " ")
        (by decide) (by decide)).append_any (Dialect.tidy_escapePath _ junction.tableName)).append_safe
        hhint).append_word (w := " ") (by decide) (by decide)).append_any
        (tidy_escape (s.dialect.shortenAlias (parentAlias ++ "_" ++ j.name)) fun _ h => h)).append_word
        (w := " ON ") (by decide) (by decide) |>.append_any howner
      have hsecond := (((((((hfirst.append_word (w := " ") (by decide) (by decide)).append_any
        (tidy_safe (F := NotClosing s.dialect) hdir)).append_word (w := " ") (by decide)
        (by decide)).append_any (htable target.tablePath)).append_word (w := " ") (by decide)
        (by decide)).append_any (tidy_escape j.name fun _ h => h)).append_word (w := " ON ")
        (by decide) (by decide)).append_any hinverse
      exact hsecond.refsWithin_sep
    · -- the join columns of the inverse side
      obtain ⟨inverse, -, ht⟩ := BoundOp.ok_of_bind_eq_ok ht
      obtain rfl := Except.ok.inj ht
      refine (RefsWithin.then_clause ?_ hextra).then_clause ?_
      rotate_left
      · cases target.deleteDateColumn? with
        | some c => exact hsoft (some c)
        | none => exact hsoft none
      simp only [h.escape_eq]
      have hkeys := tidy_joinKeys s.dialect inverse.2.joinColumns
        (fun jc => (j.name, jc.databaseName))
        (fun jc => (parentAlias, parent.columnName jc.referencedColumn))
      have hpre := ((((((tidy_safe (F := NotClosing s.dialect) hdir).append_word (w := " ")
        (by decide) (by decide)).append_any (htable target.tablePath)).append_word (w := " ")
        (by decide) (by decide)).append_any (tidy_escape j.name fun _ h => h)).append_word
        (w := " ON ") (by decide) (by decide)).append_any hkeys
      exact hpre.refsWithin_sep
  · -- an entity, with its soft-delete filter when a condition is given
    obtain ⟨target, -, ht⟩ := BoundOp.ok_of_bind_eq_ok ht
    obtain rfl := Except.ok.inj ht
    refine (RefsWithin.then_clause ?_ hon).then_clause ?_
    rotate_left
    · split
      · exact clause_empty
      · cases target.deleteDateColumn? with
        | some c => exact hsoft (some c)
        | none => exact hsoft none
    simp only [h.escape_eq]
    exact (((((tidy_safe (F := NotClosing s.dialect) hdir).append_word (w := " ") (by decide)
      (by decide)).append_any (Dialect.tidy_escapePath _ target.tablePath)).append_safe
      hhint).append_word (w := " ") (by decide) (by decide)).append_any
      (tidy_escape j.name fun _ h => h) |>.refsWithin_sep
  · -- a table
    obtain rfl := Except.ok.inj ht
    refine RefsWithin.then_clause ?_ hon
    simp only [h.escape_eq]
    rename_i path _ _
    exact (((((tidy_safe (F := NotClosing s.dialect) hdir).append_word (w := " ") (by decide)
      (by decide)).append_any (Dialect.tidy_escapePath _ path)).append_safe
      hhint).append_word (w := " ") (by decide) (by decide)).append_any
      (tidy_escape j.name fun _ h => h) |>.refsWithin_sep
  · -- a subquery, whose text is read in place
    rename_i sql hsub
    obtain rfl := Except.ok.inj ht
    refine RefsWithin.then_clause ?_ hon
    rw [h.escape_eq]
    exact ((((tidy_safe (F := NotClosing s.dialect) hdir).append_word (w := " ") (by decide)
      (by decide)).refsWithin.append_any ((h.joinSubQueries j hj sql hsub).mono
        (fun _ _ => trivial) fun _ h => h)).append_blank
      (w := " ") (by decide) rfl).append_any (refsWithin_escape_sep j.name)

theorem TextsWithin.lockOf_tidy (h : s.TextsWithin N) {lock : LockClause}
    (hl : s.lockOf = .ok lock) : lock.Tidy s.dialect := by
  unfold lockOf at hl
  split at hl
  · cases hl
    trivial
  · -- an optimistic lock is checked on the client and writes nothing
    obtain ⟨main, -, hl⟩ := BoundOp.ok_of_bind_eq_ok hl
    obtain ⟨e, -, hl⟩ := BoundOp.ok_of_bind_eq_ok hl
    split at hl
    · cases hl
    · cases hl
      trivial
  · obtain ⟨tables, htables, hl⟩ := BoundOp.ok_of_bind_eq_ok hl
    refine Dialect.lockClause_tidy _ (fun t ht => ?_) hl
    obtain ⟨n, -, hn⟩ := mem_of_mapM_except_ok htables t ht
    obtain ⟨a, -, hn⟩ := BoundOp.ok_of_bind_eq_ok hn
    obtain rfl := Except.ok.inj hn
    rw [h.escape_eq]
    exact tidy_escape _ fun _ h => h

theorem refsWithin_ordered {d : Dialect} {e : String} (he : RefsWithin d (Sep d) N e.toList)
    (o : SortOrder) : RefsWithin d (Sep d) N (e ++ " " ++ o.sql).toList := by
  have hdir : o.sql.toList.all safeChar = true := by cases o <;> decide
  exact (he.append_blank (w := " ") (by decide) rfl).append_any (tidy_safe hdir).refsWithin_sep

theorem refsWithin_orderText {d : Dialect} {e : String} (he : RefsWithin d (Sep d) N e.toList)
    (o : SortOrder) (nulls : Option NullsOrder) :
    RefsWithin d (Sep d) N (orderText e o nulls).toList := by
  unfold orderText
  refine (refsWithin_ordered he o).then_clause ?_
  split
  · exact (tidy_safe (by decide)).clause (by decide)
  · exact (tidy_safe (by decide)).clause (by decide)
  · exact clause_empty

theorem refsWithin_selectText {d : Dialect} (distinct : Bool)
    {selection fromSql joinsSql whereSql groupSql havingSql orderSql page suffix : String}
    (hsel : RefsWithin d (Sep d) N selection.toList) (hfrom : Clause d N fromSql)
    (hjoins : Clause d N joinsSql) (hwhere : Clause d N whereSql) (hgroup : Clause d N groupSql)
    (hhaving : Clause d N havingSql) (horder : Clause d N orderSql) (hpage : Clause d N page)
    (hsuffix : Clause d N suffix) :
    RefsWithin d (Sep d) N ("SELECT " ++ (if distinct then "DISTINCT " else "") ++ selection ++
      fromSql ++ joinsSql ++ whereSql ++ groupSql ++ havingSql ++ orderSql ++ page ++ suffix).toList := by
  have hstart : Tidy d (fun _ => True) ("SELECT " ++ (if distinct then "DISTINCT " else "")).toList :=
    tidy_safe (by cases distinct <;> decide)
  exact ((((((((hstart.refsWithin.append_any hsel).then_clause hfrom).then_clause hjoins).then_clause
    hwhere).then_clause hgroup).then_clause hhaving).then_clause horder).then_clause hpage).then_clause
    hsuffix

theorem TextsWithin.clause_from (h : s.TextsWithin N) {hint : String}
    (hhint : hint.toList.all safeChar = true ∧ Spaced hint) :
    Clause s.dialect N (if ((s.aliases.items.filter (·.kind = .source)).map fun a =>
        a.sourceSql s.dialect ++ " " ++ s.escape a.name ++ hint).isEmpty then ""
      else " FROM " ++ ", ".intercalate ((s.aliases.items.filter (·.kind = .source)).map fun a =>
        a.sourceSql s.dialect ++ " " ++ s.escape a.name ++ hint)) := by
  split
  · exact clause_empty
  · refine clause_word (by decide) rfl (RefsWithin.intercalate (plain_of_safe (by decide))
      (fun more => sep_cons (by cases s.dialect <;> decide) _) (fun _ h => h) fun x hx => ?_)
    obtain ⟨a, ha, rfl⟩ := List.mem_map.1 hx
    have hsrc := ((h.refsWithin_sourceSql (List.mem_filter.1 ha).1).mono (fun _ h => h.notClosing)
      fun _ h => h).append_blank (w := " ") (by decide) rfl
    rw [h.escape_eq]
    exact (hsrc.append_any (refsWithin_escape_sep a.name)).then_clause
      ((tidy_safe hhint.1).clause hhint.2)

theorem TextsWithin.clause_groupBy (h : s.TextsWithin N) :
    Clause s.dialect N (if s.groupBys.isEmpty then "" else
      " GROUP BY " ++ ", ".intercalate (s.groupBys.map (PropertyNames.replace s.dialect s.aliases true))) := by
  split
  · exact clause_empty
  · refine clause_word (by decide) rfl (RefsWithin.intercalate (plain_of_safe (by decide))
      (fun more => sep_cons (by cases s.dialect <;> decide) _) (fun _ h => h) fun x hx => ?_)
    obtain ⟨g, hg, rfl⟩ := List.mem_map.1 hx
    exact (h.groupBys g hg).replace _ _

theorem TextsWithin.clause_orderBy (h : s.TextsWithin N) :
    Clause s.dialect N (if s.orderBys.isEmpty then "" else
      " ORDER BY " ++ ", ".intercalate (s.orderBys.map fun o =>
        orderText (PropertyNames.replace s.dialect s.aliases true o.expression) o.order o.nulls)) := by
  split
  · exact clause_empty
  · refine clause_word (by decide) rfl (RefsWithin.intercalate (plain_of_safe (by decide))
      (fun more => sep_cons (by cases s.dialect <;> decide) _) (fun _ h => h) fun x hx => ?_)
    obtain ⟨o, ho, rfl⟩ := List.mem_map.1 hx
    exact refsWithin_orderText ((h.orderBys o ho).replace _ _) o.order o.nulls

theorem TextsWithin.refsWithin_compileSelect (h : s.TextsWithin N) (reg : Registry) {sql : String}
    (hs : s.compileSelect reg = .ok sql) : RefsWithin s.dialect (Sep s.dialect) N sql.toList := by
  unfold compileSelect at hs
  dsimp only at hs
  obtain ⟨lock, hlock, hs⟩ := BoundOp.ok_of_bind_eq_ok hs
  have hlt := h.lockOf_tidy hlock
  obtain ⟨joins, hjoins, hs⟩ := BoundOp.ok_of_bind_eq_ok hs
  obtain ⟨whereSql, hwhere, hs⟩ := BoundOp.ok_of_bind_eq_ok hs
  have hjoin : ∀ x ∈ joins, RefsWithin s.dialect (Sep s.dialect) N x.toList := fun x hx => by
    obtain ⟨j, hj, hx⟩ := mem_of_mapM_except_ok hjoins x hx
    exact h.refsWithin_compileJoin reg hlt.hint hj hx
  have hpage : ∀ {page : String}, s.dialect.paginationClause s.effectivePagination.1
      s.effectivePagination.2 (!s.orderBys.isEmpty) = .ok page → Clause s.dialect N page :=
    fun hp => (tidy_plain (Dialect.paginationClause_tidy _ hp).1).clause
      (Dialect.paginationClause_tidy _ hp).2
  split at hs
  · -- no HAVING clause
    obtain ⟨havingSql, hh, hs⟩ := BoundOp.ok_of_bind_eq_ok hs
    obtain rfl := Except.ok.inj hh
    obtain ⟨page, hp, hs⟩ := BoundOp.ok_of_bind_eq_ok hs
    obtain rfl := Except.ok.inj hs
    exact refsWithin_selectText _ (h.refsWithin_compileSelection reg) (h.clause_from ⟨hlt.hint, LockClause.spaced_hint lock⟩)
      (clause_join hjoin) (h.clause_compileWhere hwhere) h.clause_groupBy clause_empty
      h.clause_orderBy (hpage hp) hlt.suffix
  · -- the HAVING conditions
    obtain ⟨u, hu, hs⟩ := BoundOp.ok_of_bind_eq_ok hs
    obtain ⟨havingSql, hh, hs⟩ := BoundOp.ok_of_bind_eq_ok hs
    obtain rfl := Except.ok.inj hh
    obtain ⟨page, hp, hs⟩ := BoundOp.ok_of_bind_eq_ok hs
    obtain rfl := Except.ok.inj hs
    have hhaving := clause_word (N := N) (w := " HAVING ") (by decide) rfl (Condition.renderClauses_refsWithin
      (s.renderContext true) (by simp [renderContext, h.escaping]) _ h.havings hu)
    exact refsWithin_selectText _ (h.refsWithin_compileSelection reg) (h.clause_from ⟨hlt.hint, LockClause.spaced_hint lock⟩)
      (clause_join hjoin) (h.clause_compileWhere hwhere) h.clause_groupBy hhaving
      h.clause_orderBy (hpage hp) hlt.suffix

theorem TextsWithin.countQuery (h : s.TextsWithin N) {t : QueryState}
    (hc : DataSource.countQuery s = .ok t) : t.TextsWithin N := by
  unfold DataSource.countQuery at hc
  dsimp only at hc
  obtain ⟨main, -, hc⟩ := BoundOp.ok_of_bind_eq_ok hc
  obtain ⟨e, -, hc⟩ := BoundOp.ok_of_bind_eq_ok hc
  obtain rfl := Except.ok.inj hc
  have hkey : ∀ k ∈ e.primaryColumns.map (fun c => s.escape main.name ++ "." ++ s.escape c.databaseName),
      Tidy s.dialect (NotClosing s.dialect) k.toList := by
    intro k hk
    obtain ⟨c, -, rfl⟩ := List.mem_map.1 hk
    rw [h.escape_eq, h.escape_eq]
    exact tidy_qualified _ _ _
  refine { h with
    selects := fun item hitem => ?_
    orderBys := fun o ho => by cases ho
    groupBys := fun g hg => by cases hg }
  rw [List.mem_singleton] at hitem
  subst hitem
  have hcounted : ∀ counted : String, Tidy s.dialect (Sep s.dialect) counted.toList →
      Clean s.dialect N ("COUNT(" ++ counted ++ ")").toList := fun counted hc => by
    rw [String.toList_append, String.toList_append, List.append_assoc]
    exact (Tidy.safe_append (by decide) (hc.append (tidy_safe (F := Sep s.dialect) (w := ")")
      (by decide)) fun _ _ => sep_cons (by cases s.dialect <;> decide) _)).clean (sep_nil _)
      (sep_space _ _)
  apply hcounted
  split
  · exact tidy_plain (by cases s.dialect <;> decide)
  · rename_i k hks
    have hk := hkey k (hks ▸ List.mem_singleton_self k)
    rw [String.toList_append, String.toList_append, List.append_assoc]
    exact Tidy.safe_append (by decide) (hk.append (tidy_safe (w := ")") (by decide))
      fun rest _ => notClosing_of_safe rest (by decide))
  · -- two keys or more, concatenated with a literal between them
    have hparts : ∀ ks : List String, (∀ k ∈ ks, Tidy s.dialect (NotClosing s.dialect) k.toList) →
        ∀ p ∈ ks.intersperse "'|;|'", Tidy s.dialect (Sep s.dialect) p.toList := by
      intro ks hks p hp
      rcases mem_intersperse hp with hp | rfl
      · exact (hks p hp).mono fun _ h => h.notClosing
      · exact tidy_keySeparator
    rw [String.toList_append, String.toList_append, List.append_assoc]
    exact Tidy.safe_append (by decide) ((Dialect.tidy_concat _ (hparts _ hkey)).append
      (tidy_safe (w := ")") (by decide)) fun _ _ => sep_cons (by cases s.dialect <;> decide) _)

theorem TextsWithin.refsWithin_selectQuery (h : s.TextsWithin N) (reg : Registry) {sql : String}
    (hq : s.selectQuery reg = .ok sql) : RefsWithin s.dialect (Sep s.dialect) N sql.toList := by
  unfold selectQuery at hq
  obtain ⟨inner, hinner, hq⟩ := BoundOp.ok_of_bind_eq_ok hq
  obtain rfl := Except.ok.inj hq
  have hsel := h.refsWithin_compileSelect reg hinner
  split
  · exact hsel.parenthesized fun more => sep_cons (by cases s.dialect <;> decide) _
  · exact hsel

theorem refsWithin_existsText {d : Dialect} {dual inner page : String}
    (hdual : dual.toList.all safeChar = true) (hsel : RefsWithin d (Sep d) N inner.toList)
    (hp : page.toList.all (tidyChar d) = true ∧ Spaced page) :
    RefsWithin d (Sep d) N ("SELECT 1 AS " ++ d.escape "row_exists" ++ " FROM (SELECT 1 AS " ++
      d.escape "dummy_column" ++ dual ++ ") " ++ d.escape "dummy_table" ++ " WHERE EXISTS (" ++
      inner ++ ")" ++ page).toList := by
  have htable := (((((tidy_safe (F := fun _ => True) (w := "SELECT 1 AS ") (by decide)).append_any
    (tidy_escape (F := NotClosing d) "row_exists" fun _ h => h)).append_word
    (w := " FROM (SELECT 1 AS ") (by decide) (by decide)).append_any
    (tidy_escape "dummy_column" fun _ h => h)).append_safe hdual).append_word (w := ") ")
    (by decide) (by decide)
  have hexists := (htable.append_any (tidy_escape "dummy_table" fun _ h => h)).append_word
    (w := " WHERE EXISTS (") (by decide) (by decide)
  exact ((hexists.refsWithin.append_any hsel).append_sep (w := ")") (by decide)
    ⟨')', rfl, by cases d <;> decide⟩).then_clause ((tidy_plain hp.1).clause hp.2)

theorem TextsWithin.refsWithin_existsQuery (h : s.TextsWithin N) (ds : DataSource) {sql : String}
    (hq : ds.existsQuery s = .ok sql) : RefsWithin s.dialect (Sep s.dialect) N sql.toList := by
  unfold DataSource.existsQuery at hq
  dsimp only at hq
  obtain ⟨inner, hinner, hq⟩ := BoundOp.ok_of_bind_eq_ok hq
  obtain ⟨page, hpage, hq⟩ := BoundOp.ok_of_bind_eq_ok hq
  obtain rfl := Except.ok.inj hq
  have hsel := h.refsWithin_compileSelect ds.registry hinner
  have hp := Dialect.paginationClause_tidy _ hpage
  rw [h.escape_eq, h.escape_eq, h.escape_eq]
  split
  · rename_i t hdt
    have hdual : (" FROM " ++ t).toList.all safeChar = true := by
      cases hd : s.dialect <;> rw [hd] at hdt <;> cases hdt <;> decide
    exact refsWithin_existsText hdual hsel hp
  · exact refsWithin_existsText (by decide) hsel hp

theorem foldl_preserves_of_mem {α β : Type} (P : β → Prop) (f : β → α → β) :
    ∀ (l : List α), (∀ b, ∀ a ∈ l, P b → P (f b a)) → ∀ b, P b → P (l.foldl f b)
  | [], _, _, hb => hb
  | a :: l, hf, b, hb =>
    foldl_preserves_of_mem P f l (fun b' a' ha' => hf b' a' (List.mem_cons_of_mem a ha'))
      (f b a) (hf b a List.mem_cons_self hb)

theorem TextsWithin.refsWithin_pageKeysQuery (h : s.TextsWithin N) (reg : Registry)
    (aliasName : String) (e : Entity) {sql : String}
    (hq : DataSource.pageKeysQuery reg s aliasName e = .ok sql) :
    RefsWithin s.dialect (Sep s.dialect) N sql.toList := by
  unfold DataSource.pageKeysQuery at hq
  dsimp only at hq
  obtain ⟨innerSql, hinner, hq⟩ := BoundOp.ok_of_bind_eq_ok hq
  have hin : ({ s with skip := none, take := none, orderBys := [], lockMode := none } :
      QueryState).TextsWithin N := { h with orderBys := fun o ho => by cases ho }
  have hsel := hin.refsWithin_compileSelect reg hinner
  generalize hfold : s.orderBys.foldl _ _ = acc at hq
  obtain ⟨page, hpage, hq⟩ := BoundOp.ok_of_bind_eq_ok hq
  obtain rfl := Except.ok.inj hq
  have hp := Dialect.paginationClause_tidy _ hpage
  have hcol : ∀ n, Tidy s.dialect (NotClosing s.dialect)
      (s.escape "distinctAlias" ++ "." ++ s.escape n).toList := fun n => by
    rw [h.escape_eq, h.escape_eq]
    exact tidy_qualified _ _ _
  have hacc : (∀ x ∈ acc.1, Tidy s.dialect (NotClosing s.dialect) x.toList) ∧
      ∀ x ∈ acc.2, RefsWithin s.dialect (Sep s.dialect) N x.toList := by
    rw [← hfold]
    refine foldl_preserves_of_mem (fun acc : List String × List String =>
      (∀ x ∈ acc.1, Tidy s.dialect (NotClosing s.dialect) x.toList) ∧
        ∀ x ∈ acc.2, RefsWithin s.dialect (Sep s.dialect) N x.toList) _ _
      (fun acc o ho hacc => ?_) _ ⟨fun x hx => ?_, fun x hx => ?_⟩
    · split
      · refine ⟨fun x hx => ?_, fun x hx => ?_⟩
        · split at hx
          · exact hacc.1 x hx
          · rcases List.mem_append.1 hx with hx | hx
            · exact hacc.1 x hx
            · rw [List.mem_singleton] at hx
              subst hx
              exact hcol _
        · rcases List.mem_append.1 hx with hx | hx
          · exact hacc.2 x hx
          · rw [List.mem_singleton] at hx
            subst hx
            exact refsWithin_orderText (hcol _).refsWithin_sep _ _
      · refine ⟨hacc.1, fun x hx => ?_⟩
        rcases List.mem_append.1 hx with hx | hx
        · exact hacc.2 x hx
        · rw [List.mem_singleton] at hx
          subst hx
          exact refsWithin_orderText (h.orderBys o ho).refsWithin _ _
    · obtain ⟨c, -, rfl⟩ := List.mem_map.1 hx
      rw [h.escape_eq, h.escape_eq, h.escape_eq]
      exact tidy_columnAs _ _ _ _
    · cases hx
  have hlast : ∀ x ∈ DataSource.orderKeysLast (fun n => s.escape "distinctAlias" ++ "." ++ s.escape n)
      (e.primaryColumns.map fun c => s.dialect.buildColumnAlias aliasName c.databaseName) acc.2,
      RefsWithin s.dialect (Sep s.dialect) N x.toList := by
    unfold DataSource.orderKeysLast
    refine DataSource.foldl_preserves
      (fun ords : List String => ∀ x ∈ ords, RefsWithin s.dialect (Sep s.dialect) N x.toList) _
      (fun ords c hords => ?_) _ _ hacc.2
    dsimp only
    split
    · exact hords
    · intro x hx
      rcases List.mem_append.1 hx with hx | hx
      · exact hords x hx
      · rw [List.mem_singleton] at hx
        subst hx
        exact ((hcol c).append_safe (w := " ASC") (by decide)).refsWithin_sep
  have hcomma : ∀ more, Sep s.dialect (", ".toList ++ more) := fun more =>
    sep_cons (by cases s.dialect <;> decide) _
  have hdistinct : RefsWithin s.dialect (Sep s.dialect) N (s.escape "distinctAlias").toList := by
    rw [h.escape_eq]
    exact refsWithin_escape_sep _
  have hselects := ((tidy_safe (F := fun _ => True) (w := "SELECT DISTINCT ") (by decide)).append_any
    (Tidy.intercalate (by cases s.dialect <;> decide)
      (fun more => notClosing_safe_append ", " (by decide) (by decide) more) (fun _ h => h)
      hacc.1)).append_word (w := " FROM (") (by decide) (by decide)
  have hfrom := ((hselects.refsWithin.append_any hsel).append_sep (F := fun _ => True) (w := ") ")
    (by decide) ⟨')', rfl, by cases s.dialect <;> decide⟩).append_any hdistinct
  exact ((hfrom.append_blank (w := " ORDER BY ") (by decide) rfl).append_any
    (RefsWithin.intercalate (plain_of_safe (by decide)) hcomma (fun _ h => h) hlast)).then_clause
    ((tidy_plain hp.1).clause hp.2)
end QueryState

end EntitySql
