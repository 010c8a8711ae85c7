import EntitySql.Proofs.Query.StatementsWithin

/-!
# Written rows refer to allowed names

An update, a soft delete or restore, a delete and an insert are written, as a select is, from
the names they quote, words and numbers of their own, and the texts their builder holds: the
SQL assigned to columns, the raw columns read back, the raw conflict text, the WHERE conditions
and the expressions rows are ordered by. The cells of an insert are written as their
parameters.

When the builder's texts are within `N` (`QueryState.TextsWithin`), its assignments refer to
names `N` allows and, for an insert, the cells are bound to such names, each of these
statements is read in place and refers only to names `N` allows. The clauses after the table
start with a blank or are empty (`Placeholder.Clause`), so they are read one after the other.
-/

namespace EntitySql

open Placeholder

namespace Placeholder

variable {d : Dialect} {N : String → Prop}

theorem Tidy.append_spaced {a w : String} (ha : Tidy d (NotClosing d) a.toList)
    (hw : w.toList.all (tidyChar d) = true) (hs : Spaced w) :
    Tidy d (NotClosing d) (a ++ w).toList := by
  rw [String.toList_append]
  exact ha.append (tidy_plain hw) fun _ hrest => hs.notClosing_append hrest

theorem refsWithin_assignment (c : String) {sql : String} (hsql : RefsWithin d (Sep d) N sql.toList) :
    RefsWithin d (Sep d) N (d.escape c ++ " = " ++ sql).toList :=
  ((tidy_escape c fun _ h => h).append_word (w := " = ") (by decide) (by decide)).refsWithin.append_any
    hsql

end Placeholder

namespace Dialect

open Placeholder

variable (d : Dialect) {N : String → Prop}

theorem refsWithin_currentTimestamp : RefsWithin d (Sep d) N d.currentTimestamp.toList := by
  have h : Clean d (fun _ => False) d.currentTimestamp.toList := by
    cases d <;> decide +kernel
  exact (h.mono fun _ h => h.elim).refsWithin

theorem tidy_names (names : List String) :
    Tidy d (NotClosing d) (", ".intercalate (names.map d.escape)).toList := by
  refine Tidy.intercalate (by cases d <;> decide)
    (fun more => notClosing_safe_append ", " (by decide) (by decide) more) (fun _ h => h)
    fun x hx => ?_
  obtain ⟨n, -, rfl⟩ := List.mem_map.1 hx
  exact tidy_escape n fun _ h => h

end Dialect

namespace QueryState

variable {N : String → Prop} {s : QueryState}

theorem TextsWithin.refsWithin_automaticAssignments (h : s.TextsWithin N)
    (assigned : List (String × String)) :
    ∀ x ∈ s.automaticAssignments assigned, RefsWithin s.dialect (Sep s.dialect) N x.toList := by
  intro x hx
  unfold automaticAssignments at hx
  split at hx
  · cases hx
  · rename_i e _
    dsimp only at hx
    rcases List.mem_append.1 hx with hx | hx
    · -- the version, one more than it was
      split at hx
      · rename_i c _
        split_ifs at hx
        · rw [List.mem_singleton] at hx
          subst hx
          rw [h.escape_eq]
          have hversion : Tidy s.dialect (NotClosing s.dialect) (s.dialect.escape c.databaseName ++
              " = " ++ s.dialect.escape c.databaseName).toList :=
            ((tidy_escape c.databaseName fun _ h => h).append_word (w := " = ") (by decide)
              (by decide)).append_any (tidy_escape c.databaseName fun _ h => h)
          exact (hversion.append_spaced (w := " + 1") (by cases s.dialect <;> decide)
            (by decide)).refsWithin_sep
        · cases hx
      · cases hx
    · -- the update date, the current time
      split at hx
      · split_ifs at hx
        · rw [List.mem_singleton] at hx
          subst hx
          rw [h.escape_eq]
          exact refsWithin_assignment _ (Dialect.refsWithin_currentTimestamp _)
        · cases hx
      · cases hx

theorem TextsWithin.refsWithin_mainTable (h : s.TextsWithin N) {table : String}
    (ht : s.mainTable = .ok table) : RefsWithin s.dialect (NotClosing s.dialect) N table.toList := by
  unfold mainTable at ht
  obtain ⟨a, ha, ht⟩ := BoundOp.ok_of_bind_eq_ok ht
  obtain rfl := Except.ok.inj ht
  exact h.refsWithin_sourceSql (Aliases.mem_of_mainAlias ha)

theorem TextsWithin.clause_outputClause (h : s.TextsWithin N) {k : StatementKind}
    {r : Option Returning} (hr : s.returningColumns k = .ok r) : Clause s.dialect N (s.outputClause k r) := by
  unfold outputClause
  by_cases hs : s.dialect.returningStyle ≠ .output
  · rw [if_pos hs]
    exact clause_empty
  · rw [if_neg hs]
    generalize hpre : (if k = .delete then "DELETED" else "INSERTED") = pre
    have hsafe : (pre ++ ".").toList.all safeChar = true := by
      subst hpre
      split <;> decide
    dsimp only
    rcases r with _ | ⟨cs⟩ | ⟨sql⟩
    · exact clause_empty
    · -- the quoted columns of the inserted or deleted rows
      refine clause_word (by decide) rfl (Tidy.refsWithin_sep (Tidy.intercalate
        (by cases s.dialect <;> decide) (fun more => notClosing_safe_append ", " (by decide) (by decide) more)
        (fun _ h => h) fun x hx => ?_))
      obtain ⟨c, -, rfl⟩ := List.mem_map.1 hx
      rw [h.escape_eq, String.toList_append]
      exact Tidy.safe_append hsafe (tidy_escape c fun _ h => h)
    · exact clause_word (by decide) rfl (h.returning sql (returning_of_raw hr rfl)).refsWithin

theorem TextsWithin.clause_returningClause (h : s.TextsWithin N) {k : StatementKind}
    {r : Option Returning} (hr : s.returningColumns k = .ok r) : Clause s.dialect N (s.returningClause r) := by
  unfold returningClause
  split_ifs
  · exact clause_empty
  · rcases r with _ | ⟨cs⟩ | ⟨sql⟩
    · exact clause_empty
    · have hnames := Dialect.tidy_names s.dialect cs
      rw [← show cs.map s.escape = cs.map s.dialect.escape from
        List.map_congr_left fun c _ => h.escape_eq c] at hnames
      exact clause_word (by decide) rfl hnames.refsWithin_sep
    · exact clause_word (by decide) rfl (h.returning sql (returning_of_raw hr rfl)).refsWithin

theorem TextsWithin.clause_writeLimitClause (h : s.TextsWithin N) {t : String}
    (hl : s.writeLimitClause = .ok t) : Clause s.dialect N t := by
  unfold writeLimitClause at hl
  split_ifs at hl
  · obtain rfl := Except.ok.inj hl
    exact clause_empty
  · cases hl
  · dsimp only at hl
    obtain rfl := Except.ok.inj hl
    refine Clause.append ?_ ?_
    · -- the orders, each an expression with its direction
      split
      · exact clause_empty
      · refine clause_word (by decide) rfl (RefsWithin.intercalate (plain_of_safe (by decide))
          (fun more => sep_cons (by cases s.dialect <;> decide) _) (fun _ h => h) fun x hx => ?_)
        obtain ⟨o, ho, rfl⟩ := List.mem_map.1 hx
        exact refsWithin_ordered ((h.orderBys o ho).replace _ _) o.order
    · -- the limit, a number
      split
      · rename_i l _
        have hdigits : (" LIMIT " ++ toString l).toList.all (tidyChar s.dialect) = true := by
          generalize s.dialect = d
          cases d <;> simp [String.toList_append, Nat.toList_repr, Dialect.tidy_digits] <;> decide
        exact (tidy_plain hdigits).clause (spaced_word_append rfl _)
      · exact clause_empty

theorem TextsWithin.refsWithin_head (h : s.TextsWithin N) {w v table : String}
    (hw : w.toList.all safeChar = true) (hv : v.toList.all safeChar = true)
    (hhead : v.toList.head? = some ' ') (ht : s.mainTable = .ok table) :
    RefsWithin s.dialect (fun _ => True) N (w ++ table ++ v).toList :=
  ((tidy_safe (F := fun _ => True) hw).refsWithin.append_any ((h.refsWithin_mainTable ht).mono
    (fun _ h => h.notClosing) fun _ h => h)).append_blank hv hhead

theorem TextsWithin.refsWithin_updateStatement (h : s.TextsWithin N) {sets : List String}
    (hsets : ∀ x ∈ sets, RefsWithin s.dialect (Sep s.dialect) N x.toList) {sql : String}
    (hu : s.updateStatement sets = .ok sql) : RefsWithin s.dialect (Sep s.dialect) N sql.toList := by
  unfold updateStatement at hu
  obtain ⟨r, hr, hu⟩ := BoundOp.ok_of_bind_eq_ok hu
  obtain ⟨table, ht, hu⟩ := BoundOp.ok_of_bind_eq_ok hu
  obtain ⟨whereSql, hwhere, hu⟩ := BoundOp.ok_of_bind_eq_ok hu
  obtain ⟨limitSql, hlimit, hu⟩ := BoundOp.ok_of_bind_eq_ok hu
  obtain rfl := Except.ok.inj hu
  have hjoin : RefsWithin s.dialect (Sep s.dialect) N (", ".intercalate sets).toList :=
    RefsWithin.intercalate (plain_of_safe (by decide))
      (fun more => sep_cons (by cases s.dialect <;> decide) _) (fun _ h => h) hsets
  exact ((((h.refsWithin_head (w := "UPDATE ") (v := " SET ") (by decide) (by decide) rfl
    ht).append_any hjoin).then_clause (h.clause_outputClause hr)).then_clause
    (h.clause_compileWhere hwhere)).then_clause (h.clause_writeLimitClause hlimit) |>.then_clause
    (h.clause_returningClause hr)

theorem TextsWithin.refsWithin_compileUpdate (h : s.TextsWithin N)
    (hassigned : ∀ a ∈ s.assignments, RefsWithin s.dialect (Sep s.dialect) N a.2.toList)
    {sql : String} (hu : s.compileUpdate = .ok sql) :
    RefsWithin s.dialect (Sep s.dialect) N sql.toList := by
  unfold compileUpdate at hu
  split_ifs at hu
  · cases hu
  · refine h.refsWithin_updateStatement (fun x hx => ?_) hu
    rcases List.mem_append.1 hx with hx | hx
    · obtain ⟨⟨c, v⟩, ha, rfl⟩ := List.mem_map.1 hx
      dsimp only
      rw [h.escape_eq]
      exact refsWithin_assignment c (hassigned _ ha)
    · exact h.refsWithin_automaticAssignments _ x hx

theorem TextsWithin.refsWithin_compileSoftDelete (h : s.TextsWithin N) {sql : String}
    (hu : s.compileSoftDelete = .ok sql) : RefsWithin s.dialect (Sep s.dialect) N sql.toList := by
  unfold compileSoftDelete at hu
  obtain ⟨a, -, hu⟩ := BoundOp.ok_of_bind_eq_ok hu
  obtain ⟨e, -, hu⟩ := BoundOp.ok_of_bind_eq_ok hu
  dsimp only at hu
  split at hu
  · simp only [pure_bind] at hu
    refine h.refsWithin_updateStatement (fun x hx => ?_) hu
    rcases List.mem_cons.1 hx with rfl | hx
    · rw [h.escape_eq]
      refine refsWithin_assignment _ ?_
      split
      · exact (tidy_safe (by decide)).refsWithin_sep
      · exact Dialect.refsWithin_currentTimestamp _
    · exact h.refsWithin_automaticAssignments _ x hx
  · cases hu

theorem TextsWithin.refsWithin_compileDelete (h : s.TextsWithin N) {sql : String}
    (hu : s.compileDelete = .ok sql) : RefsWithin s.dialect (Sep s.dialect) N sql.toList := by
  unfold compileDelete at hu
  obtain ⟨r, hr, hu⟩ := BoundOp.ok_of_bind_eq_ok hu
  obtain ⟨table, ht, hu⟩ := BoundOp.ok_of_bind_eq_ok hu
  obtain ⟨whereSql, hwhere, hu⟩ := BoundOp.ok_of_bind_eq_ok hu
  obtain ⟨limitSql, hlimit, hu⟩ := BoundOp.ok_of_bind_eq_ok hu
  obtain rfl := Except.ok.inj hu
  have hhead : RefsWithin s.dialect (Sep s.dialect) N ("DELETE FROM " ++ table).toList :=
    (tidy_safe (F := fun _ => True) (w := "DELETE FROM ") (by decide)).refsWithin.append_any
      ((h.refsWithin_mainTable ht).mono (fun _ h => h.notClosing) fun _ h => h)
  exact (((hhead.then_clause (h.clause_outputClause hr)).then_clause
    (h.clause_compileWhere hwhere)).then_clause (h.clause_writeLimitClause hlimit)).then_clause
    (h.clause_returningClause hr)

theorem refsWithin_distinctFrom {d : Dialect} {l r t : String} (hl : RefsWithin d (Sep d) N l.toList)
    (hr : RefsWithin d (Sep d) N r.toList) (h : d.distinctFrom l r = .ok t) :
    RefsWithin d (Sep d) N t.toList := by
  unfold Dialect.distinctFrom at h
  split_ifs at h
  · obtain rfl := Except.ok.inj h
    exact (hl.append_blank (w := " IS DISTINCT FROM ") (by decide) rfl).append_any hr
  · obtain rfl := Except.ok.inj h
    exact (hl.append_blank (w := " IS NOT ") (by decide) rfl).append_any hr

theorem TextsWithin.clause_conflictClause (h : s.TextsWithin N) {table : String}
    (htable : RefsWithin s.dialect (NotClosing s.dialect) N table.toList) {ignored : Bool}
    {conflict : String} (hc : s.conflictClause table ignored = .ok conflict) :
    Clause s.dialect N conflict := by
  unfold conflictClause at hc
  dsimp only at hc
  obtain ⟨a, -, hc⟩ := BoundOp.ok_of_bind_eq_ok hc
  have hnames : ∀ names : List String,
      Tidy s.dialect (NotClosing s.dialect) (", ".intercalate (names.map s.escape)).toList := by
    intro names
    rw [show names.map s.escape = names.map s.dialect.escape from
      List.map_congr_left fun c _ => h.escape_eq c]
    exact Dialect.tidy_names _ names
  cases ho : s.onConflict with
  | some statement =>
    simp only [ho] at hc
    split_ifs at hc
    · obtain rfl := Except.ok.inj hc
      exact clause_word (by decide) rfl (h.onConflict statement ho).refsWithin
  | none =>
    simp only [ho] at hc
    cases hu : s.onUpdate with
    | none =>
      simp only [hu] at hc
      split_ifs at hc
      · obtain rfl := Except.ok.inj hc
        exact (tidy_safe (by decide)).clause (by decide)
      · obtain rfl := Except.ok.inj hc
        exact clause_empty
    | some u =>
      simp only [hu] at hc
      split at hc
      · -- the updated columns set from the excluded row, where some changed if asked
        have htarget : Tidy s.dialect (NotClosing s.dialect) (" ON CONFLICT" ++
            (if (s.columnNames u.conflictTarget).isEmpty = true then ""
              else " ( " ++ ", ".intercalate ((s.columnNames u.conflictTarget).map s.escape) ++
                " )")).toList := by
          split
          · rw [String.append_empty]
            exact tidy_safe (by decide)
          · simp only [← String.append_assoc]
            exact ((tidy_safe (F := fun _ => True) (w := " ON CONFLICT" ++ " ( ") (by decide)).append_any
              (hnames _)).append_safe (w := " )") (by decide)
        have hsets : Tidy s.dialect (NotClosing s.dialect) (", ".intercalate
            ((s.columnNames u.columns).map fun c => s.escape c ++ " = EXCLUDED." ++ s.escape c)).toList := by
          refine Tidy.intercalate (by cases s.dialect <;> decide)
            (fun more => notClosing_safe_append ", " (by decide) (by decide) more) (fun _ h => h)
            fun x hx => ?_
          obtain ⟨c, -, rfl⟩ := List.mem_map.1 hx
          rw [h.escape_eq]
          exact ((tidy_escape c fun _ h => h).append_word (w := " = EXCLUDED.") (by decide)
            (by decide)).append_any (tidy_escape c fun _ h => h)
        have hupdate : ∀ changed, Clause s.dialect N changed → Clause s.dialect N
            (" ON CONFLICT" ++ (if (s.columnNames u.conflictTarget).isEmpty = true then ""
              else " ( " ++ ", ".intercalate ((s.columnNames u.conflictTarget).map s.escape) ++
                " )") ++ " DO UPDATE SET " ++ ", ".intercalate ((s.columnNames u.columns).map
                  fun c => s.escape c ++ " = EXCLUDED." ++ s.escape c) ++ changed) := by
          intro changed hchanged
          refine ⟨(((htarget.append_word (w := " DO UPDATE SET ") (by decide) (by decide)).append_any
            hsets).refsWithin_sep.then_clause hchanged), ?_⟩
          simp only [String.append_assoc]
          exact spaced_word_append rfl _
        by_cases hskip : u.skipUnchanged = true ∧ (!(s.columnNames u.columns).isEmpty) = true
        · -- the test that some updated column changed
          rw [if_pos hskip] at hc
          obtain ⟨tests, htests, hc⟩ := BoundOp.ok_of_bind_eq_ok hc
          simp only [pure_bind] at hc
          obtain rfl := Except.ok.inj hc
          refine hupdate _ ?_
          have htest : ∀ x ∈ tests, RefsWithin s.dialect (Sep s.dialect) N x.toList := by
            intro x hx
            obtain ⟨c, -, hcx⟩ := mem_of_mapM_except_ok htests x hx
            have hcol : Tidy s.dialect (NotClosing s.dialect) ("." ++ s.escape c).toList := by
              rw [h.escape_eq, String.toList_append]
              exact Tidy.safe_append (by decide) (tidy_escape c fun _ h => h)
            have hexcluded : Tidy s.dialect (NotClosing s.dialect) ("EXCLUDED." ++ s.escape c).toList := by
              rw [h.escape_eq, String.toList_append]
              exact Tidy.safe_append (by decide) (tidy_escape c fun _ h => h)
            refine refsWithin_distinctFrom ?_ hexcluded.refsWithin_sep hcx
            rw [String.append_assoc, String.toList_append]
            exact htable.append hcol.refsWithin_sep fun rest _ => by
              rw [String.toList_append, List.append_assoc]
              exact notClosing_safe_append "." (by decide) (by decide) _
          have hjoin : RefsWithin s.dialect (Sep s.dialect) N (" OR ".intercalate tests ++ ")").toList :=
            (RefsWithin.intercalate (plain_of_safe (by decide))
              (fun more => sep_space s.dialect _) (fun _ h => h) htest).append_sep (w := ")")
              (by decide) ⟨')', rfl, by cases s.dialect <;> decide⟩
          rw [String.append_assoc]
          exact clause_word (by decide) rfl hjoin
        · rw [if_neg hskip] at hc
          simp only [pure_bind] at hc
          obtain rfl := Except.ok.inj hc
          exact hupdate "" clause_empty
      · -- the updated columns set from the inserted row
        obtain rfl := Except.ok.inj hc
        refine clause_word (by decide) rfl (Tidy.refsWithin_sep (Tidy.intercalate
          (by cases s.dialect <;> decide)
          (fun more => notClosing_safe_append ", " (by decide) (by decide) more) (fun _ h => h)
          fun x hx => ?_))
        obtain ⟨c, -, rfl⟩ := List.mem_map.1 hx
        rw [h.escape_eq]
        exact (((tidy_escape c fun _ h => h).append_word (w := " = VALUES(") (by decide)
          (by decide)).append_any (tidy_escape c fun _ h => h)).append_safe (w := ")") (by decide)
      · cases hc

theorem TextsWithin.refsWithin_insertBody (h : s.TextsWithin N) {shape : InsertShape}
    (hcells : ∀ p ∈ shape.params, N p.1) {r : Option Returning}
    (hr : s.returningColumns .insert = .ok r) :
    RefsWithin s.dialect (Sep s.dialect) N (s.insertBody shape r).toList := by
  unfold insertBody
  split
  · -- no column: the dialect's clause
    have hempty : (" " ++ s.dialect.emptyValuesClause).toList.all safeChar = true := by
      cases s.dialect <;> decide
    rw [String.append_assoc]
    exact ((h.clause_outputClause hr).refs.append_blank hempty
      (by rw [String.toList_append]; rfl)).mono (fun _ _ => trivial) fun _ h => h
  · have hnames := Dialect.tidy_names s.dialect shape.columns
    rw [← show shape.columns.map s.escape = shape.columns.map s.dialect.escape from
      List.map_congr_left fun c _ => h.escape_eq c] at hnames
    have hcolumns : Tidy s.dialect (NotClosing s.dialect)
        ("(" ++ ", ".intercalate (shape.columns.map s.escape) ++ ")").toList :=
      ((tidy_safe (F := fun _ => True) (w := "(") (by decide)).append_any hnames).append_safe
        (w := ")") (by decide)
    have hvalues : RefsWithin s.dialect (Sep s.dialect) N (shape.valuesSql s.dialect).toList :=
      (shape.readsAs_valuesSql s.dialect).refsWithin fun r hr => by
        obtain ⟨p, hp, rfl⟩ := List.mem_map.1 hr
        exact hcells p hp
    exact ((hcolumns.refsWithin_sep.then_clause (h.clause_outputClause hr)).append_blank
      (w := " VALUES ") (by decide) rfl).append_any hvalues

theorem TextsWithin.refsWithin_compileInsert (h : s.TextsWithin N)
    (hcells : ∀ shape, s.insertShape = .ok shape → ∀ p ∈ shape.params, N p.1) {sql : String}
    (hu : s.compileInsert = .ok sql) : RefsWithin s.dialect (Sep s.dialect) N sql.toList := by
  obtain ⟨a, shape, r, conflict, ha, hs, hr, hc, rfl⟩ := compileInsert_eq_ok hu
  have htable := h.refsWithin_sourceSql (Aliases.mem_of_mainAlias ha)
  have hkeyword : (s.insertKeyword.getD "INSERT" ++ " INTO ").toList.all safeChar = true := by
    rw [String.toList_append, List.all_append, insertKeyword_safe, Bool.true_and]
    decide
  have hinto : RefsWithin s.dialect (Sep s.dialect) N
      (s.insertKeyword.getD "INSERT" ++ " INTO " ++ a.sourceSql s.dialect ++ s.insertBody shape r).toList := by
    rw [String.toList_append]
    exact ((tidy_safe (F := fun _ => True) hkeyword).refsWithin.append_any htable).append
      (h.refsWithin_insertBody (hcells shape hs) hr) fun rest _ =>
        InsertFrame.insertBody_notClosing s shape r rest
  exact (hinto.then_clause (h.clause_conflictClause htable hc)).then_clause
    (h.clause_returningClause hr)

end QueryState

end EntitySql
