import EntitySql.Query.SelectSql
import EntitySql.Hydration.Entities

/-!
# The select list and the rows it is read from

A select list names the result column of each selected column of an entity alias `a` by
`buildColumnAlias a.name column`, and the entities are read back from the rows by the same name:
the key of a row (`Hydration.rowKey`), the descendant a row stands for, and the stored columns of
an entity all read `row.get? (buildColumnAlias a.name column)`.

`QueryState.selectOuts` lists the items of a compiled select list, and
`compileSelection_eq` writes the select list as their rendering. A row keeps one cell per name,
and the last value given under a name wins (`Row.get?_ofPairs`). So when the result names are
pairwise distinct, every selected column is read from its own item
(`selection_reads_own_columns`). They need not be: the name of column `first_name` of alias `u`
and that of column `name` of alias `u_first` are both `u_first_name`, and the user is then read
with the category's name (`selection_names_collide`).
-/

namespace EntitySql

namespace Row

theorem lookup_cons_cell (a n : String) (b : Value) (cells : List (String × Value)) :
    ((a, b) :: cells).lookup n = if n = a then some b else cells.lookup n := by
  by_cases h : n = a
  · simp [h]
  · rw [List.lookup_cons, beq_false_of_ne h, if_neg h]

theorem lookup_replace_ne (cells : List (String × Value)) {column n : String} (v : Value)
    (hn : n ≠ column) :
    (cells.map fun (c, x) => if c = column then (c, v) else (c, x)).lookup n = cells.lookup n := by
  induction cells with
  | nil => rfl
  | cons c cs ih =>
    obtain ⟨a, b⟩ := c
    by_cases ha : a = column
    · subst ha
      simp only [List.map_cons, if_true, lookup_cons_cell, ih, hn, if_false]
    · simp only [List.map_cons, ha, if_false, lookup_cons_cell, ih]

theorem lookup_replace_eq (cells : List (String × Value)) (column : String) (v : Value)
    (h : cells.any (·.1 = column) = true) :
    (cells.map fun (c, x) => if c = column then (c, v) else (c, x)).lookup column = some v := by
  induction cells with
  | nil => simp at h
  | cons c cs ih =>
    obtain ⟨a, b⟩ := c
    by_cases ha : a = column
    · subst ha
      simp only [List.map_cons, if_true, lookup_cons_cell]
    · have hcs : cs.any (·.1 = column) = true := by simpa [ha] using h
      simp only [List.map_cons, ha, if_false, lookup_cons_cell, Ne.symm ha, ih hcs]

theorem lookup_of_not_any (cells : List (String × Value)) {column : String}
    (h : ¬ cells.any (·.1 = column) = true) : cells.lookup column = none := by
  induction cells with
  | nil => rfl
  | cons c cs ih =>
    obtain ⟨a, b⟩ := c
    have ha : column ≠ a := fun hca => h (by simp [hca])
    have hcs : ¬ cs.any (·.1 = column) = true := fun hcs => h (by simp_all)
    rw [lookup_cons_cell, if_neg ha, ih hcs]

theorem get?_push (r : Row) (column n : String) (v : Value) :
    (r.push column v).get? n = if n = column then some v else r.get? n := by
  unfold push get?
  split
  · rename_i hany
    by_cases hn : n = column
    · subst hn
      rw [if_pos rfl, lookup_replace_eq r.cells n v hany]
    · rw [if_neg hn, lookup_replace_ne r.cells v hn]
  · rename_i hnone
    rw [List.lookup_append]
    by_cases hn : n = column
    · subst hn
      simp [lookup_of_not_any r.cells hnone]
    · simp [lookup_cons_cell, hn]

theorem get?_foldl_push (cells : List (String × Value)) (r : Row) (n : String) :
    (cells.foldl (fun r (c, v) => r.push c v) r).get? n = (cells.reverse.lookup n).or (r.get? n) := by
  induction cells generalizing r with
  | nil => rfl
  | cons c cs ih =>
    obtain ⟨a, b⟩ := c
    rw [List.foldl_cons, ih, get?_push, List.reverse_cons, List.lookup_append, Option.or_assoc,
      lookup_cons_cell]
    by_cases hn : n = a <;> simp [hn]

theorem lookup_of_mem {cells : List (String × Value)} (h : (cells.map Prod.fst).Nodup)
    {n : String} {v : Value} (hmem : (n, v) ∈ cells) : cells.lookup n = some v := by
  induction cells with
  | nil => cases hmem
  | cons c cs ih =>
    obtain ⟨a, b⟩ := c
    rw [List.map_cons, List.nodup_cons] at h
    rw [lookup_cons_cell]
    rcases List.mem_cons.1 hmem with heq | hcs
    · obtain ⟨rfl, rfl⟩ := Prod.mk.inj heq
      rw [if_pos rfl]
    · -- the name is further on, so it is not the head's
      have hn : n ≠ a := by
        rintro rfl
        exact h.1 (List.mem_map.2 ⟨(n, v), hcs, rfl⟩)
      rw [if_neg hn, ih h.2 hcs]

theorem get?_ofPairs (cells : List (String × Value)) (n : String) :
    (ofPairs cells).get? n = cells.reverse.lookup n := by
  rw [ofPairs, get?_foldl_push]
  cases cells.reverse.lookup n <;> rfl

theorem get?_ofPairs_of_mem {cells : List (String × Value)} (h : (cells.map Prod.fst).Nodup)
    {n : String} {v : Value} (hmem : (n, v) ∈ cells) : (ofPairs cells).get? n = some v := by
  rw [get?_ofPairs]
  refine lookup_of_mem ?_ (List.mem_reverse.2 hmem)
  rw [List.map_reverse]
  exact List.pairwise_reverse.2 (h.imp Ne.symm)

end Row

/-! ## The items of a select list -/

/-- An item of a compiled select list. -/
inductive SelectOut where
  /-- A column of an alias, by its database name: `"a"."c" AS "a_c"`. -/
  | column (aliasName column : String)
  /-- All columns of an alias bound to no entity: `"a".*`. -/
  | all (aliasName : String)
  /-- An item written as given, its property references rewritten, with its label. -/
  | raw (expr : String) (label : Option String)
  deriving DecidableEq

namespace SelectOut

/-- The text of an item. -/
def render (s : QueryState) : SelectOut → String
  | .column a c =>
    s.escape a ++ "." ++ s.escape c ++ " AS " ++ s.escape (s.dialect.buildColumnAlias a c)
  | .all a => s.escape a ++ ".*"
  | .raw expr label =>
    match label with
    | some l => expr ++ " AS " ++ s.escape l
    | none => expr

/-- The name of an item's result column, where the item gives it. -/
def name? (d : Dialect) : SelectOut → Option String
  | .column a c => some (d.buildColumnAlias a c)
  | .all _ => none
  | .raw _ label => label

end SelectOut

namespace QueryState

/-- The columns an entity alias selects: all those to be selected when the alias is selected
whole, else those of the selected paths and the primary key; for the root of a single-table
hierarchy, those of its descendants too; each database name once. -/
def chosenColumns (reg : Registry) (e : Entity) (whole : Bool) (paths : List String) :
    List Column :=
  let sources := if e.discriminatorColumn?.isSome then e :: reg.descendants e.name else [e]
  let named := paths.flatMap fun p => (e.findColumnsByPath p).map (·.databaseName)
  (sources.flatMap (·.columns)).foldl (fun (acc : List Column) (c : Column) =>
    let selected := if whole then !c.isVirtual ∧ c.isSelect
      else named.contains c.databaseName ∨ c.isPrimary
    if selected ∧ !acc.any (·.databaseName = c.databaseName) then acc ++ [c] else acc) []

theorem entityColumns_eq (reg : Registry) (s : QueryState) (a : Alias) (e : Entity) (whole : Bool)
    (paths : List String) :
    entityColumns reg s a e whole paths =
      (chosenColumns reg e whole paths).map fun c => (SelectOut.column a.name c.databaseName).render s :=
  rfl

/-- The items of the select list of a query, in order. -/
def selectOuts (reg : Registry) (s : QueryState) : List SelectOut :=
  let (outs, consumed) := s.aliases.items.foldl (fun (acc : List SelectOut × List Nat) a =>
    let (whole, paths, used) := s.selectedOf a
    if !whole ∧ paths.isEmpty then acc
    else
      let cols : List SelectOut := match a.entity with
        | none => [.all a.name]
        | some e => (chosenColumns reg e whole paths).map fun c => .column a.name c.databaseName
      (acc.1 ++ cols, acc.2 ++ used)) ([], [])
  outs ++ s.selects.zipIdx.filterMap fun (item, i) =>
    if consumed.contains i then none
    else some (.raw (PropertyNames.replace s.dialect s.aliases true item.expression) item.label)

theorem compileSelection_eq (reg : Registry) (s : QueryState) :
    s.compileSelection reg =
      match (s.selectOuts reg).map (SelectOut.render s) with
      | [] => "*"
      | all => ", ".intercalate all := by
  unfold compileSelection selectOuts
  generalize s.aliases.items = l
  generalize hA₂ : (([], []) : List String × List Nat) = A₂
  generalize hA₁ : (([], []) : List SelectOut × List Nat) = A₁
  have hrel : A₂ = (A₁.1.map (SelectOut.render s), A₁.2) := by
    rw [← hA₁, ← hA₂]
    rfl
  clear hA₁ hA₂
  induction l generalizing A₁ A₂ with
  | nil =>
    subst hrel
    obtain ⟨outs, consumed⟩ := A₁
    simp only [List.foldl_nil, List.map_append, List.map_filterMap]
    congr 3
    funext x
    split <;> rfl
  | cons a l ih =>
    simp only [List.foldl_cons]
    apply ih
    subst hrel
    split
    · rfl
    · cases a.entity <;> simp [entityColumns_eq, SelectOut.render]

end QueryState

/-! ## Reading rows of the select list -/

namespace QueryState

/-- A row of the select list: each item whose result column has a known name gives its value
under that name, in the order of the list. -/
def answer (reg : Registry) (s : QueryState) (value : SelectOut → Value) : Row :=
  Row.ofPairs ((s.selectOuts reg).filterMap fun o => (o.name? s.dialect).map (·, value o))

def resultNames (reg : Registry) (s : QueryState) : List String :=
  (s.selectOuts reg).filterMap (·.name? s.dialect)

theorem names_answer_cells (reg : Registry) (s : QueryState) (value : SelectOut → Value) :
    ((s.selectOuts reg).filterMap fun o => (o.name? s.dialect).map (·, value o)).map Prod.fst =
      s.resultNames reg := by
  rw [resultNames, List.map_filterMap]
  congr 1
  funext o
  cases o.name? s.dialect <;> rfl

theorem answer_get?_of_name (reg : Registry) (s : QueryState) (value : SelectOut → Value)
    (hnodup : (s.resultNames reg).Nodup) {o : SelectOut} (ho : o ∈ s.selectOuts reg) {n : String}
    (hn : o.name? s.dialect = some n) : (s.answer reg value).get? n = some (value o) := by
  refine Row.get?_ofPairs_of_mem (by rw [names_answer_cells]; exact hnodup) ?_
  exact List.mem_filterMap.2 ⟨o, ho, by rw [hn]; rfl⟩

end QueryState

/-! ## What reading an entity looks up -/

/-- The columns reading an entity of an alias looks up: its stored columns and its
discriminator. -/
def Entity.readColumns (e : Entity) : List Column :=
  e.columns.filter (fun c => !c.isVirtual && c.relation.isNone) ++ e.discriminatorColumn?.toList

namespace Hydration.Loaded

variable (l : Loaded) {row row' : Row} (a : String) {e : Entity}

theorem columnsOf_congr
    (h : ∀ c ∈ e.readColumns, row.get? (l.query.dialect.buildColumnAlias a c.databaseName) =
      row'.get? (l.query.dialect.buildColumnAlias a c.databaseName)) :
    l.columnsOf row a e = l.columnsOf row' a e := by
  unfold columnsOf
  dsimp only
  have hstored : ∀ c ∈ e.columns.filter (fun c => !c.isVirtual && c.relation.isNone),
      row.get? (l.query.dialect.buildColumnAlias a c.databaseName) =
        row'.get? (l.query.dialect.buildColumnAlias a c.databaseName) :=
    fun c hc => h c (List.mem_append_left _ hc)
  generalize e.columns.filter (fun c => !c.isVirtual && c.relation.isNone) = cs at hstored ⊢
  generalize (([], false) : Fields × Bool) = acc
  induction cs generalizing acc with
  | nil => rfl
  | cons c cs ih =>
    rw [List.foldl_cons, List.foldl_cons, hstored c List.mem_cons_self]
    exact ih (fun c' hc' => hstored c' (List.mem_cons_of_mem _ hc')) _

theorem subtypeOf_congr
    (h : ∀ c ∈ e.readColumns, row.get? (l.query.dialect.buildColumnAlias a c.databaseName) =
      row'.get? (l.query.dialect.buildColumnAlias a c.databaseName)) :
    l.subtypeOf row a e = l.subtypeOf row' a e := by
  unfold subtypeOf
  cases hd : e.discriminatorColumn? with
  | none => rfl
  | some c =>
    have hc : c ∈ e.readColumns := List.mem_append_right _ (by simp [hd])
    simp only [h c hc]

end Hydration.Loaded

/-- Every column the select list selects for an alias `a` is written `"a"."c" AS "n"` with
`n = buildColumnAlias a c`, the name under which the entities are read back. When the result
names of the select list are pairwise distinct, a row of the select list gives every selected
column of every alias its own item's value: the key of a row for selected columns of an alias is
made of those values, and an entity whose read columns are all selected is read as from any row
holding them. -/
theorem selection_reads_own_columns (reg : Registry) (s : QueryState) (value : SelectOut → Value)
    (hnodup : (s.resultNames reg).Nodup) :
    s.compileSelection reg =
        (match (s.selectOuts reg).map (SelectOut.render s) with
        | [] => "*"
        | all => ", ".intercalate all) ∧
      (∀ a c, SelectOut.column a c ∈ s.selectOuts reg →
        (s.answer reg value).get? (s.dialect.buildColumnAlias a c) = some (value (.column a c))) ∧
      (∀ a cs, (∀ c ∈ cs, SelectOut.column a c ∈ s.selectOuts reg) →
        Hydration.rowKey s.dialect (s.answer reg value) a cs =
          Hydration.keyOf (cs.map fun c => some (value (.column a c)))) ∧
      (∀ (l : Hydration.Loaded) (r : Row) a e, l.query = s →
        (∀ c ∈ e.readColumns, SelectOut.column a c.databaseName ∈ s.selectOuts reg ∧
          r.get? (s.dialect.buildColumnAlias a c.databaseName) = some (value (.column a c.databaseName))) →
        l.columnsOf (s.answer reg value) a e = l.columnsOf r a e ∧
          l.subtypeOf (s.answer reg value) a e = l.subtypeOf r a e) := by
  have hget : ∀ a c, SelectOut.column a c ∈ s.selectOuts reg →
      (s.answer reg value).get? (s.dialect.buildColumnAlias a c) = some (value (.column a c)) :=
    fun a c ho => s.answer_get?_of_name reg value hnodup ho rfl
  refine ⟨s.compileSelection_eq reg, hget, fun a cs hcs => ?_, fun l r a e hl hr => ?_⟩
  · -- the key reads each column under the name of its own item
    unfold Hydration.rowKey
    congr 1
    exact List.map_congr_left fun c hc => hget a c (hcs c hc)
  · -- every column the entity is read from holds its own item's value in both rows
    have hsame : ∀ c ∈ e.readColumns,
        (s.answer reg value).get? (l.query.dialect.buildColumnAlias a c.databaseName) =
          r.get? (l.query.dialect.buildColumnAlias a c.databaseName) := by
      intro c hc
      rw [hl]
      exact (hget a _ (hr c hc).1).trans (hr c hc).2.symm
    exact ⟨l.columnsOf_congr a hsame, l.subtypeOf_congr a hsame⟩

/-- A select of users reads their columns from their own items. -/
theorem selection_reads_own_columns_users :
    let user : Entity :=
      { name := "User", tableName := "users",
        columns := [{ propertyPath := "id", databaseName := "id", type := .integer, isPrimary := true },
          { propertyPath := "firstName", databaseName := "first_name", type := .text }] }
    let s : QueryState :=
      { QueryState.new .postgres .select with
        aliases := { items := [{ kind := .source, name := "u", entity := some user }], main := some "u" },
        selects := [{ expression := "u" }] }
    let value : SelectOut → Value := fun o => .text (o.render s)
    (s.resultNames {}).Nodup ∧
      (s.answer {} value).get? "u_first_name" =
        some (value (.column "u" "first_name")) := by
  intro user s value
  have hnodup : (s.resultNames {}).Nodup := by decide
  exact ⟨hnodup, (selection_reads_own_columns {} s value hnodup).2.1 "u" "first_name" (by decide)⟩

/-- Alias `u_first` selected beside alias `u`: the result name of column `name` of `u_first` is
that of column `first_name` of `u`, and a row of the select list holds only the later value,
which the user's first name is then read from. -/
theorem selection_names_collide :
    let user : Entity :=
      { name := "User", tableName := "users",
        columns := [{ propertyPath := "id", databaseName := "id", type := .integer, isPrimary := true },
          { propertyPath := "firstName", databaseName := "first_name", type := .text }] }
    let category : Entity :=
      { name := "Category", tableName := "categories",
        columns := [{ propertyPath := "id", databaseName := "id", type := .integer, isPrimary := true },
          { propertyPath := "name", databaseName := "name", type := .text }] }
    let s : QueryState :=
      { QueryState.new .postgres .select with
        aliases :=
          { items := [{ kind := .source, name := "u", entity := some user },
              { kind := .source, name := "u_first", entity := some category }],
            main := some "u" },
        selects := [{ expression := "u" }, { expression := "u_first" }] }
    let value : SelectOut → Value := fun o =>
      if o = .column "u" "first_name" then .text "Timber"
      else if o = .column "u_first" "name" then .text "Books" else .null
    SelectOut.column "u" "first_name" ∈ s.selectOuts {} ∧
      SelectOut.column "u_first" "name" ∈ s.selectOuts {} ∧
      s.dialect.buildColumnAlias "u" "first_name" = s.dialect.buildColumnAlias "u_first" "name" ∧
      ((s.answer {} value).get? (s.dialect.buildColumnAlias "u" "first_name")).bind Value.asStr? =
        some "Books" := by
  intro user category s value
  exact ⟨by decide +kernel, by decide +kernel, by decide, by decide +kernel⟩

end EntitySql
