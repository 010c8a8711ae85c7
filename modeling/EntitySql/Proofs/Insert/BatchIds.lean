import EntitySql.Execute.Write
import Mathlib

/-!
# The keys an insert works out from the reported insert id

When an insert gets no rows back, a driver may still report one generated id for the whole
batch: the first one on some servers, the last one on others. The insert then gives every row
that has no key of its own an id worked out from that one. Counting up from the first id, the
row at position `i` of the batch gets `k + i`; counting down from the last, `k - (n - 1 - i)`.
The arithmetic is that of signed 64-bit integers and wraps at the ends of their range.

Two things keep these ids from being the ones the server gave. The position counts every row of
the batch, so a row with a key of its own before a keyless row moves that row's id up by one
although the server numbered only the keyless rows (`insertResult_counts_keyed_rows`). And near
the ends of the range the sum wraps. `insertResult_numbers_keyless_rows` states what holds when
neither happens: with the keyless rows first and the ids in range, the `j`-th keyless row gets
`k + j`; counting down, in a batch without keys, row `i` gets `k - (n - 1 - i)`. Rows with a key
of their own get nothing in either case.
-/

namespace EntitySql

namespace Column

def holdsValue (c : Column) (row : Fields) : Bool := (c.getValue? row).any (!·.isNull)

end Column

theorem Value.wrapI64_of_le {n : Int} (h1 : Json.i64Min ≤ n) (h2 : n ≤ Json.i64Max) :
    Value.wrapI64 n = n := by
  have hm : ((Nat.pow 2 64 : Nat) : Int) = 18446744073709551616 := rfl
  unfold Json.i64Min at h1
  unfold Json.i64Max at h2
  exact Int.bmod_eq_of_le (by rw [hm]; omega) (by rw [hm]; omega)

section Prefix

variable {α : Type} {p : α → Bool} {l : List α}

theorem countP_take_of_prefix (hleading : l.Pairwise fun a b => p b = true → p a = true)
    {i : Nat} (hi : i < l.length) (hp : p l[i] = true) : (l.take i).countP p = i := by
  rw [List.countP_eq_length.mpr]
  · simp only [List.length_take]
    omega
  · intro a ha
    obtain ⟨j, hj, rfl⟩ := List.mem_take_iff_getElem.mp ha
    exact List.pairwise_iff_getElem.mp hleading j i (by omega) hi (by omega) hp

theorem countP_take_lt {i : Nat} (hi : i < l.length) (hp : p l[i] = true) :
    (l.take i).countP p < l.countP p := by
  have hsplit : l.countP p = (l.take i).countP p + (l.drop i).countP p := by
    rw [← List.countP_append, List.take_append_drop]
  have hdrop : 0 < (l.drop i).countP p := by
    rw [List.drop_eq_getElem_cons hi, List.countP_cons_of_pos hp]
    omega
  omega

end Prefix

namespace QueryState

variable (s : QueryState) {e : Entity} {c : Column} {r : DriverResult} {k : Int}

@[simp] theorem insertResult_generatedMaps (e? : Option Entity) (r : DriverResult) :
    (s.insertResult e? r).generatedMaps = s.insertedValues e? r := rfl

theorem insertedValues_length (e? : Option Entity) :
    (s.insertedValues e? r).length = s.valuesSet.length := by
  unfold insertedValues
  split
  · simp
  · split
    · split
      · split <;> simp
      · simp
    · simp

section InsertId

/-! Rows come back empty and the driver reports the integer `k`, for an entity whose only
primary column `c` is generated by increment. -/

variable (hkey : e.primaryColumns = [c]) (hgen : c.generation = some .increment)
  (hrows : r.rows = []) (hid : r.insertId = some (.int k))
include hkey hgen hrows hid

theorem insertedValues_getElem? (i : Nat) :
    (s.insertedValues (some e) r)[i]? = s.valuesSet[i]?.map fun row =>
      if c.holdsValue row then [] else match s.dialect.insertIdStrategy with
        | .firstOfBatch => Json.setPath [] c.propertyPath (.int (Value.wrapI64 (k + i)))
        | .lastOfBatch =>
          Json.setPath [] c.propertyPath (.int (Value.wrapI64 (k - (s.valuesSet.length - 1 - i))))
        | .none => [] := by
  unfold insertedValues
  simp [hrows, hid, hkey, hgen, Value.asI64?, List.getElem?_zipIdx, Column.holdsValue]
  rfl

theorem insertedValues_of_holdsValue {i : Nat} (hi : i < s.valuesSet.length)
    (hold : c.holdsValue s.valuesSet[i] = true) : (s.insertedValues (some e) r)[i]? = some [] := by
  simp [insertedValues_getElem? s hkey hgen hrows hid, hi, hold]

theorem insertedValues_firstOfBatch {i : Nat} (hi : i < s.valuesSet.length)
    (hfirst : s.dialect.insertIdStrategy = .firstOfBatch)
    (hnone : c.holdsValue s.valuesSet[i] = false) :
    (s.insertedValues (some e) r)[i]? =
      some (Json.setPath [] c.propertyPath (.int (Value.wrapI64 (k + i)))) := by
  simp [insertedValues_getElem? s hkey hgen hrows hid, hi, hnone, hfirst]

theorem insertedValues_lastOfBatch {i : Nat} (hi : i < s.valuesSet.length)
    (hlast : s.dialect.insertIdStrategy = .lastOfBatch)
    (hnone : c.holdsValue s.valuesSet[i] = false) :
    (s.insertedValues (some e) r)[i]? =
      some (Json.setPath [] c.propertyPath
        (.int (Value.wrapI64 (k - (s.valuesSet.length - 1 - i))))) := by
  simp [insertedValues_getElem? s hkey hgen hrows hid, hi, hnone, hlast]

end InsertId

/-- The generated maps of a batch number the rows without a key from the reported id `k`:
rows with a key get nothing; on servers that report the first id, when the keyless rows come
first and their ids stay in range, the `j`-th keyless row gets `k + j`; on servers that report
the last id, in a batch without keys whose ids stay in range, row `i` gets `k - (n - 1 - i)`. -/
structure NumbersKeylessRows (s : QueryState) (c : Column) (k : Int) (generated : List Fields) :
    Prop where
  length_eq : generated.length = s.valuesSet.length
  keyed_unchanged : ∀ i (hi : i < s.valuesSet.length), c.holdsValue s.valuesSet[i] = true →
    generated[i]? = some []
  counts_up : s.dialect = .mySql ∨ s.dialect = .mariaDb →
    (s.valuesSet.Pairwise fun a b => (!c.holdsValue b) = true → (!c.holdsValue a) = true) →
    k + s.valuesSet.countP (!c.holdsValue ·) ≤ Json.i64Max + 1 →
    ∀ i (hi : i < s.valuesSet.length), c.holdsValue s.valuesSet[i] = false →
      generated[i]? = some (Json.setPath [] c.propertyPath
        (.int (k + (s.valuesSet.take i).countP (!c.holdsValue ·))))
  counts_down : s.dialect = .sqlite ∨ s.dialect = .libSql →
    (∀ row ∈ s.valuesSet, c.holdsValue row = false) →
    Json.i64Min ≤ k - (s.valuesSet.length - 1) →
    ∀ i < s.valuesSet.length,
      generated[i]? = some (Json.setPath [] c.propertyPath (.int (k - (s.valuesSet.length - 1 - i))))

/-- An insert into an entity keyed by one increment column, answered by no rows and the
integer id `k`, numbers the keyless rows of its batch from `k`. -/
theorem insertResult_numbers_keyless_rows (hkey : e.primaryColumns = [c])
    (hgen : c.generation = some .increment) (hrows : r.rows = []) (hid : r.insertId = some (.int k))
    (hk : Json.i64Min ≤ k ∧ k ≤ Json.i64Max) :
    NumbersKeylessRows s c k (s.insertResult (some e) r).generatedMaps where
  length_eq := insertedValues_length s (some e)
  keyed_unchanged _ hi hold := insertedValues_of_holdsValue s hkey hgen hrows hid hi hold
  counts_up hd hleading hrange i hi hnone := by
    have hfirst : s.dialect.insertIdStrategy = .firstOfBatch := by
      rcases hd with h | h <;> simp [h, Dialect.insertIdStrategy]
    have hkeyless : (!c.holdsValue s.valuesSet[i]) = true := by simp [hnone]
    have hcount := countP_take_of_prefix hleading hi hkeyless
    have hbelow := countP_take_lt (p := fun row => !c.holdsValue row) hi hkeyless
    rw [insertResult_generatedMaps, insertedValues_firstOfBatch s hkey hgen hrows hid hi hfirst hnone,
      hcount, Value.wrapI64_of_le (by omega) (by omega)]
  counts_down hd hnone hrange i hi := by
    have hlast : s.dialect.insertIdStrategy = .lastOfBatch := by
      rcases hd with h | h <;> simp [h, Dialect.insertIdStrategy]
    rw [insertResult_generatedMaps,
      insertedValues_lastOfBatch s hkey hgen hrows hid hi hlast (hnone _ (List.getElem_mem hi)),
      Value.wrapI64_of_le (by omega) (by omega)]

end QueryState

def categoryId : Column := (Column.new "id" .integer).primary.generated .increment

def category : Entity :=
  { name := "Category", tableName := "categories", columns := [categoryId, Column.new "name" .text] }

def keylessCategories : QueryState :=
  { dialect := .mySql, kind := .insert, valuesSet := [[("name", .str "a")], [("name", .str "b")]] }

theorem insertResult_numbers_keyless_rows_categories :
    category.primaryColumns = [categoryId] ∧ categoryId.generation = some .increment ∧
      ({ insertId := some (.int 10) } : DriverResult).rows = [] ∧
      ({ insertId := some (.int 10) } : DriverResult).insertId = some (.int 10) ∧
      (Json.i64Min ≤ 10 ∧ (10 : Int) ≤ Json.i64Max) ∧
      QueryState.NumbersKeylessRows keylessCategories categoryId 10
        (keylessCategories.insertResult (some category) { insertId := some (.int 10) }).generatedMaps :=
  ⟨rfl, rfl, rfl, rfl, ⟨by decide, by decide⟩,
    QueryState.insertResult_numbers_keyless_rows keylessCategories rfl rfl rfl rfl
      ⟨by decide, by decide⟩⟩

def mixedCategories : QueryState :=
  { dialect := .mySql, kind := .insert,
    valuesSet := [[("name", .str "a")], [("id", .int 50), ("name", .str "b")], [("name", .str "c")]] }

/-- With the id 10 reported, the third category is the second without a key, yet it gets 12, the
id of its position in the batch, and not 11. -/
theorem insertResult_counts_keyed_rows :
    (mixedCategories.valuesSet.take 2).countP (!categoryId.holdsValue ·) = 1 ∧
      (mixedCategories.insertResult (some category) { insertId := some (.int 10) }).generatedMaps[2]? =
        some [("id", .int 12)] ∧
      (mixedCategories.insertResult (some category) { insertId := some (.int 10) }).generatedMaps[2]? ≠
        some (Json.setPath [] categoryId.propertyPath (.int (10 + 1))) := by
  have hthird : (mixedCategories.insertResult (some category)
      { insertId := some (.int 10) }).generatedMaps[2]? = some [("id", .int 12)] := by
    rw [QueryState.insertResult_generatedMaps,
      QueryState.insertedValues_firstOfBatch mixedCategories rfl rfl rfl rfl (by decide) rfl (by cbv),
      Value.wrapI64_of_le (by decide) (by decide)]
    cbv
  refine ⟨by cbv, hthird, ?_⟩
  rw [hthird]
  cbv
  simp

end EntitySql
