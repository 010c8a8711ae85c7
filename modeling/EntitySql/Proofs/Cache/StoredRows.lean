import Mathlib
import EntitySql.Cache.Memory
import EntitySql.Proofs.Value.TaggedReadBack

/-!
# Cached rows read back

A cached result holds its rows in stored form, `{"columns": names, "values": tagged values}`
(`Row.toSnapshot`), and a cache hit reads them back with `CacheEntry.rows`. The rows come back
as they were stored, under any column names, when each value is within what its tagged form
reads back (`Value.inTaggedRange`): `CacheEntry.rows_of_stored_rows`.

The range is needed. A float that is not finite is stored as `null`, and no float is read from
`null`: a cached row holding NaN is refused on a hit (`CacheEntry.rows_refuse_stored_nan`).
-/

namespace EntitySql

namespace Row

theorem toSnapshot_eq (r : Row) :
    r.toSnapshot = .obj [("columns", .arr (r.columns.map .str)),
      ("values", .arr (r.values.map Value.toTagged))] := by
  have hlt : ¬ ("values" < "columns") := by decide
  simp [toSnapshot, Json.ofFields, Json.insertField, hlt]

theorem snapshotColumns_names (names : List String) :
    snapshotColumns (.arr (names.map .str)) = .ok names := by
  simp only [snapshotColumns, Json.expectArr, bind, Except.bind]
  exact Json.mapItems_map fun _ _ => rfl

theorem snapshotValues_toTagged {vs : List Value} (h : ∀ v ∈ vs, v.inTaggedRange = true) :
    snapshotValues (.arr (vs.map Value.toTagged)) = .ok vs := by
  simp only [snapshotValues, Json.expectArr, bind, Except.bind]
  exact Json.mapItems_map fun v hv => Value.ofTagged_toTagged (h v hv)

theorem ofColumns_columns_values (r : Row) : ofColumns r.columns r.values = r := by
  simp only [ofColumns, columns, values, ← List.unzip_fst, ← List.unzip_snd, List.zip_unzip]

theorem ofSnapshot_toSnapshot {r : Row} (h : ∀ v ∈ r.values, v.inTaggedRange = true) :
    ofSnapshot r.toSnapshot = .ok r := by
  rw [toSnapshot_eq]
  simp [ofSnapshot, snapshotColumns_names, snapshotValues_toTagged h, ofColumns_columns_values,
    bind, Except.bind, pure, Except.pure]

end Row

namespace CacheEntry

/-- A cache entry holding rows in stored form gives the rows back, under any column names, when
every value is within what its tagged form reads back. -/
theorem rows_of_stored_rows (key : String) (lifetime : Nat) {rs : List Row}
    (h : ∀ r ∈ rs, ∀ v ∈ r.values, v.inTaggedRange = true) :
    (CacheEntry.mk key lifetime (.arr (rs.map Row.toSnapshot))).rows = .ok rs := by
  have hread : Row.listOfSnapshot (.arr (rs.map Row.toSnapshot)) = .ok rs := by
    simp only [Row.listOfSnapshot, Json.expectArr, bind, Except.bind]
    exact Json.mapItems_map fun r hr => Row.ofSnapshot_toSnapshot (h r hr)
  simp only [rows, hread]

/-- Rows of an integer, a text, an instant and a nested array come back from the cache. -/
theorem rows_of_stored_rows_sample :
    (∀ r ∈ [Row.mk [("id", .int 7), ("name", .text "ada"),
        ("seen", .timestamp ⟨1700000000, 250000000⟩), ("tags", .array [.bool true, .null])]],
      ∀ v ∈ r.values, v.inTaggedRange = true) ∧
    (CacheEntry.mk "k" 1000 (.arr ([Row.mk [("id", .int 7), ("name", .text "ada"),
        ("seen", .timestamp ⟨1700000000, 250000000⟩), ("tags", .array [.bool true, .null])]].map
          Row.toSnapshot))).rows =
      .ok [Row.mk [("id", .int 7), ("name", .text "ada"),
        ("seen", .timestamp ⟨1700000000, 250000000⟩), ("tags", .array [.bool true, .null])]] :=
  ⟨by decide, rows_of_stored_rows "k" 1000 (by decide)⟩

/-- A cached row holding a NaN float is refused on a hit: the float was stored as `null`. -/
theorem rows_refuse_stored_nan :
    (CacheEntry.mk "k" 1000
      (.arr ([Row.mk [("user_score", .float (Float.ofBits 0x7FF8000000000000))]].map
        Row.toSnapshot))).rows =
      .error (.serialization "invalid type: null, expected f64") := by
  have hnan : Decimal.isFinite (Float.ofBits 0x7FF8000000000000) = false := by decide +kernel
  have hstored : Row.toSnapshot ⟨[("user_score", .float (Float.ofBits 0x7FF8000000000000))]⟩ =
      .obj [("columns", .arr [.str "user_score"]),
        ("values", .arr [.obj [("type", .str "float"), ("value", .null)]])] := by
    simp [Row.toSnapshot_eq, Row.columns, Row.values, Value.toTagged, Value.ofFields_type_value,
      Value.floatJson, hnan]
  rw [List.map_singleton, hstored]
  rfl

end CacheEntry

end EntitySql
