import EntitySql.Query.RelationLoad
import Mathlib

/-!
# What a key-match condition matches

Relation writes and loads pick rows by their keys with `keyMatchCondition`: for key tuples
`k₀, k₁, …` over columns `c₀, c₁, …` it writes `((c₀ = :p_0_0 AND c₁ = :p_0_1) OR (…))`, one
alternative per tuple, binding the parameter `p_i_j` to the `j`-th value of the `i`-th tuple, and
`1=0` for no tuples.

`EqAlternatives` is that shape of condition, with its text (`EqAlternatives.render`) and its
meaning for a row under a binding of the parameters (`EqAlternatives.Holds`): some alternative has
every column holding the value bound to its parameter. A key-match condition is the rendering of
its alternatives with their bindings (`keyMatchCondition_eq`). Its parameter names are distinct
(`keyParam_inj`: the digits of `i` and `j` split back at `_`), so each parameter is bound to its
own value, and the condition holds for a row exactly when the row's key columns hold one of the
key tuples (`holds_keyAlternatives_iff`).
-/

namespace EntitySql

/-! ## Conditions of alternatives of equalities -/

/-- A condition of alternatives, each a conjunction of equalities of a column with a named
parameter, given by the pairs of column and parameter. -/
abbrev EqAlternatives := List (List (String × String))

namespace EqAlternatives

def conj (alt : List (String × String)) : String :=
  " AND ".intercalate (alt.map fun cp => cp.1 ++ " = :" ++ cp.2)

/-- The text of a condition: no alternative is never true, one stands alone, several are joined
by `OR` in brackets. -/
def render : EqAlternatives → String
  | [] => "1=0"
  | [alt] => conj alt
  | alts => "((" ++ ") OR (".intercalate (alts.map conj) ++ "))"

/-- A condition holds for a row, read by column, under a binding of its parameters when every
column of some alternative holds the value bound to its parameter. -/
def Holds (cell : String → Option Value) (binding : List (String × Value)) (alts : EqAlternatives) :
    Prop :=
  ∃ alt ∈ alts, ∀ cp ∈ alt, ∃ v, binding.lookup cp.2 = some v ∧ cell cp.1 = some v

theorem holds_congr {alts : EqAlternatives} {cell : String → Option Value}
    {binding binding' : List (String × Value)}
    (h : ∀ alt ∈ alts, ∀ cp ∈ alt, binding.lookup cp.2 = binding'.lookup cp.2) :
    alts.Holds cell binding ↔ alts.Holds cell binding' := by
  unfold Holds
  refine exists_congr fun alt => and_congr_right fun halt => forall₂_congr fun cp hcp => ?_
  rw [h alt halt cp hcp]

end EqAlternatives

/-! ## Parameter names -/

def keyParam (pre : String) (i j : Nat) : String := pre ++ "_" ++ toString i ++ "_" ++ toString j

theorem underscore_not_mem_toString (n : Nat) : '_' ∉ (toString n).toList := by
  intro h
  have hdigit := Nat.isDigit_of_mem_toDigits (by decide) (by decide)
    (show '_' ∈ Nat.toDigits 10 n by rwa [← Nat.toList_repr])
  exact absurd hdigit (by decide)

theorem numbers_underscore_inj {i j i' j' : Nat}
    (h : toString i ++ "_" ++ toString j = toString i' ++ "_" ++ toString j') : i = i' ∧ j = j' := by
  have hsplit : ∀ a b : Nat, (toString a ++ "_" ++ toString b).toList.splitOn '_' =
      [(toString a).toList, (toString b).toList] := by
    intro a b
    have hjoin : (toString a ++ "_" ++ toString b).toList =
        ['_'].intercalate [(toString a).toList, (toString b).toList] := by
      simp [List.intercalate_cons_cons]
    rw [hjoin]
    refine List.splitOn_intercalate '_' (fun part hpart => ?_) (by simp)
    simp only [List.mem_cons, List.not_mem_nil, or_false] at hpart
    rcases hpart with rfl | rfl <;> exact underscore_not_mem_toString _
  have hparts := congrArg (fun t : String => t.toList.splitOn '_') h
  simp only [hsplit, List.cons.injEq, and_true] at hparts
  exact ⟨Nat.repr_inj.mp (String.toList_injective hparts.1),
    Nat.repr_inj.mp (String.toList_injective hparts.2)⟩

theorem keyParam_inj {pre : String} {i j i' j' : Nat} (h : keyParam pre i j = keyParam pre i' j') :
    i = i' ∧ j = j' := by
  simp only [keyParam, String.append_assoc, String.append_right_inj] at h
  exact numbers_underscore_inj (by simpa only [String.append_assoc] using h)

/-! ## Key-match conditions -/

/-- The reference to a key column: its name, after an alias when one is given. -/
def keyColumnRef (d : Dialect) (aliasName : Option String) (c : String) : String :=
  match aliasName with
  | some a => d.escape a ++ "." ++ d.escape c
  | none => d.escape c

/-- The alternatives of a key-match condition: one per key tuple, each column with the
parameter of its place. -/
def keyAlternatives (ref : String → String) (columns : List String) (rows : List (List Value))
    (pre : String) : EqAlternatives :=
  rows.zipIdx.map fun p => (columns.zip p.1).zipIdx.map fun q => (ref q.1.1, keyParam pre p.2 q.2)

/-- The parameters of a key-match condition: each value of each key tuple under the name of its
place. -/
def keyBindings (columns : List String) (rows : List (List Value)) (pre : String) :
    List (String × Value) :=
  rows.zipIdx.flatMap fun p => (columns.zip p.1).zipIdx.map fun q => (keyParam pre p.2 q.2, q.1.2)

theorem keyMatchCondition_eq (d : Dialect) (aliasName : Option String) (columns : List String)
    (rows : List (List Value)) (pre : String) :
    keyMatchCondition d aliasName columns rows pre =
      { sql := (keyAlternatives (keyColumnRef d aliasName) columns rows pre).render,
        params := keyBindings columns rows pre, verbatim := true } := by
  unfold keyMatchCondition
  split
  · rename_i hnil
    rw [List.isEmpty_iff] at hnil
    subst hnil
    rfl
  · rename_i hne
    obtain ⟨r, rs, rfl⟩ := List.exists_cons_of_ne_nil (by simpa using hne)
    cases aliasName <;> cases rs with
    | nil =>
      simp only [keyAlternatives, keyBindings, List.zipIdx_cons, List.zipIdx_nil, List.map_cons,
        List.map_nil, List.map_map, Function.comp_def, EqAlternatives.render, EqAlternatives.conj,
        keyColumnRef, keyParam, List.flatMap_cons, List.flatMap_nil, List.append_nil]
    | cons r' rs =>
      simp only [keyAlternatives, keyBindings, List.zipIdx_cons, List.map_cons, List.map_map,
        Function.comp_def, EqAlternatives.render, EqAlternatives.conj, keyColumnRef, keyParam,
        List.flatMap_cons, List.flatMap_map]

/-! ## What a key-match condition matches -/

section Matching

variable {columns : List String} {rows : List (List Value)} {pre : String}

theorem lookup_of_mem_of_unique {α β : Type} [BEq α] [LawfulBEq α] {l : List (α × β)} {k : α}
    {v : β} (hmem : (k, v) ∈ l) (huniq : ∀ w, (k, w) ∈ l → w = v) : l.lookup k = some v := by
  induction l with
  | nil => simp at hmem
  | cons kv l ih =>
    obtain ⟨k', w⟩ := kv
    by_cases hk : k = k'
    · subst hk
      simp [huniq w List.mem_cons_self]
    · have hmem' : (k, v) ∈ l := by
        rcases List.mem_cons.mp hmem with h | h
        · exact absurd (Prod.mk.inj h).1 hk
        · exact h
      have hbeq : (k == k') = false := by simpa using hk
      simp only [List.lookup_cons, hbeq]
      exact ih hmem' fun w hw => huniq w (List.mem_cons_of_mem _ hw)

theorem mem_keyBindings {k : String} {w : Value} :
    (k, w) ∈ keyBindings columns rows pre ↔ ∃ i row j c, rows[i]? = some row ∧
      (columns.zip row)[j]? = some (c, w) ∧ k = keyParam pre i j := by
  simp only [keyBindings, List.mem_flatMap, List.mem_map, Prod.mk.injEq]
  constructor
  · rintro ⟨⟨row, i⟩, hi, ⟨⟨c, v⟩, j⟩, hj, rfl, rfl⟩
    exact ⟨i, row, j, c, List.mk_mem_zipIdx_iff_getElem?.mp hi,
      List.mk_mem_zipIdx_iff_getElem?.mp hj, rfl⟩
  · rintro ⟨i, row, j, c, hi, hj, rfl⟩
    exact ⟨(row, i), List.mk_mem_zipIdx_iff_getElem?.mpr hi, ((c, w), j),
      List.mk_mem_zipIdx_iff_getElem?.mpr hj, rfl, rfl⟩

theorem mem_keyBindings_param {i j : Nat} {row : List Value} {c : String} {v : Value}
    (hi : rows[i]? = some row) (hj : (columns.zip row)[j]? = some (c, v)) (w : Value) :
    (keyParam pre i j, w) ∈ keyBindings columns rows pre ↔ w = v := by
  constructor
  · -- a parameter of the same name is of the same place, so of the same value
    intro hw
    obtain ⟨i', row', j', c', hi', hj', hname⟩ := mem_keyBindings.mp hw
    obtain ⟨rfl, rfl⟩ := keyParam_inj hname
    rw [hi] at hi'
    cases hi'
    rw [hj] at hj'
    cases hj'
    rfl
  · rintro rfl
    exact mem_keyBindings.mpr ⟨i, row, j, c, hi, hj, rfl⟩

theorem lookup_keyBindings {i j : Nat} {row : List Value} {c : String} {v : Value}
    (hi : rows[i]? = some row) (hj : (columns.zip row)[j]? = some (c, v)) :
    (keyBindings columns rows pre).lookup (keyParam pre i j) = some v :=
  lookup_of_mem_of_unique ((mem_keyBindings_param hi hj v).mpr rfl)
    fun w hw => (mem_keyBindings_param hi hj w).mp hw

theorem param_of_mem_keyAlternatives {ref : String → String} {alt : List (String × String)}
    {cp : String × String} (halt : alt ∈ keyAlternatives ref columns rows pre) (hcp : cp ∈ alt) :
    ∃ i row j c v, rows[i]? = some row ∧ (columns.zip row)[j]? = some (c, v) ∧
      cp.2 = keyParam pre i j := by
  obtain ⟨⟨row, i⟩, hi, rfl⟩ := List.mem_map.mp halt
  obtain ⟨⟨⟨c, v⟩, j⟩, hj, rfl⟩ := List.mem_map.mp hcp
  exact ⟨i, row, j, c, v, List.mk_mem_zipIdx_iff_getElem?.mp hi,
    List.mk_mem_zipIdx_iff_getElem?.mp hj, rfl⟩

/-- A key-match condition holds for a row exactly when the row's key columns hold one of the key
tuples. -/
theorem holds_keyAlternatives_iff (ref : String → String) (cell : String → Option Value) :
    (keyAlternatives ref columns rows pre).Holds cell (keyBindings columns rows pre) ↔
      ∃ row ∈ rows, ∀ cv ∈ columns.zip row, cell (ref cv.1) = some cv.2 := by
  simp only [EqAlternatives.Holds, keyAlternatives, List.mem_map]
  constructor
  · rintro ⟨_, ⟨⟨row, i⟩, hi, rfl⟩, hall⟩
    have hrow := List.mk_mem_zipIdx_iff_getElem?.mp hi
    refine ⟨row, List.mem_of_getElem? hrow, fun cv hcv => ?_⟩
    obtain ⟨j, hj⟩ := List.mem_iff_getElem?.mp hcv
    obtain ⟨v, hlookup, hcell⟩ :=
      hall _ (List.mem_map.mpr ⟨(cv, j), List.mk_mem_zipIdx_iff_getElem?.mpr hj, rfl⟩)
    rw [lookup_keyBindings hrow (show (columns.zip row)[j]? = some (cv.1, cv.2) from hj)] at hlookup
    cases hlookup
    exact hcell
  · rintro ⟨row, hrow, hmatch⟩
    obtain ⟨i, hi⟩ := List.mem_iff_getElem?.mp hrow
    refine ⟨_, ⟨(row, i), List.mk_mem_zipIdx_iff_getElem?.mpr hi, rfl⟩, fun cp hcp => ?_⟩
    obtain ⟨⟨⟨c, v⟩, j⟩, hj, rfl⟩ := List.mem_map.mp hcp
    have hj' := List.mk_mem_zipIdx_iff_getElem?.mp hj
    exact ⟨v, lookup_keyBindings hi hj', hmatch (c, v) (List.mem_of_getElem? hj')⟩

end Matching

end EntitySql
