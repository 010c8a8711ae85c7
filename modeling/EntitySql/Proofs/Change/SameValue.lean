import Mathlib
import EntitySql.Change.Diff
import EntitySql.Schema.Builder

/-!
# Change tracking's equality

Change tracking compares a property's value with the value last loaded by `ColumnType.sameValue`.
This module shows that the comparison is symmetric and transitive for every column type and all
values, and reflexive on every value from which it reads no NaN. So an entity compared with
itself has no change as long as none of its values reads as NaN.

Floats are compared as IEEE numbers: zeros of either sign are equal and NaN equals nothing, not
even itself. The float facts are read off the logical model of `Float`, where `x == y` holds
exactly when the unpacked floats compare equal; the float of an integer and a float with a finite
exponent are not NaN (`float_isNaN_ofInt`, `float_isNaN_of_isFinite`).

NaN is where reflexivity ends: a numeric property holding the text `NaN` reads it as a NaN
number, so the value is not the same as itself, and an entity holding it is changed against
itself (`nan_text_differs_from_itself`).
-/

namespace EntitySql

open Float.Model (UnpackedFloat)
open Float.Model.UnpackedFloat (Sign)

section FloatEquality

theorem sign_compare_self (s : Sign) : compare s s = .eq := by
  cases s <;> rfl

theorem unpacked_compare_eq_eq_iff {u v : UnpackedFloat} :
    u.compare v = some .eq ↔
      (∃ s s', u = .zero s ∧ v = .zero s') ∨ (u = v ∧ u.isNaN = false) := by
  rcases u with s | _ | s | ⟨s, m, e, hm⟩ <;> rcases v with t | _ | t | ⟨t, n, f, hn⟩ <;>
    (try cases s) <;> (try cases t) <;>
    simp [UnpackedFloat.compare, UnpackedFloat.isNaN, sign_compare_self, and_comm,
      Ordering.then_eq_eq]

theorem unpacked_compare_eq_eq_symm {u v : UnpackedFloat} (h : u.compare v = some .eq) :
    v.compare u = some .eq := by
  rw [unpacked_compare_eq_eq_iff] at h ⊢
  rcases h with ⟨s, s', hu, hv⟩ | ⟨huv, hn⟩
  · exact .inl ⟨s', s, hv, hu⟩
  · exact .inr ⟨huv.symm, huv ▸ hn⟩

theorem float_beq_iff_compare {x y : Float} :
    (x == y) = true ↔ x.toModel.unpack.compare y.toModel.unpack = some .eq := by
  show Float.Model.beq x.toModel y.toModel = true ↔ _
  simp [Float.Model.beq, UnpackedFloat.beq]

theorem float_beq_self {x : Float} (h : x.isNaN = false) : (x == x) = true :=
  float_beq_iff_compare.mpr (unpacked_compare_eq_eq_iff.mpr (.inr ⟨rfl, h⟩))

theorem float_beq_comm (x y : Float) : (x == y) = (y == x) :=
  Bool.eq_iff_iff.mpr
    ⟨fun h => float_beq_iff_compare.mpr (unpacked_compare_eq_eq_symm (float_beq_iff_compare.mp h)),
      fun h => float_beq_iff_compare.mpr (unpacked_compare_eq_eq_symm (float_beq_iff_compare.mp h))⟩

theorem float_beq_trans {x y z : Float} (hxy : (x == y) = true) (hyz : (y == z) = true) :
    (x == z) = true := by
  rw [float_beq_iff_compare, unpacked_compare_eq_eq_iff] at *
  rcases hxy with ⟨s, s', hx, hy⟩ | ⟨hxy, hn⟩
  · rcases hyz with ⟨t, t', hy', hz⟩ | ⟨hyz, -⟩
    · exact .inl ⟨s, t', hx, hz⟩
    · exact .inl ⟨s, s', hx, hyz ▸ hy⟩
  · exact hxy ▸ hyz

instance floatPartialEquivBEq : PartialEquivBEq Float where
  symm h := (float_beq_comm _ _).trans h
  trans h₁ h₂ := float_beq_trans h₁ h₂

/-! ### Floats that are not NaN

Rounding never gives NaN, and neither does packing an unpacked float that is not NaN; so the float
of an integer is not NaN, and neither is a float whose exponent field is not all ones. -/

theorem unpacked_isNaN_packComponents (s : Sign) (e : BitVec 11) (m : BitVec 52) :
    (UnpackedFloat.unpack Float.Model.Format.binary64
      (UnpackedFloat.packComponents Float.Model.Format.binary64 s e m)).isNaN =
      decide (e = -1#11 ∧ m ≠ 0#52) := by
  simp only [UnpackedFloat.unpack, UnpackedFloat.unpackExponent_packComponents,
    UnpackedFloat.unpackMantissa_packComponents]
  split_ifs <;> simp_all [UnpackedFloat.isNaN]

theorem model_isNaN_pack {u : UnpackedFloat} (h : u.isNaN = false) :
    (Float.Model.pack u).isNaN = false := by
  simp only [Float.Model.isNaN, Float.Model.unpack, Float.Model.pack, UInt64.toBitVec_ofBitVec]
  fun_cases UnpackedFloat.pack with
  | case1 => cases h
  | case2 s => simp [UnpackedFloat.packedInfinity, unpacked_isNaN_packComponents]
  | case3 s => simp [UnpackedFloat.packedZero, unpacked_isNaN_packComponents]
  | case4 s m e hm biasedExponent hover =>
    simp [UnpackedFloat.packedInfinity, unpacked_isNaN_packComponents]
  | case5 s m e hm actualMantissaBits biasedExponent h₁ h₂ =>
    rw [unpacked_isNaN_packComponents]
    simp only [decide_eq_false_iff_not, not_and, not_not]
    intro he
    have := congrArg BitVec.toNat he
    simp at this h₁
    omega
  | case6 s m e hm actualMantissaBits biasedExponent h₁ h₂ =>
    simp [unpacked_isNaN_packComponents]

theorem unpacked_isNaN_roundWithAccuracy (spec : Float.Model.Format) (s : Sign) (m : Nat) (e : Int)
    (a) : (UnpackedFloat.roundWithAccuracy spec s m e a).isNaN = false := by
  simp only [UnpackedFloat.roundWithAccuracy]
  split <;> rfl

theorem unpacked_isNaN_normalize (spec : Float.Model.Format) (m e : Int) (z : Sign) :
    (UnpackedFloat.normalize spec m e z).isNaN = false := by
  unfold UnpackedFloat.normalize UnpackedFloat.round
  split <;> first | rfl | exact unpacked_isNaN_roundWithAccuracy _ _ _ _ _

theorem unpacked_isNaN_mul_finite {spec : Float.Model.Format} {a : UnpackedFloat}
    (ha : a.isNaN = false) (s : Sign) (m : Nat) (e : Int) (hm : 0 < m) :
    (UnpackedFloat.mul spec a (.finite s m e hm)).isNaN = false := by
  cases a <;> simp only [UnpackedFloat.mul, unpacked_isNaN_roundWithAccuracy] <;>
    first | rfl | cases ha

theorem unpacked_isNaN_ofScientific_zero (spec : Float.Model.Format) (m : Nat) :
    (UnpackedFloat.ofScientific spec m 0).isNaN = false := by
  unfold UnpackedFloat.ofScientific
  split
  · rfl
  · have hpow : (0 : Int) < 2 ^ spec.exponentBits := by positivity
    rw [if_neg (by omega), if_neg (by omega), if_pos le_rfl]
    exact unpacked_isNaN_mul_finite rfl _ _ _ _

theorem float_isNaN_ofNat (n : Nat) : (Float.ofNat n).isNaN = false := by
  show (Float.ofScientific n false 0).isNaN = false
  unfold Float.ofScientific
  split
  · obtain ⟨s, m, e, hm, hten⟩ : ∃ s m e hm,
        (Float.exactlyRepresentablePowersOfTen[0]).toModel.unpack = .finite s m e hm :=
      ⟨_, _, _, _, rfl⟩
    show (Float.Model.pack (UnpackedFloat.mul _ (n.toUInt64.toFloat).toModel.unpack
      (Float.exactlyRepresentablePowersOfTen[0]).toModel.unpack)).isNaN = false
    rw [hten]
    exact model_isNaN_pack
      (unpacked_isNaN_mul_finite (model_isNaN_pack (unpacked_isNaN_normalize _ _ _ _)) _ _ _ _)
  · exact model_isNaN_pack (unpacked_isNaN_ofScientific_zero _ _)

theorem float_isNaN_ofInt (n : Int) : (Float.ofInt n).isNaN = false := by
  cases n with
  | ofNat m => exact float_isNaN_ofNat m
  | negSucc m =>
    show (Float.Model.pack (Float.ofNat (m + 1)).toModel.unpack.neg).isNaN = false
    refine model_isNaN_pack ?_
    have h : (Float.ofNat (m + 1)).toModel.unpack.isNaN = false := float_isNaN_ofNat (m + 1)
    revert h
    cases (Float.ofNat (m + 1)).toModel.unpack <;> simp [UnpackedFloat.neg, UnpackedFloat.isNaN]

theorem float_isNaN_of_isFinite {x : Float} (h : Decimal.isFinite x = true) :
    x.isNaN = false := by
  have hexp : ¬x.toBits.toNat / 2 ^ 52 % 2 ^ 11 = 2047 := of_decide_eq_true h
  simp only [Float.isNaN, Float.Model.isNaN, Float.Model.unpack, UnpackedFloat.unpack]
  split
  · rename_i hnan
    have hbits := congrArg BitVec.toNat hnan
    simp [UnpackedFloat.unpackExponent, BitVec.extractLsb, Nat.shiftRight_eq_div_pow] at hbits
    exact absurd hbits hexp
  · split_ifs <;> rfl

end FloatEquality

namespace Json

mutual

/-- Whether a NaN float stands anywhere in a value. -/
def hasNaN : Json → Bool
  | .float x => x.isNaN
  | .arr items => hasNaNItems items
  | .obj fields => hasNaNFields fields
  | _ => false

def hasNaNItems : List Json → Bool
  | [] => false
  | j :: rest => hasNaN j || hasNaNItems rest

def hasNaNFields : List (String × Json) → Bool
  | [] => false
  | (_, j) :: rest => hasNaN j || hasNaNFields rest

end

/-! The three laws are proved by recursion on the values, following the mutual recursion of
`beq` through items and fields. -/

mutual

theorem beq_swap : (a b : Json) → beq a b = beq b a
  | .null, b | .bool _, b | .int _, b | .str _, b => by
    cases b <;> simp [beq, eq_comm]
  | .float x, b => by
    cases b with
    | float y => simp only [beq]; exact float_beq_comm x y
    | _ => rfl
  | .arr xs, b => by
    cases b with
    | arr ys => simp only [beq]; exact beqItems_swap xs ys
    | _ => rfl
  | .obj xs, b => by
    cases b with
    | obj ys => simp only [beq]; exact beqFields_swap xs ys
    | _ => rfl

theorem beqItems_swap : (xs ys : List Json) → beqItems xs ys = beqItems ys xs
  | [], [] | [], _ :: _ | _ :: _, [] => rfl
  | x :: xs, y :: ys => by
    simp only [beqItems]
    rw [beq_swap x y, beqItems_swap xs ys]

theorem beqFields_swap : (xs ys : List (String × Json)) → beqFields xs ys = beqFields ys xs
  | [], [] | [], _ :: _ | _ :: _, [] => rfl
  | (k, x) :: xs, (k', y) :: ys => by
    simp only [beqFields]
    rw [beq_swap x y, beqFields_swap xs ys, show (k == k') = (k' == k) from BEq.comm]

end

theorem beq_float_eq_true {x : Float} {b : Json} :
    beq (.float x) b = true ↔ ∃ y, b = .float y ∧ (x == y) = true := by
  cases b <;> simp [beq]

theorem beq_arr_eq_true {xs : List Json} {b : Json} :
    beq (.arr xs) b = true ↔ ∃ ys, b = .arr ys ∧ beqItems xs ys = true := by
  cases b <;> simp [beq]

theorem beq_obj_eq_true {xs : List (String × Json)} {b : Json} :
    beq (.obj xs) b = true ↔ ∃ ys, b = .obj ys ∧ beqFields xs ys = true := by
  cases b <;> simp [beq]

mutual

theorem beq_trans : (a b c : Json) → beq a b = true → beq b c = true → beq a c = true
  | .null, b, c | .bool _, b, c | .int _, b, c | .str _, b, c => by
    cases b <;> cases c <;> simp_all [beq]
  | .float x, b, c => by
    intro h₁ h₂
    obtain ⟨y, rfl, hxy⟩ := beq_float_eq_true.mp h₁
    obtain ⟨z, rfl, hyz⟩ := beq_float_eq_true.mp h₂
    exact beq_float_eq_true.mpr ⟨z, rfl, float_beq_trans hxy hyz⟩
  | .arr xs, b, c => by
    intro h₁ h₂
    obtain ⟨ys, rfl, hxy⟩ := beq_arr_eq_true.mp h₁
    obtain ⟨zs, rfl, hyz⟩ := beq_arr_eq_true.mp h₂
    exact beq_arr_eq_true.mpr ⟨zs, rfl, beqItems_trans xs ys zs hxy hyz⟩
  | .obj xs, b, c => by
    intro h₁ h₂
    obtain ⟨ys, rfl, hxy⟩ := beq_obj_eq_true.mp h₁
    obtain ⟨zs, rfl, hyz⟩ := beq_obj_eq_true.mp h₂
    exact beq_obj_eq_true.mpr ⟨zs, rfl, beqFields_trans xs ys zs hxy hyz⟩

theorem beqItems_trans : (xs ys zs : List Json) → beqItems xs ys = true →
    beqItems ys zs = true → beqItems xs zs = true
  | [], [], [] => fun _ _ => rfl
  | x :: xs, y :: ys, z :: zs => by
    simp only [beqItems, Bool.and_eq_true]
    exact fun h₁ h₂ => ⟨beq_trans x y z h₁.1 h₂.1, beqItems_trans xs ys zs h₁.2 h₂.2⟩
  | [], _ :: _, _ | _ :: _, [], _ | [], [], _ :: _ | _ :: _, _ :: _, [] => by simp [beqItems]

theorem beqFields_trans : (xs ys zs : List (String × Json)) → beqFields xs ys = true →
    beqFields ys zs = true → beqFields xs zs = true
  | [], [], [] => fun _ _ => rfl
  | (k, x) :: xs, (k', y) :: ys, (k'', z) :: zs => by
    simp only [beqFields, Bool.and_eq_true, beq_iff_eq]
    exact fun h₁ h₂ => ⟨⟨h₁.1.1.trans h₂.1.1, beq_trans x y z h₁.1.2 h₂.1.2⟩,
      beqFields_trans xs ys zs h₁.2 h₂.2⟩
  | [], _ :: _, _ | _ :: _, [], _ | [], [], _ :: _ | _ :: _, _ :: _, [] => by simp [beqFields]

end

mutual

theorem beq_self_of_hasNaN_eq_false : (a : Json) → a.hasNaN = false → beq a a = true
  | .null, _ | .bool _, _ | .int _, _ | .str _, _ => by simp [beq]
  | .float x, h => float_beq_self h
  | .arr xs, h => beqItems_self_of_hasNaN_eq_false xs h
  | .obj xs, h => beqFields_self_of_hasNaN_eq_false xs h

theorem beqItems_self_of_hasNaN_eq_false : (xs : List Json) → hasNaNItems xs = false →
    beqItems xs xs = true
  | [], _ => rfl
  | x :: xs, h => by
    simp only [hasNaNItems, Bool.or_eq_false_iff] at h
    simp only [beqItems, Bool.and_eq_true]
    exact ⟨beq_self_of_hasNaN_eq_false x h.1, beqItems_self_of_hasNaN_eq_false xs h.2⟩

theorem beqFields_self_of_hasNaN_eq_false : (xs : List (String × Json)) →
    hasNaNFields xs = false → beqFields xs xs = true
  | [], _ => rfl
  | (k, x) :: xs, h => by
    simp only [hasNaNFields, Bool.or_eq_false_iff] at h
    simp only [beqFields, Bool.and_eq_true, beq_self_eq_true, true_and]
    exact ⟨beq_self_of_hasNaN_eq_false x h.1, beqFields_self_of_hasNaN_eq_false xs h.2⟩

end

instance partialEquivBEq : PartialEquivBEq Json where
  symm h := (beq_swap _ _).trans h
  trans h₁ h₂ := beq_trans _ _ _ h₁ h₂

end Json

namespace Equal

theorem instant?_eq_of_beq {a b : Json} (h : (a == b) = true) : instant? a = instant? b := by
  cases a <;> cases b <;> simp_all [BEq.beq, Json.beq, instant?, Json.asI64?]

theorem number?_isSome_eq_of_beq {a b : Json} (h : (a == b) = true) :
    (number? a).isSome = (number? b).isSome := by
  cases a <;> cases b <;> simp_all [BEq.beq, Json.beq, number?, Json.asF64?]

/-- Whether change tracking reads a NaN from a value: one in the value itself, the number its
text reads as, or one in the document its text reads as. -/
def readsNaN (a : Json) : Bool :=
  a.hasNaN || (number? a).any Float.isNaN || (document a).hasNaN

end Equal

namespace ColumnType

theorem sameValue_comm (t : ColumnType) (a b : Json) : t.sameValue a b = t.sameValue b a := by
  unfold sameValue
  by_cases hnull : a.isNull ∨ b.isNull
  · rw [if_pos hnull, if_pos (Or.comm.mp hnull)]
    simp [and_comm]
  · rw [if_neg hnull, if_neg (mt Or.comm.mp hnull)]
    cases t <;> dsimp only
    case timestamp =>
      cases Equal.instant? a <;> cases Equal.instant? b <;> simp [BEq.comm]
    case integer | bigInt | float | decimal =>
      cases Equal.number? a <;> cases Equal.number? b <;> simp [BEq.comm]
    all_goals simp [BEq.comm]

theorem sameValue_trans {t : ColumnType} {a b c : Json} (hab : t.sameValue a b = true)
    (hbc : t.sameValue b c = true) : t.sameValue a c = true := by
  unfold sameValue at *
  by_cases hnull : a.isNull ∨ b.isNull ∨ c.isNull
  · -- null is the same only as null, so all three are null
    by_cases ha : a.isNull <;> by_cases hb : b.isNull <;> by_cases hc : c.isNull <;> simp_all
  · simp only [not_or, Bool.not_eq_true] at hnull
    obtain ⟨ha, hb, hc⟩ := hnull
    simp only [ha, hb, hc, Bool.false_eq_true, or_self, if_false] at hab hbc ⊢
    cases t <;> dsimp only at hab hbc ⊢
    case timestamp =>
      cases hxa : Equal.instant? a <;> cases hxb : Equal.instant? b <;>
        cases hxc : Equal.instant? c <;> simp only [hxa, hxb, hxc] at hab hbc ⊢ <;>
        first
        | exact BEq.trans hab hbc
        | (have hread := Equal.instant?_eq_of_beq hab; simp_all)
        | (have hread := Equal.instant?_eq_of_beq hbc; simp_all)
    case integer | bigInt | float | decimal =>
      cases hxa : Equal.number? a <;> cases hxb : Equal.number? b <;>
        cases hxc : Equal.number? c <;> simp only [hxa, hxb, hxc] at hab hbc ⊢ <;>
        first
        | exact BEq.trans hab hbc
        | (have hread := Equal.number?_isSome_eq_of_beq hab; simp_all)
        | (have hread := Equal.number?_isSome_eq_of_beq hbc; simp_all)
    all_goals exact BEq.trans hab hbc

theorem sameValue_self {t : ColumnType} {a : Json} (h : Equal.readsNaN a = false) :
    t.sameValue a a = true := by
  simp only [Equal.readsNaN, Bool.or_eq_false_iff, Option.any_eq_false] at h
  obtain ⟨⟨hjson, hnum⟩, hdoc⟩ := h
  unfold sameValue
  by_cases ha : a.isNull
  · simp [ha]
  · simp only [ha, Bool.false_eq_true, or_self, if_false]
    cases t <;> dsimp only
    case timestamp =>
      cases Equal.instant? a
      · exact Json.beq_self_of_hasNaN_eq_false a hjson
      · exact beq_self_eq_true _
    case integer | bigInt | float | decimal =>
      cases hx : Equal.number? a
      · exact Json.beq_self_of_hasNaN_eq_false a hjson
      · simpa using float_beq_self (hnum _ hx)
    case json => exact Json.beq_self_of_hasNaN_eq_false _ hdoc
    all_goals first | exact beq_self_eq_true _ | exact Json.beq_self_of_hasNaN_eq_false a hjson

theorem sameValue_self_eq_false_of_isNaN {t : ColumnType} (ht : t.isNumeric = true) {a : Json}
    (ha : a.isNull = false) {x : Float} (hx : Equal.number? a = some x) (hnan : x.isNaN = true) :
    t.sameValue a a = false := by
  have hself : (x == x) = false := by
    rw [Bool.eq_false_iff, ne_eq, float_beq_iff_compare, unpacked_compare_eq_eq_iff]
    rintro (⟨s, s', hs, -⟩ | ⟨-, hn⟩)
    · simp [Float.isNaN, Float.Model.isNaN, hs, UnpackedFloat.isNaN] at hnan
    · simp [Float.isNaN, Float.Model.isNaN, hn] at hnan
  unfold sameValue
  cases t <;> simp_all [isNumeric]

end ColumnType

namespace Entity

variable {e : Entity} {o : Fields}

/-- Every value the object holds at a column of the entity reads no NaN. -/
abbrev ReadsNoNaN (e : Entity) (o : Fields) : Prop :=
  ∀ c ∈ e.columns, (c.getValue? o).all (fun v => !Equal.readsNaN v) = true

theorem columnChanges_self (h : e.ReadsNoNaN o) : e.columnChanges o (some o) = [] := by
  unfold columnChanges
  rw [List.filterMap_eq_nil_iff]
  intro c hc
  split
  · rfl
  · cases hv : c.getValue? o with
    | none => rfl
    | some v =>
      have hv' : Equal.readsNaN v = false := by simpa [hv] using h c hc
      simp [hv, ColumnType.sameValue_self hv']

theorem sameKey_self (h : e.ReadsNoNaN o) (rel : Relation) : e.sameKey rel o o = true := by
  unfold sameKey
  rw [List.all_eq_true]
  intro c hc
  have hc' : c ∈ e.columns := (List.mem_filter.mp hc).1
  cases hv : c.getValue? o with
  | none => rfl
  | some v =>
    have hv' : Equal.readsNaN v = false := by simpa [hv] using h c hc'
    exact ColumnType.sameValue_self hv'

theorem relationChanges_self (h : e.ReadsNoNaN o) : e.relationChanges o (some o) = [] := by
  unfold relationChanges
  rw [List.filterMap_eq_nil_iff]
  intro rel _
  split
  · rfl
  · simp [sameKey_self h rel]

theorem diff_self (h : e.ReadsNoNaN o) : e.diff o (some o) = [] := by
  simp [diff, columnChanges_self h, relationChanges_self h]

end Entity

/-- Change tracking's equality is an equivalence on the values from which it reads no NaN: for
every column type it is symmetric and transitive on all values, and reflexive on each value that
reads no NaN. So an object that holds no such value has no change against itself. -/
theorem sameValue_equivalence_without_nan (t : ColumnType) (e : Entity) (o : Fields) :
    (∀ a b : Json, t.sameValue a b = t.sameValue b a) ∧
      (∀ a b c : Json, t.sameValue a b = true → t.sameValue b c = true →
        t.sameValue a c = true) ∧
      (∀ a : Json, Equal.readsNaN a = false → t.sameValue a a = true) ∧
      (e.ReadsNoNaN o → e.diff o (some o) = []) :=
  ⟨t.sameValue_comm, fun _ _ _ => ColumnType.sameValue_trans, fun _ => ColumnType.sameValue_self,
    Entity.diff_self⟩

/-- A photo whose user is held by its key 3 has no change against itself. -/
theorem sameValue_equivalence_without_nan_photo :
    ((Entity.declare "Photo" "photos").manyToOneWith "user" "User" [("userId", "id")]
        (some "photos")).ReadsNoNaN [("user", .int 3)] ∧
      ((Entity.declare "Photo" "photos").manyToOneWith "user" "User" [("userId", "id")]
        (some "photos")).diff [("user", .int 3)] (some [("user", .int 3)]) = [] := by
  have h : ((Entity.declare "Photo" "photos").manyToOneWith "user" "User" [("userId", "id")]
      (some "photos")).ReadsNoNaN [("user", .int 3)] := by decide +kernel
  exact ⟨h, (sameValue_equivalence_without_nan .integer _ _).2.2.2 h⟩

/-- The text `NaN` reads as a NaN number, so for a numeric type it is not the same as itself,
and a photo whose user is held by the key text `NaN` is changed against itself. -/
theorem nan_text_differs_from_itself :
    ColumnType.integer.sameValue (.str "NaN") (.str "NaN") = false ∧
      (((Entity.declare "Photo" "photos").manyToOneWith "user" "User" [("userId", "id")]
        (some "photos")).diff [("user", .str "NaN")] (some [("user", .str "NaN")])).length = 1 := by
  decide +kernel

end EntitySql
