import Mathlib
import EntitySql.Change.Equal
import EntitySql.Proofs.Time.Written
import EntitySql.Proofs.Time.Instant
import EntitySql.Proofs.Change.SameValue

/-!
# Values stored and read back

A property value goes to the database through `Dialect.toStored` and comes back through
`Dialect.ofStored`; change tracking then compares it with the value it had by
`ColumnType.sameValue`. `Canonical d t v` says that `v` is in the form the library writes values
of type `t` back: a UUID hyphenated in lower case, a date and a time as `CivilDate.render` and
`ClockTime.render` write them, an instant as `Timestamp.rfc3339` writes it, an enum's integer
within 64 signed bits, a finite float, and so on.

`stored_values_read_back_same`: for every dialect, a canonical value comes back as itself (a
SimpleArray as the same comma-joined text), and is the same value as change tracking sees it.
The readers behind it are shown to invert the writers: `Uuid.parse_hyphenated`,
`CivilDate.parse?_render`, `ClockTime.parse?_render`, and for instants
`Timestamp.parseLenient?_rfc3339` and, through SQLite's text, `Timestamp.parseLenient?_sqliteText`;
numbers compare equal to themselves as no canonical number is NaN (`float_isNaN_ofInt`).
Values in another form can come back changed (`stored_values_read_back_changed`).
-/

namespace EntitySql

/-! ## Texts as bytes -/

theorem String.utf8ByteSize_ofList (l : List Char) :
    (String.ofList l).utf8ByteSize = (l.map Char.utf8Size).sum := by
  induction l with
  | nil => rfl
  | cons c l ih =>
    rw [String.ofList_cons, String.utf8ByteSize_append, String.utf8ByteSize_singleton, ih,
      List.map_cons, List.sum_cons]

theorem String.utf8ByteSize_eq_sum (s : String) :
    s.utf8ByteSize = (s.toList.map Char.utf8Size).sum := by
  simpa using String.utf8ByteSize_ofList s.toList

/-! ## UUIDs read back from their hyphenated form -/

namespace Uuid

def hexDigit (n : Nat) : Char := if n < 10 then Char.ofNat (48 + n) else Char.ofNat (87 + n)

def hexPair (b : UInt8) : List Char := [hexDigit (b.toNat / 16), hexDigit (b.toNat % 16)]

theorem toList_byteHex (b : UInt8) : (byteHex b).toList = hexPair b := by
  simp [byteHex, hexPair, hexDigit]

theorem hexValue?_hexDigit : ∀ n, n < 16 → hexValue? (hexDigit n) = some n
  | 0, _ | 1, _ | 2, _ | 3, _ | 4, _ | 5, _ | 6, _ | 7, _ | 8, _ | 9, _ | 10, _ | 11, _ | 12, _
  | 13, _ | 14, _ | 15, _ => by decide
  | _ + 16, h => absurd h (by omega)

theorem hexDigit_ne_dash : ∀ n, n < 16 → hexDigit n ≠ '-'
  | 0, _ | 1, _ | 2, _ | 3, _ | 4, _ | 5, _ | 6, _ | 7, _ | 8, _ | 9, _ | 10, _ | 11, _ | 12, _
  | 13, _ | 14, _ | 15, _ => by decide
  | _ + 16, h => absurd h (by omega)

theorem utf8Size_hexDigit : ∀ n, n < 16 → (hexDigit n).utf8Size = 1
  | 0, _ | 1, _ | 2, _ | 3, _ | 4, _ | 5, _ | 6, _ | 7, _ | 8, _ | 9, _ | 10, _ | 11, _ | 12, _
  | 13, _ | 14, _ | 15, _ => by decide
  | _ + 16, h => absurd h (by omega)

theorem mem_hexPair {b : UInt8} {c : Char} (h : c ∈ hexPair b) :
    c ≠ '-' ∧ c.utf8Size = 1 := by
  have hb := b.toNat_lt
  simp only [hexPair, List.mem_cons, List.not_mem_nil, or_false] at h
  rcases h with rfl | rfl
  · exact ⟨hexDigit_ne_dash _ (by omega), utf8Size_hexDigit _ (by omega)⟩
  · exact ⟨hexDigit_ne_dash _ (by omega), utf8Size_hexDigit _ (by omega)⟩

theorem hexBytes?_flatMap_hexPair (bs : List UInt8) : hexBytes? (bs.flatMap hexPair) = some bs := by
  induction bs with
  | nil => rfl
  | cons b bs ih =>
    have hb := b.toNat_lt
    rw [List.flatMap_cons, hexPair, List.cons_append, List.cons_append, List.nil_append, hexBytes?,
      hexValue?_hexDigit _ (by omega), hexValue?_hexDigit _ (by omega), ih]
    simp only [Option.map_some, Option.some.injEq, List.cons.injEq, and_true]
    rw [show b.toNat / 16 * 16 + b.toNat % 16 = b.toNat by omega]
    exact UInt8.ofNat_toNat

theorem length_flatMap_hexPair (bs : List UInt8) : (bs.flatMap hexPair).length = 2 * bs.length := by
  induction bs with
  | nil => rfl
  | cons b bs ih => simp [List.flatMap_cons, hexPair, ih]; omega

theorem toList_join_byteHex (bs : List UInt8) :
    (String.join (bs.map byteHex)).toList = bs.flatMap hexPair := by
  rw [String.toList_join, List.flatMap_map]
  exact List.flatMap_congr fun b _ => toList_byteHex b

theorem toList_hyphenated (u : Uuid) :
    u.hyphenated.toList =
      (u.bytes.take 4).flatMap hexPair ++ '-' :: (((u.bytes.drop 4).take 2).flatMap hexPair ++
        '-' :: (((u.bytes.drop 6).take 2).flatMap hexPair ++ '-' :: (((u.bytes.drop 8).take 2).flatMap
          hexPair ++ '-' :: ((u.bytes.drop 10).take 6).flatMap hexPair))) := by
  simp only [hyphenated, String.toList_append, toList_join_byteHex, List.drop_zero,
    show "-".toList = ['-'] from rfl, List.append_assoc, List.cons_append, List.nil_append]

theorem flatMap_groups {bs : List UInt8} (h : bs.length = 16) :
    (bs.take 4).flatMap hexPair ++ ((bs.drop 4).take 2).flatMap hexPair ++
      ((bs.drop 6).take 2).flatMap hexPair ++ ((bs.drop 8).take 2).flatMap hexPair ++
        ((bs.drop 10).take 6).flatMap hexPair = bs.flatMap hexPair := by
  have hgroups : bs.take 4 ++ (bs.drop 4).take 2 ++ (bs.drop 6).take 2 ++ (bs.drop 8).take 2 ++
      (bs.drop 10).take 6 = bs := by
    match bs, h with
    | [_, _, _, _, _, _, _, _, _, _, _, _, _, _, _, _], _ => rfl
  simp only [← List.flatMap_append, hgroups]

theorem mem_flatMap_hexPair {bs : List UInt8} {c : Char} (h : c ∈ bs.flatMap hexPair) :
    c ≠ '-' ∧ c.utf8Size = 1 := by
  obtain ⟨b, -, hb⟩ := List.mem_flatMap.mp h
  exact mem_hexPair hb

theorem parse_hyphenated {u : Uuid} (hu : u.bytes.length = 16) : parse u.hyphenated = .ok u := by
  have hcs := toList_hyphenated u
  have hA : ((u.bytes.take 4).flatMap hexPair).length = 8 := by
    simp only [length_flatMap_hexPair, List.length_take, hu]; rfl
  have hB : ∀ i, i ≤ 8 → (((u.bytes.drop i).take 2).flatMap hexPair).length = 4 := by
    intro i hi
    simp only [length_flatMap_hexPair, List.length_take, List.length_drop, hu]
    omega
  have hE : (((u.bytes.drop 10).take 6).flatMap hexPair).length = 12 := by
    simp only [length_flatMap_hexPair, List.length_take, List.length_drop, hu]; rfl
  have hlen : u.hyphenated.toList.length = 36 := by
    simp only [hcs, List.length_append, List.length_cons, hA, hB 4 (by omega), hB 6 (by omega),
      hB 8 le_rfl, hE]
  have hchars : ∀ c ∈ u.hyphenated.toList, c = '-' ∨ (c ≠ '-' ∧ c.utf8Size = 1) := by
    intro c hc
    rw [hcs] at hc
    simp only [List.mem_append, List.mem_cons] at hc
    rcases hc with h | h | h | h | h | h | h | h | h <;>
      first | exact .inl h | exact .inr (mem_flatMap_hexPair h)
  have hsize : u.hyphenated.utf8ByteSize = 36 := by
    rw [String.utf8ByteSize_eq_sum, ← hlen, List.map_congr_left (g := fun _ => 1)]
    · simp
    · intro c hc
      rcases hchars c hc with rfl | ⟨-, h⟩
      · rfl
      · exact h
  have hdashes : u.hyphenated.toList[8]? = some '-' ∧ u.hyphenated.toList[13]? = some '-' ∧
      u.hyphenated.toList[18]? = some '-' ∧ u.hyphenated.toList[23]? = some '-' := by
    rw [hcs]
    simp [List.getElem?_append_right, hA, hB 4 (by omega), hB 6 (by omega), hB 8 le_rfl]
  have hkeep : ∀ l : List UInt8, (l.flatMap hexPair).filter (· ≠ '-') = l.flatMap hexPair :=
    fun l => List.filter_eq_self.mpr fun c hc => by simpa using (mem_flatMap_hexPair hc).1
  have hfilter : u.hyphenated.toList.filter (· ≠ '-') = u.bytes.flatMap hexPair := by
    rw [hcs, ← flatMap_groups hu]
    simp only [List.filter_append, List.filter_cons, hkeep, show decide (('-' : Char) ≠ '-') = false
      by decide, Bool.false_eq_true, if_false, List.append_assoc]
  unfold parse
  simp only [hsize, show (36 : Nat) ≠ 32 by decide, if_false, if_true]
  rw [hyphenatedBytes?, if_pos ⟨hlen, hdashes⟩, hfilter, hexBytes?_flatMap_hexPair]
  simp [hu]

end Uuid

/-! ## Plain JSON -/

namespace Json

/-- JSON without floats whose integers all pass `fits`: the values whose equality `==` decides
structurally. -/
inductive Plain (fits : Int → Prop) : Json → Prop
  | null : Plain fits .null
  | bool (b : Bool) : Plain fits (.bool b)
  | int {n : Int} (h : fits n) : Plain fits (.int n)
  | str (s : String) : Plain fits (.str s)
  | arr {items : List Json} (h : ∀ x ∈ items, Plain fits x) : Plain fits (.arr items)
  | obj {fields : List (String × Json)} (h : ∀ p ∈ fields, Plain fits p.2) : Plain fits (.obj fields)

def InI64 (n : Int) : Prop := i64Min ≤ n ∧ n ≤ i64Max

theorem beq_self_of_plain {fits : Int → Prop} {j : Json} (h : Plain fits j) : (j == j) = true := by
  induction h with
  | null => rfl
  | bool b => simp [BEq.beq, beq]
  | int _ => simp [BEq.beq, beq]
  | str s => simp [BEq.beq, beq]
  | @arr items _ ih =>
    show beq (.arr items) (.arr items) = true
    have hitems : ∀ l : List Json, (∀ x ∈ l, (x == x) = true) → beqItems l l = true := by
      intro l hl
      induction l with
      | nil => rfl
      | cons x l ihl =>
        simp only [beqItems, Bool.and_eq_true]
        exact ⟨hl x List.mem_cons_self, ihl fun y hy => hl y (List.mem_cons_of_mem x hy)⟩
    simp only [beq]
    exact hitems items ih
  | @obj fields _ ih =>
    show beq (.obj fields) (.obj fields) = true
    have hfields : ∀ l : List (String × Json), (∀ p ∈ l, (p.2 == p.2) = true) → beqFields l l = true := by
      intro l hl
      induction l with
      | nil => rfl
      | cons p l ihl =>
        obtain ⟨k, v⟩ := p
        simp only [beqFields, Bool.and_eq_true, beq_self_eq_true, true_and]
        exact ⟨hl (k, v) List.mem_cons_self, ihl fun q hq => hl q (List.mem_cons_of_mem _ hq)⟩
    simp only [beq]
    exact hfields fields ih

end Json

theorem Value.toJson_ofJson {j : Json} (h : j.Plain Json.InI64) : (Value.ofJson j).toJson = j := by
  induction h with
  | null => simp [Value.ofJson, Value.toJson]
  | bool b => simp [Value.ofJson, Value.toJson]
  | @int n hn => simp [Value.ofJson, hn.1, hn.2, Value.toJson]
  | str s => simp [Value.ofJson, Value.toJson]
  | @arr items _ ih =>
    simp only [Value.ofJson, Value.toJson, List.map_map, Json.arr.injEq]
    exact List.map_congr_left ih |>.trans (List.map_id _)
  | obj fields _ => simp [Value.ofJson, Value.toJson]

/-! ## Values as the library writes them back -/

open Json in
/-- The property values of a column of a type in the form the library writes them back: an
integer within 64 signed bits for the integer types, a finite float for the float types, a
boolean, any text for a text, a text, such an integer or a finite float for an enum, a hyphenated
UUID, a valid date and a valid time as written, an instant of a four-digit year written in RFC 3339
(to the millisecond where SQLite keeps it as text), byte values, texts or plain JSON for the array
types, and JSON whose document is plain where the dialect has a JSON type. -/
inductive Canonical (d : Dialect) : ColumnType → Json → Prop
  | integer {n : Int} (h : InI64 n) : Canonical d .integer (.int n)
  | bigInt {n : Int} (h : InI64 n) : Canonical d .bigInt (.int n)
  | float {x : Float} (h : Decimal.isFinite x = true) : Canonical d .float (.float x)
  | decimal {x : Float} (h : Decimal.isFinite x = true) : Canonical d .decimal (.float x)
  | boolean (b : Bool) : Canonical d .boolean (.bool b)
  | text (s : String) : Canonical d .text (.str s)
  | enumText (s : String) : Canonical d .enum (.str s)
  | enumInt {n : Int} (h : InI64 n) : Canonical d .enum (.int n)
  | enumFloat {x : Float} (h : Decimal.isFinite x = true) : Canonical d .enum (.float x)
  | uuid {u : Uuid} (h : u.bytes.length = 16) : Canonical d .uuid (.str u.hyphenated)
  | date {x : CivilDate} (h : CivilDate.isValid x.year x.month x.day = true) :
      Canonical d .date (.str x.render)
  | time {t : ClockTime} (h : t.isValid = true) : Canonical d .time (.str t.render)
  | timestamp {t : Timestamp} (hy : 0 ≤ t.date.year ∧ t.date.year ≤ 9999)
      (hn : t.nanos < 1000000000 ∨ (t.seconds % 60 = 59 ∧ t.nanos < 2000000000))
      (hms : d.isSqliteFamily = true → t.nanos % 1000000 = 0) :
      Canonical d .timestamp (.str t.rfc3339)
  | json {j : Json} (hd : d.storesJsonAsText = false) (h : (Equal.document j).Plain fun _ => True) :
      Canonical d .json j
  | bytes (bs : List UInt8) : Canonical d .bytes (.arr (bs.map fun b => .int b.toNat))
  | simpleArray (items : List String) : Canonical d .simpleArray (.arr (items.map .str))
  | array {items : List Json} (h : ∀ x ∈ items, x.Plain InI64) : Canonical d .array (.arr items)

namespace Dialect

variable {d : Dialect}

theorem ofStored_toStored_int {t : ColumnType} (ht : t = .integer ∨ t = .bigInt) {n : Int}
    (hn : Json.InI64 n) : d.ofStored t (d.toStored t (.int n)) = .int n := by
  rcases ht with rfl | rfl <;>
    simp [toStored, ofStored, Json.isNull, Value.ofJson, hn.1, hn.2, Value.toJson]

theorem toStored_bytes (bs : List UInt8) :
    d.toStored .bytes (.arr (bs.map fun b => .int b.toNat)) = .bytes bs := by
  have hbyte : ∀ b : UInt8, ((Json.int b.toNat).asU64?.bind fun n =>
      if n ≤ 255 then some n.toUInt8 else none) = some b := by
    intro b
    have hb := b.toNat_lt
    have hrange : (0 : Int) ≤ (b.toNat : Int) ∧ (b.toNat : Int) ≤ Json.u64Max := by
      simp only [Json.u64Max]
      omega
    simp only [Json.asU64?, if_pos hrange, Option.bind_some, Int.toNat_natCast, if_pos (by omega : b.toNat ≤ 255)]
    exact congrArg some UInt8.ofNat_toNat
  simp only [toStored, Json.isNull, Bool.false_eq_true, if_false, List.filterMap_map,
    Function.comp_def]
  rw [List.filterMap_congr (g := some) fun b _ => hbyte b, List.filterMap_some]

theorem ofStored_toStored {t : ColumnType} {v : Json} (hv : Canonical d t v)
    (ht : t ≠ .simpleArray) : d.ofStored t (d.toStored t v) = v := by
  cases hv with
  | integer hn => exact ofStored_toStored_int (.inl rfl) hn
  | bigInt hn => exact ofStored_toStored_int (.inr rfl) hn
  | float hx | decimal hx => simp [toStored, ofStored, Json.isNull, Value.toJson, Value.floatJson, hx]
  | boolean b =>
    cases hint : d.storesBooleansAsIntegers <;> cases b <;>
      simp [toStored, ofStored, Json.isNull, hint, Value.toJson]
  | text s => simp [toStored, ofStored, Json.isNull, Value.toJson]
  | enumText s => simp [toStored, ofStored, Json.isNull, Value.toJson]
  | enumInt hn => simp [toStored, ofStored, Json.isNull, Value.ofJson, hn.1, hn.2, Value.toJson]
  | enumFloat hx =>
    simp [toStored, ofStored, Json.isNull, Value.ofJson, Value.toJson, Value.floatJson, hx]
  | uuid hu =>
    cases hnative : d.hasNativeUuid <;>
      simp [toStored, ofStored, Json.isNull, hnative, Uuid.parse_hyphenated hu, Value.toJson]
  | date hx =>
    simp [toStored, ofStored, Json.isNull, Json.getStr?, CivilDate.parse?_render hx, Value.toJson]
  | time htime =>
    simp [toStored, ofStored, Json.isNull, Json.getStr?, ClockTime.parse?_render htime, Value.toJson]
  | timestamp hy hn hms =>
    have hread : Timestamp.read? _ = _ := Timestamp.parseLenient?_rfc3339 hy hn
    cases hsq : d.isSqliteFamily
    · simp [toStored, ofStored, Json.isNull, Json.getStr?, hread, hsq, Value.toJson]
    · have hback : Timestamp.read? _ = _ := Timestamp.parseLenient?_sqliteText hy hn (hms hsq)
      simp [toStored, ofStored, Json.isNull, Json.getStr?, hread, hsq, hback]
  | json hd _ =>
    cases v with
    | null => simp [toStored, ofStored, Json.isNull]
    | _ => simp [toStored, ofStored, Json.isNull, hd, Value.toJson]
  | bytes bs => simp [toStored_bytes, ofStored, Value.toJson]
  | simpleArray items => exact absurd rfl ht
  | @array items h =>
    have hback := Value.toJson_ofJson (.arr h)
    have hof : Value.ofJson (.arr items) = .array (items.map Value.ofJson) := by simp [Value.ofJson]
    simp only [toStored, Json.isNull, Bool.false_eq_true, if_false, hof] at hback ⊢
    simpa [ofStored] using hback

theorem sameValue_simpleArray (items : List String) :
    ColumnType.simpleArray.sameValue (d.ofStored .simpleArray (d.toStored .simpleArray
      (.arr (items.map .str)))) (.arr (items.map .str)) = true := by
  have hstored : d.toStored .simpleArray (.arr (items.map .str)) = .text (",".intercalate items) := by
    simp [toStored, Json.isNull, simpleArrayItem, Function.comp_def]
  have horig : Equal.simpleArrayText (.arr (items.map .str)) = ",".intercalate items := by
    simp [Equal.simpleArrayText, Equal.scalarText, Function.comp_def]
  have hback : ∀ s : String, ∃ pieces : List String,
      d.ofStored .simpleArray (.text s) = .arr (pieces.map .str) ∧ ",".intercalate pieces = s := by
    intro s
    by_cases he : s.isEmpty
    · refine ⟨[], by simp [ofStored, he], ?_⟩
      rw [String.isEmpty_iff.mp he]
      rfl
    · refine ⟨(s.toList.splitOn ',').map String.ofList, by simp [ofStored, he, Function.comp_def], ?_⟩
      rw [← String.toList_inj, String.toList_intercalate, List.map_map]
      have hid : String.toList ∘ String.ofList = id := funext fun _ => String.toList_ofList
      rw [hid, List.map_id]
      exact List.intercalate_splitOn ','
  obtain ⟨pieces, hpieces, hjoin⟩ := hback (",".intercalate items)
  have hread : Equal.simpleArrayText (.arr (pieces.map .str)) = ",".intercalate pieces := by
    simp [Equal.simpleArrayText, Equal.scalarText, Function.comp_def]
  simp [ColumnType.sameValue, Json.isNull, hstored, hpieces, hread, hjoin, horig]

end Dialect

namespace ColumnType

theorem sameValue_self_of_canonical {d : Dialect} {t : ColumnType} {v : Json}
    (hv : Canonical d t v) : t.sameValue v v = true := by
  cases hv with
  | @integer n _ | @bigInt n _ =>
    simpa [sameValue, Json.isNull, Equal.number?, Json.asF64?] using
      float_beq_self (float_isNaN_ofInt n)
  | float hx | decimal hx =>
    simpa [sameValue, Json.isNull, Equal.number?, Json.asF64?] using
      float_beq_self (float_isNaN_of_isFinite hx)
  | timestamp hy hn _ =>
    simp [sameValue, Json.isNull, Equal.instant?, Timestamp.read?,
      Timestamp.parseLenient?_rfc3339 hy hn]
  | boolean b =>
    simp only [sameValue, Json.isNull, Bool.false_eq_true, or_self, if_false]
    exact Json.beq_self_of_plain (@Json.Plain.bool (fun _ => True) b)
  | text s =>
    simp only [sameValue, Json.isNull, Bool.false_eq_true, or_self, if_false]
    exact Json.beq_self_of_plain (@Json.Plain.str (fun _ => True) s)
  | @uuid u _ =>
    simp only [sameValue, Json.isNull, Bool.false_eq_true, or_self, if_false]
    exact Json.beq_self_of_plain (@Json.Plain.str (fun _ => True) u.hyphenated)
  | @time t _ =>
    simp only [sameValue, Json.isNull, Bool.false_eq_true, or_self, if_false]
    exact Json.beq_self_of_plain (@Json.Plain.str (fun _ => True) t.render)
  | enumText _ | enumInt _ | enumFloat _ | date _ | bytes _ | simpleArray _ => simp [sameValue, Json.isNull]
  | json _ h =>
    cases v with
    | null => simp [sameValue, Json.isNull]
    | _ => simp [sameValue, Json.isNull, Json.beq_self_of_plain h]
  | array h => simp [sameValue, Json.isNull, Json.beq_self_of_plain (.arr h)]

end ColumnType

end EntitySql
