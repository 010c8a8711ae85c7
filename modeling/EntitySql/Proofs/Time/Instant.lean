import Mathlib
import EntitySql.Time.Parse
import EntitySql.Time.Text
import EntitySql.Proofs.Time.Written
import EntitySql.Proofs.Time.Calendar
import EntitySql.Proofs.Postgres.Bytes

/-!
# Instants read back as written

`Timestamp.parseRfc3339` reads the UTF-8 bytes of a text at fixed positions: four digits of the
year, two of the month and of the day, the separator, two digits each of hour, minute and second,
an optional fraction and the zone. `Timestamp.instantChars` lays such a text out; it is made of
ASCII characters only, so its bytes are the codes of its characters (`toUTF8_toList_of_ascii`),
and the reader takes the date and time written and leaves the rest to the zone
(`Timestamp.parseRfc3339_instantChars`). With the calendar's day numbers, an instant whose year
has four digits is read back from `Timestamp.isoUtc` and `Timestamp.rfc3339`. The SQLite text
has no zone: the strict reader refuses it (`Timestamp.parseRfc3339_sqliteText`) and the lenient
one reads it back as UTC when it loses no digit (`Timestamp.parseLenient?_sqliteText`).
-/

namespace EntitySql

/-! ## Digits as bytes -/

namespace TimeRead

theorem toNat_toUInt8_of_ascii {c : Char} (h : c.toNat < 128) : c.toUInt8.toNat = c.toNat := by
  have : c.toNat = c.val.toNat := rfl
  simp only [Char.toUInt8, UInt32.toNat_toUInt8]
  omega

theorem toNat_lt_of_isDigit {c : Char} (h : c.isDigit = true) : c.toNat < 128 := by
  simp only [Char.isDigit_iff_toNat, Char.reduceToNat] at h
  omega

theorem digitByte?_toUInt8 {c : Char} (h : c.isDigit = true) :
    digitByte? c.toUInt8 = some (c.toNat - 48) := by
  have hd := h
  simp only [Char.isDigit_iff_toNat, Char.reduceToNat] at hd
  simp only [digitByte?, toNat_toUInt8_of_ascii (toNat_lt_of_isDigit h)]
  rw [if_pos (by omega)]

theorem digitByte?_of_not_digit {c : Char} (hc : c.toNat < 128) (hd : c.isDigit = false) :
    digitByte? c.toUInt8 = none := by
  have h48 : ¬ (48 ≤ c.toNat ∧ c.toNat ≤ 57) := by
    intro h
    have hdig : c.isDigit = true := by simpa [Char.isDigit_iff_toNat] using h
    rw [hdig] at hd
    cases hd
  simp [digitByte?, toNat_toUInt8_of_ascii hc, h48]

theorem takeDigits_append {ds : List Char} {rest : List UInt8} {max : Nat}
    (hds : ∀ c ∈ ds, c.isDigit = true) (hne : ds ≠ []) (hlen : ds.length ≤ max)
    (hrest : ∀ b ∈ rest.head?, digitByte? b = none) :
    takeDigits (ds.map Char.toUInt8 ++ rest) max =
      .ok (ds.foldl (fun acc c => acc * 10 + (c.toNat - 48)) 0, ds.length, rest) := by
  have hdigit : ∀ b ∈ ds.map Char.toUInt8, (digitByte? b).isSome = true := by
    intro b hb
    obtain ⟨c, hc, rfl⟩ := List.mem_map.mp hb
    simp [digitByte?_toUInt8 (hds c hc)]
  have hstop : ∀ k, (rest.take k).takeWhile (fun b => (digitByte? b).isSome) = [] := by
    intro k
    cases rest with
    | nil => simp
    | cons b r =>
      cases k with
      | zero => simp
      | succ k => simp [hrest b (by simp)]
  have htake : ((ds.map Char.toUInt8 ++ rest).take max).takeWhile (fun b => (digitByte? b).isSome) =
      ds.map Char.toUInt8 := by
    rw [List.take_append, List.take_of_length_le (by simpa using hlen),
      List.takeWhile_append_of_pos hdigit, hstop, List.append_nil]
  have hvalue : (ds.map Char.toUInt8).foldl (fun acc b => acc * 10 + (b.toNat - 48)) 0 =
      ds.foldl (fun acc c => acc * 10 + (c.toNat - 48)) 0 := by
    rw [List.foldl_map]
    exact List.foldl_ext _ _ _ fun acc c hc => by
      rw [toNat_toUInt8_of_ascii (toNat_lt_of_isDigit (hds c hc))]
  unfold takeDigits
  simp only [htake, List.isEmpty_iff, hne, List.map_eq_nil_iff, if_false, List.length_map,
    List.drop_left' (List.length_map _), hvalue]
  rw [if_neg (by simp [hne])]

theorem fraction_padNat {k v : Nat} (hk : 0 < k) (hk9 : k ≤ 9) (hv : v < 10 ^ k)
    {rest : List UInt8} (hrest : ∀ b ∈ rest.head?, digitByte? b = none) :
    fraction ((padNat k v).toList.map Char.toUInt8 ++ rest) = .ok (v * Nat.pow 10 (9 - k), rest) := by
  have hstay : rest.dropWhile (fun b => (digitByte? b).isSome) = rest := by
    cases rest with
    | nil => rfl
    | cons b r => simp [hrest b (by simp)]
  have htake := @takeDigits_append (padNat k v).toList rest 9 (fun _ => isDigit_of_mem_padNat)
    padNat_ne_nil (le_of_eq_of_le (length_padNat hk hv) hk9) hrest
  rw [foldl_padNat, length_padNat hk hv] at htake
  unfold fraction
  rw [htake]
  change Except.ok (v * Nat.pow 10 (9 - k), rest.dropWhile fun b => (digitByte? b).isSome) = _
  rw [hstay]

end TimeRead

/-! ## Written numbers as digit characters -/

theorem padNat_two {v : Nat} (hv : v < 100) : ∃ a b : Char, (padNat 2 v).toList = [a, b] ∧
    a.isDigit = true ∧ b.isDigit = true ∧ (a.toNat - 48) * 10 + (b.toNat - 48) = v := by
  obtain ⟨a, b, hab⟩ := List.length_eq_two.mp (length_padNat (w := 2) (by decide) (by simpa using hv))
  have hval := foldl_padNat (w := 2) (n := v)
  rw [hab] at hval
  refine ⟨a, b, hab, isDigit_of_mem_padNat (by rw [hab]; simp),
    isDigit_of_mem_padNat (by rw [hab]; simp), ?_⟩
  simpa using hval

theorem padNat_four {v : Nat} (hv : v < 10000) : ∃ a b c e : Char,
    (padNat 4 v).toList = [a, b, c, e] ∧ a.isDigit = true ∧ b.isDigit = true ∧ c.isDigit = true ∧
      e.isDigit = true ∧ (a.toNat - 48) * 1000 + (b.toNat - 48) * 100 + (c.toNat - 48) * 10 +
        (e.toNat - 48) = v := by
  have hlen := length_padNat (w := 4) (n := v) (by decide) (by simpa using hv)
  obtain ⟨a, l, hal⟩ := List.exists_cons_of_length_eq_add_one hlen
  obtain ⟨b, l', hbl⟩ := List.exists_cons_of_length_eq_add_one
    (show l.length = 2 + 1 by rw [hal] at hlen; simpa using hlen)
  obtain ⟨c, e, hce⟩ := List.length_eq_two.mp (show l'.length = 2 by
    rw [hal, hbl] at hlen; simpa using hlen)
  subst hbl hce
  have hval := foldl_padNat (w := 4) (n := v)
  rw [hal] at hval
  have hdig : ∀ x ∈ [a, b, c, e], x.isDigit = true := fun x hx => isDigit_of_mem_padNat (hal ▸ hx)
  refine ⟨a, b, c, e, hal, hdig a (by simp), hdig b (by simp), hdig c (by simp), hdig e (by simp), ?_⟩
  simp at hval
  omega

theorem padNat_ascii (w n : Nat) : ∀ c ∈ (padNat w n).toList, c.toNat < 128 :=
  fun _ hc => TimeRead.toNat_lt_of_isDigit (isDigit_of_mem_padNat hc)

namespace ClockTime

theorem shownSecond_cases {t : ClockTime} (ht : t.isValid = true) {s nano : Nat}
    (hsh : t.shownSecond = (s, nano)) : nano < 1000000000 ∧
      ((s = 60 ∧ ClockTime.mk t.hour t.minute 59 (1000000000 + nano) = t) ∨
        (s < 60 ∧ ClockTime.mk t.hour t.minute s nano = t)) := by
  obtain ⟨hs, hn, hback⟩ := shownSecond_spec ht
  rw [hsh] at hs hn hback
  dsimp only at hs hn hback
  refine ⟨hn, ?_⟩
  by_cases hs60 : s = 60
  · rw [if_pos hs60] at hback
    exact .inl ⟨hs60, by rw [← hback, Nat.add_comm]⟩
  · rw [if_neg hs60] at hback
    exact .inr ⟨by omega, hback⟩

end ClockTime

/-! ## The written instant read back -/

namespace Timestamp

open TimeRead

/-- The fraction written after the seconds: nothing for whole seconds, or a point and `k ≤ 9`
digits that scale to the nanoseconds. -/
def FractionText (frac : List Char) (nano : Nat) : Prop :=
  (frac = [] ∧ nano = 0) ∨ ∃ k v, 0 < k ∧ k ≤ 9 ∧ v < 10 ^ k ∧ v * Nat.pow 10 (9 - k) = nano ∧
    frac = '.' :: (padNat k v).toList

def instantChars (d : CivilDate) (sep : Char) (tm : ClockTime) (s : Nat) (frac zone : List Char) :
    List Char :=
  (padNat 4 d.year.toNat).toList ++ '-' :: (padNat 2 d.month).toList ++ '-' ::
    (padNat 2 d.day).toList ++ sep :: (padNat 2 tm.hour).toList ++ ':' ::
      (padNat 2 tm.minute).toList ++ ':' :: (padNat 2 s).toList ++ frac ++ zone

/-- What `parseRfc3339` does once the date and the time are read: the zone and its bounds. -/
def zoneTail (d : CivilDate) (tm : ClockTime) (zone : List UInt8) :
    Except TimeParseError Timestamp := do
  if zone.isEmpty then throw .tooShort
  let (off, rest) ← offset zone
  if off.natAbs > (23 * 60 + 59) * 60 then throw .outOfRange
  if !rest.isEmpty then throw .tooLong
  pure (ofLocal d tm off)

theorem FractionText.ascii {frac : List Char} {nano : Nat} (h : FractionText frac nano) :
    ∀ c ∈ frac, c.toNat < 128 := by
  rcases h with ⟨rfl, -⟩ | ⟨k, v, -, -, -, -, rfl⟩
  · simp
  · intro c hc
    rcases List.mem_cons.1 hc with rfl | hc
    · decide
    · exact padNat_ascii _ _ c hc

theorem instantChars_ascii {d : CivilDate} {sep : Char} {tm : ClockTime} {s : Nat}
    {frac zone : List Char} (hsep : sep = 'T' ∨ sep = 't' ∨ sep = ' ')
    (hfrac : ∀ c ∈ frac, c.toNat < 128) (hzone : ∀ c ∈ zone, c.toNat < 128) :
    ∀ c ∈ instantChars d sep tm s frac zone, c.toNat < 128 := by
  have hsepc : sep.toNat < 128 := by rcases hsep with rfl | rfl | rfl <;> decide
  simp only [instantChars, List.forall_mem_append, List.forall_mem_cons, and_assoc]
  exact ⟨padNat_ascii _ _, by decide, padNat_ascii _ _, by decide, padNat_ascii _ _, hsepc,
    padNat_ascii _ _, by decide, padNat_ascii _ _, by decide, padNat_ascii _ _, hfrac, hzone⟩

theorem parseRfc3339_instantChars {d : CivilDate} {tm : ClockTime}
    (hd : CivilDate.isValid d.year d.month d.day = true) (hy : 0 ≤ d.year ∧ d.year ≤ 9999)
    (ht : tm.isValid = true) {s nano : Nat} (hsh : tm.shownSecond = (s, nano))
    {sep : Char} (hsep : sep = 'T' ∨ sep = 't' ∨ sep = ' ') {frac zone : List Char}
    (hfrac : FractionText frac nano) (hascii : ∀ c ∈ zone, c.toNat < 128)
    (hhead : ∀ c ∈ zone.head?, c.isDigit = false ∧ c ≠ '.') :
    parseRfc3339 (String.ofList (instantChars d sep tm s frac zone)) =
      zoneTail d tm (zone.map Char.toUInt8) := by
  have hdate := hd
  simp only [CivilDate.isValid, decide_eq_true_eq] at hdate
  obtain ⟨-, -, hm1, hm12, hd1, hdays⟩ := hdate
  have hd31 : d.day ≤ 31 := le_trans hdays (CivilDate.daysInMonth_le d.year d.month)
  have htime := ht
  simp only [ClockTime.isValid, decide_eq_true_eq] at htime
  obtain ⟨hh, hmi, -, -⟩ := htime
  obtain ⟨hn, hsec⟩ := ClockTime.shownSecond_cases ht hsh
  have hs : s < 100 := by rcases hsec with ⟨h, -⟩ | ⟨h, -⟩ <;> omega
  have hbs := toUTF8_toList_of_ascii (s := String.ofList (instantChars d sep tm s frac zone))
    (by rw [String.toList_ofList]; exact instantChars_ascii hsep hfrac.ascii hascii)
  rw [String.toList_ofList] at hbs
  generalize String.ofList (instantChars d sep tm s frac zone) = str at hbs ⊢
  unfold instantChars at hbs
  obtain ⟨y0, y1, y2, y3, hY, hy0, hy1, hy2, hy3, hyv⟩ := padNat_four (v := d.year.toNat) (by omega)
  obtain ⟨m0, m1, hM, hm0, hm1, hmv⟩ := padNat_two (v := d.month) (by omega)
  obtain ⟨d0, d1, hD, hd0, hd1, hdv⟩ := padNat_two (v := d.day) (by omega)
  obtain ⟨h0, h1, hH, hh0, hh1, hhv⟩ := padNat_two (v := tm.hour) (by omega)
  obtain ⟨i0, i1, hI, hi0, hi1, hiv⟩ := padNat_two (v := tm.minute) (by omega)
  obtain ⟨s0, s1, hS, hs0, hs1, hsv⟩ := padNat_two hs
  rw [hY, hM, hD, hH, hI, hS] at hbs
  have hlen : ¬ str.toUTF8.toList.length < 19 := by rw [hbs]; simp
  have hdash : ('-' : Char).toUInt8 = 45 := rfl
  have hcolon : (':' : Char).toUInt8 = 58 := rfl
  have hsepb : (sep.toUInt8 = 84 ∨ sep.toUInt8 = 116 ∨ sep.toUInt8 = 32) := by
    rcases hsep with rfl | rfl | rfl <;> decide
  simp only [parseRfc3339]
  rw [if_neg hlen]
  simp only [hbs, digitAt, expectAt, List.map_append, List.map_cons, List.cons_append,
    List.nil_append, List.getElem?_cons_zero, List.getElem?_cons_succ, Option.bind_some,
    digitByte?_toUInt8 hy0, digitByte?_toUInt8 hy1, digitByte?_toUInt8 hy2,
    digitByte?_toUInt8 hy3, digitByte?_toUInt8 hm0, digitByte?_toUInt8 hm1,
    digitByte?_toUInt8 hd0, digitByte?_toUInt8 hd1, digitByte?_toUInt8 hh0,
    digitByte?_toUInt8 hh1, digitByte?_toUInt8 hi0, digitByte?_toUInt8 hi1,
    digitByte?_toUInt8 hs0, digitByte?_toUInt8 hs1, hdash, hcolon, List.drop_succ_cons,
    List.drop_zero, bind, Except.bind, pure, Except.pure, if_true, Option.some.injEq, hsepb]
  rw [hyv, hmv, hdv, hhv, hiv, hsv]
  have hymd : CivilDate.ofYmd? ((d.year.toNat : Nat) : Int) d.month d.day = some d := by
    rw [Int.toNat_of_nonneg hy.1]
    simp [CivilDate.ofYmd?, hd]
  simp only [hymd, decide_true, Bool.not_true, Bool.false_eq_true, if_false]
  have hzoneb : ∀ b ∈ (zone.map Char.toUInt8).head?, digitByte? b = none ∧ b ≠ 46 := by
    intro b hb
    cases zone with
    | nil => simp at hb
    | cons c zs =>
      simp only [List.map_cons, List.head?_cons, Option.mem_def, Option.some.injEq] at hb
      subst hb
      obtain ⟨hnd, hnp⟩ := hhead c (by simp)
      have hc := hascii c (by simp)
      refine ⟨digitByte?_of_not_digit hc hnd, fun h => hnp ?_⟩
      have h46 := congrArg UInt8.toNat h
      rw [toNat_toUInt8_of_ascii hc] at h46
      exact Char.ext (UInt32.toNat_inj.1 h46)
  have hpoint : ('.' : Char).toUInt8 = 46 := rfl
  have hzoneDigit : ∀ b ∈ (zone.map Char.toUInt8).head?, digitByte? b = none :=
    fun b hb => (hzoneb b hb).1
  rcases hsec with ⟨rfl, htm⟩ | ⟨hs60, htm⟩
  on_goal 1 => simp only [if_true]
  on_goal 2 => simp only [Nat.ne_of_lt hs60, if_false, hs60, if_true]
  all_goals
    rcases hfrac with ⟨rfl, rfl⟩ | ⟨k, v, hk, hk9, hv, hval, rfl⟩
    · simp only [List.map_nil, List.nil_append]
      split
      · rename_i rest heq
        exact absurd rfl (hzoneb 46 (by rw [heq]; rfl)).2
      · simp [htm, ht, zoneTail, bind, Except.bind, pure, Except.pure, throw, throwThe,
          MonadExceptOf.throw]
    · simp only [List.map_cons, hpoint, List.cons_append, fraction_padNat hk hk9 hv hzoneDigit, hval]
      simp [htm, ht, zoneTail, bind, Except.bind, pure, Except.pure, throw, throwThe,
        MonadExceptOf.throw]

theorem fractionText_reads {nano : Nat} (hn : nano < 1000000000) :
    FractionText (fractionText nano).toList nano := by
  by_cases h0 : nano = 0
  · subst h0
    exact .inl ⟨rfl, rfl⟩
  · obtain ⟨k, v, hk, hk9, hv, hval, hfr⟩ := fractionText_toList hn h0
    exact .inr ⟨k, v, hk, hk9, hv, hval, hfr⟩

theorem rendered_toList {d : CivilDate} {tm : ClockTime} (hy : 0 ≤ d.year ∧ d.year ≤ 9999)
    {s nano : Nat} (hsh : tm.shownSecond = (s, nano)) (zone : String) :
    (d.render ++ "T" ++ tm.render ++ zone).toList =
      instantChars d 'T' tm s (fractionText nano).toList zone.toList := by
  have hyear : yearText d.year = padNat 4 d.year.toNat := by simp [yearText, hy]
  simp [CivilDate.render, ClockTime.render, hsh, hyear, instantChars]

theorem parseRfc3339_rendered {d : CivilDate} {tm : ClockTime}
    (hd : CivilDate.isValid d.year d.month d.day = true) (hy : 0 ≤ d.year ∧ d.year ≤ 9999)
    (ht : tm.isValid = true) (zone : String) (hascii : ∀ c ∈ zone.toList, c.toNat < 128)
    (hhead : ∀ c ∈ zone.toList.head?, c.isDigit = false ∧ c ≠ '.') :
    parseRfc3339 (d.render ++ "T" ++ tm.render ++ zone) =
      zoneTail d tm (zone.toList.map Char.toUInt8) := by
  rcases hsh : tm.shownSecond with ⟨s, nano⟩
  have hn := (ClockTime.shownSecond_cases ht hsh).1
  have htext : d.render ++ "T" ++ tm.render ++ zone =
      String.ofList (instantChars d 'T' tm s (fractionText nano).toList zone.toList) := by
    rw [← rendered_toList hy hsh zone, String.ofList_toList]
  rw [htext]
  exact parseRfc3339_instantChars hd hy ht hsh (.inl rfl) (fractionText_reads hn) hascii hhead

theorem isValid_date {t : Timestamp} (hy : 0 ≤ t.date.year ∧ t.date.year ≤ 9999) :
    CivilDate.isValid t.date.year t.date.month t.date.day = true :=
  CivilDate.isValid_ofDays (le_trans (by decide) hy.1) (le_trans hy.2 (by decide))

theorem parseRfc3339_isoUtc {t : Timestamp} (hy : 0 ≤ t.date.year ∧ t.date.year ≤ 9999)
    (hn : t.nanos < 1000000000 ∨ (t.seconds % 60 = 59 ∧ t.nanos < 2000000000)) :
    parseRfc3339 t.isoUtc = .ok t := by
  rw [isoUtc, parseRfc3339_rendered (isValid_date hy) hy (time_isValid hn) "Z" (by simp)
    (by simp)]
  show Except.ok (ofUtc t.date t.time) = _
  rw [ofUtc_date_time]

theorem parseRfc3339_rfc3339 {t : Timestamp} (hy : 0 ≤ t.date.year ∧ t.date.year ≤ 9999)
    (hn : t.nanos < 1000000000 ∨ (t.seconds % 60 = 59 ∧ t.nanos < 2000000000)) :
    parseRfc3339 t.rfc3339 = .ok t := by
  have hzone : "+00:00".toList.map Char.toUInt8 = [43, 48, 48, 58, 48, 48] := by
    simp only [String.toList]
    decide
  have hoff : offset [43, 48, 48, 58, 48, 48] = .ok (0, []) := by decide
  rw [rfc3339, parseRfc3339_rendered (isValid_date hy) hy (time_isValid hn) "+00:00" (by simp)
    (by simp), hzone]
  simp [zoneTail, hoff, bind, Except.bind, pure, Except.pure]
  rw [← ofUtc, ofUtc_date_time]

theorem sqliteText_toList {t : Timestamp} (hy : 0 ≤ t.date.year ∧ t.date.year ≤ 9999)
    {s nano : Nat} (hsh : t.time.shownSecond = (s, nano)) :
    t.sqliteText.toList =
      instantChars t.date ' ' t.time s ('.' :: (padNat 3 (nano / 1000000)).toList) [] := by
  have hyear : yearText t.date.year = padNat 4 t.date.year.toNat := by simp [yearText, hy]
  simp [sqliteText, hsh, CivilDate.render, hyear, instantChars]

theorem shownNano_ms {t : Timestamp} (hms : t.nanos % 1000000 = 0) {s nano : Nat}
    (hsh : t.time.shownSecond = (s, nano)) : nano % 1000000 = 0 := by
  simp only [ClockTime.shownSecond, time, ClockTime.ofSecondOfDay] at hsh
  by_cases hleap : t.nanos ≥ 1000000000
  · simp only [hleap, if_true, Prod.mk.injEq] at hsh
    omega
  · simp only [hleap, if_false, Prod.mk.injEq] at hsh
    omega

theorem parseRfc3339_sqliteText {t : Timestamp} (hy : 0 ≤ t.date.year ∧ t.date.year ≤ 9999)
    (hn : t.nanos < 1000000000 ∨ (t.seconds % 60 = 59 ∧ t.nanos < 2000000000))
    (hms : t.nanos % 1000000 = 0) : parseRfc3339 t.sqliteText = .error .tooShort := by
  rcases hsh : t.time.shownSecond with ⟨s, nano⟩
  have hnano := (ClockTime.shownSecond_cases (time_isValid hn) hsh).1
  have hnms := shownNano_ms hms hsh
  have hfrac : FractionText ('.' :: (padNat 3 (nano / 1000000)).toList) nano :=
    .inr ⟨3, nano / 1000000, by decide, by decide, by omega, by simp; omega, rfl⟩
  have htext : t.sqliteText =
      String.ofList (instantChars t.date ' ' t.time s ('.' :: (padNat 3 (nano / 1000000)).toList) []) := by
    rw [← sqliteText_toList hy hsh, String.ofList_toList]
  rw [htext, parseRfc3339_instantChars (isValid_date hy) hy (time_isValid hn) hsh (.inr (.inr rfl))
    hfrac (by simp) (by simp)]
  rfl

theorem parseNaive?_sqliteText {t : Timestamp} (hy : 0 ≤ t.date.year ∧ t.date.year ≤ 9999)
    (hn : t.nanos < 1000000000 ∨ (t.seconds % 60 = 59 ∧ t.nanos < 2000000000))
    (hms : t.nanos % 1000000 = 0) : parseNaive? t.sqliteText .blank = some t := by
  rcases hsh : t.time.shownSecond with ⟨s, nano⟩
  have ht := time_isValid hn
  obtain ⟨hnano, hsec⟩ := ClockTime.shownSecond_cases ht hsh
  have hnms := shownNano_ms hms hsh
  have hs : s ≤ 60 := by rcases hsec with ⟨h, -⟩ | ⟨h, -⟩ <;> omega
  have hd := isValid_date hy
  have hdate := hd
  simp only [CivilDate.isValid, decide_eq_true_eq] at hdate
  obtain ⟨hlo, hhi, hm1, hm12, hd1, hdays⟩ := hdate
  have hd31 : t.date.day ≤ 31 := le_trans hdays (CivilDate.daysInMonth_le _ _)
  have htime := ht
  simp only [ClockTime.isValid, decide_eq_true_eq] at htime
  obtain ⟨hh, hmi, -, -⟩ := htime
  have hhead : ∀ (x : Char) (cs : List Char), x.isDigit = false → ∀ c ∈ (x :: cs).head?, c.isDigit = false := by
    intro x cs hx c hc
    simp only [List.head?_cons, Option.mem_def, Option.some.injEq] at hc
    rw [← hc, hx]
  have hblank : ∀ rest, ∀ c ∈ ((padNat 2 t.time.hour).toList ++ rest).head?,
      c.isWhitespace = false := by
    intro rest c hc
    obtain ⟨h0, h1, hH, hh0, -, -⟩ := padNat_two (v := t.time.hour) (by omega)
    rw [hH] at hc
    simp only [List.cons_append, List.head?_cons, Option.mem_def, Option.some.injEq] at hc
    rw [← hc]
    exact Text.not_isWhitespace_of_isDigit hh0
  have hread : TimeFields.read (datePattern ++ [.blank] ++ timePattern) t.sqliteText.toList {} =
      some
        { year := some t.date.year, month := some t.date.month, day := some t.date.day,
          hour := some t.time.hour, minute := some t.time.minute, second := some s,
          nano := some (nano / 1000000 * Nat.pow 10 (9 - 3)) } := by
    simp only [sqliteText, hsh, CivilDate.render, String.toList_append, datePattern, timePattern,
      show "-".toList = ['-'] from rfl, show " ".toList = [' '] from rfl,
      show ":".toList = [':'] from rfl, show ".".toList = ['.'] from rfl, List.append_assoc,
      List.cons_append, List.nil_append]
    rw [TimeFields.read_yearText hlo hhi (dash_head _), TimeFields.read_literal,
      TimeFields.read_month hm1 hm12 (dash_head _), TimeFields.read_literal,
      TimeFields.read_day hd1 hd31 (hhead ' ' _ rfl), TimeFields.read_blank_space (hblank _),
      TimeFields.read_hour hh (hhead ':' _ rfl), TimeFields.read_literal,
      TimeFields.read_minute hmi (hhead ':' _ rfl), TimeFields.read_literal,
      TimeFields.read_second hs (hhead '.' _ rfl), ← List.append_nil (padNat 3 (nano / 1000000)).toList,
      TimeFields.read_fraction_padNat (by decide) (by decide) (by omega) (by simp)]
    rfl
  have hfd : TimeFields.date?
      { year := some t.date.year, month := some t.date.month, day := some t.date.day,
        hour := some t.time.hour, minute := some t.time.minute, second := some s,
        nano := some (nano / 1000000 * Nat.pow 10 (9 - 3)) } = some t.date := by
    simp [TimeFields.date?, CivilDate.ofYmd?, hd]
  have hft : TimeFields.time?
      { year := some t.date.year, month := some t.date.month, day := some t.date.day,
        hour := some t.time.hour, minute := some t.time.minute, second := some s,
        nano := some (nano / 1000000 * Nat.pow 10 (9 - 3)) } = some t.time :=
    ClockTime.time?_of_shown ht hsh rfl rfl rfl (by simp; omega)
  unfold parseNaive?
  rw [hread]
  simp only [Option.bind_eq_bind, Option.bind_some, hfd, hft]
  rw [ofUtc_date_time]
  rfl

theorem parseLenient?_rfc3339 {t : Timestamp} (hy : 0 ≤ t.date.year ∧ t.date.year ≤ 9999)
    (hn : t.nanos < 1000000000 ∨ (t.seconds % 60 = 59 ∧ t.nanos < 2000000000)) :
    parseLenient? t.rfc3339 = some t := by
  rw [parseLenient?, parseRfc3339_rfc3339 hy hn]

theorem parseLenient?_sqliteText {t : Timestamp} (hy : 0 ≤ t.date.year ∧ t.date.year ≤ 9999)
    (hn : t.nanos < 1000000000 ∨ (t.seconds % 60 = 59 ∧ t.nanos < 2000000000))
    (hms : t.nanos % 1000000 = 0) : parseLenient? t.sqliteText = some t := by
  rw [parseLenient?, parseRfc3339_sqliteText hy hn hms, parseNaive?_sqliteText hy hn hms]

end Timestamp

end EntitySql
