import Mathlib
import EntitySql.Time.Parse
import EntitySql.Time.Text
import EntitySql.Text.Blank

/-!
# Dates and times read back as written

`CivilDate.render` and `ClockTime.render` write their fields as zero-padded numbers, and the
readers of the library give back the value written: `CivilDate.parse?_render` and
`ClockTime.parse?_render`. A padded number is read back as itself (`TimeFields.number_padNat`),
and the fraction of a second, written with 3, 6 or 9 digits, is read back scaled to nanoseconds
(`TimeFields.read_fractionText`).
-/

namespace EntitySql

/-! ## Padded numbers -/

section Padded

variable {w n : Nat}

theorem toList_padNat (w n : Nat) :
    (padNat w n).toList =
      List.replicate (w - (Nat.toDigits 10 n).length) '0' ++ Nat.toDigits 10 n := by
  have hrepr : (toString n).toList = Nat.toDigits 10 n := Nat.toList_repr
  have hlen : (toString n).length = (Nat.toDigits 10 n).length := by
    rw [← String.length_toList, hrepr]
  simp only [padNat, String.toList_append, String.toList_ofList, hrepr, hlen]

theorem isDigit_of_mem_padNat {c : Char} (h : c ∈ (padNat w n).toList) : c.isDigit = true := by
  rw [toList_padNat, List.mem_append] at h
  rcases h with h | h
  · rw [(List.mem_replicate.mp h).2]
    rfl
  · exact Nat.isDigit_of_mem_toDigits (by decide) (by decide) h

theorem padNat_ne_nil : (padNat w n).toList ≠ [] := by
  rw [toList_padNat]
  simp [Nat.toDigits_ne_nil]

theorem length_padNat (hw : 0 < w) (hn : n < 10 ^ w) : (padNat w n).toList.length = w := by
  have hle := Nat.toDigits_length 10 n w hw hn
  rw [toList_padNat, List.length_append, List.length_replicate]
  omega

theorem length_padNat_le {m : Nat} (hw : w ≤ m) (hm : 0 < m) (hn : n < 10 ^ m) :
    (padNat w n).toList.length ≤ m := by
  have hle := Nat.toDigits_length 10 n m hm hn
  rw [toList_padNat, List.length_append, List.length_replicate]
  omega

theorem foldl_padNat :
    (padNat w n).toList.foldl (fun acc c => acc * 10 + (c.toNat - 48)) 0 = n := by
  have hzeros : ∀ k, (List.replicate k '0').foldl (fun acc c => acc * 10 + (c.toNat - 48)) 0 = 0 := by
    intro k
    induction k with
    | zero => rfl
    | succ k ih => rw [List.replicate_succ', List.foldl_append, ih]; rfl
  have hstep : (fun acc c => acc * 10 + (c.toNat - 48)) =
      fun (acc : Nat) (c : Char) => 10 * acc + (c.toNat - '0'.toNat) := by
    funext acc c
    rw [Nat.mul_comm]
    rfl
  rw [toList_padNat, List.foldl_append, hzeros, hstep]
  exact Nat.ofDigitChars_ten_toDigits

end Padded

theorem fractionText_toList {nano : Nat} (hn : nano < 1000000000) (h0 : nano ≠ 0) :
    ∃ k v, 0 < k ∧ k ≤ 9 ∧ v < 10 ^ k ∧ v * Nat.pow 10 (9 - k) = nano ∧
      (fractionText nano).toList = '.' :: (padNat k v).toList := by
  unfold fractionText
  rw [if_neg h0]
  have hdot : ".".toList = ['.'] := rfl
  split_ifs with hms hus
  · exact ⟨3, nano / 1000000, by decide, by decide, by omega, by simp; omega, by simp [hdot]⟩
  · exact ⟨6, nano / 1000, by decide, by decide, by omega, by simp; omega, by simp [hdot]⟩
  · exact ⟨9, nano, by decide, le_rfl, by omega, by simp, by simp [hdot]⟩

namespace TimeFields

-- Most lemmas below unfold `read`, and they are elaborated side by side: its equations are made
-- here once, so that they do not each wait for another to make them.
section
attribute [local simp] read
end

/-! ## Reading numbers -/

theorem takeWhile_isDigit_take_append {ds rest : List Char} {max : Nat}
    (hds : ∀ c ∈ ds, c.isDigit = true) (hlen : ds.length ≤ max)
    (hrest : ∀ c ∈ rest.head?, c.isDigit = false) :
    ((ds ++ rest).take max).takeWhile Char.isDigit = ds := by
  have hstop : ∀ k, (rest.take k).takeWhile Char.isDigit = [] := by
    intro k
    cases rest with
    | nil => simp
    | cons c r =>
      cases k with
      | zero => simp
      | succ k => simp [hrest c (by simp)]
  rw [List.take_append, List.take_of_length_le hlen, List.takeWhile_append_of_pos hds, hstop,
    List.append_nil]

theorem dropWhile_isDigit_of_head {rest : List Char} (hrest : ∀ c ∈ rest.head?, c.isDigit = false) :
    rest.dropWhile Char.isDigit = rest := by
  cases rest with
  | nil => rfl
  | cons c r => simp [hrest c (by simp)]

theorem digits_append {ds rest : List Char} {max : Nat} (hds : ∀ c ∈ ds, c.isDigit = true)
    (hne : ds ≠ []) (hlen : ds.length ≤ max) (hrest : ∀ c ∈ rest.head?, c.isDigit = false) :
    digits (ds ++ rest) max = some (ds.foldl (fun acc c => acc * 10 + (c.toNat - 48)) 0, rest) := by
  unfold digits
  simp only [takeWhile_isDigit_take_append hds hlen hrest, List.isEmpty_iff, hne, if_false,
    List.drop_left]

theorem digits_padNat {w n max : Nat} {rest : List Char} (hlen : (padNat w n).toList.length ≤ max)
    (hrest : ∀ c ∈ rest.head?, c.isDigit = false) :
    digits ((padNat w n).toList ++ rest) max = some (n, rest) := by
  rw [digits_append (fun _ => isDigit_of_mem_padNat) padNat_ne_nil hlen hrest, foldl_padNat]

theorem number_padNat {w n width : Nat} {signed : Bool} {rest : List Char}
    (hlen : (padNat w n).toList.length ≤ width) (hrest : ∀ c ∈ rest.head?, c.isDigit = false) :
    number ((padNat w n).toList ++ rest) width signed = some ((n : Int), rest) := by
  obtain ⟨c, cs, hc⟩ := List.exists_cons_of_ne_nil (padNat_ne_nil (w := w) (n := n))
  have hdigit : c.isDigit = true := isDigit_of_mem_padNat (by rw [hc]; exact List.mem_cons_self)
  have hblank : c.isWhitespace = false := Text.not_isWhitespace_of_isDigit hdigit
  have hsign : c ≠ '-' ∧ c ≠ '+' := by
    constructor <;> (rintro rfl; revert hdigit; decide)
  unfold number
  rw [hc, List.cons_append, List.dropWhile_cons_of_neg (by simp [hblank])]
  dsimp only
  split
  · next heq => exact absurd (List.cons.inj heq).1 hsign.1
  · next heq => exact absurd (List.cons.inj heq).1 hsign.2
  · rw [← List.cons_append, ← hc, digits_padNat hlen hrest]
    rfl

theorem number_minus_padNat {w n width : Nat} {rest : List Char}
    (hlen : (padNat w n).toList.length ≤ 20) (hrest : ∀ c ∈ rest.head?, c.isDigit = false) :
    number ('-' :: ((padNat w n).toList ++ rest)) width true = some (-(n : Int), rest) := by
  simp only [number, List.dropWhile_cons_of_neg (show ¬ Char.isWhitespace '-' = true by decide),
    if_true, digits_padNat hlen hrest, Option.map_some]

theorem number_plus_padNat {w n width : Nat} {rest : List Char}
    (hlen : (padNat w n).toList.length ≤ 20) (hrest : ∀ c ∈ rest.head?, c.isDigit = false) :
    number ('+' :: ((padNat w n).toList ++ rest)) width true = some ((n : Int), rest) := by
  simp only [number, List.dropWhile_cons_of_neg (show ¬ Char.isWhitespace '+' = true by decide),
    if_true, digits_padNat hlen hrest, Option.map_some]

theorem number_twoDigits {v : Nat} {rest : List Char} (hv : v < 100)
    (hrest : ∀ c ∈ rest.head?, c.isDigit = false) :
    number ((padNat 2 v).toList ++ rest) 2 false = some ((v : Int), rest) :=
  number_padNat (length_padNat_le le_rfl (by decide) (by omega)) hrest

theorem bounded_of_le {v : Nat} {lo hi : Nat} (hlo : lo ≤ v) (hhi : v ≤ hi) :
    bounded (v : Int) lo hi = some v := by
  simp [bounded]
  omega

/-! ## Reading fields -/

variable {pat : List TimeField} {rest : List Char} {acc : TimeFields}

theorem read_literal (c : Char) (cs : List Char) :
    read (.literal c :: pat) (c :: cs) acc = read pat cs acc := by
  simp [read]

theorem read_blank_space {cs : List Char} (h : ∀ c ∈ cs.head?, c.isWhitespace = false) :
    read (.blank :: pat) (' ' :: cs) acc = read pat cs acc := by
  cases cs with
  | nil => rfl
  | cons c cs => simp [read, h c rfl]

theorem read_hour {h : Nat} (hh : h < 24) (hrest : ∀ c ∈ rest.head?, c.isDigit = false) :
    read (.hour :: pat) ((padNat 2 h).toList ++ rest) acc = read pat rest { acc with hour := some h } := by
  simp only [read, number_twoDigits (by omega : h < 100) hrest, Option.bind_some,
    bounded_of_le (Nat.zero_le h) (by omega : h ≤ 23)]

theorem read_minute {m : Nat} (hm : m < 60) (hrest : ∀ c ∈ rest.head?, c.isDigit = false) :
    read (.minute :: pat) ((padNat 2 m).toList ++ rest) acc =
      read pat rest { acc with minute := some m } := by
  simp only [read, number_twoDigits (by omega : m < 100) hrest, Option.bind_some,
    bounded_of_le (Nat.zero_le m) (by omega : m ≤ 59)]

theorem read_second {s : Nat} (hs : s ≤ 60) (hrest : ∀ c ∈ rest.head?, c.isDigit = false) :
    read (.second :: pat) ((padNat 2 s).toList ++ rest) acc =
      read pat rest { acc with second := some s } := by
  simp only [read, number_twoDigits (by omega : s < 100) hrest, Option.bind_some,
    bounded_of_le (Nat.zero_le s) hs]

theorem read_month {m : Nat} (h1 : 1 ≤ m) (h12 : m ≤ 12) (hrest : ∀ c ∈ rest.head?, c.isDigit = false) :
    read (.month :: pat) ((padNat 2 m).toList ++ rest) acc =
      read pat rest { acc with month := some m } := by
  simp only [read, number_twoDigits (by omega : m < 100) hrest, Option.bind_some, bounded_of_le h1 h12]

theorem read_day {d : Nat} (h1 : 1 ≤ d) (h31 : d ≤ 31) (hrest : ∀ c ∈ rest.head?, c.isDigit = false) :
    read (.day :: pat) ((padNat 2 d).toList ++ rest) acc = read pat rest { acc with day := some d } := by
  simp only [read, number_twoDigits (by omega : d < 100) hrest, Option.bind_some, bounded_of_le h1 h31]

theorem read_fraction_padNat {k v : Nat} (hk : 0 < k) (hk9 : k ≤ 9) (hv : v < 10 ^ k)
    (hrest : ∀ c ∈ rest.head?, c.isDigit = false) :
    read (.fraction :: pat) ('.' :: ((padNat k v).toList ++ rest)) acc =
      read pat rest { acc with nano := some (v * Nat.pow 10 (9 - k)) } := by
  have hlen : (padNat k v).toList.length = k := length_padNat hk hv
  have hdigits : digits ((padNat k v).toList ++ rest) 9 = some (v, rest) :=
    digits_padNat (by omega) hrest
  have hused : (((padNat k v).toList ++ rest).take 9).takeWhile Char.isDigit = (padNat k v).toList :=
    takeWhile_isDigit_take_append (fun _ => isDigit_of_mem_padNat) (by omega) hrest
  simp only [read, hdigits, hused, hlen, dropWhile_isDigit_of_head hrest]

theorem read_fraction_fractionText {nano : Nat} (hn : nano < 1000000000)
    (hrest : ∀ c ∈ rest.head?, c.isDigit = false ∧ c ≠ '.') :
    read (.fraction :: pat) ((fractionText nano).toList ++ rest) acc =
      read pat rest (if nano = 0 then acc else { acc with nano := some nano }) := by
  by_cases h0 : nano = 0
  · subst h0
    cases rest with
    | nil => rfl
    | cons c r =>
      have hc : c ≠ '.' := (hrest c rfl).2
      simp [read, fractionText, hc]
  · obtain ⟨k, v, hk, hk9, hv, hval, hfr⟩ := fractionText_toList hn h0
    rw [hfr, List.cons_append, read_fraction_padNat hk hk9 hv fun c hc => (hrest c hc).1, hval,
      if_neg h0]

/-- The fraction of a second as written is read back: nothing for none, else the
nanoseconds. -/
theorem read_fractionText {nano : Nat} (hn : nano < 1000000000) :
    read [.fraction] (fractionText nano).toList acc =
      some (if nano = 0 then acc else { acc with nano := some nano }) := by
  rw [← List.append_nil (fractionText nano).toList, read_fraction_fractionText hn (by simp)]
  rfl

theorem read_oneOf {c : Char} {opts : List Char} (h : c ∈ opts) (cs : List Char) :
    read (.oneOf opts :: pat) (c :: cs) acc = read pat cs acc := by
  simp [read, h]

theorem read_zone {cs : List Char} {o : Int} (h : zoneOffset cs = some (o, rest)) :
    read (.zone :: pat) cs acc = read pat rest { acc with offset := some o } := by
  simp [read, h]

end TimeFields

/-! ## Dates -/

theorem dash_head (cs : List Char) : ∀ c ∈ ('-' :: cs).head?, c.isDigit = false := by
  intro c hc
  simp only [List.head?_cons, Option.mem_def, Option.some.injEq] at hc
  rw [← hc]
  rfl

theorem TimeFields.read_yearText {y : Int} {pat : List TimeField} {rest : List Char}
    {acc : TimeFields} (hlo : CivilDate.minYear ≤ y) (hhi : y ≤ CivilDate.maxYear)
    (hrest : ∀ c ∈ rest.head?, c.isDigit = false) :
    TimeFields.read (.year :: pat) ((yearText y).toList ++ rest) acc =
      TimeFields.read pat rest { acc with year := some y } := by
  have hbound : y.natAbs < 10 ^ 20 := by
    simp only [CivilDate.minYear, CivilDate.maxYear] at hlo hhi
    omega
  have hlen : (padNat 4 y.natAbs).toList.length ≤ 20 := length_padNat_le (by decide) (by decide) hbound
  unfold yearText
  by_cases hy : 0 ≤ y ∧ y ≤ 9999
  · have hlen4 : (padNat 4 y.toNat).toList.length ≤ 4 := length_padNat_le le_rfl (by decide) (by omega)
    simp only [hy, and_self, if_true, TimeFields.read, TimeFields.number_padNat hlen4 hrest,
      Option.bind_some, Int.toNat_of_nonneg hy.1]
  · rw [if_neg hy]
    by_cases hneg : y < 0
    · rw [if_pos hneg, String.toList_append, show "-".toList = ['-'] from rfl,
        List.singleton_append, List.cons_append]
      simp only [TimeFields.read, TimeFields.number_minus_padNat hlen hrest, Option.bind_some]
      rw [show -(y.natAbs : Int) = y by omega]
    · rw [if_neg hneg, String.toList_append, show "+".toList = ['+'] from rfl,
        List.singleton_append, List.cons_append]
      simp only [TimeFields.read, TimeFields.number_plus_padNat hlen hrest, Option.bind_some]
      rw [show (y.natAbs : Int) = y by omega]

namespace CivilDate

theorem daysInMonth_le (y : Int) (m : Nat) : daysInMonth y m ≤ 31 := by
  unfold daysInMonth
  split_ifs <;> omega

theorem parse?_render {d : CivilDate} (hd : isValid d.year d.month d.day = true) :
    CivilDate.parse? d.render = some d := by
  have hvalid := hd
  simp only [isValid, decide_eq_true_eq] at hvalid
  obtain ⟨hlo, hhi, hm1, hm12, hd1, hdays⟩ := hvalid
  have hd31 : d.day ≤ 31 := le_trans hdays (daysInMonth_le d.year d.month)
  unfold parse? render
  simp only [String.toList_append, show "-".toList = ['-'] from rfl, List.append_assoc,
    List.cons_append, List.nil_append, datePattern]
  rw [TimeFields.read_yearText hlo hhi (dash_head _), TimeFields.read_literal,
    TimeFields.read_month hm1 hm12 (dash_head _), TimeFields.read_literal,
    ← List.append_nil (padNat 2 d.day).toList, TimeFields.read_day hd1 hd31 (by simp)]
  simp only [TimeFields.read, List.isEmpty_nil, if_true, Option.bind_some, TimeFields.date?,
    ofYmd?, hd]

end CivilDate

/-! ## Times -/

theorem fractionText_head (nano : Nat) : ∀ c ∈ (fractionText nano).toList.head?, c.isDigit = false := by
  intro c hc
  unfold fractionText at hc
  split at hc
  · simp at hc
  · split at hc <;> [skip; split at hc] <;>
      · simp only [String.toList_append, show ".".toList = ['.'] from rfl, List.singleton_append,
          List.head?_cons, Option.mem_def, Option.some.injEq] at hc
        rw [← hc]
        rfl

namespace ClockTime

theorem shownSecond_spec {t : ClockTime} (ht : t.isValid = true) :
    t.shownSecond.1 ≤ 60 ∧ t.shownSecond.2 < 1000000000 ∧
      (if t.shownSecond.1 = 60 then
        (⟨t.hour, t.minute, 59, t.shownSecond.2 + 1000000000⟩ : ClockTime)
      else ⟨t.hour, t.minute, t.shownSecond.1, t.shownSecond.2⟩) = t := by
  obtain ⟨h, m, s, nano⟩ := t
  simp only [isValid, decide_eq_true_eq] at ht
  unfold shownSecond
  by_cases hleap : nano ≥ 1000000000
  · have hs : s = 59 := by omega
    subst hs
    simp only [hleap, if_true]
    refine ⟨by omega, by omega, ?_⟩
    congr 1
    omega
  · simp only [hleap, if_false]
    refine ⟨by omega, by omega, ?_⟩
    rw [if_neg (by omega)]

theorem time?_of_shown {t : ClockTime} (ht : t.isValid = true) {s nano : Nat}
    (hsh : t.shownSecond = (s, nano)) {f : TimeFields} (h1 : f.hour = some t.hour)
    (h2 : f.minute = some t.minute) (h3 : f.second = some s) (h4 : f.nano.getD 0 = nano) :
    f.time? = some t := by
  obtain ⟨-, -, hback⟩ := shownSecond_spec ht
  rw [hsh] at hback
  simp only [TimeFields.time?, h1, h2, h3, h4, Option.getD_some, hback, ht, if_true]

theorem parse?_render {t : ClockTime} (ht : t.isValid = true) : ClockTime.parse? t.render = some t := by
  obtain ⟨hs, hn, -⟩ := shownSecond_spec ht
  have hvalid := ht
  simp only [isValid, decide_eq_true_eq] at hvalid
  obtain ⟨hh, hm, -, -⟩ := hvalid
  have hcolon : ∀ cs, ∀ c ∈ (':' :: cs).head?, c.isDigit = false := by
    intro cs c hc
    simp only [List.head?_cons, Option.mem_def, Option.some.injEq] at hc
    rw [← hc]
    rfl
  unfold parse? render
  rcases hsh : t.shownSecond with ⟨s, nano⟩
  rw [hsh] at hs hn
  dsimp only at hs hn
  simp only [String.toList_append, show ":".toList = [':'] from rfl, List.append_assoc,
    List.cons_append, List.nil_append, timePattern]
  rw [TimeFields.read_hour hh (hcolon _), TimeFields.read_literal, TimeFields.read_minute hm (hcolon _),
    TimeFields.read_literal, TimeFields.read_second hs (fractionText_head nano),
    TimeFields.read_fractionText hn, Option.bind_some]
  refine time?_of_shown ht hsh (by split <;> rfl) (by split <;> rfl) (by split <;> rfl) ?_
  split
  · next h0 => exact h0.symm
  · rfl

end ClockTime

end EntitySql
