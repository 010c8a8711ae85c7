import Mathlib
import EntitySql.Value.Tagged
import EntitySql.Proofs.Time.Instant
import EntitySql.Proofs.Dialect.Stored

/-!
# Tagged values read back

`Value.toTagged` writes a value as `{"type": kind, "value": content}` and `Value.ofTagged` reads
it back. The reading gives back the value written when the content is within what the reader
takes for its kind (`Value.inTaggedRange`): an integer of 64 signed bits, a finite float, a UUID
of sixteen bytes, a valid date and time of day, an instant of a supported UTC year, and
arrays of such values (`Value.ofTagged_toTagged`). A float that is not finite is written `null`,
which no float is read from. An instant is read by the relaxed reader of instants, which also
takes the signed years of more than four digits that the writer gives outside years 0 to 9999
(`Timestamp.parseRelaxed?_isoUtc`).

The reader goes into nested arrays with the length of the written text as its fuel; an item's
text is shorter than the text of its array (`Value.length_render_toTagged_lt`), so the fuel lasts.
-/

namespace EntitySql

namespace Json

theorem mapItems_map {α : Type} {f : Json → Except String α} {g : α → Json} :
    ∀ {xs : List α}, (∀ x ∈ xs, f (g x) = .ok x) → mapItems f (xs.map g) = .ok xs
  | [], _ => rfl
  | x :: xs, h => by
    have hrest : mapItems f (xs.map g) = .ok xs :=
      mapItems_map fun y hy => h y (List.mem_cons_of_mem x hy)
    simp only [List.map_cons, mapItems, h x List.mem_cons_self, hrest]
    rfl

theorem length_render_le_renderItems {x : Json} :
    ∀ {xs : List Json}, x ∈ xs → (render x).length ≤ (renderItems xs).length
  | [y], h => by
    rw [List.mem_singleton.mp h, renderItems]
  | y :: z :: rest, h => by
    simp only [renderItems, String.length_append]
    rcases List.mem_cons.mp h with rfl | h
    · omega
    · have := length_render_le_renderItems h
      omega

end Json

namespace TimeFields

theorem read_blank {pat : List TimeField} {cs : List Char} {acc : TimeFields}
    (h : ∀ c ∈ cs.head?, c.isWhitespace = false) : read (.blank :: pat) cs acc = read pat cs acc := by
  cases cs with
  | nil => rfl
  | cons c cs => simp [read, h c rfl]

theorem isWhitespace_head_cons {c : Char} (hc : c.isWhitespace = false) (cs : List Char) :
    ∀ d ∈ (c :: cs).head?, d.isWhitespace = false := by
  intro d hd
  simp only [List.head?_cons, Option.mem_def, Option.some.injEq] at hd
  rwa [← hd]

end TimeFields

/-! ## The relaxed readers of dates, times and instants -/

theorem read_relaxedDate_render_append {d : CivilDate}
    (hd : CivilDate.isValid d.year d.month d.day = true) {pat : List TimeField} {rest : List Char}
    {acc : TimeFields} (hrest : ∀ c ∈ rest.head?, c.isDigit = false) :
    TimeFields.read (relaxedDatePattern ++ pat) (d.render.toList ++ rest) acc =
      TimeFields.read pat rest
        { acc with year := some d.year, month := some d.month, day := some d.day } := by
  have hvalid := hd
  simp only [CivilDate.isValid, decide_eq_true_eq] at hvalid
  obtain ⟨hlo, hhi, hm1, hm12, hd1, hdays⟩ := hvalid
  have hd31 : d.day ≤ 31 := le_trans hdays (CivilDate.daysInMonth_le d.year d.month)
  have hdash := TimeFields.isWhitespace_head_cons (c := '-') rfl
  unfold CivilDate.render
  simp only [String.toList_append, show "-".toList = ['-'] from rfl, List.append_assoc,
    List.cons_append, List.nil_append, relaxedDatePattern]
  rw [TimeFields.read_yearText hlo hhi (dash_head _), TimeFields.read_blank (hdash _),
    TimeFields.read_literal, TimeFields.read_month hm1 hm12 (dash_head _),
    TimeFields.read_blank (hdash _), TimeFields.read_literal, TimeFields.read_day hd1 hd31 hrest]

theorem read_relaxedDate_render {d : CivilDate} (hd : CivilDate.isValid d.year d.month d.day = true) :
    (TimeFields.read (relaxedDatePattern ++ [.blank]) d.render.toList {}).bind TimeFields.date? =
      some d := by
  rw [← List.append_nil d.render.toList, read_relaxedDate_render_append hd (by simp)]
  simp only [TimeFields.read, List.dropWhile_nil, List.isEmpty_nil, if_true, Option.bind_some,
    TimeFields.date?, CivilDate.ofYmd?, hd]

theorem read_relaxedTime_render_append {t : ClockTime} (ht : t.isValid = true) {s nano : Nat}
    (hsh : t.shownSecond = (s, nano)) {pat : List TimeField} {rest : List Char} {acc : TimeFields}
    (hrest : ∀ c ∈ rest.head?, c.isDigit = false ∧ c ≠ '.' ∧ c.isWhitespace = false) :
    TimeFields.read (relaxedTimePattern ++ pat) (t.render.toList ++ rest) acc =
      TimeFields.read pat rest
        (if nano = 0 then { acc with hour := some t.hour, minute := some t.minute, second := some s }
        else { acc with
          hour := some t.hour, minute := some t.minute, second := some s, nano := some nano }) := by
  obtain ⟨hs, hn, -⟩ := ClockTime.shownSecond_spec ht
  rw [hsh] at hs hn
  dsimp only at hs hn
  have hvalid := ht
  simp only [ClockTime.isValid, decide_eq_true_eq] at hvalid
  obtain ⟨hh, hm, -, -⟩ := hvalid
  have hcolon : ∀ cs, ∀ c ∈ (':' :: cs).head?, c.isDigit = false := by
    intro cs c hc
    simp only [List.head?_cons, Option.mem_def, Option.some.injEq] at hc
    rw [← hc]
    rfl
  have hcolon' := TimeFields.isWhitespace_head_cons (c := ':') rfl
  have hfrac : ∀ c ∈ ((fractionText nano).toList ++ rest).head?, c.isDigit = false := by
    intro c hc
    cases hf : (fractionText nano).toList with
    | nil =>
      rw [hf, List.nil_append] at hc
      exact (hrest c hc).1
    | cons d ds =>
      rw [hf, List.cons_append] at hc
      exact fractionText_head nano c (by rw [hf]; exact hc)
  unfold ClockTime.render
  simp only [hsh, String.toList_append, show ":".toList = [':'] from rfl, List.append_assoc,
    List.cons_append, List.nil_append, relaxedTimePattern]
  rw [TimeFields.read_hour hh (hcolon _), TimeFields.read_blank (hcolon' _), TimeFields.read_literal,
    TimeFields.read_minute hm (hcolon _), TimeFields.read_blank (hcolon' _),
    TimeFields.read_literal, TimeFields.read_second hs hfrac,
    TimeFields.read_fraction_fractionText hn fun c hc => ⟨(hrest c hc).1, (hrest c hc).2.1⟩,
    TimeFields.read_blank fun c hc => (hrest c hc).2.2]

theorem time?_of_relaxed {t : ClockTime} (ht : t.isValid = true) {s nano : Nat}
    (hsh : t.shownSecond = (s, nano)) {acc : TimeFields} (hacc : acc.nano = none) :
    TimeFields.time? (if nano = 0 then { acc with
        hour := some t.hour, minute := some t.minute, second := some s }
      else { acc with
        hour := some t.hour, minute := some t.minute, second := some s, nano := some nano }) =
      some t := by
  refine ClockTime.time?_of_shown ht hsh (by split <;> rfl) (by split <;> rfl) (by split <;> rfl) ?_
  split
  · next h0 => simp [hacc, h0]
  · rfl

theorem read_relaxedTime_render {t : ClockTime} (ht : t.isValid = true) :
    (TimeFields.read relaxedTimePattern t.render.toList {}).bind TimeFields.time? = some t := by
  rcases hsh : t.shownSecond with ⟨s, nano⟩
  rw [← List.append_nil relaxedTimePattern, ← List.append_nil t.render.toList,
    read_relaxedTime_render_append ht hsh (by simp)]
  exact time?_of_relaxed ht hsh rfl

theorem Timestamp.parseRelaxed?_written {t : Timestamp}
    (hy : CivilDate.minYear ≤ t.date.year ∧ t.date.year ≤ CivilDate.maxYear)
    (hn : t.nanos < 1000000000 ∨ (t.seconds % 60 = 59 ∧ t.nanos < 2000000000)) (zone : List Char)
    (hzone : TimeFields.zoneOffset zone = some (0, []))
    (hhead : ∀ c ∈ zone.head?, c.isDigit = false ∧ c ≠ '.' ∧ c.isWhitespace = false) :
    Timestamp.parseRelaxed? (t.date.render ++ "T" ++ t.time.render ++ String.ofList zone) =
      some t := by
  have hd : CivilDate.isValid t.date.year t.date.month t.date.day = true :=
    CivilDate.isValid_ofDays hy.1 hy.2
  have ht : t.time.isValid = true := Timestamp.time_isValid hn
  rcases hsh : t.time.shownSecond with ⟨s, nano⟩
  have htext : (t.date.render ++ "T" ++ t.time.render ++ String.ofList zone).toList =
      t.date.render.toList ++ 'T' :: (t.time.render.toList ++ zone) := by
    simp
  have hread : TimeFields.read relaxedInstantPattern
      (t.date.render.toList ++ 'T' :: (t.time.render.toList ++ zone)) {} =
        TimeFields.read (.oneOf ['T', 't', ' '] :: (relaxedTimePattern ++ [.zone, .blank]))
          ('T' :: (t.time.render.toList ++ zone))
          { year := some t.date.year, month := some t.date.month, day := some t.date.day } := by
    rw [relaxedInstantPattern, List.append_assoc, List.append_assoc, List.singleton_append,
      read_relaxedDate_render_append hd (by simp)]
  rw [TimeFields.read_oneOf (by simp), read_relaxedTime_render_append ht hsh hhead,
    TimeFields.read_zone hzone] at hread
  have hdate : ∀ f : TimeFields, f.year = some t.date.year → f.month = some t.date.month →
      f.day = some t.date.day → f.date? = some t.date := by
    intro f h1 h2 h3
    simp [TimeFields.date?, h1, h2, h3, CivilDate.ofYmd?, hd]
  obtain ⟨f, hf, hfd, hft, hfo⟩ : ∃ f, TimeFields.read relaxedInstantPattern
      (t.date.render.toList ++ 'T' :: (t.time.render.toList ++ zone)) {} = some f ∧ f.date? = some t.date ∧ f.time? = some t.time ∧ f.offset = some 0 :=
    ⟨_, hread, hdate _ (by split <;> rfl) (by split <;> rfl) (by split <;> rfl),
      time?_of_relaxed ht hsh rfl, rfl⟩
  have hback : Timestamp.ofLocal t.date t.time 0 = t := Timestamp.ofUtc_date_time t
  simp only [Timestamp.parseRelaxed?, htext, hf, hfd, hft, hfo, Option.bind_eq_bind,
    Option.bind_some, hback]
  rw [if_pos ⟨by decide, hy⟩]

/-- An instant of a supported UTC year is read back by the relaxed reader of instants from its
UTC text. -/
theorem Timestamp.parseRelaxed?_isoUtc {t : Timestamp}
    (hy : CivilDate.minYear ≤ t.date.year ∧ t.date.year ≤ CivilDate.maxYear)
    (hn : t.nanos < 1000000000 ∨ (t.seconds % 60 = 59 ∧ t.nanos < 2000000000)) :
    Timestamp.parseRelaxed? t.isoUtc = some t :=
  Timestamp.parseRelaxed?_written hy hn ['Z'] rfl (by simp)

theorem Timestamp.parseRelaxed?_rfc3339 {t : Timestamp}
    (hy : CivilDate.minYear ≤ t.date.year ∧ t.date.year ≤ CivilDate.maxYear)
    (hn : t.nanos < 1000000000 ∨ (t.seconds % 60 = 59 ∧ t.nanos < 2000000000)) :
    Timestamp.parseRelaxed? t.rfc3339 = some t := by
  have h := Timestamp.parseRelaxed?_written hy hn "+00:00".toList rfl (by simp)
  rwa [String.ofList_toList] at h

namespace Value

mutual

/-- Whether a value is within what the tagged form reads back for its kind: an integer of 64
signed bits, a finite float, a UUID of sixteen bytes, a valid date and time of day, an instant
of a supported UTC year whose nanoseconds reach a second only on a leap second, and
arrays of such values. -/
def inTaggedRange : Value → Bool
  | .int n => decide (Json.i64Min ≤ n ∧ n ≤ Json.i64Max)
  | .float x => Decimal.isFinite x
  | .uuid u => u.bytes.length == 16
  | .timestamp t => decide (CivilDate.minYear ≤ t.date.year ∧ t.date.year ≤ CivilDate.maxYear) &&
      decide (t.nanos < 1000000000 ∨ (t.seconds % 60 = 59 ∧ t.nanos < 2000000000))
  | .date d => CivilDate.isValid d.year d.month d.day
  | .time t => t.isValid
  | .array items => inTaggedRangeItems items
  | .null | .bool _ | .text _ | .bytes _ | .json _ => true

def inTaggedRangeItems : List Value → Bool
  | [] => true
  | v :: vs => inTaggedRange v && inTaggedRangeItems vs

end

/-! ## The kinds whose content is text -/

theorem readInstant_isoUtc {t : Timestamp}
    (hy : CivilDate.minYear ≤ t.date.year ∧ t.date.year ≤ CivilDate.maxYear)
    (hn : t.nanos < 1000000000 ∨ (t.seconds % 60 = 59 ∧ t.nanos < 2000000000)) :
    readInstant t.isoUtc = .ok t := by
  simp only [readInstant, Timestamp.parseRelaxed?_isoUtc hy hn]

theorem mapItems_expectU8 (bs : List UInt8) :
    Json.mapItems Json.expectU8 (bs.map fun b => .int b.toNat) = .ok bs := by
  refine Json.mapItems_map fun b _ => ?_
  have hb := UInt8.toNat_lt b
  simp only [Json.expectU8, Int.toNat_natCast]
  rw [if_pos (by omega)]
  simp

/-! ## The tagged form and its reader -/

theorem ofFields_type_value (kind content : Json) :
    Json.ofFields [("type", kind), ("value", content)] = .obj [("type", kind), ("value", content)] := by
  have hlt : ¬ ("value" < "type") := by decide
  simp [Json.ofFields, Json.insertField, hlt]

theorem length_render_toTagged_lt {x : Value} {items : List Value} (hx : x ∈ items) :
    (toTagged x).render.length + 2 < (toTagged (.array items)).render.length := by
  have hitem := Json.length_render_le_renderItems (List.mem_map_of_mem (f := toTagged) hx)
  simp only [toTagged, ofFields_type_value, Json.render, Json.renderFields, String.length_append]
  have hopen : "[".length = 1 := rfl
  have hclose : "]".length = 1 := rfl
  have hbrace : "\x7b".length = 1 := rfl
  omega

theorem go_kind_content (n : Nat) {k : String} (c : Json) (hk : k ∈ kindNames)
    (hnull : k ≠ "null") (harray : k ≠ "array") :
    ofTagged.go (n + 1) (Json.ofFields [("type", .str k), ("value", c)]) = contentOf k c := by
  simp [ofFields_type_value, ofTagged.go, Json.findField?, hk, hnull, harray]

mutual

theorem go_toTagged : ∀ (v : Value) (n : Nat), v.inTaggedRange = true →
    (toTagged v).render.length < n → ofTagged.go n (toTagged v) = .ok v
  | _, 0, _, hn => absurd hn (Nat.not_lt_zero _)
  | .null, n + 1, _, _ => by
    simp [toTagged, Json.ofFields, Json.insertField, ofTagged.go, Json.findField?, kindNames]
  | .array items, n + 1, h, hn => by
    have hitems := mapItems_go_toTagged items n h fun x hx => by
      have := length_render_toTagged_lt hx
      omega
    simp [toTagged, ofFields_type_value, ofTagged.go, Json.findField?, kindNames, Json.expectArr,
      bind, Except.bind, hitems, Functor.map, Except.map]
  | .bool b, n + 1, _, _ => by
    rw [toTagged, go_kind_content n _ (by decide) (by decide) (by decide)]
    rfl
  | .int i, n + 1, h, _ => by
    simp only [inTaggedRange, decide_eq_true_eq] at h
    rw [toTagged, go_kind_content n _ (by decide) (by decide) (by decide)]
    simp [contentOf, Json.expectI64, h, Functor.map, Except.map]
  | .float x, n + 1, h, _ => by
    simp only [inTaggedRange] at h
    rw [toTagged, go_kind_content n _ (by decide) (by decide) (by decide)]
    simp [contentOf, floatJson, h, Json.expectF64, Functor.map, Except.map]
  | .text s, n + 1, _, _ => by
    rw [toTagged, go_kind_content n _ (by decide) (by decide) (by decide)]
    simp [contentOf, Json.expectStr, Functor.map, Except.map]
  | .bytes bs, n + 1, _, _ => by
    rw [toTagged, go_kind_content n _ (by decide) (by decide) (by decide)]
    simp [contentOf, Json.expectArr, mapItems_expectU8, bind, Except.bind, Functor.map, Except.map]
  | .uuid u, n + 1, h, _ => by
    simp only [inTaggedRange, beq_iff_eq] at h
    rw [toTagged, go_kind_content n _ (by decide) (by decide) (by decide)]
    simp [contentOf, Uuid.parse_hyphenated h]
  | .timestamp t, n + 1, h, _ => by
    simp only [inTaggedRange, Bool.and_eq_true, decide_eq_true_eq] at h
    rw [toTagged, go_kind_content n _ (by decide) (by decide) (by decide)]
    simp [contentOf, readInstant_isoUtc h.1 h.2, Functor.map, Except.map]
  | .date d, n + 1, h, _ => by
    simp only [inTaggedRange] at h
    rw [toTagged, go_kind_content n _ (by decide) (by decide) (by decide)]
    simp [contentOf, read_relaxedDate_render h]
  | .time t, n + 1, h, _ => by
    simp only [inTaggedRange] at h
    rw [toTagged, go_kind_content n _ (by decide) (by decide) (by decide)]
    simp [contentOf, read_relaxedTime_render h]
  | .json j, n + 1, _, _ => by
    rw [toTagged, go_kind_content n _ (by decide) (by decide) (by decide)]
    simp [contentOf]

theorem mapItems_go_toTagged : ∀ (items : List Value) (n : Nat), inTaggedRangeItems items = true →
    (∀ x ∈ items, (toTagged x).render.length < n) →
      Json.mapItems (ofTagged.go n) (items.map toTagged) = .ok items
  | [], _, _, _ => rfl
  | x :: xs, n, h, hlen => by
    simp only [inTaggedRangeItems, Bool.and_eq_true] at h
    have hx := go_toTagged x n h.1 (hlen x List.mem_cons_self)
    have hxs := mapItems_go_toTagged xs n h.2 fun y hy => hlen y (List.mem_cons_of_mem x hy)
    simp only [List.map_cons, Json.mapItems, hx, hxs]
    rfl

end

theorem ofTagged_toTagged {v : Value} (h : v.inTaggedRange = true) : ofTagged (toTagged v) = .ok v :=
  go_toTagged v _ h (Nat.lt_succ_self _)

end Value

end EntitySql
