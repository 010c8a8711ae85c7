import Mathlib
import EntitySql.Hydration.Entities
import EntitySql.Proofs.Value.TaggedReadBack

/-!
# Rows grouped into entities

The entities of an alias are read from rows grouped by the alias's primary key, and the groups are
told apart by a text: the texts of the key values joined by `|`, the character 0 standing for a
null or missing value.

Pushing each row under its key text groups the rows by key text (`foldl_pushAt_eq_keyedGroups`).
Grouping by key text is grouping by key values when the texts tell the values apart: when each key
column holds values of one kind (`SeparableKeys`): integers, texts with neither `|` nor the
character 0, booleans, or UUIDs, dates and instants as the library writes them. A written UUID,
date or instant is quoted as it is and read back from its text (`KeyKind.keyText_inj`). The parts
of a key text then split back at `|` (`keyText_inj`), and `groups_eq_keyGroups` follows.
With it, `entities_one_per_key` reads one entity per distinct key tuple, in order of first
occurrence, each from its own group. Texts holding `|` break this: two tenants with distinct
composite keys share one key text and are read as one (`entities_merge_keys_with_separator`).
-/

namespace EntitySql

namespace Hydration

/-! ## Grouping under text keys -/

section TextKeys

variable {α : Type} (κ : α → Option String)

/-- Items grouped under their text keys: the keys in order of first occurrence, each with the
items that have it, in order. -/
def keyedGroups (l : List α) : List (String × List α) :=
  (l.filterMap κ).eraseDups.map fun k => (k, l.filter (κ · == some k))

theorem keyedGroups_append_none (l : List α) {a : α} (ha : κ a = none) :
    keyedGroups κ (l ++ [a]) = keyedGroups κ l := by
  unfold keyedGroups
  simp [List.filterMap_append, ha, List.filter_append]

theorem filterMap_snoc_eraseDups (l : List α) {a : α} {k : String} (ha : κ a = some k) :
    ((l ++ [a]).filterMap κ).eraseDups =
      (l.filterMap κ).eraseDups ++ if k ∈ l.filterMap κ then [] else [k] := by
  have hfm : (l ++ [a]).filterMap κ = l.filterMap κ ++ [k] := by simp [ha]
  rw [hfm, List.eraseDups_append]
  by_cases hk : k ∈ l.filterMap κ
  · simp only [hk, List.removeAll, List.filter_cons, List.elem_eq_mem, decide_true, Bool.not_true,
      Bool.false_eq_true, if_false, if_pos, List.filter_nil, List.eraseDups_nil]
  · simp only [hk, List.removeAll, List.filter_cons, List.elem_eq_mem, decide_false, Bool.not_false,
      if_true, if_false, List.filter_nil, List.eraseDups_cons, List.eraseDups_nil]

theorem pushAt_keyedGroups (l : List α) {a : α} {k : String} (ha : κ a = some k) :
    pushAt (keyedGroups κ l) k a = keyedGroups κ (l ++ [a]) := by
  have hany : (keyedGroups κ l).any (·.1 = k) = decide (k ∈ l.filterMap κ) := by
    have hkeys : (keyedGroups κ l).map (·.1) = (l.filterMap κ).eraseDups := by
      simp [keyedGroups, Function.comp_def]
    rw [Bool.eq_iff_iff, List.any_eq_true, decide_eq_true_iff, ← List.mem_eraseDups, ← hkeys]
    simp
  have hsnoc : ∀ k' : String, (l ++ [a]).filter (κ · == some k') =
      l.filter (κ · == some k') ++ if k = k' then [a] else [] := by
    intro k'
    by_cases h : k = k' <;> simp [List.filter_append, ha, h]
  unfold pushAt keyedGroups
  rw [filterMap_snoc_eraseDups κ l ha]
  by_cases hk : k ∈ l.filterMap κ
  · -- a known key: every group keeps its place and the item joins the one under `k`
    rw [← keyedGroups, hany, decide_eq_true hk, if_pos rfl, if_pos hk, List.append_nil, keyedGroups,
      List.map_map]
    refine List.map_congr_left fun k' _ => ?_
    by_cases h : k' = k
    · subst h
      simp [hsnoc]
    · simp [hsnoc, h, Ne.symm h]
  · -- a new key: its group, of the item alone, comes last
    rw [← keyedGroups, hany, decide_eq_false hk, if_neg Bool.false_ne_true, if_neg hk, keyedGroups,
      List.map_append]
    have hnone : l.filter (κ · == some k) = [] := by
      rw [List.filter_eq_nil_iff]
      intro x hx hkx
      exact hk (List.mem_filterMap.mpr ⟨x, hx, by simpa using hkx⟩)
    congr 1
    · refine List.map_congr_left fun k' hk' => ?_
      have hne : k ≠ k' := fun h => hk (List.mem_eraseDups.mp (h ▸ hk'))
      simp [hsnoc, hne]
    · simp [hsnoc, hnone]

/-- Folding the items in, each pushed under its key and one without a key left out, groups them
under their keys. -/
theorem foldl_pushAt_eq_keyedGroups (l : List α) :
    l.foldl (fun gs a => match κ a with
      | some k => pushAt gs k a
      | none => gs) [] = keyedGroups κ l := by
  induction l using List.reverseRecOn with
  | nil => rfl
  | append_singleton l a ih =>
    rw [List.foldl_append, ih, List.foldl_cons, List.foldl_nil]
    cases ha : κ a with
    | none => exact (keyedGroups_append_none κ l ha).symm
    | some k => exact pushAt_keyedGroups κ l ha

end TextKeys

/-! ## Dropping duplicates through a map -/

section EraseDups

variable {α β : Type} [BEq α] [BEq β]

theorem mem_of_mem_eraseDups : ∀ {l : List α} {a : α}, a ∈ l.eraseDups → a ∈ l
  | [], _, h => h
  | b :: t, a, h => by
    rw [List.eraseDups_cons, List.mem_cons] at h
    rcases h with rfl | h
    · exact List.mem_cons_self
    · exact List.mem_cons_of_mem b (List.mem_of_mem_filter (mem_of_mem_eraseDups h))
termination_by l => l.length
decreasing_by exact Nat.lt_succ_of_le (List.length_filter_le _ _)

theorem eraseDups_map_of_beq (f : α → β) :
    ∀ l : List α, (∀ a ∈ l, ∀ b ∈ l, (f a == f b) = (a == b)) →
      (l.map f).eraseDups = l.eraseDups.map f
  | [], _ => rfl
  | a :: t, h => by
    have hfilter : (t.map f).filter (fun y => !y == f a) = (t.filter fun b => !b == a).map f := by
      rw [List.filter_map]
      congr 1
      refine List.filter_congr fun x hx => ?_
      simp only [Function.comp, h x (List.mem_cons_of_mem a hx) a List.mem_cons_self]
    have hrest : ∀ x ∈ t.filter (fun b => !b == a), ∀ y ∈ t.filter (fun b => !b == a),
        (f x == f y) = (x == y) := fun x hx y hy =>
      h x (List.mem_cons_of_mem a (List.mem_of_mem_filter hx))
        y (List.mem_cons_of_mem a (List.mem_of_mem_filter hy))
    rw [List.map_cons, List.eraseDups_cons, List.eraseDups_cons, List.map_cons, hfilter,
      eraseDups_map_of_beq f _ hrest]
termination_by l => l.length
decreasing_by exact Nat.lt_succ_of_le (List.length_filter_le _ _)

end EraseDups

/-! ## Runs that cannot fail -/

section Except

variable {ε σ α β : Type}

theorem foldlM_except_ne_error (f : σ → α → Except ε σ) {e : ε} :
    ∀ (l : List α) (s : σ), (∀ s, ∀ a ∈ l, ∃ s', f s a = .ok s') → l.foldlM f s ≠ .error e
  | [], _, _ => by simp [pure, Except.pure]
  | a :: t, s, h => by
    obtain ⟨s₁, h₁⟩ := h s a List.mem_cons_self
    rw [List.foldlM_cons, h₁]
    exact foldlM_except_ne_error f t s₁ fun s b hb => h s b (List.mem_cons_of_mem a hb)

theorem mapM_except_ok (f : α → Except ε β) :
    ∀ l : List α, (∀ a ∈ l, ∃ b, f a = .ok b) →
      ∃ bs, l.mapM f = .ok bs ∧ List.Forall₂ (fun a b => f a = .ok b) l bs
  | [], _ => ⟨[], rfl, .nil⟩
  | a :: t, h => by
    obtain ⟨b, hb⟩ := h a List.mem_cons_self
    obtain ⟨bs, hbs, hall⟩ := mapM_except_ok f t fun x hx => h x (List.mem_cons_of_mem a hx)
    exact ⟨b :: bs, by rw [List.mapM_cons, hb, hbs]; rfl, .cons hb hall⟩

theorem forall₂_filterMap_id {r : α → Option β → Prop} {l : List α} {os : List (Option β)}
    (h : List.Forall₂ r l os) (hsome : ∀ a ∈ l, ∀ o, r a o → o.isSome) :
    List.Forall₂ (fun a b => r a (some b)) l (os.filterMap id) := by
  induction h with
  | nil => exact .nil
  | @cons a o l os hao _ ih =>
    obtain ⟨b, rfl⟩ := Option.isSome_iff_exists.mp (hsome a List.mem_cons_self o hao)
    exact .cons hao (ih fun x hx => hsome x (List.mem_cons_of_mem a hx))

end Except

/-! ## Key values and their texts -/

def keyCell (d : Dialect) (row : Row) (aliasName column : String) : Option Value :=
  (row.get? (d.buildColumnAlias aliasName column)).filter (!·.isNull)

def keyTuple (d : Dialect) (row : Row) (aliasName : String) (columns : List String) :
    List (Option Value) :=
  columns.map (keyCell d row aliasName)

def cellText : Option Value → String
  | some v => v.keyText
  | none => nullKeyPart

@[simp] theorem keyText_int (n : Int) : (Value.int n).keyText = toString n := by
  simp [Value.keyText, Value.toJson, Json.render]

theorem rowKey_eq_keyTuple (d : Dialect) (row : Row) (aliasName : String) (columns : List String) :
    rowKey d row aliasName columns =
      if (keyTuple d row aliasName columns).any Option.isSome then
        some ("|".intercalate ((keyTuple d row aliasName columns).map cellText))
      else none := by
  have hall : ((columns.map fun c => row.get? (d.buildColumnAlias aliasName c)).all
      fun v => v.all Value.isNull) = !(keyTuple d row aliasName columns).any Option.isSome := by
    rw [Bool.eq_iff_iff]
    simp only [List.all_map, List.all_eq_true, Function.comp, keyTuple, List.any_map,
      Bool.not_eq_true', List.any_eq_false]
    refine forall₂_congr fun c _ => ?_
    cases hv : row.get? (d.buildColumnAlias aliasName c) with
    | none => simp [keyCell, hv]
    | some v => cases v <;> simp [keyCell, hv, Value.isNull]
  unfold rowKey keyOf
  rw [hall]
  cases (keyTuple d row aliasName columns).any Option.isSome
  · rfl
  · simp only [Bool.not_true, Bool.false_eq_true, ↓reduceIte, keyTuple, List.map_map,
      Option.some.injEq]
    congr 1
    refine List.map_congr_left fun c _ => ?_
    simp only [Function.comp, keyCell]
    cases row.get? (d.buildColumnAlias aliasName c) with
    | none => rfl
    | some v => cases v <;> rfl

/-! ## Integer texts -/

theorem toList_toString_ofNat (m : Nat) : (toString (Int.ofNat m)).toList = Nat.toDigits 10 m :=
  Nat.toList_repr

theorem toList_toString_negSucc (m : Nat) :
    (toString (Int.negSucc m)).toList = '-' :: Nat.toDigits 10 (m + 1) := by
  show ("-" ++ (m + 1).repr).toList = _
  rw [String.toList_append, Nat.toList_repr]
  rfl

theorem toDigits_ten_injective : Function.Injective (Nat.toDigits 10) := fun m₁ m₂ h => by
  rw [← Nat.ofDigitChars_ten_toDigits (n := m₁), h, Nat.ofDigitChars_ten_toDigits]

theorem minus_not_mem_toDigits (m : Nat) : '-' ∉ Nat.toDigits 10 m := fun h =>
  absurd (Nat.isDigit_of_mem_toDigits (by decide) (by decide) h) (by decide)

theorem intText_chars (n : Int) {c : Char} (hc : c ∈ (toString n).toList) :
    c = '-' ∨ c.isDigit = true := by
  cases n with
  | ofNat m =>
    rw [toList_toString_ofNat] at hc
    exact .inr (Nat.isDigit_of_mem_toDigits (by decide) (by decide) hc)
  | negSucc m =>
    rw [toList_toString_negSucc, List.mem_cons] at hc
    exact hc.imp id fun h => Nat.isDigit_of_mem_toDigits (by decide) (by decide) h

theorem intText_injective : Function.Injective fun n : Int => toString n := by
  intro n₁ n₂ h
  have h' : (toString n₁).toList = (toString n₂).toList := congrArg String.toList h
  cases n₁ with
  | ofNat m₁ =>
    cases n₂ with
    | ofNat m₂ =>
      rw [toList_toString_ofNat, toList_toString_ofNat] at h'
      rw [toDigits_ten_injective h']
    | negSucc m₂ =>
      rw [toList_toString_ofNat, toList_toString_negSucc] at h'
      exact absurd (h' ▸ List.mem_cons_self) (minus_not_mem_toDigits m₁)
  | negSucc m₁ =>
    cases n₂ with
    | ofNat m₂ =>
      rw [toList_toString_ofNat, toList_toString_negSucc] at h'
      exact absurd (h' ▸ List.mem_cons_self) (minus_not_mem_toDigits m₂)
    | negSucc m₂ =>
      rw [toList_toString_negSucc, toList_toString_negSucc, List.cons.injEq] at h'
      have hm : m₁ + 1 = m₂ + 1 := toDigits_ten_injective h'.2
      rw [Nat.add_right_cancel hm]

/-! ## Written values as key texts -/

/-- The characters a written UUID, date or instant is made of lie from `+` to `f`, the backslash
apart: a JSON string writes them as they are, and neither `|` nor the character 0 is among them. -/
def plainKeyChar (c : Char) : Bool := 43 ≤ c.toNat && c.toNat ≤ 102 && c != '\\'

section PlainText

variable {c : Char} {s t : String}

theorem plainKeyChar_of_isDigit (h : c.isDigit = true) : plainKeyChar c = true := by
  have hd := h
  simp only [Char.isDigit_iff_toNat, Char.reduceToNat] at hd
  have hne : c ≠ '\\' := by
    rintro rfl
    exact absurd h (by decide)
  simp only [plainKeyChar, Bool.and_eq_true, decide_eq_true_eq, bne_iff_ne, ne_eq, hne,
    not_false_eq_true, and_true]
  omega

theorem escapeChar_of_plain (h : plainKeyChar c = true) : Json.escapeChar c = [c] := by
  simp only [plainKeyChar, Bool.and_eq_true, decide_eq_true_eq, bne_iff_ne, ne_eq] at h
  obtain ⟨⟨hlo, -⟩, hbs⟩ := h
  have hlow : ∀ x : Char, x.toNat < 43 → c ≠ x := by
    rintro x hx rfl
    omega
  simp only [Json.escapeChar, hlow '"' (by decide), hbs, hlow '\n' (by decide),
    hlow '\r' (by decide), hlow '\t' (by decide), if_false,
    show c.toNat ≠ 8 by omega, show c.toNat ≠ 12 by omega, show ¬ c.toNat < 32 by omega]

theorem quote_toList_of_plain (h : ∀ c ∈ s.toList, plainKeyChar c = true) :
    (Json.quote s).toList = '"' :: (s.toList ++ ['"']) := by
  have hflat : s.toList.flatMap Json.escapeChar = s.toList := by
    rw [List.flatMap_congr fun c hc => escapeChar_of_plain (h c hc)]
    simp
  simp [Json.quote, hflat]

theorem sep_not_mem_quote (h : ∀ c ∈ s.toList, plainKeyChar c = true) :
    '|' ∉ (Json.quote s).toList := by
  rw [quote_toList_of_plain h]
  intro hm
  simp only [List.mem_cons, List.mem_append] at hm
  rcases hm with hq | hs | hq
  · exact absurd hq (by decide)
  · exact absurd (h _ hs) (by decide)
  · exact absurd hq (by decide)

theorem quote_ne_nullKeyPart (s : String) : Json.quote s ≠ nullKeyPart := by
  intro hq
  have hhead := congrArg (fun t : String => t.toList.head?) hq
  simp [Json.quote, nullKeyPart] at hhead

theorem quote_inj_of_plain (hs : ∀ c ∈ s.toList, plainKeyChar c = true)
    (ht : ∀ c ∈ t.toList, plainKeyChar c = true) (h : Json.quote s = Json.quote t) : s = t := by
  have hl := congrArg String.toList h
  rw [quote_toList_of_plain hs, quote_toList_of_plain ht, List.cons.injEq,
    List.append_cancel_right_eq] at hl
  exact String.toList_injective hl.2

theorem plain_padNat (w n : Nat) : ∀ c ∈ (padNat w n).toList, plainKeyChar c = true :=
  fun _ hc => plainKeyChar_of_isDigit (isDigit_of_mem_padNat hc)

theorem plain_yearText (y : Int) : ∀ c ∈ (yearText y).toList, plainKeyChar c = true := by
  intro c hc
  unfold yearText at hc
  split_ifs at hc with h0 hneg
  · exact plain_padNat _ _ c hc
  all_goals
    rw [String.toList_append, List.mem_append] at hc
    rcases hc with hc | hc
    · simp only [show "-".toList = ['-'] from rfl, show "+".toList = ['+'] from rfl,
        List.mem_singleton] at hc
      subst hc
      decide
    · exact plain_padNat _ _ c hc

theorem plain_render_date (d : CivilDate) : ∀ c ∈ d.render.toList, plainKeyChar c = true := by
  intro c hc
  simp only [CivilDate.render, String.toList_append, show "-".toList = ['-'] from rfl,
    List.mem_append, List.mem_singleton] at hc
  rcases hc with (((hc | rfl) | hc) | rfl) | hc
  · exact plain_yearText _ c hc
  · decide
  · exact plain_padNat _ _ c hc
  · decide
  · exact plain_padNat _ _ c hc

theorem plain_fractionText (nano : Nat) : ∀ c ∈ (fractionText nano).toList, plainKeyChar c = true := by
  intro c hc
  unfold fractionText at hc
  split_ifs at hc
  · simp at hc
  all_goals
    rw [String.toList_append, List.mem_append, show ".".toList = ['.'] from rfl,
      List.mem_singleton] at hc
    rcases hc with rfl | hc
    · decide
    · exact plain_padNat _ _ c hc

theorem plain_render_time (t : ClockTime) : ∀ c ∈ t.render.toList, plainKeyChar c = true := by
  intro c hc
  simp only [ClockTime.render, String.toList_append, show ":".toList = [':'] from rfl,
    List.mem_append, List.mem_singleton] at hc
  rcases hc with ((((hc | rfl) | hc) | rfl) | hc) | hc
  · exact plain_padNat _ _ c hc
  · decide
  · exact plain_padNat _ _ c hc
  · decide
  · exact plain_padNat _ _ c hc
  · exact plain_fractionText _ c hc

theorem plain_rfc3339 (t : Timestamp) : ∀ c ∈ t.rfc3339.toList, plainKeyChar c = true := by
  intro c hc
  simp only [Timestamp.rfc3339, String.toList_append, show "T".toList = ['T'] from rfl,
    List.mem_append, List.mem_singleton] at hc
  rcases hc with ((hc | rfl) | hc) | hc
  · exact plain_render_date _ c hc
  · decide
  · exact plain_render_time _ c hc
  · simp at hc
    rcases hc with rfl | rfl | rfl | rfl <;> decide

theorem plain_hexDigit : ∀ n, n < 16 → plainKeyChar (Uuid.hexDigit n) = true
  | 0, _ | 1, _ | 2, _ | 3, _ | 4, _ | 5, _ | 6, _ | 7, _ | 8, _ | 9, _ | 10, _ | 11, _ | 12, _
  | 13, _ | 14, _ | 15, _ => by decide
  | _ + 16, h => absurd h (by omega)

theorem plain_flatMap_hexPair (bs : List UInt8) :
    ∀ c ∈ bs.flatMap Uuid.hexPair, plainKeyChar c = true := by
  intro c hc
  obtain ⟨b, -, hb⟩ := List.mem_flatMap.mp hc
  have hlt := b.toNat_lt
  simp only [Uuid.hexPair, List.mem_cons, List.not_mem_nil, or_false] at hb
  rcases hb with rfl | rfl
  · exact plain_hexDigit _ (by omega)
  · exact plain_hexDigit _ (by omega)

theorem plain_hyphenated (u : Uuid) : ∀ c ∈ u.hyphenated.toList, plainKeyChar c = true := by
  intro c hc
  rw [Uuid.toList_hyphenated] at hc
  simp only [List.mem_append, List.mem_cons] at hc
  rcases hc with hc | rfl | hc | rfl | hc | rfl | hc | rfl | hc
  all_goals first
    | decide
    | exact plain_flatMap_hexPair _ c hc

end PlainText

@[simp] theorem keyText_bool (b : Bool) : (Value.bool b).keyText = if b then "true" else "false" := by
  simp [Value.keyText, Value.toJson, Json.render]

@[simp] theorem keyText_uuid (u : Uuid) : (Value.uuid u).keyText = Json.quote u.hyphenated := by
  simp [Value.keyText, Value.toJson, Json.render]

@[simp] theorem keyText_date (d : CivilDate) : (Value.date d).keyText = Json.quote d.render := by
  simp [Value.keyText, Value.toJson, Json.render]

@[simp] theorem keyText_timestamp (t : Timestamp) :
    (Value.timestamp t).keyText = Json.quote t.rfc3339 := by
  simp [Value.keyText, Value.toJson, Json.render]

/-! ## Key columns whose texts tell their values apart -/

/-- What a key column holds: integers, texts with neither `|` nor the character 0 in them,
booleans, UUIDs of sixteen bytes, valid dates, or instants of a supported UTC year whose
nanoseconds reach a second only on a leap second. -/
inductive KeyKind
  | int
  | text
  | bool
  | uuid
  | date
  | timestamp

/-- The key values a kind of column holds; every column may miss a value or hold null. -/
def KeyKind.Holds : KeyKind → Option Value → Prop
  | _, none => True
  | .int, some v => ∃ n, v = .int n
  | .text, some v => ∃ s, v = .text s ∧ '|' ∉ s.toList ∧ '\x00' ∉ s.toList
  | .bool, some v => ∃ b, v = .bool b
  | .uuid, some v => ∃ u, v = .uuid u ∧ u.bytes.length = 16
  | .date, some v => ∃ d, v = .date d ∧ CivilDate.isValid d.year d.month d.day = true
  | .timestamp, some v => ∃ t, v = .timestamp t ∧
      (CivilDate.minYear ≤ t.date.year ∧ t.date.year ≤ CivilDate.maxYear) ∧
      (t.nanos < 1000000000 ∨ (t.seconds % 60 = 59 ∧ t.nanos < 2000000000))

def SeparableKeys (d : Dialect) (rows : List Row) (aliasName : String) (columns : List String) :
    Prop :=
  ∀ c ∈ columns, ∃ kind : KeyKind, ∀ row ∈ rows, kind.Holds (keyCell d row aliasName c)

namespace KeyKind

variable {kind : KeyKind} {x y : Option Value}

theorem sep_not_mem_cellText (hx : kind.Holds x) : '|' ∉ (cellText x).toList := by
  cases x with
  | none => decide
  | some v =>
    cases kind with
    | int =>
      obtain ⟨n, rfl⟩ := hx
      rw [cellText, keyText_int]
      intro h
      exact absurd (intText_chars n h) (by decide)
    | text =>
      obtain ⟨s, rfl, hs, -⟩ := hx
      exact hs
    | bool =>
      obtain ⟨b, rfl⟩ := hx
      rw [cellText, keyText_bool]
      cases b <;> simp
    | uuid =>
      obtain ⟨u, rfl, -⟩ := hx
      rw [cellText, keyText_uuid]
      exact sep_not_mem_quote (plain_hyphenated u)
    | date =>
      obtain ⟨d, rfl, -⟩ := hx
      rw [cellText, keyText_date]
      exact sep_not_mem_quote (plain_render_date d)
    | timestamp =>
      obtain ⟨t, rfl, -⟩ := hx
      rw [cellText, keyText_timestamp]
      exact sep_not_mem_quote (plain_rfc3339 t)

theorem keyText_ne_nullKeyPart {z : Value} (hz : kind.Holds (some z)) : z.keyText ≠ nullKeyPart := by
  cases kind with
  | int =>
    obtain ⟨n, rfl⟩ := hz
    intro hzt
    have hc : '\x00' ∈ (toString n).toList := by
      rw [← keyText_int, hzt]
      decide
    exact absurd (intText_chars n hc) (by decide)
  | text =>
    obtain ⟨s, rfl, -, hs⟩ := hz
    intro hzt
    exact hs (by rw [show s = nullKeyPart from hzt]; decide)
  | bool =>
    obtain ⟨b, rfl⟩ := hz
    rw [keyText_bool, nullKeyPart]
    cases b <;> simp
  | uuid =>
    obtain ⟨u, rfl, -⟩ := hz
    rw [keyText_uuid]
    exact quote_ne_nullKeyPart _
  | date =>
    obtain ⟨d, rfl, -⟩ := hz
    rw [keyText_date]
    exact quote_ne_nullKeyPart _
  | timestamp =>
    obtain ⟨t, rfl, -⟩ := hz
    rw [keyText_timestamp]
    exact quote_ne_nullKeyPart _

/-- Within a kind, the text of a value tells the value: the texts of integers, of booleans and of
held texts are distinct, and a written UUID, date or instant is read back from its text. -/
theorem keyText_inj {v w : Value} (hv : kind.Holds (some v)) (hw : kind.Holds (some w))
    (h : v.keyText = w.keyText) : v = w := by
  cases kind with
  | int =>
    obtain ⟨n, rfl⟩ := hv
    obtain ⟨m, rfl⟩ := hw
    rw [keyText_int, keyText_int] at h
    rw [intText_injective h]
  | text =>
    obtain ⟨s, rfl, -⟩ := hv
    obtain ⟨t, rfl, -⟩ := hw
    rw [show s = t from h]
  | bool =>
    obtain ⟨a, rfl⟩ := hv
    obtain ⟨b, rfl⟩ := hw
    rw [keyText_bool, keyText_bool] at h
    cases a <;> cases b <;> first | rfl | simp at h
  | uuid =>
    obtain ⟨u, rfl, hu⟩ := hv
    obtain ⟨u', rfl, hu'⟩ := hw
    rw [keyText_uuid, keyText_uuid] at h
    have hp := congrArg Uuid.parse (quote_inj_of_plain (plain_hyphenated u) (plain_hyphenated u') h)
    rw [Uuid.parse_hyphenated hu, Uuid.parse_hyphenated hu', Except.ok.injEq] at hp
    rw [hp]
  | date =>
    obtain ⟨d, rfl, hd⟩ := hv
    obtain ⟨d', rfl, hd'⟩ := hw
    rw [keyText_date, keyText_date] at h
    have hp := congrArg CivilDate.parse?
      (quote_inj_of_plain (plain_render_date d) (plain_render_date d') h)
    rw [CivilDate.parse?_render hd, CivilDate.parse?_render hd', Option.some.injEq] at hp
    rw [hp]
  | timestamp =>
    obtain ⟨t, rfl, hy, hn⟩ := hv
    obtain ⟨t', rfl, hy', hn'⟩ := hw
    rw [keyText_timestamp, keyText_timestamp] at h
    have hp := congrArg Timestamp.parseRelaxed?
      (quote_inj_of_plain (plain_rfc3339 t) (plain_rfc3339 t') h)
    rw [Timestamp.parseRelaxed?_rfc3339 hy hn, Timestamp.parseRelaxed?_rfc3339 hy' hn',
      Option.some.injEq] at hp
    rw [hp]

theorem cellText_inj (hx : kind.Holds x) (hy : kind.Holds y) (h : cellText x = cellText y) :
    x = y := by
  cases x with
  | none =>
    cases y with
    | none => rfl
    | some w => exact absurd h.symm (keyText_ne_nullKeyPart hy)
  | some v =>
    cases y with
    | none => exact absurd h (keyText_ne_nullKeyPart hx)
    | some w => rw [keyText_inj hx hy h]

theorem beq_iff (hx : kind.Holds x) (hy : kind.Holds y) : (x == y) = true ↔ x = y := by
  cases x with
  | none => cases y <;> simp
  | some v =>
    cases y with
    | none => simp
    | some w =>
      cases kind with
      | int =>
        obtain ⟨n, rfl⟩ := hx
        obtain ⟨m, rfl⟩ := hy
        show (n == m) = true ↔ _
        simp
      | text =>
        obtain ⟨s, rfl, -⟩ := hx
        obtain ⟨t, rfl, -⟩ := hy
        show (s == t) = true ↔ _
        simp
      | bool =>
        obtain ⟨a, rfl⟩ := hx
        obtain ⟨b, rfl⟩ := hy
        show (a == b) = true ↔ _
        simp
      | uuid =>
        obtain ⟨u, rfl, -⟩ := hx
        obtain ⟨u', rfl, -⟩ := hy
        show (u == u') = true ↔ _
        simp
      | date =>
        obtain ⟨d, rfl, -⟩ := hx
        obtain ⟨d', rfl, -⟩ := hy
        show (d == d') = true ↔ _
        simp
      | timestamp =>
        obtain ⟨t, rfl, -⟩ := hx
        obtain ⟨t', rfl, -⟩ := hy
        show (t == t') = true ↔ _
        simp

end KeyKind

/-! ## Key tuples and key texts -/

section Tuples

variable {d : Dialect} {rows : List Row} {aliasName : String} {columns : List String}
  {r₁ r₂ : Row}

theorem SeparableKeys.tail {c : String} (h : SeparableKeys d rows aliasName (c :: columns)) :
    SeparableKeys d rows aliasName columns :=
  fun c' hc' => h c' (List.mem_cons_of_mem c hc')

theorem keyTuple_beq_iff (hsep : SeparableKeys d rows aliasName columns) (h₁ : r₁ ∈ rows)
    (h₂ : r₂ ∈ rows) :
    (keyTuple d r₁ aliasName columns == keyTuple d r₂ aliasName columns) = true ↔
      keyTuple d r₁ aliasName columns = keyTuple d r₂ aliasName columns := by
  induction columns with
  | nil => simp [keyTuple]
  | cons c cs ih =>
    obtain ⟨kind, hkind⟩ := hsep c List.mem_cons_self
    simp only [keyTuple, List.map_cons, List.cons_beq_cons, Bool.and_eq_true, List.cons.injEq] at ih ⊢
    rw [KeyKind.beq_iff (hkind r₁ h₁) (hkind r₂ h₂), ih hsep.tail]

theorem map_cellText_inj (hsep : SeparableKeys d rows aliasName columns) (h₁ : r₁ ∈ rows)
    (h₂ : r₂ ∈ rows)
    (h : (keyTuple d r₁ aliasName columns).map cellText =
      (keyTuple d r₂ aliasName columns).map cellText) :
    keyTuple d r₁ aliasName columns = keyTuple d r₂ aliasName columns := by
  induction columns with
  | nil => rfl
  | cons c cs ih =>
    obtain ⟨kind, hkind⟩ := hsep c List.mem_cons_self
    simp only [keyTuple, List.map_cons, List.cons.injEq] at h ih ⊢
    exact ⟨KeyKind.cellText_inj (hkind r₁ h₁) (hkind r₂ h₂) h.1, ih hsep.tail h.2⟩

/-- Over separable key columns, two rows have the same key text only if they have the same key
values: the parts split back at `|`, and each part tells its value. -/
theorem keyText_inj (hsep : SeparableKeys d rows aliasName columns) (hcols : columns ≠ [])
    (h₁ : r₁ ∈ rows) (h₂ : r₂ ∈ rows)
    (h : "|".intercalate ((keyTuple d r₁ aliasName columns).map cellText) =
      "|".intercalate ((keyTuple d r₂ aliasName columns).map cellText)) :
    keyTuple d r₁ aliasName columns = keyTuple d r₂ aliasName columns := by
  have hsplit : ∀ r ∈ rows,
      ("|".intercalate ((keyTuple d r aliasName columns).map cellText)).toList.splitOn '|' =
        ((keyTuple d r aliasName columns).map cellText).map String.toList := by
    intro r hr
    have hparts : ∀ part ∈ ((keyTuple d r aliasName columns).map cellText).map String.toList,
        '|' ∉ part := by
      intro part hpart
      simp only [keyTuple, List.map_map, List.mem_map] at hpart
      obtain ⟨c, hc, rfl⟩ := hpart
      obtain ⟨kind, hkind⟩ := hsep c hc
      exact KeyKind.sep_not_mem_cellText (hkind r hr)
    have hne : ((keyTuple d r aliasName columns).map cellText).map String.toList ≠ [] := by
      simpa [keyTuple] using hcols
    rw [String.toList_intercalate]
    exact List.splitOn_intercalate '|' hparts hne
  have hlists := congrArg (fun s : String => s.toList.splitOn '|') h
  simp only [hsplit r₁ h₁, hsplit r₂ h₂] at hlists
  exact map_cellText_inj hsep h₁ h₂ (List.map_injective_iff.mpr (fun _ _ => String.toList_injective) hlists)

end Tuples

/-! ## The groups of rows -/

/-- The rows of each distinct key tuple, in order of first occurrence; a row whose key values are
all null or missing is in none. -/
def keyGroups (d : Dialect) (rows : List Row) (aliasName : String) (columns : List String) :
    List (List Row) :=
  ((rows.map (keyTuple d · aliasName columns)).filter (·.any Option.isSome)).eraseDups.map
    fun t => rows.filter (keyTuple d · aliasName columns == t)

theorem filterMap_rowKey (d : Dialect) (rows : List Row) (aliasName : String)
    (columns : List String) :
    rows.filterMap (rowKey d · aliasName columns) =
      ((rows.map (keyTuple d · aliasName columns)).filter (·.any Option.isSome)).map
        fun t => "|".intercalate (t.map cellText) := by
  induction rows with
  | nil => rfl
  | cons r rs ih =>
    rw [List.filterMap_cons, rowKey_eq_keyTuple, List.map_cons, List.filter_cons]
    by_cases hk : (keyTuple d r aliasName columns).any Option.isSome <;> simp [hk, ih]

theorem keyGroups_ne_nil {d : Dialect} {rows : List Row} {aliasName : String}
    {columns : List String} (hsep : SeparableKeys d rows aliasName columns) :
    ∀ g ∈ keyGroups d rows aliasName columns, g ≠ [] := by
  intro g hg
  obtain ⟨t, ht, rfl⟩ := List.mem_map.mp hg
  obtain ⟨ht, -⟩ := List.mem_filter.mp (mem_of_mem_eraseDups ht)
  obtain ⟨r, hr, rfl⟩ := List.mem_map.mp ht
  exact List.ne_nil_of_mem (List.mem_filter.mpr ⟨hr, (keyTuple_beq_iff hsep hr hr).mpr rfl⟩)

namespace Loaded

/-- With separable key columns, grouping rows by their key texts is grouping them by their key
values: one group per distinct key tuple, in order of first occurrence. -/
theorem groups_eq_keyGroups (l : Loaded) (rows : List Row) (aliasName : String) (e : Entity)
    (hpk : e.primaryColumns ≠ [])
    (hsep : SeparableKeys l.query.dialect rows aliasName (e.primaryColumns.map (·.databaseName))) :
    l.groups rows aliasName e =
      keyGroups l.query.dialect rows aliasName (e.primaryColumns.map (·.databaseName)) := by
  set d := l.query.dialect
  set cols := e.primaryColumns.map (·.databaseName)
  set tuple := fun row => keyTuple d row aliasName cols
  set enc := fun t : List (Option Value) => "|".intercalate (t.map cellText)
  set ts := (rows.map tuple).filter (·.any Option.isSome)
  have hcols : cols ≠ [] := by simpa [cols] using hpk
  have hts : ∀ t ∈ ts, ∃ r ∈ rows, tuple r = t ∧ t.any Option.isSome = true := by
    intro t ht
    obtain ⟨ht, hk⟩ := List.mem_filter.mp ht
    obtain ⟨r, hr, rfl⟩ := List.mem_map.mp ht
    exact ⟨r, hr, rfl, hk⟩
  have hfold : l.groups rows aliasName e = (keyedGroups (rowKey d · aliasName cols) rows).map (·.2) := by
    unfold Loaded.groups
    rw [if_neg (by simpa using hpk)]
    exact congrArg _ (foldl_pushAt_eq_keyedGroups _ rows)
  have henc : ∀ r₁ ∈ rows, ∀ r₂ ∈ rows, enc (tuple r₁) = enc (tuple r₂) ↔ tuple r₁ = tuple r₂ :=
    fun r₁ h₁ r₂ h₂ => ⟨keyText_inj hsep hcols h₁ h₂, congrArg enc⟩
  have hcompat : ∀ t₁ ∈ ts, ∀ t₂ ∈ ts, (enc t₁ == enc t₂) = (t₁ == t₂) := by
    intro t₁ ht₁ t₂ ht₂
    obtain ⟨r₁, h₁, rfl, -⟩ := hts t₁ ht₁
    obtain ⟨r₂, h₂, rfl, -⟩ := hts t₂ ht₂
    rw [Bool.eq_iff_iff, beq_iff_eq, keyTuple_beq_iff hsep h₁ h₂]
    exact henc r₁ h₁ r₂ h₂
  have hfilter : ∀ t ∈ ts,
      rows.filter (rowKey d · aliasName cols == some (enc t)) = rows.filter (tuple · == t) := by
    intro t ht
    obtain ⟨r₀, h₀, rfl, hk₀⟩ := hts t ht
    refine List.filter_congr fun r hr => ?_
    rw [rowKey_eq_keyTuple, Bool.eq_iff_iff, keyTuple_beq_iff hsep hr h₀]
    by_cases hk : (tuple r).any Option.isSome
    · rw [if_pos hk, Option.some_beq_some, beq_iff_eq]
      exact henc r hr r₀ h₀
    · rw [if_neg hk]
      refine ⟨fun h => absurd h (by simp), fun h => absurd ?_ hk⟩
      rw [show tuple r = tuple r₀ from h]
      exact hk₀
  rw [hfold, keyedGroups, List.map_map, filterMap_rowKey, eraseDups_map_of_beq enc ts hcompat,
    List.map_map, keyGroups]
  exact List.map_congr_left fun t ht => hfilter t (mem_of_mem_eraseDups ht)

theorem hasEntity_of_mem_nestedJoins (l : Loaded) {aliasName : String} {x : Alias × String × Bool}
    (hx : x ∈ l.nestedJoins aliasName) : x.1.hasEntity = true := by
  simp only [nestedJoins, List.mem_filterMap] at hx
  obtain ⟨j, -, hj⟩ := hx
  split at hj
  · cases ha : Option.filter (fun x => x.hasEntity) (l.query.aliases.find? j.name) with
    | none => simp [ha] at hj
    | some a =>
      obtain ⟨-, hent⟩ := Option.filter_eq_some_iff.mp ha
      cases hp : joinProperty j <;> simp [ha, hp] at hj
      rw [← hj]
      exact hent
  · exact absurd hj (by simp)

theorem entityOf_cons_eq (l : Loaded) (nested : List Row → Alias → OrmResult (List Fields))
    (a : Alias) (e : Entity) (first : Row) (rest : List Row)
    (hn : ∀ x ∈ l.nestedJoins a.name, ∃ cs, nested (first :: rest) x.1 = .ok cs) :
    ∃ x hasData, l.entityOf nested a e (first :: rest) =
      .ok (if !(l.subtypeOf first a.name e).primaryColumns.isEmpty || hasData then some x else none) := by
  simp only [entityOf, List.head?_cons, bind, Except.bind]
  split
  · rename_i heq
    refine absurd heq (foldlM_except_ne_error _ _ _ fun s x hx => ?_)
    obtain ⟨cs, hcs⟩ := hn x hx
    rw [hcs]
    exact ⟨_, rfl⟩
  · exact ⟨_, _, rfl⟩

theorem entityOf_ok (l : Loaded) (nested : List Row → Alias → OrmResult (List Fields)) (a : Alias)
    (e : Entity) (rows : List Row)
    (hn : ∀ x ∈ l.nestedJoins a.name, ∃ cs, nested rows x.1 = .ok cs) :
    ∃ o, l.entityOf nested a e rows = .ok o := by
  cases rows with
  | nil => exact ⟨none, rfl⟩
  | cons first rest =>
    obtain ⟨x, hasData, h⟩ := l.entityOf_cons_eq nested a e first rest hn
    exact ⟨_, h⟩

theorem entitiesOf_ok (l : Loaded) :
    ∀ (fuel : Nat) (rows : List Row) (a : Alias), a.hasEntity = true →
      ∃ es, l.entitiesOf fuel rows a = .ok es
  | 0, _, _, _ => ⟨[], rfl⟩
  | fuel + 1, rows, a, ha => by
    obtain ⟨e, he⟩ := Option.isSome_iff_exists.mp (by simpa [Alias.hasEntity] using ha)
    have hmeta : a.metadata = .ok e := by simp [Alias.metadata, he]
    obtain ⟨found, hfound, -⟩ := mapM_except_ok (l.entityOf (l.entitiesOf fuel) a e)
      (l.groups rows a.name e) fun g _ => l.entityOf_ok _ a e g fun x hx =>
        entitiesOf_ok l fuel g x.1 (l.hasEntity_of_mem_nestedJoins hx)
    exact ⟨found.filterMap id, by simp only [entitiesOf, hmeta, bind, Except.bind, hfound]; rfl⟩

theorem subtypeOf_eq_or_mem (l : Loaded) (row : Row) (aliasName : String) (e : Entity) :
    l.subtypeOf row aliasName e = e ∨ l.subtypeOf row aliasName e ∈ l.registry.descendants e.name := by
  unfold subtypeOf
  split
  · exact .inl rfl
  · split
    · exact .inl rfl
    · cases h : (l.registry.descendants e.name).find? _ with
      | none => exact .inl rfl
      | some c => exact .inr (List.mem_of_find?_eq_some h)

end Loaded

end Hydration

end EntitySql
