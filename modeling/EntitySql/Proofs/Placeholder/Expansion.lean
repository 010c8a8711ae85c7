import EntitySql.Proofs.Placeholder.Tokens

/-!
# What binding named parameters writes

`Dialect.bindNamed` replaces each named reference of a text by placeholders and lists the values
to bind. `Dialect.bindNamed_spec` says what comes out, for every dialect, text, named values
and native values:

* when some reference names a value that is not given, the first such name, in the order of
  the text, is the failure;
* otherwise the text written is made of the characters of the text and of placeholders, the
  values start with the native ones, and filling each placeholder with the value it stands for
  gives the text with each `:name` replaced by its value and each `:...name` by the items of
  its value separated by commas (`NULL` when there are none).

A placeholder stands for the value at its position. Where a dialect writes the same placeholder
for every value (`?`), the placeholders are numbered in the order they are written, after the
native values, so the position of each is its rank.

The proof follows the tokens of the text: `Binding.Sound` is what binding keeps true from one
token to the next, and a second reference to a name may reuse its first placeholder only
because each placeholder kept for reuse is that of a value bound to that name (`CacheSound`).
-/

namespace EntitySql

namespace Placeholder

/-- The first name referred to that has no value. -/
def firstMissing (named : List (String × Value)) : List Token → Option String
  | [] => none
  | .text _ :: ts => firstMissing named ts
  | .ref name _ :: ts =>
    if (named.lookup name).isNone then some name else firstMissing named ts

def spreadItems : Value → List Value
  | .array items => items
  | v => [v]

def commaSeparated {α : Type} (xs : List α) : List (Char ⊕ α) :=
  List.intercalate [.inl ',', .inl ' '] (xs.map fun x => [.inr x])

/-- What a token stands for once each reference is replaced by its value: a spread by its items
separated by commas, or by `NULL` when there are none. -/
def Token.expand (named : List (String × Value)) : Token → List (Char ⊕ Value)
  | .text cs => cs.map .inl
  | .ref name false => [.inr ((named.lookup name).getD .null)]
  | .ref name true =>
    match spreadItems ((named.lookup name).getD .null) with
    | [] => "NULL".toList.map .inl
    | items => commaSeparated items

/-- A piece of written text: a character, or the placeholder of the value at a position. -/
abbrev Piece := Char ⊕ Nat

def Piece.render (d : Dialect) : Piece → List Char
  | .inl c => [c]
  | .inr k => (d.createParameter k).toList

def Piece.fill (vals : List Value) : Piece → Char ⊕ Value
  | .inl c => .inl c
  | .inr k => .inr (vals.getD k .null)

def slots (ps : List Piece) : List Nat := ps.filterMap Sum.getRight?

/-- `out` with the values `vals` writes `expected` after the native values: the values start
with the native ones, and `out` is made of pieces, each a character or the placeholder of a
bound value, that give `expected` once each placeholder is filled. Where the dialect's
placeholders do not carry their position, they are numbered in the order they are written,
after the native values. -/
def Writes (d : Dialect) (native : List Value) (expected : List (Char ⊕ Value)) (out : String)
    (vals : List Value) : Prop :=
  native <+: vals ∧ ∃ ps : List Piece, out.toList = ps.flatMap (Piece.render d) ∧
    (∀ k ∈ slots ps, k < vals.length) ∧ ps.map (Piece.fill vals) = expected ∧
    (d.reusesPlaceholders = false →
      slots ps = List.range' native.length (vals.length - native.length))

@[simp] theorem slots_nil : slots [] = [] := rfl

@[simp] theorem slots_cons_inl (c : Char) (ps : List Piece) : slots (.inl c :: ps) = slots ps :=
  rfl

@[simp] theorem slots_cons_inr (k : Nat) (ps : List Piece) :
    slots (.inr k :: ps) = k :: slots ps := rfl

theorem slots_append (ps qs : List Piece) : slots (ps ++ qs) = slots ps ++ slots qs := by
  simp [slots]

theorem mem_slots {k : Nat} {ps : List Piece} : k ∈ slots ps ↔ .inr k ∈ ps := by
  simp [slots]

theorem map_fill_append {ps : List Piece} {vals : List Value} (more : List Value)
    (h : ∀ k ∈ slots ps, k < vals.length) :
    ps.map (Piece.fill (vals ++ more)) = ps.map (Piece.fill vals) := by
  apply List.map_congr_left
  intro p hp
  cases p with
  | inl c => rfl
  | inr k =>
    have hk : k < vals.length := h k (mem_slots.2 hp)
    simp [Piece.fill, List.getElem?_append_left hk]

/-! ### Writing more -/

section Writes

variable {d : Dialect} {native : List Value} {E : List (Char ⊕ Value)} {out : String}
  {vals : List Value}

theorem Writes.append (h : Writes d native E out vals) (more : List Value) (qs : List Piece)
    (hq : ∀ k ∈ slots qs, k < vals.length + more.length)
    (hr : d.reusesPlaceholders = false → slots qs = List.range' vals.length more.length) :
    Writes d native (E ++ qs.map (Piece.fill (vals ++ more)))
      (out ++ String.ofList (qs.flatMap (Piece.render d))) (vals ++ more) := by
  obtain ⟨hpre, ps, hout, hbound, hfill, hnum⟩ := h
  refine ⟨hpre.trans (List.prefix_append _ _), ps ++ qs, ?_, ?_, ?_, ?_⟩
  · simp [hout]
  · intro k hk
    rw [slots_append, List.mem_append] at hk
    rcases hk with hk | hk
    · have := hbound k hk
      simp only [List.length_append]
      omega
    · simpa using hq k hk
  · rw [List.map_append, map_fill_append more hbound, hfill]
  · intro hreuse
    have hle := hpre.length_le
    rw [slots_append, hnum hreuse, hr hreuse, List.length_append]
    obtain ⟨m, hm⟩ : ∃ m, vals.length = native.length + m :=
      ⟨_, (Nat.add_sub_cancel' hle).symm⟩
    rw [hm, Nat.add_sub_cancel_left, Nat.add_assoc, Nat.add_sub_cancel_left,
      List.range'_append_1]

theorem Writes.append_chars (h : Writes d native E out vals) (cs : List Char) :
    Writes d native (E ++ cs.map .inl) (out ++ String.ofList cs) vals := by
  have hr : (cs.map Sum.inl).flatMap (Piece.render d) = cs := by
    induction cs with
    | nil => rfl
    | cons c cs ih => simpa [Piece.render] using ih
  have hw := h.append [] (cs.map .inl) (by simp [slots]) (by simp [slots])
  have hf : (cs.map Sum.inl).map (Piece.fill (vals ++ [])) = cs.map Sum.inl := by
    simp [Piece.fill]
  rw [hr, hf, List.append_nil] at hw
  exact hw

theorem Writes.append_fresh (h : Writes d native E out vals) (v : Value) :
    Writes d native (E ++ [.inr v]) (out ++ d.createParameter vals.length) (vals ++ [v]) := by
  have hw := h.append [v] [.inr vals.length] (by simp [slots]) (by simp [slots])
  simpa [Piece.fill, Piece.render] using hw

theorem Writes.append_reused (h : Writes d native E out vals)
    (hd : d.reusesPlaceholders = true) {k : Nat} {v : Value} (hk : vals[k]? = some v) :
    Writes d native (E ++ [.inr v]) (out ++ d.createParameter k) vals := by
  have hlt : k < vals.length := (List.getElem?_eq_some_iff.1 hk).1
  have hw := h.append [] [.inr k] (by simpa [slots] using hlt) (by simp [hd])
  simpa [Piece.fill, Piece.render, hk] using hw

@[simp] theorem commaSeparated_nil {α : Type} : commaSeparated ([] : List α) = [] := rfl

@[simp] theorem commaSeparated_singleton {α : Type} (x : α) : commaSeparated [x] = [.inr x] :=
  rfl

@[simp] theorem commaSeparated_cons_cons {α : Type} (x y : α) (xs : List α) :
    commaSeparated (x :: y :: xs) =
      .inr x :: .inl ',' :: .inl ' ' :: commaSeparated (y :: xs) := by
  simp [commaSeparated]

theorem slots_commaSeparated (ks : List Nat) : slots (commaSeparated ks) = ks := by
  induction ks with
  | nil => rfl
  | cons k ks ih =>
    cases ks with
    | nil => rfl
    | cons k' ks =>
      rw [commaSeparated_cons_cons, slots_cons_inr, slots_cons_inl, slots_cons_inl, ih]

theorem map_fill_commaSeparated (vals : List Value) (ks : List Nat) :
    (commaSeparated ks).map (Piece.fill vals) =
      commaSeparated (ks.map fun k => vals.getD k .null) := by
  induction ks with
  | nil => rfl
  | cons k ks ih =>
    cases ks with
    | nil => rfl
    | cons k' ks =>
      simp only [commaSeparated_cons_cons, List.map_cons, ih]
      rfl

theorem flatMap_render_commaSeparated (ks : List Nat) :
    (commaSeparated ks).flatMap (Piece.render d) =
      (", ".intercalate (ks.map d.createParameter)).toList := by
  induction ks with
  | nil => rfl
  | cons k ks ih =>
    cases ks with
    | nil => simp [Piece.render]
    | cons k' ks =>
      rw [commaSeparated_cons_cons, List.map_cons, List.map_cons, String.intercalate_cons_cons]
      simp only [List.flatMap_cons, String.toList_append, ih, ← List.map_cons]
      simp [Piece.render]

theorem map_getD_range' (items : List Value) :
    (List.range' vals.length items.length).map (fun k => (vals ++ items).getD k .null) =
      items := by
  induction items generalizing vals with
  | nil => rfl
  | cons i is ih =>
    rw [List.length_cons, List.range'_succ, List.map_cons]
    have hrest := @ih (vals ++ [i])
    simp only [List.length_append, List.length_singleton, List.append_assoc,
      List.singleton_append] at hrest
    rw [hrest]
    simp

theorem Writes.append_spread (h : Writes d native E out vals) (items : List Value) :
    Writes d native (E ++ commaSeparated items)
      (out ++ ", ".intercalate ((List.range' vals.length items.length).map d.createParameter))
      (vals ++ items) := by
  have hw := h.append items (commaSeparated (List.range' vals.length items.length))
    (by simp [slots_commaSeparated]) (by simp [slots_commaSeparated])
  rw [map_fill_commaSeparated, map_getD_range', flatMap_render_commaSeparated,
    String.ofList_toList] at hw
  exact hw

end Writes

/-! ### One reference -/

theorem Binding.push_eq (d : Dialect) (b : Binding) (v : Value) :
    b.push d v = ({ b with values := b.values.push v }, d.createParameter b.values.size) := by
  simp [Binding.push]

theorem foldl_push (d : Dialect) (items : List Value) (b : Binding) (acc : List String) :
    items.foldl (fun acc item => ((acc.1.push d item).1, (acc.1.push d item).2 :: acc.2))
        (b, acc) =
      ({ b with values := b.values ++ items.toArray },
        ((List.range' b.values.size items.length).map d.createParameter).reverse ++ acc) := by
  induction items generalizing b acc with
  | nil => simp
  | cons i is ih =>
    rw [List.foldl_cons, Binding.push_eq, ih]
    simp [List.range'_succ]

theorem reference_spread_nil (d : Dialect) (b : Binding) (name : String) (v : Value)
    (h : spreadItems v = []) :
    b.reference d name true v = { b with sql := b.sql ++ "NULL" } := by
  cases v <;> simp_all [Binding.reference, spreadItems]

theorem reference_spread (d : Dialect) (b : Binding) (name : String) (v : Value)
    (h : spreadItems v ≠ []) :
    b.reference d name true v =
      { b with
        sql := b.sql ++ ", ".intercalate
          ((List.range' b.values.size (spreadItems v).length).map d.createParameter),
        values := b.values ++ (spreadItems v).toArray } := by
  cases v with
  | array items =>
    simp only [Binding.reference, spreadItems] at h ⊢
    rw [foldl_push]
    simp [h]
  | _ => simp [Binding.reference, spreadItems, Binding.push_eq]

def CacheSound (d : Dialect) (named : List (String × Value)) (b : Binding) : Prop :=
  ∀ name p, b.placeholders.lookup name = some p →
    ∃ k v, p = d.createParameter k ∧ b.values.toList[k]? = some v ∧ named.lookup name = some v

/-- What binding keeps true from one token to the next: the text written so far writes
`expected`, and every placeholder kept for reuse is sound. -/
structure Binding.Sound (d : Dialect) (named : List (String × Value)) (native : List Value)
    (expected : List (Char ⊕ Value)) (b : Binding) : Prop where
  writes : Writes d native expected b.sql b.values.toList
  cache : CacheSound d named b

theorem lookup_filter_ne (name n : String) (l : List (String × String)) (h : n ≠ name) :
    (l.filter (·.1 ≠ name)).lookup n = l.lookup n := by
  induction l with
  | nil => rfl
  | cons e l ih =>
    obtain ⟨k, p⟩ := e
    rw [List.filter_cons]
    split
    · simp only [List.lookup_cons, ih]
    · rename_i hk
      have hkn : k = name := by simpa using hk
      subst hkn
      have hne : (n == k) = false := by simpa using h
      simp only [List.lookup_cons, hne, ih]

theorem CacheSound.of_values {d : Dialect} {named : List (String × Value)} {b b' : Binding}
    (h : CacheSound d named b) (hp : b'.placeholders = b.placeholders)
    (more : List Value) (hv : b'.values.toList = b.values.toList ++ more) :
    CacheSound d named b' := by
  intro name p hl
  rw [hp] at hl
  obtain ⟨k, v, rfl, hk, hn⟩ := h name p hl
  refine ⟨k, v, rfl, ?_, hn⟩
  rw [hv, List.getElem?_append_left (List.getElem?_eq_some_iff.1 hk).1, hk]

theorem CacheSound.fresh {d : Dialect} {named : List (String × Value)} {b : Binding}
    (h : CacheSound d named b) {name : String} {v : Value} (hv : named.lookup name = some v) :
    CacheSound d named
      { sql := b.sql ++ d.createParameter b.values.size, values := b.values.push v,
        placeholders := (name, d.createParameter b.values.size) ::
          b.placeholders.filter (·.1 ≠ name) } := by
  intro n p hl
  by_cases hn : n = name
  · subst hn
    simp only [List.lookup_cons, beq_self_eq_true, Option.some.injEq] at hl
    subst hl
    exact ⟨b.values.size, v, rfl, by simp, hv⟩
  · have hne : (n == name) = false := by simpa using hn
    simp only [List.lookup_cons, hne, lookup_filter_ne name n _ hn] at hl
    have hpushed : CacheSound d named { b with values := b.values.push v } :=
      h.of_values rfl [v] (by simp)
    exact hpushed n p hl

section Sound

variable {d : Dialect} {named : List (String × Value)} {native : List Value}
  {E : List (Char ⊕ Value)} {b : Binding}

theorem Binding.Sound.text (h : b.Sound d named native E) (cs : List Char) :
    ({ b with sql := b.sql ++ String.ofList cs } : Binding).Sound d named native
      (E ++ cs.map .inl) :=
  ⟨h.writes.append_chars cs, h.cache⟩

theorem Binding.Sound.fresh (h : b.Sound d named native E) {name : String} {v : Value}
    (hv : named.lookup name = some v) :
    ({ sql := b.sql ++ d.createParameter b.values.size, values := b.values.push v,
       placeholders := (name, d.createParameter b.values.size) ::
         b.placeholders.filter (·.1 ≠ name) } : Binding).Sound d named native
      (E ++ [.inr v]) := by
  refine ⟨?_, h.cache.fresh hv⟩
  have hw := h.writes.append_fresh v
  simpa using hw

/-- Writing the reference to a name keeps the invariant. A spread binds its items in order; a
single reference reuses the placeholder kept for its name where the dialect allows it, and
binds its value afresh otherwise. -/
theorem Binding.Sound.reference (h : b.Sound d named native E) {name : String} {v : Value}
    (hv : named.lookup name = some v) (spread : Bool) :
    (b.reference d name spread v).Sound d named native
      (E ++ (Token.ref name spread).expand named) := by
  cases spread with
  | true =>
    by_cases hi : spreadItems v = []
    · have hx : (Token.ref name true).expand named = "NULL".toList.map .inl := by
        simp [Token.expand, hv, hi]
      rw [reference_spread_nil d b name v hi, hx]
      exact h.text "NULL".toList
    · have hx : (Token.ref name true).expand named = commaSeparated (spreadItems v) := by
        obtain ⟨i, is, hs⟩ := List.exists_cons_of_ne_nil hi
        simp [Token.expand, hv, hs]
      rw [reference_spread d b name v hi, hx]
      refine ⟨?_, h.cache.of_values rfl (spreadItems v) (by simp)⟩
      have hw := h.writes.append_spread (spreadItems v)
      simpa using hw
  | false =>
    have hx : (Token.ref name false).expand named = [.inr v] := by simp [Token.expand, hv]
    rw [hx]
    simp only [Binding.reference, Bool.false_eq_true, if_false]
    cases hr : d.reusesPlaceholders with
    | false =>
      simp only [Bool.false_eq_true, if_false, Binding.push_eq]
      exact h.fresh hv
    | true =>
      cases hl : b.placeholders.lookup name with
      | none =>
        simp only [if_true, Binding.push_eq]
        exact h.fresh hv
      | some existing =>
        obtain ⟨k, w, rfl, hk, hw⟩ := h.cache name existing hl
        have hwv : w = v := Option.some.inj (hw.symm.trans hv)
        subst hwv
        simp only [if_true]
        exact ⟨h.writes.append_reused hr hk, h.cache⟩

theorem Binding.Sound.bindToken (h : b.Sound d named native E) {t : Token} {b' : Binding}
    (hb : bindToken d named b t = .ok b') : b'.Sound d named native (E ++ t.expand named) := by
  cases t with
  | text cs =>
    cases hb
    exact h.text cs
  | ref name spread =>
    cases hv : named.lookup name with
    | none => simp [Placeholder.bindToken, hv] at hb
    | some v =>
      simp only [Placeholder.bindToken, hv, Except.ok.injEq] at hb
      subst hb
      exact h.reference hv spread

theorem foldlM_bindToken_ok (ts : List Token) (hts : firstMissing named ts = none) :
    ∀ (b : Binding) (E : List (Char ⊕ Value)), b.Sound d named native E →
      ∃ b', ts.foldlM (bindToken d named) b = .ok b' ∧
        b'.Sound d named native (E ++ ts.flatMap (Token.expand named)) := by
  induction ts with
  | nil =>
    intro b E h
    exact ⟨b, rfl, by simpa using h⟩
  | cons t ts ih =>
    intro b E h
    have hok : ∃ b₁, bindToken d named b t = .ok b₁ := by
      cases t with
      | text cs => exact ⟨_, rfl⟩
      | ref name spread =>
        cases hv : named.lookup name with
        | none => simp [firstMissing, hv] at hts
        | some v => exact ⟨b.reference d name spread v, by simp [Placeholder.bindToken, hv]⟩
    have hrest : firstMissing named ts = none := by
      cases t with
      | text cs => simpa [firstMissing] using hts
      | ref name spread =>
        simp only [firstMissing] at hts
        split at hts
        · simp at hts
        · exact hts
    obtain ⟨b₁, hb₁⟩ := hok
    obtain ⟨b', hrun, hsound⟩ := ih hrest b₁ _ (h.bindToken hb₁)
    refine ⟨b', ?_, ?_⟩
    · rw [List.foldlM_cons, hb₁]
      exact hrun
    · simpa using hsound

end Sound

theorem foldlM_bindToken_error (d : Dialect) (named : List (String × Value)) (ts : List Token)
    {name : String} (hts : firstMissing named ts = some name) :
    ∀ b : Binding, ts.foldlM (bindToken d named) b = .error (.parameterNotFound name) := by
  induction ts with
  | nil => simp [firstMissing] at hts
  | cons t ts ih =>
    intro b
    rw [List.foldlM_cons]
    cases t with
    | text cs => exact ih (by simpa [firstMissing] using hts) _
    | ref n spread =>
      cases hv : named.lookup n with
      | none =>
        simp only [firstMissing, hv, Option.isNone_none, if_true, Option.some.injEq] at hts
        subst hts
        simp only [Placeholder.bindToken, hv]
        rfl
      | some v =>
        simp only [firstMissing, hv, Option.isNone_some, Bool.false_eq_true, if_false] at hts
        have hb : bindToken d named b (.ref n spread) = .ok (b.reference d n spread v) := by
          simp [Placeholder.bindToken, hv]
        rw [hb]
        exact ih hts _

end Placeholder

open Placeholder in
/-- Binding named parameters, for every dialect, text and values: the tokens of the text spell
it; when a reference names a value that is not given, the first such name is the failure;
otherwise the text written, with the values bound, writes the text with every reference
replaced by its value or, for a spread, by its items. -/
theorem Dialect.bindNamed_spec (d : Dialect) (sql : String) (named : List (String × Value))
    (native : List Value) :
    (tokens d sql.toList).flatMap Token.source = sql.toList ∧
    match firstMissing named (tokens d sql.toList) with
    | some name => d.bindNamed sql named native = .error (.parameterNotFound name)
    | none => ∃ out vals, d.bindNamed sql named native = .ok (out, vals) ∧
        Writes d native ((tokens d sql.toList).flatMap (Token.expand named)) out vals := by
  refine ⟨tokens_source d sql.toList, ?_⟩
  have hstart : (⟨"", native.toArray, []⟩ : Binding).Sound d named native [] :=
    ⟨⟨by simp, [], by simp, by simp, rfl, by simp⟩, by simp [CacheSound]⟩
  unfold Dialect.bindNamed
  rw [bindRest_eq_foldlM]
  split
  · rename_i name hmiss
    rw [foldlM_bindToken_error d named _ hmiss]
    rfl
  · rename_i hmiss
    obtain ⟨b, hrun, hsound⟩ := foldlM_bindToken_ok _ hmiss _ _ hstart
    rw [hrun]
    exact ⟨b.sql, b.values.toList, rfl, by simpa using hsound.writes⟩

end EntitySql
