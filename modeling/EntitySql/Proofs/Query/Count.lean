import EntitySql.Execute.Select
import Mathlib

/-!
# Counting the entities of a select

A count keeps what a select reads from (aliases, joins, conditions, parameters), drops its
ordering, grouping, paging and distinctness, and selects `COUNT(DISTINCT(e)) AS cnt`, where `e`
is the concatenation of the key columns of the main alias with the literal `|;|` between them,
one key column standing alone (`countQuery_counts_entities`).

What the database counts is the number of distinct values, nulls aside, that `e` takes over the
rows the select matches. Read as SQL (`evalConcat`), `e` gives a row the texts of its key
columns joined by `|;|`. When no key text holds `|`, the joined text splits back into the key
texts (`intercalate_bars_inj`), so distinct keys give distinct values of `e` and the count is the
number of distinct key tuples, that is of entities. A text key may hold `|`, and then the count
is short: tenants keyed by `("x", ";|y")` and `("x|;", "y")` both give `x|;|;|y` and are counted
once (`countedKey_merges_keys`).
-/

namespace EntitySql

/-! ## The counted expression -/

/-- A part of the expression a count is taken over: a column of an alias, or a text literal. -/
inductive CountedPart where
  | column (aliasName name : String)
  | literal (text : String)

/-- A row the database reads, by the text of each column of each alias; `none` is null. -/
abbrev DbRow := String → String → Option String

namespace CountedPart

def render (s : QueryState) : CountedPart → String
  | column a c => s.escape a ++ "." ++ s.escape c
  | literal t => "'" ++ t ++ "'"

def eval (row : DbRow) : CountedPart → Option String
  | column a c => row a c
  | literal t => some t

end CountedPart

/-- The SQL of the concatenation of parts: a single part as is, several joined by the dialect's
concatenation. -/
def renderConcat (s : QueryState) : List CountedPart → String
  | [p] => p.render s
  | ps => s.dialect.concat (ps.map (CountedPart.render s))

/-- The text of the concatenation of parts in a row: the texts of the parts one after the other,
null when one of them is. -/
def evalConcat (row : DbRow) (ps : List CountedPart) : Option String :=
  String.join <$> ps.mapM (CountedPart.eval row)

/-- The parts a count of the entities of an alias is taken over: its key columns with the
literal `|;|` between them. -/
def countedParts (aliasName : String) (keys : List Column) : List CountedPart :=
  (keys.map fun c => .column aliasName c.databaseName).intersperse (.literal "|;|")

def rowKeys (row : DbRow) (aliasName : String) (keys : List Column) : List (Option String) :=
  keys.map fun c => row aliasName c.databaseName

def countDistinct {ρ : Type} (e : ρ → Option String) (rows : List ρ) : Nat :=
  (rows.filterMap e).toFinset.card

def KeyTextsApart (rows : List DbRow) (aliasName : String) (keys : List Column) : Prop :=
  ∀ row ∈ rows, ∀ c ∈ keys, ∀ t ∈ row aliasName c.databaseName, '|' ∉ t.toList

/-! ## Texts joined by `|;|` split back -/

section Separator

variable {α : Type}

theorem mem_intersperse {sep x : α} : ∀ {l : List α}, x ∈ l.intersperse sep → x ∈ l ∨ x = sep
  | [], h => by simp at h
  | [_], h => .inl h
  | a :: b :: l, h => by
    rw [List.intersperse_cons_cons] at h
    rcases List.mem_cons.mp h with rfl | h
    · exact .inl List.mem_cons_self
    rcases List.mem_cons.mp h with rfl | h
    · exact .inr rfl
    rcases mem_intersperse h with h | h
    · exact .inl (List.mem_cons_of_mem a h)
    · exact .inr h

theorem map_intersperse {β : Type} (f : α → β) (sep : α) :
    ∀ l : List α, (l.intersperse sep).map f = (l.map f).intersperse (f sep)
  | [] => rfl
  | [_] => rfl
  | a :: b :: l => by simp [map_intersperse f sep (b :: l)]

theorem intersperse_injective (sep : α) : Function.Injective fun l : List α => l.intersperse sep := by
  intro l l' (h : l.intersperse sep = l'.intersperse sep)
  apply List.ext_getElem?
  intro i
  have heven := congrArg (·[2 * i]?) h
  simpa only [List.getElem?_intersperse_two_mul] using heven

theorem intercalate_bars : ∀ L : List (List Char),
    ['|', ';', '|'].intercalate L = ['|'].intercalate (L.intersperse [';'])
  | [] => rfl
  | [_] => rfl
  | a :: b :: L => by
    rw [List.intercalate_cons_cons, intercalate_bars (b :: L), List.intersperse_cons_cons]
    cases L <;> simp [List.intercalate_cons_cons]

theorem intercalate_bars_inj {ts ts' : List String} (hne : ts ≠ []) (hne' : ts' ≠ [])
    (hbar : ∀ t ∈ ts, '|' ∉ t.toList) (hbar' : ∀ t ∈ ts', '|' ∉ t.toList)
    (h : "|;|".intercalate ts = "|;|".intercalate ts') : ts = ts' := by
  have hsplit : ∀ us : List String, us ≠ [] → (∀ t ∈ us, '|' ∉ t.toList) →
      ("|;|".intercalate us).toList.splitOn '|' = (us.map String.toList).intersperse [';'] := by
    intro us hus hbars
    rw [String.toList_intercalate, show "|;|".toList = ['|', ';', '|'] from rfl, intercalate_bars]
    have hlen : 0 < ((us.map String.toList).intersperse [';']).length := by
      rw [List.length_intersperse, List.length_map]
      have := List.length_pos_iff.mpr hus
      omega
    refine List.splitOn_intercalate '|' (fun part hpart => ?_) (List.ne_nil_of_length_pos hlen)
    rcases mem_intersperse hpart with hpart | rfl
    · obtain ⟨t, ht, rfl⟩ := List.mem_map.mp hpart
      exact hbars t ht
    · decide
  have hparts := congrArg (fun t : String => t.toList.splitOn '|') h
  simp only [hsplit ts hne hbar, hsplit ts' hne' hbar'] at hparts
  exact List.map_injective_iff.mpr (fun _ _ => String.toList_injective)
    (intersperse_injective [';'] hparts)

theorem join_intersperse (sep : String) :
    ∀ ts : List String, String.join (ts.intersperse sep) = sep.intercalate ts
  | [] => rfl
  | [_] => by simp
  | t :: t' :: ts => by
    rw [List.intersperse_cons_cons, String.join_cons, String.join_cons, join_intersperse sep (t' :: ts),
      String.intercalate_cons_cons, String.append_assoc]

theorem mapM_intersperse {β : Type} {g : α → Option β} {sep : α} {y : β} (hsep : g sep = some y) :
    ∀ l : List α, (l.intersperse sep).mapM g = (fun rs => rs.intersperse y) <$> l.mapM g
  | [] => rfl
  | [a] => by cases ha : g a <;> simp [ha]
  | a :: b :: l => by
    rw [List.intersperse_cons_cons, List.mapM_cons, List.mapM_cons, hsep, mapM_intersperse hsep (b :: l),
      List.mapM_cons]
    cases ha : g a <;> cases hb : g b <;> cases hl : l.mapM g <;> simp [ha, hb, hl]

end Separator

/-! ## The counted expression in a row -/

section Row

variable {row : DbRow} {aliasName : String} {keys : List Column}

theorem evalConcat_countedParts (row : DbRow) (aliasName : String) (keys : List Column) :
    evalConcat row (countedParts aliasName keys) =
      (fun ts => "|;|".intercalate ts) <$> keys.mapM fun c => row aliasName c.databaseName := by
  rw [evalConcat, countedParts, mapM_intersperse (g := CountedPart.eval row) rfl, List.mapM_map]
  simp only [Functor.map_map, join_intersperse]
  rfl

theorem exists_keyTexts (hnull : ∀ c ∈ keys, (row aliasName c.databaseName).isSome) :
    ∃ ts, keys.mapM (fun c => row aliasName c.databaseName) = some ts ∧
      rowKeys row aliasName keys = ts.map some := by
  induction keys with
  | nil => exact ⟨[], rfl, rfl⟩
  | cons c keys ih =>
    obtain ⟨t, ht⟩ := Option.isSome_iff_exists.mp (hnull c List.mem_cons_self)
    obtain ⟨ts, hts, htuple⟩ := ih fun c' hc' => hnull c' (List.mem_cons_of_mem c hc')
    refine ⟨t :: ts, by simp [List.mapM_cons, ht, hts], ?_⟩
    simp only [rowKeys, List.map_cons] at htuple ⊢
    rw [ht, htuple]

theorem bar_not_mem_keyTexts {rows : List DbRow} (hapart : KeyTextsApart rows aliasName keys)
    (hrow : row ∈ rows) {ts : List String} (htuple : rowKeys row aliasName keys = ts.map some) :
    ∀ t ∈ ts, '|' ∉ t.toList := by
  intro t ht
  have hmem : some t ∈ rowKeys row aliasName keys := htuple ▸ List.mem_map_of_mem ht
  obtain ⟨c, hc, hct⟩ := List.mem_map.mp hmem
  exact hapart row hrow c hc t hct

end Row

/-! ## What the database counts -/

section Count

theorem card_toFinset_filterMap {α β γ : Type} [DecidableEq β] [DecidableEq γ] {E : α → Option β}
    {K : α → γ} : ∀ {l : List α}, (∀ a ∈ l, (E a).isSome) →
      (∀ a ∈ l, ∀ b ∈ l, E a = E b ↔ K a = K b) →
      (l.filterMap E).toFinset.card = (l.map K).toFinset.card
  | [], _, _ => rfl
  | a :: l, hsome, hsame => by
    obtain ⟨v, hv⟩ := Option.isSome_iff_exists.mp (hsome a List.mem_cons_self)
    have ih := card_toFinset_filterMap (fun b hb => hsome b (.tail a hb))
      (fun b hb c hc => hsame b (.tail a hb) c (.tail a hc))
    have hmet : v ∈ (l.filterMap E).toFinset ↔ K a ∈ (l.map K).toFinset := by
      simp only [List.mem_toFinset, List.mem_filterMap, List.mem_map]
      constructor
      · rintro ⟨b, hb, hbv⟩
        exact ⟨b, hb, (hsame b (.tail a hb) a List.mem_cons_self).mp (hbv.trans hv.symm)⟩
      · rintro ⟨b, hb, hbk⟩
        exact ⟨b, hb, ((hsame b (.tail a hb) a List.mem_cons_self).mpr hbk).trans hv⟩
    rw [List.filterMap_cons_some hv, List.map_cons, List.toFinset_cons, List.toFinset_cons]
    by_cases h : K a ∈ (l.map K).toFinset
    · rw [Finset.card_insert_of_mem (hmet.mpr h), Finset.card_insert_of_mem h, ih]
    · rw [Finset.card_insert_of_notMem (mt hmet.mp h), Finset.card_insert_of_notMem h, ih]

variable {rows : List DbRow} {aliasName : String} {keys : List Column}

theorem evalConcat_eq_iff (hkeys : keys ≠ [])
    (hnull : ∀ row ∈ rows, ∀ c ∈ keys, (row aliasName c.databaseName).isSome)
    (hapart : keys.length = 1 ∨ KeyTextsApart rows aliasName keys) {r₁ r₂ : DbRow}
    (h₁ : r₁ ∈ rows) (h₂ : r₂ ∈ rows) :
    evalConcat r₁ (countedParts aliasName keys) = evalConcat r₂ (countedParts aliasName keys) ↔
      rowKeys r₁ aliasName keys = rowKeys r₂ aliasName keys := by
  obtain ⟨ts₁, hm₁, hk₁⟩ := exists_keyTexts (hnull r₁ h₁)
  obtain ⟨ts₂, hm₂, hk₂⟩ := exists_keyTexts (hnull r₂ h₂)
  have hlen : ∀ {r : DbRow} {ts : List String}, rowKeys r aliasName keys = ts.map some →
      ts.length = keys.length := fun hk => by simpa [rowKeys] using (congrArg List.length hk).symm
  rw [evalConcat_countedParts, evalConcat_countedParts, hm₁, hm₂, hk₁, hk₂,
    (List.map_injective_iff.mpr (Option.some_injective String)).eq_iff]
  simp only [Option.map_eq_map, Option.map_some, Option.some.injEq]
  refine ⟨fun h => ?_, fun h => h ▸ rfl⟩
  rcases hapart with hone | hapart
  · -- one key: the text is the key text itself
    obtain ⟨t₁, rfl⟩ := List.length_eq_one_iff.mp ((hlen hk₁).trans hone)
    obtain ⟨t₂, rfl⟩ := List.length_eq_one_iff.mp ((hlen hk₂).trans hone)
    simpa using h
  · have hne : ∀ {r : DbRow} {ts : List String}, rowKeys r aliasName keys = ts.map some →
        ts ≠ [] := fun hk => List.ne_nil_of_length_pos
          ((hlen hk).symm ▸ List.length_pos_iff.mpr hkeys)
    exact intercalate_bars_inj (hne hk₁) (hne hk₂) (bar_not_mem_keyTexts hapart h₁ hk₁)
      (bar_not_mem_keyTexts hapart h₂ hk₂) h

theorem countDistinct_countedParts (hkeys : keys ≠ [])
    (hnull : ∀ row ∈ rows, ∀ c ∈ keys, (row aliasName c.databaseName).isSome)
    (hapart : keys.length = 1 ∨ KeyTextsApart rows aliasName keys) :
    countDistinct (evalConcat · (countedParts aliasName keys)) rows =
      (rows.map (rowKeys · aliasName keys)).toFinset.card := by
  refine card_toFinset_filterMap (fun row hrow => ?_)
    (fun r₁ h₁ r₂ h₂ => evalConcat_eq_iff hkeys hnull hapart h₁ h₂)
  obtain ⟨ts, hm, -⟩ := exists_keyTexts (hnull row hrow)
  simp [evalConcat_countedParts, hm]

end Count

/-! ## The count of a select -/

namespace DataSource

theorem countDistinctText (x : String) :
    "COUNT(" ++ ("DISTINCT(" ++ x ++ ")") ++ ")" = "COUNT(DISTINCT(" ++ x ++ "))" := by
  have hopen : "COUNT(" ++ "DISTINCT(" = "COUNT(DISTINCT(" := by decide
  have hclose : ")" ++ ")" = "))" := by decide
  rw [← hopen, ← hclose]
  simp only [String.append_assoc]

theorem countQuery_eq {s : QueryState} {main : Alias} {e : Entity} (hmain : s.mainAlias = .ok main)
    (he : main.entity = some e) (hkeys : e.primaryColumns ≠ []) :
    countQuery s = .ok
      { s with
        orderBys := [], groupBys := [], limit := none, offset := none, skip := none, take := none,
        distinct := false,
        selects := [{ expression := "COUNT(DISTINCT(" ++
          renderConcat s (countedParts main.name e.primaryColumns) ++ "))", label := some "cnt" }] } := by
  have hmain' : ({ s with
      orderBys := [], groupBys := [], limit := none, offset := none, skip := none, take := none,
      distinct := false } : QueryState).mainAlias = .ok main := hmain
  unfold countQuery
  simp only [hmain', Alias.metadata, he, bind, Except.bind, QueryState.escape]
  obtain ⟨c, rest, hcs⟩ := List.exists_cons_of_ne_nil hkeys
  rw [hcs, ← countDistinctText]
  cases rest with
  | nil => rfl
  | cons c' rest =>
    simp [renderConcat, countedParts, map_intersperse, CountedPart.render, QueryState.escape]
    rfl

/-- A count of a select whose main alias has keys counts the distinct values of the concatenated
keys. Over rows with all their keys, where a single key stands alone or no key text holds `|`,
that is the number of distinct key tuples: one for each entity the rows hold. -/
theorem countQuery_counts_entities {s : QueryState} {main : Alias} {e : Entity}
    (hmain : s.mainAlias = .ok main) (he : main.entity = some e) (hkeys : e.primaryColumns ≠ [])
    {rows : List DbRow}
    (hnull : ∀ row ∈ rows, ∀ c ∈ e.primaryColumns, (row main.name c.databaseName).isSome)
    (hapart : e.primaryColumns.length = 1 ∨ KeyTextsApart rows main.name e.primaryColumns) :
    countQuery s = .ok
      { s with
        orderBys := [], groupBys := [], limit := none, offset := none, skip := none, take := none,
        distinct := false,
        selects := [{ expression := "COUNT(DISTINCT(" ++
          renderConcat s (countedParts main.name e.primaryColumns) ++ "))", label := some "cnt" }] } ∧
      countDistinct (evalConcat · (countedParts main.name e.primaryColumns)) rows =
        (rows.map (rowKeys · main.name e.primaryColumns)).toFinset.card :=
  ⟨countQuery_eq hmain he hkeys, countDistinct_countedParts hkeys hnull hapart⟩

end DataSource

/-- Memberships keyed by a user and a group. -/
def membership : Entity :=
  { name := "Membership", tableName := "memberships",
    columns := [{ propertyPath := "userId", databaseName := "userId", type := .integer, isPrimary := true },
      { propertyPath := "groupId", databaseName := "groupId", type := .integer, isPrimary := true }] }

def membershipSelect : QueryState :=
  { QueryState.new .postgres .select with
    aliases := { items := [{ kind := .source, name := "m", entity := some membership }], main := some "m" } }

def membershipRow (user group : String) : DbRow := fun a c =>
  if a = "m" ∧ c = "userId" then some user else if a = "m" ∧ c = "groupId" then some group else none

theorem countQuery_counts_entities_memberships :
    let rows := [membershipRow "1" "2", membershipRow "1" "3", membershipRow "1" "2"]
    membershipSelect.mainAlias = .ok { kind := .source, name := "m", entity := some membership } ∧
      membership.primaryColumns ≠ [] ∧
      (∀ row ∈ rows, ∀ c ∈ membership.primaryColumns, (row "m" c.databaseName).isSome) ∧
      (membership.primaryColumns.length = 1 ∨ KeyTextsApart rows "m" membership.primaryColumns) ∧
      DataSource.countQuery membershipSelect = .ok
        { membershipSelect with
          orderBys := [], groupBys := [], limit := none, offset := none, skip := none, take := none,
          distinct := false,
          selects :=
            [{ expression := "COUNT(DISTINCT(" ++ renderConcat membershipSelect
                (countedParts "m" membership.primaryColumns) ++ "))", label := some "cnt" }] } ∧
      countDistinct (evalConcat · (countedParts "m" membership.primaryColumns)) rows =
        (rows.map (rowKeys · "m" membership.primaryColumns)).toFinset.card := by
  intro rows
  have hmain : membershipSelect.mainAlias =
      .ok { kind := .source, name := "m", entity := some membership } := rfl
  have hkeys : membership.primaryColumns ≠ [] := by simp [membership, Entity.primaryColumns]
  have hnull : ∀ row ∈ rows, ∀ c ∈ membership.primaryColumns, (row "m" c.databaseName).isSome := by
    decide
  have hapart : KeyTextsApart rows "m" membership.primaryColumns := by
    unfold KeyTextsApart
    decide
  exact ⟨hmain, hkeys, hnull, .inr hapart,
    DataSource.countQuery_counts_entities hmain rfl hkeys hnull (.inr hapart)⟩

/-- Tenants keyed by a code and a region, both texts. -/
def tenant : Entity :=
  { name := "Tenant", tableName := "tenants",
    columns := [{ propertyPath := "code", databaseName := "code", type := .text, isPrimary := true },
      { propertyPath := "region", databaseName := "region", type := .text, isPrimary := true }] }

def tenantRow (code region : String) : DbRow := fun a c =>
  if a = "t" ∧ c = "code" then some code else if a = "t" ∧ c = "region" then some region else none

/-- Text keys may hold the separator: tenants keyed `("x", ";|y")` and `("x|;", "y")` have
distinct keys but the same concatenated key `x|;|;|y`, so the database counts one of them. -/
theorem countedKey_merges_keys :
    let rows := [tenantRow "x" ";|y", tenantRow "x|;" "y"]
    (rows.map (rowKeys · "t" tenant.primaryColumns)).toFinset.card = 2 ∧
      rows.map (evalConcat · (countedParts "t" tenant.primaryColumns)) =
        [some "x|;|;|y", some "x|;|;|y"] ∧
      countDistinct (evalConcat · (countedParts "t" tenant.primaryColumns)) rows = 1 := by
  decide +kernel

end EntitySql
