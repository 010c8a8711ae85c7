import EntitySql.Proofs.Placeholder.Pieces
import EntitySql.Proofs.Where.Meaning
import EntitySql.Proofs.Where.Discriminator
import EntitySql.Proofs.Runner.Pipeline
import EntitySql.Value.Basic

/-!
# Paging by entity over joined rows

A select that joins rows and asks for `skip` or `take` cannot page its rows: one entity spans
several of them. It pages by entity instead, in two statements. The first selects the distinct
keys of one page, each under the result name `ids_` and its column alias, from the select without
paging, ordering or lock, ordered as asked and then by every key. The second is the select
without `skip` and `take`, with one more condition: that the row's keys are those of an entity of
the page, read from the `ids_` columns of the first statement's rows.

That condition is written as text. For a composite key it compares each key column with a
parameter named after the entity's position and the column's database name, and the placeholder
scanner reads a name only as far as it has name characters: the names of the parameters are read
whole exactly when the database names are made of name characters. Under that condition, and with
names quoted, every name the condition refers to has a value and the condition reads, with SQL's
precedence, as the page's keys matching the row's (`pageRestricted_restricts`). A database name
with a hyphen cuts its parameter's name short, and binding fails
(`composite_key_parameter_cut_at_hyphen`). A single key is compared with one list of values,
bound under a fixed name, or with the values' numeric literals. An integer's literal is read back
as that integer, so the list means the same as the values; a float's literal is its shortest
decimal, which need not spell its value, and for it nothing is claimed.
-/

namespace EntitySql

/-! ### Numeric literals -/

def numberChar (ch : Char) : Bool :=
  ch.isDigit || ch == '-' || ch == '.' || ch == 'e' || ch == '+'

theorem all_numberChar_digits (n : Nat) : (Nat.toDigits 10 n).all numberChar = true := by
  rw [List.all_eq_true]
  intro ch h
  simp [numberChar, Nat.isDigit_of_mem_toDigits (by decide) (by decide) h]

theorem positionalText_numbers (st : FloatStyle) {ds : List Char} (e : Int)
    (hds : ds.all numberChar = true) : (st.positionalText ds e).toList.all numberChar = true := by
  have htake : ∀ n, (ds.take n).all numberChar = true := fun n =>
    List.all_eq_true.2 fun ch h => List.all_eq_true.1 hds ch (List.mem_of_mem_take h)
  have hdrop : ∀ n, (ds.drop n).all numberChar = true := fun n =>
    List.all_eq_true.2 fun ch h => List.all_eq_true.1 hds ch (List.mem_of_mem_drop h)
  have hzero : numberChar '0' = true := rfl
  have hdot : numberChar '.' = true := rfl
  unfold FloatStyle.positionalText
  split
  · simp [String.toList_append, List.all_append, hds, List.all_replicate, hzero, hdot]
  · dsimp only
    split
    · simp only [String.toList_append, String.toList_ofList, List.all_append, htake,
        List.all_replicate, hzero, Bool.true_and]
      by_cases hk : st.keepPointZero = true <;> simp [hk, hzero, hdot]
    · simp [String.toList_append, List.all_append, htake, hdrop, List.all_replicate, hzero, hdot]

theorem exponentText_numbers (st : FloatStyle) {ds : List Char} (e : Int)
    (hds : ds.all numberChar = true) : (st.exponentText ds e).toList.all numberChar = true := by
  unfold FloatStyle.exponentText
  simp only [String.toList_append, List.all_append, Bool.and_eq_true]
  refine ⟨⟨⟨?_, rfl⟩, ?_⟩, ?_⟩
  · -- the mantissa: its first digit, then a point and the others when there are others
    split
    · rfl
    · simpa using hds
    · simp only [List.all_cons, Bool.and_eq_true] at hds
      simp only [String.toList_append, List.all_append, Bool.and_eq_true]
      exact ⟨⟨by simpa using hds.1, rfl⟩, by simpa using hds.2⟩
  · split
    · rfl
    · split <;> rfl
  · simpa [Nat.toString_eq_repr, Nat.toList_repr] using all_numberChar_digits e.natAbs

theorem render_numbers (st : FloatStyle) (x : Float) :
    (st.render x).toList.all numberChar = true := by
  unfold FloatStyle.render
  simp only [String.toList_append, List.all_append, Bool.and_eq_true]
  refine ⟨by split <;> rfl, ?_⟩
  split
  · split <;> rfl
  · split
    · exact positionalText_numbers _ _ (all_numberChar_digits _)
    · exact exponentText_numbers _ _ (all_numberChar_digits _)

theorem numericLiteral_numbers {v : Value} {t : String} (h : v.numericLiteral? = some t) :
    t.toList.all numberChar = true := by
  cases v with
  | int n =>
    simp only [Value.numericLiteral?, Option.some.injEq] at h
    subst h
    cases n with
    | ofNat m => simpa [toString, Int.repr] using all_numberChar_digits m
    | negSucc m =>
      have hdigits := all_numberChar_digits (m + 1)
      simp only [List.all_eq_true] at hdigits
      simpa [toString, Int.repr] using ⟨rfl, hdigits⟩
  | float x =>
    simp only [Value.numericLiteral?] at h
    split at h
    · cases h
      exact render_numbers _ _
    · cases h
  | _ => simp [Value.numericLiteral?] at h

namespace DataSource

/-! ### The restriction to the keys of a page -/

theorem foldl_mergeParams {α : Type} (f : QueryState × List String → α → QueryState × List String)
    (pairs : α → List (String × Value)) (text : α → String)
    (hf : ∀ t acc x, f (t, acc) x =
      ({ t with parameters := mergeParams t.parameters (pairs x) }, acc ++ [text x])) :
    ∀ (xs : List α) (t : QueryState) (acc : List String), xs.foldl f (t, acc) =
      ({ t with parameters := mergeParams t.parameters (xs.flatMap pairs) }, acc ++ xs.map text)
  | [], t, acc => by simp [mergeParams]
  | x :: xs, t, acc => by
    rw [List.foldl_cons, hf, foldl_mergeParams f pairs text hf xs]
    simp [mergeParams, List.foldl_append]

/-- The parameters a composite key sets for a page: for the `i`-th entity, one for each key
column, holding the entity's value for it. -/
def pageKeyParams (d : Dialect) (aliasName : String) (keys : List Column) (idRows : List Row) :
    List (String × Value) :=
  idRows.zipIdx.flatMap fun x => keys.map fun c => (pageKeyParam x.2 c, pageKeyValue d aliasName x.1 c)

/-- The restriction to the composite keys of a page: one alternative for each entity, comparing
every key column with its parameter. -/
def compositeKeyText (s : QueryState) (aliasName : String) (keys : List Column)
    (idRows : List Row) : String :=
  "(" ++ " OR ".intercalate (idRows.zipIdx.map fun x => "(" ++ " AND ".intercalate
    (keys.map fun c => s.escape aliasName ++ "." ++ s.escape c.databaseName ++ " = :" ++
      pageKeyParam x.2 c) ++ ")") ++ ")"

theorem pageCondition_composite (s : QueryState) (aliasName : String) (keys : List Column)
    (idRows : List Row) (hk : ∀ c, keys ≠ [c]) :
    pageCondition s aliasName keys idRows =
      ({ s with parameters := mergeParams s.parameters (pageKeyParams s.dialect aliasName keys idRows) },
        compositeKeyText s aliasName keys idRows) := by
  unfold pageCondition
  split
  · rename_i c
    exact absurd rfl (hk c)
  · dsimp only
    rw [foldl_mergeParams _ (fun x : Row × Nat => keys.map fun c =>
        (pageKeyParam x.2 c, pageKeyValue s.dialect aliasName x.1 c))
      (fun x => "(" ++ " AND ".intercalate (keys.map fun c => s.escape aliasName ++ "." ++
        s.escape c.databaseName ++ " = :" ++ pageKeyParam x.2 c) ++ ")")]
    · rfl
    · rintro t acc ⟨row, i⟩
      rw [foldl_mergeParams _ (fun c => [(pageKeyParam i c, pageKeyValue s.dialect aliasName row c)])
        (fun c => s.escape aliasName ++ "." ++ s.escape c.databaseName ++ " = :" ++ pageKeyParam i c)]
      · simp [← List.map_eq_flatMap]
      · intro t acc c
        rfl

theorem append_underscore_inj {D D' X X' : List Char} (hD : '_' ∉ D) (hD' : '_' ∉ D')
    (h : D ++ '_' :: X = D' ++ '_' :: X') : D = D' ∧ X = X' := by
  induction D generalizing D' with
  | nil =>
    cases D' with
    | nil => simpa using h
    | cons c D' =>
      simp only [List.nil_append, List.cons_append, List.cons.injEq] at h
      obtain ⟨rfl, -⟩ := h
      exact (hD' List.mem_cons_self).elim
  | cons c D ih =>
    cases D' with
    | nil =>
      simp only [List.nil_append, List.cons_append, List.cons.injEq] at h
      obtain ⟨rfl, -⟩ := h
      exact (hD List.mem_cons_self).elim
    | cons c' D' =>
      simp only [List.cons_append, List.cons.injEq] at h
      obtain ⟨rfl, h⟩ := h
      obtain ⟨rfl, rfl⟩ := ih (fun hm => hD (List.mem_cons_of_mem c hm))
        (fun hm => hD' (List.mem_cons_of_mem c hm)) h
      exact ⟨rfl, rfl⟩

theorem pageKeyParam_inj {i i' : Nat} {c c' : Column} (h : pageKeyParam i c = pageKeyParam i' c') :
    i = i' ∧ c.databaseName = c'.databaseName := by
  have hl := congrArg String.toList h
  have hsep : "_".toList = ['_'] := by simp
  unfold pageKeyParam at hl
  simp only [String.toList_append, List.append_assoc] at hl
  have hrest := List.append_cancel_left hl
  rw [hsep, List.singleton_append, List.singleton_append] at hrest
  simp only [Nat.toString_eq_repr, Nat.toList_repr] at hrest
  obtain ⟨hdigits, hdb⟩ := append_underscore_inj Nat.underscore_not_in_toDigits
    Nat.underscore_not_in_toDigits hrest
  refine ⟨?_, String.toList_inj.1 hdb⟩
  rw [← Nat.ofDigitChars_ten_toDigits (n := i), hdigits, Nat.ofDigitChars_ten_toDigits]

theorem lookup_of_unique {L : List (String × Value)} {k : String} {v : Value} (hmem : (k, v) ∈ L)
    (huniq : ∀ v', (k, v') ∈ L → v' = v) : L.lookup k = some v := by
  induction L with
  | nil => cases hmem
  | cons e L ih =>
    obtain ⟨k', v'⟩ := e
    rw [List.lookup_cons]
    by_cases hk : k = k'
    · subst hk
      simp only [beq_self_eq_true]
      rw [huniq v' List.mem_cons_self]
    · have hne : (k == k') = false := by simpa using hk
      simp only [hne]
      rcases List.mem_cons.1 hmem with h | h
      · simp only [Prod.mk.injEq] at h
        exact absurd h.1 hk
      · exact ih h fun w hw => huniq w (List.mem_cons_of_mem _ hw)

theorem lookup_pageKeyParams (d : Dialect) (aliasName : String) (keys : List Column)
    (idRows : List Row) {i : Nat} {row : Row} {c : Column} (hrow : idRows[i]? = some row)
    (hc : c ∈ keys) (ps : List (String × Value)) :
    (mergeParams ps (pageKeyParams d aliasName keys idRows)).lookup (pageKeyParam i c) =
      some (pageKeyValue d aliasName row c) := by
  have hvalue : ∀ v', (pageKeyParam i c, v') ∈ pageKeyParams d aliasName keys idRows →
      v' = pageKeyValue d aliasName row c := by
    intro v' hv'
    obtain ⟨⟨row', i'⟩, hx, hpair⟩ := List.mem_flatMap.1 hv'
    obtain ⟨c', -, hc'⟩ := List.mem_map.1 hpair
    simp only [Prod.mk.injEq] at hc'
    obtain ⟨hi, hdb⟩ := pageKeyParam_inj hc'.1
    have hrow' : idRows[i']? = some row' := List.mem_zipIdx_iff_getElem?.1 hx
    rw [hi, hrow] at hrow'
    cases hrow'
    rw [← hc'.2]
    simp [pageKeyValue, hdb]
  have hmem : (pageKeyParam i c, pageKeyValue d aliasName row c) ∈
      pageKeyParams d aliasName keys idRows :=
    List.mem_flatMap.2 ⟨(row, i), List.mem_zipIdx_iff_getElem?.2 hrow, List.mem_map.2 ⟨c, hc, rfl⟩⟩
  rw [lookup_mergeParams, lookup_of_unique (List.mem_reverse.2 hmem)
    fun v' hv' => hvalue v' (List.mem_reverse.1 hv')]
  rfl

open Sql Placeholder

theorem isName_pageKeyParam (i : Nat) {c : Column}
    (hdb : c.databaseName.toList.all isNameChar = true) :
    isName (pageKeyParam i c).toList = true := by
  have hdigits : ∀ ch ∈ Nat.toDigits 10 i, isNameChar ch = true := by
    intro ch hch
    have hd : ch.isDigit = true := Nat.isDigit_of_mem_toDigits (by decide) (by decide) hch
    simp [isNameChar, Char.isAlphanum, hd]
  unfold pageKeyParam
  simp only [String.toList_append, Nat.toString_eq_repr, Nat.toList_repr]
  have hstart : "orm_distinct_ids_".toList = 'o' :: "rm_distinct_ids_".toList := by simp
  have hsep : "_".toList = ['_'] := by simp
  rw [hstart, hsep]
  simp only [List.cons_append, isName, Bool.and_eq_true, List.all_append]
  refine ⟨by decide, ⟨⟨by decide, List.all_eq_true.2 hdigits⟩, by decide⟩, hdb⟩

/-- What the restriction to the keys of a page says of a row, in SQL's logic: that its key
columns equal, one by one, the keys of one of the page's entities. -/
def pageKeysMatch (env : Env) (d : Dialect) (aliasName : String) (keys : List Column)
    (idRows : List Row) : Truth :=
  Truth.any (idRows.map fun row => Truth.all (keys.map fun c =>
    env.engine.test .eq (env.column ⟨some aliasName, c.databaseName⟩) (pageKeyValue d aliasName row c)))

theorem pageKeysMatch_single (env : Env) (d : Dialect) (aliasName : String) (c : Column)
    (idRows : List Row) :
    pageKeysMatch env d aliasName [c] idRows =
      Truth.any ((idRows.map fun r => pageKeyValue d aliasName r c).map
        (env.engine.test .eq (env.column ⟨some aliasName, c.databaseName⟩))) := by
  simp [pageKeysMatch, List.map_map, Function.comp_def]

theorem compositeKeys_match (env : Env) {d : Dialect} {aliasName : String} {keys : List Column}
    {idRows : List Row} {ps : List (String × Value)}
    (henv : ∀ n v, (mergeParams ps (pageKeyParams d aliasName keys idRows)).lookup n = some v →
      env.param n = v) :
    Truth.any (idRows.zipIdx.map fun x => Truth.all (keys.map fun c =>
        env.engine.test .eq (env.column ⟨some aliasName, c.databaseName⟩)
          (env.param (pageKeyParam x.2 c)))) =
      pageKeysMatch env d aliasName keys idRows := by
  have hrows : idRows.zipIdx.map (fun x => Truth.all (keys.map fun c =>
      env.engine.test .eq (env.column ⟨some aliasName, c.databaseName⟩)
        (env.param (pageKeyParam x.2 c)))) =
      (idRows.zipIdx.map Prod.fst).map fun row => Truth.all (keys.map fun c =>
        env.engine.test .eq (env.column ⟨some aliasName, c.databaseName⟩)
          (pageKeyValue d aliasName row c)) := by
    rw [List.map_map]
    refine List.map_congr_left fun x hx => ?_
    simp only [Function.comp_apply]
    congr 1
    refine List.map_congr_left fun c hc => ?_
    rw [henv _ _ (lookup_pageKeyParams _ _ _ _ (List.mem_zipIdx_iff_getElem?.1 hx) hc ps)]
  rw [hrows, List.zipIdx_map_fst]
  rfl

theorem compositeKeyText_eq {s : QueryState} (hesc : s.disableEscaping = false)
    (aliasName : String) (keys : List Column) (idRows : List Row) :
    compositeKeyText s aliasName keys idRows =
      "(" ++ " OR ".intercalate (idRows.zipIdx.map fun x => "(" ++ " AND ".intercalate
        (keys.map fun c => ColumnRef.write s.dialect ⟨some aliasName, c.databaseName⟩ ++ " = :" ++
          pageKeyParam x.2 c) ++ ")") ++ ")" := by
  simp [compositeKeyText, QueryState.escape, hesc, ColumnRef.write]

theorem writesConj_keyAlternative (d : Dialect) (aliasName : String) {keys : List Column}
    (hdb : ∀ c ∈ keys, c.databaseName.toList.all isNameChar = true) (hkeys : keys ≠ [])
    (i : Nat) :
    WritesConj d ("(" ++ " AND ".intercalate (keys.map fun c =>
        ColumnRef.write d ⟨some aliasName, c.databaseName⟩ ++ " = :" ++ pageKeyParam i c) ++ ")")
      fun env => Truth.all (keys.map fun c =>
        env.engine.test .eq (env.column ⟨some aliasName, c.databaseName⟩)
          (env.param (pageKeyParam i c))) := by
  have heqs : List.Forall₂ (WritesConj d)
      (keys.map fun c => ColumnRef.write d ⟨some aliasName, c.databaseName⟩ ++ " = :" ++
        pageKeyParam i c)
      (keys.map fun c env => env.engine.test .eq (env.column ⟨some aliasName, c.databaseName⟩)
        (env.param (pageKeyParam i c))) :=
    List.forall₂_map_left_iff.2 (List.forall₂_map_right_iff.2 (List.forall₂_same.2
      fun c hc => BoundOp.writesConj_compare .eq rfl (isName_pageKeyParam i (hdb c hc))))
  have hconj := writesConj_intercalate heqs (by simpa using hkeys)
  exact hconj.group.paren.conj.congr fun env => by simp [List.map_map, Function.comp_def]

theorem compositeKeyText_reads {s : QueryState} (hesc : s.disableEscaping = false)
    (aliasName : String) {keys : List Column}
    (hdb : ∀ c ∈ keys, c.databaseName.toList.all isNameChar = true) (hkeys : keys ≠ [])
    {idRows : List Row} (hrows : idRows ≠ []) :
    ∃ C, read s.dialect (compositeKeyText s aliasName keys idRows) = some C ∧ ∀ env,
      C.eval env = Truth.any (idRows.zipIdx.map fun x => Truth.all (keys.map fun c =>
        env.engine.test .eq (env.column ⟨some aliasName, c.databaseName⟩)
          (env.param (pageKeyParam x.2 c)))) := by
  have halts : List.Forall₂ (WritesConj s.dialect)
      (idRows.zipIdx.map fun x => "(" ++ " AND ".intercalate (keys.map fun c =>
        ColumnRef.write s.dialect ⟨some aliasName, c.databaseName⟩ ++ " = :" ++
          pageKeyParam x.2 c) ++ ")")
      (idRows.zipIdx.map fun x env => Truth.all (keys.map fun c =>
        env.engine.test .eq (env.column ⟨some aliasName, c.databaseName⟩)
          (env.param (pageKeyParam x.2 c)))) :=
    List.forall₂_map_left_iff.2 (List.forall₂_map_right_iff.2 (List.forall₂_same.2
      fun x _ => writesConj_keyAlternative s.dialect aliasName hdb hkeys x.2))
  have hor := writesGroup_intercalate_or halts (by simpa using hrows)
  obtain ⟨C, hC, hm⟩ := hor.paren.conj.group.read
  refine ⟨C, by rw [compositeKeyText_eq hesc]; exact hC, fun env => ?_⟩
  rw [hm]
  simp [List.map_map, Function.comp_def]

theorem namesBound_keyEquals {d : Dialect} {named : List (String × Value)} (r : ColumnRef)
    {p : String} (hp : isName p.toList = true) (hv : (named.lookup p).isSome = true) :
    NamesBound d named (r.write d ++ " = :" ++ p).toList := by
  have hplain : ∀ c ∈ " = ".toList, closingQuote d c = none ∧ c ≠ ':' :=
    plain_of_all (by cases d <;> decide)
  have htext : (r.write d ++ " = :" ++ p).toList =
      (r.write d).toList ++ (" = ".toList ++ ':' :: p.toList) := by
    simp [String.toList_append]
  rw [htext]
  exact (namesBound_column r).append (NamesBound.plain hplain (namesBound_ref hp hv))
    fun rest _ => Sql.boundary_space _

theorem compositeKeyText_bound {s : QueryState} (hesc : s.disableEscaping = false)
    (aliasName : String) {keys : List Column}
    (hdb : ∀ c ∈ keys, c.databaseName.toList.all isNameChar = true) (idRows : List Row)
    (named : List (String × Value))
    (hnamed : ∀ x ∈ idRows.zipIdx, ∀ c ∈ keys, (named.lookup (pageKeyParam x.2 c)).isSome = true) :
    NamesBound s.dialect named (compositeKeyText s aliasName keys idRows).toList := by
  have hor : ∀ c ∈ " OR ".toList, closingQuote s.dialect c = none ∧ c ≠ ':' :=
    plain_of_all (by cases s.dialect <;> decide)
  have hand : ∀ c ∈ " AND ".toList, closingQuote s.dialect c = none ∧ c ≠ ':' :=
    plain_of_all (by cases s.dialect <;> decide)
  rw [compositeKeyText_eq hesc]
  refine NamesBound.paren (NamesBound.intercalate hor ⟨_, rfl⟩ fun t ht => ?_)
  obtain ⟨x, hx, rfl⟩ := List.mem_map.1 ht
  refine NamesBound.paren (NamesBound.intercalate hand ⟨_, rfl⟩ fun u hu => ?_)
  obtain ⟨c, hc, rfl⟩ := List.mem_map.1 hu
  exact namesBound_keyEquals _ (isName_pageKeyParam x.2 (hdb c hc)) (hnamed x hx c hc)

/-! ### A single key -/

theorem pageCondition_single (s : QueryState) (aliasName : String) (c : Column)
    (idRows : List Row) :
    pageCondition s aliasName [c] idRows =
      match (idRows.map fun r => pageKeyValue s.dialect aliasName r c).mapM
          Value.numericLiteral? with
      | some literals => (s, s.escape aliasName ++ "." ++ s.escape c.databaseName ++ " IN (" ++
          ", ".intercalate literals ++ ")")
      | none =>
        ({ s with
            parameters := setParam s.parameters "orm_distinct_ids"
              (.array (idRows.map fun r => pageKeyValue s.dialect aliasName r c)) },
          s.escape aliasName ++ "." ++ s.escape c.databaseName ++ " IN (:...orm_distinct_ids)") :=
  rfl

theorem spreadValues_array {vs : List Value} (h : vs ≠ []) : spreadValues (.array vs) = vs := by
  cases vs with
  | nil => exact absurd rfl h
  | cons v vs => rfl

theorem spreadKeyText_reads {s : QueryState} (hesc : s.disableEscaping = false)
    (aliasName : String) (c : Column) {values : List Value} (hvalues : values ≠ []) :
    ∃ C, read s.dialect (s.escape aliasName ++ "." ++ s.escape c.databaseName ++
        " IN (:...orm_distinct_ids)") = some C ∧
      ∀ env, env.param "orm_distinct_ids" = .array values →
        C.eval env = Truth.any (values.map
          (env.engine.test .eq (env.column ⟨some aliasName, c.databaseName⟩))) := by
  have hin := BoundOp.writesConj_inList (d := s.dialect) (r := ⟨some aliasName, c.databaseName⟩)
    false (l := " IN (:...") (p := "orm_distinct_ids") rfl (by decide)
  obtain ⟨C, hC, hm⟩ := hin.group.read
  have htext : s.escape aliasName ++ "." ++ s.escape c.databaseName ++ " IN (:...orm_distinct_ids)" =
      ColumnRef.write s.dialect ⟨some aliasName, c.databaseName⟩ ++ " IN (:..." ++
        "orm_distinct_ids" ++ ")" := by
    simp [QueryState.escape, hesc, ColumnRef.write, String.append_assoc]
  refine ⟨C, htext ▸ hC, fun env hparam => ?_⟩
  rw [hm, hparam, spreadValues_array hvalues]
  rfl

theorem spreadKeyText_bound {s : QueryState} (hesc : s.disableEscaping = false)
    (aliasName : String) (c : Column) (named : List (String × Value))
    (hv : (named.lookup "orm_distinct_ids").isSome = true) :
    NamesBound s.dialect named (s.escape aliasName ++ "." ++ s.escape c.databaseName ++
      " IN (:...orm_distinct_ids)").toList := by
  have hin : ∀ x ∈ " IN (".toList, closingQuote s.dialect x = none ∧ x ≠ ':' :=
    plain_of_all (by cases s.dialect <;> decide)
  have hclose : ∀ x ∈ [')'], closingQuote s.dialect x = none ∧ x ≠ ':' :=
    plain_of_all (by cases s.dialect <;> decide)
  have htext : (s.escape aliasName ++ "." ++ s.escape c.databaseName ++
      " IN (:...orm_distinct_ids)").toList =
      (ColumnRef.write s.dialect ⟨some aliasName, c.databaseName⟩).toList ++ (" IN (".toList ++
        ((':' :: '.' :: '.' :: '.' :: "orm_distinct_ids".toList) ++ [')'])) := by
    simp [QueryState.escape, hesc, ColumnRef.write, String.toList_append]
  rw [htext]
  have hlist : NamesBound s.dialect named
      ((':' :: '.' :: '.' :: '.' :: "orm_distinct_ids".toList) ++ [')']) :=
    (namesBound_spreadRef (by decide) hv).append (by simpa using NamesBound.plain hclose namesBound_nil)
      fun rest _ => Sql.boundary_rparen rest
  exact (namesBound_column _).append (NamesBound.plain hin hlist) fun rest _ => Sql.boundary_space _

theorem intercalate_all (P : Char → Bool) (sep : String) (hsep : sep.toList.all P = true) :
    ∀ {texts : List String}, (∀ t ∈ texts, t.toList.all P = true) →
      (sep.intercalate texts).toList.all P = true
  | [], _ => rfl
  | [t], h => by simpa using h t (by simp)
  | t :: t' :: ts, h => by
    rw [String.intercalate_cons_cons, String.toList_append, String.toList_append, List.all_append,
      List.all_append, h t List.mem_cons_self, hsep,
      intercalate_all P sep hsep fun x hx => h x (List.mem_cons_of_mem t hx)]
    rfl

theorem literalKeyText_firstMissing {s : QueryState} (hesc : s.disableEscaping = false)
    (aliasName : String) (c : Column) {literals : List String}
    (hlits : ∀ t ∈ literals, t.toList.all numberChar = true) (named : List (String × Value)) :
    firstMissing named (tokens s.dialect (s.escape aliasName ++ "." ++ s.escape c.databaseName ++
      " IN (" ++ ", ".intercalate literals ++ ")").toList) = none := by
  have hcolumn : NamesBound s.dialect named
      (ColumnRef.write s.dialect ⟨some aliasName, c.databaseName⟩).toList :=
    namesBound_column _
  obtain ⟨ts, htok, hts⟩ := hcolumn
  have hcolon : ':' ∉ (" IN (" ++ ", ".intercalate literals ++ ")").toList := by
    have hnumbers : ∀ t ∈ literals, t.toList.all (· != ':') = true := by
      intro t ht
      refine List.all_eq_true.2 fun x hx => ?_
      have hnum := List.all_eq_true.1 (hlits t ht) x hx
      refine bne_iff_ne.2 fun h => ?_
      subst h
      exact absurd hnum (by decide)
    have hall := intercalate_all (· != ':') ", " (by decide) hnumbers
    simp only [String.toList_append, List.mem_append, not_or]
    refine ⟨⟨by decide, fun h => ?_⟩, by decide⟩
    exact absurd (List.all_eq_true.1 hall ':' h) (by decide)
  have hblank : Sql.Boundary (" IN (" ++ ", ".intercalate literals ++ ")").toList :=
    .inr ⟨_, .inl (by simp [String.toList_append]; rfl)⟩
  have htext : (s.escape aliasName ++ "." ++ s.escape c.databaseName ++ " IN (" ++
      ", ".intercalate literals ++ ")").toList =
      (ColumnRef.write s.dialect ⟨some aliasName, c.databaseName⟩).toList ++
        (" IN (" ++ ", ".intercalate literals ++ ")").toList := by
    simp [QueryState.escape, hesc, ColumnRef.write, String.toList_append]
  rw [htext, htok _ hblank, firstMissing_append, hts,
    firstMissing_tokens_of_colon_free _ _ hcolon]
  rfl

theorem mapM_numericLiteral_ints : ∀ {values : List Value} {literals : List String},
    values.mapM Value.numericLiteral? = some literals → (∀ v ∈ values, ∀ x, v ≠ .float x) →
      ∃ ns : List Int, values = ns.map .int ∧ literals = ns.map toString
  | [], literals, h, _ => by
    simp only [List.mapM_nil, pure, Option.some.injEq] at h
    exact ⟨[], rfl, h.symm⟩
  | v :: values, literals, h, hint => by
    rw [List.mapM_cons] at h
    simp only [bind, Option.bind_eq_some_iff, pure, Option.some.injEq] at h
    obtain ⟨t, ht, ts, hts, rfl⟩ := h
    obtain ⟨ns, rfl, rfl⟩ :=
      mapM_numericLiteral_ints hts fun w hw => hint w (List.mem_cons_of_mem v hw)
    cases v with
    | int n =>
      simp only [Value.numericLiteral?, Option.some.injEq] at ht
      exact ⟨n :: ns, rfl, by rw [← ht]; rfl⟩
    | float x => exact absurd rfl (hint _ List.mem_cons_self x)
    | _ => simp [Value.numericLiteral?] at ht

theorem literalKeyText_reads {s : QueryState} (hesc : s.disableEscaping = false)
    (aliasName : String) (c : Column) {ns : List Int} (hns : ns ≠ []) :
    ∃ C, read s.dialect (s.escape aliasName ++ "." ++ s.escape c.databaseName ++ " IN (" ++
        ", ".intercalate (ns.map toString) ++ ")") = some C ∧
      ∀ env, C.eval env = Truth.any (ns.map fun n =>
        env.engine.test .eq (env.column ⟨some aliasName, c.databaseName⟩) (.int n)) := by
  have htok := tokenizes_inNumbers s.dialect ⟨some aliasName, c.databaseName⟩ hns
  have htext : (s.escape aliasName ++ "." ++ s.escape c.databaseName ++ " IN (" ++
      ", ".intercalate (ns.map toString) ++ ")").toList =
      (ColumnRef.write s.dialect ⟨some aliasName, c.databaseName⟩).toList ++
        (" IN (" ++ ", ".intercalate (ns.map toString) ++ ")").toList := by
    simp [QueryState.escape, hesc, ColumnRef.write, String.toList_append]
  rw [← htext] at htok
  exact (writesOperand_atom htok).conj.group.read

theorem mem_of_mapM_eq_some {α β : Type} {f : α → Option β} :
    ∀ {l : List α} {r : List β}, l.mapM f = some r → ∀ b ∈ r, ∃ a ∈ l, f a = some b
  | [], r, h => by
    simp only [List.mapM_nil, pure, Option.some.injEq] at h
    subst h
    simp
  | a :: l, r, h => by
    rw [List.mapM_cons] at h
    simp only [bind, Option.bind_eq_some_iff, pure, Option.some.injEq] at h
    obtain ⟨b, hb, bs, hbs, rfl⟩ := h
    intro x hx
    rcases List.mem_cons.1 hx with rfl | hx
    · exact ⟨a, List.mem_cons_self, hb⟩
    · obtain ⟨y, hy, hfy⟩ := mem_of_mapM_eq_some hbs x hx
      exact ⟨y, List.mem_cons_of_mem a hy, hfy⟩

/-! ### The second statement -/

theorem pageRestricted_eq_pageCondition (s : QueryState) (aliasName : String)
    (keys : List Column) (idRows : List Row) :
    pageRestricted s aliasName keys idRows =
      { (pageCondition { s with skip := none, take := none } aliasName keys idRows).1 with
        extraWhere := some (pageCondition { s with skip := none, take := none } aliasName keys
          idRows).2 } := by
  unfold pageRestricted
  split
  rename_i outer condition hpc
  rw [hpc]

theorem pageRestricted_eq (s : QueryState) (aliasName : String) (keys : List Column)
    (idRows : List Row) :
    ∃ ps cond, pageRestricted s aliasName keys idRows =
      { s with skip := none, take := none, parameters := ps, extraWhere := some cond } := by
  obtain ⟨ps, hps⟩ := pageCondition_fst { s with skip := none, take := none } aliasName keys idRows
  refine ⟨ps, (pageCondition { s with skip := none, take := none } aliasName keys idRows).2, ?_⟩
  rw [pageRestricted_eq_pageCondition, hps]

/-- The restriction to the keys of a page, with names quoted: every name it refers to has a value
in the second statement. It reads with SQL's precedence as the page's keys matching the row's,
one entity after the other, for a composite key whose database names are made of name characters
and for a single key none of whose values on the page is a float. -/
theorem pageRestricted_restricts (s : QueryState) (aliasName : String) {keys : List Column}
    (idRows : List Row) (hesc : s.disableEscaping = false)
    (hdb : (∀ c, keys ≠ [c]) → ∀ c ∈ keys, c.databaseName.toList.all isNameChar = true)
    (hkeys : keys ≠ []) (hrows : idRows ≠ []) :
    ∃ cond, (pageRestricted s aliasName keys idRows).extraWhere = some cond ∧
      firstMissing (pageRestricted s aliasName keys idRows).parameters
        (tokens s.dialect cond.toList) = none ∧
      ((∀ c, keys = [c] → ∀ r ∈ idRows, ∀ x, pageKeyValue s.dialect aliasName r c ≠ .float x) →
        ∃ C, read s.dialect cond = some C ∧ ∀ env,
          (∀ n v, (pageRestricted s aliasName keys idRows).parameters.lookup n = some v →
            env.param n = v) →
          C.eval env = pageKeysMatch env s.dialect aliasName keys idRows) := by
  rw [pageRestricted_eq_pageCondition]
  have hesc' : ({ s with skip := none, take := none } : QueryState).disableEscaping = false := hesc
  by_cases hsingle : ∃ c, keys = [c]
  · obtain ⟨c, rfl⟩ := hsingle
    rw [pageCondition_single]
    have hvalues : (idRows.map fun r => pageKeyValue s.dialect aliasName r c) ≠ [] := by
      simpa using hrows
    cases hm : (idRows.map fun r => pageKeyValue s.dialect aliasName r c).mapM
        Value.numericLiteral? with
    | some literals =>
      have hnums : ∀ x ∈ literals, x.toList.all numberChar = true := by
        intro x hx
        obtain ⟨v, -, hv⟩ := mem_of_mapM_eq_some hm x hx
        exact numericLiteral_numbers hv
      refine ⟨_, rfl, literalKeyText_firstMissing hesc' aliasName c hnums _, fun hint => ?_⟩
      obtain ⟨ns, hns, rfl⟩ := mapM_numericLiteral_ints hm (by simpa using hint c rfl)
      have hne : ns ≠ [] := by
        rintro rfl
        exact hvalues hns
      obtain ⟨C, hC, hmean⟩ := literalKeyText_reads hesc' aliasName c hne
      refine ⟨C, hC, fun env _ => ?_⟩
      rw [hmean, pageKeysMatch_single, hns, List.map_map]
      rfl
    | none =>
      have hbound := spreadKeyText_bound hesc' aliasName c
        (setParam s.parameters "orm_distinct_ids"
          (.array (idRows.map fun r => pageKeyValue s.dialect aliasName r c)))
        (by simp [lookup_setParam])
      obtain ⟨C, hC, hmean⟩ := spreadKeyText_reads hesc' aliasName c hvalues
      refine ⟨_, rfl, hbound.firstMissing, fun _ => ⟨C, hC, fun env henv => ?_⟩⟩
      rw [hmean env (henv _ _ (by simp [lookup_setParam])), pageKeysMatch_single]
  · have hk : ∀ c, keys ≠ [c] := fun c h => hsingle ⟨c, h⟩
    rw [pageCondition_composite _ _ _ _ hk]
    have hbound := compositeKeyText_bound hesc' aliasName (hdb hk) idRows
      (mergeParams s.parameters (pageKeyParams s.dialect aliasName keys idRows))
      fun x hx c hc => by
        simp [lookup_pageKeyParams _ _ _ _ (List.mem_zipIdx_iff_getElem?.1 hx) hc]
    obtain ⟨C, hC, hm⟩ := compositeKeyText_reads hesc' aliasName (hdb hk) hkeys hrows
    refine ⟨_, rfl, hbound.firstMissing, fun _ => ⟨C, hC, fun env henv => ?_⟩⟩
    rw [hm, compositeKeys_match env henv]

theorem pageRestricted_compileWhere (s : QueryState) (aliasName : String) (keys : List Column)
    (idRows : List Row) {cond : String}
    (h : (pageRestricted s aliasName keys idRows).extraWhere = some cond) (p : Bool) :
    (pageRestricted s aliasName keys idRows).compileWhere p =
      (s.builtConditions p).map fun built => whereClause (built ++ s.impliedConditions p ++ [cond]) := by
  rw [pageRestricted_eq_pageCondition] at h ⊢
  obtain rfl := Option.some.inj h
  exact compileWhere_pageRestricted s aliasName keys idRows _ p

theorem pageRestricted_effectivePagination (s : QueryState) (aliasName : String)
    (keys : List Column) (idRows : List Row) :
    (pageRestricted s aliasName keys idRows).effectivePagination = (s.limit, s.offset) := by
  obtain ⟨ps, cond, h⟩ := pageRestricted_eq s aliasName keys idRows
  rw [h]
  unfold QueryState.effectivePagination
  split
  · -- no limit and no offset: the skip and take it would stand for are gone
    rename_i hnone
    obtain ⟨hl, ho, -⟩ := hnone
    simp only [Option.isNone_iff_eq_none] at hl ho
    simp [hl, ho]
  · rfl

/-! ### The first statement -/

theorem isPrefixOf_iff {p t : String} : p.isPrefixOf t = true ↔ ∃ rest, t = p ++ rest := by
  unfold String.isPrefixOf
  rw [String.startsWith_string_iff]
  constructor
  · rintro ⟨rest, h⟩
    refine ⟨String.ofList rest, String.toList_inj.1 ?_⟩
    simp [String.toList_append, h]
  · rintro ⟨rest, rfl⟩
    exact ⟨rest.toList, by simp [String.toList_append]⟩

theorem orderKeysLast_cons (columnOf : String → String) (p : String) (primaries orders : List String) :
    orderKeysLast columnOf (p :: primaries) orders = orderKeysLast columnOf primaries
      (if orders.any fun o => (columnOf p ++ " ").isPrefixOf o then orders
        else orders ++ [columnOf p ++ " ASC"]) := rfl

theorem orderKeysLast_keeps_orders (columnOf : String → String) :
    ∀ (primaries orders : List String), orders <+: orderKeysLast columnOf primaries orders
  | [], orders => List.prefix_refl orders
  | p :: primaries, orders => by
    rw [orderKeysLast_cons]
    refine List.IsPrefix.trans ?_ (orderKeysLast_keeps_orders columnOf primaries _)
    split
    · exact List.prefix_refl orders
    · exact List.prefix_append orders _

theorem orderKeysLast_covers (columnOf : String → String) :
    ∀ (primaries orders : List String), ∀ p ∈ primaries,
      ∃ o ∈ orderKeysLast columnOf primaries orders, ∃ rest, o = columnOf p ++ " " ++ rest
  | [], _, p, hp => by cases hp
  | q :: primaries, orders, p, hp => by
    rw [orderKeysLast_cons]
    rcases List.mem_cons.1 hp with rfl | hp
    · -- the key's order is there already, or is added now; later keys keep it
      obtain ⟨o, ho, rest, hrest⟩ : ∃ o ∈ (if orders.any fun o => (columnOf p ++ " ").isPrefixOf o
          then orders else orders ++ [columnOf p ++ " ASC"]), ∃ rest, o = columnOf p ++ " " ++ rest := by
        split
        · rename_i hany
          obtain ⟨o, ho, hpre⟩ := List.any_eq_true.1 hany
          obtain ⟨rest, hrest⟩ := isPrefixOf_iff.1 hpre
          exact ⟨o, ho, rest, hrest⟩
        · exact ⟨_, List.mem_append_right _ List.mem_cons_self, "ASC", by rw [String.append_assoc]; rfl⟩
      exact ⟨o, (orderKeysLast_keeps_orders columnOf primaries _).subset ho, rest, hrest⟩
    · exact orderKeysLast_covers columnOf primaries _ p hp

theorem pageKeysQuery_eq_ok {reg : Registry} {s : QueryState} {aliasName : String} {e : Entity}
    {sql : String} (h : pageKeysQuery reg s aliasName e = .ok sql) :
    ∃ innerSql selects orders page,
      { s with skip := none, take := none, orderBys := [], lockMode := none }.compileSelect reg =
        .ok innerSql ∧
      s.dialect.paginationClause s.take s.skip true = .ok page ∧
      (e.primaryColumns.map fun c =>
        s.escape "distinctAlias" ++ "." ++ s.escape (s.dialect.buildColumnAlias aliasName c.databaseName) ++
          " AS " ++ s.escape ("ids_" ++ s.dialect.buildColumnAlias aliasName c.databaseName)) <+: selects ∧
      (∀ c ∈ e.primaryColumns, ∃ o ∈ orders, ∃ rest, o = s.escape "distinctAlias" ++ "." ++
        s.escape (s.dialect.buildColumnAlias aliasName c.databaseName) ++ " " ++ rest) ∧
      sql = "SELECT DISTINCT " ++ ", ".intercalate selects ++ " FROM (" ++ innerSql ++ ") " ++
        s.escape "distinctAlias" ++ " ORDER BY " ++ ", ".intercalate orders ++ page := by
  unfold pageKeysQuery at h
  cases hinner : ({ s with skip := none, take := none, orderBys := [], lockMode := none } :
      QueryState).compileSelect reg with
  | error err => simp [hinner] at h; cases h
  | ok innerSql =>
    cases hpage : s.dialect.paginationClause s.take s.skip true with
    | error err => simp [hinner, hpage, bind, Except.bind] at h
    | ok page =>
      simp only [hinner, hpage, bind, Except.bind, pure, Except.pure, Except.ok.injEq] at h
      refine ⟨innerSql, _, _, page, rfl, rfl, ?_, fun c hc => ?_, h.symm⟩
      · -- the orders asked for only add result columns after the keys
        apply foldl_preserves (fun acc : List String × List String => _ <+: acc.1)
        · rintro ⟨sel, ords⟩ o hsel
          dsimp only
          split
          · split
            · exact hsel
            · exact hsel.trans (List.prefix_append sel _)
          · exact hsel
        · rw [List.map_map]
          exact List.prefix_refl _
      · exact orderKeysLast_covers _ _ _ _ (List.mem_map_of_mem hc)
/-! ### The two statements -/

open ExecM in
theorem pagedRows_exec (ds : DataSource) (id : RunnerId) {s : QueryState} {main : Alias}
    {e : Entity} {sql sent : String} {params : List Value} (hmain : s.mainAlias = .ok main)
    (he : main.metadata = .ok e) (hsql : pageKeysQuery ds.registry s main.name e = .ok sql)
    (hbind : s.dialect.bindNamed sql s.parameters s.nativeParameters = .ok (sent, params))
    (w : World) :
    (ds.pagedRows id s).exec w =
      match (ds.query id sent params).exec w with
      | (.ok r, w') => if r.rows.isEmpty then (.ok [], w')
        else (ds.loadRaw id (pageRestricted s main.name e.primaryColumns r.rows)).exec w'
      | (.error err, w') => (.error err, w') := by
  unfold pagedRows
  simp only [exec_bind, exec_ofResult, hmain, he, hsql, hbind]
  rcases (ds.query id sent params).exec w with ⟨_ | r, w'⟩
  · rfl
  · dsimp only
    split <;> rfl

/-- Paging by entity over joined rows, with names quoted, for a main alias whose key is one
column or whose key columns have database names made of name characters. The first statement
selects the distinct keys of the select without paging, ordering or lock, each under the result
name `ids_` and its column alias, ordered as asked and then by every key, and paged by the
select's `take` and `skip`. Once it is bound and sent, a page without rows ends the run with no
other statement. Otherwise the second statement is the select without `skip` and `take`, paged by
its limit and offset only, whose WHERE clause ends with the restriction to the keys read: every
name that restriction refers to has a value, and, unless a single key has a float among its
values, it holds of a row exactly when the row's keys equal those of one entity of the page. -/
theorem paging_by_entity_restricts_to_page_keys (ds : DataSource) (id : RunnerId)
    (s : QueryState) {main : Alias} {e : Entity} (hmain : s.mainAlias = .ok main)
    (he : main.metadata = .ok e) (hesc : s.disableEscaping = false)
    (hdb : (∀ c, e.primaryColumns ≠ [c]) →
      ∀ c ∈ e.primaryColumns, c.databaseName.toList.all isNameChar = true)
    (hkeys : e.primaryColumns ≠ []) :
    (∀ sql, pageKeysQuery ds.registry s main.name e = .ok sql →
      ∃ innerSql selects orders page,
        { s with skip := none, take := none, orderBys := [], lockMode := none }.compileSelect
          ds.registry = .ok innerSql ∧
        s.dialect.paginationClause s.take s.skip true = .ok page ∧
        (e.primaryColumns.map fun c =>
          s.escape "distinctAlias" ++ "." ++
            s.escape (s.dialect.buildColumnAlias main.name c.databaseName) ++ " AS " ++
            s.escape ("ids_" ++ s.dialect.buildColumnAlias main.name c.databaseName)) <+: selects ∧
        (∀ c ∈ e.primaryColumns, ∃ o ∈ orders, ∃ rest, o = s.escape "distinctAlias" ++ "." ++
          s.escape (s.dialect.buildColumnAlias main.name c.databaseName) ++ " " ++ rest) ∧
        sql = "SELECT DISTINCT " ++ ", ".intercalate selects ++ " FROM (" ++ innerSql ++ ") " ++
          s.escape "distinctAlias" ++ " ORDER BY " ++ ", ".intercalate orders ++ page) ∧
    (∀ sql sent params w, pageKeysQuery ds.registry s main.name e = .ok sql →
      s.dialect.bindNamed sql s.parameters s.nativeParameters = .ok (sent, params) →
      (ds.pagedRows id s).exec w =
        match (ds.query id sent params).exec w with
        | (.ok r, w') => if r.rows.isEmpty then (.ok [], w')
          else (ds.loadRaw id (pageRestricted s main.name e.primaryColumns r.rows)).exec w'
        | (.error err, w') => (.error err, w')) ∧
    (∀ idRows, idRows ≠ [] → ∃ ps cond,
      pageRestricted s main.name e.primaryColumns idRows =
        { s with skip := none, take := none, parameters := ps, extraWhere := some cond } ∧
      (∀ p, (pageRestricted s main.name e.primaryColumns idRows).compileWhere p =
        (s.builtConditions p).map fun built =>
          whereClause (built ++ s.impliedConditions p ++ [cond])) ∧
      (pageRestricted s main.name e.primaryColumns idRows).effectivePagination =
        (s.limit, s.offset) ∧
      firstMissing ps (tokens s.dialect cond.toList) = none ∧
      ((∀ c, e.primaryColumns = [c] → ∀ r ∈ idRows, ∀ x,
          pageKeyValue s.dialect main.name r c ≠ .float x) →
        ∃ C, read s.dialect cond = some C ∧ ∀ env, (∀ n v, ps.lookup n = some v → env.param n = v) →
          C.eval env = pageKeysMatch env s.dialect main.name e.primaryColumns idRows)) := by
  refine ⟨fun sql hsql => pageKeysQuery_eq_ok hsql,
    fun sql sent params w hsql hbind => pagedRows_exec ds id hmain he hsql hbind w,
    fun idRows hrows => ?_⟩
  obtain ⟨ps, cond, heq⟩ := pageRestricted_eq s main.name e.primaryColumns idRows
  obtain ⟨cond', hcond, hbound, hreads⟩ :=
    pageRestricted_restricts s main.name idRows hesc hdb hkeys hrows
  have hextra : (pageRestricted s main.name e.primaryColumns idRows).extraWhere = some cond := by
    rw [heq]
  obtain rfl : cond' = cond := Option.some.inj (hcond.symm.trans hextra)
  rw [heq] at hbound hreads
  exact ⟨ps, cond', heq, pageRestricted_compileWhere _ _ _ _ hextra,
    pageRestricted_effectivePagination _ _ _ _, hbound, hreads⟩

/-- Pairs keyed by two columns: for a page of one pair, the second statement restricts the
select to that pair's keys and binds every name of the restriction. -/
theorem paging_by_entity_restricts_to_page_keys_pairs :
    let a : Column :=
      { propertyPath := "a", databaseName := "a", type := .integer, isPrimary := true }
    let b : Column :=
      { propertyPath := "b", databaseName := "b", type := .text, isPrimary := true }
    let pair : Entity := { name := "Pair", tableName := "pairs", columns := [a, b] }
    let s : QueryState := { QueryState.new .postgres .select with
      aliases := { items := [{ kind := .source, name := "p", entity := some pair }], main := some "p" },
      take := some 1 }
    let row : Row := { cells := [("ids_p_a", .int 1), ("ids_p_b", .text "x")] }
    ∃ ps cond, pageRestricted s "p" pair.primaryColumns [row] =
        { s with skip := none, take := none, parameters := ps, extraWhere := some cond } ∧
      firstMissing ps (tokens .postgres cond.toList) = none := by
  intro a b pair s row
  obtain ⟨ps, cond, heq, -, -, hbound, -⟩ :=
    (paging_by_entity_restricts_to_page_keys { dialect := .postgres, registry := { entities := [pair] } }
      0 s (rfl : s.mainAlias = .ok { kind := .source, name := "p", entity := some pair }) rfl rfl
      (fun _ => by decide) (by decide)).2.2 [row] (by simp)
  exact ⟨ps, cond, heq, hbound⟩

theorem bindNamed_missing {d : Dialect} {sql : String} {named : List (String × Value)}
    {native : List Value} {name : String} (h : firstMissing named (tokens d sql.toList) = some name) :
    d.bindNamed sql named native = .error (.parameterNotFound name) := by
  unfold Dialect.bindNamed
  rw [bindRest_eq_foldlM, foldlM_bindToken_error d named _ h]
  rfl

/-- A key column whose database name has a hyphen, `pair-a`, gives its parameter a name that
the reading of SQL cuts at the hyphen: the restriction to a page of one pair refers to
`orm_distinct_ids_0_pair`, which has no value, and binding the restriction fails. -/
theorem composite_key_parameter_cut_at_hyphen :
    let a : Column :=
      { propertyPath := "a", databaseName := "pair-a", type := .integer, isPrimary := true }
    let b : Column :=
      { propertyPath := "b", databaseName := "b", type := .text, isPrimary := true }
    let s := QueryState.new .postgres .select
    let row : Row := { cells := [("ids_p_pair-a", .int 1), ("ids_p_b", .text "x")] }
    ∃ cond, (pageRestricted s "p" [a, b] [row]).extraWhere = some cond ∧
      s.dialect.bindNamed cond (pageRestricted s "p" [a, b] [row]).parameters s.nativeParameters =
        .error (.parameterNotFound "orm_distinct_ids_0_pair") := by
  intro a b s row
  have hk : ∀ c, [a, b] ≠ [c] := by simp
  rw [pageRestricted_eq_pageCondition, pageCondition_composite _ _ _ _ hk]
  refine ⟨_, rfl, bindNamed_missing ?_⟩
  show firstMissing (mergeParams [] (pageKeyParams .postgres "p" [a, b] [row]))
    (tokens .postgres (compositeKeyText { s with skip := none, take := none } "p" [a, b]
      [row]).toList) = some "orm_distinct_ids_0_pair"
  have hcolumn : NamesBound .postgres (mergeParams [] (pageKeyParams .postgres "p" [a, b] [row]))
      (ColumnRef.write .postgres ⟨some "p", "pair-a"⟩).toList :=
    namesBound_column _
  obtain ⟨ts, hcol, hts⟩ := hcolumn
  have htext : (compositeKeyText { s with skip := none, take := none } "p" [a, b] [row]).toList =
      ['(', '('] ++ ((ColumnRef.write .postgres ⟨some "p", "pair-a"⟩).toList ++
        ([' ', '=', ' '] ++ ':' :: ("orm_distinct_ids_0_pair".toList ++
          '-' :: ("a AND " ++ ColumnRef.write .postgres ⟨some "p", "b"⟩ ++ " = :" ++
            pageKeyParam 0 b ++ "))").toList))) := by
    decide
  have hplain : ∀ c ∈ ['(', '(', ' ', '=', ' '], closingQuote .postgres c = none ∧ c ≠ ':' :=
    plain_of_all (by decide)
  have hmissing : (List.lookup "orm_distinct_ids_0_pair"
      (mergeParams [] (pageKeyParams .postgres "p" [a, b] [row]))).isNone = true := by
    decide
  rw [htext, tokens_plainText (fun c hc => hplain c (by simp_all)),
    hcol ([' ', '=', ' '] ++ _) (Sql.boundary_space _),
    tokens_plainText (fun c hc => hplain c (by simp_all)),
    tokens_ref .postgres (by decide) fun c hc => by
      obtain rfl := Option.some.inj (Option.mem_def.1 hc)
      decide]
  simp only [firstMissing_append, firstMissing_texts, hts, firstMissing, hmissing]
  rfl

end DataSource

end EntitySql
