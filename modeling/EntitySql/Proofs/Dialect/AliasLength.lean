import Mathlib
import EntitySql.Proofs.Dialect.Stored
import EntitySql.Proofs.Query.Paging

/-!
# Alias lengths

Postgres, CockroachDB, MySQL and MariaDB take aliases of at most 63 bytes, Oracle 30, SAP HANA
127 and SQL Server 128; the other dialects set no limit. `Dialect.shortenAlias` fits a name to the
limit: a name too long keeps the longest prefix of at most `L - 9` bytes that ends on a character
boundary, then `_` and the first eight hex digits of its name-based UUID. A character takes at
most four bytes, so the prefix loses at most three bytes to the boundary, and a shortened alias
has between `L - 3` and `L` bytes (`Dialect.shortenAlias_size_ge`, `Dialect.shortenAlias_size_le`).

The names a select gives its result columns, `Dialect.buildColumnAlias a c`, and the alias of
the junction table of a many-to-many join are shortened, and so fit. The first statement of
paging by entity does not shorten the names of its key columns: it puts `ids_` before a column
alias that may already have been cut to the limit. That name fits exactly when `a_c` fits in four
bytes less than the limit (`Dialect.idsAlias_fits_iff`).
-/

namespace EntitySql

/-! ## Cutting a text to a number of bytes -/

def charsWithin : List Char → Nat → List Char
  | [], _ => []
  | c :: cs, n => if c.utf8Size ≤ n then c :: charsWithin cs (n - c.utf8Size) else []

section Fold

variable (n : Nat)

/-- The step of `utf8Prefix`: take a character while it fits, and stop at the first that does
not. -/
def prefixStep (acc : List Char × Nat × Bool) (c : Char) : List Char × Nat × Bool :=
  let (kept, used, open_) := acc
  if open_ ∧ used + c.utf8Size ≤ n then (c :: kept, used + c.utf8Size, true)
  else (kept, used, false)

theorem foldl_prefixStep_stopped (cs kept : List Char) (used : Nat) :
    (cs.foldl (prefixStep n) (kept, used, false)).1 = kept := by
  induction cs with
  | nil => rfl
  | cons c cs ih => simpa [prefixStep] using ih

theorem foldl_prefixStep (cs kept : List Char) (used : Nat) (hused : used ≤ n) :
    (cs.foldl (prefixStep n) (kept, used, true)).1 = (charsWithin cs (n - used)).reverse ++ kept := by
  induction cs generalizing kept used with
  | nil => rfl
  | cons c cs ih =>
    rw [List.foldl_cons, charsWithin]
    by_cases hfit : used + c.utf8Size ≤ n
    · have hstep : prefixStep n (kept, used, true) c = (c :: kept, used + c.utf8Size, true) := by
        simp [prefixStep, hfit]
      rw [hstep, ih _ _ hfit, if_pos (by omega), Nat.sub_sub]
      simp
    · have hstep : prefixStep n (kept, used, true) c = (kept, used, false) := by
        simp [prefixStep, hfit]
      rw [hstep, foldl_prefixStep_stopped, if_neg (by omega)]
      rfl

end Fold

theorem utf8Prefix_eq (s : String) (n : Nat) :
    utf8Prefix s n = String.ofList (charsWithin s.toList n) := by
  show String.ofList (s.toList.foldl (prefixStep n) ([], 0, true)).1.reverse = _
  rw [foldl_prefixStep n s.toList [] 0 (Nat.zero_le n), Nat.sub_zero, List.append_nil,
    List.reverse_reverse]

theorem size_charsWithin_le (cs : List Char) (n : Nat) :
    ((charsWithin cs n).map Char.utf8Size).sum ≤ n := by
  induction cs generalizing n with
  | nil => simp [charsWithin]
  | cons c cs ih =>
    unfold charsWithin
    split
    · have := ih (n - c.utf8Size)
      simp only [List.map_cons, List.sum_cons]
      omega
    · simp

theorem lt_size_charsWithin (cs : List Char) (n : Nat) (h : n < (cs.map Char.utf8Size).sum) :
    n < ((charsWithin cs n).map Char.utf8Size).sum + 4 := by
  induction cs generalizing n with
  | nil => simp at h
  | cons c cs ih =>
    have hc := Char.utf8Size_le_four c
    unfold charsWithin
    simp only [List.map_cons, List.sum_cons] at h
    split
    · have := ih (n - c.utf8Size) (by omega)
      simp only [List.map_cons, List.sum_cons]
      omega
    · simp only [List.map_nil, List.sum_nil]
      omega

theorem utf8Prefix_size_le (s : String) (n : Nat) : (utf8Prefix s n).utf8ByteSize ≤ n := by
  rw [utf8Prefix_eq, String.utf8ByteSize_ofList]
  exact size_charsWithin_le _ n

theorem lt_utf8Prefix_size (s : String) (n : Nat) (h : n < s.utf8ByteSize) :
    n < (utf8Prefix s n).utf8ByteSize + 4 := by
  rw [utf8Prefix_eq, String.utf8ByteSize_ofList]
  rw [String.utf8ByteSize_eq_sum] at h
  exact lt_size_charsWithin _ n h

/-! ## The hash of a shortened alias -/

theorem Sha1.length_digest (msg : List UInt8) : (Sha1.digest msg).length = 20 := by
  unfold Sha1.digest
  dsimp only
  simp [Sha1.wordBytes]

theorem Uuid.length_v5 (ns : Uuid) (name : List UInt8) : (Uuid.v5 ns name).bytes.length = 16 := by
  simp [Uuid.v5, Sha1.length_digest]

theorem sum_utf8Size_of_ascii {l : List Char} (h : ∀ c ∈ l, c.utf8Size = 1) :
    (l.map Char.utf8Size).sum = l.length := by
  induction l with
  | nil => rfl
  | cons c l ih =>
    simp only [List.map_cons, List.sum_cons, List.length_cons, h c List.mem_cons_self,
      ih fun x hx => h x (List.mem_cons_of_mem c hx)]
    omega

theorem size_hashDigits (ns : Uuid) (name : List UInt8) :
    (String.ofList ((Uuid.v5 ns name).simple.toList.take 8)).utf8ByteSize = 8 := by
  have hdigits : (Uuid.v5 ns name).simple.toList = (Uuid.v5 ns name).bytes.flatMap Uuid.hexPair :=
    Uuid.toList_join_byteHex _
  have hlen : ((Uuid.v5 ns name).bytes.flatMap Uuid.hexPair).length = 32 := by
    rw [Uuid.length_flatMap_hexPair, Uuid.length_v5]
  rw [String.utf8ByteSize_ofList, hdigits,
    sum_utf8Size_of_ascii fun c hc => (Uuid.mem_flatMap_hexPair (List.mem_of_mem_take hc)).2,
    List.length_take, hlen]
  rfl

/-! ## Shortened aliases -/

namespace Dialect

variable {d : Dialect} {L : Nat}

theorem le_maxAliasLength (hL : d.maxAliasLength = some L) : 30 ≤ L := by
  cases d <;> simp [maxAliasLength] at hL <;> omega

theorem shortenAlias_of_le (hL : d.maxAliasLength = some L) {name : String}
    (h : name.utf8ByteSize ≤ L) : d.shortenAlias name = name := by
  simp [shortenAlias, hL, h]

theorem size_shortenAlias_of_lt (hL : d.maxAliasLength = some L) {name : String}
    (h : L < name.utf8ByteSize) :
    (d.shortenAlias name).utf8ByteSize = (utf8Prefix name (L - 9)).utf8ByteSize + 9 := by
  simp only [shortenAlias, hL, if_neg (Nat.not_le.mpr h), String.utf8ByteSize_append,
    size_hashDigits]
  rfl

theorem shortenAlias_size_le (hL : d.maxAliasLength = some L) (name : String) :
    (d.shortenAlias name).utf8ByteSize ≤ L := by
  by_cases h : name.utf8ByteSize ≤ L
  · rw [shortenAlias_of_le hL h]
    exact h
  · have hcut := utf8Prefix_size_le name (L - 9)
    have := le_maxAliasLength hL
    rw [size_shortenAlias_of_lt hL (Nat.lt_of_not_le h)]
    omega

theorem shortenAlias_size_ge (hL : d.maxAliasLength = some L) {name : String}
    (h : L < name.utf8ByteSize) : L < (d.shortenAlias name).utf8ByteSize + 4 := by
  have hcut := lt_utf8Prefix_size name (L - 9) (by omega)
  rw [size_shortenAlias_of_lt hL h]
  omega

/-- The name of a key column in the first statement of paging, `ids_` before the column alias,
fits exactly when the column alias was not cut and has four bytes to spare. -/
theorem idsAlias_fits_iff (hL : d.maxAliasLength = some L) (a c : String) :
    ("ids_" ++ d.buildColumnAlias a c).utf8ByteSize ≤ L ↔ (a ++ "_" ++ c).utf8ByteSize + 4 ≤ L := by
  have hids : ("ids_" ++ d.buildColumnAlias a c).utf8ByteSize =
      (d.buildColumnAlias a c).utf8ByteSize + 4 := by
    rw [String.utf8ByteSize_append, Nat.add_comm]
    rfl
  rw [hids]
  by_cases hfit : (a ++ "_" ++ c).utf8ByteSize ≤ L
  · rw [buildColumnAlias, shortenAlias_of_le hL hfit]
  · have := shortenAlias_size_ge hL (Nat.lt_of_not_le hfit)
    unfold buildColumnAlias
    omega

end Dialect

/-! ## The aliases the statements name -/

namespace QueryState

theorem compileJoin_junction {reg : Registry} {s : QueryState} {hint : String} {j : Join}
    {t parentAlias : String} {rel : Relation} (htarget : j.target = .relation parentAlias rel)
    (hkind : rel.kind = .manyToMany) (h : s.compileJoin reg hint j = .ok t) :
    ∃ junction after, reg.junction rel = .ok junction ∧
      t = j.direction.sql ++ " " ++ s.dialect.escapePath junction.tableName ++ hint ++ " " ++
        s.escape (s.dialect.shortenAlias (parentAlias ++ "_" ++ j.name)) ++ " ON " ++ after := by
  have howner : rel.isToOneOwner = false := by simp [Relation.isToOneOwner, hkind]
  unfold compileJoin at h
  cases hv : s.joinCondition j with
  | error e => simp [hv, bind, Except.bind] at h
  | ok v =>
  cases hget : reg.get rel.target with
  | error e => simp [hv, htarget, hget, bind, Except.bind] at h
  | ok E =>
  cases ha : s.aliases.get parentAlias with
  | error e => simp [hv, htarget, hget, ha, bind, Except.bind] at h
  | ok a =>
  cases hp : a.metadata with
  | error e => simp [hv, htarget, hget, ha, hp, bind, Except.bind] at h
  | ok parent =>
  cases hjn : reg.junction rel with
  | error e => simp [hv, htarget, hget, ha, hp, howner, hkind, hjn, bind, Except.bind] at h
  | ok junction =>
  simp only [hv, htarget, hget, ha, hp, howner, hkind, hjn, bind, Except.bind, pure, Except.pure,
    Bool.false_eq_true, if_false, if_true, Except.ok.injEq] at h
  exact ⟨junction, _, rfl, by rw [← h]; simp only [String.append_assoc]; rfl⟩

end QueryState

theorem exists_intercalate_eq {x : String} {l : List String} (h : x ∈ l) (sep : String) :
    ∃ pre post, sep.intercalate l = pre ++ x ++ post := by
  induction l with
  | nil => simp at h
  | cons y l ih =>
    rcases l with _ | ⟨z, l⟩
    · rw [List.mem_singleton.mp h]
      exact ⟨"", "", by simp⟩
    · rw [String.intercalate_cons_cons]
      rcases List.mem_cons.mp h with rfl | hl
      · exact ⟨"", sep ++ sep.intercalate (z :: l), by simp [String.append_assoc]⟩
      · obtain ⟨pre, post, he⟩ := ih hl
        exact ⟨y ++ sep ++ pre, post, by rw [he]; simp [String.append_assoc]⟩

namespace DataSource

theorem pageKeysQuery_names_keys {reg : Registry} {s : QueryState} {aliasName : String}
    {e : Entity} {sql : String} (h : pageKeysQuery reg s aliasName e = .ok sql) {k : Column}
    (hk : k ∈ e.primaryColumns) :
    ∃ pre post, sql = pre ++ " AS " ++
      s.escape ("ids_" ++ s.dialect.buildColumnAlias aliasName k.databaseName) ++ post := by
  obtain ⟨innerSql, selects, orders, page, -, -, hsel, -, rfl⟩ := pageKeysQuery_eq_ok h
  obtain ⟨pre, post, hi⟩ := exists_intercalate_eq (hsel.subset (List.mem_map_of_mem hk)) ", "
  refine ⟨"SELECT DISTINCT " ++ pre ++ s.escape "distinctAlias" ++ "." ++
    s.escape (s.dialect.buildColumnAlias aliasName k.databaseName), post ++ " FROM (" ++ innerSql ++
    ") " ++ s.escape "distinctAlias" ++ " ORDER BY " ++ ", ".intercalate orders ++ page, ?_⟩
  rw [hi]
  simp only [String.append_assoc]

end DataSource

/-- Aliases against a dialect's limit of `L` bytes. The name of a selected column,
`buildColumnAlias a c`, has at most `L` bytes, and is `a_c` itself when that fits; the alias
that a many-to-many join from `a` gives its junction table has at most `L` bytes. The first
statement of paging by entity over alias `a` names each key column `ids_` before its column
alias: that name has at most `L` bytes exactly when `a_c` has at most `L - 4`. -/
theorem aliases_fit_alias_limit (d : Dialect) (L : Nat) (hL : d.maxAliasLength = some L)
    (a c : String) :
    (d.buildColumnAlias a c).utf8ByteSize ≤ L ∧
    ((a ++ "_" ++ c).utf8ByteSize ≤ L → d.buildColumnAlias a c = a ++ "_" ++ c) ∧
    (∀ (reg : Registry) (s : QueryState) (hint : String) (j : Join) (rel : Relation) (t : String),
      s.dialect = d → j.target = .relation a rel → rel.kind = .manyToMany →
      s.compileJoin reg hint j = .ok t →
      ∃ (junction : Junction) (x after : String), t = j.direction.sql ++ " " ++
        d.escapePath junction.tableName ++ hint ++ " " ++ s.escape x ++ " ON " ++ after ∧
        x.utf8ByteSize ≤ L) ∧
    (∀ (reg : Registry) (s : QueryState) (e : Entity) (sql : String) (k : Column),
      s.dialect = d → DataSource.pageKeysQuery reg s a e = .ok sql → k ∈ e.primaryColumns →
      ∃ x pre post, sql = pre ++ " AS " ++ s.escape x ++ post ∧
        (x.utf8ByteSize ≤ L ↔ (a ++ "_" ++ k.databaseName).utf8ByteSize + 4 ≤ L)) := by
  refine ⟨d.shortenAlias_size_le hL _, Dialect.shortenAlias_of_le hL, ?_, ?_⟩
  · rintro reg s hint j rel t rfl htarget hkind h
    obtain ⟨junction, after, -, ht⟩ := QueryState.compileJoin_junction htarget hkind h
    exact ⟨junction, _, after, ht, s.dialect.shortenAlias_size_le hL _⟩
  · rintro reg s e sql k rfl h hk
    obtain ⟨pre, post, hsql⟩ := DataSource.pageKeysQuery_names_keys h hk
    exact ⟨_, pre, post, hsql, Dialect.idsAlias_fits_iff hL a k.databaseName⟩

/-- The select of a user alias `u` names its first-name column `u_first_name` on Postgres, within
the 63 bytes the dialect allows. -/
theorem aliases_fit_alias_limit_postgres :
    (Dialect.postgres.buildColumnAlias "u" "first_name").utf8ByteSize ≤ 63 ∧
      Dialect.postgres.buildColumnAlias "u" "first_name" = "u_first_name" :=
  ⟨(aliases_fit_alias_limit .postgres 63 rfl "u" "first_name").1,
    (aliases_fit_alias_limit .postgres 63 rfl "u" "first_name").2.1 (by decide)⟩

/-- On Postgres an alias of 62 letters with the key column `id` makes the first statement of
paging name that key by more than the 63 bytes the dialect allows. -/
theorem idsAlias_exceeds_limit :
    63 < ("ids_" ++
      Dialect.postgres.buildColumnAlias (String.ofList (List.replicate 62 'a')) "id").utf8ByteSize := by
  have hsize : (String.ofList (List.replicate 62 'a') ++ "_" ++ "id").utf8ByteSize = 65 := by
    simp only [String.utf8ByteSize_append, String.utf8ByteSize_ofList, List.map_replicate,
      List.sum_replicate]
    decide
  have hfits := Dialect.idsAlias_fits_iff (d := .postgres) rfl
    (String.ofList (List.replicate 62 'a')) "id"
  omega

end EntitySql
