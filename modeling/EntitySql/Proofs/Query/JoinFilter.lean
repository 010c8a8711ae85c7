import Mathlib
import EntitySql.Proofs.Sql.Predicates
import EntitySql.Query.SelectSql

/-!
# The soft-delete filter of a join

A join to an entity with a delete-date column gets the filter `"alias"."deletedAt" IS NULL`
appended to its `ON` condition unless deleted rows are asked for. The filter keeps the joined
rows that are not deleted only when it is a top-level conjunct of the condition: by SQL's
precedence, in `a OR b AND f` the filter binds to `b` alone.

The joins that follow a relation (an owning to-one relation, the inverse side, or the two halves
of a many-to-many junction) write the keys of the relation, then the given condition in
parentheses, then the filter: the filter is a top-level conjunct whatever the condition, as long
as its parentheses are balanced. A join that names an entity writes its condition as given and
the filter after it, without parentheses, so the filter is a top-level conjunct only when the
condition is itself a chain of `AND`s; a join that names an entity with no condition has no
`ON` condition and no filter at all.

Top-level conjuncts are read off the lexemes of the condition: `L` ends with the conjunct `F`
when it is `P AND F` with `P` and `F` runs of balanced parentheses that hold, outside their
parentheses, no `OR`, no `BETWEEN` (whose `AND` is its own) and no bare word (such as `CASE`).
Every other lexeme binds tighter than `AND`, so such an `L` is the conjunction of `P` and `F`.
-/

namespace EntitySql

namespace Sql

/-! ### Top-level conjuncts -/

/-- Lexemes whose parentheses are balanced. -/
inductive Balanced : List Lexeme → Prop
  | nil : Balanced []
  | cons {l : Lexeme} {L : List Lexeme} (hl : l ≠ .symbol .lparen ∧ l ≠ .symbol .rparen)
      (h : Balanced L) : Balanced (l :: L)
  | group {A B : List Lexeme} (hA : Balanced A) (hB : Balanced B) :
      Balanced (.symbol .lparen :: (A ++ .symbol .rparen :: B))

/-- The lexemes outside every parenthesis, read from depth `n`. -/
def outside : Nat → List Lexeme → List Lexeme
  | _, [] => []
  | n, .symbol .lparen :: rest => outside (n + 1) rest
  | n, .symbol .rparen :: rest => outside (n - 1) rest
  | 0, l :: rest => l :: outside 0 rest
  | n + 1, _ :: rest => outside (n + 1) rest

/-- Whether a lexeme outside parentheses leaves each `AND` beside it a conjunction: it is no
`OR`, no `BETWEEN` and no bare word. -/
def Lexeme.keepsAnds : Lexeme → Bool
  | .keyword .OR | .keyword .BETWEEN | .word _ => false
  | _ => true

/-- A run of lexemes that reads as operands joined by `AND`: balanced, and outside its
parentheses nothing that binds looser than `AND` or takes an `AND` of its own. -/
def Conjuncts (L : List Lexeme) : Prop :=
  Balanced L ∧ ∀ l ∈ outside 0 L, l.keepsAnds = true

def EndsWithConjunct (L F : List Lexeme) : Prop :=
  ∃ P, L = P ++ .keyword .AND :: F ∧ Conjuncts P ∧ Conjuncts F

def TextEndsWithConjunct (d : Dialect) (text : String) (F : List Lexeme) : Prop :=
  ∃ L, LexesTo d text.toList L ∧ EndsWithConjunct L F

theorem outside_not_paren {l : Lexeme} (hl : l ≠ .symbol .lparen ∧ l ≠ .symbol .rparen)
    (n : Nat) (L : List Lexeme) :
    outside n (l :: L) = if n = 0 then l :: outside 0 L else outside n L := by
  obtain ⟨hlp, hrp⟩ := hl
  cases n <;> cases l <;> simp_all [outside]

theorem Balanced.outside_append {A : List Lexeme} (h : Balanced A) :
    ∀ n R, outside n (A ++ R) = (if n = 0 then outside 0 A else []) ++ outside n R := by
  induction h with
  | nil => intro n R; cases n <;> simp [outside]
  | @cons l L hl _ ih =>
    intro n R
    rw [List.cons_append, outside_not_paren hl, outside_not_paren hl, ih n R]
    cases n <;> simp [ih 0 R]
  | @group A B _ _ ihA ihB =>
    intro n R
    have hgroup : ∀ m R', outside m (.symbol .lparen :: (A ++ .symbol .rparen :: R')) =
        outside m R' := by
      intro m R'
      rw [outside, ihA (m + 1), if_neg (Nat.succ_ne_zero m), List.nil_append, outside,
        Nat.add_sub_cancel]
    rw [List.cons_append, List.append_assoc, List.cons_append, hgroup n, hgroup 0, ihB n R]

theorem Balanced.append {A B : List Lexeme} (hA : Balanced A) (hB : Balanced B) :
    Balanced (A ++ B) := by
  induction hA with
  | nil => exact hB
  | cons hl _ ih => exact .cons hl ih
  | group hA _ _ ihB =>
    rw [List.cons_append, List.append_assoc, List.cons_append]
    exact .group hA ihB

theorem Conjuncts.append {A B : List Lexeme} (hA : Conjuncts A) (hB : Conjuncts B) :
    Conjuncts (A ++ B) := by
  refine ⟨hA.1.append hB.1, fun l hl => ?_⟩
  rw [hA.1.outside_append 0 B, if_pos rfl, List.mem_append] at hl
  exact hl.elim (hA.2 l) (hB.2 l)

theorem conjuncts_nil : Conjuncts [] := ⟨.nil, by simp [outside]⟩

theorem conjuncts_single {l : Lexeme} (hl : l ≠ .symbol .lparen ∧ l ≠ .symbol .rparen)
    (hk : l.keepsAnds = true) : Conjuncts [l] := by
  refine ⟨.cons hl .nil, fun x hx => ?_⟩
  rw [outside_not_paren hl, if_pos rfl] at hx
  simp [outside] at hx
  exact hx ▸ hk

theorem conjuncts_paren {C : List Lexeme} (hC : Balanced C) :
    Conjuncts (.symbol .lparen :: (C ++ [.symbol .rparen])) := by
  refine ⟨.group hC .nil, fun l hl => ?_⟩
  rw [outside, hC.outside_append, if_neg (Nat.succ_ne_zero 0)] at hl
  simp [outside] at hl

theorem conjuncts_and : Conjuncts [.keyword .AND] :=
  conjuncts_single ⟨by simp, by simp⟩ rfl

theorem conjuncts_of_forall {L : List Lexeme}
    (h : ∀ l ∈ L, (l ≠ .symbol .lparen ∧ l ≠ .symbol .rparen) ∧ l.keepsAnds = true) :
    Conjuncts L := by
  induction L with
  | nil => exact conjuncts_nil
  | cons l L ih =>
    have hl := h l List.mem_cons_self
    exact (conjuncts_single hl.1 hl.2).append (ih fun x hx => h x (List.mem_cons_of_mem l hx))

/-! ### The texts of a join condition -/

def deletedLexemes (joined column : String) : List Lexeme :=
  [.ident joined, .symbol .dot, .ident column, .keyword .IS, .keyword .NULL]

def keysLexemes (keys : List (ColumnRef × ColumnRef)) : List Lexeme :=
  [.keyword .AND].intercalate (keys.map fun k => k.1.lexemes ++ .symbol .eq :: k.2.lexemes)

def keysText (d : Dialect) (keys : List (ColumnRef × ColumnRef)) : String :=
  " AND ".intercalate (keys.map fun k => k.1.write d ++ "=" ++ k.2.write d)

theorem lex_write_append (d : Dialect) (r : ColumnRef) {rest : List Char}
    (hrest : rest.head? ≠ some d.quoteChars.2) :
    lex d ((r.write d).toList ++ rest) = (lex d rest).map (r.lexemes ++ ·) := by
  cases r with
  | mk q c =>
    cases q with
    | none => exact lex_escape d c rest hrest
    | some a =>
      have hdot : ('.' :: ((d.escape c).toList ++ rest)).head? ≠ some d.quoteChars.2 := by
        cases d <;> simp [Dialect.quoteChars]
      have htext : (ColumnRef.write d ⟨some a, c⟩).toList ++ rest =
          (d.escape a).toList ++ ('.' :: ((d.escape c).toList ++ rest)) := by
        simp [ColumnRef.write, String.toList_append]
      rw [htext, lex_escape d a _ hdot, lex_symbol d (.inr (.inr (.inr (.inl ⟨rfl, rfl⟩)))),
        lex_escape d c rest hrest]
      simp [ColumnRef.lexemes, Option.map_map, Function.comp_def]

theorem lex_key (d : Dialect) (k : ColumnRef × ColumnRef) {rest : List Char}
    (hrest : rest.head? ≠ some d.quoteChars.2) :
    lex d ((k.1.write d ++ "=" ++ k.2.write d).toList ++ rest) =
      (lex d rest).map ((k.1.lexemes ++ .symbol .eq :: k.2.lexemes) ++ ·) := by
  have heq : ('=' :: ((k.2.write d).toList ++ rest)).head? ≠ some d.quoteChars.2 := by
    cases d <;> simp [Dialect.quoteChars]
  have hsym : ("=".toList ++ ((k.2.write d).toList ++ rest)) =
      '=' :: ((k.2.write d).toList ++ rest) := rfl
  simp only [String.toList_append, List.append_assoc]
  rw [hsym, lex_write_append d k.1 heq, lex_symbol d (.inl ⟨rfl, rfl⟩),
    lex_write_append d k.2 hrest]
  simp [Option.map_map, Function.comp_def]

theorem lex_and (d : Dialect) (rest : List Char) :
    lex d (" AND ".toList ++ rest) = (lex d rest).map (.keyword .AND :: ·) := by
  have htext : " AND ".toList ++ rest = ' ' :: (Keyword.AND.text.toList ++ ' ' :: rest) := rfl
  rw [htext, lex_space, lex_keyword d .AND endsName_space, lex_space]

theorem lex_or (d : Dialect) (rest : List Char) :
    lex d (" OR ".toList ++ rest) = (lex d rest).map (.keyword .OR :: ·) := by
  have htext : " OR ".toList ++ rest = ' ' :: (Keyword.OR.text.toList ++ ' ' :: rest) := rfl
  rw [htext, lex_space, lex_keyword d .OR endsName_space, lex_space]

theorem lexesTo_keys (d : Dialect) :
    ∀ keys : List (ColumnRef × ColumnRef), LexesTo d (keysText d keys).toList (keysLexemes keys)
  | [] => fun rest _ => by simp [keysText, keysLexemes]
  | [k] => fun rest hrest => by
    simpa [keysText, keysLexemes] using lex_key d k (hrest.not_quote d)
  | k :: k' :: ks => fun rest hrest => by
    have hspace : (" AND ".toList ++ ((keysText d (k' :: ks)).toList ++ rest)).head? ≠
        some d.quoteChars.2 := by
      cases d <;> simp [Dialect.quoteChars]
    have htext : (keysText d (k :: k' :: ks)).toList ++ rest =
        (k.1.write d ++ "=" ++ k.2.write d).toList ++
          (" AND ".toList ++ ((keysText d (k' :: ks)).toList ++ rest)) := by
      simp [keysText, String.intercalate_cons_cons, String.toList_append]
    rw [htext, lex_key d k hspace, lex_and, lexesTo_keys d (k' :: ks) rest hrest]
    simp [keysLexemes, List.intercalate_cons_cons, Option.map_map, Function.comp_def]

theorem LexesTo.append {d : Dialect} {a b : List Char} {A B : List Lexeme} (ha : LexesTo d a A)
    (hb : LexesTo d b B) (hblank : b.head? = some ' ') : LexesTo d (a ++ b) (A ++ B) := by
  intro rest hrest
  obtain ⟨b', rfl⟩ : ∃ b', b = ' ' :: b' := by
    cases b with
    | nil => simp at hblank
    | cons x b' => simp at hblank; exact ⟨b', by rw [hblank]⟩
  rw [List.append_assoc, List.cons_append, ha _ (boundary_space _), ← List.cons_append,
    hb rest hrest]
  simp [Option.map_map, Function.comp_def]

theorem lex_andParen (d : Dialect) {c : String} {C : List Lexeme} (hc : LexesTo d c.toList C)
    (rest : List Char) :
    lex d ((" AND (" ++ c ++ ")").toList ++ rest) =
      (lex d rest).map ((.keyword .AND :: .symbol .lparen :: (C ++ [.symbol .rparen])) ++ ·) := by
  have htext : (" AND (" ++ c ++ ")").toList ++ rest =
      " AND ".toList ++ ('(' :: (c.toList ++ (')' :: rest))) := by
    simp [String.toList_append]
  rw [htext, lex_and, lex_symbol d (.inr (.inl ⟨rfl, rfl⟩)), hc _ (boundary_rparen rest),
    lex_symbol d (.inr (.inr (.inl ⟨rfl, rfl⟩)))]
  simp [Option.map_map, Function.comp_def]

theorem lexesTo_deletedFilter (d : Dialect) (joined column : String) :
    LexesTo d (" AND " ++ ColumnRef.write d ⟨some joined, column⟩ ++ " IS NULL").toList
      (.keyword .AND :: deletedLexemes joined column) := by
  intro rest hrest
  have hblank : (" IS NULL".toList ++ rest).head? ≠ some d.quoteChars.2 := by
    cases d <;> simp [Dialect.quoteChars]
  have htext : (" AND " ++ ColumnRef.write d ⟨some joined, column⟩ ++ " IS NULL").toList ++ rest =
      " AND ".toList ++ ((ColumnRef.write d ⟨some joined, column⟩).toList ++
        (" IS NULL".toList ++ rest)) := by
    simp [String.toList_append]
  rw [htext, lex_and, lex_write_append d _ hblank]
  have hnull := lexesTo_isNull d false rest hrest
  simp only [notWord, notLexemes, Bool.false_eq_true, if_false, List.nil_append] at hnull
  rw [show " IS NULL".toList = ' ' :: (Keyword.IS.text.toList ++ ' ' :: Keyword.NULL.text.toList)
    from rfl, hnull]
  simp [deletedLexemes, ColumnRef.lexemes, Option.map_map, Function.comp_def]

theorem conjuncts_lexemes (r : ColumnRef) : Conjuncts r.lexemes := by
  apply conjuncts_of_forall
  cases r with
  | mk q c => cases q <;> simp [ColumnRef.lexemes, Lexeme.keepsAnds]

theorem conjuncts_keysLexemes : ∀ keys, Conjuncts (keysLexemes keys)
  | [] => conjuncts_nil
  | [k] => by
    simpa [keysLexemes] using (conjuncts_lexemes k.1).append
      ((conjuncts_single (by simp) rfl).append (conjuncts_lexemes k.2))
  | k :: k' :: ks => by
    have hkey : Conjuncts (k.1.lexemes ++ .symbol .eq :: k.2.lexemes) :=
      (conjuncts_lexemes k.1).append ((conjuncts_single (by simp) rfl).append (conjuncts_lexemes k.2))
    have hrest := conjuncts_keysLexemes (k' :: ks)
    simp only [keysLexemes, List.map_cons, List.intercalate_cons_cons] at hrest ⊢
    simpa using hkey.append (conjuncts_and.append hrest)

theorem conjuncts_deletedLexemes (joined column : String) :
    Conjuncts (deletedLexemes joined column) :=
  conjuncts_of_forall (by simp [deletedLexemes, Lexeme.keepsAnds])

theorem LexesTo.unique {d : Dialect} {t : List Char} {L L' : List Lexeme} (h : LexesTo d t L)
    (h' : LexesTo d t L') : L = L' := by
  simpa [lex] using (h [] boundary_nil).symm.trans (h' [] boundary_nil)

theorem lexesTo_or (d : Dialect) (r r' : ColumnRef) :
    LexesTo d (r.write d ++ " OR " ++ r'.write d).toList (r.lexemes ++ .keyword .OR :: r'.lexemes) := by
  intro rest hrest
  have hblank : (" OR ".toList ++ ((r'.write d).toList ++ rest)).head? ≠ some d.quoteChars.2 := by
    cases d <;> simp [Dialect.quoteChars]
  simp only [String.toList_append, List.append_assoc]
  rw [lex_write_append d r hblank, lex_or, lex_write_append d r' (hrest.not_quote d)]
  simp [Option.map_map, Function.comp_def]

theorem relationOn_endsWithConjunct (d : Dialect) (keys : List (ColumnRef × ColumnRef))
    (extra : Option String) (hextra : ∀ c ∈ extra, ∃ C, LexesTo d c.toList C ∧ Balanced C)
    (joined column : String) :
    TextEndsWithConjunct d (keysText d keys ++ (extra.map fun c => " AND (" ++ c ++ ")").getD "" ++
      (" AND " ++ ColumnRef.write d ⟨some joined, column⟩ ++ " IS NULL"))
      (deletedLexemes joined column) := by
  have hfilter := lexesTo_deletedFilter d joined column
  cases extra with
  | none =>
    refine ⟨keysLexemes keys ++ .keyword .AND :: deletedLexemes joined column, ?_,
      keysLexemes keys, rfl, conjuncts_keysLexemes keys, conjuncts_deletedLexemes _ _⟩
    simpa [String.toList_append] using
      (lexesTo_keys d keys).append hfilter (by simp [String.toList_append])
  | some c =>
    obtain ⟨C, hC, hbal⟩ := hextra c rfl
    have hparen : LexesTo d (" AND (" ++ c ++ ")").toList
        (.keyword .AND :: .symbol .lparen :: (C ++ [.symbol .rparen])) :=
      fun rest _ => lex_andParen d hC rest
    refine ⟨(keysLexemes keys ++ .keyword .AND :: .symbol .lparen :: (C ++ [.symbol .rparen])) ++
      .keyword .AND :: deletedLexemes joined column, ?_, _, rfl, ?_, conjuncts_deletedLexemes _ _⟩
    · simpa [String.toList_append] using
        ((lexesTo_keys d keys).append hparen (by simp [String.toList_append])).append hfilter
          (by simp [String.toList_append])
    · exact (conjuncts_keysLexemes keys).append (conjuncts_and.append (conjuncts_paren hbal))

theorem entityOn_endsWithConjunct (d : Dialect) {c : String} {C : List Lexeme}
    (hc : LexesTo d c.toList C) (hC : Conjuncts C) (joined column : String) :
    TextEndsWithConjunct d (c ++ (" AND " ++ ColumnRef.write d ⟨some joined, column⟩ ++ " IS NULL"))
      (deletedLexemes joined column) := by
  refine ⟨C ++ .keyword .AND :: deletedLexemes joined column, ?_, C, rfl, hC,
    conjuncts_deletedLexemes _ _⟩
  simpa [String.toList_append] using
    hc.append (lexesTo_deletedFilter d joined column) (by simp [String.toList_append])

end Sql

namespace QueryState
open Sql

theorem escape_of_enabled {s : QueryState} (hesc : s.disableEscaping = false) (name : String) :
    s.escape name = s.dialect.escape name := by
  simp [escape, hesc]

theorem compileJoin_relation_on {reg : Registry} {s : QueryState} {hint : String} {j : Join}
    {t parentAlias : String} {rel : Relation} {E : Entity} {del : Column}
    (hesc : s.disableEscaping = false) (hdeleted : s.withDeleted = false)
    (htarget : j.target = .relation parentAlias rel) (hget : reg.get rel.target = .ok E)
    (hdel : E.deleteDateColumn? = some del) (h : s.compileJoin reg hint j = .ok t) :
    ∃ v, s.joinCondition j = .ok v ∧ ∃ head keys, t = head ++ " ON " ++
      (keysText s.dialect keys ++ (v.map fun c => " AND (" ++ c ++ ")").getD "" ++
        (" AND " ++ ColumnRef.write s.dialect ⟨some j.name, del.databaseName⟩ ++ " IS NULL")) := by
  unfold compileJoin at h
  cases hv : s.joinCondition j with
  | error e => simp [hv, bind, Except.bind] at h
  | ok v =>
    refine ⟨v, rfl, ?_⟩
    simp only [hv, htarget, hget, hdel, hdeleted, bind, Except.bind, Bool.false_eq_true, if_false,
      escape_of_enabled hesc] at h
    cases ha : s.aliases.get parentAlias with
    | error e => simp [ha] at h
    | ok a =>
    cases hp : a.metadata with
    | error e => simp [ha, hp] at h
    | ok parent =>
    simp only [ha, hp] at h
    let between := s.dialect.shortenAlias (parentAlias ++ "_" ++ j.name)
    let table := s.dialect.escapePath E.tablePath ++ hint
    split at h
    · -- an owning to-one relation: the target's referenced columns against the join columns
      refine ⟨j.direction.sql ++ " " ++ table ++ " " ++ s.dialect.escape j.name,
        rel.joinColumns.map fun jc =>
          (⟨some j.name, E.columnName jc.referencedColumn⟩, ⟨some parentAlias, jc.databaseName⟩), ?_⟩
      have ht := Except.ok.inj h
      subst ht
      simp [table, keysText, ColumnRef.write, String.append_assoc, Function.comp_def]
    split at h
    · -- a many-to-many relation: the second half of the junction
      cases hjn : reg.junction rel with
      | error e => simp [hjn] at h
      | ok junction =>
      simp only [hjn] at h
      refine ⟨j.direction.sql ++ " " ++ s.dialect.escapePath junction.tableName ++ hint ++ " " ++
        s.dialect.escape between ++ " ON " ++
        " AND ".intercalate (junction.ownerColumns.map fun jc =>
          s.dialect.escape between ++ "." ++ s.dialect.escape jc.databaseName ++ "=" ++
            (s.dialect.escape parentAlias ++ "." ++
              s.dialect.escape (parent.columnName jc.referencedColumn))) ++ " " ++
        j.direction.sql ++ " " ++ table ++ " " ++ s.dialect.escape j.name,
        junction.inverseColumns.map fun jc =>
          (⟨some between, jc.databaseName⟩, ⟨some j.name, E.columnName jc.referencedColumn⟩), ?_⟩
      have ht := Except.ok.inj h
      subst ht
      simp [between, table, keysText, ColumnRef.write, String.append_assoc, Function.comp_def]
    · -- the inverse side: its join columns against the parent's referenced columns
      cases hinv : reg.inverseRelation rel with
      | error e => simp [hinv] at h
      | ok inv =>
      simp only [hinv] at h
      refine ⟨j.direction.sql ++ " " ++ table ++ " " ++ s.dialect.escape j.name,
        inv.2.joinColumns.map fun jc =>
          (⟨some j.name, jc.databaseName⟩, ⟨some parentAlias, parent.columnName jc.referencedColumn⟩),
        ?_⟩
      have ht := Except.ok.inj h
      subst ht
      simp [table, keysText, ColumnRef.write, String.append_assoc, Function.comp_def]

theorem joinCondition_some {s : QueryState} {j : Join} {c : String}
    (h : s.joinCondition j = .ok (some c)) :
    ∃ cond, j.condition = some cond ∧ cond.render (s.renderContext true) = .ok c := by
  unfold joinCondition at h
  cases hc : j.condition with
  | none => simp [hc, pure, Except.pure] at h
  | some cond =>
    cases hr : cond.render (s.renderContext true) with
    | error e => simp [hc, hr, Functor.map, Except.map] at h
    | ok text =>
      simp [hc, hr, Functor.map, Except.map] at h
      exact ⟨cond, rfl, h ▸ hr⟩

theorem joinCondition_of_none {s : QueryState} {j : Join} (h : j.condition = none) :
    s.joinCondition j = .ok none := by
  simp [joinCondition, h, pure, Except.pure]

theorem joinCondition_of_render {s : QueryState} {j : Join} {cond : Condition} {c : String}
    (h : j.condition = some cond) (hr : cond.render (s.renderContext true) = .ok c) :
    s.joinCondition j = .ok (some c) := by
  simp [joinCondition, h, hr, Functor.map, Except.map]

theorem compileJoin_entity {reg : Registry} {s : QueryState} {hint : String} {j : Join}
    {t name : String} {E : Entity} {del : Column}
    (hesc : s.disableEscaping = false) (hdeleted : s.withDeleted = false)
    (htarget : j.target = .entity name) (hget : reg.get name = .ok E)
    (hdel : E.deleteDateColumn? = some del) (h : s.compileJoin reg hint j = .ok t) :
    ∃ v, s.joinCondition j = .ok v ∧
      t = j.direction.sql ++ " " ++ s.dialect.escapePath E.tablePath ++ hint ++ " " ++
        s.dialect.escape j.name ++ (v.map fun c => " ON " ++ (c ++ (" AND " ++
          ColumnRef.write s.dialect ⟨some j.name, del.databaseName⟩ ++ " IS NULL"))).getD "" := by
  unfold compileJoin at h
  cases hv : s.joinCondition j with
  | error e => simp [hv, bind, Except.bind] at h
  | ok v =>
    refine ⟨v, rfl, ?_⟩
    simp only [hv, htarget, hget, hdel, hdeleted, bind, Except.bind, Bool.false_eq_true, if_false,
      escape_of_enabled hesc, pure, Except.pure, Except.ok.injEq] at h
    subst h
    cases v <;> simp [ColumnRef.write, String.append_assoc]

/-- A join to an entity with a delete-date column, compiled with deleted rows left out and names
quoted. A join that follows a relation ends with an `ON` condition whose last top-level conjunct
is the filter `"alias"."deletedAt" IS NULL`, whatever its given condition as long as that has
balanced parentheses. A join that names the entity has the filter as last top-level conjunct
when its given condition is itself operands joined by `AND`; with no condition it has no `ON`
condition at all. -/
theorem join_filters_deleted_rows (reg : Registry) (s : QueryState) (hint : String) (j : Join)
    (t : String) (E : Entity) (del : Column)
    (hesc : s.disableEscaping = false) (hdeleted : s.withDeleted = false)
    (hdel : E.deleteDateColumn? = some del) (h : s.compileJoin reg hint j = .ok t) :
    (∀ parentAlias rel, j.target = .relation parentAlias rel → reg.get rel.target = .ok E →
      (∀ cond c, j.condition = some cond → cond.render (s.renderContext true) = .ok c →
        ∃ C, LexesTo s.dialect c.toList C ∧ Balanced C) →
      ∃ head on, t = head ++ " ON " ++ on ∧
        TextEndsWithConjunct s.dialect on (deletedLexemes j.name del.databaseName)) ∧
    (∀ name, j.target = .entity name → reg.get name = .ok E →
      (j.condition = none → t = j.direction.sql ++ " " ++ s.dialect.escapePath E.tablePath ++
        hint ++ " " ++ s.dialect.escape j.name) ∧
      ∀ cond c C, j.condition = some cond → cond.render (s.renderContext true) = .ok c →
        LexesTo s.dialect c.toList C → Conjuncts C →
        ∃ head on, t = head ++ " ON " ++ on ∧
          TextEndsWithConjunct s.dialect on (deletedLexemes j.name del.databaseName)) := by
  refine ⟨fun parentAlias rel htarget hget hcond => ?_, fun name htarget hget => ⟨fun hnone => ?_,
    fun cond c C hsome hrender hC hconj => ?_⟩⟩
  · obtain ⟨v, hv, head, keys, rfl⟩ :=
      compileJoin_relation_on hesc hdeleted htarget hget hdel h
    refine ⟨head, _, rfl, relationOn_endsWithConjunct _ keys v (fun c hc => ?_) _ _⟩
    obtain ⟨cond, hsome, hrender⟩ :=
      joinCondition_some (hv.trans (congrArg Except.ok (Option.mem_def.mp hc)))
    exact hcond cond c hsome hrender
  · obtain ⟨v, hv, rfl⟩ := compileJoin_entity hesc hdeleted htarget hget hdel h
    have hnone : v = none := Except.ok.inj (hv.symm.trans (joinCondition_of_none hnone))
    simp [hnone]
  · obtain ⟨v, hv, rfl⟩ := compileJoin_entity hesc hdeleted htarget hget hdel h
    have hsome : v = some c := Except.ok.inj (hv.symm.trans (joinCondition_of_render hsome hrender))
    refine ⟨j.direction.sql ++ " " ++ s.dialect.escapePath E.tablePath ++ hint ++ " " ++
      s.dialect.escape j.name, _, by simp [hsome, String.append_assoc],
      entityOn_endsWithConjunct _ hC hconj _ _⟩

/-- A photo's user joined through the relation: the `ON` condition ends with the filter. -/
theorem join_filters_deleted_rows_photos :
    let deletedAt : Column :=
      { propertyPath := "deletedAt", databaseName := "deletedAt", type := .timestamp,
        isNullable := true, isDeleteDate := true }
    let user : Entity := { name := "User", tableName := "users", columns := [deletedAt] }
    let photo : Entity := { name := "Photo", tableName := "photos" }
    let userOf : Relation :=
      { propertyPath := "user", kind := .manyToOne, target := "User", isOwning := true,
        inverseSide := none, joinColumns := [⟨"userId", "id"⟩] }
    let s : QueryState := { QueryState.new .postgres .select with
      aliases := { items := [{ kind := .source, name := "p", entity := some photo }], main := some "p" } }
    let j : Join := { direction := .inner, target := .relation "p" userOf, name := "u" }
    ∃ t, s.compileJoin { entities := [user] } "" j = .ok t ∧ ∃ head on, t = head ++ " ON " ++ on ∧
      TextEndsWithConjunct .postgres on (deletedLexemes "u" "deletedAt") := by
  intro deletedAt user photo userOf s j
  obtain ⟨t, ht⟩ : ∃ t, s.compileJoin { entities := [user] } "" j = .ok t := ⟨_, rfl⟩
  exact ⟨t, ht, (join_filters_deleted_rows _ s "" j t user deletedAt rfl rfl rfl ht).1 "p" userOf
    rfl rfl fun cond c hc => by simp [j] at hc⟩

/-- A join naming users keeps their deleted rows: with no condition it has no `ON` condition,
and with the condition `"u"."active" OR "u"."admin"` the filter binds to the second disjunct
only, so the `ON` condition does not end with it as a top-level conjunct. -/
theorem join_to_entity_keeps_deleted_rows :
    let deletedAt : Column :=
      { propertyPath := "deletedAt", databaseName := "deletedAt", type := .timestamp,
        isNullable := true, isDeleteDate := true }
    let reg : Registry :=
      { entities := [{ name := "User", tableName := "users", columns := [deletedAt] }] }
    let s := QueryState.new .postgres .select
    let bare : Join := { direction := .inner, target := .entity "User", name := "u" }
    let either : Join :=
      { bare with condition := some (.verbatim "\"u\".\"active\" OR \"u\".\"admin\"") }
    let on := "\"u\".\"active\" OR \"u\".\"admin\"" ++
      (" AND " ++ ColumnRef.write .postgres ⟨some "u", "deletedAt"⟩ ++ " IS NULL")
    s.compileJoin reg "" bare =
        .ok ("INNER JOIN " ++ Dialect.postgres.escapePath "users" ++ " " ++ Dialect.postgres.escape "u") ∧
      s.compileJoin reg "" either = .ok ("INNER JOIN " ++ Dialect.postgres.escapePath "users" ++ " " ++
        Dialect.postgres.escape "u" ++ " ON " ++ on) ∧
      ¬ TextEndsWithConjunct .postgres on (deletedLexemes "u" "deletedAt") := by
  intro deletedAt reg s bare either on
  refine ⟨?_, ?_, ?_⟩
  · obtain ⟨t, ht⟩ : ∃ t, s.compileJoin reg "" bare = .ok t := ⟨_, rfl⟩
    obtain ⟨v, hv, rfl⟩ := compileJoin_entity rfl rfl rfl rfl rfl ht
    have hnone : v = none := Except.ok.inj (hv.symm.trans (joinCondition_of_none rfl))
    rw [ht, hnone]
    simp [bare, s, QueryState.new, JoinDirection.sql, Entity.tablePath]
  · obtain ⟨t, ht⟩ : ∃ t, s.compileJoin reg "" either = .ok t := ⟨_, rfl⟩
    obtain ⟨v, hv, rfl⟩ := compileJoin_entity rfl rfl rfl rfl rfl ht
    have hsome : v = some "\"u\".\"active\" OR \"u\".\"admin\"" :=
      Except.ok.inj (hv.symm.trans (joinCondition_of_render rfl rfl))
    rw [ht, hsome]
    simp [either, bare, s, on, deletedAt, QueryState.new, JoinDirection.sql, Entity.tablePath,
      String.append_assoc]
  · have htext : "\"u\".\"active\" OR \"u\".\"admin\"" =
        ColumnRef.write .postgres ⟨some "u", "active"⟩ ++ " OR " ++
          ColumnRef.write .postgres ⟨some "u", "admin"⟩ := by decide
    have hon : LexesTo .postgres on.toList
        ((ColumnRef.lexemes ⟨some "u", "active"⟩ ++ .keyword .OR ::
          ColumnRef.lexemes ⟨some "u", "admin"⟩) ++
          .keyword .AND :: deletedLexemes "u" "deletedAt") := by
      have h := (lexesTo_or .postgres ⟨some "u", "active"⟩ ⟨some "u", "admin"⟩).append
        (lexesTo_deletedFilter .postgres "u" "deletedAt") (by simp [String.toList_append])
      simpa only [on, htext, String.toList_append] using h
    rintro ⟨L, hL, P, rfl, hP, -⟩
    have hP' := List.append_cancel_right (LexesTo.unique hon hL)
    subst hP'
    simp [Conjuncts, outside, ColumnRef.lexemes, Lexeme.keepsAnds] at hP

end QueryState

end EntitySql
