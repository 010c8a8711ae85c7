import EntitySql.Proofs.Placeholder.Within
import EntitySql.Dialect.Lock

/-!
# Text a statement writes itself

Between the texts a user gives, a statement holds text its compiler writes: keywords, quoted
names, numbers, a separator between the items of a list. `Tidy d F t` says that `t` is read,
before any text `F` allows, as tokens that refer to nothing and hold no lone backquote or
closing identifier quote. Such text is clean whatever names are allowed (`Tidy.clean`), and
refers to nothing wherever it stands (`Tidy.refsWithin`).

The clauses of a statement are written one after the other, each empty or starting with a blank
(`Spaced`): a blank separates, so each clause is read in place (`RefsWithin.then_spaced`). The
texts of dialects are tidy and spaced: quoted paths, paging, lock suffixes and table hints, and
the concatenation of keys with a literal separator.
-/

namespace EntitySql

namespace Placeholder

variable {d : Dialect} {F G : List Char → Prop} {N : String → Prop}

/-! ### Clauses one after the other -/

theorem Sep.notClosing {rest : List Char} (h : Sep d rest) : NotClosing d rest := fun hc =>
  (isSep_spec (h _ hc)).2.2.2.2 rfl

def Spaced (t : String) : Prop := ∀ c ∈ t.toList.head?, c = ' '

-- decided on the first character as a `Bool`, so that no instance for bounded quantifiers over
-- `Option` is looked for
instance (t : String) : Decidable (Spaced t) :=
  decidable_of_iff ((t.toList.head?.all fun c => c == ' ') = true) (by
    unfold Spaced
    cases t.toList.head? <;> simp)

theorem spaced_empty : Spaced "" := fun _ h => by cases h

theorem Spaced.sep_append {t : String} (h : Spaced t) {rest : List Char} (hrest : Sep d rest) :
    Sep d (t.toList ++ rest) := by
  cases ht : t.toList with
  | nil => simpa using hrest
  | cons c more =>
    have hc : c = ' ' := h c (by rw [ht]; rfl)
    subst hc
    exact sep_space d _

theorem Spaced.append {a b : String} (ha : Spaced a) (hb : Spaced b) : Spaced (a ++ b) := by
  intro c hc
  rw [String.toList_append, List.head?_append, Option.mem_def, Option.or_eq_some_iff] at hc
  rcases hc with hc | ⟨-, hc⟩
  · exact ha c hc
  · exact hb c hc

theorem spaced_word_append {w : String} (hw : w.toList.head? = some ' ') (b : String) :
    Spaced (w ++ b) := fun c hc => by
  rw [String.toList_append, List.head?_append, hw] at hc
  exact (Option.some.inj hc).symm

theorem Spaced.notClosing_append {t : String} (h : Spaced t) {rest : List Char}
    (hrest : NotClosing d rest) : NotClosing d (t.toList ++ rest) := by
  cases ht : t.toList with
  | nil => simpa using hrest
  | cons c more =>
    have hc : c = ' ' := h c (by rw [ht]; rfl)
    subst hc
    exact notClosing_of_safe _ (by decide)

theorem RefsWithin.then_spaced {a b : String} (ha : RefsWithin d (Sep d) N a.toList)
    (hb : RefsWithin d (Sep d) N b.toList) (hspaced : Spaced b) :
    RefsWithin d (Sep d) N (a ++ b).toList := by
  rw [String.toList_append]
  exact ha.append hb fun _ hrest => hspaced.sep_append hrest

/-- A clause of a statement: read in place before a separating character, and empty or starting
with a blank, so that clauses are read one after the other. -/
structure Clause (d : Dialect) (N : String → Prop) (t : String) : Prop where
  refs : RefsWithin d (Sep d) N t.toList
  spaced : Spaced t

theorem clause_empty : Clause d N "" := ⟨refsWithin_nil, spaced_empty⟩

theorem RefsWithin.then_clause {a b : String} (ha : RefsWithin d (Sep d) N a.toList)
    (hb : Clause d N b) : RefsWithin d (Sep d) N (a ++ b).toList :=
  ha.then_spaced hb.refs hb.spaced

theorem Clause.append {a b : String} (ha : Clause d N a) (hb : Clause d N b) :
    Clause d N (a ++ b) :=
  ⟨ha.refs.then_clause hb, ha.spaced.append hb.spaced⟩

theorem clause_getD {o : Option String} (ho : ∀ c ∈ o, Clause d N c) : Clause d N (o.getD "") := by
  cases o with
  | none => exact clause_empty
  | some c => exact ho c rfl

theorem refsWithin_escape_sep (name : String) : RefsWithin d (Sep d) N (d.escape name).toList :=
  (readsAs_escape name fun _ h => h.notClosing).refsWithin fun _ hr => absurd hr List.not_mem_nil

theorem RefsWithin.word_append {w : String} (hw : w.toList.all safeChar = true) {b : String}
    (hb : RefsWithin d (Sep d) N b.toList) : RefsWithin d (Sep d) N (w ++ b).toList := by
  rw [String.toList_append]
  exact hb.safe_append hw

theorem clause_word {w b : String} (hw : w.toList.all safeChar = true)
    (hhead : w.toList.head? = some ' ') (hb : RefsWithin d (Sep d) N b.toList) : Clause d N (w ++ b) :=
  ⟨RefsWithin.word_append hw hb, spaced_word_append hhead _⟩

theorem clause_join {xs : List String} (h : ∀ x ∈ xs, RefsWithin d (Sep d) N x.toList) :
    Clause d N (String.join (xs.map (" " ++ ·))) := by
  induction xs with
  | nil => exact clause_empty
  | cons x xs ih =>
    rw [List.map_cons, String.join_cons]
    exact (clause_word (by decide) rfl (h x List.mem_cons_self)).append
      (ih fun y hy => h y (List.mem_cons_of_mem x hy))

/-! ### Tidy text -/

/-- A token a statement writes by itself: it refers to nothing, and is no lone backquote and no
lone closing identifier quote. -/
def Token.Tidy (d : Dialect) (tk : Token) : Prop :=
  tk.ref? = none ∧ tk ≠ .text ['`'] ∧ tk ≠ .text [d.quoteChars.2]

def Tidy (d : Dialect) (F : List Char → Prop) (t : List Char) : Prop :=
  ∃ ts : List Token, (∀ tk ∈ ts, tk.Tidy d) ∧ ∀ rest, F rest → tokens d (t ++ rest) = ts ++ tokens d rest

/-- A character written outside any quote that every reader takes for itself: it opens no quote,
is no colon, and is no backquote or closing identifier quote. -/
def tidyChar (d : Dialect) (c : Char) : Bool :=
  (closingQuote d c).isNone && c != ':' && c != '`' && c != d.quoteChars.2

theorem tidyChar_spec {c : Char} (h : tidyChar d c = true) :
    closingQuote d c = none ∧ c ≠ ':' ∧ c ≠ '`' ∧ c ≠ d.quoteChars.2 := by
  simp only [tidyChar, Bool.and_eq_true, bne_iff_ne, ne_eq, Option.isNone_iff_eq_none] at h
  exact ⟨h.1.1.1, h.1.1.2, h.1.2, h.2⟩

theorem tidyChar_of_safe {c : Char} (h : safeChar c = true) : tidyChar d c = true := by
  have hne : ∀ q, safeChar q = false → c ≠ q := by
    rintro q hq rfl
    rw [h] at hq
    cases hq
  have hplain :=
    plain_of_safe (d := d) (show [c].all safeChar = true by simp [h]) c List.mem_cons_self
  have hclose : c ≠ d.quoteChars.2 := by
    cases d <;> exact hne _ (by decide)
  simp [tidyChar, hplain.1, hplain.2, hne '`' (by decide), hclose]

section Tidy

variable {t a b : List Char}

theorem Tidy.readsAs (h : Tidy d F t) : ReadsAs d F t [] := by
  obtain ⟨ts, hts, htok⟩ := h
  exact ⟨ts, List.filterMap_eq_nil_iff.2 fun tk htk => (hts tk htk).1, htok⟩

theorem Tidy.refsWithin (h : Tidy d F t) : RefsWithin d F N t :=
  h.readsAs.refsWithin fun _ hr => absurd hr List.not_mem_nil

theorem Tidy.mono (h : Tidy d F t) (hG : ∀ rest, G rest → F rest) : Tidy d G t := by
  obtain ⟨ts, hts, htok⟩ := h
  exact ⟨ts, hts, fun rest hrest => htok rest (hG rest hrest)⟩

theorem Tidy.append (ha : Tidy d F a) (hb : Tidy d G b) (hstart : ∀ rest, G rest → F (b ++ rest)) :
    Tidy d G (a ++ b) := by
  obtain ⟨ts, hts, hta⟩ := ha
  obtain ⟨us, hus, htb⟩ := hb
  refine ⟨ts ++ us, fun tk htk => (List.mem_append.1 htk).elim (hts tk) (hus tk), fun rest hrest => ?_⟩
  rw [List.append_assoc, hta _ (hstart rest hrest), htb rest hrest, List.append_assoc]

theorem tidy_nil : Tidy d F [] :=
  ⟨[], fun _ h => absurd h List.not_mem_nil, fun _ _ => rfl⟩

/-- Tidy text that may end the statement or stand before a blank is clean, whatever names are
allowed. -/
theorem Tidy.clean (h : Tidy d F t) (hend : F []) (hblank : F [' ']) : Clean d N t := by
  obtain ⟨ts, hts, htok⟩ := h
  have hself : tokens d t = ts := by simpa using htok [] hend
  have hq : closingQuote d ' ' = none := by cases d <;> decide
  refine ⟨?_, ?_, ?_⟩
  · show tokens d (t ++ [' ']) = tokens d t ++ [.text [' ']]
    rw [htok _ hblank, hself, tokens_plain hq (by decide), tokens_nil]
  · intro tk htk
    rw [hself] at htk
    exact (hts tk htk).2
  · intro r hr
    rw [refs, hself] at hr
    obtain ⟨tk, htk, hr⟩ := List.mem_filterMap.1 hr
    rw [(hts tk htk).1] at hr
    cases hr

theorem tidy_plain (h : t.all (tidyChar d) = true) : Tidy d F t := by
  have hspec : ∀ c ∈ t, closingQuote d c = none ∧ c ≠ ':' ∧ c ≠ '`' ∧ c ≠ d.quoteChars.2 :=
    fun c hc => tidyChar_spec (List.all_eq_true.1 h c hc)
  refine ⟨t.map fun c => .text [c], fun tk htk => ?_,
    fun rest _ => tokens_plainText (fun c hc => ⟨(hspec c hc).1, (hspec c hc).2.1⟩) rest⟩
  obtain ⟨c, hc, rfl⟩ := List.mem_map.1 htk
  obtain ⟨-, -, hbq, hclose⟩ := hspec c hc
  exact ⟨rfl, fun h => hbq (by simpa using h), fun h => hclose (by simpa using h)⟩

theorem tidy_safe {w : String} (h : w.toList.all safeChar = true) : Tidy d F w.toList :=
  tidy_plain (List.all_eq_true.2 fun c hc => tidyChar_of_safe (List.all_eq_true.1 h c hc))

theorem Tidy.plain_append (ha : a.all (tidyChar d) = true) (hb : Tidy d F b) : Tidy d F (a ++ b) :=
  (tidy_plain (F := fun _ => True) ha).append hb fun _ _ => trivial

theorem Tidy.safe_append {w : String} (hw : w.toList.all safeChar = true) (hb : Tidy d F b) :
    Tidy d F (w.toList ++ b) :=
  (tidy_safe (F := fun _ => True) hw).append hb fun _ _ => trivial

theorem tidy_escape (name : String) (hF : ∀ rest, F rest → NotClosing d rest) :
    Tidy d F (d.escape name).toList := by
  refine ⟨[.text (d.escape name).toList], fun tk htk => ?_,
    fun rest hrest => tokens_escape d name (hF rest hrest)⟩
  rw [List.mem_singleton] at htk
  subst htk
  have hlong : ∀ x, (d.escape name).toList ≠ [x] := by
    intro x hx
    rw [Sql.escape_toList, List.cons.injEq] at hx
    simp at hx
  exact ⟨rfl, fun h => hlong _ (Token.text.inj h), fun h => hlong _ (Token.text.inj h)⟩

theorem Tidy.escape_append (name : String) (hb : Tidy d F b)
    (hhead : ∀ rest, F rest → NotClosing d (b ++ rest)) :
    Tidy d F ((d.escape name).toList ++ b) :=
  (tidy_escape name fun _ h => h).append hb hhead

theorem tidy_literal (body : List Char) (hF : ∀ rest, F rest → rest.head? ≠ some '\'') :
    Tidy d F ('\'' :: (Sql.doubled '\'' body ++ ['\''])) := by
  have hopen : closingQuote d '\'' = some '\'' := rfl
  refine ⟨[.text ('\'' :: (Sql.doubled '\'' body ++ ['\'']))], fun tk htk => ?_,
    fun rest hrest => ?_⟩
  · rw [List.mem_singleton] at htk
    subst htk
    refine ⟨rfl, fun h => ?_, fun h => ?_⟩ <;>
      · rw [Token.text.injEq, List.cons.injEq] at h
        simp at h
  · rw [List.cons_append, tokens_cons, List.append_assoc, List.singleton_append]
    simp [lexOne, hopen, spanQuoted_doubled _ _ _ (hF rest hrest)]

theorem Tidy.intercalate {sep : String} (hsep : sep.toList.all (tidyChar d) = true)
    (hG : ∀ more, G (sep.toList ++ more)) (hF : ∀ rest, F rest → G rest) :
    ∀ {parts : List String}, (∀ p ∈ parts, Tidy d G p.toList) →
      Tidy d F (sep.intercalate parts).toList
  | [], _ => by simpa using tidy_nil
  | [p], h => by simpa using (h p (by simp)).mono hF
  | p :: q :: ps, h => by
    have hrest : Tidy d F (sep.intercalate (q :: ps)).toList :=
      Tidy.intercalate hsep hG hF fun x hx => h x (List.mem_cons_of_mem p hx)
    have hjoin := (h p List.mem_cons_self).append (hrest.plain_append hsep) fun rest _ => by
      rw [List.append_assoc]
      exact hG _
    rwa [String.intercalate_cons_cons, String.toList_append, String.toList_append,
      List.append_assoc]

/-! Statements are written left to right: each lemma below adds one piece after a text. A text
that ends with safe characters is read the same before anything. -/

theorem NotClosing.safe_append {w : String} (hw : w.toList.all safeChar = true) {rest : List Char}
    (hrest : NotClosing d rest) : NotClosing d (w.toList ++ rest) := by
  cases hws : w.toList with
  | nil => simpa using hrest
  | cons c more =>
    exact notClosing_of_safe _ (List.all_eq_true.1 hw c (by rw [hws]; exact List.mem_cons_self))

theorem Tidy.append_safe {a w : String} (ha : Tidy d (NotClosing d) a.toList)
    (hw : w.toList.all safeChar = true) : Tidy d (NotClosing d) (a ++ w).toList := by
  rw [String.toList_append]
  exact ha.append (tidy_safe hw) fun _ hrest => NotClosing.safe_append hw hrest

theorem Tidy.append_word {a w : String} (ha : Tidy d (NotClosing d) a.toList)
    (hw : w.toList.all safeChar = true) (hne : w.toList ≠ []) :
    Tidy d (fun _ => True) (a ++ w).toList := by
  rw [String.toList_append]
  exact ha.append (tidy_safe hw) fun rest _ => notClosing_safe_append w hw hne rest

theorem Tidy.append_any {a b : String} (ha : Tidy d (fun _ => True) a.toList)
    (hb : Tidy d F b.toList) : Tidy d F (a ++ b).toList := by
  rw [String.toList_append]
  exact ha.append hb fun _ _ => trivial

theorem Tidy.refsWithin_sep {t : List Char} (h : Tidy d (NotClosing d) t) :
    RefsWithin d (Sep d) N t :=
  (h.mono fun _ hr => hr.notClosing).refsWithin

theorem Tidy.clause {t : String} (h : Tidy d (NotClosing d) t.toList) (hs : Spaced t) :
    Clause d N t :=
  ⟨h.refsWithin_sep, hs⟩

theorem RefsWithin.append_blank {a w : String} (ha : RefsWithin d (Sep d) N a.toList)
    (hw : w.toList.all safeChar = true) (hhead : w.toList.head? = some ' ') :
    RefsWithin d (fun _ => True) N (a ++ w).toList := by
  rw [String.toList_append]
  refine ha.append (refsWithin_plain (plain_of_safe hw)) fun rest _ => ?_
  cases hws : w.toList with
  | nil => rw [hws] at hhead; cases hhead
  | cons c more =>
    rw [hws] at hhead
    cases hhead
    exact sep_space d _

theorem RefsWithin.append_sep {a w : String} (ha : RefsWithin d (Sep d) N a.toList)
    (hw : w.toList.all safeChar = true) (hhead : ∃ c ∈ w.toList.head?, isSep d c = true) :
    RefsWithin d F N (a ++ w).toList := by
  rw [String.toList_append]
  exact ha.append (refsWithin_plain (plain_of_safe hw)) fun rest _ => sep_append hhead rest

theorem RefsWithin.append_any {a b : String} (ha : RefsWithin d (fun _ => True) N a.toList)
    (hb : RefsWithin d F N b.toList) : RefsWithin d F N (a ++ b).toList := by
  rw [String.toList_append]
  exact ha.append hb fun _ _ => trivial

theorem tidy_keySeparator : Tidy d (Sep d) "'|;|'".toList := by
  have h := tidy_literal (d := d) (F := Sep d) "|;|".toList fun rest hrest hq => by
    have hopen : closingQuote d '\'' = some '\'' := rfl
    rw [(isSep_spec (hrest _ hq)).2.2.2.1] at hopen
    cases hopen
  exact h

end Tidy

end Placeholder

/-! ### Texts of dialects -/

open Placeholder

/-- Where a lock goes, as the dialect writes it: after the statement, tidy text that starts with
a blank; after each table, safe characters. -/
def LockClause.Tidy (d : Dialect) : LockClause → Prop
  | .none => True
  | .suffix x => Placeholder.Tidy d (NotClosing d) x.toList ∧ Spaced x
  | .tableHint h => h.toList.all safeChar = true

namespace Dialect

variable (d : Dialect)

theorem tidy_digits (n : Nat) : (Nat.toDigits 10 n).all (tidyChar d) = true :=
  List.all_eq_true.2 fun c hc => tidyChar_of_safe
    (by simp [safeChar, Char.isAlphanum, Nat.isDigit_of_mem_toDigits (by decide) (by decide) hc])

theorem paginationClause_tidy {limit offset : Option Nat} {ordered : Bool} {t : String}
    (h : d.paginationClause limit offset ordered = .ok t) :
    t.toList.all (tidyChar d) = true ∧ Spaced t := by
  cases d <;> cases limit <;> cases offset <;> cases ordered <;>
    simp [paginationClause, isSqliteFamily, isPostgresFamily] at h <;> subst h <;>
    simp [Spaced, String.toList_append, Nat.toList_repr, tidy_digits] <;> decide

theorem tidy_escapePath (path : String) : Tidy d (NotClosing d) (d.escapePath path).toList := by
  unfold escapePath
  refine Tidy.intercalate (by cases d <;> decide)
    (fun more => notClosing_safe_append "." (by decide) (by decide) more) (fun _ h => h)
    fun x hx => ?_
  obtain ⟨p, -, rfl⟩ := List.mem_map.1 hx
  exact tidy_escape p fun _ h => h

theorem tidy_concat {parts : List String} (h : ∀ p ∈ parts, Tidy d (Sep d) p.toList) :
    Tidy d (Sep d) (d.concat parts).toList := by
  have hjoin : ∀ sep : String, sep.toList.all (tidyChar d) = true →
      (∀ more, Sep d (sep.toList ++ more)) → Tidy d (Sep d) (sep.intercalate parts).toList :=
    fun sep hsep hG => Tidy.intercalate hsep hG (fun _ h => h) h
  have hcall : Tidy d (Sep d) ("CONCAT(" ++ ", ".intercalate parts ++ ")").toList := by
    rw [String.toList_append, String.toList_append, List.append_assoc]
    have hcomma : Tidy d (Sep d) (", ".intercalate parts).toList :=
      hjoin ", " (by cases d <;> decide) fun more => sep_cons (by cases d <;> decide) _
    exact Tidy.safe_append (by decide) (hcomma.append (tidy_safe (w := ")") (by decide))
      fun _ _ => sep_cons (by cases d <;> decide) _)
  have hbars : Tidy d (Sep d) (" || ".intercalate parts).toList :=
    hjoin " || " (by cases d <;> decide) fun more => sep_space d _
  unfold concat
  split <;> assumption

theorem tidy_lockSuffix {base rest : String} (hbase : base.toList.all safeChar = true)
    (hhead : base.toList.head? = some ' ') (hrest : Placeholder.Tidy d (NotClosing d) rest.toList) :
    (LockClause.suffix (base ++ rest)).Tidy d := by
  refine ⟨?_, spaced_word_append hhead _⟩
  rw [String.toList_append]
  exact Tidy.safe_append hbase hrest

theorem lockClause_tidy {mode : LockMode} {tables : List String} {onLocked : Option OnLocked}
    {lc : LockClause} (htables : ∀ t ∈ tables, Placeholder.Tidy d (NotClosing d) t.toList)
    (h : d.lockClause mode tables onLocked = .ok lc) : lc.Tidy d := by
  unfold lockClause at h
  by_cases hopt : mode = .optimistic
  · rw [if_pos hopt] at h
    cases h
    trivial
  rw [if_neg hopt] at h
  generalize mode.expand onLocked = p at h
  obtain ⟨m, ol⟩ := p
  dsimp only at h
  have hol : Placeholder.Tidy d (NotClosing d) (OnLocked.suffix ol).toList ∧ Spaced (OnLocked.suffix ol) := by
    cases ol with
    | none => exact ⟨tidy_nil, spaced_empty⟩
    | some o => cases o <;> exact ⟨tidy_safe (by decide), by decide⟩
  have htail : Placeholder.Tidy d (NotClosing d)
      ((if tables.isEmpty then "" else " OF " ++ ", ".intercalate tables) ++ OnLocked.suffix ol).toList := by
    have hof : Placeholder.Tidy d (NotClosing d)
        (if tables.isEmpty then "" else " OF " ++ ", ".intercalate tables).toList := by
      split
      · exact tidy_nil
      · rw [String.toList_append]
        exact Tidy.safe_append (by decide) (Tidy.intercalate (by cases d <;> decide)
          (fun more => notClosing_safe_append ", " (by decide) (by decide) more) (fun _ h => h) htables)
    rw [String.toList_append]
    exact hof.append hol.1 fun _ h => hol.2.notClosing_append h
  split at h
  · -- a table hint
    split at h <;> cases h <;> simp only [LockClause.Tidy] <;> decide
  · split at h
    · cases h
      trivial
    split at h
    · -- the Postgres and MySQL families
      split at h
      · split at h
        · cases h
        · cases h
          exact ⟨tidy_safe (by decide), by decide⟩
      · split at h
        · cases h
        · rename_i base hbase
          have hb : base.toList.all safeChar = true ∧ base.toList.head? = some ' ' := by
            split at hbase
            · cases hbase; exact ⟨by decide, by decide⟩
            · cases hbase; exact ⟨by decide, by decide⟩
            · split at hbase
              · cases hbase; exact ⟨by decide, by decide⟩
              · cases hbase
            · split at hbase
              · cases hbase; exact ⟨by decide, by decide⟩
              · cases hbase
            · cases hbase
          split at h
          · cases h
          · cases h
            rw [String.append_assoc]
            exact tidy_lockSuffix d hb.1 hb.2 htail
    · split at h
      · -- Oracle
        split at h
        · cases h
        · cases h
          exact tidy_lockSuffix d (by decide) (by decide) hol.1
      · split at h
        · -- SAP HANA
          split at h
          · cases h
          · rename_i base hbase
            have hb : base.toList.all safeChar = true ∧ base.toList.head? = some ' ' := by
              split at hbase
              · cases hbase; exact ⟨by decide, by decide⟩
              · cases hbase; exact ⟨by decide, by decide⟩
              · cases hbase
            cases h
            refine tidy_lockSuffix d hb.1 hb.2 (tidy_safe ?_)
            split <;> decide
        · cases h
end Dialect

namespace LockClause

theorem Tidy.hint {d : Dialect} {lock : LockClause} :
    lock.Tidy d → (match lock with | .tableHint x => " " ++ x | _ => "").toList.all safeChar = true := by
  intro hl
  cases lock with
  | tableHint x =>
    show (" " ++ x).toList.all safeChar = true
    rw [String.toList_append, List.all_append, Bool.and_eq_true]
    exact ⟨by decide, hl⟩
  | _ => rfl

theorem spaced_hint (lock : LockClause) :
    Spaced (match lock with | .tableHint x => " " ++ x | _ => "") := by
  cases lock with
  | tableHint x => exact spaced_word_append (w := " ") rfl x
  | _ => exact spaced_empty

theorem Tidy.suffix {d : Dialect} {N : String → Prop} {lock : LockClause} :
    lock.Tidy d → Clause d N (match lock with | .suffix x => x | _ => "") := by
  intro hl
  cases lock with
  | suffix x => exact hl.1.clause hl.2
  | _ => exact clause_empty

end LockClause

end EntitySql
