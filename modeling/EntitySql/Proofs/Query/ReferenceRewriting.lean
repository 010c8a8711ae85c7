import EntitySql.Query.PropertyNames
import EntitySql.Proofs.Sql.Lexer
import Mathlib

/-!
# Rewriting property references: how a text is read, and rewriting twice

`PropertyNames.rewrite` reads SQL text from left to right, and `Reads d prev cs ps` says how: the
text `cs`, after the character `prev`, falls into the pieces `ps`. A quote opens a run that is
copied through its closing quote, where two closing quotes in a row stand for one. A chain of
names joined by dots, as long as it goes, is a reference when it starts a word. Any other
character is copied by itself. `Reads.rewrite_eq` says that every piece is written as itself,
except a reference that is no call and names one column of an entity alias: that one is written
as the quoted column.

Rewriting the output once more changes nothing (`Reads.rewrite_rewrite`) when the dialect closes
its quoted identifiers with the character that opens them. The second reading may join two
quoted runs where a run ends right before a written column, yet no reference leaves a run and no
text enters one. Where the closing character is another one (`[` and `]`), a `]` right after a
written column is read the second time as a doubled closing quote: the run goes on past it, and
text that was outside a run comes inside one, and the other way round.
-/

namespace EntitySql

namespace PropertyNames

open Placeholder (isNameChar spanQuoted)
open Sql (doubled escape_toList)

/-- The character that closes the run a character opens: a string literal, the dialect's quoted
identifier, or an identifier between double quotes or backquotes. -/
def quoteClose (d : Dialect) (c : Char) : Option Char :=
  if c = '\'' then some '\''
  else if c = d.quoteChars.1 then some d.quoteChars.2
  else if c = '"' ∨ c = '`' then some c
  else none

theorem quoteClose_eq_some_iff {d : Dialect} {c q : Char} :
    quoteClose d c = some q ↔ (c = '\'' ∨ c = d.quoteChars.1 ∨ c = '"' ∨ c = '`') ∧
      q = (if c = '\'' then '\'' else if c = d.quoteChars.1 then d.quoteChars.2 else c) := by
  by_cases h1 : c = '\''
  · simp [quoteClose, h1, eq_comm]
  by_cases h2 : c = d.quoteChars.1
  · have h1' : d.quoteChars.1 ≠ '\'' := h2 ▸ h1
    simp [quoteClose, h2, h1', eq_comm]
  by_cases h3 : c = '"' ∨ c = '`'
  · simp [quoteClose, h1, h2, h3, eq_comm]
  · simp [quoteClose, h1, h2, h3]

theorem quoteClose_eq_none_iff {d : Dialect} {c : Char} :
    quoteClose d c = none ↔ ¬(c = '\'' ∨ c = d.quoteChars.1 ∨ c = '"' ∨ c = '`') := by
  rw [Option.eq_none_iff_forall_ne_some]
  simp only [ne_eq, quoteClose_eq_some_iff, not_and]
  exact ⟨fun h hA => h _ hA rfl, fun h _ hA => absurd hA h⟩

theorem quoteClose_open (d : Dialect) : quoteClose d d.quoteChars.1 = some d.quoteChars.2 := by
  cases d <;> rfl

theorem quoteClose_dot (d : Dialect) : quoteClose d '.' = none := by
  cases d <;> rfl

theorem quoteClose_of_isChainStart (d : Dialect) {c : Char} (hc : isChainStart c = true) :
    quoteClose d c = none := by
  have hne : ∀ x : Char, isChainStart x = false → c ≠ x := fun x hx h => by simp_all
  have hq : c ≠ '\'' ∧ c ≠ '"' ∧ c ≠ '`' ∧ c ≠ d.quoteChars.1 :=
    ⟨hne _ (by decide), hne _ (by decide), hne _ (by decide), hne _ (by cases d <;> decide)⟩
  simp [quoteClose, hq]

def IsClose (d : Dialect) (q : Char) : Prop := ∃ c, quoteClose d c = some q

theorem isClose_close (d : Dialect) : IsClose d d.quoteChars.2 := ⟨_, quoteClose_open d⟩

theorem IsClose.ne_open {d : Dialect} {q : Char} (h : IsClose d q) (hself : quoteClose d q ≠ some q) :
    q ≠ d.quoteChars.1 := by
  rintro rfl
  obtain ⟨c, hc⟩ := h
  obtain ⟨hopen, hq⟩ := quoteClose_eq_some_iff.1 hc
  rcases hopen with rfl | rfl | rfl | rfl <;> cases d <;> simp_all [quoteClose, Dialect.quoteChars]

theorem quoteClose_close (d : Dialect) :
    quoteClose d d.quoteChars.2 = some d.quoteChars.2 ∨ quoteClose d d.quoteChars.2 = none := by
  cases d <;> decide

theorem resolve_eq_some {d : Dialect} {as : Aliases} {p : Bool} {chain r : String}
    (h : resolve d as p chain = some r) :
    ∃ a col : String, r = if p then d.escape a ++ "." ++ d.escape col else d.escape col := by
  unfold resolve at h
  split at h
  · next aliasName _ _ _ =>
    simp only [Option.bind_eq_bind, Option.bind_eq_some_iff] at h
    obtain ⟨a, -, e, -, h⟩ := h
    split at h
    · next c _ =>
      refine ⟨aliasName, c.databaseName, ?_⟩
      cases p <;> simp_all
    · simp at h
  · simp at h

theorem resolve_eq_none {as : Aliases} (h : as.anyEntity = false) (d : Dialect) (p : Bool)
    (chain : String) : resolve d as p chain = none := by
  unfold resolve
  split
  · next aliasName _ _ _ =>
    cases ha : as.find? aliasName with
    | none => rfl
    | some a =>
      have hmem : a ∈ as.items := List.mem_of_find?_eq_some ha
      have hnone : a.entity = none := by
        simp only [Aliases.anyEntity, List.any_eq_false, Alias.hasEntity] at h
        simpa using h a hmem
      simp [hnone]
  · rfl

/-- A piece of SQL text as references are rewritten in it. -/
inductive Piece where
  /-- A string literal or a quoted identifier, from its opening quote through its closing one. -/
  | quoted (run : List Char)
  /-- A chain of names that starts a word, with whether `(` follows it. -/
  | chain (text : List Char) (call : Bool)
  /-- Any other character. -/
  | char (c : Char)

namespace Piece

/-- The text a piece stands for. -/
def source : Piece → List Char
  | quoted run => run
  | chain text _ => text
  | char c => [c]

def column? (d : Dialect) (as : Aliases) (p : Bool) : Piece → Option String
  | chain text false => resolve d as p (String.ofList text)
  | _ => none

def write (d : Dialect) (as : Aliases) (p : Bool) (x : Piece) : List Char :=
  ((x.column? d as p).map String.toList).getD x.source

theorem write_eq_source {d : Dialect} {as : Aliases} {p : Bool} {x : Piece}
    (h : x.column? d as p = none) : x.write d as p = x.source := by
  simp [write, h]

theorem write_eq_column {d : Dialect} {as : Aliases} {p : Bool} {x : Piece} {r : String}
    (h : x.column? d as p = some r) : x.write d as p = r.toList := by
  simp [write, h]

@[simp] theorem write_quoted (d : Dialect) (as : Aliases) (p : Bool) (run : List Char) :
    (quoted run).write d as p = run := rfl

@[simp] theorem write_char (d : Dialect) (as : Aliases) (p : Bool) (c : Char) :
    (char c).write d as p = [c] := rfl

theorem column?_eq_none {as : Aliases} (h : as.anyEntity = false) (d : Dialect) (p : Bool)
    (x : Piece) : x.column? d as p = none := by
  cases x with
  | chain text call => cases call <;> simp [column?, resolve_eq_none h]
  | quoted => rfl
  | char => rfl

theorem column?_eq_some {d : Dialect} {as : Aliases} {p : Bool} {x : Piece} {r : String}
    (h : x.column? d as p = some r) : ∃ text, resolve d as p (String.ofList text) = some r := by
  cases x with
  | chain text call =>
    cases call
    · exact ⟨text, h⟩
    · simp [column?] at h
  | quoted => simp [column?] at h
  | char => simp [column?] at h

end Piece

section Rewrite

variable {d : Dialect} {as : Aliases} {p : Bool}

@[simp] theorem rewrite_nil (prev : Option Char) : rewrite d as p prev [] = [] := by
  rw [rewrite]

theorem rewrite_quoted {c q : Char} (hq : quoteClose d c = some q) (prev : Option Char)
    (rest : List Char) :
    rewrite d as p prev (c :: rest) =
      c :: (spanQuoted q rest).1 ++
        rewrite d as p (c :: (spanQuoted q rest).1).getLast? (spanQuoted q rest).2 := by
  obtain ⟨hopen, rfl⟩ := quoteClose_eq_some_iff.1 hq
  rw [rewrite]
  rcases hd : d.quoteChars with ⟨o, cl⟩
  simp only [hd] at hopen ⊢
  rw [if_pos hopen]

theorem rewrite_char {c : Char} {prev : Option Char} (hq : quoteClose d c = none)
    (hc : isChainStart c = false ∨ blocksChain prev = true) (rest : List Char) :
    rewrite d as p prev (c :: rest) = c :: rewrite d as p (some c) rest := by
  have hnq := quoteClose_eq_none_iff.1 hq
  rw [rewrite]
  rcases hd : d.quoteChars with ⟨o, cl⟩
  simp only [hd] at hnq ⊢
  rw [if_neg hnq, if_neg (by rcases hc with h | h <;> simp [h])]

theorem rewrite_chain {c : Char} {prev : Option Char} (hc : isChainStart c = true)
    (hfree : blocksChain prev = false) (rest : List Char) :
    rewrite d as p prev (c :: rest) =
      (Piece.chain (spanChain (c :: rest)).1
          ((spanChain (c :: rest)).2.head? = some '(')).write d as p ++
        rewrite d as p (spanChain (c :: rest)).1.getLast? (spanChain (c :: rest)).2 := by
  have hnq := quoteClose_eq_none_iff.1 (quoteClose_of_isChainStart d hc)
  rw [rewrite]
  rcases hd : d.quoteChars with ⟨o, cl⟩
  simp only [hd] at hnq ⊢
  rw [if_neg hnq, if_pos (by simp [hc, hfree])]
  congr 1
  by_cases hcall : (spanChain (c :: rest)).2.head? = some '('
  · simp [hcall, Piece.write, Piece.column?, Piece.source]
  · cases hr : resolve d as p (String.ofList (spanChain (c :: rest)).1) <;>
      simp [hcall, hr, Piece.write, Piece.column?, Piece.source]

end Rewrite

/-! ### Quoted runs and chains -/

/-- A quoted run after its opening quote, and the text after it: characters with each closing
quote `q` doubled, then `q`, before a text that does not start with another `q`; or, left open,
such characters to the end of the text. -/
def QuotedRun (q : Char) (body rest : List Char) : Prop :=
  ∃ inner, (body = doubled q inner ++ [q] ∧ rest.head? ≠ some q) ∨
    (body = doubled q inner ∧ rest = [])

theorem spanQuoted_doubled_append (q : Char) (inner cs : List Char) :
    spanQuoted q (doubled q inner ++ cs) =
      (doubled q inner ++ (spanQuoted q cs).1, (spanQuoted q cs).2) := by
  induction inner with
  | nil => simp [doubled]
  | cons x xs ih =>
    by_cases hx : x = q
    · subst hx
      simp only [doubled] at ih ⊢
      simp [spanQuoted, ih]
    · simp only [doubled] at ih ⊢
      rw [List.flatMap_cons, if_neg hx, List.singleton_append, List.cons_append,
        spanQuoted.eq_def]
      simp [hx, ih]

theorem QuotedRun.spanQuoted_eq {q : Char} {body rest : List Char} (h : QuotedRun q body rest) :
    spanQuoted q (body ++ rest) = (body, rest) := by
  obtain ⟨inner, ⟨rfl, hrest⟩ | ⟨rfl, rfl⟩⟩ := h
  · rw [List.append_assoc, List.singleton_append, spanQuoted_doubled_append]
    cases rest with
    | nil => simp [spanQuoted]
    | cons x more =>
      have hx : x ≠ q := fun h => hrest (by simp [h])
      simp [spanQuoted, hx]
  · simpa [spanQuoted] using spanQuoted_doubled_append q inner []

theorem quotedRun_spanQuoted (q : Char) (cs : List Char) :
    QuotedRun q (spanQuoted q cs).1 (spanQuoted q cs).2 ∧
      (spanQuoted q cs).1 ++ (spanQuoted q cs).2 = cs := by
  fun_induction spanQuoted q cs with
  | case1 => exact ⟨⟨[], .inr ⟨rfl, rfl⟩⟩, rfl⟩
  | case2 rest2 a b hab ih =>
    rw [hab] at ih
    obtain ⟨⟨inner, hrun⟩, happ⟩ := ih
    refine ⟨⟨q :: inner, ?_⟩, by simp [happ]⟩
    rcases hrun with ⟨rfl, h⟩ | ⟨rfl, rfl⟩ <;> simp [doubled, *]
  | case3 c2 rest2 hc2 => exact ⟨⟨[], .inl ⟨by simp [doubled], by simpa using hc2⟩⟩, rfl⟩
  | case4 => exact ⟨⟨[], .inl ⟨by simp [doubled], by simp⟩⟩, rfl⟩
  | case5 c rest hc a b hab ih =>
    rw [hab] at ih
    obtain ⟨⟨inner, hrun⟩, happ⟩ := ih
    refine ⟨⟨c :: inner, ?_⟩, by simp [happ]⟩
    rcases hrun with ⟨rfl, h⟩ | ⟨rfl, rfl⟩ <;> simp [doubled, *]

theorem spanQuoted_fst_ne_nil (q : Char) {cs : List Char} (hcs : cs ≠ []) :
    (spanQuoted q cs).1 ≠ [] := by
  cases cs with
  | nil => exact absurd rfl hcs
  | cons c rest =>
    unfold spanQuoted
    split
    · split
      · split <;> simp
      · simp
    · simp

theorem spanChain_append_eq (cs : List Char) : (spanChain cs).1 ++ (spanChain cs).2 = cs := by
  induction cs with
  | nil => rfl
  | cons c rest ih =>
    simp only [spanChain]
    split <;> simp [ih]

theorem spanChain_cons_eq_nil_iff {c : Char} {rest : List Char} :
    spanChain (c :: rest) = ([], c :: rest) ↔
      ¬(isNameChar c = true ∨ (c = '.' ∧ startsChain rest = true)) := by
  simp only [spanChain]
  split <;> simp_all

theorem startsChain_congr {xs ys : List Char} (h : xs.head? = ys.head?) :
    startsChain xs = startsChain ys := by
  cases xs <;> cases ys <;> simp_all [startsChain]

theorem startsChain_eq_false_of_stop {rest : List Char} (h : spanChain rest = ([], rest)) :
    startsChain rest = false := by
  cases rest with
  | nil => rfl
  | cons c more =>
    have hc := spanChain_cons_eq_nil_iff.1 h
    cases hstart : isChainStart c
    · simpa [startsChain] using hstart
    · exact absurd (.inl (isNameChar_of_isChainStart hstart)) hc

theorem spanChain_stop_of_append {text rest : List Char}
    (h : spanChain (text ++ rest) = (text, rest)) : spanChain rest = ([], rest) := by
  induction text with
  | nil => simpa using h
  | cons c t ih =>
    simp only [List.cons_append, spanChain] at h
    split at h
    · simp only [Prod.mk.injEq, List.cons.injEq, true_and] at h
      exact ih (Prod.ext h.1 h.2)
    · simp at h

theorem spanChain_append_of_stop {text rest y : List Char}
    (h : spanChain (text ++ rest) = (text, rest)) (hy : spanChain y = ([], y)) :
    spanChain (text ++ y) = (text, y) := by
  induction text with
  | nil => simpa using hy
  | cons c t ih =>
    simp only [List.cons_append, spanChain] at h ⊢
    split at h
    · next hc =>
      simp only [Prod.mk.injEq, List.cons.injEq, true_and] at h
      have ht : spanChain (t ++ rest) = (t, rest) := Prod.ext h.1 h.2
      have hc' : isNameChar c = true ∨ (c = '.' ∧ startsChain (t ++ y) = true) := by
        rcases hc with hc | ⟨hdot, hstart⟩
        · exact .inl hc
        · cases t with
          | nil =>
            exact absurd hstart (by simp [startsChain_eq_false_of_stop (by simpa using ht)])
          | cons x xs => exact .inr ⟨hdot, hstart⟩
      rw [if_pos hc', ih ht]
    · simp at h

/-! ### How a text is read -/

/-- How a text, after the character `prev`, falls into pieces as references are rewritten. -/
inductive Reads (d : Dialect) : Option Char → List Char → List Piece → Prop
  /-- Nothing is left. -/
  | nil (prev : Option Char) : Reads d prev [] []
  /-- A quote opens a run through its closing quote. -/
  | quoted {prev : Option Char} {c q : Char} {body rest : List Char} {ps : List Piece}
      (hq : quoteClose d c = some q) (hrun : QuotedRun q body rest)
      (hrest : Reads d (c :: body).getLast? rest ps) :
      Reads d prev (c :: body ++ rest) (.quoted (c :: body) :: ps)
  /-- A chain of names, as long as it goes, that starts a word. -/
  | chain {prev : Option Char} {text rest : List Char} {ps : List Piece}
      (hstart : startsChain text = true) (hfree : blocksChain prev = false)
      (hmax : spanChain (text ++ rest) = (text, rest)) (hrest : Reads d text.getLast? rest ps) :
      Reads d prev (text ++ rest) (.chain text (rest.head? = some '(') :: ps)
  /-- Any other character. -/
  | char {prev : Option Char} {c : Char} {rest : List Char} {ps : List Piece}
      (hq : quoteClose d c = none) (hc : isChainStart c = false ∨ blocksChain prev = true)
      (hrest : Reads d (some c) rest ps) :
      Reads d prev (c :: rest) (.char c :: ps)

section Reading

variable {d : Dialect} {as : Aliases} {p : Bool}

theorem reads_exists (d : Dialect) : ∀ (prev : Option Char) (cs : List Char), ∃ ps, Reads d prev cs ps
  | prev, [] => ⟨[], .nil prev⟩
  | prev, c :: rest => by
    cases hq : quoteClose d c with
    | some q =>
      obtain ⟨hrun, hcs⟩ := quotedRun_spanQuoted q rest
      obtain ⟨ps, h⟩ := reads_exists d (c :: (spanQuoted q rest).1).getLast? (spanQuoted q rest).2
      have hread : Reads d prev _ _ := Reads.quoted hq hrun h
      rw [List.cons_append, hcs] at hread
      exact ⟨_, hread⟩
    | none =>
      by_cases hchain : isChainStart c = true ∧ blocksChain prev = false
      · obtain ⟨ps, h⟩ :=
          reads_exists d (spanChain (c :: rest)).1.getLast? (spanChain (c :: rest)).2
        have hstart : startsChain (spanChain (c :: rest)).1 = true := by
          simp [spanChain, isNameChar_of_isChainStart hchain.1, startsChain, hchain.1]
        have hread := Reads.chain hstart hchain.2 (by rw [spanChain_append_eq]) h
        rw [spanChain_append_eq] at hread
        exact ⟨_, hread⟩
      · obtain ⟨ps, h⟩ := reads_exists d (some c) rest
        refine ⟨_, .char hq ?_ h⟩
        cases hc : isChainStart c <;> simp_all
termination_by _ cs => cs.length
decreasing_by
  · exact spanChain_rest_lt c rest (isNameChar_of_isChainStart hchain.1)
  · simp
  · simp only [List.length_cons]
    exact Nat.lt_succ_of_le (Placeholder.spanQuoted_rest_length _ _)

theorem Reads.source_eq {prev : Option Char} {cs : List Char} {ps : List Piece}
    (h : Reads d prev cs ps) : ps.flatMap Piece.source = cs := by
  induction h with
  | nil => rfl
  | quoted _ _ _ ih => simp [Piece.source, ih]
  | chain _ _ _ _ ih => simp [Piece.source, ih]
  | char _ _ _ ih => simp [Piece.source, ih]

theorem Reads.rewrite_eq {prev : Option Char} {cs : List Char} {ps : List Piece}
    (h : Reads d prev cs ps) : rewrite d as p prev cs = ps.flatMap (Piece.write d as p) := by
  induction h with
  | nil prev => exact rewrite_nil prev
  | quoted hq hrun _ ih =>
    rw [List.cons_append, rewrite_quoted hq, hrun.spanQuoted_eq, ih]
    simp
  | @chain prev text rest ps hstart hfree hmax _ ih =>
    obtain ⟨c, t, rfl⟩ : ∃ c t, text = c :: t := by
      cases text with
      | nil => simp [startsChain] at hstart
      | cons c t => exact ⟨c, t, rfl⟩
    rw [List.cons_append, rewrite_chain hstart hfree, ← List.cons_append, hmax, ih]
    simp
  | char hq hc _ ih =>
    rw [rewrite_char hq hc, ih]
    simp

theorem Reads.head_write {prev : Option Char} {cs : List Char} {ps : List Piece}
    (h : Reads d prev cs ps) (hcs : startsChain cs = false) :
    (ps.flatMap (Piece.write d as p)).head? = cs.head? := by
  cases h with
  | nil => rfl
  | quoted => simp
  | @chain _ text rest _ hstart =>
    cases text with
    | nil => simp [startsChain] at hstart
    | cons c t => simp_all [startsChain]
  | char => simp

theorem Reads.stop {prev : Option Char} {cs : List Char} {ps : List Piece}
    (h : Reads d prev cs ps) (hcs : spanChain cs = ([], cs)) :
    spanChain (ps.flatMap (Piece.write d as p)) =
      ([], ps.flatMap (Piece.write d as p)) := by
  cases h with
  | nil => rfl
  | @quoted _ c q body rest _ hq =>
    have hc := spanChain_cons_eq_nil_iff.1 (by simpa using hcs)
    have hdot : c ≠ '.' := fun h => by simp [h, quoteClose_dot] at hq
    rw [List.flatMap_cons, Piece.write_quoted, List.cons_append, spanChain_cons_eq_nil_iff]
    simp_all
  | @chain _ text rest _ hstart =>
    cases text with
    | nil => simp [startsChain] at hstart
    | cons c t =>
      have hc := spanChain_cons_eq_nil_iff.1 (by simpa using hcs)
      simp_all [startsChain]
  | @char _ c rest ps hq _ hrest =>
    have hc := spanChain_cons_eq_nil_iff.1 hcs
    rw [List.flatMap_cons, Piece.write_char, List.singleton_append, spanChain_cons_eq_nil_iff]
    rintro (hname | ⟨hdot, hstart⟩)
    · exact hc (.inl hname)
    · -- after a dot, the written text still starts no name
      have hrest' : startsChain rest = false := by
        cases h : startsChain rest
        · rfl
        · exact absurd (.inr ⟨hdot, h⟩) hc
      rw [startsChain_congr (hrest.head_write hrest'), hrest'] at hstart
      exact Bool.false_ne_true hstart

end Reading

/-! ### Rewriting twice -/

/-- Rewriting resumed inside a quoted run closed by `q`: the rest of the run is copied, and
rewriting goes on after its closing quote. -/
def inQuote (d : Dialect) (as : Aliases) (p : Bool) (q : Char) (cs : List Char) : List Char :=
  (spanQuoted q cs).1 ++ rewrite d as p (spanQuoted q cs).1.getLast? (spanQuoted q cs).2

def Agrees (prev prev' : Option Char) (cs : List Char) : Prop :=
  blocksChain prev' = blocksChain prev ∨ startsChain cs = false

theorem Agrees.refl (prev : Option Char) (cs : List Char) : Agrees prev prev cs := .inl rfl

def NoCloseAfterColumn (d : Dialect) (as : Aliases) (p : Bool) (ps : List Piece) : Prop :=
  ps.IsChain fun a b => (a.column? d as p).isSome = true → b ≠ .char d.quoteChars.2

section Twice

variable {d : Dialect} {as : Aliases} {p : Bool}

theorem rewrite_open {c q : Char} (hq : quoteClose d c = some q) (prev : Option Char)
    (cs : List Char) : rewrite d as p prev (c :: cs) = c :: inQuote d as p q cs := by
  rw [rewrite_quoted hq, inQuote, List.cons_append]
  cases cs with
  | nil => simp [spanQuoted]
  | cons x xs =>
    rw [← List.singleton_append (l := (spanQuoted q (x :: xs)).1),
      List.getLast?_append_of_ne_nil _ (spanQuoted_fst_ne_nil q (List.cons_ne_nil x xs))]

theorem inQuote_doubled (q : Char) (inner cs : List Char) :
    inQuote d as p q (doubled q inner ++ cs) = doubled q inner ++ inQuote d as p q cs := by
  unfold inQuote
  rw [spanQuoted_doubled_append]
  cases cs with
  | nil => simp [spanQuoted]
  | cons x xs =>
    rw [List.getLast?_append_of_ne_nil _ (spanQuoted_fst_ne_nil q (List.cons_ne_nil x xs)),
      List.append_assoc]

theorem inQuote_close_close (q : Char) (cs : List Char) :
    inQuote d as p q (q :: q :: cs) = q :: q :: inQuote d as p q cs := by
  have h : inQuote d as p q (doubled q [q] ++ cs) = doubled q [q] ++ inQuote d as p q cs :=
    inQuote_doubled q [q] cs
  simpa [doubled] using h

theorem inQuote_close {q : Char} {cs : List Char} (hcs : cs.head? ≠ some q) :
    inQuote d as p q (q :: cs) = q :: rewrite d as p (some q) cs := by
  cases cs with
  | nil => simp [inQuote, spanQuoted]
  | cons x xs =>
    have hx : x ≠ q := fun h => hcs (by simp [h])
    simp [inQuote, spanQuoted, hx]

theorem column_toList {x : Piece} {r : String} (h : x.column? d as p = some r) :
    ∃ body, r.toList = d.quoteChars.1 :: (body ++ [d.quoteChars.2]) ∧
      ∀ out, inQuote d as p d.quoteChars.2 (body ++ d.quoteChars.2 :: out) =
        body ++ inQuote d as p d.quoteChars.2 (d.quoteChars.2 :: out) := by
  obtain ⟨text, hres⟩ := Piece.column?_eq_some h
  obtain ⟨a, col, rfl⟩ := resolve_eq_some hres
  cases p with
  | false =>
    refine ⟨doubled d.quoteChars.2 col.toList, by simp [escape_toList], fun out => ?_⟩
    exact inQuote_doubled _ _ _
  | true =>
    refine ⟨doubled d.quoteChars.2 a.toList ++ d.quoteChars.2 :: '.' :: d.quoteChars.1 ::
      doubled d.quoteChars.2 col.toList, by simp [escape_toList], fun out => ?_⟩
    have hdot : '.' ≠ d.quoteChars.2 := by cases d <;> decide
    have hdot' : isChainStart '.' = false := by decide
    simp only [List.append_assoc, List.cons_append]
    rw [inQuote_doubled, inQuote_close (by simpa using hdot), rewrite_char (quoteClose_dot d)
      (.inl hdot'), rewrite_open (quoteClose_open d), inQuote_doubled]

theorem Reads.char_head {prev : Option Char} {cs : List Char} {ps : List Piece} {c : Char}
    (h : Reads d prev cs ps) (hhead : cs.head? = some c) (hq : quoteClose d c = none)
    (hc : isChainStart c = false) : ∃ ps', ps = .char c :: ps' := by
  cases h with
  | nil => simp at hhead
  | quoted hq' =>
    simp only [List.cons_append, List.head?_cons, Option.some.injEq] at hhead
    subst hhead
    simp [hq] at hq'
  | @chain _ text rest _ hstart =>
    cases text with
    | nil => simp [startsChain] at hstart
    | cons x xs =>
      simp only [List.cons_append, List.head?_cons, Option.some.injEq] at hhead
      subst hhead
      simp_all [startsChain]
  | char =>
    simp only [List.head?_cons, Option.some.injEq] at hhead
    subst hhead
    exact ⟨_, rfl⟩

theorem Reads.head_ne_close {prev : Option Char} {cs : List Char} {ps : List Piece} {q : Char}
    (h : Reads d prev cs ps) (hq : IsClose d q) (hself : quoteClose d q ≠ some q)
    (hcs : cs.head? ≠ some q) : (ps.flatMap (Piece.write d as p)).head? ≠ some q := by
  cases h with
  | nil => simp
  | quoted => simpa using hcs
  | @chain _ text rest _ hstart =>
    cases text with
    | nil => simp [startsChain] at hstart
    | cons x xs =>
      cases hcol : (Piece.chain (x :: xs) (rest.head? = some '(')).column? d as p with
      | none => simpa [Piece.write_eq_source hcol, Piece.source] using hcs
      | some r =>
        obtain ⟨body, hr, -⟩ := column_toList hcol
        simpa [Piece.write_eq_column hcol, hr] using (hq.ne_open hself).symm
  | char => simpa using hcs

theorem closeAfterColumn {x : Piece} {prev : Option Char} {rest : List Char} {ps : List Piece}
    (hcols : d.quoteChars.1 = d.quoteChars.2 ∨ NoCloseAfterColumn d as p (x :: ps))
    (hrest : Reads d prev rest ps) (hx : (x.column? d as p).isSome = true) :
    quoteClose d d.quoteChars.2 = some d.quoteChars.2 ∨ rest.head? ≠ some d.quoteChars.2 := by
  rcases quoteClose_close d with hself | hnone
  · exact .inl hself
  right
  rcases hcols with hsame | hchain
  · rw [← hsame, quoteClose_open] at hnone
    simp at hnone
  · intro hhead
    have hc : isChainStart d.quoteChars.2 = false := by cases d <;> decide
    obtain ⟨ps', rfl⟩ := hrest.char_head hhead hnone hc
    exact (List.isChain_cons.1 hchain).1 _ rfl hx rfl

/-- A second rewrite leaves `out`, the writing of the text `cs` after `prev`, as it is: from the
top after a character that blocks a chain as `prev` does, and inside a quoted run that has just
read its closing quote `q`, where `q` opens a run it closes itself or `out` does not start with
it. -/
structure Fixed (d : Dialect) (as : Aliases) (p : Bool) (prev : Option Char) (cs out : List Char) :
    Prop where
  top : ∀ prev', Agrees prev prev' cs → rewrite d as p prev' out = out
  resume : ∀ q, (quoteClose d q = some q ∨ out.head? ≠ some q) → Agrees prev (some q) cs →
    inQuote d as p q (q :: out) = q :: out

theorem resume_of_top {q : Char} {out : List Char} (htop : rewrite d as p (some q) out = out)
    (hne : out.head? ≠ some q) : inQuote d as p q (q :: out) = q :: out := by
  rw [inQuote_close hne, htop]

theorem Fixed.nil (prev : Option Char) : Fixed d as p prev [] [] :=
  ⟨fun _ _ => rewrite_nil _, fun _ _ _ => resume_of_top (rewrite_nil _) (by simp)⟩

/-- A quoted run is read again as a run through the same closing quote; it goes on where the
next piece opens with that quote, which happens only for a quote that closes itself. -/
theorem Fixed.quoted {prev : Option Char} {c q : Char} {body rest : List Char} {ps : List Piece}
    (hq : quoteClose d c = some q) (hrun : QuotedRun q body rest)
    (hrest : Reads d (c :: body).getLast? rest ps)
    (ih : Fixed d as p (c :: body).getLast? rest (ps.flatMap (Piece.write d as p))) :
    Fixed d as p prev (c :: body ++ rest) ((Piece.quoted (c :: body) :: ps).flatMap
      (Piece.write d as p)) := by
  rw [List.flatMap_cons, Piece.write_quoted]
  obtain ⟨inner, ⟨rfl, hstop⟩ | ⟨rfl, rfl⟩⟩ := hrun
  · -- a closed run: read through its closing quote, the rest is resumed
    set out := ps.flatMap (Piece.write d as p)
    have hlast : (c :: (doubled q inner ++ [q])).getLast? = some q := by
      rw [← List.cons_append, List.getLast?_append_of_ne_nil _ (List.cons_ne_nil q [])]
      rfl
    have hres : inQuote d as p q (q :: out) = q :: out := by
      refine ih.resume q ?_ (by rw [hlast]; exact Agrees.refl _ _)
      by_cases hself : quoteClose d q = some q
      · exact .inl hself
      · exact .inr (hrest.head_ne_close ⟨c, hq⟩ hself hstop)
    have htop : ∀ prev', rewrite d as p prev' (c :: (doubled q inner ++ [q]) ++ out) =
        c :: (doubled q inner ++ [q]) ++ out := by
      intro prev'
      simp only [List.cons_append, List.append_assoc, List.nil_append]
      rw [rewrite_open hq, inQuote_doubled, hres]
    refine ⟨fun prev' _ => htop prev', fun q' hcond hagree => ?_⟩
    by_cases hmerge : c = q'
    · -- the run opens with the quote that closed the one before: a doubled quote
      subst hmerge
      have hself : quoteClose d c = some c := hcond.resolve_right (by simp)
      obtain rfl : q = c := Option.some.inj (hq.symm.trans hself)
      simp only [List.cons_append, List.append_assoc, List.nil_append]
      rw [inQuote_close_close, inQuote_doubled, hres]
    · exact resume_of_top (htop _) (by simpa using hmerge)
  · -- a run left open takes the rest of the text
    have hout : ps.flatMap (Piece.write d as p) = [] := by
      rw [← hrest.rewrite_eq]
      exact rewrite_nil _
    rw [hout, List.append_nil]
    have htop : ∀ prev', rewrite d as p prev' (c :: doubled q inner) = c :: doubled q inner := by
      intro prev'
      rw [rewrite_open hq, ← List.append_nil (doubled q inner), inQuote_doubled]
      simp [inQuote, spanQuoted]
    refine ⟨fun prev' _ => htop prev', fun q' hcond hagree => ?_⟩
    by_cases hmerge : c = q'
    · subst hmerge
      have hself : quoteClose d c = some c := hcond.resolve_right (by simp)
      obtain rfl : q = c := Option.some.inj (hq.symm.trans hself)
      rw [inQuote_close_close, ← List.append_nil (doubled q inner), inQuote_doubled]
      simp [inQuote, spanQuoted]
    · exact resume_of_top (htop _) (by simpa using hmerge)

theorem Fixed.char {prev : Option Char} {c : Char} {rest : List Char} {ps : List Piece}
    (hq : quoteClose d c = none) (hc : isChainStart c = false ∨ blocksChain prev = true)
    (ih : Fixed d as p (some c) rest (ps.flatMap (Piece.write d as p))) :
    Fixed d as p prev (c :: rest) ((Piece.char c :: ps).flatMap (Piece.write d as p)) := by
  rw [List.flatMap_cons, Piece.write_char, List.singleton_append]
  have htop : ∀ prev', Agrees prev prev' (c :: rest) →
      rewrite d as p prev' (c :: ps.flatMap (Piece.write d as p)) =
        c :: ps.flatMap (Piece.write d as p) := by
    intro prev' hagree
    have hc' : isChainStart c = false ∨ blocksChain prev' = true := by
      rcases hc with h | h
      · exact .inl h
      · rcases hagree with h' | h'
        · exact .inr (h'.trans h)
        · exact .inl h'
    rw [rewrite_char hq hc', ih.top _ (Agrees.refl _ _)]
  refine ⟨htop, fun q hcond hagree => resume_of_top (htop _ hagree) ?_⟩
  rintro hhead
  obtain rfl : c = q := by simpa using hhead
  rcases hcond with h | h
  · simp [hq] at h
  · exact h hhead

/-- A chain kept as it is is read again as the same chain and kept. A written column is read
again as quoted names, and the run after its last closing quote resumes where the next piece
does not start with that quote, or where the quote closes a run it opens. -/
theorem Fixed.chain {prev : Option Char} {text rest : List Char} {ps : List Piece}
    (hstart : startsChain text = true) (hfree : blocksChain prev = false)
    (hmax : spanChain (text ++ rest) = (text, rest)) (hrest : Reads d text.getLast? rest ps)
    (hclose : ((Piece.chain text (rest.head? = some '(')).column? d as p).isSome = true →
      quoteClose d d.quoteChars.2 = some d.quoteChars.2 ∨ rest.head? ≠ some d.quoteChars.2)
    (ih : Fixed d as p text.getLast? rest (ps.flatMap (Piece.write d as p))) :
    Fixed d as p prev (text ++ rest)
      ((Piece.chain text (rest.head? = some '(') :: ps).flatMap (Piece.write d as p)) := by
  rw [List.flatMap_cons]
  set out := ps.flatMap (Piece.write d as p)
  obtain ⟨c, t, rfl⟩ : ∃ c t, text = c :: t := by
    cases text with
    | nil => simp [startsChain] at hstart
    | cons c t => exact ⟨c, t, rfl⟩
  have hc : isChainStart c = true := hstart
  have hstop : spanChain rest = ([], rest) := spanChain_stop_of_append hmax
  have hnot : startsChain rest = false := startsChain_eq_false_of_stop hstop
  have hhead : out.head? = rest.head? := hrest.head_write hnot
  cases hcol : (Piece.chain (c :: t) (rest.head? = some '(')).column? d as p with
  | none =>
    rw [Piece.write_eq_source hcol, Piece.source]
    have htop : ∀ prev', blocksChain prev' = false →
        rewrite d as p prev' (c :: t ++ out) = c :: t ++ out := by
      intro prev' hfree'
      rw [List.cons_append, rewrite_chain hc hfree', ← List.cons_append,
        spanChain_append_of_stop hmax (hrest.stop hstop), hhead, Piece.write_eq_source hcol,
        Piece.source, ih.top _ (.inr hnot)]
    refine ⟨fun prev' hagree => htop prev' ?_, fun q hcond hagree => ?_⟩
    · rcases hagree with h | h
      · rw [h, hfree]
      · simp [startsChain, hc] at h
    · -- the chain starts with a letter or `_`, which continues no run
      refine resume_of_top (htop _ ?_) ?_
      · rcases hagree with h | h
        · rw [h, hfree]
        · simp [startsChain, hc] at h
      · intro hhead'
        obtain rfl : c = q := by simpa using hhead'
        rcases hcond with h | h
        · simp [quoteClose_of_isChainStart d hc] at h
        · exact h hhead'
  | some r =>
    rw [Piece.write_eq_column hcol]
    obtain ⟨body, hr, hbody⟩ := column_toList hcol
    have hres : inQuote d as p d.quoteChars.2 (d.quoteChars.2 :: out) = d.quoteChars.2 :: out := by
      refine ih.resume _ ?_ (.inr hnot)
      rw [hhead]
      exact hclose (by simp [hcol])
    have htop : ∀ prev', rewrite d as p prev' (r.toList ++ out) = r.toList ++ out := by
      intro prev'
      rw [hr, List.cons_append, rewrite_open (quoteClose_open d), List.append_assoc,
        List.singleton_append, hbody, hres]
    refine ⟨fun prev' _ => htop prev', fun q hcond hagree => ?_⟩
    by_cases hmerge : d.quoteChars.1 = q
    · -- the dialect's closing quote is its opening one: a doubled quote, and the run goes on
      subst hmerge
      have hself : quoteClose d d.quoteChars.1 = some d.quoteChars.1 :=
        hcond.resolve_right (by simp [hr])
      have hsame : d.quoteChars.2 = d.quoteChars.1 :=
        Option.some.inj ((quoteClose_open d).symm.trans hself)
      rw [hr, List.cons_append, List.append_assoc, List.singleton_append, ← hsame,
        inQuote_close_close, hbody, hres]
    · exact resume_of_top (htop _) (by simpa [hr] using hmerge)

theorem Reads.fixed {prev : Option Char} {cs : List Char} {ps : List Piece}
    (h : Reads d prev cs ps)
    (hcols : d.quoteChars.1 = d.quoteChars.2 ∨ NoCloseAfterColumn d as p ps) :
    Fixed d as p prev cs (ps.flatMap (Piece.write d as p)) := by
  induction h with
  | nil prev => exact Fixed.nil prev
  | quoted hq hrun hrest ih =>
    exact Fixed.quoted hq hrun hrest (ih (hcols.imp_right List.IsChain.tail))
  | chain hstart hfree hmax hrest ih =>
    exact Fixed.chain hstart hfree hmax hrest (closeAfterColumn hcols hrest)
      (ih (hcols.imp_right List.IsChain.tail))
  | char hq hc _ ih => exact Fixed.char hq hc (ih (hcols.imp_right List.IsChain.tail))

/-- Rewriting a rewritten text changes nothing, when the dialect closes its quoted identifiers
with the character that opens them or no written column is followed by a closing quote that
stands alone. -/
theorem Reads.rewrite_rewrite {cs : List Char} {ps : List Piece} (h : Reads d none cs ps)
    (hcols : d.quoteChars.1 = d.quoteChars.2 ∨ NoCloseAfterColumn d as p ps) :
    rewrite d as p none (rewrite d as p none cs) = rewrite d as p none cs := by
  rw [h.rewrite_eq]
  exact (h.fixed hcols).top none (Agrees.refl _ _)

end Twice

/-! ### Property references in SQL text -/

/-- Rewriting the property references of a SQL text reads it into pieces: quoted runs copied
through their closing quotes, chains of names that start a word, and other characters. Every
piece is written as itself, except a chain that is no call and names one column of an entity
alias, written as that quoted column. Rewriting the result once more changes nothing when the
dialect closes its quoted identifiers with the character that opens them, or when no written
column is followed by a closing quote that stands alone. -/
theorem replace_writesColumns (d : Dialect) (as : Aliases) (p : Bool) (s : String) :
    ∃ ps, Reads d none s.toList ps ∧
      (replace d as p s).toList = ps.flatMap (Piece.write d as p) ∧
      (d.quoteChars.1 = d.quoteChars.2 ∨ NoCloseAfterColumn d as p ps →
        replace d as p (replace d as p s) = replace d as p s) := by
  obtain ⟨ps, h⟩ := reads_exists d none s.toList
  refine ⟨ps, h, ?_, fun hcols => ?_⟩
  · by_cases hany : as.anyEntity = true
    · simp only [replace, hany, Bool.not_true, Bool.false_eq_true, if_false,
        String.toList_ofList]
      exact h.rewrite_eq
    · -- without an entity alias every piece is its own text
      have hwrite : Piece.write d as p = Piece.source :=
        funext fun x => Piece.write_eq_source (Piece.column?_eq_none (by simpa using hany) d p x)
      simp [replace, hany, hwrite, h.source_eq]
  · by_cases hany : as.anyEntity = true
    · simp only [replace, hany, Bool.not_true, Bool.false_eq_true, if_false,
        String.toList_ofList]
      rw [h.rewrite_rewrite hcols]
    · simp [replace, hany]

/-- On Postgres a written column right before a quoted identifier is read the second time as one
run with it, and both are copied; the reference inside the string literal stays as it is. -/
theorem replace_writesColumns_postgres :
    let e : Entity :=
      { name := "User", tableName := "users",
        columns := [{ propertyPath := "a", databaseName := "a_", type := .text }] }
    let as : Aliases := { items := [{ kind := .source, name := "u", entity := some e }] }
    replace .postgres as true "u.a\"x\" = 'u.a'" = "\"u\".\"a_\"\"x\" = 'u.a'" ∧
      replace .postgres as true (replace .postgres as true "u.a\"x\" = 'u.a'") =
        replace .postgres as true "u.a\"x\" = 'u.a'" := by
  intro e as
  obtain ⟨_, -, -, htwice⟩ := replace_writesColumns .postgres as true "u.a\"x\" = 'u.a'"
  exact ⟨by cbv, htwice (.inl rfl)⟩

/-- On MsSql a `]` right after a written column is read the second time as a doubled closing
quote: the run goes on into the string literal, and the reference the first rewrite left inside
the literal is rewritten. -/
theorem replace_twice_rewritesLiteral :
    let e : Entity :=
      { name := "User", tableName := "users",
        columns := [{ propertyPath := "a", databaseName := "a_", type := .text },
          { propertyPath := "b", databaseName := "b", type := .text }] }
    let as : Aliases := { items := [{ kind := .source, name := "u", entity := some e }] }
    replace .msSql as true "u.a] 'x] u.b'" = "[u].[a_]] 'x] u.b'" ∧
      replace .msSql as true (replace .msSql as true "u.a] 'x] u.b'") =
        "[u].[a_]] 'x] [u].[b]'" := by
  intro e as
  exact ⟨by cbv, by cbv⟩

end PropertyNames

end EntitySql
