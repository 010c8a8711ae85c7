import EntitySql.Proofs.Sql.Reading

/-!
# Reading texts built from pieces

A condition's text is built by joining pieces: columns quoted by the dialect, operators,
parameters, ` AND `, ` OR `, parentheses. Each piece is read on its own as long as what follows
it cannot continue it; for a condition's text that is nothing, a blank or a closing parenthesis
(a `Boundary`). `Tokenizes d text ts` says that `text` is read as the tokens `ts` whatever
boundary follows, and it composes along the joins.

On top of it, `WritesConj`, `WritesOperand` and `WritesGroup` say that a text is read as a
conjunction, as one operand, or (inside parentheses) as a condition, each meaning a given truth
value in every environment. The lemmas of this module build them along the ways conditions are
written: a conjunction joined by ` AND `, alternatives in parentheses joined by ` OR `, `NOT(…)`.
-/

namespace EntitySql

namespace Sql

open Placeholder (isNameChar isNameStart)

def Boundary (rest : List Char) : Prop :=
  rest = [] ∨ ∃ more, rest = ' ' :: more ∨ rest = ')' :: more

theorem boundary_nil : Boundary [] := .inl rfl

theorem boundary_space (more : List Char) : Boundary (' ' :: more) := .inr ⟨more, .inl rfl⟩

theorem boundary_rparen (more : List Char) : Boundary (')' :: more) := .inr ⟨more, .inr rfl⟩

theorem Boundary.endsName {rest : List Char} (h : Boundary rest) : EndsName rest := by
  rcases h with rfl | ⟨more, rfl | rfl⟩
  · exact endsName_nil
  · exact endsName_space
  · exact endsName_cons (by decide)

theorem Boundary.not_quote {rest : List Char} (h : Boundary rest) (d : Dialect) :
    rest.head? ≠ some d.quoteChars.2 := by
  rcases h with rfl | ⟨more, rfl | rfl⟩
  · simp
  · cases d <;> simp [Dialect.quoteChars]
  · cases d <;> simp [Dialect.quoteChars]

theorem Boundary.not_digit {rest : List Char} (h : Boundary rest) :
    ∀ x ∈ rest.head?, x.isDigit = false := by
  rcases h with rfl | ⟨more, rfl | rfl⟩ <;> simp

def LexesTo (d : Dialect) (text : List Char) (L : List Lexeme) : Prop :=
  ∀ rest, Boundary rest → lex d (text ++ rest) = (lex d rest).map (L ++ ·)

def GroupsTo (L : List Lexeme) (ts : List Tok) : Prop :=
  ∀ R, group (L ++ R) = (group R).map (ts ++ ·)

def Tokenizes (d : Dialect) (text : List Char) (ts : List Tok) : Prop :=
  ∃ L, LexesTo d text L ∧ GroupsTo L ts

theorem Tokenizes.tokens {d : Dialect} {text : List Char} {ts : List Tok}
    (h : Tokenizes d text ts) : (lex d text).bind group = some ts := by
  obtain ⟨L, hlex, hgroup⟩ := h
  have hl := hlex [] boundary_nil
  rw [List.append_nil, lex_nil, Option.map_some, List.append_nil] at hl
  have hg := hgroup []
  rw [List.append_nil] at hg
  rw [hl, Option.bind_some, hg, group]
  simp

theorem Tokenizes.append {d : Dialect} {a b : List Char} {ts us : List Tok}
    (ha : Tokenizes d a ts) (hb : Tokenizes d b us)
    (hstart : ∀ rest, Boundary (b ++ rest)) : Tokenizes d (a ++ b) (ts ++ us) := by
  obtain ⟨L, hlexa, hgroupa⟩ := ha
  obtain ⟨M, hlexb, hgroupb⟩ := hb
  refine ⟨L ++ M, fun rest hrest => ?_, fun R => ?_⟩
  · rw [List.append_assoc, hlexa _ (hstart rest), hlexb rest hrest]
    simp [Option.map_map, Function.comp_def, List.append_assoc]
  · rw [List.append_assoc, hgroupa, hgroupb]
    simp [Option.map_map, Function.comp_def, List.append_assoc]

/-- A text read as tokens whatever follows it: a piece that ends with a blank or a
parenthesis. -/
def TokenizesAny (d : Dialect) (text : List Char) (ts : List Tok) : Prop :=
  ∃ L, (∀ rest, lex d (text ++ rest) = (lex d rest).map (L ++ ·)) ∧ GroupsTo L ts

theorem TokenizesAny.tokenizes {d : Dialect} {text : List Char} {ts : List Tok}
    (h : TokenizesAny d text ts) : Tokenizes d text ts := by
  obtain ⟨L, hlex, hgroup⟩ := h
  exact ⟨L, fun rest _ => hlex rest, hgroup⟩

theorem TokenizesAny.append {d : Dialect} {a b : List Char} {ts us : List Tok}
    (ha : TokenizesAny d a ts) (hb : Tokenizes d b us) : Tokenizes d (a ++ b) (ts ++ us) := by
  obtain ⟨L, hlexa, hgroupa⟩ := ha
  obtain ⟨M, hlexb, hgroupb⟩ := hb
  refine ⟨L ++ M, fun rest hrest => ?_, fun R => ?_⟩
  · rw [List.append_assoc, hlexa, hlexb rest hrest]
    simp [Option.map_map, Function.comp_def, List.append_assoc]
  · rw [List.append_assoc, hgroupa, hgroupb]
    simp [Option.map_map, Function.comp_def, List.append_assoc]

/-! ### Connectives and parentheses -/

theorem groupsTo_tok {l : Lexeme} {t : Tok} (h : Tok.ofLexeme? l = some t) :
    GroupsTo [l] [t] := by
  intro R
  rw [List.singleton_append, group, h]
  rfl

theorem tokenizes_connective (d : Dialect) (k : Keyword) (t : Tok)
    (hk : Tok.ofLexeme? (.keyword k) = some t) :
    TokenizesAny d (' ' :: (k.text.toList ++ [' '])) [t] := by
  refine ⟨[.keyword k], fun rest => ?_, groupsTo_tok hk⟩
  rw [List.cons_append, lex_space, List.append_assoc, List.singleton_append,
    lex_keyword d k endsName_space, lex_space]
  rfl

theorem tokenizes_and (d : Dialect) : TokenizesAny d " AND ".toList [.and] :=
  tokenizes_connective d .AND .and rfl

theorem tokenizes_or (d : Dialect) : TokenizesAny d " OR ".toList [.or] :=
  tokenizes_connective d .OR .or rfl

theorem tokenizes_lparen (d : Dialect) : TokenizesAny d ['('] [.lparen] := by
  refine ⟨[.symbol .lparen], fun rest => ?_, groupsTo_tok rfl⟩
  rw [List.singleton_append, lex_symbol d (.inr (.inl ⟨rfl, rfl⟩))]
  rfl

theorem tokenizes_rparen (d : Dialect) : TokenizesAny d [')'] [.rparen] := by
  refine ⟨[.symbol .rparen], fun rest => ?_, groupsTo_tok rfl⟩
  rw [List.singleton_append, lex_symbol d (.inr (.inr (.inl ⟨rfl, rfl⟩)))]
  rfl

theorem tokenizes_notParen (d : Dialect) : TokenizesAny d "NOT(".toList [.not, .lparen] := by
  have htext : "NOT(".toList = Keyword.NOT.text.toList ++ ['('] := rfl
  refine ⟨[.keyword .NOT, .symbol .lparen], fun rest => ?_, fun R => ?_⟩
  · rw [htext, List.append_assoc, List.singleton_append,
      lex_keyword d .NOT (endsName_cons (by decide)), lex_symbol d (.inr (.inl ⟨rfl, rfl⟩))]
    simp [Option.map_map, Function.comp_def]
  · have hnot := groupsTo_tok (l := .keyword .NOT) (t := .not) rfl
    have hparen := groupsTo_tok (l := .symbol .lparen) (t := .lparen) rfl
    rw [show [Lexeme.keyword .NOT, .symbol .lparen] ++ R =
      [.keyword .NOT] ++ ([.symbol .lparen] ++ R) from rfl, hnot, hparen]
    simp [Option.map_map, Function.comp_def]

theorem Tokenizes.join {d : Dialect} {a b sep : List Char} {ts us : List Tok} {t : Tok}
    (ha : Tokenizes d a ts) (hsep : TokenizesAny d (' ' :: sep) [t]) (hb : Tokenizes d b us) :
    Tokenizes d (a ++ (' ' :: sep) ++ b) (ts ++ t :: us) := by
  rw [List.append_assoc]
  exact ha.append (hsep.append hb) fun rest => by
    rw [List.append_assoc, List.cons_append]
    exact boundary_space _

theorem Tokenizes.enclose {d : Dialect} {opening t : List Char} {os ts : List Tok}
    (hopen : TokenizesAny d opening os) (h : Tokenizes d t ts) :
    Tokenizes d (opening ++ t ++ [')']) (os ++ (ts ++ [.rparen])) := by
  rw [List.append_assoc]
  exact hopen.append (h.append (tokenizes_rparen d).tokenizes fun rest => boundary_rparen _)

/-! ### What a written text means -/

def WritesConj (d : Dialect) (text : String) (m : Env → Truth) : Prop :=
  ∃ ts us, Tokenizes d text.toList ts ∧ ReadsConj ts us ∧
    ∀ env, Truth.all (us.map (Cond.eval env)) = m env

def WritesOperand (d : Dialect) (text : String) (m : Env → Truth) : Prop :=
  ∃ ts u, Tokenizes d text.toList ts ∧ ReadsOperand ts u ∧ ∀ env, u.eval env = m env

def WritesGroup (d : Dialect) (text : String) (m : Env → Truth) : Prop :=
  ∃ ts v, Tokenizes d text.toList ts ∧ ReadsGroup ts v ∧ ∀ env, v.eval env = m env

theorem WritesConj.congr {d : Dialect} {text : String} {m m' : Env → Truth}
    (h : WritesConj d text m) (hm : ∀ env, m env = m' env) : WritesConj d text m' := by
  obtain ⟨ts, us, htok, hreads, he⟩ := h
  exact ⟨ts, us, htok, hreads, fun env => (he env).trans (hm env)⟩

theorem WritesOperand.congr {d : Dialect} {text : String} {m m' : Env → Truth}
    (h : WritesOperand d text m) (hm : ∀ env, m env = m' env) : WritesOperand d text m' := by
  obtain ⟨ts, u, htok, hreads, he⟩ := h
  exact ⟨ts, u, htok, hreads, fun env => (he env).trans (hm env)⟩

theorem WritesGroup.congr {d : Dialect} {text : String} {m m' : Env → Truth}
    (h : WritesGroup d text m) (hm : ∀ env, m env = m' env) : WritesGroup d text m' := by
  obtain ⟨ts, v, htok, hreads, he⟩ := h
  exact ⟨ts, v, htok, hreads, fun env => (he env).trans (hm env)⟩

theorem writesOperand_atom {d : Dialect} {text : String} {a : Atom}
    (h : Tokenizes d text.toList [.atom a]) : WritesOperand d text a.eval :=
  ⟨_, _, h, readsOperand_atom a, fun _ => rfl⟩

theorem WritesOperand.conj {d : Dialect} {text : String} {m : Env → Truth}
    (h : WritesOperand d text m) : WritesConj d text m := by
  obtain ⟨ts, u, htok, hreads, hm⟩ := h
  exact ⟨ts, [u], htok, readsConj_operand hreads, fun env => by simp [hm]⟩

theorem WritesConj.and {d : Dialect} {a b : String} {m m' : Env → Truth}
    (ha : WritesConj d a m) (hb : WritesConj d b m') :
    WritesConj d (a ++ " AND " ++ b) fun env => (m env).and (m' env) := by
  obtain ⟨ts, us, htok, hreads, hm⟩ := ha
  obtain ⟨ts', us', htok', hreads', hm'⟩ := hb
  refine ⟨ts ++ .and :: ts', us ++ us', ?_, readsConj_and hreads hreads', fun env => ?_⟩
  · simp only [String.toList_append]
    exact htok.join (tokenizes_and d) htok'
  · rw [List.map_append, Truth.all_append, hm, hm']

theorem writesConj_intercalate {d : Dialect} :
    ∀ {texts : List String} {ms : List (Env → Truth)},
      List.Forall₂ (WritesConj d) texts ms → texts ≠ [] →
      WritesConj d (" AND ".intercalate texts) fun env => Truth.all (ms.map (· env))
  | [], _, _, hne => absurd rfl hne
  | [t], [m], .cons h .nil, _ => by
    simpa using h
  | t :: t' :: rest, m :: m' :: ms, .cons h hrest, _ => by
    rw [String.intercalate_cons_cons]
    have := h.and (writesConj_intercalate hrest (by simp))
    simpa using this

/-- Clauses after a first one, each a conjunction after its connective (`true` for `OR`),
read after a conjunction: the frame read so far then holds as the clauses do. -/
def Continues (ts : List Tok) (ks : List (Bool × (Env → Truth))) : Prop :=
  ∀ f : Frame, f.expecting = false → f.nots = 0 → f.ops ≠ [] →
    ∃ f' : Frame, (∀ st, run ts (f :: st) = some (f' :: st)) ∧ f'.expecting = false ∧
      f'.ops ≠ [] ∧ ∀ env, (f'.doneEval env).or (Truth.all (f'.ops.map (·.eval env))) =
        (f.doneEval env).or
          (Truth.ofClauses (Truth.all (f.ops.map (·.eval env))) (ks.map fun k => (k.1, k.2 env)))

theorem continues_nil : Continues [] [] :=
  fun f hf _ hops => ⟨f, fun _ => rfl, hf, hops, fun _ => rfl⟩

def connective (isOr : Bool) : Tok := if isOr then .or else .and

theorem Continues.cons {ts ts' : List Tok} {us : List Cond} {m : Env → Truth}
    {ks : List (Bool × (Env → Truth))} (h : ReadsConj ts us)
    (hm : ∀ env, Truth.all (us.map (Cond.eval env)) = m env) (hrest : Continues ts' ks)
    (isOr : Bool) : Continues (connective isOr :: (ts ++ ts')) ((isOr, m) :: ks) := by
  intro f hf hn hops
  cases isOr with
  | false =>
    obtain ⟨f', hrun, hf', hops', he⟩ :=
      hrest { f with ops := f.ops ++ us } hf hn (by simp [hops])
    refine ⟨f', fun st => ?_, hf', hops', fun env => ?_⟩
    · rw [connective, if_neg Bool.false_ne_true, ← List.cons_append, run_append,
        run_and_conj h f st hf hn, Option.bind_some, hrun]
    · rw [he, List.map_cons, Truth.ofClauses, List.map_append, Truth.all_append, hm]
      rfl
  | true =>
    obtain ⟨f', hrun, hf', hops', he⟩ := hrest ⟨f.value, us, 0, false⟩ rfl rfl h.1
    obtain ⟨v, hv, hve⟩ := Frame.value_eval hops
    refine ⟨f', fun st => ?_, hf', hops', fun env => ?_⟩
    · rw [connective, if_pos rfl, ← List.cons_append, run_append, run_or_conj h f st hf,
        Option.bind_some, hrun]
    · have hdone : Frame.doneEval ⟨f.value, us, 0, false⟩ env = v.eval env := by
        simp only [Frame.doneEval, hv]
      rw [he, hdone, hve, hm, List.map_cons, Truth.ofClauses, Truth.or_assoc]

theorem tokenizes_nil (d : Dialect) : Tokenizes d [] [] :=
  ⟨[], fun rest _ => by simp, fun R => by simp⟩

theorem Tokenizes.append_clauses {d : Dialect} {a : List Char} {b : String} {ts us : List Tok}
    (ha : Tokenizes d a ts) (hstart : b = "" ∧ us = [] ∨ ∀ rest, Boundary (b.toList ++ rest))
    (hb : Tokenizes d b.toList us) : Tokenizes d (a ++ b.toList) (ts ++ us) := by
  rcases hstart with ⟨rfl, rfl⟩ | hstart
  · simpa using ha
  · exact ha.append hb hstart

/-- A text of clauses after a first one, each a conjunction after its connective (`true` for
`OR`): empty, or starting with a blank. -/
def WritesClauses (d : Dialect) (text : String) (ks : List (Bool × (Env → Truth))) : Prop :=
  ∃ ts, (text = "" ∧ ts = [] ∨ ∀ rest, Boundary (text.toList ++ rest)) ∧
    Tokenizes d text.toList ts ∧ Continues ts ks

theorem writesClauses_nil (d : Dialect) : WritesClauses d "" [] :=
  ⟨[], .inl ⟨rfl, rfl⟩, tokenizes_nil d, continues_nil⟩

theorem WritesConj.clause {d : Dialect} {t rest : String} {m : Env → Truth}
    {ks : List (Bool × (Env → Truth))} (isOr : Bool) (h : WritesConj d t m)
    (hrest : WritesClauses d rest ks) :
    WritesClauses d ((if isOr then " OR " else " AND ") ++ t ++ rest) ((isOr, m) :: ks) := by
  obtain ⟨ts, us, htok, hreads, hm⟩ := h
  obtain ⟨ts', hstart, htok', hcont⟩ := hrest
  have hsep : TokenizesAny d (if isOr then " OR " else " AND ").toList [connective isOr] := by
    cases isOr
    · exact tokenizes_and d
    · exact tokenizes_or d
  refine ⟨connective isOr :: (ts ++ ts'), .inr fun more => ?_, ?_,
    hcont.cons hreads hm isOr⟩
  · obtain ⟨sep, hsep'⟩ : ∃ sep, (if isOr then " OR " else " AND ").toList = ' ' :: sep := by
      cases isOr
      · exact ⟨_, rfl⟩
      · exact ⟨_, rfl⟩
    rw [String.append_assoc, String.toList_append, hsep', List.cons_append, List.cons_append]
    exact boundary_space _
  · rw [String.append_assoc, String.toList_append, String.toList_append]
    exact hsep.append (htok.append_clauses hstart htok')

theorem WritesConj.clauses {d : Dialect} {t rest : String} {m : Env → Truth}
    {ks : List (Bool × (Env → Truth))} (h : WritesConj d t m) (hrest : WritesClauses d rest ks) :
    WritesGroup d (t ++ rest) fun env => Truth.ofClauses (m env) (ks.map fun k => (k.1, k.2 env)) := by
  obtain ⟨ts, us, htok, hreads, hm⟩ := h
  obtain ⟨ts', hstart, htok', hcont⟩ := hrest
  obtain ⟨f', hrun, hf', hops', he⟩ :=
    hcont { Frame.start with ops := Frame.start.ops ++ us, expecting := false } rfl rfl
      (by simpa [Frame.start] using hreads.1)
  obtain ⟨v, hv, hve⟩ := Frame.value_eval hops'
  refine ⟨ts ++ ts', v, ?_, fun st => ⟨f', ?_, hf', hv⟩, fun env => ?_⟩
  · rw [String.toList_append]
    exact htok.append_clauses hstart htok'
  · rw [run_append, hreads.2 Frame.start st rfl rfl, Option.bind_some, hrun]
  · rw [hve, he]
    simp only [Frame.start, Frame.doneEval, List.nil_append, hm, Truth.false_or]

theorem WritesConj.group {d : Dialect} {text : String} {m : Env → Truth}
    (h : WritesConj d text m) : WritesGroup d text m := by
  have hgroup := h.clauses (writesClauses_nil d)
  rw [String.append_empty] at hgroup
  exact hgroup

theorem WritesGroup.paren {d : Dialect} {t : String} {m : Env → Truth}
    (h : WritesGroup d t m) : WritesOperand d ("(" ++ t ++ ")") m := by
  obtain ⟨ts, v, htok, hreads, hm⟩ := h
  refine ⟨.lparen :: (ts ++ [.rparen]), v, ?_, readsOperand_group hreads, hm⟩
  rw [String.toList_append, String.toList_append]
  exact Tokenizes.enclose (tokenizes_lparen d) htok

theorem WritesGroup.not {d : Dialect} {t : String} {m : Env → Truth}
    (h : WritesGroup d t m) : WritesOperand d ("NOT(" ++ t ++ ")") fun env => (m env).not := by
  obtain ⟨ts, v, htok, hreads, hm⟩ := h
  refine ⟨.not :: .lparen :: (ts ++ [.rparen]), .not v, ?_,
    readsOperand_not (readsOperand_group hreads), fun env => by rw [Cond.eval, hm]⟩
  rw [String.toList_append, String.toList_append]
  exact Tokenizes.enclose (tokenizes_notParen d) htok

theorem writesClauses_ors {d : Dialect} :
    ∀ {texts : List String} {ms : List (Env → Truth)}, List.Forall₂ (WritesConj d) texts ms →
      WritesClauses d (String.join (texts.map (" OR " ++ ·))) (ms.map (true, ·))
  | [], [], .nil => writesClauses_nil d
  | _ :: _, _ :: _, .cons h hrest => by
    rw [List.map_cons, String.join_cons]
    exact WritesConj.clause true h (writesClauses_ors hrest)

theorem intercalate_cons_eq_join (s t : String) (ts : List String) :
    s.intercalate (t :: ts) = t ++ String.join (ts.map (s ++ ·)) := by
  induction ts generalizing t with
  | nil => rw [String.intercalate_singleton, List.map_nil, String.join_nil, String.append_empty]
  | cons u us ih =>
    rw [String.intercalate_cons_cons, ih u, List.map_cons, String.join_cons,
      String.append_assoc, String.append_assoc]

theorem writesGroup_intercalate_or {d : Dialect} {texts : List String} {ms : List (Env → Truth)}
    (h : List.Forall₂ (WritesConj d) texts ms) (hne : texts ≠ []) :
    WritesGroup d (" OR ".intercalate texts) fun env => Truth.any (ms.map (· env)) := by
  cases h with
  | nil => exact absurd rfl hne
  | @cons t m texts ms hfirst hrest =>
    rw [intercalate_cons_eq_join]
    refine (hfirst.clauses (writesClauses_ors hrest)).congr fun env => ?_
    have hks : (ms.map (true, ·)).map (fun k => (k.1, k.2 env)) = (ms.map (· env)).map (true, ·) := by
      rw [List.map_map, List.map_map]
      rfl
    rw [hks, Truth.ofClauses_or, List.map_cons]

theorem Tokenizes.pad {d : Dialect} {t : List Char} {ts : List Tok} (h : Tokenizes d t ts) :
    Tokenizes d (' ' :: (t ++ [' '])) ts := by
  obtain ⟨L, hlex, hgroup⟩ := h
  refine ⟨L, fun rest _ => ?_, hgroup⟩
  rw [List.cons_append, lex_space, List.append_assoc, List.singleton_append,
    hlex _ (boundary_space rest), lex_space]

theorem WritesGroup.padParen {d : Dialect} {t : String} {m : Env → Truth}
    (h : WritesGroup d t m) : WritesOperand d ("( " ++ t ++ " )") m := by
  obtain ⟨ts, v, htok, hreads, hm⟩ := h
  refine ⟨.lparen :: (ts ++ [.rparen]), v, ?_, readsOperand_group hreads, hm⟩
  have htext : ("( " ++ t ++ " )").toList = ['('] ++ (' ' :: (t.toList ++ [' '])) ++ [')'] := by
    simp [String.toList_append]
  rw [htext]
  exact Tokenizes.enclose (tokenizes_lparen d) htok.pad

theorem WritesGroup.read {d : Dialect} {text : String} {m : Env → Truth}
    (h : WritesGroup d text m) : ∃ c, read d text = some c ∧ ∀ env, c.eval env = m env := by
  obtain ⟨ts, v, htok, hreads, hm⟩ := h
  obtain ⟨f, hrun, hf, hv⟩ := hreads []
  refine ⟨v, ?_, hm⟩
  simp [Sql.read, htok.tokens, hrun, finish, hf, hv]

end Sql

end EntitySql
