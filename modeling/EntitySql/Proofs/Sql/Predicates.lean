import EntitySql.Proofs.Sql.Texts

/-!
# Predicates as they are written

A predicate is written as a column, quoted by the dialect and after its alias when it has one,
followed by its test: `"u"."age" >= :p`, `"u"."name" NOT LIKE :p`, `"u"."id" IN (:...p)`,
`"u"."age" BETWEEN :a AND :b`, `"u"."deletedAt" IS NULL`, or, where the dialect has no `ILIKE`,
`UPPER("u"."name") LIKE UPPER(:p)`. The constants `1=1` and `0=1` are predicates too, and so is
a column `IN` a list of integers written in decimal, `"u"."id" IN (1, -2)`.

Each such text is read back as the one predicate it writes, whatever boundary follows it:
`tokenizes_predicate` for a column and the rest of its test, `tokenizes_upperLike` for the
`UPPER` form, `tokenizes_const` for the constants and `tokenizes_inNumbers` for the lists of
integers. The rests of the tests are lexed by one
lemma each, with the optional `NOT` as a parameter.
-/

namespace EntitySql

namespace Sql

/-! ### Columns -/

/-- A column written with the dialect's quotes, after its alias when it has one. -/
def ColumnRef.write (d : Dialect) (r : ColumnRef) : String :=
  match r.qualifier with
  | some a => d.escape a ++ "." ++ d.escape r.name
  | none => d.escape r.name

/-- The lexemes of a written column. -/
def ColumnRef.lexemes (r : ColumnRef) : List Lexeme :=
  match r.qualifier with
  | some a => [.ident a, .symbol .dot, .ident r.name]
  | none => [.ident r.name]

theorem ColumnRef.lexemes_eq_cons (r : ColumnRef) : ∃ x L, r.lexemes = .ident x :: L := by
  cases r with
  | mk q c =>
    cases q with
    | none => exact ⟨c, [], rfl⟩
    | some a => exact ⟨a, _, rfl⟩

theorem ColumnRef.lexesTo_write (d : Dialect) (r : ColumnRef) :
    LexesTo d (r.write d).toList r.lexemes := by
  intro rest hrest
  cases r with
  | mk q c =>
    cases q with
    | none => exact lex_escape d c rest (hrest.not_quote d)
    | some a =>
      have hdot : ('.' :: ((d.escape c).toList ++ rest)).head? ≠ some d.quoteChars.2 := by
        cases d <;> simp [Dialect.quoteChars]
      have htext : (ColumnRef.write d ⟨some a, c⟩).toList ++ rest =
          (d.escape a).toList ++ ('.' :: ((d.escape c).toList ++ rest)) := by
        simp [ColumnRef.write, String.toList_append]
      rw [htext, lex_escape d a _ hdot, lex_symbol d (.inr (.inr (.inr (.inl ⟨rfl, rfl⟩)))),
        lex_escape d c rest (hrest.not_quote d)]
      simp [ColumnRef.lexemes, Option.map_map, Function.comp_def]

theorem predicateAfter_dot (r : ColumnRef) (ls : List Lexeme) :
    predicateAfter r (.symbol .dot :: ls) = none := by
  rcases ls with _ | ⟨l, ls⟩
  · rfl
  · cases l <;> try rfl
    rename_i spread
    cases spread <;> rfl

theorem predicateAfter_head {r : ColumnRef} {ls rest : List Lexeme} {a : Atom}
    (h : predicateAfter r ls = some (a, rest)) : ls.head? ≠ some (.symbol .dot) := by
  intro hd
  cases ls with
  | nil => simp at hd
  | cons l ls =>
    rw [List.head?_cons, Option.some_inj] at hd
    rw [hd, predicateAfter_dot] at h
    cases h

theorem columnRef_lexemes (r : ColumnRef) {R : List Lexeme}
    (hR : R.head? ≠ some (.symbol .dot)) : columnRef (r.lexemes ++ R) = some (r, R) := by
  cases r with
  | mk q c =>
    cases q with
    | some a => rfl
    | none =>
      rcases R with _ | ⟨l, R⟩
      · rfl
      · cases l
        case symbol s => cases s <;> first | rfl | simp at hR
        all_goals rfl

theorem atom_lexemes (r : ColumnRef) (ls : List Lexeme) :
    atom (r.lexemes ++ ls) = (columnRef (r.lexemes ++ ls)).bind fun p => predicateAfter p.1 p.2 := by
  cases r with
  | mk q c => cases q <;> rfl

/-! ### Predicates -/

theorem groupsTo_atom {l : Lexeme} {L : List Lexeme} {a : Atom} (hl : Tok.ofLexeme? l = none)
    (h : ∀ R, atom (l :: (L ++ R)) = some (a, R)) : GroupsTo (l :: L) [.atom a] := by
  intro R
  rw [List.cons_append, group]
  simp only [hl]
  split
  · rename_i a' after heq
    rw [h R, Option.some_inj, Prod.mk.injEq] at heq
    obtain ⟨rfl, rfl⟩ := heq
    rfl
  · rename_i heq
    rw [h R] at heq
    cases heq

theorem tokenizes_predicate (d : Dialect) (r : ColumnRef) {suffix : List Char}
    {S : List Lexeme} {a : Atom} (hs : LexesTo d suffix S)
    (hstart : ∀ rest, Boundary (suffix ++ rest))
    (hpred : ∀ R, predicateAfter r (S ++ R) = some (a, R)) :
    Tokenizes d ((r.write d).toList ++ suffix) [.atom a] := by
  obtain ⟨x, L, hL⟩ := r.lexemes_eq_cons
  refine ⟨r.lexemes ++ S, fun rest hrest => ?_, ?_⟩
  · rw [List.append_assoc, r.lexesTo_write d _ (hstart rest), hs rest hrest]
    simp [Option.map_map, Function.comp_def]
  · rw [hL, List.cons_append]
    refine groupsTo_atom rfl fun R => ?_
    rw [← List.cons_append, ← List.cons_append, ← hL, List.append_assoc, atom_lexemes,
      columnRef_lexemes r (predicateAfter_head (hpred R)), Option.bind_some]
    exact hpred R

theorem tokenizes_upperLike (d : Dialect) (r : ColumnRef) {suffix : List Char}
    {S : List Lexeme} {a : Atom} (hs : LexesTo d suffix S)
    (hstart : ∀ rest, Boundary (suffix ++ rest))
    (hpred : ∀ R, upperLikeAfter r (S ++ R) = some (a, R))
    (hhead : ∀ R, (S ++ R).head? ≠ some (.symbol .dot)) :
    Tokenizes d ("UPPER(".toList ++ (r.write d).toList ++ suffix) [.atom a] := by
  have htext : "UPPER(".toList = Keyword.UPPER.text.toList ++ ['('] := rfl
  refine ⟨.keyword .UPPER :: .symbol .lparen :: (r.lexemes ++ S), fun rest hrest => ?_,
    groupsTo_atom rfl fun R => ?_⟩
  · rw [htext, List.append_assoc, List.append_assoc, List.append_assoc, List.singleton_append,
      lex_keyword d .UPPER (endsName_cons (c := '(') (by decide)),
      lex_symbol d (.inr (.inl ⟨rfl, rfl⟩)), r.lexesTo_write d _ (hstart rest), hs rest hrest]
    simp [Option.map_map, Function.comp_def]
  · rw [List.cons_append, List.append_assoc]
    show ((columnRef (r.lexemes ++ (S ++ R))).bind fun p => upperLikeAfter p.1 p.2) = _
    rw [columnRef_lexemes r (hhead R), Option.bind_some]
    exact hpred R

theorem tokenizes_const (d : Dialect) (holds : Bool) :
    Tokenizes d (if holds then "1=1" else "0=1").toList [.atom (.const holds)] := by
  have hlex : ∀ c, (c = '0' ∨ c = '1') → LexesTo d [c, '=', '1']
      [.number (String.ofList [c]), .symbol .eq, .number (String.ofList ['1'])] := by
    intro c hc rest hrest
    rw [List.cons_append, lex_digit d hc (by simp), List.cons_append,
      lex_symbol d (.inl ⟨rfl, rfl⟩), List.singleton_append,
      lex_digit d (.inr rfl) hrest.not_digit]
    simp [Option.map_map, Function.comp_def]
  cases holds
  · exact ⟨_, hlex '0' (.inl rfl), groupsTo_atom rfl fun R => rfl⟩
  · exact ⟨_, hlex '1' (.inr rfl), groupsTo_atom rfl fun R => rfl⟩

/-! ### Lists of integer literals -/

theorem natLiteral?_toDigits (n : Nat) : natLiteral? (Nat.toDigits 10 n) = some n := by
  have hdigits : (Nat.toDigits 10 n).all Char.isDigit = true :=
    List.all_eq_true.2 fun c hc => Nat.isDigit_of_mem_toDigits (by decide) (by decide) hc
  rw [natLiteral?, if_pos ⟨Nat.toDigits_ne_nil, hdigits⟩, Nat.ofDigitChars_ten_toDigits]

/-- The lexemes of an integer written in decimal: its digits, after a minus sign when it is
negative. -/
def intLexemes : Int → List Lexeme
  | .ofNat m => [.number (String.ofList (Nat.toDigits 10 m))]
  | .negSucc m => [.symbol (.other '-'), .number (String.ofList (Nat.toDigits 10 (m + 1)))]

theorem lex_toDigits (d : Dialect) (m : Nat) {rest : List Char}
    (hrest : ∀ x ∈ rest.head?, x.isDigit = false) :
    lex d (Nat.toDigits 10 m ++ rest) =
      (lex d rest).map (.number (String.ofList (Nat.toDigits 10 m)) :: ·) := by
  have hdigit : ∀ x ∈ Nat.toDigits 10 m, x.isDigit = true := fun x hx =>
    Nat.isDigit_of_mem_toDigits (by decide) (by decide) hx
  obtain ⟨c, w, hcw⟩ := List.exists_cons_of_ne_nil (Nat.toDigits_ne_nil (b := 10) (n := m))
  rw [hcw] at hdigit ⊢
  exact lex_number d (hdigit c List.mem_cons_self)
    (fun x hx => hdigit x (List.mem_cons_of_mem c hx)) hrest

theorem lex_int (d : Dialect) (n : Int) {rest : List Char}
    (hrest : ∀ x ∈ rest.head?, x.isDigit = false) :
    lex d ((toString n).toList ++ rest) = (lex d rest).map (intLexemes n ++ ·) := by
  cases n with
  | ofNat m =>
    have htext : (toString (Int.ofNat m)).toList = Nat.toDigits 10 m := Nat.toList_repr
    rw [htext, lex_toDigits d m hrest]
    rfl
  | negSucc m =>
    have htext : (toString (Int.negSucc m)).toList = '-' :: Nat.toDigits 10 (m + 1) := by
      show ("-" ++ (m + 1).repr).toList = _
      rw [String.toList_append, Nat.toList_repr]
      rfl
    rw [htext, List.cons_append, lex_minus, lex_toDigits d (m + 1) hrest]
    simp [intLexemes, Option.map_map, Function.comp_def]

theorem signedNumber_intLexemes (n : Int) (R : List Lexeme) :
    signedNumber (intLexemes n ++ R) = some (n, R) := by
  cases n with
  | ofNat m => simp [intLexemes, signedNumber, natLiteral?_toDigits]
  | negSucc m =>
    rw [intLexemes, List.cons_append, List.cons_append, List.nil_append, signedNumber,
      String.toList_ofList, natLiteral?_toDigits]
    rfl

/-- The lexemes of integers written in decimal and separated by commas, and of the closing
parenthesis after them. -/
def numberListLexemes : List Int → List Lexeme
  | [] => [.symbol .rparen]
  | [n] => intLexemes n ++ [.symbol .rparen]
  | n :: m :: ns => intLexemes n ++ .symbol .comma :: numberListLexemes (m :: ns)

theorem lex_numberList (d : Dialect) : ∀ {ns : List Int}, ns ≠ [] → ∀ rest : List Char,
    lex d ((", ".intercalate (ns.map toString)).toList ++ ')' :: rest) =
      (lex d rest).map (numberListLexemes ns ++ ·)
  | [], h, _ => absurd rfl h
  | [n], _, rest => by
    rw [List.map_singleton, String.intercalate_singleton, lex_int d n (by simp),
      lex_symbol d (.inr (.inr (.inl ⟨rfl, rfl⟩)))]
    simp [numberListLexemes, Option.map_map, Function.comp_def]
  | n :: m :: ns, _, rest => by
    have htext : (", ".intercalate ((n :: m :: ns).map toString)).toList ++ ')' :: rest =
        (toString n).toList ++ ',' :: ' ' ::
          ((", ".intercalate ((m :: ns).map toString)).toList ++ ')' :: rest) := by
      rw [List.map_cons, List.map_cons, String.intercalate_cons_cons, ← List.map_cons]
      simp [String.toList_append]
    rw [htext, lex_int d n (by simp), lex_symbol d (.inr (.inr (.inr (.inr ⟨rfl, rfl⟩)))),
      lex_space, lex_numberList d (by simp) rest]
    simp [numberListLexemes, Option.map_map, Function.comp_def]

theorem numberList_comma {ls rest : List Lexeme} {n : Int}
    (h : signedNumber ls = some (n, .symbol .comma :: rest)) :
    numberList ls = (numberList rest).map fun r => (n :: r.1, r.2) := by
  rw [numberList]
  split <;> simp_all

theorem numberList_rparen {ls rest : List Lexeme} {n : Int}
    (h : signedNumber ls = some (n, .symbol .rparen :: rest)) : numberList ls = some ([n], rest) := by
  rw [numberList]
  split <;> simp_all

theorem numberList_numberListLexemes : ∀ {ns : List Int}, ns ≠ [] → ∀ R,
    numberList (numberListLexemes ns ++ R) = some (ns, R)
  | [], h, _ => absurd rfl h
  | [n], _, R => numberList_rparen (by
      simpa [numberListLexemes] using signedNumber_intLexemes n (.symbol .rparen :: R))
  | n :: m :: ns, _, R => by
    have hn := signedNumber_intLexemes n (.symbol .comma :: (numberListLexemes (m :: ns) ++ R))
    rw [numberListLexemes, List.append_assoc, List.cons_append, numberList_comma hn,
      numberList_numberListLexemes (by simp) R]
    rfl

theorem tokenizes_inNumbers (d : Dialect) (r : ColumnRef) {ns : List Int} (hns : ns ≠ []) :
    Tokenizes d ((r.write d).toList ++ (" IN (" ++ ", ".intercalate (ns.map toString) ++ ")").toList)
      [.atom (.inNumbers r ns)] := by
  refine tokenizes_predicate d r (S := .keyword .IN :: .symbol .lparen :: numberListLexemes ns)
    (fun rest _ => ?_) (fun rest => ?_) fun R => ?_
  · have htext : (" IN (" ++ ", ".intercalate (ns.map toString) ++ ")").toList ++ rest =
        ' ' :: (Keyword.IN.text.toList ++ ' ' :: '(' ::
          ((", ".intercalate (ns.map toString)).toList ++ ')' :: rest)) := by
      simp [String.toList_append, Keyword.text]
    rw [htext, lex_space, lex_keyword d .IN endsName_space, lex_space,
      lex_symbol d (.inr (.inl ⟨rfl, rfl⟩)), lex_numberList d hns]
    simp [Option.map_map, Function.comp_def]
  · have htext : (" IN (" ++ ", ".intercalate (ns.map toString) ++ ")").toList ++ rest =
        ' ' :: ((Keyword.IN.text ++ " (" ++ ", ".intercalate (ns.map toString) ++ ")").toList ++
          rest) := by
      simp [String.toList_append, Keyword.text]
    rw [htext]
    exact boundary_space _
  · obtain ⟨n, ns', rfl⟩ := List.exists_cons_of_ne_nil hns
    have hhead : ∃ l L, numberListLexemes (n :: ns') ++ R = l :: L ∧
        (l = .symbol (.other '-') ∨ ∃ s, l = .number s) := by
      cases ns' <;> cases n <;> exact ⟨_, _, rfl, by simp⟩
    obtain ⟨l, L, hL, hl⟩ := hhead
    have hmatch : predicateAfter r (.keyword .IN :: .symbol .lparen :: l :: L) =
        (numberList (l :: L)).map fun x => (.inNumbers r x.1, x.2) := by
      rcases hl with rfl | ⟨s, rfl⟩ <;> rfl
    rw [List.cons_append, List.cons_append, hL, hmatch, ← hL, numberList_numberListLexemes hns]
    rfl

/-! ### The rests of the tests -/

def notWord (negated : Bool) : List Char := if negated then " NOT".toList else []

def notLexemes (negated : Bool) : List Lexeme := if negated then [.keyword .NOT] else []

theorem lex_notWord (d : Dialect) (negated : Bool) {rest : List Char} (hrest : EndsName rest) :
    lex d (notWord negated ++ rest) = (lex d rest).map (notLexemes negated ++ ·) := by
  cases negated with
  | false => simp [notWord, notLexemes]
  | true =>
    show lex d (' ' :: (Keyword.NOT.text.toList ++ rest)) = _
    rw [lex_space, lex_keyword d .NOT hrest]
    rfl

/-- How a comparison is spelled. -/
def Comparison.spelling : Comparison → String
  | .eq => "="
  | .ne => "!="
  | .lt => "<"
  | .le => "<="
  | .gt => ">"
  | .ge => ">="

/-- The symbol a comparison is lexed as. -/
def Comparison.symbol : Comparison → Symbol
  | .eq => .eq
  | .ne => .ne
  | .lt => .lt
  | .le => .le
  | .gt => .gt
  | .ge => .ge

@[simp] theorem Comparison.ofSymbol?_symbol (op : Comparison) : Comparison.ofSymbol? op.symbol = some op := by
  cases op <;> rfl

theorem lexesTo_compare (d : Dialect) (op : Comparison) {p : String} (hp : isName p.toList = true) :
    LexesTo d (' ' :: (op.spelling.toList ++ ' ' :: ':' :: p.toList))
      [.symbol op.symbol, .param p false] := by
  intro rest hrest
  have hparam := lex_param d hp hrest.endsName
  cases op with
  | eq =>
    show lex d (' ' :: '=' :: ' ' :: ':' :: (p.toList ++ rest)) = _
    rw [lex_space, lex_symbol d (.inl ⟨rfl, rfl⟩), lex_space, hparam]
    simp [Comparison.symbol, Option.map_map, Function.comp_def]
  | ne =>
    show lex d (' ' :: '!' :: '=' :: ' ' :: ':' :: (p.toList ++ rest)) = _
    rw [lex_space, lex_symbol₂ d (.inl ⟨rfl, rfl, rfl⟩), lex_space, hparam]
    simp [Comparison.symbol, Option.map_map, Function.comp_def]
  | lt =>
    show lex d (' ' :: '<' :: ' ' :: ':' :: (p.toList ++ rest)) = _
    rw [lex_space, lex_symbol_blank d (.inr ⟨rfl, rfl⟩), hparam]
    simp [Comparison.symbol, Option.map_map, Function.comp_def]
  | le =>
    show lex d (' ' :: '<' :: '=' :: ' ' :: ':' :: (p.toList ++ rest)) = _
    rw [lex_space, lex_symbol₂ d (.inr (.inr ⟨rfl, rfl, rfl⟩)), lex_space, hparam]
    simp [Comparison.symbol, Option.map_map, Function.comp_def]
  | gt =>
    show lex d (' ' :: '>' :: ' ' :: ':' :: (p.toList ++ rest)) = _
    rw [lex_space, lex_symbol_blank d (.inl ⟨rfl, rfl⟩), hparam]
    simp [Comparison.symbol, Option.map_map, Function.comp_def]
  | ge =>
    show lex d (' ' :: '>' :: '=' :: ' ' :: ':' :: (p.toList ++ rest)) = _
    rw [lex_space, lex_symbol₂ d (.inr (.inl ⟨rfl, rfl, rfl⟩)), lex_space, hparam]
    simp [Comparison.symbol, Option.map_map, Function.comp_def]

theorem lexesTo_match (d : Dialect) (negated : Bool) (k : Keyword) {p : String}
    (hp : isName p.toList = true) :
    LexesTo d (notWord negated ++ ' ' :: (k.text.toList ++ ' ' :: ':' :: p.toList))
      (notLexemes negated ++ [.keyword k, .param p false]) := by
  intro rest hrest
  simp only [List.append_assoc, List.cons_append]
  rw [lex_notWord d negated (endsName_space), lex_space,
    lex_keyword d k (endsName_space), lex_space,
    lex_param d hp hrest.endsName]
  simp [Option.map_map, Function.comp_def]

theorem lexesTo_inList (d : Dialect) (negated : Bool) {p : String} (hp : isName p.toList = true) :
    LexesTo d (notWord negated ++ ' ' :: (Keyword.IN.text.toList ++
        ' ' :: '(' :: ':' :: '.' :: '.' :: '.' :: (p.toList ++ [')'])))
      (notLexemes negated ++ [.keyword .IN, .symbol .lparen, .param p true, .symbol .rparen]) := by
  intro rest hrest
  simp only [List.append_assoc, List.cons_append]
  rw [lex_notWord d negated (endsName_space), lex_space,
    lex_keyword d .IN (endsName_space), lex_space,
    lex_symbol d (.inr (.inl ⟨rfl, rfl⟩)),
    lex_spreadParam d hp (endsName_cons (c := ')') (by decide)),
    lex_symbol d (.inr (.inr (.inl ⟨rfl, rfl⟩)))]
  simp [Option.map_map, Function.comp_def]

theorem lexesTo_between (d : Dialect) (negated : Bool) {lo hi : String}
    (hlo : isName lo.toList = true) (hhi : isName hi.toList = true) :
    LexesTo d (notWord negated ++ ' ' :: (Keyword.BETWEEN.text.toList ++ ' ' :: ':' ::
        (lo.toList ++ ' ' :: (Keyword.AND.text.toList ++ ' ' :: ':' :: hi.toList))))
      (notLexemes negated ++
        [.keyword .BETWEEN, .param lo false, .keyword .AND, .param hi false]) := by
  intro rest hrest
  simp only [List.append_assoc, List.cons_append]
  rw [lex_notWord d negated (endsName_space), lex_space,
    lex_keyword d .BETWEEN (endsName_space), lex_space,
    lex_param d hlo (endsName_space), lex_space,
    lex_keyword d .AND (endsName_space), lex_space,
    lex_param d hhi hrest.endsName]
  simp [Option.map_map, Function.comp_def]

theorem lexesTo_isNull (d : Dialect) (negated : Bool) :
    LexesTo d (' ' :: (Keyword.IS.text.toList ++ (notWord negated ++
        ' ' :: Keyword.NULL.text.toList)))
      ([.keyword .IS] ++ notLexemes negated ++ [.keyword .NULL]) := by
  intro rest hrest
  have hword : EndsName (notWord negated ++ ' ' :: (Keyword.NULL.text.toList ++ rest)) := by
    cases negated <;> exact endsName_cons (by decide)
  simp only [List.append_assoc, List.cons_append]
  rw [lex_space, lex_keyword d .IS hword, lex_notWord d negated (endsName_space),
    lex_space, lex_keyword d .NULL hrest.endsName]
  simp [Option.map_map, Function.comp_def]

theorem lexesTo_upperTail (d : Dialect) (negated : Bool) {p : String}
    (hp : isName p.toList = true) :
    LexesTo d (')' :: (notWord negated ++ ' ' :: (Keyword.LIKE.text.toList ++
        ' ' :: (Keyword.UPPER.text.toList ++ '(' :: ':' :: (p.toList ++ [')'])))))
      (.symbol .rparen :: (notLexemes negated ++ [.keyword .LIKE, .keyword .UPPER,
        .symbol .lparen, .param p false, .symbol .rparen])) := by
  intro rest hrest
  simp only [List.append_assoc, List.cons_append]
  rw [lex_symbol d (.inr (.inr (.inl ⟨rfl, rfl⟩))),
    lex_notWord d negated (endsName_space), lex_space,
    lex_keyword d .LIKE (endsName_space), lex_space,
    lex_keyword d .UPPER (endsName_cons (c := '(') (by decide)),
    lex_symbol d (.inr (.inl ⟨rfl, rfl⟩)),
    lex_param d hp (endsName_cons (c := ')') (by decide)),
    lex_symbol d (.inr (.inr (.inl ⟨rfl, rfl⟩)))]
  simp [Option.map_map, Function.comp_def]

end Sql

end EntitySql
