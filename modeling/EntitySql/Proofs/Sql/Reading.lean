import EntitySql.Proofs.Sql.Lexer
import EntitySql.Proofs.Placeholder.Expansion

/-!
# Reading a condition with SQL's precedence

After the lexemes, a condition is read in two steps. Its predicates are read first: a column
compared with a parameter, `BETWEEN :a AND :b` (whose `AND` belongs to the predicate), `LIKE`,
`ILIKE` or its `UPPER(…) LIKE UPPER(…)` form, `IN (:...p)`, `IS NULL`, each also negated, and the
constants `1=1` and `0=1`. What is left are the words `AND`, `OR`, `NOT` and parentheses.

These are then read with SQL's precedence by a machine that keeps, for each open parenthesis,
the disjuncts read so far, the conjunction being read and the `NOT`s waiting for the next operand:
`NOT` applies to the operand after it, `AND` joins operands into a conjunction, `OR` joins
conjunctions, and a parenthesised condition is one operand. Anything else (an operator where an
operand should be, an unclosed parenthesis) is no reading at all.

A reading is evaluated in SQL's three-valued logic. The values of the row and of the parameters,
and how the database compares values and matches patterns, are given by an `Env`; the laws
the statements rely on are carried by its `Engine`.
-/

namespace EntitySql

namespace Sql

/-- A column as a condition names it: by alias and name, or by name alone. -/
structure ColumnRef where
  qualifier : Option String
  name : String
  deriving DecidableEq, Repr

/-- The comparison operators. -/
inductive Comparison where
  | eq
  | ne
  | lt
  | le
  | gt
  | ge
  deriving DecidableEq, Repr

/-- A predicate: the smallest condition, which holds, fails or is unknown for a row. -/
inductive Atom where
  | compare (col : ColumnRef) (op : Comparison) (p : String)
  | between (col : ColumnRef) (negated : Bool) (lo hi : String)
  | like (col : ColumnRef) (negated : Bool) (p : String)
  | ilike (col : ColumnRef) (negated : Bool) (p : String)
  /-- `UPPER(col) LIKE UPPER(:p)`, negated or not. -/
  | upperLike (col : ColumnRef) (negated : Bool) (p : String)
  /-- `col IN (:...p)`, negated or not. -/
  | inList (col : ColumnRef) (negated : Bool) (p : String)
  /-- `col IN (n₁, n₂, …)` with integer literals. -/
  | inNumbers (col : ColumnRef) (ns : List Int)
  | isNull (col : ColumnRef) (negated : Bool)
  /-- `1=1` or `0=1`. -/
  | const (holds : Bool)
  deriving DecidableEq, Repr

/-- The column at the front of lexemes: `"a"."c"` or `"c"`. -/
def columnRef : List Lexeme → Option (ColumnRef × List Lexeme)
  | .ident a :: .symbol .dot :: .ident c :: rest => some (⟨some a, c⟩, rest)
  | .ident c :: rest => some (⟨none, c⟩, rest)
  | _ => none

/-- The comparison a symbol writes. -/
def Comparison.ofSymbol? : Symbol → Option Comparison
  | .eq => some .eq
  | .ne => some .ne
  | .lt => some .lt
  | .le => some .le
  | .gt => some .gt
  | .ge => some .ge
  | _ => none

/-- The natural number a run of digits spells. -/
def natLiteral? (ds : List Char) : Option Nat :=
  if ds ≠ [] ∧ ds.all Char.isDigit then some (Nat.ofDigitChars 10 ds 0) else none

/-- The integer literal at the front of lexemes: a number, after a minus sign or not. -/
def signedNumber : List Lexeme → Option (Int × List Lexeme)
  | .symbol (.other '-') :: .number ds :: rest =>
    (natLiteral? ds.toList).map fun n => (-(n : Int), rest)
  | .number ds :: rest => (natLiteral? ds.toList).map fun n => ((n : Int), rest)
  | _ => none

theorem signedNumber_rest_lt {ls rest : List Lexeme} {n : Int}
    (h : signedNumber ls = some (n, rest)) : rest.length < ls.length := by
  unfold signedNumber at h
  split at h <;> simp only [Option.map_eq_some_iff, Prod.mk.injEq, reduceCtorEq] at h
  all_goals
    obtain ⟨_, -, -, rfl⟩ := h
    simp only [List.length_cons]
    omega

/-- Integer literals separated by commas up to a closing parenthesis, and the lexemes after
it. -/
def numberList (ls : List Lexeme) : Option (List Int × List Lexeme) :=
  match _h : signedNumber ls with
  | some (n, .symbol .comma :: rest) => (numberList rest).map fun r => (n :: r.1, r.2)
  | some (n, .symbol .rparen :: rest) => some ([n], rest)
  | _ => none
termination_by ls.length
decreasing_by
  have := signedNumber_rest_lt _h
  simp only [List.length_cons] at this
  omega

theorem numberList_rest_lt (ls : List Lexeme) {rest : List Lexeme} {ns : List Int}
    (h : numberList ls = some (ns, rest)) : rest.length < ls.length := by
  rw [numberList] at h
  split at h
  · rename_i n more hn
    obtain ⟨⟨ns', rest'⟩, hr, heq⟩ := Option.map_eq_some_iff.1 h
    simp only [Prod.mk.injEq] at heq
    obtain ⟨-, rfl⟩ := heq
    have h1 := signedNumber_rest_lt hn
    have h2 := numberList_rest_lt more hr
    simp only [List.length_cons] at h1
    omega
  · rename_i n more hn
    simp only [Option.some.injEq, Prod.mk.injEq] at h
    obtain ⟨-, rfl⟩ := h
    have h1 := signedNumber_rest_lt hn
    simp only [List.length_cons] at h1
    omega
  · cases h
termination_by ls.length
decreasing_by
  simp only [List.length_cons] at h1
  omega

/-- The rest of a predicate after its column. -/
def predicateAfter (col : ColumnRef) : List Lexeme → Option (Atom × List Lexeme)
  | .symbol s :: .param p false :: rest =>
    (Comparison.ofSymbol? s).map fun op => (.compare col op p, rest)
  | .keyword .LIKE :: .param p false :: rest => some (.like col false p, rest)
  | .keyword .ILIKE :: .param p false :: rest => some (.ilike col false p, rest)
  | .keyword .IN :: .symbol .lparen :: .param p true :: .symbol .rparen :: rest =>
    some (.inList col false p, rest)
  | .keyword .IN :: .symbol .lparen :: rest =>
    (numberList rest).map fun r => (.inNumbers col r.1, r.2)
  | .keyword .BETWEEN :: .param a false :: .keyword .AND :: .param b false :: rest =>
    some (.between col false a b, rest)
  | .keyword .IS :: .keyword .NULL :: rest => some (.isNull col false, rest)
  | .keyword .IS :: .keyword .NOT :: .keyword .NULL :: rest => some (.isNull col true, rest)
  | .keyword .NOT :: .keyword .LIKE :: .param p false :: rest => some (.like col true p, rest)
  | .keyword .NOT :: .keyword .ILIKE :: .param p false :: rest => some (.ilike col true p, rest)
  | .keyword .NOT :: .keyword .IN :: .symbol .lparen :: .param p true :: .symbol .rparen :: rest =>
    some (.inList col true p, rest)
  | .keyword .NOT :: .keyword .BETWEEN :: .param a false :: .keyword .AND :: .param b false ::
      rest => some (.between col true a b, rest)
  | _ => none

/-- The rest of `UPPER(col) LIKE UPPER(:p)` after its column. -/
def upperLikeAfter (col : ColumnRef) : List Lexeme → Option (Atom × List Lexeme)
  | .symbol .rparen :: .keyword .LIKE :: .keyword .UPPER :: .symbol .lparen :: .param p false ::
      .symbol .rparen :: rest => some (.upperLike col false p, rest)
  | .symbol .rparen :: .keyword .NOT :: .keyword .LIKE :: .keyword .UPPER :: .symbol .lparen ::
      .param p false :: .symbol .rparen :: rest => some (.upperLike col true p, rest)
  | _ => none

/-- The predicate at the front of lexemes. -/
def atom : List Lexeme → Option (Atom × List Lexeme)
  | .number a :: .symbol .eq :: .number b :: rest =>
    if b = "1" ∧ (a = "1" ∨ a = "0") then some (.const (a = "1"), rest) else none
  | .keyword .UPPER :: .symbol .lparen :: rest =>
    (columnRef rest).bind fun r => upperLikeAfter r.1 r.2
  | ls => (columnRef ls).bind fun r => predicateAfter r.1 r.2

/-- A lexeme that combines predicates, or a parenthesis. -/
inductive Tok where
  | atom (a : Atom)
  | and
  | or
  | not
  | lparen
  | rparen
  deriving DecidableEq, Repr

/-- The token a lexeme is by itself: a connective or a parenthesis. -/
def Tok.ofLexeme? : Lexeme → Option Tok
  | .keyword .AND => some .and
  | .keyword .OR => some .or
  | .keyword .NOT => some .not
  | .symbol .lparen => some .lparen
  | .symbol .rparen => some .rparen
  | _ => none

theorem columnRef_rest_lt {ls rest : List Lexeme} {col : ColumnRef}
    (h : columnRef ls = some (col, rest)) : rest.length < ls.length := by
  unfold columnRef at h
  split at h <;> simp only [Option.some.injEq, Prod.mk.injEq, reduceCtorEq] at h <;>
    obtain ⟨-, rfl⟩ := h <;> simp only [List.length_cons] <;> omega

theorem predicateAfter_rest_le {col : ColumnRef} {ls rest : List Lexeme} {a : Atom}
    (h : predicateAfter col ls = some (a, rest)) : rest.length ≤ ls.length := by
  unfold predicateAfter at h
  split at h
  · obtain ⟨op, -, hop⟩ := Option.map_eq_some_iff.1 h
    simp only [Prod.mk.injEq] at hop
    obtain ⟨-, rfl⟩ := hop
    simp only [List.length_cons]
    omega
  all_goals
    first
    | (simp only [Option.some.injEq, Prod.mk.injEq] at h; obtain ⟨-, rfl⟩ := h
       simp only [List.length_cons]; omega)
    | (obtain ⟨⟨ns, r⟩, hr, hop⟩ := Option.map_eq_some_iff.1 h
       simp only [Prod.mk.injEq] at hop
       obtain ⟨-, rfl⟩ := hop
       have := numberList_rest_lt _ hr
       simp only [List.length_cons]; omega)
    | cases h

theorem upperLikeAfter_rest_le {col : ColumnRef} {ls rest : List Lexeme} {a : Atom}
    (h : upperLikeAfter col ls = some (a, rest)) : rest.length ≤ ls.length := by
  unfold upperLikeAfter at h
  split at h
  all_goals
    first
    | (simp only [Option.some.injEq, Prod.mk.injEq] at h; obtain ⟨-, rfl⟩ := h
       simp only [List.length_cons]; omega)
    | cases h

theorem atom_rest_lt {ls rest : List Lexeme} {a : Atom} (h : atom ls = some (a, rest)) :
    rest.length < ls.length := by
  unfold atom at h
  split at h
  · split at h
    · simp only [Option.some.injEq, Prod.mk.injEq] at h
      obtain ⟨-, rfl⟩ := h
      simp only [List.length_cons]
      omega
    · cases h
  · obtain ⟨⟨col, r⟩, hcol, hup⟩ := Option.bind_eq_some_iff.1 h
    have h1 := columnRef_rest_lt hcol
    have h2 := upperLikeAfter_rest_le hup
    dsimp only at h2
    simp only [List.length_cons]
    omega
  · obtain ⟨⟨col, r⟩, hcol, hpred⟩ := Option.bind_eq_some_iff.1 h
    have h1 := columnRef_rest_lt hcol
    have h2 := predicateAfter_rest_le hpred
    dsimp only at h2
    omega

/-- The tokens of lexemes: connectives and parentheses as they are, the rest read as
predicates; `none` where the lexemes make no predicate. -/
def group : List Lexeme → Option (List Tok)
  | [] => some []
  | l :: rest =>
    match Tok.ofLexeme? l with
    | some t => (group rest).map (t :: ·)
    | none =>
      match h : atom (l :: rest) with
      | some (a, after) =>
        have : after.length < rest.length + 1 := atom_rest_lt h
        (group after).map (.atom a :: ·)
      | none => none
termination_by ls => ls.length

/-! ### Precedence -/

/-- A condition as SQL reads it. -/
inductive Cond where
  | atom (a : Atom)
  | not (c : Cond)
  | and (l r : Cond)
  | or (l r : Cond)
  deriving DecidableEq, Repr

/-- What has been read inside one pair of parentheses, or outside all of them. -/
structure Frame where
  /-- The disjunction of the conjunctions completed before the current one. -/
  done : Option Cond
  /-- The operands of the current conjunction, in order. -/
  ops : List Cond
  /-- The `NOT`s read before the operand to come. -/
  nots : Nat
  /-- Whether an operand is to come. -/
  expecting : Bool
  deriving DecidableEq, Repr

def Frame.start : Frame := ⟨none, [], 0, true⟩

def negated : Nat → Cond → Cond
  | 0, c => c
  | n + 1, c => .not (negated n c)

def Frame.operand (f : Frame) (c : Cond) : Frame :=
  { f with ops := f.ops ++ [negated f.nots c], nots := 0, expecting := false }

def conjunction : List Cond → Option Cond
  | [] => none
  | c :: cs => some (cs.foldl .and c)

/-- The condition read in a frame: its completed disjunction, or'ed with the current
conjunction. -/
def Frame.value (f : Frame) : Option Cond :=
  (conjunction f.ops).map fun c =>
    match f.done with
    | some d => .or d c
    | none => c

/-- Read one token. -/
def step : Tok → List Frame → Option (List Frame)
  | .atom a, f :: st => if f.expecting then some (f.operand (.atom a) :: st) else none
  | .not, f :: st => if f.expecting then some ({ f with nots := f.nots + 1 } :: st) else none
  | .and, f :: st => if f.expecting then none else some ({ f with expecting := true } :: st)
  | .or, f :: st => if f.expecting then none else some (⟨f.value, [], 0, true⟩ :: st)
  | .lparen, f :: st => if f.expecting then some (Frame.start :: f :: st) else none
  | .rparen, f :: g :: st =>
    if f.expecting then none else f.value.map fun v => g.operand v :: st
  | _, _ => none

def run : List Tok → List Frame → Option (List Frame)
  | [], st => some st
  | t :: ts, st => (step t st).bind (run ts)

def finish : List Frame → Option Cond
  | [f] => if f.expecting then none else f.value
  | _ => none

def read (d : Dialect) (text : String) : Option Cond := do
  let ts ← (lex d text.toList).bind group
  finish (← run ts [Frame.start])

/-! ### Three-valued logic -/

/-- The truth values of SQL. -/
inductive Truth where
  | false
  | unknown
  | true
  deriving DecidableEq, Repr

namespace Truth

def not : Truth → Truth
  | .false => .true
  | .unknown => .unknown
  | .true => .false

def and : Truth → Truth → Truth
  | .false, _ => .false
  | _, .false => .false
  | .true, .true => .true
  | _, _ => .unknown

def or : Truth → Truth → Truth
  | .true, _ => .true
  | _, .true => .true
  | .false, .false => .false
  | _, _ => .unknown

def ofBool : Bool → Truth
  | Bool.true => .true
  | Bool.false => .false

def negateIf (negate : Bool) (t : Truth) : Truth := if negate then t.not else t

def all (ts : List Truth) : Truth := ts.foldr Truth.and .true

def any (ts : List Truth) : Truth := ts.foldr Truth.or .false

theorem and_assoc (a b c : Truth) : (a.and b).and c = a.and (b.and c) := by
  cases a <;> cases b <;> cases c <;> rfl

theorem or_assoc (a b c : Truth) : (a.or b).or c = a.or (b.or c) := by
  cases a <;> cases b <;> cases c <;> rfl

@[simp] theorem and_true (a : Truth) : a.and .true = a := by cases a <;> rfl

@[simp] theorem or_false (a : Truth) : a.or .false = a := by cases a <;> rfl

@[simp] theorem false_or (a : Truth) : Truth.false.or a = a := by cases a <;> rfl

@[simp] theorem not_not (a : Truth) : a.not.not = a := by cases a <;> rfl

@[simp] theorem all_nil : all [] = .true := rfl

@[simp] theorem all_cons (t : Truth) (ts : List Truth) : all (t :: ts) = t.and (all ts) := rfl

@[simp] theorem any_nil : any [] = .false := rfl

@[simp] theorem any_cons (t : Truth) (ts : List Truth) : any (t :: ts) = t.or (any ts) := rfl

theorem all_append (ts ts' : List Truth) : all (ts ++ ts') = (all ts).and (all ts') := by
  induction ts with
  | nil => rw [List.nil_append, all_nil]; cases all ts' <;> rfl
  | cons t ts ih => rw [List.cons_append, all_cons, all_cons, ih, and_assoc]

theorem any_append (ts ts' : List Truth) : any (ts ++ ts') = (any ts).or (any ts') := by
  induction ts with
  | nil => rw [List.nil_append, any_nil]; cases any ts' <;> rfl
  | cons t ts ih => rw [List.cons_append, any_cons, any_cons, ih, or_assoc]

/-- Clauses joined by `AND` and `OR` (`true` for `OR`) after a first one, `AND` binding
tighter: an `OR` ends the conjunction so far, and what follows it is one more disjunct. -/
def ofClauses (first : Truth) : List (Bool × Truth) → Truth
  | [] => first
  | (Bool.true, t) :: rest => first.or (ofClauses t rest)
  | (Bool.false, t) :: rest => ofClauses (first.and t) rest

theorem ofClauses_or (first : Truth) (ts : List Truth) :
    ofClauses first (ts.map (Bool.true, ·)) = any (first :: ts) := by
  induction ts generalizing first with
  | nil => simp [ofClauses]
  | cons t ts ih => rw [List.map_cons, ofClauses, ih, any_cons, any_cons, any_cons]

end Truth

/-- How two values compare, when they do. -/
inductive ValueOrder where
  | less
  | equal
  | greater
  deriving DecidableEq, Repr

/-- How the database compares values and matches patterns. -/
structure Engine where
  /-- How two values compare; `none` when one of them is null or they do not compare. -/
  compare : Value → Value → Option ValueOrder
  /-- Whether a value matches a `LIKE` pattern. -/
  like : Value → Value → Truth
  /-- Whether a value matches an `ILIKE` pattern. -/
  ilike : Value → Value → Truth
  /-- `UPPER` of a value. -/
  upper : Value → Value
  /-- Matching without regard to case is matching both sides in upper case. -/
  ilike_eq : ∀ v p, ilike v p = like (upper v) (upper p)

/-- A row and the values of the named parameters, with the engine that compares them. -/
structure Env where
  engine : Engine
  column : ColumnRef → Value
  param : String → Value

/-- Whether an order between two values makes a comparison hold. -/
def Comparison.holds : Comparison → ValueOrder → Bool
  | .eq, o => o = .equal
  | .ne, o => o ≠ .equal
  | .lt, o => o = .less
  | .le, o => o ≠ .greater
  | .gt, o => o = .greater
  | .ge, o => o ≠ .less

/-- A comparison of two values: unknown when they do not compare. -/
def Engine.test (E : Engine) (op : Comparison) (x y : Value) : Truth :=
  match E.compare x y with
  | some o => .ofBool (op.holds o)
  | none => .unknown

/-- The values a spread parameter stands for in `IN (…)`: its items, or `NULL` for none. -/
def spreadValues (v : Value) : List Value :=
  match Placeholder.spreadItems v with
  | [] => [.null]
  | items => items

/-- A predicate for a row. -/
def Atom.eval (env : Env) : Atom → Truth
  | .compare col op p => env.engine.test op (env.column col) (env.param p)
  | .between col neg lo hi =>
    Truth.negateIf neg ((env.engine.test .ge (env.column col) (env.param lo)).and
      (env.engine.test .le (env.column col) (env.param hi)))
  | .like col neg p => Truth.negateIf neg (env.engine.like (env.column col) (env.param p))
  | .ilike col neg p => Truth.negateIf neg (env.engine.ilike (env.column col) (env.param p))
  | .upperLike col neg p =>
    Truth.negateIf neg (env.engine.like (env.engine.upper (env.column col))
      (env.engine.upper (env.param p)))
  | .inList col neg p =>
    Truth.negateIf neg (Truth.any ((spreadValues (env.param p)).map
      (env.engine.test .eq (env.column col))))
  | .inNumbers col ns => Truth.any (ns.map fun n => env.engine.test .eq (env.column col) (.int n))
  | .isNull col neg => Truth.negateIf neg (.ofBool (env.column col).isNull)
  | .const holds => .ofBool holds

/-- A condition for a row. -/
def Cond.eval (env : Env) : Cond → Truth
  | .atom a => a.eval env
  | .not c => (c.eval env).not
  | .and l r => (l.eval env).and (r.eval env)
  | .or l r => (l.eval env).or (r.eval env)

/-! ### What the machine builds -/

theorem negated_not (n : Nat) (c : Cond) : negated n (.not c) = negated (n + 1) c := by
  induction n with
  | zero => rfl
  | succ n ih =>
    rw [negated, ih]
    rfl

theorem eval_foldl_and (env : Env) (c : Cond) (cs : List Cond) :
    (cs.foldl .and c).eval env = Truth.all ((c :: cs).map (Cond.eval env)) := by
  induction cs generalizing c with
  | nil => simp
  | cons c' cs ih =>
    rw [List.foldl_cons, ih]
    simp only [List.map_cons, Truth.all_cons, Cond.eval, Truth.and_assoc]

theorem conjunction_eval {us : List Cond} (hus : us ≠ []) :
    ∃ c, conjunction us = some c ∧ ∀ env, c.eval env = Truth.all (us.map (Cond.eval env)) := by
  obtain ⟨u, us', rfl⟩ := List.exists_cons_of_ne_nil hus
  exact ⟨_, rfl, fun env => eval_foldl_and env u us'⟩

theorem eval_foldl_or (env : Env) (c : Cond) (cs : List Cond) :
    (cs.foldl .or c).eval env = Truth.any ((c :: cs).map (Cond.eval env)) := by
  induction cs generalizing c with
  | nil => simp
  | cons c' cs ih =>
    rw [List.foldl_cons, ih]
    simp only [List.map_cons, Truth.any_cons, Cond.eval, Truth.or_assoc]

/-! ### Reading token lists built from pieces -/

theorem run_append (ts ts' : List Tok) (st : List Frame) :
    run (ts ++ ts') st = (run ts st).bind (run ts') := by
  induction ts generalizing st with
  | nil => rfl
  | cons t ts ih =>
    simp only [List.cons_append, run]
    cases step t st with
    | none => rfl
    | some st' => exact ih st'

def ReadsOperand (ts : List Tok) (u : Cond) : Prop :=
  ∀ (f : Frame) (st : List Frame), f.expecting = true → run ts (f :: st) = some (f.operand u :: st)

/-- Tokens read as a conjunction of operands, wherever an operand is to come and no `NOT` waits
for it. -/
def ReadsConj (ts : List Tok) (us : List Cond) : Prop :=
  us ≠ [] ∧ ∀ (f : Frame) (st : List Frame), f.expecting = true → f.nots = 0 →
    run ts (f :: st) = some ({ f with ops := f.ops ++ us, expecting := false } :: st)

def ReadsGroup (ts : List Tok) (v : Cond) : Prop :=
  ∀ (st : List Frame), ∃ f, run ts (Frame.start :: st) = some (f :: st) ∧ f.expecting = false ∧
    f.value = some v

theorem readsOperand_atom (a : Atom) : ReadsOperand [.atom a] (.atom a) := by
  intro f st hf
  simp [run, step, hf]

theorem readsOperand_not {ts : List Tok} {u : Cond} (h : ReadsOperand ts u) :
    ReadsOperand (.not :: ts) (.not u) := by
  intro f st hf
  simp only [run, step, hf, if_true, Option.bind_some]
  rw [h { f with nots := f.nots + 1, expecting := true } st rfl]
  simp [Frame.operand, negated_not]

theorem readsOperand_group {ts : List Tok} {v : Cond} (h : ReadsGroup ts v) :
    ReadsOperand (.lparen :: (ts ++ [.rparen])) v := by
  intro f st hf
  obtain ⟨g, hrun, hg, hv⟩ := h (f :: st)
  simp only [run, step, hf, if_true, Option.bind_some]
  rw [run_append, hrun, Option.bind_some]
  simp [run, step, hg, hv]

theorem readsConj_operand {ts : List Tok} {u : Cond} (h : ReadsOperand ts u) :
    ReadsConj ts [u] := by
  refine ⟨by simp, fun f st hf hn => ?_⟩
  rw [h f st hf]
  cases f
  simp_all [Frame.operand, negated]

theorem readsConj_and {ts ts' : List Tok} {us us' : List Cond} (h : ReadsConj ts us)
    (h' : ReadsConj ts' us') : ReadsConj (ts ++ .and :: ts') (us ++ us') := by
  refine ⟨by simp [h.1], fun f st hf hn => ?_⟩
  rw [run_append, h.2 f st hf hn, Option.bind_some]
  simp only [run, step, if_false, Bool.false_eq_true, Option.bind_some]
  rw [h'.2 { f with ops := f.ops ++ us, expecting := true } st rfl hn]
  simp [List.append_assoc]

theorem run_and_conj {ts : List Tok} {us : List Cond} (h : ReadsConj ts us) (f : Frame)
    (st : List Frame) (hf : f.expecting = false) (hn : f.nots = 0) :
    run (.and :: ts) (f :: st) = some ({ f with ops := f.ops ++ us } :: st) := by
  simp only [run, step, hf, Bool.false_eq_true, if_false, Option.bind_some]
  rw [h.2 { f with expecting := true } st rfl hn]

theorem run_or_conj {ts : List Tok} {us : List Cond} (h : ReadsConj ts us) (f : Frame)
    (st : List Frame) (hf : f.expecting = false) :
    run (.or :: ts) (f :: st) = some (⟨f.value, us, 0, false⟩ :: st) := by
  simp only [run, step, hf, Bool.false_eq_true, if_false, Option.bind_some]
  rw [h.2 ⟨f.value, [], 0, true⟩ st rfl rfl]
  rfl

/-- What the completed disjunction of a frame says: nothing completed is `false`. -/
def Frame.doneEval (f : Frame) (env : Env) : Truth :=
  match f.done with
  | some d => d.eval env
  | none => .false

theorem Frame.value_eval {f : Frame} (hops : f.ops ≠ []) :
    ∃ v, f.value = some v ∧
      ∀ env, v.eval env = (f.doneEval env).or (Truth.all (f.ops.map (·.eval env))) := by
  obtain ⟨c, hc, hce⟩ := conjunction_eval hops
  cases hd : f.done with
  | none =>
    refine ⟨c, by simp [Frame.value, hc, hd], fun env => ?_⟩
    rw [hce, doneEval, hd, Truth.false_or]
  | some d =>
    refine ⟨.or d c, by simp [Frame.value, hc, hd], fun env => ?_⟩
    rw [Cond.eval, hce, doneEval, hd]

end Sql

end EntitySql
