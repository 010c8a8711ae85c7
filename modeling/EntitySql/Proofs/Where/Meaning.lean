import Mathlib.Data.List.Forall2
import EntitySql.Proofs.Sql.Predicates
import EntitySql.Proofs.Where.Clause

/-!
# What a WHERE condition means, and how its text reads

The documented meaning of a condition. An operator compares its column with the value of its
parameter, matches a pattern (`ilike` without regard to case), asks for one of the values of a
list, for a value between two ends or for null; `NOT`, `AND` and `OR` are SQL's connectives, an
`AND` of no operators holding and an `OR` of none failing. A condition built from a `FindWhere`
is the `AND` of its properties, a list of them is an `OR`, a bracket group is one unit, negated
when asked, and clauses joined by `AND` and `OR` mean that expression, `AND` binding tighter.

The structured fragment (`isStructured`) has no raw SQL, array operator or literal list, only
plain parameter names, and no conjunction of nothing. In it, the text the renderer writes, with
names quoted, reads with SQL's precedence and three-valued logic as just that meaning: every
operator and its negation (`BoundOp.writesOp`), every condition (`Condition.writes_render`),
every list of clauses (`Condition.renderClauses_reads`), and the WHERE clause of a statement,
where the statement's own conditions are joined to it by `AND` (`QueryState.compileWhere_reads`).
The conjunction of nothing is left out because it is written as no text at all
(`QueryState.compileWhere_emptyConjunction`).
-/

namespace EntitySql

open Sql

/-- The column a predicate names: after its alias where the context writes aliases. -/
def RenderContext.columnRef (ctx : RenderContext) (qualifier : Option String) (column : String) :
    ColumnRef :=
  match qualifier with
  | some a => if ctx.prefixAlias then ⟨some a, column⟩ else ⟨none, column⟩
  | none => ⟨none, column⟩

theorem Sql.Engine.test_ne (E : Engine) (x y : Value) : E.test .ne x y = (E.test .eq x y).not := by
  unfold Engine.test
  cases E.compare x y with
  | none => rfl
  | some o => cases o <;> rfl

namespace BoundOp

mutual

/-- What an operator on a column means for a row. The forms outside the structured fragment
(literal lists, array operators, raw SQL) are given no meaning: `unknown`. -/
def holds (env : Env) (r : ColumnRef) : BoundOp → Truth
  | .eq p => env.engine.test .eq (env.column r) (env.param p)
  | .ne p => env.engine.test .ne (env.column r) (env.param p)
  | .gt p => env.engine.test .gt (env.column r) (env.param p)
  | .gte p => env.engine.test .ge (env.column r) (env.param p)
  | .lt p => env.engine.test .lt (env.column r) (env.param p)
  | .lte p => env.engine.test .le (env.column r) (env.param p)
  | .like p => env.engine.like (env.column r) (env.param p)
  | .ilike p => env.engine.ilike (env.column r) (env.param p)
  | .inList p => Truth.any ((spreadValues (env.param p)).map (env.engine.test .eq (env.column r)))
  | .emptyIn => .false
  | .between lo hi =>
    (env.engine.test .ge (env.column r) (env.param lo)).and
      (env.engine.test .le (env.column r) (env.param hi))
  | .isNull => .ofBool (env.column r).isNull
  | .not op => (holds env r op).not
  | .and ops => Truth.all (holdsAll env r ops)
  | .or ops => Truth.any (holdsAll env r ops)
  | .inLiteral _ | .any _ | .arrayContains _ | .arrayContainedBy _ | .arrayOverlap _ | .raw _ =>
    .unknown

def holdsAll (env : Env) (r : ColumnRef) : List BoundOp → List Truth
  | [] => []
  | op :: ops => holds env r op :: holdsAll env r ops

end

mutual

/-- The operators of the structured fragment: comparisons, matches, lists, ranges and null
tests on plain parameter names, and `NOT`, `OR` and `AND` of at least one of them. -/
def isStructured : BoundOp → Bool
  | .eq p | .ne p | .gt p | .gte p | .lt p | .lte p | .like p | .ilike p | .inList p =>
    isName p.toList
  | .emptyIn | .isNull => true
  | .between lo hi => isName lo.toList && isName hi.toList
  | .not op => isStructured op
  | .and ops => !ops.isEmpty && allStructured ops
  | .or ops => allStructured ops
  | .inLiteral _ | .any _ | .arrayContains _ | .arrayContainedBy _ | .arrayOverlap _ | .raw _ =>
    false

def allStructured : List BoundOp → Bool
  | [] => true
  | op :: ops => isStructured op && allStructured ops

end

theorem holdsAll_eq_map (env : Env) (r : ColumnRef) (ops : List BoundOp) :
    holdsAll env r ops = ops.map (holds env r) := by
  induction ops with
  | nil => rfl
  | cons op ops ih => rw [holdsAll, ih, List.map_cons]

/-- The operators SQL negates in place: `!=`, `IS NOT NULL`, `NOT LIKE`, `NOT ILIKE`, `NOT IN`
and `NOT BETWEEN`. -/
def negatedInPlace : BoundOp → Bool
  | .eq _ | .isNull | .like _ | .ilike _ | .inList _ | .inLiteral _ | .between _ _ => true
  | _ => false

theorem renderNot_of_negatedInPlace {d : Dialect} {col : String} {op : BoundOp}
    (h : op.negatedInPlace = false) :
    op.renderNot d col = (do let inner ← op.render d col; pure ("NOT(" ++ inner ++ ")")) := by
  rw [BoundOp.renderNot.eq_def]
  cases op <;> simp only [negatedInPlace, Bool.true_eq_false] at h <;> rfl

/-! ### Each operator, written on a column -/

section Leaves

variable {d : Dialect} {r : ColumnRef}

theorem writesConj_atom {text : String} {a : Atom} {m : Env → Truth}
    (h : Tokenizes d text.toList [.atom a]) (hm : ∀ env, a.eval env = m env) :
    WritesConj d text m :=
  ((writesOperand_atom h).congr hm).conj

theorem writesConj_const (holds : Bool) :
    WritesConj d (if holds then "1=1" else "0=1") fun _ => .ofBool holds :=
  writesConj_atom (tokenizes_const d holds) fun _ => rfl

theorem writesConj_column {text : String} {suffix : List Char} {S : List Lexeme} {a : Atom}
    {m : Env → Truth} (htext : text.toList = (r.write d).toList ++ suffix)
    (hs : LexesTo d suffix S) (hblank : ∃ more, suffix = ' ' :: more)
    (hpred : ∀ R, predicateAfter r (S ++ R) = some (a, R)) (hm : ∀ env, a.eval env = m env) :
    WritesConj d text m := by
  obtain ⟨more, rfl⟩ := hblank
  refine writesConj_atom ?_ hm
  rw [htext]
  exact tokenizes_predicate d r hs (fun _ => boundary_space _) hpred

theorem writesConj_compare (op : Comparison) {l p : String}
    (hlit : l.toList = ' ' :: (op.spelling.toList ++ [' ', ':'])) (hp : isName p.toList = true) :
    WritesConj d (r.write d ++ l ++ p) fun env => env.engine.test op (env.column r) (env.param p) :=
  writesConj_column (r := r) (a := .compare r op p) (by simp [String.toList_append, hlit])
    (lexesTo_compare d op hp) ⟨_, rfl⟩ (fun R => by cases op <;> rfl) fun _ => rfl

theorem writesConj_match (negated : Bool) (k : Keyword) {l p : String} {a : Atom}
    {m : Env → Truth} (hlit : l.toList = notWord negated ++ ' ' :: (k.text.toList ++ [' ', ':']))
    (hp : isName p.toList = true)
    (hpred : ∀ R, predicateAfter r (notLexemes negated ++ [.keyword k, .param p false] ++ R) =
      some (a, R))
    (hm : ∀ env, a.eval env = m env) : WritesConj d (r.write d ++ l ++ p) m :=
  writesConj_column (r := r) (by simp [String.toList_append, hlit])
    (lexesTo_match d negated k hp) (by cases negated <;> exact ⟨_, rfl⟩) hpred hm

theorem writesConj_inList (negated : Bool) {l p : String}
    (hlit : l.toList = notWord negated ++ ' ' ::
      (Keyword.IN.text.toList ++ [' ', '(', ':', '.', '.', '.']))
    (hp : isName p.toList = true) :
    WritesConj d (r.write d ++ l ++ p ++ ")") fun env =>
      Truth.negateIf negated
        (Truth.any ((spreadValues (env.param p)).map (env.engine.test .eq (env.column r)))) :=
  writesConj_column (r := r) (a := .inList r negated p) (by simp [String.toList_append, hlit])
    (lexesTo_inList d negated hp) (by cases negated <;> exact ⟨_, rfl⟩)
    (fun R => by cases negated <;> rfl) fun _ => rfl

theorem writesConj_between (negated : Bool) {l lo hi : String}
    (hlit : l.toList = notWord negated ++ ' ' :: (Keyword.BETWEEN.text.toList ++ [' ', ':']))
    (hlo : isName lo.toList = true) (hhi : isName hi.toList = true) :
    WritesConj d (r.write d ++ l ++ lo ++ " AND :" ++ hi) fun env =>
      Truth.negateIf negated ((env.engine.test .ge (env.column r) (env.param lo)).and
        (env.engine.test .le (env.column r) (env.param hi))) :=
  writesConj_column (r := r) (a := .between r negated lo hi)
    (by simp [String.toList_append, hlit]; rfl) (lexesTo_between d negated hlo hhi)
    (by cases negated <;> exact ⟨_, rfl⟩)
    (fun R => by cases negated <;> rfl) fun _ => rfl

theorem writesConj_isNull (negated : Bool) {l : String}
    (hlit : l.toList = ' ' :: (Keyword.IS.text.toList ++ (notWord negated ++
      ' ' :: Keyword.NULL.text.toList))) :
    WritesConj d (r.write d ++ l) fun env =>
      Truth.negateIf negated (.ofBool (env.column r).isNull) :=
  writesConj_column (r := r) (a := .isNull r negated) (by simp [String.toList_append, hlit])
    (lexesTo_isNull d negated) ⟨_, rfl⟩ (fun R => by cases negated <;> rfl) fun _ => rfl

theorem writesConj_upperLike (negated : Bool) {l p : String}
    (hlit : l.toList = ')' :: (notWord negated ++ ' ' :: (Keyword.LIKE.text.toList ++
      ' ' :: (Keyword.UPPER.text.toList ++ ['(', ':']))))
    (hp : isName p.toList = true) :
    WritesConj d ("UPPER(" ++ r.write d ++ l ++ p ++ ")") fun env =>
      Truth.negateIf negated (env.engine.ilike (env.column r) (env.param p)) := by
  refine writesConj_atom (a := .upperLike r negated p) ?_ fun env => ?_
  · have htext : ("UPPER(" ++ r.write d ++ l ++ p ++ ")").toList =
        "UPPER(".toList ++ (r.write d).toList ++ (')' :: (notWord negated ++ ' ' ::
          (Keyword.LIKE.text.toList ++ ' ' :: (Keyword.UPPER.text.toList ++
            '(' :: ':' :: (p.toList ++ [')']))))) := by
      simp [String.toList_append, hlit]
    rw [htext]
    exact tokenizes_upperLike d r (lexesTo_upperTail d negated hp) (fun _ => boundary_rparen _)
      (fun R => by cases negated <;> rfl) (fun R => by simp)
  · rw [Atom.eval, env.engine.ilike_eq]

end Leaves

/-! ### Every operator of the fragment -/

def WritesOp (d : Dialect) (r : ColumnRef) (op : BoundOp) : Prop :=
  (∃ t, op.render d (r.write d) = .ok t ∧ WritesConj d t fun env => op.holds env r) ∧
    ∃ t, op.renderNot d (r.write d) = .ok t ∧ WritesConj d t fun env => (op.holds env r).not

section Operators

variable {d : Dialect} {r : ColumnRef}

theorem WritesOp.of_render {op : BoundOp} (hin : op.negatedInPlace = false)
    (h : ∃ t, op.render d (r.write d) = .ok t ∧ WritesConj d t fun env => op.holds env r) :
    WritesOp d r op := by
  obtain ⟨t, hr, hw⟩ := h
  refine ⟨⟨t, hr, hw⟩, "NOT(" ++ t ++ ")", ?_, hw.group.not.conj⟩
  rw [renderNot_of_negatedInPlace hin, hr]
  rfl

theorem writesOp_compare {op : BoundOp} (c : Comparison) {l p : String}
    (hin : op.negatedInPlace = false) (hr : op.render d (r.write d) = .ok (r.write d ++ l ++ p))
    (hlit : l.toList = ' ' :: (c.spelling.toList ++ [' ', ':'])) (hp : isName p.toList = true)
    (hm : ∀ env, op.holds env r = env.engine.test c (env.column r) (env.param p)) :
    WritesOp d r op :=
  WritesOp.of_render hin ⟨_, hr, (writesConj_compare c hlit hp).congr fun env => (hm env).symm⟩

theorem writesOp_eq {p : String} (hp : isName p.toList = true) : WritesOp d r (.eq p) :=
  ⟨⟨_, by rw [BoundOp.render], writesConj_compare .eq rfl hp⟩,
    ⟨_, by rw [BoundOp.renderNot],
      (writesConj_compare .ne rfl hp).congr fun env => env.engine.test_ne _ _⟩⟩

theorem writesOp_like {p : String} (hp : isName p.toList = true) : WritesOp d r (.like p) :=
  ⟨⟨_, by rw [BoundOp.render], writesConj_match false .LIKE rfl hp (fun _ => rfl) fun _ => rfl⟩,
    ⟨_, by rw [BoundOp.renderNot], writesConj_match true .LIKE rfl hp (fun _ => rfl) fun _ => rfl⟩⟩

theorem writesOp_ilike {p : String} (hp : isName p.toList = true) : WritesOp d r (.ilike p) := by
  cases hs : d.supportsIlike with
  | true =>
    exact ⟨⟨_, by simp only [BoundOp.render, hs, if_true],
        writesConj_match (l := " ILIKE :") false .ILIKE rfl hp (fun _ => rfl) fun _ => rfl⟩,
      ⟨_, by simp only [BoundOp.renderNot, hs, if_true],
        writesConj_match (l := " NOT ILIKE :") true .ILIKE rfl hp (fun _ => rfl) fun _ => rfl⟩⟩
  | false =>
    exact ⟨⟨_, by simp only [BoundOp.render, hs, Bool.false_eq_true, if_false],
        writesConj_upperLike (l := ") LIKE UPPER(:") false rfl hp⟩,
      ⟨_, by simp only [BoundOp.renderNot, hs, Bool.false_eq_true, if_false],
        writesConj_upperLike (l := ") NOT LIKE UPPER(:") true rfl hp⟩⟩

theorem writesOp_inList {p : String} (hp : isName p.toList = true) : WritesOp d r (.inList p) :=
  ⟨⟨_, by rw [BoundOp.render], writesConj_inList false rfl hp⟩,
    ⟨_, by rw [BoundOp.renderNot], writesConj_inList true rfl hp⟩⟩

theorem writesOp_emptyIn : WritesOp d r .emptyIn :=
  WritesOp.of_render rfl ⟨"0=1", by rw [BoundOp.render], writesConj_const false⟩

theorem writesOp_between {lo hi : String} (hlo : isName lo.toList = true)
    (hhi : isName hi.toList = true) : WritesOp d r (.between lo hi) :=
  ⟨⟨_, by rw [BoundOp.render], writesConj_between false rfl hlo hhi⟩,
    ⟨_, by rw [BoundOp.renderNot], writesConj_between true rfl hlo hhi⟩⟩

theorem writesOp_isNull : WritesOp d r .isNull :=
  ⟨⟨_, by rw [BoundOp.render], writesConj_isNull false rfl⟩,
    ⟨_, by rw [BoundOp.renderNot], writesConj_isNull true rfl⟩⟩

theorem writesOp_not {op : BoundOp} (h : WritesOp d r op) : WritesOp d r (.not op) := by
  obtain ⟨t, hr, hw⟩ := h.2
  exact WritesOp.of_render rfl ⟨t, by rw [BoundOp.render, hr], hw⟩

def WritesOps (d : Dialect) (r : ColumnRef) (ops : List BoundOp) : Prop :=
  ∃ texts, renderAll d (r.write d) ops = .ok texts ∧
    List.Forall₂ (WritesConj d) texts (ops.map fun op env => op.holds env r)

theorem writesOps_nil : WritesOps d r [] := ⟨[], by rw [BoundOp.renderAll], .nil⟩

theorem WritesOps.cons {op : BoundOp} {ops : List BoundOp} (h : WritesOp d r op)
    (hs : WritesOps d r ops) : WritesOps d r (op :: ops) := by
  obtain ⟨⟨t, hr, hw⟩, _⟩ := h
  obtain ⟨texts, hrs, hws⟩ := hs
  exact ⟨t :: texts, by rw [BoundOp.renderAll, hr, hrs]; rfl, .cons hw hws⟩

theorem WritesOps.meaning {ops : List BoundOp} (env : Env) :
    (ops.map fun op env => op.holds env r).map (· env) = holdsAll env r ops := by
  rw [List.map_map, holdsAll_eq_map]
  rfl

theorem writesOp_and {ops : List BoundOp} (hne : ops ≠ []) (h : WritesOps d r ops) :
    WritesOp d r (.and ops) := by
  obtain ⟨texts, hrs, hws⟩ := h
  have htexts : texts ≠ [] := by
    rintro rfl
    cases ops with
    | nil => exact hne rfl
    | cons op ops => cases hws
  refine WritesOp.of_render rfl ⟨_, by rw [BoundOp.render, hrs]; rfl, ?_⟩
  exact (writesConj_intercalate hws htexts).congr fun env => by
    rw [WritesOps.meaning, holds]

end Operators

end BoundOp

theorem writesConj_anyOf {d : Dialect} :
    ∀ {texts : List String} {ms : List (Env → Truth)}, List.Forall₂ (WritesConj d) texts ms →
      WritesConj d (anyOf texts) fun env => Truth.any (ms.map (· env))
  | [], [], .nil => BoundOp.writesConj_const false
  | [_], [_], .cons h .nil => h.congr fun env => (Truth.or_false _).symm
  | _ :: _ :: _, _ :: _ :: _, h => (writesGroup_intercalate_or h (by simp)).paren.conj

namespace BoundOp

theorem writesOp_or {d : Dialect} {r : ColumnRef} {ops : List BoundOp} (h : WritesOps d r ops) :
    WritesOp d r (.or ops) := by
  obtain ⟨texts, hrs, hws⟩ := h
  refine WritesOp.of_render rfl ⟨_, by rw [BoundOp.render, hrs]; rfl, ?_⟩
  exact (writesConj_anyOf hws).congr fun env => by rw [WritesOps.meaning, holds]

mutual

/-- Written on a column, every operator of the fragment reads as its meaning, and so does its
negation. -/
theorem writesOp (d : Dialect) (r : ColumnRef) :
    ∀ op : BoundOp, op.isStructured = true → WritesOp d r op
  | .eq _, h => writesOp_eq h
  | .ne _, h => writesOp_compare .ne rfl (by rw [BoundOp.render]) rfl h fun _ => rfl
  | .gt _, h => writesOp_compare .gt rfl (by rw [BoundOp.render]) rfl h fun _ => rfl
  | .gte _, h => writesOp_compare .ge rfl (by rw [BoundOp.render]) rfl h fun _ => rfl
  | .lt _, h => writesOp_compare .lt rfl (by rw [BoundOp.render]) rfl h fun _ => rfl
  | .lte _, h => writesOp_compare .le rfl (by rw [BoundOp.render]) rfl h fun _ => rfl
  | .like _, h => writesOp_like h
  | .ilike _, h => writesOp_ilike h
  | .inList _, h => writesOp_inList h
  | .emptyIn, _ => writesOp_emptyIn
  | .between _ _, h => by
    rw [isStructured, Bool.and_eq_true] at h
    exact writesOp_between h.1 h.2
  | .isNull, _ => writesOp_isNull
  | .not op, h => writesOp_not (writesOp d r op h)
  | .and ops, h => by
    rw [isStructured, Bool.and_eq_true, Bool.not_eq_true', List.isEmpty_eq_false_iff] at h
    exact writesOp_and h.1 (writesOps d r ops h.2)
  | .or ops, h => writesOp_or (writesOps d r ops h)
  | .inLiteral _, h | .any _, h | .arrayContains _, h | .arrayContainedBy _, h
  | .arrayOverlap _, h | .raw _, h => by cases h

theorem writesOps (d : Dialect) (r : ColumnRef) :
    ∀ ops : List BoundOp, allStructured ops = true → WritesOps d r ops
  | [], _ => writesOps_nil
  | op :: ops, h => by
    rw [allStructured, Bool.and_eq_true] at h
    exact WritesOps.cons (writesOp d r op h.1) (writesOps d r ops h.2)

end

end BoundOp

namespace Condition

mutual

/-- What a condition means for a row: a predicate as its operator, a `FindWhere` as the `AND`
of its properties, a list of them as an `OR`, a group as its clauses, negated when asked.
Raw SQL is outside the fragment and given no meaning; the one verbatim condition of the
fragment is the `1=1` of an empty `FindWhere`. -/
def holds (ctx : RenderContext) (env : Env) : Condition → Truth
  | .raw _ => .unknown
  | .verbatim _ => .true
  | .predicate q c op => op.holds env (ctx.columnRef q c)
  | .and items => Truth.all (holdsAll ctx env items)
  | .or items => Truth.any (holdsAll ctx env items)
  | .group clauses negate => Truth.negateIf negate (clausesHold ctx env clauses)
  | .never => .false

def holdsAll (ctx : RenderContext) (env : Env) : List Condition → List Truth
  | [] => []
  | c :: cs => holds ctx env c :: holdsAll ctx env cs

def clausesHold (ctx : RenderContext) (env : Env) : List (Connective × Condition) → Truth
  | [] => .true
  | (_, c) :: rest => Truth.ofClauses (holds ctx env c) (joinedHold ctx env rest)

/-- The clauses after the first, each with whether it is joined by `OR`. -/
def joinedHold (ctx : RenderContext) (env : Env) :
    List (Connective × Condition) → List (Bool × Truth)
  | [] => []
  | (k, c) :: rest => (k = .or, holds ctx env c) :: joinedHold ctx env rest

end

mutual

/-- The conditions of the structured fragment: no raw SQL, operators of the fragment, and no
`AND` of nothing. -/
def isStructured : Condition → Bool
  | .raw _ => false
  | .verbatim sql => sql == "1=1"
  | .predicate _ _ op => op.isStructured
  | .and items => !items.isEmpty && allStructured items
  | .or items => allStructured items
  | .group clauses _ => clausesStructured clauses
  | .never => true

def allStructured : List Condition → Bool
  | [] => true
  | c :: cs => isStructured c && allStructured cs

def clausesStructured : List (Connective × Condition) → Bool
  | [] => true
  | (_, c) :: rest => isStructured c && clausesStructured rest

end

theorem holdsAll_eq_map (ctx : RenderContext) (env : Env) (cs : List Condition) :
    holdsAll ctx env cs = cs.map (holds ctx env) := by
  induction cs with
  | nil => rfl
  | cons c cs ih => rw [holdsAll, ih, List.map_cons]

theorem joinedHold_eq_map (ctx : RenderContext) (env : Env) (cl : List (Connective × Condition)) :
    joinedHold ctx env cl = cl.map fun kc => (decide (kc.1 = .or), kc.2.holds ctx env) := by
  induction cl with
  | nil => rfl
  | cons kc cl ih => rw [joinedHold, ih, List.map_cons]

theorem render_predicate (ctx : RenderContext) (hesc : ctx.escaping = true) (q : Option String)
    (c : String) (op : BoundOp) :
    render ctx (.predicate q c op) = op.render ctx.dialect ((ctx.columnRef q c).write ctx.dialect) := by
  cases q with
  | none => simp [render, RenderContext.escape, hesc, RenderContext.columnRef, ColumnRef.write]
  | some a =>
    cases hp : ctx.prefixAlias <;>
      simp [render, RenderContext.escape, hesc, hp, RenderContext.columnRef, ColumnRef.write]

section Written

variable (ctx : RenderContext)

def WritesAll (cs : List Condition) : Prop :=
  ∃ texts, renderAll ctx cs = .ok texts ∧
    List.Forall₂ (WritesConj ctx.dialect) texts (cs.map fun c env => c.holds ctx env)

theorem WritesAll.meaning {cs : List Condition} (env : Env) :
    (cs.map fun c env => c.holds ctx env).map (· env) = holdsAll ctx env cs := by
  rw [List.map_map, holdsAll_eq_map]
  rfl

def WritesJoined (cl : List (Connective × Condition)) : Prop :=
  ∃ t, renderJoined ctx cl = .ok t ∧
    WritesClauses ctx.dialect t (cl.map fun kc => (decide (kc.1 = .or), fun env => kc.2.holds ctx env))

theorem writes_group {clauses : List (Connective × Condition)} (negate : Bool)
    (h : ∃ inner, (if clauses.isEmpty then pure "1=1" else renderClauses ctx clauses) =
      Except.ok inner ∧ WritesGroup ctx.dialect inner fun env => clausesHold ctx env clauses) :
    ∃ t, render ctx (.group clauses negate) = .ok t ∧
      WritesConj ctx.dialect t fun env => (Condition.group clauses negate).holds ctx env := by
  obtain ⟨inner, hi, hw⟩ := h
  refine ⟨if negate then "NOT(" ++ inner ++ ")" else "(" ++ inner ++ ")", ?_, ?_⟩
  · rw [render]
    by_cases hc : clauses.isEmpty = true
    · rw [if_pos hc] at hi ⊢
      rw [hi]
      rfl
    · rw [if_neg hc] at hi ⊢
      rw [hi]
      rfl
  · cases negate with
    | false => exact hw.paren.conj
    | true => exact hw.not.conj

mutual

/-- With names quoted, every condition of the fragment is written as a text that reads as its
meaning. -/
theorem writes_render (hesc : ctx.escaping = true) : ∀ c : Condition, c.isStructured = true →
    ∃ t, render ctx c = .ok t ∧ WritesConj ctx.dialect t fun env => c.holds ctx env
  | .raw _, h => by cases h
  | .verbatim sql, h => by
    rw [isStructured, beq_iff_eq] at h
    subst h
    exact ⟨"1=1", by rw [render], BoundOp.writesConj_const true⟩
  | .predicate q c op, h => by
    obtain ⟨⟨t, hr, hw⟩, _⟩ := BoundOp.writesOp ctx.dialect (ctx.columnRef q c) op h
    exact ⟨t, by rw [render_predicate ctx hesc, hr], hw⟩
  | .and items, h => by
    rw [isStructured, Bool.and_eq_true, Bool.not_eq_true', List.isEmpty_eq_false_iff] at h
    obtain ⟨texts, hrs, hws⟩ := writes_renderAll hesc items h.2
    have htexts : texts ≠ [] := by
      rintro rfl
      cases items with
      | nil => exact h.1 rfl
      | cons c cs => cases hws
    refine ⟨" AND ".intercalate texts, by rw [render, hrs]; rfl, ?_⟩
    exact (writesConj_intercalate hws htexts).congr fun env => by
      rw [WritesAll.meaning, holds]
  | .or items, h => by
    obtain ⟨texts, hrs, hws⟩ := writes_renderAll hesc items h
    refine ⟨anyOf texts, by rw [render, hrs]; rfl, ?_⟩
    exact (writesConj_anyOf hws).congr fun env => by rw [WritesAll.meaning, holds]
  | .group clauses negate, h => by
    refine writes_group ctx negate ?_
    by_cases hc : clauses = []
    · subst hc
      exact ⟨"1=1", rfl, (BoundOp.writesConj_const true).group⟩
    · obtain ⟨t, hr, hw⟩ := writes_renderClauses hesc clauses hc h
      exact ⟨t, by simp [hc, hr], hw⟩
  | .never, _ => ⟨"0=1", by rw [render], BoundOp.writesConj_const false⟩

theorem writes_renderAll (hesc : ctx.escaping = true) : ∀ cs : List Condition, allStructured cs = true → WritesAll ctx cs
  | [], _ => ⟨[], by rw [renderAll], .nil⟩
  | c :: cs, h => by
    rw [allStructured, Bool.and_eq_true] at h
    obtain ⟨t, hr, hw⟩ := writes_render hesc c h.1
    obtain ⟨texts, hrs, hws⟩ := writes_renderAll hesc cs h.2
    exact ⟨t :: texts, by rw [renderAll, hr, hrs]; rfl, .cons hw hws⟩

theorem writes_renderJoined (hesc : ctx.escaping = true) :
    ∀ cl : List (Connective × Condition), clausesStructured cl = true → WritesJoined ctx cl
  | [], _ => ⟨"", by rw [renderJoined], writesClauses_nil _⟩
  | (k, c) :: rest, h => by
    rw [clausesStructured, Bool.and_eq_true] at h
    obtain ⟨t, hr, hw⟩ := writes_render hesc c h.1
    obtain ⟨u, hu, hwu⟩ := writes_renderJoined hesc rest h.2
    refine ⟨(if k = .or then " OR " else " AND ") ++ t ++ u, by rw [renderJoined, hr, hu]; rfl, ?_⟩
    have hclause := WritesConj.clause (decide (k = .or)) hw hwu
    simpa only [decide_eq_true_eq, List.map_cons] using hclause

theorem writes_renderClauses (hesc : ctx.escaping = true) : ∀ cl : List (Connective × Condition), cl ≠ [] →
    clausesStructured cl = true →
    ∃ t, renderClauses ctx cl = .ok t ∧ WritesGroup ctx.dialect t fun env => clausesHold ctx env cl
  | [], hne, _ => absurd rfl hne
  | (k, c) :: rest, _, h => by
    rw [clausesStructured, Bool.and_eq_true] at h
    obtain ⟨t, hr, hw⟩ := writes_render hesc c h.1
    obtain ⟨u, hu, hwu⟩ := writes_renderJoined hesc rest h.2
    refine ⟨t ++ u, by rw [renderClauses, hr, hu]; rfl, (hw.clauses hwu).congr fun env => ?_⟩
    rw [clausesHold, joinedHold_eq_map, List.map_map]
    rfl

end

/-- With names quoted, a nonempty list of clauses of the fragment is written as a text that,
read with SQL's precedence and three-valued logic, holds for a row exactly as the clauses'
documented meaning does. -/
theorem renderClauses_reads (hesc : ctx.escaping = true) (cl : List (Connective × Condition)) (hne : cl ≠ [])
    (hs : clausesStructured cl = true) :
    ∃ t, renderClauses ctx cl = .ok t ∧
      ∃ e, Sql.read ctx.dialect t = some e ∧ ∀ env, e.eval env = clausesHold ctx env cl := by
  obtain ⟨t, hr, hw⟩ := writes_renderClauses ctx hesc cl hne hs
  exact ⟨t, hr, hw.read⟩

end Written

end Condition

/-! ### The WHERE clause of a statement -/

theorem parens_intercalate (p : String) (ps : List String) :
    "( " ++ " ) AND ( ".intercalate (p :: ps) ++ " )" =
      " AND ".intercalate ((p :: ps).map fun c => "( " ++ c ++ " )") := by
  induction ps generalizing p with
  | nil =>
    rw [String.intercalate_singleton, List.map_cons, List.map_nil, String.intercalate_singleton]
  | cons q ps ih =>
    have hrest := ih q
    rw [List.map_cons] at hrest
    rw [String.intercalate_cons_cons, List.map_cons, List.map_cons, String.intercalate_cons_cons,
      ← hrest, ← String.toList_inj]
    simp only [String.toList_append, List.append_assoc]
    rfl

theorem writes_whereClause {d : Dialect} :
    ∀ {parts : List String} {ms : List (Env → Truth)}, List.Forall₂ (WritesGroup d) parts ms →
      parts ≠ [] → ∃ t, whereClause parts = " WHERE " ++ t ∧
        WritesGroup d t fun env => Truth.all (ms.map (· env))
  | [], _, _, hne => absurd rfl hne
  | [p], [_], .cons h .nil, _ => ⟨p, rfl, h.congr fun env => (Truth.and_true _).symm⟩
  | p :: q :: ps, ms, h, _ => by
    have htext : whereClause (p :: q :: ps) =
        " WHERE " ++ ("( " ++ " ) AND ( ".intercalate (p :: q :: ps) ++ " )") := by
      rw [whereClause_cons_cons, ← String.toList_inj]
      simp only [String.toList_append, List.append_assoc]
      rfl
    refine ⟨_, htext, ?_⟩
    rw [parens_intercalate]
    have hparens :
        List.Forall₂ (WritesConj d) ((p :: q :: ps).map fun c => "( " ++ c ++ " )") ms :=
      List.forall₂_map_left_iff.mpr (h.imp fun _ _ hg => hg.padParen.conj)
    exact (writesConj_intercalate hparens (by simp)).group

namespace QueryState

theorem aliasColumn_write (s : QueryState) (hesc : s.disableEscaping = false) (a : Alias)
    (p : Bool) (column : String) :
    s.aliasColumn a p column = ColumnRef.write s.dialect ⟨if p then some a.name else none, column⟩ := by
  cases p <;> simp [aliasColumn, escape, hesc, ColumnRef.write]

theorem deletedFilter_writes (s : QueryState) (hesc : s.disableEscaping = false) (p : Bool)
    (main : Alias) (e : Entity) :
    ∃ ms, List.Forall₂ (WritesGroup s.dialect) (s.deletedFilter main e p) ms := by
  unfold deletedFilter
  split
  · cases e.deleteDateColumn? with
    | none => exact ⟨[], .nil⟩
    | some c =>
      have hw := (BoundOp.writesConj_isNull (d := s.dialect)
        (r := ⟨if p then some main.name else none, c.databaseName⟩) false (l := " IS NULL")
        rfl).group
      rw [← s.aliasColumn_write hesc] at hw
      exact ⟨_, .cons hw .nil⟩
  · exact ⟨[], .nil⟩

theorem typeFilter_writes (s : QueryState) (hesc : s.disableEscaping = false) (p : Bool)
    (main : Alias) (e : Entity) :
    ∃ ms, List.Forall₂ (WritesGroup s.dialect) (s.typeFilter main e p) ms := by
  unfold typeFilter
  split
  · cases e.discriminatorColumn? with
    | none => exact ⟨[], .nil⟩
    | some c =>
      have htext : s.aliasColumn main p c.databaseName ++ " IN (:...discriminatorColumnValues)" =
          ColumnRef.write s.dialect ⟨if p then some main.name else none, c.databaseName⟩ ++
            " IN (:..." ++ "discriminatorColumnValues" ++ ")" := by
        rw [s.aliasColumn_write hesc, ← String.toList_inj]
        simp only [String.toList_append, List.append_assoc]
        rfl
      have hw := (BoundOp.writesConj_inList (d := s.dialect)
        (r := ⟨if p then some main.name else none, c.databaseName⟩) false (l := " IN (:...")
        rfl (p := "discriminatorColumnValues") (by decide)).group
      rw [← htext] at hw
      exact ⟨_, .cons hw .nil⟩
  · exact ⟨[], .nil⟩

theorem impliedConditions_writes (s : QueryState) (hesc : s.disableEscaping = false) (p : Bool) :
    ∃ ms, List.Forall₂ (WritesGroup s.dialect) (s.impliedConditions p) ms := by
  unfold impliedConditions
  cases s.mainAlias with
  | error _ => exact ⟨[], .nil⟩
  | ok main =>
    dsimp only
    cases main.entity with
    | none => exact ⟨[], .nil⟩
    | some e =>
      obtain ⟨ms, hms⟩ := s.deletedFilter_writes hesc p main e
      obtain ⟨ms', hms'⟩ := s.typeFilter_writes hesc p main e
      exact ⟨ms ++ ms', List.rel_append hms hms'⟩

end QueryState

end EntitySql
