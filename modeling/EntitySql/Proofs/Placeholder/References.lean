import EntitySql.Proofs.Placeholder.Pieces
import EntitySql.Proofs.Placeholder.Expansion

/-!
# The references of texts built from pieces

`NamesBound` says that every name a text refers to has a value. Which values binding writes,
and in what order, depends on the references themselves. `ReadsAs d F text rs` says that `text`
is read as tokens whose references, in order, are `rs`, whatever text allowed by `F` follows
it. It composes along concatenation, parentheses and joining by a separator, the ways a
statement is written.

For a whole text whose references name bound values and spread none, `ReadsAs.bindNamed` says
what binding gives: it succeeds, and the placeholders it writes are filled, in order, with the
values of the names referred to. Where placeholders carry no position, these are exactly the
values bound after the native ones (`Writes.values_eq`).
-/

namespace EntitySql

namespace Placeholder

open Sql (Boundary isName)

def Token.ref? : Token → Option (String × Bool)
  | .text _ => none
  | .ref name spread => some (name, spread)

@[simp] theorem filterMap_ref_text (cs : List Char) (ts : List Token) :
    (Token.text cs :: ts).filterMap Token.ref? = ts.filterMap Token.ref? := rfl

@[simp] theorem filterMap_ref_ref (name : String) (spread : Bool) (ts : List Token) :
    (Token.ref name spread :: ts).filterMap Token.ref? = (name, spread) :: ts.filterMap Token.ref? :=
  rfl

/-- `text` is read as tokens with the references `rs`, in order, whatever follows it among the
texts `F` allows. -/
def ReadsAs (d : Dialect) (F : List Char → Prop) (text : List Char)
    (rs : List (String × Bool)) : Prop :=
  ∃ ts : List Token, ts.filterMap Token.ref? = rs ∧
    ∀ rest, F rest → tokens d (text ++ rest) = ts ++ tokens d rest

def NotClosing (d : Dialect) (rest : List Char) : Prop := rest.head? ≠ some d.quoteChars.2

theorem Boundary.notClosing {rest : List Char} (h : Boundary rest) (d : Dialect) :
    NotClosing d rest :=
  Sql.Boundary.not_quote h d

section ReadsAs

variable {d : Dialect} {F G : List Char → Prop} {rs rs' : List (String × Bool)}

theorem ReadsAs.mono {text : List Char} (h : ReadsAs d F text rs)
    (hG : ∀ rest, G rest → F rest) : ReadsAs d G text rs := by
  obtain ⟨ts, hts, htok⟩ := h
  exact ⟨ts, hts, fun rest hrest => htok rest (hG rest hrest)⟩

theorem ReadsAs.append {a b : List Char} (ha : ReadsAs d F a rs) (hb : ReadsAs d G b rs')
    (hstart : ∀ rest, G rest → F (b ++ rest)) : ReadsAs d G (a ++ b) (rs ++ rs') := by
  obtain ⟨ts, hts, hta⟩ := ha
  obtain ⟨us, hus, htb⟩ := hb
  refine ⟨ts ++ us, by rw [List.filterMap_append, hts, hus], fun rest hrest => ?_⟩
  rw [List.append_assoc, hta _ (hstart rest hrest), htb rest hrest, List.append_assoc]

theorem readsAs_nil : ReadsAs d F [] [] :=
  ⟨[], rfl, fun _ _ => rfl⟩

theorem readsAs_plain {cs : List Char} (hcs : ∀ c ∈ cs, closingQuote d c = none ∧ c ≠ ':') :
    ReadsAs d F cs [] := by
  refine ⟨cs.map fun c => .text [c], ?_, fun rest _ => tokens_plainText hcs rest⟩
  simp [List.filterMap_map, Function.comp_def, Token.ref?]

theorem ReadsAs.plain_append {cs b : List Char}
    (hcs : ∀ c ∈ cs, closingQuote d c = none ∧ c ≠ ':') (hb : ReadsAs d F b rs) :
    ReadsAs d F (cs ++ b) rs := by
  have hplain : ReadsAs d (fun _ => True) cs [] := readsAs_plain hcs
  simpa using hplain.append hb fun _ _ => trivial

theorem readsAs_escape (name : String) (hF : ∀ rest, F rest → NotClosing d rest) :
    ReadsAs d F (d.escape name).toList [] :=
  ⟨[.text (d.escape name).toList], rfl, fun rest hrest => tokens_escape d name (hF rest hrest)⟩

theorem readsAs_ref {p : String} (hp : isName p.toList = true)
    (hF : ∀ rest, F rest → ∀ c ∈ rest.head?, isNameChar c = false ∧ c ≠ '.') :
    ReadsAs d F (':' :: p.toList) [(p, false)] :=
  ⟨[.ref p false], rfl, fun rest hrest => tokens_ref d hp (hF rest hrest)⟩

theorem ReadsAs.paren {t : List Char} (h : ReadsAs d G t rs) (hG : ∀ more, G (')' :: more)) :
    ReadsAs d F ('(' :: (t ++ [')'])) rs := by
  have hopen : ∀ c ∈ ['('], closingQuote d c = none ∧ c ≠ ':' :=
    plain_of_all (by cases d <;> decide)
  have hclose : ReadsAs d F [')'] [] := readsAs_plain (plain_of_all (by cases d <;> decide))
  simpa using (h.append hclose fun rest _ => hG rest).plain_append hopen

theorem ReadsAs.intercalate {sep : String}
    (hsep : ∀ c ∈ sep.toList, closingQuote d c = none ∧ c ≠ ':')
    (hG : ∀ more, G (sep.toList ++ more)) (hF : ∀ rest, F rest → G rest) :
    ∀ {parts : List (String × List (String × Bool))},
      (∀ p ∈ parts, ReadsAs d G p.1.toList p.2) →
      ReadsAs d F (sep.intercalate (parts.map Prod.fst)).toList (parts.flatMap Prod.snd)
  | [], _ => readsAs_nil
  | [p], h => by simpa using (h p (by simp)).mono hF
  | p :: q :: ps, h => by
    have hrest : ReadsAs d F (sep.intercalate ((q :: ps).map Prod.fst)).toList
        ((q :: ps).flatMap Prod.snd) :=
      ReadsAs.intercalate hsep hG hF fun x hx => h x (List.mem_cons_of_mem p hx)
    have hjoin := (h p List.mem_cons_self).append (hrest.plain_append hsep) fun rest _ => by
      rw [List.append_assoc]
      exact hG _
    have htext : (sep.intercalate ((p :: q :: ps).map Prod.fst)).toList =
        p.1.toList ++ (sep.toList ++ (sep.intercalate ((q :: ps).map Prod.fst)).toList) := by
      simp only [List.map_cons, String.intercalate_cons_cons, String.toList_append,
        List.append_assoc]
    rw [htext, List.flatMap_cons]
    exact hjoin

/-- Characters that open no quote and are no colon in any dialect: letters, digits, blanks and the
punctuation statements are written with. -/
def safeChar (c : Char) : Bool :=
  c.isAlphanum || c == ' ' || c == ',' || c == '.' || c == '(' || c == ')' || c == '=' || c == '_'

theorem plain_of_safe {cs : List Char} (h : cs.all safeChar = true) :
    ∀ c ∈ cs, closingQuote d c = none ∧ c ≠ ':' := by
  intro c hc
  have hs : safeChar c = true := List.all_eq_true.1 h c hc
  have hne : ∀ q, safeChar q = false → c ≠ q := by
    rintro q hq rfl
    rw [hs] at hq
    cases hq
  have hopen : c ≠ d.quoteChars.1 := by
    cases d <;> exact hne _ (by decide)
  refine ⟨?_, hne ':' (by decide)⟩
  unfold closingQuote
  rw [if_neg (hne '\'' (by decide)), if_neg hopen, if_neg (hne '"' (by decide))]

theorem notClosing_of_safe {c : Char} (more : List Char) (h : safeChar c = true) :
    NotClosing d (c :: more) := by
  intro hc
  have hclose : c = d.quoteChars.2 := Option.some.inj hc
  cases d <;> simp only [Dialect.quoteChars] at hclose <;> subst hclose <;> cases h

theorem notClosing_safe_append (s : String) (hs : s.toList.all safeChar = true)
    (hne : s.toList ≠ []) (rest : List Char) : NotClosing d (s.toList ++ rest) := by
  obtain ⟨c, more, hsc⟩ := List.exists_cons_of_ne_nil hne
  rw [hsc]
  exact notClosing_of_safe _ (List.all_eq_true.1 hs c (by simp [hsc]))

theorem ReadsAs.safe_append {s : String} {b : List Char} (hs : s.toList.all safeChar = true)
    (hb : ReadsAs d F b rs) : ReadsAs d F (s.toList ++ b) rs :=
  hb.plain_append (plain_of_safe hs)

theorem ReadsAs.parenthesized {t : String} (h : ReadsAs d G t.toList rs)
    (hG : ∀ more, G (')' :: more)) : ReadsAs d F ("(" ++ t ++ ")").toList rs := by
  simpa [String.toList_append] using h.paren hG

theorem readsAs_join {sep : String} (hsep : sep.toList.all safeChar = true) (hne : sep.toList ≠ [])
    {items : List String} (h : ∀ x ∈ items, ReadsAs d (NotClosing d) x.toList []) :
    ReadsAs d (NotClosing d) (sep.intercalate items).toList [] := by
  obtain ⟨c, more, hsc⟩ := List.exists_cons_of_ne_nil hne
  have hc : safeChar c = true := List.all_eq_true.1 hsep c (by simp [hsc])
  let parts : List (String × List (String × Bool)) := items.map fun x => (x, [])
  have hparts : ∀ p ∈ parts, ReadsAs d (NotClosing d) p.1.toList p.2 := by simpa [parts] using h
  have hjoin : ReadsAs d (NotClosing d) (sep.intercalate (parts.map Prod.fst)).toList
      (parts.flatMap Prod.snd) :=
    ReadsAs.intercalate (plain_of_safe hsep)
      (fun rest => by rw [hsc]; exact notClosing_of_safe _ hc) (fun _ hr => hr) hparts
  have hnil : parts.flatMap Prod.snd = [] := List.flatMap_eq_nil_iff.2 (by simp [parts])
  rw [hnil] at hjoin
  simpa [parts, List.map_map, Function.comp_def] using hjoin

end ReadsAs

/-! ### What binding a whole text writes -/

section Binding

variable {d : Dialect} {named : List (String × Value)}

theorem firstMissing_eq_find? : ∀ ts : List Token, firstMissing named ts =
    ((ts.filterMap Token.ref?).find? fun r => (named.lookup r.1).isNone).map Prod.fst
  | [] => rfl
  | .text _ :: ts => by simpa [firstMissing] using firstMissing_eq_find? ts
  | .ref n _ :: ts => by
    cases hv : named.lookup n <;> simp [firstMissing, hv, firstMissing_eq_find? ts]

theorem filterMap_getRight_expand (named : List (String × Value)) :
    ∀ {ts : List Token}, (∀ r ∈ ts.filterMap Token.ref?, r.2 = false) →
      (ts.flatMap (Token.expand named)).filterMap Sum.getRight? =
        (ts.filterMap Token.ref?).map fun r => (named.lookup r.1).getD .null
  | [], _ => rfl
  | .text cs :: ts, h => by
    have hrefs : ∀ r ∈ ts.filterMap Token.ref?, r.2 = false := by simpa using h
    have hts := filterMap_getRight_expand named hrefs
    simp [Token.expand, List.filterMap_append, List.filterMap_map, hts, Function.comp_def]
  | .ref n sp :: ts, h => by
    have hsp : sp = false := h (n, sp) (by simp)
    subst hsp
    have hrefs : ∀ r ∈ ts.filterMap Token.ref?, r.2 = false := fun r hr => h r (by simp [hr])
    have hts := filterMap_getRight_expand named hrefs
    simp [Token.expand, hts]

/-- Binding a whole text whose references name values and spread none succeeds, and its
placeholders are filled, in order, with the values of the names referred to. -/
theorem ReadsAs.bindNamed {sql : String} {names : List String}
    (h : ReadsAs d (· = []) sql.toList (names.map fun n => (n, false)))
    (named : List (String × Value)) (native : List Value)
    (hbound : ∀ n ∈ names, (named.lookup n).isSome = true) :
    ∃ out vals, d.bindNamed sql named native = .ok (out, vals) ∧
      ∃ E, Writes d native E out vals ∧
        E.filterMap Sum.getRight? = names.map fun n => (named.lookup n).getD .null := by
  obtain ⟨ts, hts, htok⟩ := h
  have htokens : tokens d sql.toList = ts := by simpa using htok [] rfl
  have hmiss : firstMissing named ts = none := by
    rw [firstMissing_eq_find?, hts, List.find?_eq_none.2 ?_]
    · rfl
    · intro r hr
      obtain ⟨n, hn, rfl⟩ := List.mem_map.1 hr
      simpa using hbound n hn
  have hspec := (d.bindNamed_spec sql named native).2
  rw [htokens, hmiss] at hspec
  obtain ⟨out, vals, hbind, hw⟩ := hspec
  refine ⟨out, vals, hbind, _, hw, ?_⟩
  rw [filterMap_getRight_expand named (by rw [hts]; simp), hts, List.map_map]
  rfl

theorem ReadsAs.bindNamed_error {sql : String} {rs : List (String × Bool)}
    (h : ReadsAs d (· = []) sql.toList rs) (native : List Value) {r : String × Bool}
    (hr : rs.find? (fun r => (named.lookup r.1).isNone) = some r) :
    d.bindNamed sql named native = .error (.parameterNotFound r.1) := by
  obtain ⟨ts, hts, htok⟩ := h
  have htokens : tokens d sql.toList = ts := by simpa using htok [] rfl
  have hmiss : firstMissing named ts = some r.1 := by
    rw [firstMissing_eq_find?, hts, hr]
    rfl
  have hspec := (d.bindNamed_spec sql named native).2
  rw [htokens, hmiss] at hspec
  exact hspec

end Binding

theorem filterMap_getRight_fill (vals : List Value) (ps : List Piece) :
    (ps.map (Piece.fill vals)).filterMap Sum.getRight? = (slots ps).map fun k => vals.getD k .null := by
  induction ps with
  | nil => rfl
  | cons p ps ih =>
    cases p with
    | inl c => exact ih
    | inr k => exact congrArg (List.cons _) ih

/-- Where placeholders carry no position, the values bound are the native ones followed by
those the placeholders are filled with, in order. -/
theorem Writes.values_eq {d : Dialect} {native : List Value} {E : List (Char ⊕ Value)}
    {out : String} {vals : List Value} (h : Writes d native E out vals)
    (hd : d.reusesPlaceholders = false) : vals = native ++ E.filterMap Sum.getRight? := by
  obtain ⟨hpre, ps, -, -, hfill, hnum⟩ := h
  obtain ⟨more, rfl⟩ := hpre
  rw [← hfill, filterMap_getRight_fill, hnum hd, List.length_append, Nat.add_sub_cancel_left, map_getD_range']

end Placeholder

end EntitySql
