import EntitySql.Proofs.Placeholder.Within
import EntitySql.Proofs.Query.ReferenceRewriting

/-!
# Rewriting property references keeps the parameter references

`PropertyNames.replace` writes each chain `alias.path` of a raw text that names one column as
the quoted column, before the statement's parameters are bound. Writing a column adds no
parameter reference and takes none away: the scanner of references reads the chain as plain
characters, a reference `:name` starts no chain, and a quoted column refers to nothing. So a clean
text still refers, once rewritten, to the names it referred to, whatever separating text follows
it (`Clean.replace`).

The two readers agree on where quoted runs are only when no lone backquote stands outside a run,
since the rewriter takes a backquote for a quote in every dialect; and a closing identifier quote
outside a run would join a written column to the text after it. A written column may meet a
quoted run of its own quote; the scanner then reads the two as one run, which ends where the
second one ends, so what follows is read as before (`refs_run_append`).
-/

namespace EntitySql

namespace Placeholder

open PropertyNames

/-! ### Quoted runs and quoted names refer to nothing -/

/-- A closed quoted run refers to nothing and leaves what follows alone. A closing quote right
after it, where that quote opens runs too, joins the two runs into one that ends where the
second would have. -/
theorem refs_run_append {d : Dialect} {c q : Char} (hq : closingQuote d c = some q)
    (inner Y : List Char) (hY : Y.head? = some q → closingQuote d q = some q) :
    refs d (c :: (Sql.doubled q inner ++ [q]) ++ Y) = refs d Y := by
  rw [List.cons_append, refs, tokens_cons, List.append_assoc, List.singleton_append]
  simp only [lexOne, hq, spanQuoted_doubled_append, List.filterMap_cons, Token.ref?]
  cases Y with
  | nil => simp [spanQuoted, refs]
  | cons y Y' =>
    by_cases hy : y = q
    · subst hy
      rw [refs, tokens_cons]
      simp [spanQuoted, lexOne, hY rfl, Token.ref?]
    · simp [spanQuoted, hy, refs]

theorem refs_escape_append (d : Dialect) (name : String) (Y : List Char)
    (hY : Y.head? = some d.quoteChars.2 → closingQuote d d.quoteChars.2 = some d.quoteChars.2) :
    refs d ((d.escape name).toList ++ Y) = refs d Y := by
  have hopen : closingQuote d d.quoteChars.1 = some d.quoteChars.2 := by
    cases d <;> decide
  rw [Sql.escape_toList]
  exact refs_run_append hopen _ Y hY

theorem refsWithin_escape {d : Dialect} {F : List Char → Prop} {N : String → Prop} (name : String)
    (hF : ∀ rest, F rest → rest.head? = some d.quoteChars.2 →
      closingQuote d d.quoteChars.2 = some d.quoteChars.2) :
    RefsWithin d F N (d.escape name).toList :=
  ⟨[], fun _ h => absurd h List.not_mem_nil, fun rest hrest =>
    refs_escape_append d name rest (hF rest hrest)⟩

/-! ### Where the two readers see quotes -/

theorem quoteClose_of_closingQuote {d : Dialect} {c q : Char} (h : closingQuote d c = some q) :
    quoteClose d c = some q := by
  unfold closingQuote at h
  unfold quoteClose
  split_ifs at h ⊢ <;> injection h with h <;> subst h <;> simp_all

theorem closingQuote_eq_none {d : Dialect} {c : Char} (h : quoteClose d c = none) :
    closingQuote d c = none := by
  cases hc : closingQuote d c with
  | none => rfl
  | some q =>
    rw [quoteClose_of_closingQuote hc] at h
    cases h

theorem backquote_of_quoteClose {d : Dialect} {c q : Char} (h : quoteClose d c = some q)
    (hn : closingQuote d c = none) : c = '`' := by
  unfold closingQuote at hn
  unfold quoteClose at h
  split_ifs at h hn
  simp_all

theorem closingQuote_self_of_open {d : Dialect} {c q : Char} (h : closingQuote d c = some q)
    (hq : q = d.quoteChars.1) : closingQuote d q = some q := by
  subst hq
  cases d <;> simp only [Dialect.quoteChars] at h ⊢ <;>
    first | decide | (unfold closingQuote at h; split_ifs at h <;> simp_all [Dialect.quoteChars])

theorem closingQuote_close (d : Dialect) :
    closingQuote d d.quoteChars.2 = some d.quoteChars.2 ∨ closingQuote d d.quoteChars.2 = none := by
  cases d <;> decide

theorem quoteClose_of_isNameChar {d : Dialect} {x : Char} (hx : isNameChar x = true) :
    quoteClose d x = none := by
  have hne : ∀ y, isNameChar y = false → x ≠ y := fun y hy h => by simp_all
  have hopen : x ≠ d.quoteChars.1 := by cases d <;> exact hne _ (by decide)
  simp [quoteClose, hne '\'' (by decide), hne '"' (by decide), hne '`' (by decide), hopen]

/-! ### What rewriting copies -/

def isRefChar (x : Char) : Bool := isNameChar x || x == '.' || x == ':'

theorem quoteClose_of_isRefChar {d : Dialect} {x : Char} (hx : isRefChar x = true) :
    quoteClose d x = none := by
  simp only [isRefChar, Bool.or_eq_true, beq_iff_eq] at hx
  rcases hx with (hx | rfl) | rfl
  · exact quoteClose_of_isNameChar hx
  · exact quoteClose_dot d
  · cases d <;> decide

theorem blocksChain_of_isRefChar {x : Char} (hx : isRefChar x = true) :
    blocksChain (some x) = true := by
  simp only [isRefChar, Bool.or_eq_true, beq_iff_eq] at hx
  simp only [blocksChain, decide_eq_true_eq]
  tauto

theorem rewrite_blocked {d : Dialect} {as : Aliases} {p : Bool} :
    ∀ (W : List Char) {prev : Option Char} (v : List Char), (∀ x ∈ W, isRefChar x = true) →
      blocksChain prev = true →
      rewrite d as p prev (W ++ v) = W ++ rewrite d as p (W.getLast?.or prev) v
  | [], prev, v, _, _ => by simp
  | x :: W, prev, v, hW, hb => by
    have hx := hW x List.mem_cons_self
    rw [List.cons_append, rewrite_char (quoteClose_of_isRefChar hx) (.inr hb),
      rewrite_blocked W v (fun y hy => hW y (List.mem_cons_of_mem x hy))
        (blocksChain_of_isRefChar hx)]
    cases W with
    | nil => simp
    | cons y W => simp [List.getLast?_cons]

theorem rewrite_head {d : Dialect} {as : Aliases} {p : Bool} (prev : Option Char) (z : Char)
    (zs : List Char) :
    (rewrite d as p prev (z :: zs)).head? = some z ∨
      (rewrite d as p prev (z :: zs)).head? = some d.quoteChars.1 := by
  rcases hq : quoteClose d z with _ | q
  · by_cases hchain : isChainStart z = true ∧ blocksChain prev = false
    · rw [rewrite_chain hchain.1 hchain.2]
      cases hcol : (Piece.chain (spanChain (z :: zs)).1
          ((spanChain (z :: zs)).2.head? = some '(')).column? d as p with
      | none =>
        left
        have hz : isNameChar z = true := isNameChar_of_isChainStart hchain.1
        rw [Piece.write_eq_source hcol]
        simp [Piece.source, spanChain, hz]
      | some r =>
        right
        obtain ⟨a, col, hr⟩ := resolve_eq_some (Piece.column?_eq_some hcol).choose_spec
        rw [Piece.write_eq_column hcol, hr]
        cases p <;> simp [Sql.escape_toList]
    · left
      have hc : isChainStart z = false ∨ blocksChain prev = true := by
        cases h1 : isChainStart z <;> cases h2 : blocksChain prev <;> simp_all
      rw [rewrite_char hq hc]
      rfl
  · left
    rw [rewrite_quoted hq]
    rfl

theorem rewrite_head_of_not_chain {d : Dialect} {as : Aliases} {p : Bool} {z : Char}
    (hz : isChainStart z = false) (prev : Option Char) (zs : List Char) :
    (rewrite d as p prev (z :: zs)).head? = some z := by
  rcases hq : quoteClose d z with _ | q
  · rw [rewrite_char hq (.inl hz)]
    rfl
  · rw [rewrite_quoted hq]
    rfl

theorem head_rewrite_append {d : Dialect} {as : Aliases} {p : Bool} {prev : Option Char}
    {cs R : List Char} {y : Char} (h : (rewrite d as p prev cs ++ R).head? = some y) :
    cs.head? = some y ∨ (cs ≠ [] ∧ y = d.quoteChars.1) ∨ (cs = [] ∧ R.head? = some y) := by
  cases cs with
  | nil => simp_all
  | cons z zs =>
    have hne : rewrite d as p prev (z :: zs) ≠ [] := by
      rcases @rewrite_head d as p prev z zs with hz | hz <;> intro h0 <;>
        simp [h0] at hz
    obtain ⟨w, ws, hw⟩ := List.exists_cons_of_ne_nil hne
    rw [hw, List.cons_append, List.head?_cons, Option.some.injEq] at h
    subst h
    rcases @rewrite_head d as p prev z zs with hz | hz <;> rw [hw] at hz <;>
      simp_all

/-! ### Rewriting keeps the references -/

section Keeps

variable {d : Dialect} {as : Aliases} {p : Bool}

/-- Rewriting `cs` after any character keeps the references read from it, when it is closed and
well quoted, before any separating text. -/
def KeepsRefs (d : Dialect) (as : Aliases) (p : Bool) (cs : List Char) : Prop :=
  ∀ prev, Closed d cs → WellQuoted d cs → ∀ R, Sep d R →
    refs d (rewrite d as p prev cs ++ R) = refs d (cs ++ R)

theorem WellQuoted.of_tokens {cs v : List Char} {ts : List Token} (h : WellQuoted d cs)
    (hcs : tokens d cs = ts ++ tokens d v) : WellQuoted d v :=
  fun t ht => h t (by rw [hcs]; exact List.mem_append_right ts ht)

theorem WellQuoted.of_tokens_cons {cs v : List Char} {t : Token} (h : WellQuoted d cs)
    (hcs : tokens d cs = t :: tokens d v) : WellQuoted d v :=
  fun t' ht => h t' (by rw [hcs]; exact List.mem_cons_of_mem t ht)

theorem Closed.first_tokens {c : Char} {rest : List Char} (hcl : Closed d (c :: rest)) :
    ∃ t v, lexOne d c rest = (t, v) ∧ (∀ s, Sep d s → lexOne d c (rest ++ s) = (t, v ++ s)) ∧
      Closed d v ∧ tokens d (c :: rest) = t :: tokens d v := by
  obtain ⟨t, v, hl, hv⟩ := hcl.first
  have hlex : lexOne d c rest = (t, v) := by simpa using hl [] (sep_nil d)
  exact ⟨t, v, hlex, hl, hv, by rw [tokens_cons, hlex]⟩

theorem keepsRefs_quoted {c q : Char} (hqc : quoteClose d c = some q) (rest : List Char)
    (ih : KeepsRefs d as p (spanQuoted q rest).2) : KeepsRefs d as p (c :: rest) := by
  intro prev hcl hwq R hR
  have hcq : closingQuote d c = some q := by
    cases hc : closingQuote d c with
    | some q' =>
      rw [quoteClose_of_closingQuote hc] at hqc
      exact hqc ▸ rfl
    | none =>
      have hb := backquote_of_quoteClose hqc hc
      have hcolon : c ≠ ':' := by rw [hb]; decide
      exact absurd (tokens_plain hc hcolon rest ▸ List.mem_cons_self) fun h =>
        (hwq _ h).1 (by rw [hb])
  obtain ⟨t, v, hlex, hl, hv, htok⟩ := hcl.first_tokens
  have hspan : lexOne d c rest = (.text (c :: (spanQuoted q rest).1), (spanQuoted q rest).2) := by
    simp [lexOne, hcq]
  rw [hspan] at hlex
  obtain ⟨rfl, rfl⟩ := Prod.mk.inj hlex
  obtain ⟨⟨inner, hrun⟩, -⟩ := quotedRun_spanQuoted q rest
  rcases hrun with ⟨ha, hb⟩ | ⟨ha, hb⟩
  · -- the run closes: what the rewriter writes after it starts with no quote that would join it
    have hY : (rewrite d as p (c :: (spanQuoted q rest).1).getLast? (spanQuoted q rest).2 ++ R).head?
        = some q → closingQuote d q = some q := by
      intro hhead
      rcases head_rewrite_append hhead with hv' | ⟨-, hopen⟩ | ⟨-, hR'⟩
      · exact absurd hv' hb
      · exact closingQuote_self_of_open hcq hopen
      · exact absurd rfl (isSep_ne_close hcq (hR q hR'))
    rw [rewrite_quoted hqc]
    generalize (c :: (spanQuoted q rest).1).getLast? = prev' at hY ⊢
    rw [ha, List.append_assoc, refs_run_append hcq inner _ hY,
      ih _ hv (hwq.of_tokens_cons htok) R hR, List.cons_append, refs_cons, hl R hR]
    rfl
  · -- a run left open would take in a blank after the text
    have h1 := hl [' '] (sep_space d [])
    have hrest : rest = Sql.doubled q inner := by
      rw [← ha]
      simpa [hb] using (quotedRun_spanQuoted q rest).2.symm
    rw [hrest] at h1
    simp only [lexOne, hcq, spanQuoted_doubled_append] at h1
    have hspace : ' ' ≠ q := fun h => isSep_ne_close hcq (isSep_space d) h
    simp [spanQuoted, hspace] at h1

theorem close_after_rewrite {prev : Option Char} {v R : List Char} (hwq : WellQuoted d v)
    (hR : Sep d R) (h : (rewrite d as p prev v ++ R).head? = some d.quoteChars.2) :
    closingQuote d d.quoteChars.2 = some d.quoteChars.2 := by
  rcases head_rewrite_append h with hv | ⟨-, hopen⟩ | ⟨-, hR'⟩
  · rcases closingQuote_close d with hself | hnone
    · exact hself
    · -- a lone closing quote would be a token of the text
      obtain ⟨w, rfl⟩ : ∃ w, v = d.quoteChars.2 :: w := by
        cases v with
        | nil => simp at hv
        | cons x w => simp only [List.head?_cons, Option.some.injEq] at hv; exact ⟨w, hv ▸ rfl⟩
      have hcolon : d.quoteChars.2 ≠ ':' := by cases d <;> decide
      exact absurd (tokens_plain hnone hcolon w ▸ List.mem_cons_self) fun hm => (hwq _ hm).2 rfl
  · have hself : closingQuote d d.quoteChars.1 = some d.quoteChars.2 := by cases d <;> decide
    rw [hopen] at hself ⊢
    exact hself
  · exact Sep.not_close hR hR'

theorem mem_spanChain {x : Char} : ∀ {cs : List Char}, x ∈ (spanChain cs).1 →
    isNameChar x = true ∨ x = '.'
  | [], h => by simp [spanChain] at h
  | c :: rest, h => by
    simp only [spanChain] at h
    split at h
    · next hc =>
      rcases List.mem_cons.1 h with rfl | h
      · rcases hc with hc | ⟨hc, -⟩
        · exact .inl hc
        · exact .inr hc
      · exact mem_spanChain h
    · simp at h

theorem keepsRefs_chain {c : Char} (hc : isChainStart c = true) {prev : Option Char}
    (hfree : blocksChain prev = false) {rest : List Char}
    (ih : KeepsRefs d as p (spanChain (c :: rest)).2) (hcl : Closed d (c :: rest))
    (hwq : WellQuoted d (c :: rest)) {R : List Char} (hR : Sep d R) :
    refs d (rewrite d as p prev (c :: rest) ++ R) = refs d (c :: rest ++ R) := by
  have hsplit := spanChain_append_eq (c :: rest)
  have hplain : ∀ x ∈ (spanChain (c :: rest)).1, closingQuote d x = none ∧ x ≠ ':' := by
    intro x hx
    rcases mem_spanChain hx with hx | rfl
    · exact ⟨closingQuote_eq_none (quoteClose_of_isNameChar hx), fun h => by simp [h] at hx; cases hx⟩
    · exact ⟨by cases d <;> decide, by decide⟩
  have htoks : ∀ Y, tokens d ((spanChain (c :: rest)).1 ++ Y) =
      (spanChain (c :: rest)).1.map (fun x => Token.text [x]) ++ tokens d Y :=
    fun Y => tokens_plainText hplain Y
  have hrefs : ∀ Y, refs d ((spanChain (c :: rest)).1 ++ Y) = refs d Y := by
    intro Y
    rw [refs, refs, htoks, List.filterMap_append]
    simp [List.filterMap_map, Function.comp_def, Token.ref?]
  have hcl' : Closed d (spanChain (c :: rest)).2 := by
    unfold Closed at hcl ⊢
    rw [← hsplit, List.append_assoc, htoks, htoks, List.append_assoc] at hcl
    exact List.append_cancel_left hcl
  have htok : tokens d (c :: rest) = (spanChain (c :: rest)).1.map (fun x => Token.text [x]) ++
      tokens d (spanChain (c :: rest)).2 := by
    conv_lhs => rw [← hsplit]
    exact htoks _
  have hwq' : WellQuoted d (spanChain (c :: rest)).2 := hwq.of_tokens htok
  have hY : (rewrite d as p (spanChain (c :: rest)).1.getLast? (spanChain (c :: rest)).2 ++ R).head?
      = some d.quoteChars.2 → closingQuote d d.quoteChars.2 = some d.quoteChars.2 :=
    close_after_rewrite hwq' hR
  conv_rhs => rw [← hsplit, List.append_assoc, hrefs]
  rw [rewrite_chain hc hfree, List.append_assoc, ← ih (spanChain (c :: rest)).1.getLast? hcl' hwq' R hR]
  generalize rewrite d as p (spanChain (c :: rest)).1.getLast? (spanChain (c :: rest)).2 ++ R = Y
    at hY ⊢
  cases hcol : (Piece.chain (spanChain (c :: rest)).1
      ((spanChain (c :: rest)).2.head? = some '(')).column? d as p with
  | none => rw [Piece.write_eq_source hcol, Piece.source, hrefs]
  | some r =>
    obtain ⟨a, col, hr⟩ := resolve_eq_some (Piece.column?_eq_some hcol).choose_spec
    rw [Piece.write_eq_column hcol, hr]
    cases p
    · exact refs_escape_append d col Y hY
    · have hdot : closingQuote d '.' = none := by cases d <;> decide
      have hdot' : ('.' :: (d.escape col).toList ++ Y).head? = some d.quoteChars.2 →
          closingQuote d d.quoteChars.2 = some d.quoteChars.2 := by
        intro h
        simp only [List.cons_append, List.head?_cons, Option.some.injEq] at h
        cases d <;> simp [Dialect.quoteChars] at h
      simp only [if_true, String.toList_append, List.append_assoc]
      rw [refs_escape_append d a _ (by simpa using hdot'), show (".".toList) = ['.'] from rfl,
        List.singleton_append, refs_plain hdot (by decide), refs_escape_append d col Y hY]

theorem keepsRefs_plain {c : Char} (hq : quoteClose d c = none) (hc : c ≠ ':') {prev : Option Char}
    (hblock : isChainStart c = false ∨ blocksChain prev = true) {rest : List Char}
    (ih : KeepsRefs d as p rest) (hcl : Closed d (c :: rest)) (hwq : WellQuoted d (c :: rest))
    {R : List Char} (hR : Sep d R) :
    refs d (rewrite d as p prev (c :: rest) ++ R) = refs d (c :: rest ++ R) := by
  have hcq := closingQuote_eq_none hq
  have htok : ∀ Y, tokens d (c :: Y) = .text [c] :: tokens d Y := tokens_plain hcq hc
  have hcl' : Closed d rest := by
    unfold Closed at hcl ⊢
    rw [List.cons_append, htok, htok, List.cons_append, List.cons.injEq] at hcl
    exact hcl.2
  rw [rewrite_char hq hblock, List.cons_append, List.cons_append, refs_plain hcq hc,
    refs_plain hcq hc, ih _ hcl' (hwq.of_tokens_cons (htok rest)) R hR]

theorem blocksChain_or_colon {o : Option Char} (h : ∀ x ∈ o, isRefChar x = true) :
    blocksChain (o.or (some ':')) = true := by
  cases o with
  | none => rfl
  | some x => exact blocksChain_of_isRefChar (h x rfl)

theorem keepsRefs_colon {rest : List Char}
    (ih : ∀ cs : List Char, cs.length < rest.length + 1 → KeepsRefs d as p cs)
    (prev : Option Char) (hcl : Closed d (':' :: rest)) (hwq : WellQuoted d (':' :: rest))
    {R : List Char} (hR : Sep d R) :
    refs d (rewrite d as p prev (':' :: rest) ++ R) = refs d (':' :: rest ++ R) := by
  have hPZ : rest.takeWhile isRefChar ++ rest.dropWhile isRefChar = rest :=
    List.takeWhile_append_dropWhile
  generalize hP : rest.takeWhile isRefChar = P at hPZ
  generalize hZ : rest.dropWhile isRefChar = Z at hPZ
  have hPchars : ∀ x ∈ P, isRefChar x = true := fun x hx => by
    rw [← hP] at hx
    exact List.mem_takeWhile_imp hx
  have hZstop : ∀ z ∈ Z.head?, isRefChar z = false := by
    intro z hz
    have := List.head?_dropWhile_not isRefChar rest
    rw [hZ] at this
    rw [Option.mem_def] at hz
    simpa [hz] using this
  have hstops : ∀ z ∈ Z.head?, isNameChar z = false ∧ z ≠ '.' ∧ z ≠ ':' := by
    intro z hz
    have := hZstop z hz
    simp only [isRefChar, Bool.or_eq_false_iff, beq_eq_false_iff_ne, ne_eq] at this
    exact ⟨this.1.1, this.1.2, this.2⟩
  obtain ⟨t, w, hread⟩ := lexColon_local P
  obtain ⟨P1, rfl⟩ : ∃ P1, P = P1 ++ w := by
    have hP0 : lexColon P = (t, w) := by simpa using hread [] (fun _ h => by cases h)
    have hsrc := lexColon_source P
    have hlen := lexColon_rest_length P
    rw [hP0] at hsrc hlen
    cases hts : t.source with
    | nil => rw [hts, List.nil_append] at hsrc; subst hsrc; simp at hlen
    | cons x P1 =>
      rw [hts, List.cons_append, List.cons.injEq] at hsrc
      exact ⟨P1, hsrc.2.symm⟩
  have hcolon : closingQuote d ':' = none := by cases d <;> decide
  have hlexOne : ∀ Y, Stops Y → lexOne d ':' (P1 ++ w ++ Y) = (t, w ++ Y) := fun Y hY => by
    simp only [lexOne, hcolon, ↓reduceIte]
    exact hread Y hY
  have hlex : ∀ Y, Stops Y → refs d (':' :: (P1 ++ w ++ Y)) = t.ref?.toList ++ refs d (w ++ Y) :=
    fun Y hY => by rw [refs_cons, hlexOne Y hY]
  obtain ⟨t', v, hfirst, -, hv, htok⟩ := hcl.first_tokens
  have hv' : v = w ++ Z := by
    have h1 : lexOne d ':' rest = (t, w ++ Z) := by
      rw [← hPZ]
      exact hlexOne Z hstops
    rw [hfirst] at h1
    exact (Prod.mk.inj h1).2
  subst hv'
  have hblocks : blocksChain (P1.getLast?.or (some ':')) = true :=
    blocksChain_or_colon fun x hx =>
      hPchars x (List.mem_append_left w (List.mem_of_getLast? hx))
  have hwchars : ∀ x ∈ w, isRefChar x = true := fun x hx => hPchars x (List.mem_append_right P1 hx)
  have hZR : Stops (Z ++ R) := by
    cases Z with
    | nil => exact hR.stops
    | cons z zs => exact fun x hx => by simp only [List.cons_append, List.head?_cons,
        Option.mem_def, Option.some.injEq] at hx; exact hx ▸ hstops z rfl
  have hZR' : ∀ prev', Stops (rewrite d as p prev' Z ++ R) := by
    intro prev'
    cases Z with
    | nil => simpa using hR.stops
    | cons z zs =>
      have hz := hstops z rfl
      have hchain : isChainStart z = false := by
        cases h : isChainStart z
        · rfl
        · exact absurd (isNameChar_of_isChainStart h) (by simp [hz.1])
      obtain ⟨y, ys, hys⟩ := List.exists_cons_of_ne_nil (fun h0 : rewrite d as p prev' (z :: zs) = [] => by
        simpa [h0] using @rewrite_head_of_not_chain d as p z hchain prev' zs)
      have hy := @rewrite_head_of_not_chain d as p z hchain prev' zs
      rw [hys] at hy ⊢
      simp only [List.head?_cons, Option.some.injEq] at hy
      subst hy
      exact fun x hx => by simp only [List.cons_append, List.head?_cons, Option.mem_def,
        Option.some.injEq] at hx; exact hx ▸ hz
  calc refs d (rewrite d as p prev (':' :: rest) ++ R)
      = refs d (':' :: (P1 ++ w ++ (rewrite d as p ((P1 ++ w).getLast?.or (some ':')) Z ++ R))) := by
        rw [rewrite_char (by cases d <;> decide) (.inl (by decide)), ← hPZ,
          rewrite_blocked (P1 ++ w) Z hPchars rfl]
        simp
    _ = t.ref?.toList ++ refs d (w ++ (rewrite d as p ((P1 ++ w).getLast?.or (some ':')) Z ++ R)) :=
        hlex _ (hZR' _)
    _ = t.ref?.toList ++ refs d (rewrite d as p (P1.getLast?.or (some ':')) (w ++ Z) ++ R) := by
        rw [rewrite_blocked w Z hwchars hblocks, List.getLast?_append, Option.or_assoc,
          List.append_assoc]
    _ = t.ref?.toList ++ refs d (w ++ Z ++ R) := by
        rw [ih (w ++ Z) (by simp only [List.length_append, ← hPZ]; omega) _ hv
          (hwq.of_tokens_cons htok) R hR]
    _ = refs d (':' :: rest ++ R) := by
        rw [← hPZ, List.cons_append, List.append_assoc (P1 ++ w), hlex _ hZR, List.append_assoc]

theorem keepsRefs (cs : List Char) : KeepsRefs d as p cs := by
  induction hn : cs.length using Nat.strong_induction_on generalizing cs with
  | _ n ih =>
    subst hn
    match cs with
    | [] =>
      intro prev _ _ R _
      simp
    | c :: rest =>
      rcases hqc : quoteClose d c with _ | q
      · intro prev hcl hwq R hR
        by_cases hchain : isChainStart c = true ∧ blocksChain prev = false
        · have hlt := spanChain_rest_lt c rest (isNameChar_of_isChainStart hchain.1)
          exact keepsRefs_chain hchain.1 hchain.2 (ih _ (by simpa using hlt) _ rfl) hcl hwq hR
        · have hblock : isChainStart c = false ∨ blocksChain prev = true := by
            cases h1 : isChainStart c <;> cases h2 : blocksChain prev <;> simp_all
          by_cases hcolon : c = ':'
          · subst hcolon
            exact keepsRefs_colon (fun cs h => ih _ (by simpa using h) cs rfl) prev hcl hwq hR
          · exact keepsRefs_plain hqc hcolon hblock (ih _ (by simp) rest rfl) hcl hwq hR
      · have hlt := spanQuoted_rest_length q rest
        exact keepsRefs_quoted hqc rest (ih _ (by simp; omega) _ rfl)

end Keeps

theorem Clean.rewrite {d : Dialect} {N : String → Prop} {cs : List Char} (h : Clean d N cs)
    (as : Aliases) (p : Bool) (prev : Option Char) :
    RefsWithin d (Sep d) N (PropertyNames.rewrite d as p prev cs) :=
  ⟨refs d cs, h.names, fun R hR => by
    rw [keepsRefs cs prev h.closed h.quoted R hR, refs, h.closed.tokens_append hR,
      List.filterMap_append]
    rfl⟩

/-- A clean text with its property references written as columns refers to the names it
referred to, before any separating text. -/
theorem Clean.replace {d : Dialect} {N : String → Prop} {sql : String} (h : Clean d N sql.toList)
    (as : Aliases) (p : Bool) : RefsWithin d (Sep d) N (PropertyNames.replace d as p sql).toList := by
  unfold PropertyNames.replace
  split
  · exact h.refsWithin
  · rw [String.toList_ofList]
    exact h.rewrite as p none


end Placeholder

end EntitySql
