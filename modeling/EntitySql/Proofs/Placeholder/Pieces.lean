import EntitySql.Proofs.Sql.Predicates

/-!
# Named references in texts built from pieces

`Placeholder.tokens` reads a whole text. A condition is written by joining pieces, so here each
piece is read on its own: a character that opens no quote and is no colon is a token by itself,
a name quoted by the dialect is one token when what follows does not start with its closing
quote, and `:name` or `:...name` is one reference when what follows cannot continue the name.

`NamesBound d named text` says that `text` is read as tokens whatever boundary follows it
(nothing, a blank or a closing parenthesis), each name they refer to having a value in `named`.
It composes along the ways conditions are joined, and a whole text with it binds without a
missing name (`NamesBound.firstMissing`).
-/

namespace EntitySql

namespace Sql

theorem Boundary.endsRef {rest : List Char} (h : Boundary rest) :
    ∀ c ∈ rest.head?, Placeholder.isNameChar c = false ∧ c ≠ '.' := by
  rcases h with rfl | ⟨more, rfl | rfl⟩ <;> simp <;> decide

end Sql

namespace Placeholder

open Sql (Boundary boundary_nil doubled isName)

@[simp] theorem tokens_nil (d : Dialect) : tokens d [] = [] := by
  rw [tokens]

theorem tokens_cons (d : Dialect) (c : Char) (rest : List Char) :
    tokens d (c :: rest) = (lexOne d c rest).1 :: tokens d (lexOne d c rest).2 := by
  rw [tokens]

theorem tokens_plain {d : Dialect} {c : Char} (hq : closingQuote d c = none) (hc : c ≠ ':')
    (rest : List Char) : tokens d (c :: rest) = .text [c] :: tokens d rest := by
  rw [tokens_cons]
  simp [lexOne, hq, hc]

theorem tokens_plainText {d : Dialect} :
    ∀ {cs : List Char}, (∀ c ∈ cs, closingQuote d c = none ∧ c ≠ ':') → ∀ rest,
      tokens d (cs ++ rest) = cs.map (fun c => .text [c]) ++ tokens d rest
  | [], _, rest => rfl
  | c :: cs, h, rest => by
    have hc := h c List.mem_cons_self
    rw [List.cons_append, tokens_plain hc.1 hc.2,
      tokens_plainText (fun x hx => h x (List.mem_cons_of_mem c hx))]
    rfl

theorem plain_of_all {d : Dialect} {cs : List Char}
    (h : cs.all (fun c => (closingQuote d c).isNone && c != ':') = true) :
    ∀ c ∈ cs, closingQuote d c = none ∧ c ≠ ':' := by
  intro c hc
  simpa [Option.isNone_iff_eq_none] using List.all_eq_true.1 h c hc

theorem spanQuoted_doubled (close : Char) (cs rest : List Char)
    (hrest : rest.head? ≠ some close) :
    spanQuoted close (doubled close cs ++ close :: rest) = (doubled close cs ++ [close], rest) := by
  induction cs with
  | nil =>
    cases rest with
    | nil => simp [doubled, spanQuoted]
    | cons x more =>
      have hx : x ≠ close := fun h => hrest (by simp [h])
      simp [doubled, spanQuoted, hx]
  | cons x xs ih =>
    by_cases hx : x = close
    · subst hx
      simp only [doubled] at ih ⊢
      simp [spanQuoted, ih]
    · simp only [doubled] at ih ⊢
      rw [List.flatMap_cons, if_neg hx, List.singleton_append, List.cons_append,
        spanQuoted.eq_def]
      simp [hx, ih]

theorem tokens_escape (d : Dialect) (name : String) {rest : List Char}
    (hrest : rest.head? ≠ some d.quoteChars.2) :
    tokens d ((d.escape name).toList ++ rest) = .text (d.escape name).toList :: tokens d rest := by
  have hopen : closingQuote d d.quoteChars.1 = some d.quoteChars.2 := by
    cases d <;> decide
  rw [Sql.escape_toList, List.cons_append, tokens_cons]
  simp [lexOne, hopen, spanQuoted_doubled _ _ _ hrest]

theorem trimDots_name {w rest : List Char} (hw : ∀ c ∈ w, isNameChar c = true)
    (hrest : ∀ c ∈ rest.head?, isNameChar c = false ∧ c ≠ '.') : trimDots (w ++ rest) = w := by
  have hdot : isNameChar '.' = false := by decide
  have htake : (w ++ rest).takeWhile (fun c => isNameChar c ∨ c = '.') = w := by
    rw [List.takeWhile_append_of_pos (fun c hc => by simp [hw c hc])]
    cases rest with
    | nil => simp
    | cons c more =>
      obtain ⟨hc, hcd⟩ := hrest c (by simp)
      simp [hc, hcd]
  have hlast : ∀ c ∈ w.reverse.head?, c ≠ '.' := by
    intro c hc hcd
    have hmem : c ∈ w := List.mem_reverse.1 (List.mem_of_mem_head? hc)
    rw [hcd] at hmem
    rw [hw '.' hmem] at hdot
    cases hdot
  unfold trimDots
  rw [htake]
  cases hrev : w.reverse with
  | nil =>
    obtain rfl : w = [] := List.reverse_eq_nil_iff.1 hrev
    rfl
  | cons c more =>
    have hc : c ≠ '.' := hlast c (by simp [hrev])
    rw [List.dropWhile_cons_of_neg (by simpa using hc), ← hrev, List.reverse_reverse]

theorem tokens_ref (d : Dialect) {p : String} (hp : isName p.toList = true) {rest : List Char}
    (hrest : ∀ c ∈ rest.head?, isNameChar c = false ∧ c ≠ '.') :
    tokens d (':' :: (p.toList ++ rest)) = .ref p false :: tokens d rest := by
  obtain ⟨n, w, hnw, hn, hw⟩ := Sql.isName_eq_cons hp
  have hcolon : closingQuote d ':' = none := by
    cases d <;> decide
  have hn' : n ≠ ':' ∧ n ≠ '.' := by
    constructor <;> rintro rfl <;> simp [isNameStart] at hn
  have hname : String.ofList (n :: w) = p := by rw [← hnw, String.ofList_toList]
  have hlex : lexColon (n :: (w ++ rest)) = (.ref p false, rest) := by
    rw [lexColon.eq_3 n (w ++ rest) (by simpa using hn'.1) (by simp [hn'.2])]
    simp [hn, trimDots_name hw hrest, hname]
  rw [tokens_cons, hnw]
  simp [lexOne, hcolon, List.cons_append, hlex]

theorem tokens_spreadRef (d : Dialect) {p : String} (hp : isName p.toList = true)
    {rest : List Char} (hrest : ∀ c ∈ rest.head?, isNameChar c = false ∧ c ≠ '.') :
    tokens d (':' :: '.' :: '.' :: '.' :: (p.toList ++ rest)) = .ref p true :: tokens d rest := by
  obtain ⟨n, w, hnw, hn, hw⟩ := Sql.isName_eq_cons hp
  have hcolon : closingQuote d ':' = none := by
    cases d <;> decide
  have hname : String.ofList (n :: w) = p := by rw [← hnw, String.ofList_toList]
  have hlex : lexColon ('.' :: '.' :: '.' :: n :: (w ++ rest)) = (.ref p true, rest) := by
    rw [lexColon.eq_2]
    simp [hn, trimDots_name hw hrest, hname]
  rw [tokens_cons, hnw]
  simp [lexOne, hcolon, List.cons_append, hlex]

/-! ### Names bound by pieces -/

theorem firstMissing_append (named : List (String × Value)) (ts us : List Token) :
    firstMissing named (ts ++ us) = (firstMissing named ts).or (firstMissing named us) := by
  induction ts with
  | nil => rfl
  | cons t ts ih =>
    cases t with
    | text cs => simpa [firstMissing] using ih
    | ref name spread =>
      simp only [List.cons_append, firstMissing]
      split <;> simp [ih]

theorem firstMissing_texts (named : List (String × Value)) (cs : List Char) :
    firstMissing named (cs.map fun c => .text [c]) = none := by
  induction cs with
  | nil => rfl
  | cons c cs ih => simpa [firstMissing] using ih

theorem firstMissing_tokens_of_colon_free (d : Dialect) (named : List (String × Value))
    {cs : List Char} (h : ':' ∉ cs) : firstMissing named (tokens d cs) = none := by
  have hnoref : ∀ t ∈ tokens d cs, ∀ n sp, t ≠ .ref n sp := by
    rintro t ht n sp rfl
    apply h
    rw [← tokens_source d cs]
    exact List.mem_flatMap.2 ⟨_, ht, by simp [Token.source]⟩
  generalize tokens d cs = ts at hnoref ⊢
  induction ts with
  | nil => rfl
  | cons t ts ih =>
    cases t with
    | text x => exact ih fun t' ht' => hnoref t' (List.mem_cons_of_mem _ ht')
    | ref n sp => exact absurd rfl (hnoref _ List.mem_cons_self n sp)

def NamesBound (d : Dialect) (named : List (String × Value)) (text : List Char) : Prop :=
  ∃ ts, (∀ rest, Boundary rest → tokens d (text ++ rest) = ts ++ tokens d rest) ∧
    firstMissing named ts = none

variable {d : Dialect} {named : List (String × Value)}

theorem NamesBound.firstMissing {text : List Char} (h : NamesBound d named text) :
    Placeholder.firstMissing named (tokens d text) = none := by
  obtain ⟨ts, htok, hts⟩ := h
  have hwhole := htok [] boundary_nil
  rw [List.append_nil] at hwhole
  rw [hwhole, tokens_nil, firstMissing_append, hts]
  rfl

theorem NamesBound.append {a b : List Char} (ha : NamesBound d named a)
    (hb : NamesBound d named b) (hstart : ∀ rest, Boundary rest → Boundary (b ++ rest)) :
    NamesBound d named (a ++ b) := by
  obtain ⟨ts, hta, hts⟩ := ha
  obtain ⟨us, htb, hus⟩ := hb
  refine ⟨ts ++ us, fun rest hrest => ?_, ?_⟩
  · rw [List.append_assoc, hta _ (hstart rest hrest), htb rest hrest, List.append_assoc]
  · rw [firstMissing_append, hts, hus]
    rfl

theorem NamesBound.plain {cs b : List Char} (hcs : ∀ c ∈ cs, closingQuote d c = none ∧ c ≠ ':')
    (hb : NamesBound d named b) : NamesBound d named (cs ++ b) := by
  obtain ⟨us, htb, hus⟩ := hb
  refine ⟨cs.map (fun c => .text [c]) ++ us, fun rest hrest => ?_, ?_⟩
  · rw [List.append_assoc, tokens_plainText hcs, htb rest hrest, List.append_assoc]
  · rw [firstMissing_append, firstMissing_texts, hus]
    rfl

theorem namesBound_nil : NamesBound d named [] :=
  ⟨[], fun _ _ => rfl, rfl⟩

theorem namesBound_column (r : Sql.ColumnRef) : NamesBound d named (r.write d).toList := by
  have hquote : ∀ rest, Boundary rest → rest.head? ≠ some d.quoteChars.2 :=
    fun rest hrest => Sql.Boundary.not_quote hrest d
  cases r with
  | mk q c =>
    cases q with
    | none =>
      refine ⟨[.text (d.escape c).toList], fun rest hrest => ?_, rfl⟩
      exact tokens_escape d c (hquote rest hrest)
    | some a =>
      have hdot : ∀ more, ('.' :: more).head? ≠ some d.quoteChars.2 := by
        intro more
        cases d <;> simp [Dialect.quoteChars]
      have hdotq : closingQuote d '.' = none := by
        cases d <;> decide
      refine ⟨[.text (d.escape a).toList, .text ['.'], .text (d.escape c).toList],
        fun rest hrest => ?_, rfl⟩
      simp only [Sql.ColumnRef.write, String.toList_append, List.append_assoc]
      rw [show ".".toList = ['.'] from rfl, List.singleton_append, tokens_escape d a (hdot _),
        tokens_plain hdotq (by decide), tokens_escape d c (hquote rest hrest)]
      rfl

theorem namesBound_ref {p : String} (hp : isName p.toList = true)
    (hv : (named.lookup p).isSome = true) : NamesBound d named (':' :: p.toList) := by
  refine ⟨[.ref p false], fun rest hrest => ?_, ?_⟩
  · exact tokens_ref d hp (Sql.Boundary.endsRef hrest)
  · simp [Placeholder.firstMissing, Option.isNone_iff_eq_none, ← Option.not_isSome_iff_eq_none, hv]

theorem namesBound_spreadRef {p : String} (hp : isName p.toList = true)
    (hv : (named.lookup p).isSome = true) :
    NamesBound d named (':' :: '.' :: '.' :: '.' :: p.toList) := by
  refine ⟨[.ref p true], fun rest hrest => ?_, ?_⟩
  · exact tokens_spreadRef d hp (Sql.Boundary.endsRef hrest)
  · simp [Placeholder.firstMissing, Option.isNone_iff_eq_none, ← Option.not_isSome_iff_eq_none, hv]

theorem NamesBound.paren {t : String} (h : NamesBound d named t.toList) :
    NamesBound d named ("(" ++ t ++ ")").toList := by
  have hopen : ∀ c ∈ ['('], closingQuote d c = none ∧ c ≠ ':' :=
    plain_of_all (by cases d <;> decide)
  have hclose : ∀ c ∈ [')'], closingQuote d c = none ∧ c ≠ ':' :=
    plain_of_all (by cases d <;> decide)
  have hinner : NamesBound d named (t.toList ++ [')']) :=
    h.append (by simpa using NamesBound.plain hclose namesBound_nil)
      fun rest _ => Sql.boundary_rparen rest
  simpa [String.toList_append] using NamesBound.plain hopen hinner

theorem NamesBound.intercalate {sep : String}
    (hsep : ∀ c ∈ sep.toList, closingQuote d c = none ∧ c ≠ ':')
    (hblank : ∃ more, sep.toList = ' ' :: more) :
    ∀ {texts : List String}, (∀ t ∈ texts, NamesBound d named t.toList) →
      NamesBound d named (sep.intercalate texts).toList
  | [], _ => namesBound_nil
  | [t], h => by simpa using h t (by simp)
  | t :: t' :: ts, h => by
    obtain ⟨more, hmore⟩ := hblank
    have hrest : NamesBound d named (sep.intercalate (t' :: ts)).toList :=
      NamesBound.intercalate hsep ⟨more, hmore⟩ fun x hx => h x (List.mem_cons_of_mem t hx)
    rw [String.intercalate_cons_cons, String.toList_append, String.toList_append,
      List.append_assoc]
    refine (h t List.mem_cons_self).append (NamesBound.plain hsep hrest) fun rest _ => ?_
    rw [hmore, List.cons_append, List.cons_append]
    exact Sql.boundary_space _

end Placeholder

end EntitySql
