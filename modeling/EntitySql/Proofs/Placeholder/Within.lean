import EntitySql.Proofs.Placeholder.References

/-!
# Texts whose references are bound, read in place

A statement is written by joining pieces: text the builder writes itself, and text a user gives.
`ReadsWithin d F K text` says that `text` is read as the same tokens whatever text allowed by
`F` follows it, and that these tokens refer only to names `K` holds and hold no lone quote
character of another reader (a backquote, or a closing identifier quote that opens nothing).
It composes along the ways a statement is joined, so a whole statement built from such pieces
refers only to names `K` holds.

A user's text cannot be checked against every possible follower, so it is checked once:
`Closed d text` says that a blank after it reads as one more token and changes nothing before
it. Then any follower that starts with a separating character (`Sep`) changes nothing either
(`Closed.tokens_append`): a token is decided by the text up to its end and the one character
after it, and such a character decides as a blank does.
-/

namespace EntitySql

namespace Placeholder

/-! ### Separating characters -/

def isSep (d : Dialect) (c : Char) : Bool :=
  !isNameChar c && c != '.' && c != ':' && (closingQuote d c).isNone && c != d.quoteChars.2

def Sep (d : Dialect) (rest : List Char) : Prop := ∀ c ∈ rest.head?, isSep d c = true

theorem sep_nil (d : Dialect) : Sep d [] := by
  intro c hc
  cases hc

theorem sep_cons {d : Dialect} {c : Char} (hc : isSep d c = true) (more : List Char) :
    Sep d (c :: more) := by
  intro x hx
  cases hx
  exact hc

theorem isSep_space (d : Dialect) : isSep d ' ' = true := by
  cases d <;> decide

theorem sep_space (d : Dialect) (more : List Char) : Sep d (' ' :: more) :=
  sep_cons (isSep_space d) more

theorem isSep_spec {d : Dialect} {c : Char} (h : isSep d c = true) :
    isNameChar c = false ∧ c ≠ '.' ∧ c ≠ ':' ∧ closingQuote d c = none ∧ c ≠ d.quoteChars.2 := by
  simp only [isSep, Bool.and_eq_true, Bool.not_eq_eq_eq_not, Bool.not_true, bne_iff_ne, ne_eq,
    Option.isNone_iff_eq_none] at h
  exact ⟨h.1.1.1.1, h.1.1.1.2, h.1.1.2, h.1.2, h.2⟩

def Stops (rest : List Char) : Prop := ∀ c ∈ rest.head?, isNameChar c = false ∧ c ≠ '.' ∧ c ≠ ':'

theorem Sep.stops {d : Dialect} {rest : List Char} (h : Sep d rest) : Stops rest := by
  intro c hc
  obtain ⟨h1, h2, h3, -⟩ := isSep_spec (h c hc)
  exact ⟨h1, h2, h3⟩

theorem stops_space (more : List Char) : Stops (' ' :: more) := by
  intro c hc
  cases hc
  exact ⟨by decide, by decide, by decide⟩

/-! ### Each kind of token is decided by the character after it -/

theorem takeWhile_append_stop {p : Char → Bool} {s : List Char} (hs : ∀ c ∈ s.head?, p c = false)
    (u : List Char) : (u ++ s).takeWhile p = u.takeWhile p := by
  rw [List.takeWhile_append]
  split
  · rename_i hlen
    have hu : u.takeWhile p = u := List.IsPrefix.eq_of_length (List.takeWhile_prefix p) hlen
    cases s with
    | nil => simp [hu]
    | cons c t => simp [hu, hs c rfl]
  · rfl

theorem dropWhile_append_stop {p : Char → Bool} {s : List Char} (hs : ∀ c ∈ s.head?, p c = false)
    (u : List Char) : (u ++ s).dropWhile p = u.dropWhile p ++ s := by
  rw [List.dropWhile_append]
  split
  · rename_i hnil
    rw [List.isEmpty_iff.1 hnil, List.nil_append]
    cases s with
    | nil => rfl
    | cons c t => simp [hs c rfl]
  · rfl

theorem trimDots_append_stop {s : List Char} (hs : Stops s) (u : List Char) :
    trimDots (u ++ s) = trimDots u := by
  have hstop : ∀ c ∈ s.head?, decide (isNameChar c = true ∨ c = '.') = false := by
    intro c hc
    obtain ⟨h1, h2, -⟩ := hs c hc
    simp [h1, h2]
  unfold trimDots
  rw [takeWhile_append_stop hstop u]

theorem drop_trimDots_append (u s : List Char) :
    (u ++ s).drop (trimDots u).length = u.drop (trimDots u).length ++ s :=
  List.drop_append_of_le_length (trimDots_length_le u)

theorem not_isNameStart_of_stops {c : Char} {more : List Char} (hs : Stops (c :: more)) :
    isNameStart c = false := by
  obtain ⟨h1, -, -⟩ := hs c rfl
  simp only [isNameStart, isNameChar, Char.isAlphanum, Bool.decide_or, Bool.or_eq_false_iff,
    decide_eq_false_iff_not] at h1 ⊢
  exact ⟨by simp_all, h1.2⟩

theorem lexColon_stop {s : List Char} (hs : Stops s) : lexColon s = (.text [':'], s) := by
  cases s with
  | nil => rfl
  | cons c t =>
    obtain ⟨-, h2, h3⟩ := hs c rfl
    rw [lexColon.eq_3 c t h3 (fun _ _ h _ => h2 h)]
    simp [not_isNameStart_of_stops hs]

theorem lexColon_dot {tail s : List Char} (htail : ¬∃ x t, tail = '.' :: '.' :: x :: t)
    (hs : Stops s) : lexColon ('.' :: tail ++ s) = (.text [':'], '.' :: tail ++ s) := by
  by_cases hspread : ∃ x rest, tail ++ s = '.' :: '.' :: x :: rest
  · obtain ⟨x, rest, hxr⟩ := hspread
    have hx : isNameStart x = false := by
      rcases tail with _ | ⟨a, _ | ⟨b, _ | ⟨c, t⟩⟩⟩
      · obtain ⟨-, h2, -⟩ := hs '.' (by simp at hxr; simp [hxr])
        exact absurd rfl h2
      · obtain ⟨-, h2, -⟩ := hs '.' (by simp at hxr; simp [hxr.2])
        exact absurd rfl h2
      · simp only [List.cons_append, List.nil_append, List.cons.injEq] at hxr
        obtain ⟨rfl, rfl, rfl⟩ := hxr
        exact not_isNameStart_of_stops hs
      · simp only [List.cons_append, List.cons.injEq] at hxr
        obtain ⟨rfl, rfl, rfl, -⟩ := hxr
        exact absurd ⟨c, t, rfl⟩ htail
    rw [List.cons_append, hxr, lexColon.eq_2, if_neg (by simp [hx])]
  · rw [List.cons_append, lexColon.eq_3 '.' (tail ++ s) (by decide)
      (fun x t _ h => hspread ⟨x, t, h⟩)]
    simp [isNameStart]

theorem lexColon_local (u : List Char) :
    ∃ t v, ∀ s, Stops s → lexColon (u ++ s) = (t, v ++ s) := by
  rcases u with _ | ⟨n, tail⟩
  · exact ⟨_, [], fun s hs => lexColon_stop hs⟩
  by_cases hc : n = ':'
  · -- a cast: the name characters after the second colon
    subst hc
    refine ⟨.text (':' :: ':' :: tail.takeWhile isNameChar), tail.dropWhile isNameChar,
      fun s hs => ?_⟩
    have hname : ∀ c ∈ s.head?, isNameChar c = false := fun c hc => (hs c hc).1
    rw [List.cons_append, lexColon.eq_1, takeWhile_append_stop hname,
      dropWhile_append_stop hname]
  by_cases hd : n = '.'
  · subst hd
    by_cases hspread : ∃ x t, tail = '.' :: '.' :: x :: t
    · -- three dots and a character, all before the follower
      obtain ⟨x, t, rfl⟩ := hspread
      by_cases hx : isNameStart x = true
      · refine ⟨.ref (String.ofList (x :: trimDots t)) true, t.drop (trimDots t).length,
          fun s hs => ?_⟩
        simp only [List.cons_append, lexColon.eq_2, hx, if_true, trimDots_append_stop hs,
          drop_trimDots_append]
      · refine ⟨.text [':'], '.' :: '.' :: '.' :: x :: t, fun s hs => ?_⟩
        simp [lexColon.eq_2, hx]
    · exact ⟨.text [':'], '.' :: tail, fun s hs => lexColon_dot hspread hs⟩
  · -- a name, or any other character
    have h3 : ∀ s, lexColon (n :: tail ++ s) = if isNameStart n = true then
        (Token.ref (String.ofList (n :: trimDots (tail ++ s))) false,
          (tail ++ s).drop (trimDots (tail ++ s)).length)
        else (Token.text [':'], n :: (tail ++ s)) := fun s =>
      lexColon.eq_3 n (tail ++ s) hc (fun _ _ h _ => hd h)
    by_cases hn : isNameStart n = true
    · refine ⟨.ref (String.ofList (n :: trimDots tail)) false, tail.drop (trimDots tail).length,
        fun s hs => ?_⟩
      rw [h3, if_pos hn, trimDots_append_stop hs, drop_trimDots_append]
    · exact ⟨.text [':'], n :: tail, fun s _ => by rw [h3, if_neg hn]; rfl⟩

theorem spanQuoted_local (close : Char) : ∀ u : List Char,
    (∃ a v, ∀ s, (∀ c ∈ s.head?, c ≠ close) → spanQuoted close (u ++ s) = (a, v ++ s)) ∨
      ∀ s, (spanQuoted close (u ++ s)).2 = (spanQuoted close s).2
  | [] => .inr fun _ => rfl
  | [x] => by
    by_cases hx : x = close
    · -- a closing quote at the very end: closed unless the follower doubles it
      subst hx
      refine .inl ⟨[x], [], fun s hs => ?_⟩
      cases s with
      | nil => simp [spanQuoted]
      | cons c t => simp [spanQuoted, hs c rfl]
    · exact .inr fun s => by rw [List.singleton_append, spanQuoted.eq_def]; simp [hx]
  | x :: y :: u => by
    by_cases hx : x = close
    · subst hx
      by_cases hy : y = x
      · subst hy
        rcases spanQuoted_local y u with ⟨a, v, h⟩ | h
        · exact .inl ⟨y :: y :: a, v, fun s hs => by simp [spanQuoted, h s hs]⟩
        · exact .inr fun s => by simp [spanQuoted, h s]
      · exact .inl ⟨[x], y :: u, fun s _ => by simp [spanQuoted, hy]⟩
    · rcases spanQuoted_local close (y :: u) with ⟨a, v, h⟩ | h
      · exact .inl ⟨x :: a, v, fun s hs => by
          have hys := h s hs
          rw [List.cons_append] at hys
          rw [List.cons_append, spanQuoted.eq_def]
          simp [hx, hys]⟩
      · exact .inr fun s => by
          have hys := h s
          rw [List.cons_append] at hys
          rw [List.cons_append, spanQuoted.eq_def]
          simp [hx, hys]

theorem isSep_ne_close {d : Dialect} {c x close : Char} (hq : closingQuote d c = some close)
    (hx : isSep d x = true) : x ≠ close := by
  obtain ⟨-, -, -, hxq, hxcl⟩ := isSep_spec hx
  rintro rfl
  unfold closingQuote at hq hxq
  split_ifs at hq hxq <;> cases hq <;> simp_all

theorem lexOne_local (d : Dialect) (c : Char) (u : List Char) :
    (∃ t v, ∀ s, Sep d s → lexOne d c (u ++ s) = (t, v ++ s)) ∨
      ∃ close, closingQuote d c = some close ∧
        ∀ s, (lexOne d c (u ++ s)).2 = (spanQuoted close s).2 := by
  rcases hq : closingQuote d c with _ | close
  · left
    by_cases hc : c = ':'
    · obtain ⟨t, v, h⟩ := lexColon_local u
      exact ⟨t, v, fun s hs => by simp only [lexOne, hq, if_pos hc]; exact h s hs.stops⟩
    · exact ⟨.text [c], u, fun s _ => by simp only [lexOne, hq, if_neg hc]⟩
  · rcases spanQuoted_local close u with ⟨a, w, h⟩ | h
    · left
      exact ⟨.text (c :: a), w, fun s hs => by
        simp only [lexOne, hq, h s (fun x hx => isSep_ne_close hq (hs x hx))]⟩
    · exact .inr ⟨close, rfl, fun s => by simp only [lexOne, hq]; exact h s⟩

theorem spanQuoted_seps {d : Dialect} {c close x y : Char} (hq : closingQuote d c = some close)
    (hx : isSep d x = true) (hy : isSep d y = true) : (spanQuoted close [x, y]).2 = [] := by
  simp [spanQuoted, isSep_ne_close hq hx, isSep_ne_close hq hy]

/-! ### Closed texts -/

def Closed (d : Dialect) (cs : List Char) : Prop :=
  tokens d (cs ++ [' ']) = tokens d cs ++ [.text [' ']]

theorem closed_nil (d : Dialect) : Closed d [] := by
  have hq : closingQuote d ' ' = none := by cases d <;> decide
  simp [Closed, tokens_cons, lexOne, hq]

theorem Closed.first {d : Dialect} {c : Char} {u : List Char} (h : Closed d (c :: u)) :
    ∃ t v, (∀ s, Sep d s → lexOne d c (u ++ s) = (t, v ++ s)) ∧ Closed d v := by
  unfold Closed at h
  rcases lexOne_local d c u with ⟨t, v, hl⟩ | ⟨close, hq, hopen⟩
  · have hu : lexOne d c u = (t, v) := by simpa using hl [] (sep_nil d)
    rw [List.cons_append, tokens_cons, tokens_cons, hl [' '] (sep_space d []), hu,
      List.cons_append, List.cons.injEq] at h
    exact ⟨t, v, hl, h.2⟩
  · -- a run left open takes the blank in, so the blank is no token of its own
    have hlen := congrArg List.length h
    rw [List.cons_append, tokens_cons, tokens_cons, hopen [' ']] at hlen
    simp [spanQuoted, isSep_ne_close hq (isSep_space d)] at hlen

theorem Closed.tokens_append {d : Dialect} {cs : List Char} (h : Closed d cs) {rest : List Char}
    (hrest : Sep d rest) : tokens d (cs ++ rest) = tokens d cs ++ tokens d rest := by
  induction cs using tokens.induct d with
  | case1 => simp
  | case2 c u _ ih =>
    obtain ⟨t, v, hl, hv⟩ := h.first
    have hu : lexOne d c u = (t, v) := by simpa using hl [] (sep_nil d)
    rw [hu] at ih
    rw [List.cons_append, tokens_cons, tokens_cons, hl rest hrest, hu, ih hv, List.cons_append]

theorem Closed.tokens_append_of_getLast {d : Dialect} {cs : List Char} (h : Closed d cs)
    (hlast : ∀ x ∈ cs.getLast?, isSep d x = true) (rest : List Char) :
    tokens d (cs ++ rest) = tokens d cs ++ tokens d rest := by
  induction cs using tokens.induct d with
  | case1 => simp
  | case2 c u _ ih =>
    obtain ⟨t, v, hl, hv⟩ := h.first
    have hu : lexOne d c u = (t, v) := by simpa using hl [] (sep_nil d)
    rw [hu] at ih
    rcases List.eq_nil_or_concat' u with rfl | ⟨w, x, rfl⟩
    · -- the separating character itself
      have hc : isSep d c = true := hlast c rfl
      obtain ⟨-, -, hcolon, hq, -⟩ := isSep_spec hc
      rw [List.singleton_append, tokens_cons, tokens_cons]
      simp [lexOne, hq, hcolon]
    · have hx : isSep d x = true := hlast x (by rw [← List.cons_append, List.getLast?_concat]; rfl)
      have hw : ∃ v', v = v' ++ [x] ∧ ∀ s, Sep d s → lexOne d c (w ++ s) = (t, v' ++ s) := by
        rcases lexOne_local d c w with ⟨t', v', hl'⟩ | ⟨close, hq, hopen⟩
        · have h1 := hl' [x] (sep_cons hx [])
          rw [hu] at h1
          obtain ⟨rfl, rfl⟩ := Prod.mk.inj h1
          exact ⟨v', rfl, hl'⟩
        · have h2 := hopen [x, ' ']
          rw [spanQuoted_seps hq hx (isSep_space d),
            show w ++ [x, ' '] = w ++ [x] ++ [' '] by simp, hl [' '] (sep_space d [])] at h2
          simp at h2
      obtain ⟨v', rfl, hw⟩ := hw
      have hrest := ih hv (by simp [hx])
      dsimp only at hrest
      rw [List.cons_append, tokens_cons, tokens_cons, List.append_assoc, List.singleton_append,
        hw (x :: rest) (sep_cons hx rest), hu]
      dsimp only
      rw [show v' ++ x :: rest = v' ++ [x] ++ rest by simp, hrest, List.cons_append]

/-! ### References read in place -/

def refs (d : Dialect) (cs : List Char) : List (String × Bool) :=
  (tokens d cs).filterMap Token.ref?

@[simp] theorem refs_nil (d : Dialect) : refs d [] = [] := by
  simp [refs]

theorem refs_cons (d : Dialect) (c : Char) (rest : List Char) :
    refs d (c :: rest) = (lexOne d c rest).1.ref?.toList ++ refs d (lexOne d c rest).2 := by
  rw [refs, tokens_cons, List.filterMap_cons]
  cases (lexOne d c rest).1.ref? <;> rfl

theorem refs_plain {d : Dialect} {c : Char} (hq : closingQuote d c = none) (hc : c ≠ ':')
    (rest : List Char) : refs d (c :: rest) = refs d rest := by
  rw [refs, tokens_plain hq hc]
  rfl

/-- `text` refers only to names `N` allows, and is read the same way whatever text allowed by
`F` follows it: the references of the whole are those of `text`, then those of what follows. -/
def RefsWithin (d : Dialect) (F : List Char → Prop) (N : String → Prop) (text : List Char) :
    Prop :=
  ∃ rs : List (String × Bool), (∀ r ∈ rs, N r.1) ∧
    ∀ rest, F rest → refs d (text ++ rest) = rs ++ refs d rest

section RefsWithin

variable {d : Dialect} {F G : List Char → Prop} {N M : String → Prop}

theorem ReadsAs.refsWithin {text : List Char} {rs : List (String × Bool)}
    (h : ReadsAs d F text rs) (hN : ∀ r ∈ rs, N r.1) : RefsWithin d F N text := by
  obtain ⟨ts, hts, htok⟩ := h
  exact ⟨rs, hN, fun rest hrest => by rw [refs, htok rest hrest, List.filterMap_append, hts]; rfl⟩

theorem RefsWithin.mono {text : List Char} (h : RefsWithin d F N text)
    (hG : ∀ rest, G rest → F rest) (hM : ∀ n, N n → M n) : RefsWithin d G M text := by
  obtain ⟨rs, hN, hrefs⟩ := h
  exact ⟨rs, fun r hr => hM _ (hN r hr), fun rest hrest => hrefs rest (hG rest hrest)⟩

theorem RefsWithin.append {a b : List Char} (ha : RefsWithin d F N a) (hb : RefsWithin d G N b)
    (hstart : ∀ rest, G rest → F (b ++ rest)) : RefsWithin d G N (a ++ b) := by
  obtain ⟨rs, hrs, hra⟩ := ha
  obtain ⟨us, hus, hrb⟩ := hb
  refine ⟨rs ++ us, fun r hr => (List.mem_append.1 hr).elim (hrs r) (hus r), fun rest hrest => ?_⟩
  rw [List.append_assoc, hra _ (hstart rest hrest), hrb rest hrest, List.append_assoc]

theorem refsWithin_nil : RefsWithin d F N [] :=
  ⟨[], fun _ h => absurd h List.not_mem_nil, fun _ _ => rfl⟩

theorem refsWithin_plain {cs : List Char} (hcs : ∀ c ∈ cs, closingQuote d c = none ∧ c ≠ ':') :
    RefsWithin d F N cs :=
  (readsAs_plain hcs).refsWithin fun _ h => absurd h List.not_mem_nil

theorem RefsWithin.safe_append {s : String} {b : List Char} (hs : s.toList.all safeChar = true)
    (hb : RefsWithin d F N b) : RefsWithin d F N (s.toList ++ b) :=
  (refsWithin_plain (F := fun _ => True) (plain_of_safe hs)).append hb fun _ _ => trivial

theorem refsWithin_ref {p : String} (hp : Sql.isName p.toList = true) (hN : N p)
    (hF : ∀ rest, F rest → ∀ c ∈ rest.head?, isNameChar c = false ∧ c ≠ '.') :
    RefsWithin d F N (':' :: p.toList) :=
  (readsAs_ref hp hF).refsWithin fun r hr => by
    rw [List.mem_singleton] at hr
    exact hr ▸ hN

theorem refsWithin_spreadRef {p : String} (hp : Sql.isName p.toList = true) (hN : N p)
    (hF : ∀ rest, F rest → ∀ c ∈ rest.head?, isNameChar c = false ∧ c ≠ '.') :
    RefsWithin d F N (':' :: '.' :: '.' :: '.' :: p.toList) :=
  ⟨[(p, true)], fun r hr => by rw [List.mem_singleton] at hr; exact hr ▸ hN,
    fun rest hrest => by
      rw [refs, List.cons_append, List.cons_append, List.cons_append, List.cons_append,
        tokens_spreadRef d hp (hF rest hrest)]
      rfl⟩

theorem RefsWithin.paren {t : List Char} (h : RefsWithin d G N t) (hG : ∀ more, G (')' :: more)) :
    RefsWithin d F N ('(' :: (t ++ [')'])) := by
  have hopen : ∀ c ∈ ['('], closingQuote d c = none ∧ c ≠ ':' :=
    plain_of_all (by cases d <;> decide)
  have hclose : RefsWithin d F N [')'] := refsWithin_plain (plain_of_all (by cases d <;> decide))
  exact (refsWithin_plain (F := fun _ => True) hopen).append
    (h.append hclose fun rest _ => hG rest) fun _ _ => trivial

theorem RefsWithin.parenthesized {t : String} (h : RefsWithin d G N t.toList)
    (hG : ∀ more, G (')' :: more)) : RefsWithin d F N ("(" ++ t ++ ")").toList := by
  simpa [String.toList_append] using h.paren (F := F) hG

theorem RefsWithin.intercalate {sep : String}
    (hsep : ∀ c ∈ sep.toList, closingQuote d c = none ∧ c ≠ ':')
    (hG : ∀ more, G (sep.toList ++ more)) (hF : ∀ rest, F rest → G rest) :
    ∀ {parts : List String}, (∀ p ∈ parts, RefsWithin d G N p.toList) →
      RefsWithin d F N (sep.intercalate parts).toList
  | [], _ => by simpa using refsWithin_nil
  | [p], h => by simpa using (h p (by simp)).mono hF fun _ h => h
  | p :: q :: ps, h => by
    have hrest : RefsWithin d F N (sep.intercalate (q :: ps)).toList :=
      RefsWithin.intercalate hsep hG hF fun x hx => h x (List.mem_cons_of_mem p hx)
    have hjoin := (h p List.mem_cons_self).append
      ((refsWithin_plain (F := fun _ => True) hsep).append hrest fun _ _ => trivial) fun rest _ => by
        rw [List.append_assoc]
        exact hG _
    rwa [String.intercalate_cons_cons, String.toList_append, String.toList_append,
      List.append_assoc]

theorem RefsWithin.join {sep : String} (hsep : sep.toList.all safeChar = true) {parts : List String}
    (h : ∀ p ∈ parts, RefsWithin d (fun rest => F rest ∨ ∃ more, rest = sep.toList ++ more) N
      p.toList) :
    RefsWithin d F N (sep.intercalate parts).toList :=
  RefsWithin.intercalate (plain_of_safe hsep) (fun more => .inr ⟨more, rfl⟩) (fun _ h => .inl h) h

theorem RefsWithin.refs_mem {text : List Char} (h : RefsWithin d (· = []) N text) :
    ∀ r ∈ refs d text, N r.1 := by
  obtain ⟨rs, hN, hrefs⟩ := h
  have := hrefs [] rfl
  rw [List.append_nil, refs_nil, List.append_nil] at this
  rw [this]
  exact hN

end RefsWithin

theorem Sep.not_close {d : Dialect} {rest : List Char} (h : Sep d rest) :
    rest.head? = some d.quoteChars.2 → closingQuote d d.quoteChars.2 = some d.quoteChars.2 := by
  intro hc
  obtain ⟨-, -, -, -, hne⟩ := isSep_spec (h _ hc)
  exact absurd rfl hne

/-! ### Texts as users write them -/

/-- No lone backquote and no lone closing identifier quote stands outside a quoted run. Other
readers of the text take a backquote for a quote of its own, so a run of theirs would start
there; and a closing quote outside a run would be read as part of the name quoted before it. -/
def WellQuoted (d : Dialect) (cs : List Char) : Prop :=
  ∀ t ∈ tokens d cs, t ≠ .text ['`'] ∧ t ≠ .text [d.quoteChars.2]

/-- A text as a user writes it into a statement: it leaves no quoted run open, stands no lone
backquote or closing identifier quote outside a run, and refers only to names `N` allows. -/
structure Clean (d : Dialect) (N : String → Prop) (cs : List Char) : Prop where
  closed : Closed d cs
  quoted : WellQuoted d cs
  names : ∀ r ∈ refs d cs, N r.1

instance {d : Dialect} {cs : List Char} : Decidable (Closed d cs) :=
  inferInstanceAs (Decidable (tokens d (cs ++ [' ']) = tokens d cs ++ [.text [' ']]))

instance {d : Dialect} {cs : List Char} : Decidable (WellQuoted d cs) :=
  inferInstanceAs (Decidable (∀ t ∈ tokens d cs, t ≠ .text ['`'] ∧ t ≠ .text [d.quoteChars.2]))

instance {d : Dialect} {N : String → Prop} [DecidablePred N] {cs : List Char} :
    Decidable (Clean d N cs) :=
  decidable_of_iff (Closed d cs ∧ WellQuoted d cs ∧ ∀ r ∈ refs d cs, N r.1)
    ⟨fun ⟨h1, h2, h3⟩ => ⟨h1, h2, h3⟩, fun h => ⟨h.1, h.2, h.3⟩⟩

example : Clean .postgres (· ∈ ["id"]) "\"id\" = :id AND 'a:b' <> \"x\"".toList := by
  decide +kernel

example : ¬Clean .postgres (· ∈ ["id"]) "\"id\" = 'open".toList := by
  decide +kernel

theorem Clean.refsWithin {d : Dialect} {N : String → Prop} {cs : List Char} (h : Clean d N cs) :
    RefsWithin d (Sep d) N cs :=
  ⟨refs d cs, h.names, fun rest hrest => by
    rw [refs, h.closed.tokens_append hrest, List.filterMap_append]
    rfl⟩

theorem Clean.refsWithin_of_getLast {d : Dialect} {N : String → Prop} {cs : List Char}
    (h : Clean d N cs) (hlast : ∀ x ∈ cs.getLast?, isSep d x = true) :
    RefsWithin d (fun _ => True) N cs :=
  ⟨refs d cs, h.names, fun rest _ => by
    rw [refs, h.closed.tokens_append_of_getLast hlast rest, List.filterMap_append]
    rfl⟩

theorem Clean.mono {d : Dialect} {N M : String → Prop} {cs : List Char} (h : Clean d N cs)
    (hM : ∀ n, N n → M n) : Clean d M cs :=
  ⟨h.closed, h.quoted, fun r hr => hM _ (h.names r hr)⟩

theorem sep_append {d : Dialect} {s : List Char} (h : ∃ c ∈ s.head?, isSep d c = true)
    (rest : List Char) : Sep d (s ++ rest) := by
  obtain ⟨c, hc, hsep⟩ := h
  cases s with
  | nil => cases hc
  | cons x s =>
    cases hc
    exact sep_cons hsep _

theorem bindNamed_ok_of_refs {d : Dialect} {sql : String} {named : List (String × Value)}
    (native : List Value) (h : ∀ r ∈ refs d sql.toList, (named.lookup r.1).isSome) :
    ∃ out, d.bindNamed sql named native = .ok out := by
  have hnone : firstMissing named (tokens d sql.toList) = none := by
    rw [firstMissing_eq_find?, Option.map_eq_none_iff, List.find?_eq_none]
    intro r hr
    simpa [Option.isNone_iff_eq_none, ← Option.isSome_iff_ne_none] using h r hr
  have hspec := (d.bindNamed_spec sql named native).2
  rw [hnone] at hspec
  obtain ⟨out, vals, hout, -⟩ := hspec
  exact ⟨(out, vals), hout⟩

end Placeholder

end EntitySql
