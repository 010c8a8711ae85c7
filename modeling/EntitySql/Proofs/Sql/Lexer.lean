import Mathlib
import EntitySql.Dialect.Placeholder
import EntitySql.Text.Blank

/-!
# SQL text as lexemes

A condition is read as a database reads it, first as lexemes. Blanks are skipped. A quoted
identifier runs from the dialect's opening quote to its closing quote, and a string between
single quotes; in both, two closing quotes in a row stand for one. A word is a letter or `_`
followed by letters, digits and `_`, and the keywords of conditions are told apart from names
whatever the case of their letters. A number is a run of digits. A named parameter is `:` or
`:...` followed by a word, and `::` is a cast. `!=`, `<>`, `>=` and `<=` are one symbol each; any
other character is a symbol by itself.

`lexOne` reads the lexeme at the front of a text and `lex` repeats it. The lemmas below read
each kind of lexeme a rendered condition holds off the front of a text, given what may follow
it; `lex_escape` is the one with an argument: a name quoted by the dialect is read back as
that very name, whatever characters it holds.
-/

namespace EntitySql

namespace Sql

open Placeholder (isNameChar isNameStart)

/-- The keywords that build conditions. -/
inductive Keyword where
  | AND
  | OR
  | NOT
  | BETWEEN
  | IN
  | IS
  | NULL
  | LIKE
  | ILIKE
  | UPPER
  deriving DecidableEq, Repr

/-- How a keyword is written. -/
def Keyword.text : Keyword → String
  | .AND => "AND"
  | .OR => "OR"
  | .NOT => "NOT"
  | .BETWEEN => "BETWEEN"
  | .IN => "IN"
  | .IS => "IS"
  | .NULL => "NULL"
  | .LIKE => "LIKE"
  | .ILIKE => "ILIKE"
  | .UPPER => "UPPER"

def Keyword.ofWord? (w : List Char) : Option Keyword :=
  [Keyword.AND, .OR, .NOT, .BETWEEN, .IN, .IS, .NULL, .LIKE, .ILIKE, .UPPER].find? fun k =>
    w.map Char.toUpper = k.text.toList

/-- Punctuation and comparison symbols. -/
inductive Symbol where
  | eq
  | ne
  | lt
  | le
  | gt
  | ge
  | lparen
  | rparen
  | comma
  | dot
  | cast
  | other (c : Char)
  deriving DecidableEq, Repr

/-- The symbol that starts with `c` followed by `rest`, and the text after it. -/
def Symbol.lexOne (c : Char) (rest : List Char) : Symbol × List Char :=
  match c, rest with
  | '!', '=' :: more => (.ne, more)
  | '<', '>' :: more => (.ne, more)
  | '<', '=' :: more => (.le, more)
  | '>', '=' :: more => (.ge, more)
  | '=', more => (.eq, more)
  | '<', more => (.lt, more)
  | '>', more => (.gt, more)
  | '(', more => (.lparen, more)
  | ')', more => (.rparen, more)
  | ',', more => (.comma, more)
  | '.', more => (.dot, more)
  | c, more => (.other c, more)

/-- A lexeme of SQL text. -/
inductive Lexeme where
  /-- A quoted identifier, its quotes taken off. -/
  | ident (name : String)
  /-- A string literal, its quotes taken off. -/
  | string (s : String)
  /-- A word that is no keyword. -/
  | word (w : String)
  | keyword (k : Keyword)
  | number (digits : String)
  /-- A named parameter, spread into its items or not. -/
  | param (name : String) (spread : Bool)
  | symbol (s : Symbol)
  deriving DecidableEq, Repr

/-- A word as a lexeme: a keyword, or a name. -/
def Lexeme.ofWord (w : List Char) : Lexeme :=
  match Keyword.ofWord? w with
  | some k => .keyword k
  | none => .word (String.ofList w)

/-- Read a quoted run after its opening quote, up to its closing quote: the characters inside,
two closing quotes in a row standing for one, and the text after the run. `none` when the run
is not closed. -/
def readQuoted (close : Char) : List Char → Option (List Char × List Char)
  | [] => none
  | c :: rest =>
    if c = close then
      match rest with
      | d :: more =>
        if d = close then (readQuoted close more).map fun r => (close :: r.1, r.2)
        else some ([], rest)
      | [] => some ([], [])
    else (readQuoted close rest).map fun r => (c :: r.1, r.2)

theorem readQuoted_rest_lt {close : Char} :
    ∀ {cs body after : List Char}, readQuoted close cs = some (body, after) →
      after.length < cs.length
  | [], _, _, h => by simp [readQuoted] at h
  | c :: rest, body, after, h => by
    unfold readQuoted at h
    by_cases hc : c = close
    · simp only [hc, if_true] at h
      cases rest with
      | nil =>
        simp only [Option.some.injEq, Prod.mk.injEq] at h
        obtain ⟨-, rfl⟩ := h
        simp
      | cons d more =>
        by_cases hd : d = close
        · simp only [hd, if_true, Option.map_eq_some_iff, Prod.mk.injEq] at h
          obtain ⟨⟨b, a⟩, hr, -, rfl⟩ := h
          have := readQuoted_rest_lt hr
          simp only [List.length_cons]
          omega
        · simp only [hd, if_false, Option.some.injEq, Prod.mk.injEq] at h
          obtain ⟨-, rfl⟩ := h
          simp
    · simp only [hc, if_false, Option.map_eq_some_iff, Prod.mk.injEq] at h
      obtain ⟨⟨b, a⟩, hr, -, rfl⟩ := h
      have := readQuoted_rest_lt hr
      simp only [List.length_cons]
      omega

/-- The lexeme after a colon: a cast, a parameter spread or not, or the colon by itself. -/
def lexColon (rest : List Char) : Lexeme × List Char :=
  match rest with
  | ':' :: more => (.symbol .cast, more)
  | '.' :: '.' :: '.' :: n :: more =>
    if isNameStart n then
      (.param (String.ofList (n :: more.takeWhile isNameChar)) true, more.dropWhile isNameChar)
    else (.symbol (.other ':'), rest)
  | n :: more =>
    if isNameStart n then
      (.param (String.ofList (n :: more.takeWhile isNameChar)) false, more.dropWhile isNameChar)
    else (.symbol (.other ':'), rest)
  | [] => (.symbol (.other ':'), [])

/-- The lexeme that starts with `c`, not a blank, followed by `rest`, and the text after it;
`none` for a quote that is not closed. -/
def lexOne (d : Dialect) (c : Char) (rest : List Char) : Option (Lexeme × List Char) :=
  if c = d.quoteChars.1 then
    (readQuoted d.quoteChars.2 rest).map fun r => (.ident (String.ofList r.1), r.2)
  else if c = '\'' then
    (readQuoted '\'' rest).map fun r => (.string (String.ofList r.1), r.2)
  else if isNameStart c then
    some (Lexeme.ofWord (c :: rest.takeWhile isNameChar), rest.dropWhile isNameChar)
  else if c.isDigit then
    some (.number (String.ofList (c :: rest.takeWhile Char.isDigit)), rest.dropWhile Char.isDigit)
  else if c = ':' then some (lexColon rest)
  else some (.symbol (Symbol.lexOne c rest).1, (Symbol.lexOne c rest).2)

theorem lexColon_rest_length (rest : List Char) : (lexColon rest).2.length ≤ rest.length := by
  unfold lexColon
  split
  · simp
  · split
    · have := (List.dropWhile_suffix isNameChar (l := ‹List Char›)).length_le
      simp only [List.length_cons]
      omega
    · exact Nat.le_refl _
  · split
    · have := (List.dropWhile_suffix isNameChar (l := ‹List Char›)).length_le
      simp only [List.length_cons]
      omega
    · exact Nat.le_refl _
  · exact Nat.le_refl _

theorem symbolLexOne_rest_length (c : Char) (rest : List Char) :
    (Symbol.lexOne c rest).2.length ≤ rest.length := by
  unfold Symbol.lexOne
  split <;> simp

theorem lexOne_rest_lt {d : Dialect} {c : Char} {rest after : List Char} {l : Lexeme}
    (h : lexOne d c rest = some (l, after)) : after.length < rest.length + 1 := by
  unfold lexOne at h
  split at h
  · simp only [Option.map_eq_some_iff, Prod.mk.injEq] at h
    obtain ⟨⟨b, a⟩, hr, -, rfl⟩ := h
    have := readQuoted_rest_lt hr
    dsimp only
    omega
  · split at h
    · simp only [Option.map_eq_some_iff, Prod.mk.injEq] at h
      obtain ⟨⟨b, a⟩, hr, -, rfl⟩ := h
      have := readQuoted_rest_lt hr
      dsimp only
      omega
    · split at h
      · simp only [Option.some.injEq, Prod.mk.injEq] at h
        obtain ⟨-, rfl⟩ := h
        have := (List.dropWhile_suffix isNameChar (l := rest)).length_le
        omega
      · split at h
        · simp only [Option.some.injEq, Prod.mk.injEq] at h
          obtain ⟨-, rfl⟩ := h
          have := (List.dropWhile_suffix Char.isDigit (l := rest)).length_le
          omega
        · split at h
          · simp only [Option.some.injEq] at h
            have := lexColon_rest_length rest
            rw [h] at this
            dsimp only at this
            omega
          · simp only [Option.some.injEq, Prod.mk.injEq] at h
            obtain ⟨-, rfl⟩ := h
            have := symbolLexOne_rest_length c rest
            omega

/-- The lexemes of a text; `none` when a quote is not closed. -/
def lex (d : Dialect) : List Char → Option (List Lexeme)
  | [] => some []
  | c :: rest =>
    if c.isWhitespace then lex d rest
    else
      match h : lexOne d c rest with
      | some (l, after) =>
        have := lexOne_rest_lt h
        (lex d after).map (l :: ·)
      | none => none
termination_by cs => cs.length

/-! ### Reading lexemes off the front of a text -/

@[simp] theorem lex_nil (d : Dialect) : lex d [] = some [] := by
  rw [lex]

theorem lex_blank (d : Dialect) {c : Char} (hc : c.isWhitespace = true) (rest : List Char) :
    lex d (c :: rest) = lex d rest := by
  rw [lex]
  simp [hc]

theorem lex_cons_of_lexOne {d : Dialect} {c : Char} {rest after : List Char} {l : Lexeme}
    (hc : c.isWhitespace = false) (h : lexOne d c rest = some (l, after)) :
    lex d (c :: rest) = (lex d after).map (l :: ·) := by
  rw [lex]
  simp only [hc, Bool.false_eq_true, if_false]
  split
  · rename_i l' after' h'
    rw [h] at h'
    cases h'
    rfl
  · rename_i h'
    rw [h] at h'
    cases h'

@[simp] theorem lex_space (d : Dialect) (rest : List Char) : lex d (' ' :: rest) = lex d rest :=
  lex_blank d (by decide) rest

def doubled (close : Char) (cs : List Char) : List Char :=
  cs.flatMap fun x => if x = close then [close, close] else [x]

theorem readQuoted_doubled (close : Char) (cs rest : List Char)
    (hrest : rest.head? ≠ some close) :
    readQuoted close (doubled close cs ++ close :: rest) = some (cs, rest) := by
  induction cs with
  | nil =>
    cases rest with
    | nil => simp [doubled, readQuoted]
    | cons d more =>
      have hd : d ≠ close := fun h => hrest (by simp [h])
      simp [doubled, readQuoted, hd]
  | cons x xs ih =>
    by_cases hx : x = close
    · subst hx
      simp only [doubled] at ih ⊢
      simp [readQuoted, ih]
    · simp only [doubled] at ih ⊢
      rw [List.flatMap_cons, if_neg hx, List.singleton_append, List.cons_append,
        readQuoted.eq_def]
      simp only [if_neg hx, ih]
      rfl

theorem replaceChar_toList (s : String) (c : Char) (by_ : String) :
    (Dialect.replaceChar s c by_).toList =
      s.toList.flatMap fun x => if x = c then by_.toList else [x] := by
  simp only [Dialect.replaceChar, String.toList_join, List.flatMap_map]
  congr 1
  funext x
  split <;> simp

theorem escape_toList (d : Dialect) (name : String) :
    (d.escape name).toList =
      d.quoteChars.1 :: (doubled d.quoteChars.2 name.toList ++ [d.quoteChars.2]) := by
  cases d <;> simp only [Dialect.escape, Dialect.quoteChars, String.toList_append,
    replaceChar_toList, doubled] <;> rfl

theorem quoteOpen_not_blank (d : Dialect) : d.quoteChars.1.isWhitespace = false := by
  cases d <;> decide

theorem lex_escape (d : Dialect) (name : String) (rest : List Char)
    (hrest : rest.head? ≠ some d.quoteChars.2) :
    lex d ((d.escape name).toList ++ rest) = (lex d rest).map (.ident name :: ·) := by
  rw [escape_toList, List.cons_append, List.append_assoc, List.singleton_append]
  apply lex_cons_of_lexOne (quoteOpen_not_blank d)
  simp [lexOne, readQuoted_doubled _ _ _ hrest]

def EndsName (rest : List Char) : Prop := ∀ c ∈ rest.head?, isNameChar c = false

theorem endsName_nil : EndsName [] := by
  simp [EndsName]

theorem endsName_cons {c : Char} {rest : List Char} (hc : isNameChar c = false) :
    EndsName (c :: rest) := by
  simpa [EndsName] using hc

theorem endsName_space {rest : List Char} : EndsName (' ' :: rest) :=
  endsName_cons (by decide)

theorem takeWhile_name {w rest : List Char} (hw : ∀ c ∈ w, isNameChar c = true)
    (hrest : EndsName rest) : (w ++ rest).takeWhile isNameChar = w := by
  rw [List.takeWhile_append_of_pos hw]
  cases rest with
  | nil => simp
  | cons c more =>
    have hc : isNameChar c = false := hrest c (by simp)
    simp [hc]

theorem dropWhile_name {w rest : List Char} (hw : ∀ c ∈ w, isNameChar c = true)
    (hrest : EndsName rest) : (w ++ rest).dropWhile isNameChar = rest := by
  rw [List.dropWhile_append_of_pos hw]
  cases rest with
  | nil => simp
  | cons c more =>
    have hc : isNameChar c = false := hrest c (by simp)
    simp [hc]

theorem nameStart_not_blank {c : Char} (hc : isNameStart c = true) : c.isWhitespace = false := by
  cases hw : c.isWhitespace with
  | false => rfl
  | true =>
    simp only [Char.isWhitespace, Bool.or_eq_true, decide_eq_true_eq] at hw
    rcases hw with ((h | h) | h) | h <;> subst h <;> simp [isNameStart] at hc

theorem nameStart_not_quote (d : Dialect) {c : Char} (hc : isNameStart c = true) :
    c ≠ d.quoteChars.1 ∧ c ≠ '\'' := by
  have hquote : isNameStart d.quoteChars.1 = false := by cases d <;> decide
  refine ⟨fun h => ?_, fun h => ?_⟩
  · rw [h, hquote] at hc
    cases hc
  · subst h
    simp [isNameStart] at hc

theorem lex_word (d : Dialect) {c : Char} {w rest : List Char} (hc : isNameStart c = true)
    (hw : ∀ x ∈ w, isNameChar x = true) (hrest : EndsName rest) :
    lex d (c :: (w ++ rest)) = (lex d rest).map (Lexeme.ofWord (c :: w) :: ·) := by
  obtain ⟨hq, hs⟩ := nameStart_not_quote d hc
  apply lex_cons_of_lexOne (nameStart_not_blank hc)
  simp [lexOne, hq, hs, hc, takeWhile_name hw hrest, dropWhile_name hw hrest]

theorem lex_keyword (d : Dialect) (k : Keyword) {rest : List Char} (hrest : EndsName rest) :
    lex d (k.text.toList ++ rest) = (lex d rest).map (.keyword k :: ·) := by
  have hk : ∃ c w, k.text.toList = c :: w ∧ isNameStart c = true ∧
      (∀ x ∈ w, isNameChar x = true) ∧ Lexeme.ofWord (c :: w) = .keyword k := by
    cases k <;> exact ⟨_, _, rfl, by decide, List.all_eq_true.mp rfl, by decide⟩
  obtain ⟨c, w, htext, hc, hw, hword⟩ := hk
  rw [htext, List.cons_append, lex_word d hc hw hrest, hword]

def isName : List Char → Bool
  | n :: w => isNameStart n && w.all isNameChar
  | [] => false

theorem isName_eq_cons {p : List Char} (hp : isName p = true) :
    ∃ n w, p = n :: w ∧ isNameStart n = true ∧ ∀ c ∈ w, isNameChar c = true := by
  cases p with
  | nil => cases hp
  | cons n w =>
    simp only [isName, Bool.and_eq_true, List.all_eq_true] at hp
    exact ⟨n, w, rfl, hp.1, hp.2⟩

theorem colon_not_quote (d : Dialect) : ':' ≠ d.quoteChars.1 := by
  cases d <;> decide

theorem lex_param (d : Dialect) {p : String} (hp : isName p.toList = true) {rest : List Char}
    (hrest : EndsName rest) :
    lex d (':' :: (p.toList ++ rest)) = (lex d rest).map (.param p false :: ·) := by
  obtain ⟨n, w, hnw, hn, hw⟩ := isName_eq_cons hp
  apply lex_cons_of_lexOne (by decide)
  have hcolon : lexColon (n :: w ++ rest) =
      (.param (String.ofList (n :: w)) false, rest) := by
    unfold lexColon
    split
    · rename_i more h
      simp only [List.cons_append, List.cons.injEq] at h
      rw [h.1] at hn
      cases hn
    · rename_i n' more h
      simp only [List.cons_append, List.cons.injEq] at h
      rw [h.1] at hn
      cases hn
    · rename_i n' more _ _ h
      simp only [List.cons_append, List.cons.injEq] at h
      obtain ⟨rfl, rfl⟩ := h
      simp [hn, takeWhile_name hw hrest, dropWhile_name hw hrest]
    · rename_i h
      simp at h
  have hname : String.ofList (n :: w) = p := by rw [← hnw, String.ofList_toList]
  have hcolonStart : isNameStart ':' = false := by decide
  have hcolonDigit : (':').isDigit = false := by decide
  rw [hnw]
  simp only [lexOne, colon_not_quote d, hcolonStart, hcolonDigit, hcolon, hname, if_false,
    if_true, Bool.false_eq_true]
  rfl

theorem lex_spreadParam (d : Dialect) {p : String} (hp : isName p.toList = true)
    {rest : List Char} (hrest : EndsName rest) :
    lex d (':' :: '.' :: '.' :: '.' :: (p.toList ++ rest)) =
      (lex d rest).map (.param p true :: ·) := by
  obtain ⟨n, w, hnw, hn, hw⟩ := isName_eq_cons hp
  apply lex_cons_of_lexOne (by decide)
  have hname : String.ofList (n :: w) = p := by rw [← hnw, String.ofList_toList]
  have hcolonStart : isNameStart ':' = false := by decide
  have hcolonDigit : (':').isDigit = false := by decide
  rw [hnw]
  have hcolonQuote : (':' : Char) ≠ '\'' := by decide
  simp only [lexOne, colon_not_quote d, hcolonQuote, hcolonStart, hcolonDigit, if_false, if_true,
    Bool.false_eq_true, lexColon, List.cons_append, hn, takeWhile_name hw hrest,
    dropWhile_name hw hrest, hname]

theorem quoteOpen_mem (d : Dialect) : d.quoteChars.1 = '"' ∨ d.quoteChars.1 = '`' ∨
    d.quoteChars.1 = '[' := by
  cases d <;> simp [Dialect.quoteChars]

theorem lexOne_symbol (d : Dialect) {c : Char} (rest : List Char)
    (hq : c ≠ '"' ∧ c ≠ '`' ∧ c ≠ '[') (hs : c ≠ '\'') (hn : isNameStart c = false)
    (hd : c.isDigit = false) (hcolon : c ≠ ':') :
    lexOne d c rest = some (.symbol (Symbol.lexOne c rest).1, (Symbol.lexOne c rest).2) := by
  have hopen : c ≠ d.quoteChars.1 := by
    rcases quoteOpen_mem d with h | h | h <;> rw [h] <;> simp [hq]
  simp [lexOne, hopen, hs, hn, hd, hcolon]

theorem lex_symbol (d : Dialect) {c : Char} {s : Symbol}
    (hc : (c = '=' ∧ s = .eq) ∨ (c = '(' ∧ s = .lparen) ∨ (c = ')' ∧ s = .rparen) ∨
      (c = '.' ∧ s = .dot) ∨ (c = ',' ∧ s = .comma))
    (rest : List Char) : lex d (c :: rest) = (lex d rest).map (.symbol s :: ·) := by
  rcases hc with ⟨rfl, rfl⟩ | ⟨rfl, rfl⟩ | ⟨rfl, rfl⟩ | ⟨rfl, rfl⟩ | ⟨rfl, rfl⟩ <;>
  · apply lex_cons_of_lexOne (by decide)
    rw [lexOne_symbol d rest (by decide) (by decide) (by decide) (by decide) (by decide)]
    simp [Symbol.lexOne]

theorem lex_symbol₂ (d : Dialect) {c c' : Char} {s : Symbol}
    (hc : (c = '!' ∧ c' = '=' ∧ s = .ne) ∨ (c = '>' ∧ c' = '=' ∧ s = .ge) ∨
      (c = '<' ∧ c' = '=' ∧ s = .le))
    (rest : List Char) : lex d (c :: c' :: rest) = (lex d rest).map (.symbol s :: ·) := by
  rcases hc with ⟨rfl, rfl, rfl⟩ | ⟨rfl, rfl, rfl⟩ | ⟨rfl, rfl, rfl⟩ <;>
  · apply lex_cons_of_lexOne (by decide)
    rw [lexOne_symbol d _ (by decide) (by decide) (by decide) (by decide) (by decide)]
    simp [Symbol.lexOne]

theorem lex_symbol_blank (d : Dialect) {c : Char} {s : Symbol}
    (hc : (c = '>' ∧ s = .gt) ∨ (c = '<' ∧ s = .lt)) (rest : List Char) :
    lex d (c :: ' ' :: rest) = (lex d rest).map (.symbol s :: ·) := by
  have hone : lexOne d c (' ' :: rest) = some (.symbol s, ' ' :: rest) := by
    rcases hc with ⟨rfl, rfl⟩ | ⟨rfl, rfl⟩ <;>
    · rw [lexOne_symbol d _ (by decide) (by decide) (by decide) (by decide) (by decide)]
      simp [Symbol.lexOne]
  have hblank : c.isWhitespace = false := by
    rcases hc with ⟨rfl, -⟩ | ⟨rfl, -⟩ <;> decide
  rw [lex_cons_of_lexOne hblank hone, lex_space]

theorem isNameStart_of_isDigit {c : Char} (hc : c.isDigit = true) : isNameStart c = false := by
  have hunder : c ≠ '_' := by
    rintro rfl
    simp at hc
  revert hc
  simp only [Char.isDigit, isNameStart, Char.isAlpha, Char.isUpper, Char.isLower, hunder]
  grind

theorem lex_number (d : Dialect) {c : Char} {w rest : List Char} (hc : c.isDigit = true)
    (hw : ∀ x ∈ w, x.isDigit = true) (hrest : ∀ x ∈ rest.head?, x.isDigit = false) :
    lex d (c :: (w ++ rest)) = (lex d rest).map (.number (String.ofList (c :: w)) :: ·) := by
  have hstop : (w ++ rest).takeWhile Char.isDigit = w ∧ (w ++ rest).dropWhile Char.isDigit = rest := by
    rw [List.takeWhile_append_of_pos hw, List.dropWhile_append_of_pos hw]
    cases rest with
    | nil => simp
    | cons x more =>
      have hx : x.isDigit = false := hrest x (by simp)
      simp [hx]
  have hnot : ∀ q : Char, q.isDigit = false → c ≠ q := fun q hq h => by
    rw [h, hq] at hc
    cases hc
  have hopen : c ≠ d.quoteChars.1 :=
    hnot _ (by rcases quoteOpen_mem d with h | h | h <;> rw [h] <;> decide)
  have hone : lexOne d c (w ++ rest) = some (.number (String.ofList (c :: w)), rest) := by
    simp only [lexOne, hopen, hnot '\'' (by decide), isNameStart_of_isDigit hc, hc, if_false,
      if_true, hstop, Bool.false_eq_true]
  exact lex_cons_of_lexOne (Text.not_isWhitespace_of_isDigit hc) hone

theorem lex_digit (d : Dialect) {c : Char} (hc : c = '0' ∨ c = '1') {rest : List Char}
    (hrest : ∀ x ∈ rest.head?, x.isDigit = false) :
    lex d (c :: rest) = (lex d rest).map (.number (String.ofList [c]) :: ·) :=
  lex_number d (w := []) (by rcases hc with rfl | rfl <;> rfl) (fun _ h => absurd h List.not_mem_nil)
    hrest

theorem lex_minus (d : Dialect) (rest : List Char) :
    lex d ('-' :: rest) = (lex d rest).map (.symbol (.other '-') :: ·) := by
  apply lex_cons_of_lexOne (by decide)
  rw [lexOne_symbol d rest (by decide) (by decide) (by decide) (by decide) (by decide)]
  rfl

end Sql

end EntitySql
