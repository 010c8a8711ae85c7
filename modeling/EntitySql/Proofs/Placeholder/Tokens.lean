import EntitySql.Dialect.Placeholder
import Mathlib.Data.List.DropRight

/-!
# Named parameters as tokens

`Dialect.bindNamed` reads SQL text one character at a time. Here the same text is read as a
list of tokens: text copied as it is written (one character, a quoted run, or a `::type` cast),
and references to named values (`:name`, or `:...name` for a spread). A quoted run opens with a
single quote, a double quote or the dialect's identifier quote, and two closing quotes in a row
stand for one quote inside it. A name starts with an ASCII letter or `_` and takes the longest
run of name characters and dots after it, less its trailing dots.

`tokens_source` says that reading loses nothing: the tokens spell the text again, in order.
`bindRest_eq_foldlM` says that binding the text is binding its tokens one after the other, so
everything later is proved one token at a time.
-/

namespace EntitySql

namespace Placeholder

/-- A token of SQL text with named references: text copied as written, or a reference to a
named value, spread into its items or not. -/
inductive Token where
  | text (cs : List Char)
  | ref (name : String) (spread : Bool)
  deriving DecidableEq, Repr

def Token.source : Token → List Char
  | .text cs => cs
  | .ref name spread => ':' :: ((if spread then ['.', '.', '.'] else []) ++ name.toList)

/-- The closing quote of a run that opens with `c`, if `c` opens one. -/
def closingQuote (d : Dialect) (c : Char) : Option Char :=
  if c = '\'' then some '\''
  else if c = d.quoteChars.1 then some d.quoteChars.2
  else if c = '"' then some '"'
  else none

/-- The token that starts with a colon followed by `rest`, and the text after it: a cast, a
spread, a reference, or the colon by itself. -/
def lexColon (rest : List Char) : Token × List Char :=
  match rest with
  | ':' :: more => (.text (':' :: ':' :: more.takeWhile isNameChar), more.dropWhile isNameChar)
  | '.' :: '.' :: '.' :: n :: tail =>
    if isNameStart n then
      (.ref (String.ofList (n :: trimDots tail)) true, tail.drop (trimDots tail).length)
    else (.text [':'], '.' :: '.' :: '.' :: n :: tail)
  | n :: tail =>
    if isNameStart n then
      (.ref (String.ofList (n :: trimDots tail)) false, tail.drop (trimDots tail).length)
    else (.text [':'], n :: tail)
  | [] => (.text [':'], [])

example : lexColon "a.b..)".toList = (.ref "a.b" false, ['.', '.', ')']) := by decide

example : lexColon "...ids)".toList = (.ref "ids" true, [')']) := by decide

example : lexColon ":int x".toList = (.text "::int".toList, [' ', 'x']) := by decide

/-- The token that starts with `c` followed by `rest`, and the text after it. -/
def lexOne (d : Dialect) (c : Char) (rest : List Char) : Token × List Char :=
  match closingQuote d c with
  | some close => (.text (c :: (spanQuoted close rest).1), (spanQuoted close rest).2)
  | none => if c = ':' then lexColon rest else (.text [c], rest)

theorem lexColon_rest_length (rest : List Char) : (lexColon rest).2.length ≤ rest.length := by
  unfold lexColon
  split
  · rename_i more
    have hdrop : more.dropWhile isNameChar <:+ more := List.dropWhile_suffix isNameChar
    have := hdrop.length_le
    simp only [List.length_cons]
    omega
  · split <;> simp only [List.length_drop, List.length_cons] <;> omega
  · split <;> simp only [List.length_drop, List.length_cons] <;> omega
  · exact le_rfl

theorem lexOne_rest_length (d : Dialect) (c : Char) (rest : List Char) :
    (lexOne d c rest).2.length ≤ rest.length := by
  unfold lexOne
  split
  · exact spanQuoted_rest_length _ _
  · split
    · exact lexColon_rest_length rest
    · exact le_rfl

/-- The tokens of a text, in order. -/
def tokens (d : Dialect) : List Char → List Token
  | [] => []
  | c :: rest =>
    have := lexOne_rest_length d c rest
    (lexOne d c rest).1 :: tokens d (lexOne d c rest).2
termination_by cs => cs.length

/-! ### Reading loses nothing -/

theorem spanQuoted_append (close : Char) (cs : List Char) :
    (spanQuoted close cs).1 ++ (spanQuoted close cs).2 = cs := by
  fun_induction spanQuoted close cs <;> simp_all

theorem trimDots_append_drop (cs : List Char) :
    trimDots cs ++ cs.drop (trimDots cs).length = cs := by
  have hrun : trimDots cs <+: cs.takeWhile fun c => isNameChar c ∨ c = '.' :=
    List.rdropWhile_prefix _ _
  have htake : (cs.takeWhile fun c => isNameChar c ∨ c = '.') <+: cs := List.takeWhile_prefix _
  exact List.prefix_iff_eq_append.1 (hrun.trans htake)

theorem lexColon_source (rest : List Char) :
    (lexColon rest).1.source ++ (lexColon rest).2 = ':' :: rest := by
  unfold lexColon
  split
  · simp [Token.source]
  · split
    · simp [Token.source, trimDots_append_drop]
    · rfl
  · split
    · simp [Token.source, trimDots_append_drop]
    · rfl
  · rfl

theorem lexOne_source (d : Dialect) (c : Char) (rest : List Char) :
    (lexOne d c rest).1.source ++ (lexOne d c rest).2 = c :: rest := by
  unfold lexOne
  split
  · simp [Token.source, spanQuoted_append]
  · split
    · rename_i hc
      subst hc
      exact lexColon_source rest
    · rfl

theorem tokens_source (d : Dialect) (cs : List Char) :
    (tokens d cs).flatMap Token.source = cs := by
  fun_induction tokens d cs with
  | case1 => rfl
  | case2 c rest _ ih =>
    rw [List.flatMap_cons, ih, lexOne_source]

/-! ### Binding a text is binding its tokens -/

/-- Bind one token: copy its text, or write the reference to its named value. -/
def bindToken (d : Dialect) (named : List (String × Value)) (b : Binding) :
    Token → OrmResult Binding
  | .text cs => .ok { b with sql := b.sql ++ String.ofList cs }
  | .ref name spread =>
    match named.lookup name with
    | none => .error (.parameterNotFound name)
    | some v => .ok (b.reference d name spread v)

theorem bindRest_cons (d : Dialect) (named : List (String × Value)) (c : Char)
    (rest : List Char) (b : Binding) :
    bindRest d named (c :: rest) b =
      (bindToken d named b (lexOne d c rest).1).bind (bindRest d named (lexOne d c rest).2) := by
  rw [bindRest.eq_def]
  rcases hq : d.quoteChars with ⟨o, cl⟩
  unfold lexOne closingQuote
  simp only [hq]
  by_cases h1 : c = '\''
  · subst h1
    simp [bindToken, Except.bind]
  by_cases h2 : c = o
  · subst h2
    simp [h1, bindToken, Except.bind]
  by_cases h3 : c = '"'
  · subst h3
    simp [h1, h2, bindToken, Except.bind]
  by_cases h4 : c = ':'
  · subst h4
    simp only [h1, h2, h3, or_self, if_false, if_true, ne_eq, not_true_eq_false]
    split
    · rw [lexColon.eq_1]
      simp only [bindToken, Except.bind]
      congr 2
      simp [← String.toList_inj]
    · rename_i n tail
      rw [lexColon.eq_2]
      by_cases hn : isNameStart n
      · simp only [hn, if_true, bindToken, lookupName]
        cases List.lookup (String.ofList (n :: trimDots tail)) named <;> rfl
      · simp only [hn, bindToken, Except.bind]
        congr 2
    · rename_i n tail hcolon hdots
      rw [lexColon.eq_3 n tail hcolon hdots]
      by_cases hn : isNameStart n
      · simp only [hn, if_true, bindToken, lookupName]
        cases List.lookup (String.ofList (n :: trimDots tail)) named <;> rfl
      · simp only [hn, bindToken, Except.bind]
        congr 2
    · rw [lexColon.eq_4]
      simp only [bindToken, Except.bind]
      congr 2
  · simp [h1, h2, h3, h4, bindToken, Except.bind]

theorem bindRest_eq_foldlM (d : Dialect) (named : List (String × Value)) (cs : List Char)
    (b : Binding) : bindRest d named cs b = (tokens d cs).foldlM (bindToken d named) b := by
  fun_induction tokens d cs generalizing b with
  | case1 => rw [bindRest.eq_def]; rfl
  | case2 c rest _ ih =>
    rw [bindRest_cons, List.foldlM_cons]
    cases bindToken d named b (lexOne d c rest).1 with
    | error e => rfl
    | ok b' => exact ih b'

end Placeholder

end EntitySql
