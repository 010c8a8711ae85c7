import EntitySql.Query.Alias
import EntitySql.Dialect.Placeholder

/-!
# Property names inside SQL text

Raw SQL given to a query may name columns by property: `alias.propertyPath`.
`PropertyNames.replace` writes each such reference as the quoted column, `"alias"."column"`, or
only `"column"` where the statement takes no alias prefix.

A reference is a chain of names joined by dots (a dot continues the chain only before a letter
or `_`) that starts a word: it does not follow a name character, `:`, `@`, `$` or `.`, so
parameters and qualified names are left alone. A chain followed by `(` is a function call. The
first name of the chain must be an alias bound to an entity, and the rest a property path of
exactly one column; any other chain is copied as it is. String literals and quoted identifiers
are copied unchanged. When no alias stands for an entity the text is returned as given.
-/

namespace EntitySql

namespace PropertyNames

open Placeholder (isNameChar spanQuoted spanQuoted_rest_length)

def isChainStart (c : Char) : Bool := c.isAlpha ∨ c = '_'

/-- Whether a text goes on with the start of a name. -/
def startsChain (cs : List Char) : Bool :=
  match cs with
  | d :: _ => isChainStart d
  | [] => false

theorem isNameChar_of_isChainStart {c : Char} (h : isChainStart c = true) : isNameChar c = true := by
  simp only [isChainStart, isNameChar, Char.isAlphanum, Bool.decide_or, Bool.or_eq_true,
    decide_eq_true_eq] at *
  rcases h with h | h <;> simp [h]

/-- Split off a chain of names joined by dots, each dot followed by a letter or `_`. -/
def spanChain : List Char → List Char × List Char
  | [] => ([], [])
  | c :: rest =>
    if isNameChar c ∨ (c = '.' ∧ startsChain rest) then
      (c :: (spanChain rest).1, (spanChain rest).2)
    else ([], c :: rest)

theorem spanChain_rest_length (cs : List Char) : (spanChain cs).2.length ≤ cs.length := by
  induction cs with
  | nil => simp [spanChain]
  | cons c rest ih =>
    simp only [spanChain]
    split
    · simp
      omega
    · simp

theorem spanChain_rest_lt (c : Char) (rest : List Char) (h : isNameChar c = true) :
    (spanChain (c :: rest)).2.length < rest.length + 1 := by
  have := spanChain_rest_length rest
  simp only [spanChain, h, true_or, if_true]
  omega

/-- The column a chain names: `alias.path` of an entity alias with one column for the path. -/
def resolve (d : Dialect) (as : Aliases) (prefixAlias : Bool) (chain : String) : Option String :=
  match chain.splitOn "." with
  | aliasName :: first :: more => do
    let a ← as.find? aliasName
    let e ← a.entity
    match e.findColumnsByPath (".".intercalate (first :: more)) with
    | [c] =>
      if prefixAlias then some (d.escape aliasName ++ "." ++ d.escape c.databaseName)
      else some (d.escape c.databaseName)
    | _ => none
  | _ => none

/-- Whether a character before a name keeps it from being a reference. -/
def blocksChain (prev : Option Char) : Bool :=
  match prev with
  | some p => p = ':' ∨ p = '@' ∨ p = '$' ∨ p = '.' ∨ isNameChar p
  | none => false

/-- Rewrite the references in a text, knowing the character before it. -/
def rewrite (d : Dialect) (as : Aliases) (prefixAlias : Bool) (prev : Option Char) :
    List Char → List Char
  | [] => []
  | c :: rest =>
    let (openQ, closeQ) := d.quoteChars
    if c = '\'' ∨ c = openQ ∨ c = '"' ∨ c = '`' then
      let close := if c = '\'' then '\'' else if c = openQ then closeQ else c
      let run := c :: (spanQuoted close rest).1
      run ++ rewrite d as prefixAlias run.getLast? (spanQuoted close rest).2
    else if isChainStart c ∧ !blocksChain prev then
      let chain := (spanChain (c :: rest)).1
      let after := (spanChain (c :: rest)).2
      let text := String.ofList chain
      let replaced := if after.head? = some '(' then none else resolve d as prefixAlias text
      let out := match replaced with
        | some r => r.toList
        | none => chain
      out ++ rewrite d as prefixAlias chain.getLast? after
    else c :: rewrite d as prefixAlias (some c) rest
termination_by cs => cs.length
decreasing_by
  · simp only [List.length_cons]
    exact Nat.lt_succ_of_le (spanQuoted_rest_length _ _)
  · exact spanChain_rest_lt c rest (isNameChar_of_isChainStart (by simp_all))
  · simp

def replace (d : Dialect) (as : Aliases) (prefixAlias : Bool) (sql : String) : String :=
  if !as.anyEntity then sql else String.ofList (rewrite d as prefixAlias none sql.toList)

end PropertyNames

end EntitySql
