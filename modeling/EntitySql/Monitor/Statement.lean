import EntitySql.Error
import EntitySql.Text.Prefix

/-!
# Kinds of statements

`StatementClass.ofSql` classifies a statement by its leading keyword, for counters and logs. It
reads the bare words of the text, skipping comments, quoted text (quotes `'`, `"`, a backquote
and `[ ]`, a doubled closing quote standing for itself), numbers and placeholders, and tracks the
depth of parentheses. A `WITH` statement takes the kind of the first data keyword outside
parentheses, and is a select if there is none.

`clipText` cuts a text to a number of bytes on a character boundary and marks the cut with `...`.
-/

namespace EntitySql

/-- The kind of a statement. -/
inductive StatementClass where
  | select
  | insert
  | update
  | delete
  | transaction
  | schema
  | other
  deriving DecidableEq, Repr, Inhabited

namespace StatementClass

def all : List StatementClass := [select, insert, update, delete, transaction, schema, other]

/-- The name of a kind. -/
def name : StatementClass → String
  | select => "select"
  | insert => "insert"
  | update => "update"
  | delete => "delete"
  | transaction => "transaction"
  | schema => "schema"
  | other => "other"

/-- The kind of a data keyword, ignoring ASCII case. -/
def ofDataKeyword? (w : String) : Option StatementClass :=
  let u := w.toUpper
  if u = "SELECT" ∨ u = "VALUES" then some select
  else if u = "INSERT" ∨ u = "REPLACE" ∨ u = "MERGE" ∨ u = "UPSERT" then some insert
  else if u = "UPDATE" then some update
  else if u = "DELETE" then some delete
  else none

def isWordChar (c : Char) : Bool := c.isAlphanum ∨ c = '_'

/-- Skip a quoted run after its opening quote: up to and including the closing quote, two
closing quotes in a row standing for one. -/
def skipQuoted (close : Char) : List Char → List Char
  | [] => []
  | c :: rest =>
    if c = close then
      match rest with
      | c2 :: rest2 => if c2 = close then skipQuoted close rest2 else rest
      | [] => []
    else skipQuoted close rest

theorem skipQuoted_length_le (close : Char) (cs : List Char) :
    (skipQuoted close cs).length ≤ cs.length := by
  fun_induction skipQuoted close cs <;> simp_all <;> omega

def skipLine (cs : List Char) : List Char := cs.dropWhile (· ≠ '\n')

/-- Skip past the end of a block comment. An unclosed comment runs to the end. -/
def skipBlock : List Char → List Char
  | [] => []
  | '*' :: '/' :: rest => rest
  | _ :: rest => skipBlock rest

theorem skipBlock_length_le (cs : List Char) : (skipBlock cs).length ≤ cs.length := by
  fun_induction skipBlock cs <;> simp_all <;> omega

/-- The closing quote of an opening quote character. -/
def closingQuote? (c : Char) : Option Char :=
  if c = '\'' then some '\''
  else if c = '"' then some '"'
  else if c = '`' then some '`'
  else if c = '[' then some ']'
  else none

/-- The bare words of a text with their parenthesis depth. -/
def words (cs : List Char) (depth : Nat) : List (String × Nat) :=
  match cs with
  | [] => []
  | '-' :: '-' :: rest =>
    have := (List.dropWhile_suffix (fun c => decide (c ≠ '\n')) (l := rest)).length_le
    words (skipLine rest) depth
  | '/' :: '*' :: rest =>
    have := skipBlock_length_le rest
    words (skipBlock rest) depth
  | c :: rest =>
    match closingQuote? c with
    | some close =>
      have := skipQuoted_length_le close rest
      words (skipQuoted close rest) depth
    | none =>
      if c = '(' then words rest (depth + 1)
      else if c = ')' then words rest (depth - 1)
      else if c.isAlpha ∨ c = '_' then
        have := (List.dropWhile_suffix isWordChar (l := rest)).length_le
        (String.ofList (c :: rest.takeWhile isWordChar), depth) :: words (rest.dropWhile isWordChar) depth
      else if c.isDigit ∨ c = '$' ∨ c = '@' ∨ c = ':' ∨ c = '?' then
        have := (List.dropWhile_suffix isWordChar (l := rest)).length_le
        words (rest.dropWhile isWordChar) depth
      else words rest depth
termination_by cs.length
decreasing_by all_goals simp_all [skipLine] <;> omega

/-- The kind of a statement. -/
def ofSql (sql : String) : StatementClass :=
  match words sql.toList 0 with
  | [] => other
  | (first, _) :: rest =>
    let u := first.toUpper
    if u = "WITH" then
      ((rest.filter (·.2 = 0)).findSome? fun (w, _) => ofDataKeyword? w).getD select
    else
      match ofDataKeyword? first with
      | some k => k
      | none =>
        if ["START", "BEGIN", "COMMIT", "ROLLBACK", "SAVEPOINT", "RELEASE", "END", "SAVE"].contains u then
          transaction
        else if u = "SET" then
          match rest with
          | (next, _) :: _ => if next.toUpper = "TRANSACTION" then transaction else other
          | [] => other
        else if ["CREATE", "ALTER", "DROP", "TRUNCATE", "RENAME", "COMMENT"].contains u then schema
        else other

end StatementClass

/-- Cut a text to at most `max` bytes on a character boundary, marking a cut with `...`. -/
def clipText (s : String) (max : Option Nat) : String :=
  match max with
  | some m =>
    if s.utf8ByteSize > m then utf8Prefix s m ++ "..."
    else s
  | none => s

end EntitySql
