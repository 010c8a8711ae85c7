import EntitySql.Dialect.Basic

/-!
# Named parameters to placeholders

SQL text refers to parameters by name: `:name` for one value, `:...name` for the elements of an
array value. `Dialect.bindNamed` replaces each reference by the dialect's placeholder and lists
the values to bind: the native values first, then the named ones in order of first use.

Text inside string literals and quoted identifiers is copied unchanged, and so is a `::type`
cast. A name starts with an ASCII letter or `_`, continues with ASCII letters, digits, `_` and
inner dots; a name that is not given is an error. Where the dialect allows it, a second
reference to a name reuses its first placeholder.
-/

namespace EntitySql

namespace Placeholder

def isNameChar (c : Char) : Bool := c.isAlphanum ∨ c = '_'

def isNameStart (c : Char) : Bool := c.isAlpha ∨ c = '_'

/-- Split off a quoted run after its opening quote: up to and including the closing quote, where
two closing quotes in a row stand for one quote inside. An unclosed run takes everything. -/
def spanQuoted (close : Char) : List Char → List Char × List Char
  | [] => ([], [])
  | c :: rest =>
    if c = close then
      match rest with
      | c2 :: rest2 =>
        if c2 = close then
          let (a, b) := spanQuoted close rest2
          (c :: c2 :: a, b)
        else ([c], rest)
      | [] => ([c], [])
    else
      let (a, b) := spanQuoted close rest
      (c :: a, b)

theorem spanQuoted_rest_length (close : Char) (cs : List Char) :
    (spanQuoted close cs).2.length ≤ cs.length := by
  fun_induction spanQuoted close cs <;> simp_all <;> omega

def trimDots (cs : List Char) : List Char :=
  ((cs.takeWhile fun c => isNameChar c ∨ c = '.').reverse.dropWhile (· = '.')).reverse

theorem trimDots_length_le (cs : List Char) : (trimDots cs).length ≤ cs.length := by
  unfold trimDots
  have h1 := (List.dropWhile_suffix (fun c => decide (c = '.'))
    (l := (cs.takeWhile fun c => isNameChar c ∨ c = '.').reverse)).length_le
  have h2 := (List.takeWhile_prefix (fun c => decide (isNameChar c ∨ c = '.')) (l := cs)).length_le
  simp only [List.length_reverse] at h1 ⊢
  omega

/-- What has been written so far. -/
structure Binding where
  sql : String
  values : Array Value
  placeholders : List (String × String)

def Binding.push (d : Dialect) (b : Binding) (v : Value) : Binding × String :=
  let values := b.values.push v
  ({ b with values }, d.createParameter (values.size - 1))

/-- The reference to a named value: reuse, spread or a fresh placeholder. -/
def Binding.reference (d : Dialect) (b : Binding) (name : String) (spread : Bool) (v : Value) :
    Binding :=
  if spread then
    let items := match v with
      | .array items => items
      | other => [other]
    if items.isEmpty then { b with sql := b.sql ++ "NULL" }
    else
      let (b, texts) := items.foldl (fun (acc : Binding × List String) item =>
        let (b, p) := acc.1.push d item
        (b, p :: acc.2)) (b, [])
      { b with sql := b.sql ++ ", ".intercalate texts.reverse }
  else
    match (if d.reusesPlaceholders then b.placeholders.lookup name else none) with
    | some existing => { b with sql := b.sql ++ existing }
    | none =>
      let (b, p) := b.push d v
      { b with sql := b.sql ++ p, placeholders := (name, p) :: b.placeholders.filter (·.1 ≠ name) }

/-- The value of the name that starts with `n` and goes on in `tail`. -/
def lookupName (named : List (String × Value)) (n : Char) (tail : List Char) :
    OrmResult (String × Value) :=
  let key := String.ofList (n :: trimDots tail)
  match named.lookup key with
  | none => .error (.parameterNotFound key)
  | some v => .ok (key, v)

theorem drop_trimDots_length_lt (tail : List Char) (k : Nat) (h : tail.length < k) :
    (tail.drop (trimDots tail).length).length < k := by
  simp only [List.length_drop]
  omega

/-- Rewrite the rest of the text. -/
def bindRest (d : Dialect) (named : List (String × Value)) : List Char → Binding → OrmResult Binding
  | [], b => .ok b
  | c :: rest, b =>
    let (openQ, closeQ) := d.quoteChars
    if c = '\'' ∨ c = openQ ∨ c = '"' then
      let close := if c = '\'' then '\'' else if c = openQ then closeQ else '"'
      bindRest d named (spanQuoted close rest).2
        { b with sql := b.sql ++ String.ofList (c :: (spanQuoted close rest).1) }
    else if c ≠ ':' then bindRest d named rest { b with sql := b.sql.push c }
    else
      match rest with
      | ':' :: more =>
        have : (more.dropWhile isNameChar).length < more.length + 1 + 1 := by
          have := (List.dropWhile_suffix isNameChar (l := more)).length_le
          omega
        bindRest d named (more.dropWhile isNameChar)
          { b with sql := b.sql ++ "::" ++ String.ofList (more.takeWhile isNameChar) }
      | '.' :: '.' :: '.' :: n :: tail =>
        if isNameStart n then
          match lookupName named n tail with
          | .error e => .error e
          | .ok (key, v) =>
            have := drop_trimDots_length_lt tail (tail.length + 1 + 1 + 1 + 1 + 1) (by omega)
            bindRest d named (tail.drop (trimDots tail).length) (b.reference d key true v)
        else bindRest d named ('.' :: '.' :: '.' :: n :: tail) { b with sql := b.sql.push c }
      | n :: tail =>
        if isNameStart n then
          match lookupName named n tail with
          | .error e => .error e
          | .ok (key, v) =>
            have := drop_trimDots_length_lt tail (tail.length + 1 + 1) (by omega)
            bindRest d named (tail.drop (trimDots tail).length) (b.reference d key false v)
        else bindRest d named (n :: tail) { b with sql := b.sql.push c }
      | [] => bindRest d named [] { b with sql := b.sql.push c }
termination_by cs => cs.length
decreasing_by
  all_goals simp only [List.length_cons]
  -- the rest after a quoted run, whose closing quote is chosen by the opening one
  · exact Nat.lt_succ_of_le (spanQuoted_rest_length _ rest)
  all_goals omega

end Placeholder

/-- Replace the named references of a text by placeholders: the text to send and the values to
bind, the native ones first. -/
def Dialect.bindNamed (d : Dialect) (sql : String) (named : List (String × Value))
    (native : List Value) : OrmResult (String × List Value) :=
  (Placeholder.bindRest d named sql.toList ⟨"", native.toArray, []⟩).map
    fun b => (b.sql, b.values.toList)

end EntitySql
