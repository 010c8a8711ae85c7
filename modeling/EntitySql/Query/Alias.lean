import EntitySql.Schema.Registry
import EntitySql.Dialect.Basic

/-!
# Aliases of a query

Every table source of a query has an alias: an entity's table, a plain table or a subquery. The
aliases of one query have distinct names, kept in the order they were made; one of them may be
the main alias, the entity the query is about.

A name is either given, and then must be free, or made from a base: the last part of a table
path, else the entity's table name, else `subquery`, followed by `_n` with the least `n ≥ 1`
that is free. With `k` aliases at most `k` candidates are taken, so `k + 1` tries always find a
free name.
-/

namespace EntitySql

/-- The role of an alias in a query. -/
inductive AliasKind where
  | source
  | join
  | other
  deriving DecidableEq, Repr, Inhabited

/-- An alias of a table source. -/
structure Alias where
  kind : AliasKind
  name : String
  entity : Option Entity := none
  tablePath : Option String := none
  subQuery : Option String := none
  deriving Inhabited

namespace Alias

def hasEntity (a : Alias) : Bool := a.entity.isSome

/-- The entity of the alias, or a usage error. -/
def metadata (a : Alias) : OrmResult Entity :=
  match a.entity with
  | some e => .ok e
  | none => .error (.usage ("alias \"" ++ a.name ++ "\" is not bound to an entity"))

/-- The SQL of the source: the subquery, else the quoted table path. -/
def sourceSql (a : Alias) (d : Dialect) : String :=
  match a.subQuery with
  | some sql => sql
  | none =>
    let path := match a.tablePath with
      | some p => p
      | none => match a.entity with
        | some e => e.tablePath
        | none => a.name
    d.escapePath path

end Alias

/-- What an alias is to be made of; the name is made up when none is given. -/
structure AliasSpec where
  kind : AliasKind
  name : Option String := none
  entity : Option Entity := none
  tablePath : Option String := none
  subQuery : Option String := none

/-- The base of a made-up name. -/
def AliasSpec.base (s : AliasSpec) : String :=
  match s.tablePath with
  | some p => (p.splitOn ".").getLast?.getD p
  | none => match s.entity with
    | some e => e.tableName
    | none => "subquery"

/-- The aliases of a query and the name of its main alias. -/
structure Aliases where
  items : List Alias := []
  main : Option String := none
  deriving Inhabited

namespace Aliases

def find? (as : Aliases) (name : String) : Option Alias := as.items.find? (·.name = name)

/-- The alias of a name, or a usage error. -/
def get (as : Aliases) (name : String) : OrmResult Alias :=
  match as.find? name with
  | some a => .ok a
  | none => .error (.usage ("alias \"" ++ name ++ "\" is not registered"))

/-- The first free name `base_n`, trying `n` upward from the second argument, for at most as many names as the first. -/
def freeName (as : Aliases) (base : String) : Nat → Nat → String
  | 0, n => base ++ "_" ++ toString n
  | fuel + 1, n =>
    let candidate := base ++ "_" ++ toString n
    if (as.find? candidate).isSome then as.freeName base fuel (n + 1) else candidate

/-- Add an alias; a given name must be free. -/
def create (as : Aliases) (s : AliasSpec) : OrmResult (Aliases × Alias) := do
  let name ← match s.name with
    | some n => if (as.find? n).isSome then throw (.duplicateAlias n) else pure n
    | none => pure (as.freeName s.base (as.items.length + 1) 1)
  let a : Alias :=
    { kind := s.kind, name, entity := s.entity, tablePath := s.tablePath, subQuery := s.subQuery }
  pure ({ as with items := as.items ++ [a] }, a)

/-- Make a registered alias the main one; a different main alias may not be replaced. -/
def setMain (as : Aliases) (name : String) : OrmResult Aliases := do
  let _ ← as.get name
  match as.main with
  | some current =>
    if current = name then pure as
    else throw (.usage ("main alias is already set to \"" ++ current ++ "\""))
  | none => pure { as with main := some name }

def hasMain (as : Aliases) : Bool := as.main.isSome

/-- The main alias. -/
def mainAlias (as : Aliases) : OrmResult Alias :=
  match as.main.bind as.find? with
  | some a => .ok a
  | none => .error .missingMainAlias

/-- Drop the aliases of a kind; the main alias stays main if it is kept. -/
def removeKind (as : Aliases) (k : AliasKind) : Aliases :=
  let items := as.items.filter (·.kind ≠ k)
  let kept := { as with items }
  { kept with main := as.main.filter fun n => (kept.find? n).isSome }

def anyEntity (as : Aliases) : Bool := as.items.any Alias.hasEntity

end Aliases

end EntitySql
