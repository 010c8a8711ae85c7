import EntitySql.Error
import EntitySql.Text.Prefix

/-!
# SQL dialects

The SQL dialects the library writes, and every syntax decision that differs between them:
identifier quoting, placeholders, alias length, `RETURNING` and upserts, pagination, transaction
statements and savepoints. The compiler asks the dialect and never branches on it by itself.

Families share most decisions: Postgres and CockroachDB; MySQL and MariaDB; SQLite and libSQL.
-/

namespace EntitySql

/-- A SQL dialect. -/
inductive Dialect where
  | postgres
  | cockroachDb
  | mySql
  | mariaDb
  | sqlite
  | libSql
  | duckDb
  | msSql
  | oracle
  | sapHana
  | spanner
  deriving DecidableEq, Repr, Inhabited

/-- The kind of a write statement, for the `RETURNING` capability. -/
inductive StatementKind where
  | insert
  | update
  | delete
  deriving DecidableEq, Repr

/-- The keyword of a statement kind. -/
def StatementKind.name : StatementKind → String
  | .insert => "INSERT"
  | .update => "UPDATE"
  | .delete => "DELETE"

/-- How a dialect reads back written rows. -/
inductive ReturningStyle where
  | returning
  | output
  | none
  deriving DecidableEq, Repr

/-- How a dialect writes an upsert. -/
inductive UpsertStyle where
  | onConflict
  | onDuplicateKey
  | unsupported
  deriving DecidableEq, Repr

/-- Which row of a multi-row insert a reported insert id belongs to. -/
inductive InsertIdStrategy where
  | firstOfBatch
  | lastOfBatch
  | none
  deriving DecidableEq, Repr

/-- A transaction isolation level. -/
inductive Isolation where
  | readUncommitted
  | readCommitted
  | repeatableRead
  | serializable
  deriving DecidableEq, Repr

/-- The SQL words of an isolation level. -/
def Isolation.sql : Isolation → String
  | .readUncommitted => "READ UNCOMMITTED"
  | .readCommitted => "READ COMMITTED"
  | .repeatableRead => "REPEATABLE READ"
  | .serializable => "SERIALIZABLE"

namespace Dialect

def all : List Dialect :=
  [postgres, cockroachDb, mySql, mariaDb, sqlite, libSql, duckDb, msSql, oracle, sapHana, spanner]

/-- The short name of a dialect. -/
def name : Dialect → String
  | postgres => "postgres"
  | cockroachDb => "cockroachdb"
  | mySql => "mysql"
  | mariaDb => "mariadb"
  | sqlite => "sqlite"
  | libSql => "libsql"
  | duckDb => "duckdb"
  | msSql => "mssql"
  | oracle => "oracle"
  | sapHana => "sap"
  | spanner => "spanner"

def configName : Dialect → String
  | sapHana => "saphana"
  | d => d.name

/-- The dialect a name stands for, ignoring ASCII case. -/
def parse (s : String) : OrmResult Dialect :=
  let l := String.ofList (s.toList.map Char.toLower)
  if l = "postgres" ∨ l = "postgresql" then .ok postgres
  else if l = "cockroachdb" ∨ l = "cockroach" then .ok cockroachDb
  else if l = "mysql" then .ok mySql
  else if l = "mariadb" then .ok mariaDb
  else if l = "sqlite" ∨ l = "better-sqlite3" then .ok sqlite
  else if l = "libsql" then .ok libSql
  else if l = "duckdb" then .ok duckDb
  else if l = "mssql" ∨ l = "sqlserver" then .ok msSql
  else if l = "oracle" then .ok oracle
  else if l = "sap" ∨ l = "hana" then .ok sapHana
  else if l = "spanner" then .ok spanner
  else .error (.usage ("unknown dialect \"" ++ l ++ "\""))

def isPostgresFamily (d : Dialect) : Bool := d = postgres ∨ d = cockroachDb

def isMySqlFamily (d : Dialect) : Bool := d = mySql ∨ d = mariaDb

def isSqliteFamily (d : Dialect) : Bool := d = sqlite ∨ d = libSql

def replaceChar (s : String) (c : Char) (by_ : String) : String :=
  String.join (s.toList.map fun x => if x = c then by_ else String.singleton x)

/-- Quote an identifier, doubling the closing quote inside it. -/
def escape (d : Dialect) (ident : String) : String :=
  match d with
  | mySql | mariaDb | spanner => "`" ++ replaceChar ident '`' "``" ++ "`"
  | msSql => "[" ++ replaceChar ident ']' "]]" ++ "]"
  | _ => "\"" ++ replaceChar ident '"' "\"\"" ++ "\""

def escapePath (d : Dialect) (path : String) : String :=
  ".".intercalate ((path.splitOn ".").map d.escape)

/-- The opening and closing identifier quotes. -/
def quoteChars (d : Dialect) : Char × Char :=
  match d with
  | mySql | mariaDb | spanner => ('`', '`')
  | msSql => ('[', ']')
  | _ => ('"', '"')

/-- The longest alias in bytes, if the dialect limits it. -/
def maxAliasLength : Dialect → Option Nat
  | postgres | cockroachDb | mySql | mariaDb => some 63
  | oracle => some 30
  | sapHana => some 127
  | msSql => some 128
  | _ => none

/-- An alias that fits the dialect: one too long keeps a prefix, then `_` and the first eight
hex digits of its name-based UUID, so two long aliases stay apart. -/
def shortenAlias (d : Dialect) (name : String) : String :=
  match d.maxAliasLength with
  | none => name
  | some max =>
    if name.utf8ByteSize ≤ max then name
    else
      let hash := (Uuid.v5 Uuid.namespaceOid name.toUTF8.toList).simple
      utf8Prefix name (max - 9) ++ "_" ++ String.ofList (hash.toList.take 8)

def buildColumnAlias (d : Dialect) (name column : String) : String :=
  d.shortenAlias (name ++ "_" ++ column)

/-- The placeholder of the parameter at a position (from 0). -/
def createParameter (d : Dialect) (i : Nat) : String :=
  match d with
  | postgres | cockroachDb | duckDb => "$" ++ toString (i + 1)
  | msSql => "@" ++ toString i
  | oracle => ":" ++ toString (i + 1)
  | spanner => "@param" ++ toString i
  | _ => "?"

def reusesPlaceholders : Dialect → Bool
  | mySql | mariaDb | sqlite | libSql | sapHana => false
  | _ => true

/-- How written rows are read back. -/
def returningStyle : Dialect → ReturningStyle
  | postgres | cockroachDb | sqlite | libSql | duckDb | mariaDb => .returning
  | msSql => .output
  | _ => .none

/-- Whether written rows of a statement kind can be read back; MariaDB cannot for updates. -/
def isReturningSupported (d : Dialect) (k : StatementKind) : Bool :=
  match d.returningStyle with
  | .none => false
  | _ => if d = mariaDb then k ≠ .update else true

def isUuidGenerationSupported : Dialect → Bool
  | postgres | cockroachDb | msSql | duckDb => true
  | _ => false

/-- How an upsert is written. -/
def upsertStyle : Dialect → UpsertStyle
  | postgres | cockroachDb | sqlite | libSql | duckDb => .onConflict
  | mySql | mariaDb => .onDuplicateKey
  | _ => .unsupported

/-- The test that two values differ, nulls included. -/
def distinctFrom (d : Dialect) (left right : String) : OrmResult String :=
  if d.isPostgresFamily ∨ d = duckDb then .ok (left ++ " IS DISTINCT FROM " ++ right)
  else if d.isSqliteFamily then .ok (left ++ " IS NOT " ++ right)
  else .error (.dialectUnsupported d.name "skipping unchanged upsert rows")

/-- The insert keyword that skips conflicting rows, if the dialect has one. -/
def insertIgnoreKeyword : Dialect → Option String
  | mySql | mariaDb => some "INSERT IGNORE"
  | sqlite | libSql => some "INSERT OR IGNORE"
  | _ => none

def defaultKeyword (d : Dialect) : String := if d.isSqliteFamily then "NULL" else "DEFAULT"

/-- The values clause of a row with no given column. -/
def emptyValuesClause : Dialect → String
  | mySql | mariaDb => "VALUES ()"
  | oracle => "VALUES (DEFAULT)"
  | _ => "DEFAULT VALUES"

/-- The expression of the current time. -/
def currentTimestamp : Dialect → String
  | sqlite | libSql => "datetime('now')"
  | oracle => "SYSTIMESTAMP"
  | msSql => "GETDATE()"
  | _ => "CURRENT_TIMESTAMP"

/-- The concatenation of expressions. -/
def concat (d : Dialect) (parts : List String) : String :=
  match d with
  | mySql | mariaDb | msSql | spanner => "CONCAT(" ++ ", ".intercalate parts ++ ")"
  | _ => " || ".intercalate parts

def supportsIlike (d : Dialect) : Bool := d.isPostgresFamily ∨ d = duckDb

def supportsArrayOperators (d : Dialect) : Bool := d.isPostgresFamily ∨ d = duckDb

def supportsUpdateLimit (d : Dialect) : Bool := d.isMySqlFamily

/-- Which row a reported insert id belongs to. -/
def insertIdStrategy : Dialect → InsertIdStrategy
  | mySql | mariaDb => .firstOfBatch
  | sqlite | libSql => .lastOfBatch
  | _ => .none

/-- The one-row table of the dialect, if it needs one. -/
def dualTable : Dialect → Option String
  | oracle => some "DUAL"
  | sapHana => some "DUMMY"
  | _ => none

/-- The clause that limits and offsets a result. -/
def paginationClause (d : Dialect) (limit offset : Option Nat) (hasOrderBy : Bool) :
    OrmResult String :=
  match d with
  | msSql =>
    if limit.isNone ∧ offset.isNone then .ok ""
    else
      .ok ((if hasOrderBy then "" else " ORDER BY (SELECT NULL)") ++
        " OFFSET " ++ toString (offset.getD 0) ++ " ROWS" ++
        (match limit with
          | some l => " FETCH NEXT " ++ toString l ++ " ROWS ONLY"
          | none => ""))
  | oracle =>
    .ok (match limit, offset with
      | none, none => ""
      | some l, none => " FETCH NEXT " ++ toString l ++ " ROWS ONLY"
      | none, some o => " OFFSET " ++ toString o ++ " ROWS"
      | some l, some o => " OFFSET " ++ toString o ++ " ROWS FETCH NEXT " ++ toString l ++ " ROWS ONLY")
  | _ =>
    match limit, offset with
    | none, none => .ok ""
    | some l, none => .ok (" LIMIT " ++ toString l)
    | some l, some o => .ok (" LIMIT " ++ toString l ++ " OFFSET " ++ toString o)
    | none, some o =>
      if d.isSqliteFamily then .ok (" LIMIT -1 OFFSET " ++ toString o)
      else if d.isPostgresFamily ∨ d = duckDb then .ok (" OFFSET " ++ toString o)
      else .error (.dialectUnsupported d.name "OFFSET without LIMIT")

/-- The statements that open a transaction, with an optional isolation level. -/
def startTransactionSql (d : Dialect) (iso : Option Isolation) : List String :=
  let setIso := iso.toList.map fun l => "SET TRANSACTION ISOLATION LEVEL " ++ l.sql
  match d with
  | postgres | cockroachDb => "START TRANSACTION" :: setIso
  | mySql | mariaDb => setIso ++ ["START TRANSACTION"]
  | sqlite | libSql =>
    (if iso = some .readUncommitted then ["PRAGMA read_uncommitted = true"] else []) ++
      ["BEGIN TRANSACTION"]
  | msSql => setIso ++ ["BEGIN TRANSACTION"]
  | oracle | sapHana => setIso
  | duckDb | spanner => ["BEGIN TRANSACTION"]

def commitSql (_ : Dialect) : String := "COMMIT"

def rollbackSql (_ : Dialect) : String := "ROLLBACK"

def supportsSavepoints : Dialect → Bool
  | spanner | duckDb => false
  | _ => true

def createSavepointSql (d : Dialect) (n : String) : String :=
  if d = msSql then "SAVE TRANSACTION " ++ n else "SAVEPOINT " ++ n

def releaseSavepointSql (d : Dialect) (n : String) : Option String :=
  if d = msSql ∨ d = oracle then none else some ("RELEASE SAVEPOINT " ++ n)

def rollbackToSavepointSql (d : Dialect) (n : String) : String :=
  if d = msSql then "ROLLBACK TRANSACTION " ++ n else "ROLLBACK TO SAVEPOINT " ++ n

end Dialect

end EntitySql
