import EntitySql.Postgres.ConnString
import EntitySql.Dialect.Basic
import EntitySql.Error

/-!
# The Postgres driver before it connects

A driver holds connection settings read from a connection string, the dialect it speaks
(Postgres, or CockroachDB over the same protocol) and, when it draws connections from a pool,
the pool's status. A string that does not read is a `Connection` error.

Connecting first checks the settings: some host or host address must be given, hosts and host
addresses must be as many when both are, and several ports must be one per host. This library
reaches no server, so settings that pass the checks fail at the connection itself. A pooled
driver reports the failure as the pool's failure to create a connection.
-/

namespace EntitySql

/-- How the client library fails before a connection is made. -/
inductive ClientFailure where
  /-- The connection string does not read. -/
  | unreadable (e : ConnStringError)
  /-- The settings cannot be used. -/
  | unusable (reason : String)
  /-- No connection to a server could be made. -/
  | unreachable
  deriving DecidableEq, Repr

namespace ClientFailure

/-- The text of the failure. -/
def message : ClientFailure → String
  | .unreadable _ => "invalid connection string"
  | .unusable _ => "invalid configuration"
  | .unreachable => "error connecting to server"

end ClientFailure

/-- The status of a connection pool. -/
structure PoolStatus where
  maxSize : Nat
  size : Nat
  available : Nat
  waiting : Nat
  deriving DecidableEq, Repr

def PoolStatus.empty (maxSize : Nat) : PoolStatus := ⟨maxSize, 0, 0, 0⟩

def defaultPoolSize : Nat := 16

namespace ConnConfig

/-- The checks on the settings before any server is tried. -/
def checkTargets (c : ConnConfig) : Except ClientFailure Unit :=
  if c.hosts.isEmpty ∧ c.hostAddrs.isEmpty then
    .error (.unusable "both host and hostaddr are missing")
  else if !c.hosts.isEmpty ∧ !c.hostAddrs.isEmpty ∧ c.hosts.length ≠ c.hostAddrs.length then
    .error (.unusable "the numbers of hosts and hostaddrs differ")
  else if 1 < c.ports.length ∧ c.ports.length ≠ max c.hosts.length c.hostAddrs.length then
    .error (.unusable "invalid number of ports")
  else .ok ()

end ConnConfig

/-- A Postgres driver: its settings, its dialect and its pool, if it keeps one. -/
structure PgDriver where
  config : ConnConfig
  dialect : Dialect
  pool : Option PoolStatus

namespace PgDriver

/-- Read the settings of a connection string. -/
def readConfig (url : String) : OrmResult ConnConfig :=
  match ConnConfig.parse url with
  | .ok c => .ok c
  | .error e => .error (.connection (ClientFailure.unreadable e).message)

def ofUrl (url : String) (poolSize : Option Nat) : OrmResult PgDriver := do
  let config ← readConfig url
  pure { config, dialect := .postgres, pool := poolSize.map PoolStatus.empty }

def cockroach (d : PgDriver) : PgDriver := { d with dialect := .cockroachDb }

/-- The error of a connection attempt, as the driver reports it. -/
def connectError (d : PgDriver) : OrmError :=
  let failure := match d.config.checkTargets with
    | .error f => f
    | .ok () => .unreachable
  match d.pool with
  | some _ => .pool ("Error occurred while creating a new object: " ++ failure.message)
  | none => .connection failure.message

end PgDriver

end EntitySql
