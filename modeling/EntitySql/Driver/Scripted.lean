import EntitySql.Row
import EntitySql.Dialect.Basic

/-!
# A scripted database

The runners of this library talk to a database through a driver. The driver here answers from a
script: a queue of responses, one taken for each statement in the order the statements arrive,
whatever the statement is. It keeps one log of everything it sees, for all its connections
together: connections made or refused, statements with their parameters, streams opened, and
connections closed.

* Connecting counts the attempts from 1; an attempt whose number is listed is refused.
* A statement takes the next response: a failure (a driver error, transient or not), or a result.
  With no response left, the result is empty. A response may take time to arrive.
* Streaming is a capability: a driver without it refuses to stream, and logs nothing. A stream
  takes a response like a statement; its rows come one by one, and the response may put a broken
  item before one of them (or after the last).
* Closing a connection is logged, and fails when the script says so.

Connections have no state of their own, so a runner only needs to know whether it holds one.
-/

namespace EntitySql

/-- Which replica a runner talks to. -/
inductive ReplicationMode where
  | master
  | slave
  deriving DecidableEq, Repr, Inhabited

namespace ReplicationMode

def name : ReplicationMode → String
  | .master => "master"
  | .slave => "slave"

def label : ReplicationMode → String
  | .master => "Master"
  | .slave => "Slave"

end ReplicationMode

/-- What a database reports for one statement: the rows, the number of rows changed when it
knows it, a generated id reported apart from the rows, and the result in the driver's own
shape. -/
structure DriverResult where
  rows : List Row := []
  affected : Option Nat := none
  insertId : Option Value := none
  raw : Json := .null
  deriving Inhabited

namespace DriverResult

def ofRows (rows : List Row) : DriverResult := { rows, raw := .arr (rows.map Row.toObject) }

def ofAffected (n : Nat) : DriverResult := { affected := some n, raw := .int n }

end DriverResult

/-- Rows that arrive one by one; an item may be a failure. -/
abbrev RowStream := List (OrmResult Row)

/-- How the script answers one statement. -/
inductive ScriptedReply where
  /-- A driver error with its text, transient or not. -/
  | failure (message : String) (transient : Bool)
  | success (result : DriverResult)
  deriving Inhabited

def ScriptedReply.outcome : ScriptedReply → OrmResult DriverResult
  | .failure m t => .error (OrmError.driver m t)
  | .success r => .ok r

/-- One response of the script. -/
structure ScriptedResponse where
  reply : ScriptedReply
  /-- How long the answer takes to arrive, in nanoseconds. -/
  delay : Nat := 0
  /-- The row before which a stream of this response breaks, if it does. -/
  breakAt : Option Nat := none
  /-- The text of the broken item of a stream. -/
  breakMessage : Option String := none
  deriving Inhabited

/-- One thing the scripted database saw. -/
inductive DriverEvent where
  | connect (mode : ReplicationMode)
  | connectRefused (mode : ReplicationMode)
  | statement (sql : String) (params : List Value)
  | stream (sql : String) (params : List Value)
  | close
  deriving Inhabited

/-- A database that answers from a script. -/
structure ScriptedDriver where
  dialect : Dialect
  responses : List ScriptedResponse := []
  /-- Everything seen so far, oldest first. -/
  log : List DriverEvent := []
  /-- The number of connection attempts so far. -/
  attempts : Nat := 0
  /-- The numbers of the attempts that are refused. -/
  refused : List Nat := []
  /-- Whether closing a connection fails. -/
  closeFails : Bool := false
  /-- Whether connections can stream rows. -/
  streams : Bool := false
  deriving Inhabited

namespace ScriptedDriver

def record (d : ScriptedDriver) (e : DriverEvent) : ScriptedDriver := { d with log := d.log ++ [e] }

/-- Take the next response. -/
def next (d : ScriptedDriver) : Option ScriptedResponse × ScriptedDriver :=
  match d.responses with
  | r :: rest => (some r, { d with responses := rest })
  | [] => (none, d)

/-- Open a connection to a replica. -/
def connect (d : ScriptedDriver) (mode : ReplicationMode) : OrmResult Unit × ScriptedDriver :=
  let n := d.attempts + 1
  let d := { d with attempts := n }
  if n ∈ d.refused then (.error (.connection "connect refused"), d.record (.connectRefused mode))
  else (.ok (), d.record (.connect mode))

/-- Run a statement: its outcome, and how long it takes in nanoseconds. -/
def query (d : ScriptedDriver) (sql : String) (params : List Value) :
    (OrmResult DriverResult × Nat) × ScriptedDriver :=
  let d := d.record (.statement sql params)
  match d.next with
  | (some r, d) => ((r.reply.outcome, r.delay), d)
  | (none, d) => ((.ok {}, 0), d)

/-- The items of a stream of rows, broken before row `k` (after the last row when `k` is past
them). -/
def breakRows (rows : List Row) (k : Nat) (e : OrmError) : RowStream :=
  (rows.take k).map .ok ++ [.error e] ++ (rows.drop k).map .ok

/-- Stream a statement's rows. -/
def stream (d : ScriptedDriver) (sql : String) (params : List Value) :
    OrmResult RowStream × ScriptedDriver :=
  if !d.streams then (.error (.dialectUnsupported "driver" "row streaming"), d)
  else
    let d := d.record (.stream sql params)
    match d.next with
    | (none, d) => (.ok [], d)
    | (some r, d) =>
      match r.reply with
      | .failure m t => (.error (OrmError.driver m t), d)
      | .success result =>
        match r.breakAt with
        | none => (.ok (result.rows.map .ok), d)
        | some k =>
          let e := OrmError.driver (r.breakMessage.getD "stream broken") false
          (.ok (breakRows result.rows k e), d)

def close (d : ScriptedDriver) : OrmResult Unit × ScriptedDriver :=
  let d := d.record .close
  if d.closeFails then (.error (.connection "close failed"), d) else (.ok (), d)

def drain (d : ScriptedDriver) : List DriverEvent × ScriptedDriver := (d.log, { d with log := [] })

theorem breakRows_length (rows : List Row) (k : Nat) (e : OrmError) :
    (breakRows rows k e).length = rows.length + 1 := by
  simp [breakRows]
  omega

end ScriptedDriver

end EntitySql
