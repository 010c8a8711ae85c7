import EntitySql.Json.Basic

/-!
# Diagnostic events

The library reports what it does as diagnostic events: a severity, the part of the library the
event comes from (its target), a message when the event has one, and named fields. Fields hold
plain JSON: numbers and flags as themselves, everything else as its text.

The targets are fixed texts, one for each part of the library that reports: the runners, the
query monitors, the statement hooks, the result cache and the loading of related rows.
-/

namespace EntitySql

/-- The severity of an event, most severe first. -/
inductive Level where
  | error
  | warn
  | info
  | debug
  | trace
  deriving DecidableEq, Repr, Inhabited

/-- The name of a severity, in capitals. -/
def Level.name : Level → String
  | .error => "ERROR"
  | .warn => "WARN"
  | .info => "INFO"
  | .debug => "DEBUG"
  | .trace => "TRACE"

/-- A diagnostic event. -/
structure TraceEvent where
  level : Level
  target : String
  message : Option String := none
  fields : List (String × Json) := []
  deriving Inhabited

namespace TraceEvent

def runnerTarget : String := "polyorm.runner"

def queryTarget : String := "polyorm.query"

def sqlTarget : String := "polyorm.sql"

def cacheTarget : String := "polyorm.cache"

def hydrationTarget : String := "polyorm.hydration"

def runner (level : Level) (message : String) (fields : List (String × Json) := []) : TraceEvent :=
  { level, target := runnerTarget, message := some message, fields }

/-- The fields of an event as one object, the message under `message`. -/
def fieldsJson (e : TraceEvent) : Json :=
  match e.message with
  | some m => Json.ofFields (e.fields ++ [("message", .str m)])
  | none => Json.ofFields e.fields

def toJson (e : TraceEvent) : Json :=
  Json.ofFields [("level", .str e.level.name), ("target", .str e.target), ("fields", e.fieldsJson)]

end TraceEvent

end EntitySql
