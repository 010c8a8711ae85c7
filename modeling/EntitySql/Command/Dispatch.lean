import EntitySql.Command.DialectTable
import EntitySql.Command.Values
import EntitySql.Command.Metadata
import EntitySql.Command.Build
import EntitySql.Command.Errors
import EntitySql.Command.Postgres
import EntitySql.Command.Exec.Build
import EntitySql.Json.Parse

/-!
# Answering requests

`Command.respond` reads one request line, answers it and writes the answer as one line of JSON.
A request names its operation in `op`; the handler of that operation reads the rest.
-/

namespace EntitySql

namespace Command

def handlers : List (String → Json → Option (Reply Json)) :=
  [DialectTable.answer?, Values.answer?, MetadataView.answer?, BuildRequest.answer?,
    ErrorRequest.answer?, PgRequest.answer?, ExecRequest.answer?]

/-- The answer to a request. -/
def answer (req : Json) : Json :=
  match req.getField? "op" with
  | some (.str op) =>
    match (handlers.findSome? fun h => h op req : Option (Reply Json)) with
    | some (.ok j) => j
    | some (.error f) => f.toJson
    | none => Fault.toJson (.malformed ("unknown op " ++ op))
  | _ => Fault.toJson (.malformed "missing op")

/-- The answer line to a request line. -/
def respond (line : String) : String :=
  match Json.parse line with
  | .ok req => (answer req).render
  | .error e => (Fault.toJson (.malformed e.message)).render

end Command

end EntitySql
