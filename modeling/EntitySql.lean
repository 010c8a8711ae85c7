import EntitySql.Cache.Memory
import EntitySql.Change.Diff
import EntitySql.Change.Equal
import EntitySql.Command.Build
import EntitySql.Command.Codec
import EntitySql.Command.Conditions
import EntitySql.Command.DialectTable
import EntitySql.Command.Dispatch
import EntitySql.Command.Entities
import EntitySql.Command.Errors
import EntitySql.Command.Exec.Build
import EntitySql.Command.Exec.Session
import EntitySql.Command.Exec.Setup
import EntitySql.Command.Exec.Steps
import EntitySql.Command.Metadata
import EntitySql.Command.Postgres
import EntitySql.Command.Values
import EntitySql.Decimal.Read
import EntitySql.Decimal.Shortest
import EntitySql.Decimal.Text
import EntitySql.Dialect.Basic
import EntitySql.Dialect.Coerce
import EntitySql.Dialect.Lock
import EntitySql.Dialect.Placeholder
import EntitySql.Driver.Scripted
import EntitySql.Error
import EntitySql.Execute.Raw
import EntitySql.Execute.Related
import EntitySql.Execute.Relation
import EntitySql.Execute.Select
import EntitySql.Execute.Write
import EntitySql.Hash.Sha1
import EntitySql.Hydration.Entities
import EntitySql.Hydration.Keys
import EntitySql.IpAddress
import EntitySql.Json.Basic
import EntitySql.Json.Decode
import EntitySql.Json.Parse
import EntitySql.Json.Print
import EntitySql.Monitor.Basic
import EntitySql.Monitor.Hook
import EntitySql.Monitor.Statement
import EntitySql.Monitor.Trace
import EntitySql.Postgres.ConnString
import EntitySql.Postgres.Driver
import EntitySql.Postgres.Encode
import EntitySql.Postgres.Type
import EntitySql.Postgres.Wire
import EntitySql.Proofs.Builder.FirstFailure
import EntitySql.Proofs.Builder.FreshNames
import EntitySql.Proofs.Builder.KeepsFailure
import EntitySql.Proofs.Builder.SharedCounter
import EntitySql.Proofs.Builder.WhereFrame
import EntitySql.Proofs.Update.Assignments
import EntitySql.Proofs.Insert.BatchIds
import EntitySql.Proofs.Postgres.Parameters
import EntitySql.Proofs.Query.Count
import EntitySql.Proofs.Relation.KeyMatch
import EntitySql.Proofs.Relation.Writes
import EntitySql.Proofs.Cache.Recency
import EntitySql.Proofs.Change.SameValue
import EntitySql.Proofs.Query.JoinFilter
import EntitySql.Proofs.Query.Paging
import EntitySql.Proofs.Query.ReferenceRewriting
import EntitySql.Proofs.Query.RewriteKeepsParameters
import EntitySql.Proofs.Query.Templates
import EntitySql.Proofs.Query.ConditionsWithin
import EntitySql.Proofs.Query.StatementsWithin
import EntitySql.Proofs.Query.WritesWithin
import EntitySql.Proofs.Dialect.AliasLength
import EntitySql.Proofs.Dialect.Stored
import EntitySql.Proofs.Error.Chains
import EntitySql.Proofs.Hydration.Grouping
import EntitySql.Proofs.Hydration.SelectList
import EntitySql.Proofs.Insert.Cells
import EntitySql.Proofs.Monitor.Scanner
import EntitySql.Proofs.Placeholder.Expansion
import EntitySql.Proofs.Placeholder.Pieces
import EntitySql.Proofs.Placeholder.References
import EntitySql.Proofs.Placeholder.Tokens
import EntitySql.Proofs.Placeholder.Within
import EntitySql.Proofs.Placeholder.Written
import EntitySql.Proofs.Runner.Backoff
import EntitySql.Proofs.Runner.Calls
import EntitySql.Proofs.Runner.Levels
import EntitySql.Proofs.Runner.Pipeline
import EntitySql.Proofs.Runner.Release
import EntitySql.Proofs.Runner.Scope
import EntitySql.Proofs.Runner.Server
import EntitySql.Proofs.Schema.Hierarchy
import EntitySql.Proofs.Schema.Paths
import EntitySql.Proofs.Sql.Lexer
import EntitySql.Proofs.Sql.Predicates
import EntitySql.Proofs.Sql.Reading
import EntitySql.Proofs.Sql.Texts
import EntitySql.Proofs.Time.Written
import EntitySql.Proofs.Time.Calendar
import EntitySql.Proofs.Time.Instant
import EntitySql.Proofs.Value.TaggedReadBack
import EntitySql.Proofs.Cache.StoredRows
import EntitySql.Proofs.Where.Clause
import EntitySql.Proofs.Where.Discriminator
import EntitySql.Proofs.Where.Ids
import EntitySql.Proofs.Where.Meaning
import EntitySql.Query.Alias
import EntitySql.Query.Builder
import EntitySql.Query.Clauses
import EntitySql.Query.Condition
import EntitySql.Query.Insert
import EntitySql.Query.PropertyNames
import EntitySql.Query.RelationLoad
import EntitySql.Query.Select
import EntitySql.Query.SelectSql
import EntitySql.Query.State
import EntitySql.Query.Update
import EntitySql.Query.Where
import EntitySql.Row
import EntitySql.Row.Snapshot
import EntitySql.Runner.Lifecycle
import EntitySql.Runner.Retry
import EntitySql.Runner.Statement
import EntitySql.Runner.Transaction
import EntitySql.Runner.World
import EntitySql.Schema.Builder
import EntitySql.Schema.Column
import EntitySql.Schema.ColumnType
import EntitySql.Schema.Entity
import EntitySql.Schema.Path
import EntitySql.Schema.Registry
import EntitySql.Schema.Relation
import EntitySql.Text.Blank
import EntitySql.Text.Prefix
import EntitySql.Text.Search
import EntitySql.Text.Split
import EntitySql.Time.Basic
import EntitySql.Time.Parse
import EntitySql.Time.Text
import EntitySql.Uuid
import EntitySql.Value.Basic
import EntitySql.Value.Convert
import EntitySql.Value.Inspect
import EntitySql.Value.Tagged
