import SqlSchema.Dialect.Expression
import SqlSchema.Json.Writer
import SqlSchema.Main
import SqlSchema.Operation.InsertId
import SqlSchema.Operation.Inspection
import SqlSchema.Session.Lemmas
import SqlSchema.Sql.Keyword
import SqlSchema.Proofs.Sql.Token
import SqlSchema.Proofs.Schema.Written
import SqlSchema.Proofs.Schema.CreateTable
import SqlSchema.Proofs.Operation.Creation
import SqlSchema.Proofs.Operation.Basic
import SqlSchema.Proofs.Operation.TablePrefix
import SqlSchema.Proofs.Sql.Page
import SqlSchema.Proofs.Schema.Alteration
import SqlSchema.Proofs.Operation.Altering
import SqlSchema.Proofs.Session.Path
import SqlSchema.Proofs.Sql.SequenceUse
import SqlSchema.Proofs.Operation.SequencePath
import SqlSchema.Proofs.Operation.SequenceName
import SqlSchema.Proofs.Operation.SequenceLife
import SqlSchema.Proofs.Operation.SequenceOwner
import SqlSchema.Proofs.Operation.DropAll
import SqlSchema.Proofs.Sql.Hazard
import SqlSchema.Proofs.Operation.Attempts
import SqlSchema.Proofs.Operation.Guarding
import SqlSchema.Proofs.Operation.Trace
import SqlSchema.Proofs.Json.Record
import SqlSchema.Proofs.Schema.Format
import SqlSchema.Proofs.Schema.Replay
import SqlSchema.Proofs.Text.Parts
import SqlSchema.Proofs.Sql.Insertion
import SqlSchema.Proofs.Sql.Remark
import SqlSchema.Proofs.Sql.FromClause
import SqlSchema.Proofs.Operation.BoundId
import SqlSchema.Proofs.Session.Row
import SqlSchema.Proofs.Session.Leaves
import SqlSchema.Proofs.Operation.Bare
import SqlSchema.Proofs.Operation.NewId
import SqlSchema.Proofs.Operation.Dropping
import SqlSchema.Proofs.Operation.Commenting
import SqlSchema.Proofs.CommandLine.DryRun
import SqlSchema.Proofs.Sql.Prepared
import SqlSchema.Proofs.Operation.Gathering
import SqlSchema.Proofs.Operation.Inspecting
import SqlSchema.Proofs.Time.RoundTrip
import SqlSchema.Proofs.Operation.Reformatting
import SqlSchema.Proofs.Sql.Quoted
import SqlSchema.Proofs.Sql.Literal
import SqlSchema.Proofs.Settings
import SqlSchema.Proofs.Schema.Key
import SqlSchema.Proofs.Sql.Keyword
import SqlSchema.Proofs.Sql.Numeral
