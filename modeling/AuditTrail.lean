import AuditTrail.Access
import AuditTrail.Bson.Extended
import AuditTrail.Bson.ObjectId
import AuditTrail.Bson.Relaxed
import AuditTrail.Bson.Value
import AuditTrail.Cli.Args
import AuditTrail.Cli.Help
import AuditTrail.Cli.Run
import AuditTrail.Config.Basic
import AuditTrail.Config.Loader
import AuditTrail.Decode
import AuditTrail.Error
import AuditTrail.Event.Action
import AuditTrail.Event.Basic
import AuditTrail.Event.Category
import AuditTrail.Event.Decode
import AuditTrail.Filter.Basic
import AuditTrail.Filter.Match
import AuditTrail.Filter.Render
import AuditTrail.Json.Basic
import AuditTrail.Json.Reader
import AuditTrail.Json.Writer
import AuditTrail.Log.Filter
import AuditTrail.Log.Record
import AuditTrail.Main
import AuditTrail.Number.Binary64
import AuditTrail.Number.Shortest
import AuditTrail.Query
import AuditTrail.Store.Activity
import AuditTrail.Store.Collection
import AuditTrail.Store.Service
import AuditTrail.Store.Session
import AuditTrail.Stored
import AuditTrail.Text.Blank
import AuditTrail.Text.CaseFold
import AuditTrail.Time.Instant
import AuditTrail.Time.Rfc3339
import AuditTrail.Toml.Basic
import AuditTrail.Toml.Reader
import AuditTrail.Proofs.Evaluation
import AuditTrail.Proofs.Storage
import AuditTrail.Proofs.Filing
import AuditTrail.Proofs.Clauses
import AuditTrail.Proofs.Selection
import AuditTrail.Proofs.Store
import AuditTrail.Proofs.Window
import AuditTrail.Proofs.Append
import AuditTrail.Proofs.Activity
import AuditTrail.Proofs.QueryLanguage
import AuditTrail.Proofs.Rendering
import AuditTrail.Proofs.Paging
import AuditTrail.Proofs.Dashboard
import AuditTrail.Proofs.Malformed
import AuditTrail.Proofs.Calendar
import AuditTrail.Proofs.Refiling
import AuditTrail.Proofs.NumericOrder
import AuditTrail.Proofs.ReadById
import AuditTrail.Proofs.Defaults
