import Chronicle.Attributes
import Chronicle.ByKind
import Chronicle.Database
import Chronicle.Database.Address
import Chronicle.Database.Driver
import Chronicle.Database.Engine
import Chronicle.Database.Fault
import Chronicle.Database.Options
import Chronicle.Diff
import Chronicle.Entity
import Chronicle.Error
import Chronicle.Error.Class
import Chronicle.Error.Family
import Chronicle.History.AdditionLog
import Chronicle.History.Indexed
import Chronicle.History.ModificationLog
import Chronicle.History.Timeline
import Chronicle.Kind
import Chronicle.Lifespan
import Chronicle.Logging.Config
import Chronicle.Logging.Line
import Chronicle.Logging.Logger
import Chronicle.Logging.Render
import Chronicle.Number.Decimal
import Chronicle.Number.Double
import Chronicle.Reconstruction
import Chronicle.Schema.Basic
import Chronicle.Schema.Checked
import Chronicle.Schema.Conversion
import Chronicle.Schema.Numeral
import Chronicle.Schema.Violation
import Chronicle.Service.Operation
import Chronicle.Service.Read
import Chronicle.Service.Write
import Chronicle.Settings
import Chronicle.Sorting.Gallop
import Chronicle.Sorting.Insertion
import Chronicle.Sorting.Merge
import Chronicle.Sorting.Runs
import Chronicle.Storage.EntityTable
import Chronicle.Storage.Memory
import Chronicle.Storage.Program
import Chronicle.Storage.Relational.Definition
import Chronicle.Storage.Relational.Row
import Chronicle.Storage.Relational.Select
import Chronicle.Storage.Relational.Session
import Chronicle.Storage.Relational.Table
import Chronicle.Storage.Relational.Transaction
import Chronicle.Storage.UnitOfWork
import Chronicle.Text.Blank
import Chronicle.Text.Digit
import Chronicle.Text.Integer
import Chronicle.Text.Line
import Chronicle.Text.Percent
import Chronicle.Text.Printable
import Chronicle.Text.Quoted
import Chronicle.Text.Word
import Chronicle.Time.Calendar
import Chronicle.Time.Moment
import Chronicle.Time.Written
import Chronicle.Value.Basic
import Chronicle.Value.Order
import Chronicle.Value.Text
import Chronicle.Proofs.Except
import Chronicle.Proofs.History.Creations
import Chronicle.Proofs.History.Indexed
import Chronicle.Proofs.History.Logs
import Chronicle.Proofs.History.Refinement
import Chronicle.Proofs.History.Stability
import Chronicle.Proofs.History.Timeline
import Chronicle.Proofs.Reconstruction.Divided
import Chronicle.Proofs.Reconstruction.Evaluation
import Chronicle.Proofs.Reconstruction.Exactness
import Chronicle.Proofs.Reconstruction.Keys
import Chronicle.Proofs.Reconstruction.Movements
import Chronicle.Proofs.Reconstruction.Ordering
import Chronicle.Proofs.Reconstruction.Positions
import Chronicle.Proofs.Reconstruction.Presence
import Chronicle.Proofs.Reconstruction.Queries
import Chronicle.Proofs.Reconstruction.Recorded
import Chronicle.Proofs.Reconstruction.Selection
import Chronicle.Proofs.Reconstruction.Totality
import Chronicle.Proofs.Reconstruction.Window
import Chronicle.Proofs.Relational.Agreement
import Chronicle.Proofs.Relational.Calls
import Chronicle.Proofs.Relational.Columns
import Chronicle.Proofs.Relational.Correspondence
import Chronicle.Proofs.Relational.EntityRows
import Chronicle.Proofs.Relational.Evaluation
import Chronicle.Proofs.Relational.Journal
import Chronicle.Proofs.Relational.LogRows
import Chronicle.Proofs.Relational.Queries
import Chronicle.Proofs.Relational.Representation
import Chronicle.Proofs.Relational.RowStore
import Chronicle.Proofs.Relational.Rows
import Chronicle.Proofs.Relational.Snapshots
import Chronicle.Proofs.Relational.Steps
import Chronicle.Proofs.Relational.Transactions
import Chronicle.Proofs.Relational.UpdateCalls
import Chronicle.Proofs.Relational.WellFormed
import Chronicle.Proofs.Relational.Work
import Chronicle.Proofs.Rewind
import Chronicle.Proofs.Schema.Normal
import Chronicle.Proofs.Schema.Overwriting
import Chronicle.Proofs.Schema.Projection
import Chronicle.Proofs.Schema.WellFormed
import Chronicle.Proofs.Service.Atomicity
import Chronicle.Proofs.Service.AuditTrail
import Chronicle.Proofs.Service.Boundary
import Chronicle.Proofs.Service.Chronology
import Chronicle.Proofs.Service.Commutation
import Chronicle.Proofs.Service.Composition
import Chronicle.Proofs.Service.Direct
import Chronicle.Proofs.Service.Discretion
import Chronicle.Proofs.Service.Effect
import Chronicle.Proofs.Service.Footprint
import Chronicle.Proofs.Service.Instants
import Chronicle.Proofs.Service.Keeping
import Chronicle.Proofs.Service.Ledger
import Chronicle.Proofs.Service.Lines
import Chronicle.Proofs.Service.Operation
import Chronicle.Proofs.Service.Reachable
import Chronicle.Proofs.Service.Read
import Chronicle.Proofs.Service.References
import Chronicle.Proofs.Service.Run
import Chronicle.Proofs.Service.Simulation
import Chronicle.Proofs.Service.Snapshots
import Chronicle.Proofs.Service.Write
import Chronicle.Proofs.Sorting.Comparison
import Chronicle.Proofs.Sorting.Gallop
import Chronicle.Proofs.Sorting.Insertion
import Chronicle.Proofs.Sorting.MergeDown
import Chronicle.Proofs.Sorting.MergeUp
import Chronicle.Proofs.Sorting.Permutation
import Chronicle.Proofs.Sorting.Runs
import Chronicle.Proofs.Sorting.Stable
import Chronicle.Proofs.Storage.Change
import Chronicle.Proofs.Storage.Direct
import Chronicle.Proofs.Storage.Integrity
import Chronicle.Proofs.Storage.Register
import Chronicle.Proofs.Storage.Taken
import Chronicle.Proofs.Storage.Written
import Chronicle.Proofs.Time.Calendar
import Chronicle.Proofs.Time.Universal
import Chronicle.Proofs.Value.Order
