import TaskLedger.Backend
import TaskLedger.Broker.Memory
import TaskLedger.Http.Api
import TaskLedger.Json.Printer
import TaskLedger.Json.Reader
import TaskLedger.Service.Cancel
import TaskLedger.Service.JobFailure
import TaskLedger.Service.Lookup
import TaskLedger.Service.Progress
import TaskLedger.Service.Workplace
import TaskLedger.Settings.Basic
import TaskLedger.Settings.LogFormat
import TaskLedger.Sql.Store
import TaskLedger.Wire.Answer
import TaskLedger.Wire.Record
import TaskLedger.Wire.Settings
import TaskLedger.Proofs.Store.Change
import TaskLedger.Proofs.Store.Evolution
import TaskLedger.Proofs.Store.Consistency
import TaskLedger.Proofs.Store.InPlace
import TaskLedger.Proofs.Store.Listing
import TaskLedger.Proofs.Dialogue.History
import TaskLedger.Proofs.Dialogue.Interleaving
import TaskLedger.Proofs.Dialogue.Turns
import TaskLedger.Proofs.Dialogue.Stretch
import TaskLedger.Proofs.Dialogue.Lockstep
import TaskLedger.Proofs.Dialogue.Apart
import TaskLedger.Proofs.Service.Operation
import TaskLedger.Proofs.Service.Ledger
import TaskLedger.Proofs.Service.FinalWrite
import TaskLedger.Proofs.Service.Course
import TaskLedger.Proofs.Service.Handover
import TaskLedger.Proofs.Broker.Change
import TaskLedger.Proofs.Broker.Notice
import TaskLedger.Proofs.Service.Forestalled
import TaskLedger.Proofs.Service.FailureWrite
import TaskLedger.Proofs.Service.Submission
import TaskLedger.Proofs.Broker.Retention
import TaskLedger.Proofs.Time.Expiry
import TaskLedger.Proofs.Broker.Journal
import TaskLedger.Proofs.Broker.Chronicle
import TaskLedger.Proofs.Service.Grounds
import TaskLedger.Proofs.Service.Surroundings
import TaskLedger.Proofs.Service.Linkage
import TaskLedger.Proofs.Store.Redaction
import TaskLedger.Proofs.Broker.Redaction
import TaskLedger.Proofs.Service.Redaction
import TaskLedger.Proofs.Service.Discretion
import TaskLedger.Proofs.Http.Discretion
import TaskLedger.Proofs.Service.Vanished
import TaskLedger.Proofs.Service.Apart
import TaskLedger.Proofs.Service.SweepOrder
import TaskLedger.Proofs.Crew.Invariant
import TaskLedger.Proofs.Crew.Rest
import TaskLedger.Proofs.Crew.Hiring
import TaskLedger.Proofs.Service.SweepBooks
import TaskLedger.Proofs.Service.SweepCrew
import TaskLedger.Proofs.Service.Hiring
import TaskLedger.Proofs.Service.SweepResult
import TaskLedger.Proofs.Service.SweeperCourse
import TaskLedger.Proofs.Sql.Engine
import TaskLedger.Proofs.Sql.Rows
import TaskLedger.Proofs.Sql.Writes
import TaskLedger.Proofs.Sql.Mirror
import TaskLedger.Proofs.Sql.Listing
import TaskLedger.Proofs.Sql.Refinement
import TaskLedger.Proofs.Service.Diagnosis
import TaskLedger.Proofs.Service.Staleness
import TaskLedger.Proofs.Service.LateStart
import TaskLedger.Proofs.Service.Repetition
import TaskLedger.Proofs.Service.SweepAccount
import TaskLedger.Proofs.Broker.Oblivion
import TaskLedger.Proofs.Broker.Overlooked
import TaskLedger.Proofs.Sql.Guards
import TaskLedger.Proofs.Fallible
import TaskLedger.Proofs.Settings.Environment
import TaskLedger.Proofs.Settings.Capacity
import TaskLedger.Proofs.Text.Uuid
import TaskLedger.Proofs.Service.Callback
import TaskLedger.Proofs.Sql.Codec
import TaskLedger.Proofs.Broker.Revocations
import TaskLedger.Proofs.Time.Calendar
import TaskLedger.Proofs.Time.Rfc3339
import TaskLedger.Proofs.Json.Plain
import TaskLedger.Proofs.Json.Composite
import TaskLedger.Proofs.Wire.Record
