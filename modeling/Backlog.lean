import Backlog.Config.Engine
import Backlog.Config.Environment
import Backlog.Config.Gate
import Backlog.Config.Wire
import Backlog.Database.Query
import Backlog.Database.Row
import Backlog.Database.Schema
import Backlog.Database.Server
import Backlog.Database.Statement
import Backlog.Database.Value
import Backlog.Engine.Attempt
import Backlog.Engine.Backoff
import Backlog.Engine.Outcome
import Backlog.Engine.Registry
import Backlog.Engine.Sweep
import Backlog.Engine.Sweeper
import Backlog.Engine.Worker
import Backlog.Gate.Class
import Backlog.Gate.Gate
import Backlog.Gate.Slots
import Backlog.Json.Printer
import Backlog.Json.Reader
import Backlog.Json.Value
import Backlog.Logging.Event
import Backlog.Logging.Filter
import Backlog.Logging.Format
import Backlog.Logging.Level
import Backlog.Logging.Setup
import Backlog.Proofs.Config.Bounds
import Backlog.Proofs.Config.Capacity
import Backlog.Proofs.Config.Settings
import Backlog.Proofs.Database.Agreement
import Backlog.Proofs.Database.Records
import Backlog.Proofs.Database.RoundTrip
import Backlog.Proofs.Database.Table
import Backlog.Proofs.Distinct
import Backlog.Proofs.Drain.Basic
import Backlog.Proofs.Drain.Completion
import Backlog.Proofs.Drain.Fate
import Backlog.Proofs.Engine.Backoff
import Backlog.Proofs.Engine.Idle
import Backlog.Proofs.Engine.Registrations
import Backlog.Proofs.Engine.Sleeps
import Backlog.Proofs.Errand.Basic
import Backlog.Proofs.Errand.Dispatch
import Backlog.Proofs.Errand.Outcome
import Backlog.Proofs.Errand.Report
import Backlog.Proofs.Errand.Trail
import Backlog.Proofs.Firm.Accounts
import Backlog.Proofs.Firm.Basic
import Backlog.Proofs.Gate.Conservation
import Backlog.Proofs.Gate.Crowd
import Backlog.Proofs.Gate.FirstCome
import Backlog.Proofs.Gate.Order
import Backlog.Proofs.Gate.Unnoticed
import Backlog.Proofs.Gate.Vigil
import Backlog.Proofs.Owner.Isolation
import Backlog.Proofs.Owner.Store
import Backlog.Proofs.Service.Conduct
import Backlog.Proofs.Service.Dealings
import Backlog.Proofs.Shift.Ages
import Backlog.Proofs.Shift.Basic
import Backlog.Proofs.Shift.Shutdown
import Backlog.Proofs.Store.Count
import Backlog.Proofs.Store.Effect
import Backlog.Proofs.Store.Enumeration
import Backlog.Proofs.Store.History
import Backlog.Proofs.Store.InFlight
import Backlog.Proofs.Store.Match
import Backlog.Proofs.Store.Order
import Backlog.Proofs.Sweep.Exact
import Backlog.Proofs.Task.Advance
import Backlog.Proofs.Task.Check
import Backlog.Proofs.Task.Identifier
import Backlog.Proofs.Task.NormalForm
import Backlog.Proofs.Task.RoundTrip
import Backlog.Proofs.Text.Decimal
import Backlog.Proofs.Text.Trim
import Backlog.Proofs.Time.Calendar
import Backlog.Proofs.Time.Difference
import Backlog.Proofs.Time.Timestamp
import Backlog.Proofs.Watch.Attempts
import Backlog.Proofs.Watch.Basic
import Backlog.Proofs.Watch.WakeUp
import Backlog.Proofs.Workshop.Agreement
import Backlog.Proofs.Workshop.Basic
import Backlog.Proofs.Workshop.Calls
import Backlog.Proofs.Workshop.Cancellation
import Backlog.Proofs.Workshop.Carried
import Backlog.Proofs.Workshop.Change
import Backlog.Proofs.Workshop.Claims
import Backlog.Proofs.Workshop.Clock
import Backlog.Proofs.Workshop.Consistency
import Backlog.Proofs.Workshop.Endings
import Backlog.Proofs.Workshop.Overlap
import Backlog.Proofs.Workshop.Provenance
import Backlog.Proofs.Workshop.Sound
import Backlog.Proofs.Workshop.Trail
import Backlog.Proofs.Workshop.Turns
import Backlog.Proofs.Workshop.Verdict
import Backlog.Proofs.Workshop.Yield
import Backlog.Service.Cancel
import Backlog.Service.Lookup
import Backlog.Service.Submit
import Backlog.Simulation.Labels
import Backlog.Simulation.Scenario
import Backlog.Simulation.Scheduler
import Backlog.Simulation.Script
import Backlog.Simulation.World
import Backlog.Store.Activity
import Backlog.Store.Call
import Backlog.Store.Error
import Backlog.Store.Faults
import Backlog.Store.Memory
import Backlog.Task.Error
import Backlog.Task.Id
import Backlog.Task.Kind
import Backlog.Task.Record
import Backlog.Task.Status
import Backlog.Task.Submission
import Backlog.Task.Update
import Backlog.Task.Wire
import Backlog.Text.Blank
import Backlog.Text.Decimal
import Backlog.Text.Printable
import Backlog.Text.Quoted
import Backlog.Time.Calendar
import Backlog.Time.Duration
import Backlog.Time.Instant
import Backlog.Time.Timestamp
