import Turnstile.Address.Basic
import Turnstile.Address.Domain
import Turnstile.Address.Internet
import Turnstile.CommandLine
import Turnstile.Config.Environment
import Turnstile.Config.Error
import Turnstile.Config.Files
import Turnstile.Config.Flat
import Turnstile.Config.Layer
import Turnstile.Config.Settings
import Turnstile.CostTable
import Turnstile.CostTable.Document
import Turnstile.Database
import Turnstile.Database.Connection
import Turnstile.Entitlement
import Turnstile.Failure
import Turnstile.Json.Reader
import Turnstile.Json.Value
import Turnstile.Ledger.Basic
import Turnstile.Ledger.Call
import Turnstile.Ledger.Outage
import Turnstile.Ledger.Scope
import Turnstile.Limiter.Bucket
import Turnstile.Limiter.Table
import Turnstile.Main
import Turnstile.Number.Decimal
import Turnstile.Number.Reading
import Turnstile.Outcome
import Turnstile.Principal
import Turnstile.Proofs.Isolation.Noninterference
import Turnstile.Proofs.Isolation.Request
import Turnstile.Proofs.Isolation.Share
import Turnstile.Proofs.Ledger.Log
import Turnstile.Proofs.Ledger.Rollback
import Turnstile.Proofs.Ledger.Rows
import Turnstile.Proofs.Limiter.Exact
import Turnstile.Proofs.Limiter.Retry
import Turnstile.Proofs.Limiter.Throughput
import Turnstile.Proofs.Reconcile.Calls
import Turnstile.Proofs.Reconcile.Effect
import Turnstile.Proofs.Reconcile.Repeat
import Turnstile.Proofs.Reconcile.Resume
import Turnstile.Proofs.Reconcile.Sweep
import Turnstile.Proofs.Rollover
import Turnstile.Proofs.Rollover.Division
import Turnstile.Proofs.Rollover.Landing
import Turnstile.Proofs.Rollover.Walk
import Turnstile.Proofs.Scope.Abreast
import Turnstile.Proofs.Scope.Exposure
import Turnstile.Proofs.Scope.Replays
import Turnstile.Proofs.Scope.Restore
import Turnstile.Proofs.Scope.Retrace
import Turnstile.Proofs.Scope.Survival
import Turnstile.Proofs.Scope.Write
import Turnstile.Proofs.Service.Admission
import Turnstile.Proofs.Service.Decision
import Turnstile.Proofs.Service.Forecast
import Turnstile.Proofs.Service.Run
import Turnstile.Proofs.Service.Settlement
import Turnstile.Proofs.Service.Snapshot
import Turnstile.Proofs.Service.Sync
import Turnstile.Proofs.Session.Basic
import Turnstile.Proofs.Session.Boundary
import Turnstile.Proofs.Session.Ceiling
import Turnstile.Proofs.Session.Overshoot
import Turnstile.Proofs.Session.Replays
import Turnstile.Proofs.Telemetry.Observer
import Turnstile.Proofs.Traffic.Balance
import Turnstile.Proofs.Traffic.Basic
import Turnstile.Proofs.Traffic.Cancellation
import Turnstile.Proofs.Traffic.Ceiling
import Turnstile.Proofs.Traffic.Delivery
import Turnstile.Proofs.Traffic.Logged
import Turnstile.Proofs.Traffic.Metering
import Turnstile.Proofs.Traffic.Periods
import Turnstile.Proofs.Traffic.Repayment
import Turnstile.Proofs.Traffic.Sound
import Turnstile.Proofs.Traffic.Terms
import Turnstile.Proofs.Traffic.Updates
import Turnstile.Reconcile.Schedule
import Turnstile.Reconcile.Sweep
import Turnstile.Rollover
import Turnstile.Service.Admission
import Turnstile.Service.Error
import Turnstile.Service.Gate
import Turnstile.Service.Procedure
import Turnstile.Service.Settlement
import Turnstile.Service.Snapshot
import Turnstile.Service.Sync
import Turnstile.Subscription
import Turnstile.Telemetry.LogFilter
import Turnstile.Telemetry.Metrics
import Turnstile.Telemetry.Observer
import Turnstile.Text.Alphanumeric
import Turnstile.Text.Base64
import Turnstile.Text.Blank
import Turnstile.Text.Cased
import Turnstile.Text.Hex
import Turnstile.Text.LetterCase
import Turnstile.Text.Pattern
import Turnstile.Text.Percent
import Turnstile.Text.Quoted
import Turnstile.Text.Ranges
import Turnstile.Text.Repair
import Turnstile.Text.Utf8
import Turnstile.Time.Instant
import Turnstile.Time.Timestamp
import Turnstile.Usage.Record
import Turnstile.Usage.Uuid
import Turnstile.Wire.Decoder
import Turnstile.Wire.Record
import Turnstile.Yaml.Cursor
import Turnstile.Yaml.Document
import Turnstile.Yaml.Node
import Turnstile.Yaml.Scalar
import Turnstile.Yaml.Schema
import Turnstile.Yaml.Strict.Place
import Turnstile.Yaml.Strict.Scalar
import Turnstile.Yaml.Strict.Token
import Turnstile.Yaml.Token
import Turnstile.Proofs.Scope.Confinement
import Turnstile.Proofs.Scope.Reservations
import Turnstile.Proofs.Traffic.Grace
import Turnstile.Proofs.Session.Warning
import Turnstile.Proofs.Telemetry.History
import Turnstile.Proofs.Telemetry.Answers
import Turnstile.Proofs.Telemetry.Ratio
import Turnstile.Proofs.Config.Settings
import Turnstile.Proofs.Json.Members
import Turnstile.Proofs.Config.Flat
import Turnstile.Proofs.Config.Layer
import Turnstile.Proofs.Config.Snapshot
import Turnstile.Proofs.Number.Digits
import Turnstile.Proofs.Json.Text
import Turnstile.Proofs.Time.Date
import Turnstile.Proofs.Time.Timestamp
import Turnstile.Proofs.Wire.Fields
import Turnstile.Proofs.Wire.Record
