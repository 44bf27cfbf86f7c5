import FleetDeploy.Batch
import FleetDeploy.Broadcast
import FleetDeploy.Catalog
import FleetDeploy.Clock
import FleetDeploy.Config.Basic
import FleetDeploy.Config.Environment
import FleetDeploy.Config.Load
import FleetDeploy.Config.Read
import FleetDeploy.Config.Toml
import FleetDeploy.Config.Value
import FleetDeploy.Deployer
import FleetDeploy.Dispatch
import FleetDeploy.Error
import FleetDeploy.Event
import FleetDeploy.EventStream
import FleetDeploy.Execution
import FleetDeploy.Fleet.Basic
import FleetDeploy.Fleet.Engine
import FleetDeploy.Fleet.Faults
import FleetDeploy.Fleet.Infrastructure
import FleetDeploy.Fleet.KeySpace
import FleetDeploy.Fleet.Recorders
import FleetDeploy.Interleaving
import FleetDeploy.Json.Basic
import FleetDeploy.Json.Parser
import FleetDeploy.Json.Printer
import FleetDeploy.Logging
import FleetDeploy.Monitor
import FleetDeploy.Number.Binary64
import FleetDeploy.Number.Reading
import FleetDeploy.Number.Shortest
import FleetDeploy.Outcome
import FleetDeploy.Pipeline
import FleetDeploy.Plan.Basic
import FleetDeploy.Plan.Classification
import FleetDeploy.Plan.Planning
import FleetDeploy.Problem
import FleetDeploy.Program
import FleetDeploy.Proofs.Batch.Alone
import FleetDeploy.Proofs.Batch.Effects
import FleetDeploy.Proofs.Batch.Escalation
import FleetDeploy.Proofs.Batch.Exchanges
import FleetDeploy.Proofs.Batch.Joining
import FleetDeploy.Proofs.Batch.Judging
import FleetDeploy.Proofs.Batch.Moments
import FleetDeploy.Proofs.Batch.Scheduling
import FleetDeploy.Proofs.Batch.Shuffling
import FleetDeploy.Proofs.Batch.Units
import FleetDeploy.Proofs.Catalog.Prioritizing
import FleetDeploy.Proofs.Catalog.Resolving
import FleetDeploy.Proofs.Config.Layers
import FleetDeploy.Proofs.Config.Trees
import FleetDeploy.Proofs.Config.Validation
import FleetDeploy.Proofs.Deployer.CollectingLogs
import FleetDeploy.Proofs.Deployer.Conduct
import FleetDeploy.Proofs.Deployer.Connecting
import FleetDeploy.Proofs.Deployer.Events
import FleetDeploy.Proofs.Deployer.Flushing
import FleetDeploy.Proofs.Deployer.Independence
import FleetDeploy.Proofs.Deployer.Numbers
import FleetDeploy.Proofs.Deployer.Preparation
import FleetDeploy.Proofs.Deployer.Reaping
import FleetDeploy.Proofs.Deployer.Refusal
import FleetDeploy.Proofs.Deployer.RollingBack
import FleetDeploy.Proofs.Deployer.Routing
import FleetDeploy.Proofs.Deployer.Running
import FleetDeploy.Proofs.Deployer.Schedules
import FleetDeploy.Proofs.Deployer.Serving
import FleetDeploy.Proofs.Deployer.Submissions
import FleetDeploy.Proofs.Deployer.Verdict
import FleetDeploy.Proofs.Dispatch.Phases
import FleetDeploy.Proofs.Dispatch.Waiting
import FleetDeploy.Proofs.Fleet.Agreement
import FleetDeploy.Proofs.Fleet.Attribution
import FleetDeploy.Proofs.Fleet.Collaborators
import FleetDeploy.Proofs.Fleet.Effects
import FleetDeploy.Proofs.Fleet.History
import FleetDeploy.Proofs.Fleet.References
import FleetDeploy.Proofs.Fleet.Taking
import FleetDeploy.Proofs.Fleet.Usage
import FleetDeploy.Proofs.Merging
import FleetDeploy.Proofs.Plan.Grounds
import FleetDeploy.Proofs.Plan.Modes
import FleetDeploy.Proofs.Plan.Planning
import FleetDeploy.Proofs.Plan.Rules
import FleetDeploy.Proofs.Plan.Verdicts
import FleetDeploy.Proofs.Program.Alike
import FleetDeploy.Proofs.Program.Blindness
import FleetDeploy.Proofs.Program.Calls
import FleetDeploy.Proofs.Program.Conduct
import FleetDeploy.Proofs.Program.Effects
import FleetDeploy.Proofs.Program.Events
import FleetDeploy.Proofs.Program.Exchanges
import FleetDeploy.Proofs.Program.Run
import FleetDeploy.Proofs.Program.Timing
import FleetDeploy.Proofs.Reap.Again
import FleetDeploy.Proofs.Reap.Comparing
import FleetDeploy.Proofs.Reap.Conduct
import FleetDeploy.Proofs.Reap.Counting
import FleetDeploy.Proofs.Reap.Deletions
import FleetDeploy.Proofs.Reap.Effects
import FleetDeploy.Proofs.Reap.Isolation
import FleetDeploy.Proofs.Reap.Remains
import FleetDeploy.Proofs.Reap.Selection
import FleetDeploy.Proofs.Reap.Serving
import FleetDeploy.Proofs.Reap.Shortcut
import FleetDeploy.Proofs.Reap.Usage
import FleetDeploy.Proofs.RedBlack
import FleetDeploy.Proofs.Severity
import FleetDeploy.Proofs.SortedMap
import FleetDeploy.Proofs.Stream.Accounts
import FleetDeploy.Proofs.Stream.Rules
import FleetDeploy.Proofs.Text.Decimal
import FleetDeploy.Proofs.Version
import FleetDeploy.Proofs.Wire.Decoding
import FleetDeploy.Proofs.Wire.KnownFields
import FleetDeploy.Proofs.Wire.RoundTrip
import FleetDeploy.Proofs.Wire.Strictness
import FleetDeploy.Proofs.Wire.Types
import FleetDeploy.Reap.Pass
import FleetDeploy.Reap.Report
import FleetDeploy.Reap.Selection
import FleetDeploy.Reap.Usage
import FleetDeploy.RedBlack
import FleetDeploy.RemoteAction
import FleetDeploy.Report
import FleetDeploy.Retention
import FleetDeploy.Running
import FleetDeploy.Service
import FleetDeploy.Settings
import FleetDeploy.Severity
import FleetDeploy.SortedMap
import FleetDeploy.Text.CaseTables
import FleetDeploy.Text.Decimal
import FleetDeploy.Text.Lowercase
import FleetDeploy.Text.Mark
import FleetDeploy.Text.Quoted
import FleetDeploy.Text.Unseen
import FleetDeploy.Version
import FleetDeploy.Wire.Codec
import FleetDeploy.Wire.Record
import FleetDeploy.Wire.Variant
import FleetDeploy.WireType
