import DeliveryBench.Bench
import DeliveryBench.Broker
import DeliveryBench.Broker.Client
import DeliveryBench.Broker.Group
import DeliveryBench.Broker.History
import DeliveryBench.Broker.Script
import DeliveryBench.Broker.Target
import DeliveryBench.Duration
import DeliveryBench.Duration.Brief
import DeliveryBench.Duration.Human
import DeliveryBench.Duration.HumanReader
import DeliveryBench.Failure
import DeliveryBench.Journal
import DeliveryBench.Journal.Snapshot
import DeliveryBench.Journal.Violation
import DeliveryBench.Json.Lexical
import DeliveryBench.Json.Record
import DeliveryBench.Message
import DeliveryBench.Message.Id
import DeliveryBench.Message.JsonForm
import DeliveryBench.Ordering
import DeliveryBench.Run
import DeliveryBench.Run.Schedule
import DeliveryBench.Scenario
import DeliveryBench.Scenario.Verdict
import DeliveryBench.Settings
import DeliveryBench.Settings.Environment
import DeliveryBench.Settings.JsonForm
import DeliveryBench.Settings.TomlForm
import DeliveryBench.Signal
import DeliveryBench.Signal.Timeline
import DeliveryBench.Table
import DeliveryBench.Text.Blank
import DeliveryBench.Text.Hex
import DeliveryBench.Text.Quoted
import DeliveryBench.Text.Unseen
import DeliveryBench.Toml.Document
import DeliveryBench.Toml.Lexical
import DeliveryBench.Toml.Node
import DeliveryBench.Toml.Scalar
import DeliveryBench.Toml.Statement
import DeliveryBench.Word
import DeliveryBench.Worker
import DeliveryBench.Worker.Crew
import DeliveryBench.Worker.Loop
import DeliveryBench.Worker.Rule
import DeliveryBench.Worker.Spec
import DeliveryBench.World
import DeliveryBench.Proofs.Broker.Dispatch
import DeliveryBench.Proofs.Broker.Orderly
import DeliveryBench.Proofs.Broker.Effect
import DeliveryBench.Proofs.Broker.Accounts
import DeliveryBench.Proofs.Broker.Conservation
import DeliveryBench.Proofs.Broker.Stickiness
import DeliveryBench.Proofs.Journal.Ledger
import DeliveryBench.Proofs.Journal.Checks
import DeliveryBench.Proofs.Run.Barrier
import DeliveryBench.Proofs.Broker.Steady
import DeliveryBench.Proofs.Broker.Serving
import DeliveryBench.Proofs.Run.Underway
import DeliveryBench.Proofs.Scenario.Build
import DeliveryBench.Proofs.Run.Completion
import DeliveryBench.Proofs.Run.Deliveries
import DeliveryBench.Proofs.Broker.Soundness
import DeliveryBench.Proofs.Run.Verdict
import DeliveryBench.Proofs.Run.Wait
import DeliveryBench.Proofs.Run.Log
import DeliveryBench.Proofs.Run.Posts
import DeliveryBench.Proofs.Run.Diary
import DeliveryBench.Proofs.Run.Progress
import DeliveryBench.Proofs.Run.Parting
import DeliveryBench.Proofs.Run.Teardown
import DeliveryBench.Proofs.Run.Phases
import DeliveryBench.Proofs.Worker.Handle
import DeliveryBench.Proofs.Worker.Bookkeeping
import DeliveryBench.Proofs.Worker.Resilience
import DeliveryBench.Proofs.Run.Lives
import DeliveryBench.Proofs.Broker.Closing
import DeliveryBench.Proofs.Broker.Renumbering
import DeliveryBench.Broker.Dealings
import DeliveryBench.Proofs.Broker.Isolation
import DeliveryBench.Journal.History
import DeliveryBench.Proofs.Journal.Recovery
import DeliveryBench.Worker.Site
import DeliveryBench.Proofs.Broker.Manning
import DeliveryBench.Proofs.Worker.Attendance
import DeliveryBench.Proofs.Places
import DeliveryBench.Proofs.Broker.Winnowing
import DeliveryBench.Proofs.Broker.Refusals
import DeliveryBench.Proofs.Broker.Turns
import DeliveryBench.Proofs.Run.Pending
import DeliveryBench.Scenario.Meaning
import DeliveryBench.Proofs.Run.Judgement
import DeliveryBench.Proofs.Journal.Comparison
import DeliveryBench.Proofs.Journal.Exactness
import DeliveryBench.Worker.Floor
import DeliveryBench.Proofs.Worker.Admission
import DeliveryBench.Proofs.Journal.Tables
import DeliveryBench.Proofs.Scenario.Acceptance
import DeliveryBench.Run.Publishing
import DeliveryBench.Proofs.Run.Publishing
import DeliveryBench.Proofs.Duration.HumanText
import DeliveryBench.Proofs.Toml.Lines
import DeliveryBench.Proofs.Settings.RoundTrip
import DeliveryBench.Proofs.Settings.Layers
import DeliveryBench.Proofs.Duration.Blanks
import DeliveryBench.Proofs.Settings.Agreement
import DeliveryBench.Duration.LastSecond
import DeliveryBench.Proofs.Duration.LastSecond
import DeliveryBench.Proofs.Settings.Standstill
import DeliveryBench.Proofs.Signal.Exactness
import DeliveryBench.Proofs.Signal.Session
