import PushGateway.Foundation.AssocMap
import PushGateway.Foundation.GroupIndex
import PushGateway.Foundation.Execution
import PushGateway.Foundation.WriteBehind
import PushGateway.Foundation.Recovery
import PushGateway.Foundation.AddressBlock
import PushGateway.Foundation.Base64
import PushGateway.Foundation.HashOrder
import PushGateway.Foundation.Lease
import PushGateway.Foundation.FileSystem
import PushGateway.Foundation.Fields
import PushGateway.Basic
import PushGateway.Document
import PushGateway.Replay.Guard
import PushGateway.Replay.Record
import PushGateway.Replay.Ledger
import PushGateway.Replay.Concurrent
import PushGateway.Replay.AtMostOnce
import PushGateway.Replay.Budgets
import PushGateway.Replay.Fairness
import PushGateway.Replay.Agreement
import PushGateway.Replay.InFlight
import PushGateway.Replay.Duplicates
import PushGateway.Egress
import PushGateway.Egress.Address
import PushGateway.Egress.Resolver
import PushGateway.Egress.AddressText
import PushGateway.Egress.HostName
import PushGateway.Egress.Configuration
import PushGateway.Types
import PushGateway.Normalisation
import PushGateway.Store
import PushGateway.Store.Index
import PushGateway.Store.Registry
import PushGateway.Store.Destination
import PushGateway.Store.History
import PushGateway.Store.Sweep
import PushGateway.Snapshot.Encoding
import PushGateway.Snapshot.Relationships
import PushGateway.Snapshot.Flush
import PushGateway.Snapshot.Crash
import PushGateway.Snapshot.RelationshipStore
import PushGateway.Secretfile
import PushGateway.Secretfile.Keys
import PushGateway.Api
import PushGateway.Metrics
import PushGateway.Sender.Tokens
import PushGateway.Sender.Requests
import PushGateway.Sender.Doorbell
import PushGateway.Sender.Destinations
import PushGateway.Sender.Assertions
import PushGateway.Intake.Window
import PushGateway.Intake.Retention
import PushGateway.Intake
import PushGateway.Pipeline.Outcome
import PushGateway.Pipeline.Transport
import PushGateway.Pipeline.Authority
import PushGateway.Pipeline.Refusal
import PushGateway.Pipeline.Redelivery
import PushGateway.Proof
import PushGateway.Proof.Keys
import PushGateway.Pipeline.Trigger
import PushGateway.Controllers
import PushGateway.Pipeline.Records
import PushGateway.Pipeline.Requests
import PushGateway.Pipeline.Server
import PushGateway.Pipeline.Cancellation
import PushGateway.Pipeline.Provisions
import PushGateway.Pipeline.Linearization
import PushGateway.Adapters
import PushGateway.Pipeline.Pushes
import PushGateway.Pipeline.Signatures
import PushGateway.Pipeline.Scrapes
import PushGateway.Pipeline.Rings
import PushGateway.Pipeline.Answers
import PushGateway.Sender.Delivery
import PushGateway.Pipeline.Counters
import PushGateway.Pipeline.Idempotence
import PushGateway.Snapshot.Restart
