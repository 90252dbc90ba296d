import BackendRegistrar.Calendar.Day
import BackendRegistrar.Calendar.Timestamp
import BackendRegistrar.Cloud.BackendSet
import BackendRegistrar.Cloud.Client
import BackendRegistrar.Cloud.Error
import BackendRegistrar.Cloud.Service
import BackendRegistrar.Cloud.Signing
import BackendRegistrar.Cloud.Sync
import BackendRegistrar.Cluster.Decode
import BackendRegistrar.Cluster.Form
import BackendRegistrar.Cluster.Form.Container
import BackendRegistrar.Cluster.Form.Node
import BackendRegistrar.Cluster.Form.Pod
import BackendRegistrar.Cluster.Form.Selector
import BackendRegistrar.Cluster.Form.Service
import BackendRegistrar.Cluster.Form.Volume
import BackendRegistrar.Cluster.Metadata
import BackendRegistrar.Cluster.Object
import BackendRegistrar.Cluster.Read
import BackendRegistrar.Cluster.Request
import BackendRegistrar.Config
import BackendRegistrar.Crypto.Der
import BackendRegistrar.Crypto.Pem
import BackendRegistrar.Crypto.Rsa
import BackendRegistrar.Crypto.Sha256
import BackendRegistrar.Decimal.Layout
import BackendRegistrar.Decimal.Nearby
import BackendRegistrar.Decimal.Shortest
import BackendRegistrar.Definition
import BackendRegistrar.Environment
import BackendRegistrar.Error
import BackendRegistrar.Health.Metrics
import BackendRegistrar.Health.Router
import BackendRegistrar.Http.Date
import BackendRegistrar.Http.Message
import BackendRegistrar.Http.Redirect
import BackendRegistrar.Http.Target
import BackendRegistrar.Inventory
import BackendRegistrar.Json.Basic
import BackendRegistrar.Json.Decode
import BackendRegistrar.Json.Equality
import BackendRegistrar.Json.Numeral
import BackendRegistrar.Json.Printer
import BackendRegistrar.Json.Reader
import BackendRegistrar.Json.Setting
import BackendRegistrar.Lifecycle
import BackendRegistrar.Octets
import BackendRegistrar.Pass.Connect
import BackendRegistrar.Pass.Handler
import BackendRegistrar.Pass.Reconcile
import BackendRegistrar.Phase
import BackendRegistrar.PhaseUpdate
import BackendRegistrar.Program
import BackendRegistrar.Proofs.Addresses
import BackendRegistrar.Proofs.BackendSets
import BackendRegistrar.Proofs.Balancer
import BackendRegistrar.Proofs.Canonical
import BackendRegistrar.Proofs.Change
import BackendRegistrar.Proofs.Codecs
import BackendRegistrar.Proofs.Configuration
import BackendRegistrar.Proofs.Convergence
import BackendRegistrar.Proofs.CurrentSpec
import BackendRegistrar.Proofs.Dependence
import BackendRegistrar.Proofs.Draining
import BackendRegistrar.Proofs.EarnedPhases
import BackendRegistrar.Proofs.Effects
import BackendRegistrar.Proofs.EndpointsChanges
import BackendRegistrar.Proofs.Failures
import BackendRegistrar.Proofs.History
import BackendRegistrar.Proofs.Inventory
import BackendRegistrar.Proofs.Measurements
import BackendRegistrar.Proofs.NodeChanges
import BackendRegistrar.Proofs.NodeTracking
import BackendRegistrar.Proofs.Operator
import BackendRegistrar.Proofs.Outcomes
import BackendRegistrar.Proofs.Overrides
import BackendRegistrar.Proofs.Pass
import BackendRegistrar.Proofs.Patching
import BackendRegistrar.Proofs.Paths
import BackendRegistrar.Proofs.PercentCoding
import BackendRegistrar.Proofs.Ports
import BackendRegistrar.Proofs.Protocol
import BackendRegistrar.Proofs.Records
import BackendRegistrar.Proofs.Redirect
import BackendRegistrar.Proofs.References
import BackendRegistrar.Proofs.Registration
import BackendRegistrar.Proofs.Repetition
import BackendRegistrar.Proofs.Resets
import BackendRegistrar.Proofs.Resources
import BackendRegistrar.Proofs.Rules
import BackendRegistrar.Proofs.ServingNodes
import BackendRegistrar.Proofs.SharedSets
import BackendRegistrar.Proofs.Signing
import BackendRegistrar.Proofs.StatusWrites
import BackendRegistrar.Proofs.SyncMetrics
import BackendRegistrar.Proofs.Synchronization
import BackendRegistrar.Proofs.Task
import BackendRegistrar.Proofs.Trace
import BackendRegistrar.Proofs.Transport
import BackendRegistrar.Proofs.Trigger
import BackendRegistrar.Proofs.Verification
import BackendRegistrar.Proofs.Waiting
import BackendRegistrar.Proofs.Watching
import BackendRegistrar.Registrar
import BackendRegistrar.Registration
import BackendRegistrar.SecretStore
import BackendRegistrar.Simulation.Await
import BackendRegistrar.Simulation.Clouds
import BackendRegistrar.Simulation.Cluster
import BackendRegistrar.Simulation.Scenario
import BackendRegistrar.Simulation.Schedule
import BackendRegistrar.Simulation.Store
import BackendRegistrar.Simulation.Watch
import BackendRegistrar.Simulation.World
import BackendRegistrar.Spec
import BackendRegistrar.Target
import BackendRegistrar.Text.Base64
import BackendRegistrar.Text.Characters
import BackendRegistrar.Text.Codes
import BackendRegistrar.Text.Mark
import BackendRegistrar.Text.Normal
import BackendRegistrar.Text.Normal.Parts
import BackendRegistrar.Text.Normal.Rank
import BackendRegistrar.Text.Pieces
import BackendRegistrar.Text.Printable
import BackendRegistrar.Text.Utf8
import BackendRegistrar.Trigger.Reset
import BackendRegistrar.Trigger.Watch
import BackendRegistrar.Url.Basic
import BackendRegistrar.Url.Host
import BackendRegistrar.Url.International
import BackendRegistrar.Url.International.Direction
import BackendRegistrar.Url.International.Joining
import BackendRegistrar.Url.International.Punycode
import BackendRegistrar.Url.International.Spelling
import BackendRegistrar.Url.Parser
import BackendRegistrar.Url.Path
import BackendRegistrar.Url.Percent
import BackendRegistrar.Validation
