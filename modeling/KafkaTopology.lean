import KafkaTopology.Account
import KafkaTopology.Acl
import KafkaTopology.Action
import KafkaTopology.Artefact
import KafkaTopology.Backend
import KafkaTopology.Binary64
import KafkaTopology.Binary64.Shortest
import KafkaTopology.CommandLine
import KafkaTopology.CommandLine.Argument
import KafkaTopology.CommandLine.Completion
import KafkaTopology.Config
import KafkaTopology.ConnectServers
import KafkaTopology.Decode
import KafkaTopology.Document
import KafkaTopology.Document.Json
import KafkaTopology.Document.Json.Printer
import KafkaTopology.Document.Json.Token
import KafkaTopology.Document.Toml
import KafkaTopology.Document.Toml.Printer
import KafkaTopology.Document.Toml.Scalar
import KafkaTopology.Document.Toml.Table
import KafkaTopology.Document.Toml.Value
import KafkaTopology.Document.Yaml
import KafkaTopology.Document.Yaml.Cursor
import KafkaTopology.Document.Yaml.Event
import KafkaTopology.Document.Yaml.Resolution
import KafkaTopology.Document.Yaml.Scalar
import KafkaTopology.Document.Yaml.Tag
import KafkaTopology.Document.Yaml.Token
import KafkaTopology.Document.Yaml.Token.Lexer
import KafkaTopology.Failure
import KafkaTopology.Host
import KafkaTopology.Host.FileTree
import KafkaTopology.Host.Variables
import KafkaTopology.KafkaTools
import KafkaTopology.Main
import KafkaTopology.OrderedSet
import KafkaTopology.Path
import KafkaTopology.Plan
import KafkaTopology.Plan.Summary
import KafkaTopology.Planner
import KafkaTopology.Proofs.Attempt
import KafkaTopology.Proofs.Backend
import KafkaTopology.Proofs.Bindings
import KafkaTopology.Proofs.Calls
import KafkaTopology.Proofs.Carries
import KafkaTopology.Proofs.Cluster.Apply
import KafkaTopology.Proofs.Cluster.Brokers
import KafkaTopology.Proofs.Cluster.Collision
import KafkaTopology.Proofs.Cluster.Deployment
import KafkaTopology.Proofs.Cluster.History
import KafkaTopology.Proofs.Cluster.Mark
import KafkaTopology.Proofs.Cluster.Operation
import KafkaTopology.Proofs.Cluster.Requests
import KafkaTopology.Proofs.Cluster.Retry
import KafkaTopology.Proofs.Cluster.Rollback
import KafkaTopology.Proofs.Cluster.Script
import KafkaTopology.Proofs.Cluster.Settings
import KafkaTopology.Proofs.Cluster.Sync
import KafkaTopology.Proofs.Cluster.Users
import KafkaTopology.Proofs.Cluster.World
import KafkaTopology.Proofs.ConnectServers.Addresses
import KafkaTopology.Proofs.ConnectServers.Aliases
import KafkaTopology.Proofs.ConnectServers.Identity
import KafkaTopology.Proofs.ConnectServers.Places
import KafkaTopology.Proofs.ConnectServers.Sending
import KafkaTopology.Proofs.Decode.Change
import KafkaTopology.Proofs.Decode.Form
import KafkaTopology.Proofs.Decode.Image
import KafkaTopology.Proofs.Decode.KeyOrder
import KafkaTopology.Proofs.Decode.Layout
import KafkaTopology.Proofs.Decode.Place
import KafkaTopology.Proofs.Document.Json
import KafkaTopology.Proofs.Document.KeyOrder
import KafkaTopology.Proofs.Document.Path
import KafkaTopology.Proofs.Document.Place
import KafkaTopology.Proofs.Document.Toml
import KafkaTopology.Proofs.Document.Toml.KeyOrder
import KafkaTopology.Proofs.Document.Toml.Scalar
import KafkaTopology.Proofs.Document.Toml.Value
import KafkaTopology.Proofs.Except
import KafkaTopology.Proofs.Fold
import KafkaTopology.Proofs.Host.Errands
import KafkaTopology.Proofs.Host.FileTree
import KafkaTopology.Proofs.Host.Twins
import KafkaTopology.Proofs.Host.Writing
import KafkaTopology.Proofs.KafkaTools.Bindings
import KafkaTopology.Proofs.KafkaTools.Listing
import KafkaTopology.Proofs.KafkaTools.Options
import KafkaTopology.Proofs.OrderedMap
import KafkaTopology.Proofs.OrderedSet
import KafkaTopology.Proofs.Orders
import KafkaTopology.Proofs.Plan.Desk
import KafkaTopology.Proofs.Plan.Errands
import KafkaTopology.Proofs.Plan.History
import KafkaTopology.Proofs.Plan.Run
import KafkaTopology.Proofs.Planner.Convergence
import KafkaTopology.Proofs.Planner.Grantees
import KafkaTopology.Proofs.Planner.Ownership
import KafkaTopology.Proofs.Planner.Principals
import KafkaTopology.Proofs.Planner.Rearrangement
import KafkaTopology.Proofs.Planner.Settlement
import KafkaTopology.Proofs.Planner.Shape
import KafkaTopology.Proofs.Session.Abort
import KafkaTopology.Proofs.Session.Alike
import KafkaTopology.Proofs.Session.Preview
import KafkaTopology.Proofs.Session.ReadOnly
import KafkaTopology.Proofs.Session.Secrecy
import KafkaTopology.Proofs.State.Canonical
import KafkaTopology.Proofs.State.Codec
import KafkaTopology.Proofs.State.Encodings
import KafkaTopology.Proofs.State.Items
import KafkaTopology.Proofs.State.LastWriter
import KafkaTopology.Proofs.State.Listing
import KafkaTopology.Proofs.StateFile
import KafkaTopology.Proofs.StateFile.Keeping
import KafkaTopology.Proofs.StateFile.RoundTrip
import KafkaTopology.Proofs.Text.Octets
import KafkaTopology.Proofs.Text.SplitOn
import KafkaTopology.Proofs.Timestamp
import KafkaTopology.Proofs.Timestamp.Calendar
import KafkaTopology.Proofs.Topology.Access
import KafkaTopology.Proofs.Topology.Change
import KafkaTopology.Proofs.Topology.Declared
import KafkaTopology.Proofs.Topology.Entitlement
import KafkaTopology.Proofs.Topology.Faults
import KafkaTopology.Proofs.Topology.Forms
import KafkaTopology.Proofs.Topology.FrontEnds
import KafkaTopology.Proofs.Topology.Grammar
import KafkaTopology.Proofs.Topology.Isolation
import KafkaTopology.Proofs.Topology.KeyOrder
import KafkaTopology.Proofs.Topology.Names
import KafkaTopology.Proofs.Topology.Reading
import KafkaTopology.Proofs.Topology.Refusal
import KafkaTopology.Proofs.Topology.Roles
import KafkaTopology.Proofs.Topology.Synonyms
import KafkaTopology.Proofs.Topology.Union
import KafkaTopology.Proofs.Topology.UnknownKeys
import KafkaTopology.Proofs.Topology.Widening
import KafkaTopology.Proofs.Url
import KafkaTopology.Rehearsal
import KafkaTopology.Report
import KafkaTopology.Session
import KafkaTopology.State
import KafkaTopology.State.Codec
import KafkaTopology.StateFile
import KafkaTopology.Text.Alphanumeric
import KafkaTopology.Text.Blank
import KafkaTopology.Text.Digit
import KafkaTopology.Text.Occurrence
import KafkaTopology.Text.Printable
import KafkaTopology.Text.Quoted
import KafkaTopology.Text.Ranges
import KafkaTopology.Timestamp
import KafkaTopology.Topology
import KafkaTopology.Topology.Error
import KafkaTopology.Topology.Format
import KafkaTopology.Topology.Grants
import KafkaTopology.Topology.Member
import KafkaTopology.Topology.OfDocument
import KafkaTopology.Topology.Platform
import KafkaTopology.Url
import KafkaTopology.Wording
