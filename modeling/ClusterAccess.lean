import ClusterAccess.AccessReview
import ClusterAccess.Certificate.Basic
import ClusterAccess.Certificate.Curve
import ClusterAccess.Certificate.Der
import ClusterAccess.Certificate.Digest
import ClusterAccess.Certificate.Edwards
import ClusterAccess.Certificate.Identity
import ClusterAccess.Certificate.Key
import ClusterAccess.Client.Call
import ClusterAccess.Client.Parameters
import ClusterAccess.Client.Service
import ClusterAccess.Connection.Authorization
import ClusterAccess.Connection.Basic
import ClusterAccess.Connection.Client
import ClusterAccess.Connection.Pod
import ClusterAccess.Coordinate
import ClusterAccess.Discovery.Cache
import ClusterAccess.Discovery.Fetch
import ClusterAccess.Discovery.Readers
import ClusterAccess.Discovery.Snapshot
import ClusterAccess.Error
import ClusterAccess.Host
import ClusterAccess.Format
import ClusterAccess.Gate
import ClusterAccess.Handle
import ClusterAccess.Http.Uri
import ClusterAccess.Http.Header
import ClusterAccess.Http.Host
import ClusterAccess.Http.Message
import ClusterAccess.Identity.Basic
import ClusterAccess.Identity.Problem
import ClusterAccess.Json.Basic
import ClusterAccess.Json.Decimal
import ClusterAccess.Json.Printer
import ClusterAccess.Json.Reader
import ClusterAccess.Json.Written
import ClusterAccess.Kind
import ClusterAccess.Kubeconfig.Basic
import ClusterAccess.Kubeconfig.Document
import ClusterAccess.Manager
import ClusterAccess.Misconfiguration
import ClusterAccess.Objects.Manifest
import ClusterAccess.Objects.Metadata
import ClusterAccess.Objects.Shape
import ClusterAccess.Objects.Timestamp
import ClusterAccess.Policy
import ClusterAccess.Provider
import ClusterAccess.Registry.Basic
import ClusterAccess.Registry.Tasks
import ClusterAccess.Report.Connection
import ClusterAccess.Report.Error
import ClusterAccess.Report.Lenient
import ClusterAccess.Report.Manager
import ClusterAccess.Report.Resource
import ClusterAccess.Report.Wording
import ClusterAccess.Schema.OpenApi
import ClusterAccess.Schema.Readers
import ClusterAccess.Schema.Reference
import ClusterAccess.Schema.UnknownField
import ClusterAccess.Schema.Verdict
import ClusterAccess.Settings.Basic
import ClusterAccess.Settings.Document
import ClusterAccess.Slot
import ClusterAccess.Source
import ClusterAccess.Telemetry
import ClusterAccess.Text.Base64
import ClusterAccess.Text.Pieces
import ClusterAccess.Text.Bytes
import ClusterAccess.Text.Pem
import ClusterAccess.Text.Quoted
import ClusterAccess.Text.Sections
import ClusterAccess.Validation.Chain
import ClusterAccess.Validation.Request
import ClusterAccess.Watcher
import ClusterAccess.Yaml.Cursor
import ClusterAccess.Yaml.Event
import ClusterAccess.Yaml.Layout
import ClusterAccess.Yaml.Node
import ClusterAccess.Yaml.Plain
import ClusterAccess.Yaml.Scalar
import ClusterAccess.Yaml.Token
import ClusterAccess.Proofs.Addressing
import ClusterAccess.Proofs.Admission
import ClusterAccess.Proofs.Advertised
import ClusterAccess.Proofs.Agreement
import ClusterAccess.Proofs.Arrivals
import ClusterAccess.Proofs.Building
import ClusterAccess.Proofs.Bursts
import ClusterAccess.Proofs.Changes
import ClusterAccess.Proofs.Closing
import ClusterAccess.Proofs.Contexts
import ClusterAccess.Proofs.Coordinates
import ClusterAccess.Proofs.Courses
import ClusterAccess.Proofs.Denial
import ClusterAccess.Proofs.Derivation
import ClusterAccess.Proofs.EmptyNamespaces
import ClusterAccess.Proofs.Entries
import ClusterAccess.Proofs.Epochs
import ClusterAccess.Proofs.Freshness
import ClusterAccess.Proofs.Handling
import ClusterAccess.Proofs.Layouts
import ClusterAccess.Proofs.Lives
import ClusterAccess.Proofs.Lookups
import ClusterAccess.Proofs.Namespaces
import ClusterAccess.Proofs.Noted
import ClusterAccess.Proofs.Pinning
import ClusterAccess.Proofs.Policies
import ClusterAccess.Proofs.Reactions
import ClusterAccess.Proofs.Recording
import ClusterAccess.Proofs.Refusals
import ClusterAccess.Proofs.Requests
import ClusterAccess.Proofs.Rereading
import ClusterAccess.Proofs.Resolution
import ClusterAccess.Proofs.Reviews
import ClusterAccess.Proofs.Rounds
import ClusterAccess.Proofs.Routes
import ClusterAccess.Proofs.SchemaCalls
import ClusterAccess.Proofs.SchemaCurrency
import ClusterAccess.Proofs.SchemaLone
import ClusterAccess.Proofs.SchemaMoves
import ClusterAccess.Proofs.Stopping
import ClusterAccess.Proofs.Supervision
import ClusterAccess.Proofs.Targets
import ClusterAccess.Proofs.Turns
import ClusterAccess.Proofs.Watching
import ClusterAccess.Proofs.Widening
import ClusterAccess.Proofs.FirstPositions
import ClusterAccess.Proofs.UndeclaredFields
import ClusterAccess.Proofs.Deletions
import ClusterAccess.Proofs.Unavailability
import ClusterAccess.Proofs.Encodings
import ClusterAccess.Proofs.Bundles
import ClusterAccess.Proofs.BundleLines
import ClusterAccess.Proofs.ContextChoice
import ClusterAccess.Proofs.Passages
import ClusterAccess.Proofs.Registration
import ClusterAccess.Proofs.SettingsDocuments
