import Graft.Admission
import Graft.Admission.Review
import Graft.Agent
import Graft.Api.Certificates
import Graft.Api.Deployments
import Graft.Api.Error
import Graft.Api.Exchange
import Graft.Api.Listing
import Graft.Api.Request
import Graft.Api.Response
import Graft.Assoc
import Graft.Backoff
import Graft.Certificate.Authority
import Graft.Certificate.Draft
import Graft.Certificate.Error
import Graft.Certificate.Fitness
import Graft.Certificate.Material
import Graft.Certificate.Reconcile
import Graft.Certificate.X509
import Graft.Cleanup
import Graft.ClusterIdentity
import Graft.CommandLine
import Graft.CommandLine.Options
import Graft.Convention
import Graft.Curve.Edwards
import Graft.Curve.Weierstrass
import Graft.CustomResource
import Graft.DeploymentShape
import Graft.Der
import Graft.Dialogue
import Graft.Digest
import Graft.Digest.Padding
import Graft.Digest.Sha1
import Graft.Digest.Sha256
import Graft.Digest.Sha512
import Graft.Double
import Graft.Double.Shortest
import Graft.Duration
import Graft.Endpoint
import Graft.Error
import Graft.Fragment
import Graft.Heartbeat
import Graft.Injection
import Graft.Injection.Env
import Graft.Injection.State
import Graft.Injection.Template
import Graft.Instrumentation
import Graft.Json
import Graft.Json.Draft
import Graft.Json.Numeral
import Graft.Json.Patch
import Graft.Json.Pointer
import Graft.Json.Printer
import Graft.Json.Reader
import Graft.Json.Shape
import Graft.Json.Token
import Graft.Json.Yaml
import Graft.Keyed
import Graft.Main
import Graft.MediaType
import Graft.Modular
import Graft.ObjectMeta
import Graft.Octets
import Graft.Pem
import Graft.Platform
import Graft.PodIdentity
import Graft.PrivateKey
import Graft.Proofs.Acceptance
import Graft.Proofs.Accounting
import Graft.Proofs.Alter
import Graft.Proofs.Annotations
import Graft.Proofs.ArmId
import Graft.Proofs.Backup
import Graft.Proofs.Bookkeeping
import Graft.Proofs.Canonical
import Graft.Proofs.CanonicalSteps
import Graft.Proofs.Catalog
import Graft.Proofs.Clean
import Graft.Proofs.CleanupCalls
import Graft.Proofs.Detection
import Graft.Proofs.EnvReversal
import Graft.Proofs.ErrorLogs
import Graft.Proofs.FailureCounts
import Graft.Proofs.Fields
import Graft.Proofs.FirstUpdate
import Graft.Proofs.Fitness
import Graft.Proofs.Flushing
import Graft.Proofs.Frame
import Graft.Proofs.Isolation
import Graft.Proofs.JsonText
import Graft.Proofs.LateContainer
import Graft.Proofs.LateIdentity
import Graft.Proofs.Layers
import Graft.Proofs.Locality
import Graft.Proofs.LogSetting
import Graft.Proofs.Lookup
import Graft.Proofs.Merge
import Graft.Proofs.Mutation
import Graft.Proofs.OthersKept
import Graft.Proofs.PatchDocument
import Graft.Proofs.PemText
import Graft.Proofs.Places
import Graft.Proofs.Positions
import Graft.Proofs.Provenance
import Graft.Proofs.Readmission
import Graft.Proofs.References
import Graft.Proofs.Registry
import Graft.Proofs.Relisting
import Graft.Proofs.Repetition
import Graft.Proofs.Reports
import Graft.Proofs.Rereading
import Graft.Proofs.Restoration
import Graft.Proofs.Retrying
import Graft.Proofs.Reversal
import Graft.Proofs.Rollout
import Graft.Proofs.Rounding
import Graft.Proofs.Run
import Graft.Proofs.Schedule
import Graft.Proofs.Selection
import Graft.Proofs.Serving
import Graft.Proofs.Steps
import Graft.Proofs.Trimmed
import Graft.Proofs.Trust
import Graft.Proofs.Upkeep
import Graft.Proofs.WorkloadReading
import Graft.Registry
import Graft.Selection
import Graft.Signature
import Graft.Signature.Ecdsa
import Graft.Signature.Ed25519
import Graft.Signature.Rsa
import Graft.Text.Base64
import Graft.Text.Blank
import Graft.Text.Cased
import Graft.Text.CharSet
import Graft.Text.Lowercase
import Graft.Text.Printable
import Graft.Text.Quoted
import Graft.Text.Split
import Graft.Text.Utf8
import Graft.Time.Calendar
import Graft.Time.Instant
import Graft.Time.Timestamp
import Graft.Watch
import Graft.Watch.Line
import Graft.WebhookConfiguration
import Graft.Workload
