import ServiceBinding.Binding.Catalog
import ServiceBinding.Binding.Check
import ServiceBinding.Binding.Expansion
import ServiceBinding.Binding.Names
import ServiceBinding.Binding.Path
import ServiceBinding.Binding.Plan
import ServiceBinding.Binding.Preset
import ServiceBinding.Binding.Projector
import ServiceBinding.Binding.Report
import ServiceBinding.Binding.Source
import ServiceBinding.Bytes
import ServiceBinding.Cluster.Basic
import ServiceBinding.Cluster.Fault
import ServiceBinding.Cluster.Reader
import ServiceBinding.Cluster.Table
import ServiceBinding.Convergence.Basic
import ServiceBinding.Convergence.Comparison
import ServiceBinding.Convergence.Ownership
import ServiceBinding.Convergence.Store
import ServiceBinding.Crypto.Ber
import ServiceBinding.Crypto.Certificate
import ServiceBinding.Crypto.Der
import ServiceBinding.Crypto.Digest
import ServiceBinding.Crypto.Keystore
import ServiceBinding.Crypto.Material
import ServiceBinding.Crypto.Moment
import ServiceBinding.Crypto.Sha1
import ServiceBinding.Dict
import ServiceBinding.Error
import ServiceBinding.Instance.Basic
import ServiceBinding.Instance.Form
import ServiceBinding.Instance.Manifest
import ServiceBinding.Instance.Validation
import ServiceBinding.Json.Basic
import ServiceBinding.Json.Containment
import ServiceBinding.Json.Decode
import ServiceBinding.Json.Double
import ServiceBinding.Json.Reader
import ServiceBinding.Json.Rest
import ServiceBinding.Json.Writer
import ServiceBinding.Main
import ServiceBinding.Object.Deployment
import ServiceBinding.Object.Meta
import ServiceBinding.Object.Pod
import ServiceBinding.Object.Resource
import ServiceBinding.Object.Secret
import ServiceBinding.Object.Service
import ServiceBinding.Object.Volume
import ServiceBinding.Pass
import ServiceBinding.Requeue
import ServiceBinding.Settings
import ServiceBinding.Text.Base64
import ServiceBinding.Text.Blank
import ServiceBinding.Text.CaseContext
import ServiceBinding.Text.CaseRuns
import ServiceBinding.Text.CodeRange
import ServiceBinding.Text.Lowercase
import ServiceBinding.Text.Numeral
import ServiceBinding.Text.Pem
import ServiceBinding.Text.Printable
import ServiceBinding.Text.Quoted
import ServiceBinding.Text.Search
import ServiceBinding.Text.Utf16
import ServiceBinding.Workload.Container
import ServiceBinding.Workload.Desired
import ServiceBinding.Workload.Merged
import ServiceBinding.Workload.Volumes
import ServiceBinding.Proofs.Json.Containment
import ServiceBinding.Proofs.Cluster.Table
import ServiceBinding.Proofs.Convergence.Running
import ServiceBinding.Proofs.Cluster.Calls
import ServiceBinding.Proofs.Convergence.Attempts
import ServiceBinding.Proofs.Binding.Planning
import ServiceBinding.Proofs.Binding.Projecting
import ServiceBinding.Proofs.Convergence.Comparing
import ServiceBinding.Proofs.Binding.Sweeping
import ServiceBinding.Proofs.Passing
import ServiceBinding.Proofs.Instance.Naming
import ServiceBinding.Proofs.Ownership
import ServiceBinding.Proofs.Bytes
import ServiceBinding.Proofs.Crypto.Der
import ServiceBinding.Proofs.Crypto.Keystore
import ServiceBinding.Proofs.Binding.Plans
import ServiceBinding.Proofs.Binding.Keeping
import ServiceBinding.Proofs.Convergence.Resting
import ServiceBinding.Proofs.Binding.Repeating
import ServiceBinding.Proofs.Quiescence
import ServiceBinding.Proofs.Binding.Applying
import ServiceBinding.Proofs.Delivery
import ServiceBinding.Proofs.Workload.Showing
import ServiceBinding.Proofs.Binding.Backing
import ServiceBinding.Proofs.Binding.Dropping
import ServiceBinding.Proofs.Belonging
import ServiceBinding.Proofs.Integrity
import ServiceBinding.Proofs.Crypto.RoundTrip
import ServiceBinding.Proofs.Binding.Stores
import ServiceBinding.Proofs.Configuration
import ServiceBinding.Proofs.Contention
import ServiceBinding.Proofs.Binding.Alike
import ServiceBinding.Proofs.Independence
import ServiceBinding.Proofs.Workload.Listing
import ServiceBinding.Proofs.Binding.Given
import ServiceBinding.Proofs.Outcome
import ServiceBinding.Proofs.Text.Splitting
import ServiceBinding.Proofs.Convergence.Alike
import ServiceBinding.Proofs.Leftovers
import ServiceBinding.Proofs.Visibility
import ServiceBinding.Proofs.Interference
import ServiceBinding.Proofs.Convergence.Allocation
import ServiceBinding.Proofs.Convergence.Stability
import ServiceBinding.Proofs.Text.Numeral
import ServiceBinding.Proofs.Atomicity
import ServiceBinding.Proofs.Crypto.Capacity
import ServiceBinding.Proofs.Binding.Requests
import ServiceBinding.Proofs.Binding.Sharing
import ServiceBinding.Proofs.History
import ServiceBinding.Proofs.Convergence.Agreement
import ServiceBinding.Proofs.Convergence.Defaulting
import ServiceBinding.Proofs.Convergence.Sources
import ServiceBinding.Proofs.Convergence.Framing
import ServiceBinding.Proofs.Workload.Rejoining
import ServiceBinding.Proofs.Workload.Holding
import ServiceBinding.Proofs.Workload.Reuniting
import ServiceBinding.Proofs.Admission
import ServiceBinding.Proofs.Crypto.Conversion
import ServiceBinding.Proofs.Binding.Grammar
import ServiceBinding.Proofs.Workload.Claiming
import ServiceBinding.Proofs.Templates
import ServiceBinding.Proofs.Binding.Filling
import ServiceBinding.Proofs.Binding.Options
import ServiceBinding.Proofs.Binding.Refusing
import ServiceBinding.Proofs.Binding.Mentions
import ServiceBinding.Proofs.Binding.Presets
import ServiceBinding.Proofs.Crypto.Bounds
import ServiceBinding.Proofs.Crypto.Passwords
import ServiceBinding.Proofs.Reordering
import ServiceBinding.Proofs.Names
import ServiceBinding.Proofs.Crypto.Wrapping
import ServiceBinding.Proofs.Text.Lowercase
import ServiceBinding.Proofs.Binding.Resolving
import ServiceBinding.Proofs.Json.Records
import ServiceBinding.Proofs.Json.Rest
import ServiceBinding.Proofs.Instance.Form
import ServiceBinding.Proofs.Json.Tokens
