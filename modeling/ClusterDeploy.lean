import ClusterDeploy.Bootstrap.Basic
import ClusterDeploy.Bootstrap.Config
import ClusterDeploy.Bootstrap.State
import ClusterDeploy.Cluster.Kind
import ClusterDeploy.Cluster.PodSchema
import ClusterDeploy.Cluster.Resource
import ClusterDeploy.Cluster.Schema
import ClusterDeploy.Cluster.Shape
import ClusterDeploy.Cluster.Timestamp
import ClusterDeploy.CommandLine.Basic
import ClusterDeploy.CommandLine.Parameter
import ClusterDeploy.CommandLine.Parse
import ClusterDeploy.Deploy
import ClusterDeploy.Duration
import ClusterDeploy.Endpoint.Basic
import ClusterDeploy.Endpoint.Resolve
import ClusterDeploy.Environment.Basic
import ClusterDeploy.Environment.Dotenv
import ClusterDeploy.Environment.File
import ClusterDeploy.Error
import ClusterDeploy.Files.Disk
import ClusterDeploy.Files.Path
import ClusterDeploy.Files.Tree
import ClusterDeploy.Flow.Basic
import ClusterDeploy.Flow.Call
import ClusterDeploy.Flow.Run
import ClusterDeploy.Flow.Script
import ClusterDeploy.Flow.Session
import ClusterDeploy.Job.Basic
import ClusterDeploy.Job.Run
import ClusterDeploy.Job.Setup
import ClusterDeploy.Json.Basic
import ClusterDeploy.Json.Reader
import ClusterDeploy.Kubeconfig.Basic
import ClusterDeploy.Kubeconfig.Overlap
import ClusterDeploy.Kubeconfig.Store
import ClusterDeploy.Kubeconfig.Text
import ClusterDeploy.Kubectl.Client
import ClusterDeploy.Kubectl.Flags
import ClusterDeploy.Main
import ClusterDeploy.Number.Binary64
import ClusterDeploy.Progress
import ClusterDeploy.Proofs.Bootstrap.Closed
import ClusterDeploy.Proofs.Bootstrap.Credentials
import ClusterDeploy.Proofs.Bootstrap.Login
import ClusterDeploy.Proofs.Bootstrap.Memory
import ClusterDeploy.Proofs.Bootstrap.Sequence
import ClusterDeploy.Proofs.Bootstrap.States
import ClusterDeploy.Proofs.Deploy.Budget
import ClusterDeploy.Proofs.Deploy.Calls
import ClusterDeploy.Proofs.Deploy.Cancellation
import ClusterDeploy.Proofs.Deploy.Observers
import ClusterDeploy.Proofs.Deploy.Record
import ClusterDeploy.Proofs.Deploy.Rollout
import ClusterDeploy.Proofs.Deploy.Sequence
import ClusterDeploy.Proofs.Deploy.Shared
import ClusterDeploy.Proofs.Endpoint.Address
import ClusterDeploy.Proofs.Endpoint.Ingress
import ClusterDeploy.Proofs.Endpoint.Service
import ClusterDeploy.Proofs.Endpoint.Union
import ClusterDeploy.Proofs.Environment.Dotenv
import ClusterDeploy.Proofs.Environment.File
import ClusterDeploy.Proofs.Environment.Grammar
import ClusterDeploy.Proofs.Environment.Property
import ClusterDeploy.Proofs.Environment.Resave
import ClusterDeploy.Proofs.Files.Folders
import ClusterDeploy.Proofs.Files.Path
import ClusterDeploy.Proofs.Files.Place
import ClusterDeploy.Proofs.Files.Replace
import ClusterDeploy.Proofs.Files.Tree
import ClusterDeploy.Proofs.Flow.Ends
import ClusterDeploy.Proofs.Flow.Files
import ClusterDeploy.Proofs.Flow.Labels
import ClusterDeploy.Proofs.Flow.Observers
import ClusterDeploy.Proofs.Flow.Outcomes
import ClusterDeploy.Proofs.Flow.Positions
import ClusterDeploy.Proofs.Flow.Runs
import ClusterDeploy.Proofs.Flow.Sequence
import ClusterDeploy.Proofs.Job.Cluster
import ClusterDeploy.Proofs.Job.Effects
import ClusterDeploy.Proofs.Job.Inquiry
import ClusterDeploy.Proofs.Job.Kubeconfig
import ClusterDeploy.Proofs.Job.Queries
import ClusterDeploy.Proofs.Kubeconfig.Closed
import ClusterDeploy.Proofs.Kubeconfig.History
import ClusterDeploy.Proofs.Kubeconfig.Keyed
import ClusterDeploy.Proofs.Kubeconfig.Merge
import ClusterDeploy.Proofs.Kubeconfig.Order
import ClusterDeploy.Proofs.Kubeconfig.Overlap
import ClusterDeploy.Proofs.Kubeconfig.Steps
import ClusterDeploy.Proofs.Kubeconfig.Store
import ClusterDeploy.Proofs.Progress.Delivery
import ClusterDeploy.Proofs.Text.Pieces
import ClusterDeploy.Proofs.Text.Repair
import ClusterDeploy.Proofs.Text.Upper
import ClusterDeploy.Proofs.Text.Utf8
import ClusterDeploy.Proofs.Tools.Started
import ClusterDeploy.Proofs.Url.Address
import ClusterDeploy.Proofs.Url.Authority
import ClusterDeploy.Proofs.Url.Commas
import ClusterDeploy.Proofs.Url.Folding
import ClusterDeploy.Proofs.Url.HostName
import ClusterDeploy.Proofs.Url.Join
import ClusterDeploy.Proofs.Url.Literal
import ClusterDeploy.Proofs.Url.Percent
import ClusterDeploy.Proofs.Url.Punycode
import ClusterDeploy.Proofs.Url.Readable
import ClusterDeploy.Proofs.Url.Segments
import ClusterDeploy.Proofs.Url.Stack
import ClusterDeploy.Proofs.Waiting.Budget
import ClusterDeploy.Proofs.Waiting.Cancellation
import ClusterDeploy.Proofs.Waiting.Interruption
import ClusterDeploy.Proofs.Waiting.Outcome
import ClusterDeploy.Proofs.Waiting.Schedule
import ClusterDeploy.Service.Config
import ClusterDeploy.Service.Package
import ClusterDeploy.Settings
import ClusterDeploy.Target
import ClusterDeploy.Text.Blank
import ClusterDeploy.Text.Expansion
import ClusterDeploy.Text.Upper
import ClusterDeploy.Text.Utf8
import ClusterDeploy.Text.Word
import ClusterDeploy.Toml.Document
import ClusterDeploy.Toml.Scalar
import ClusterDeploy.Tools.Machine
import ClusterDeploy.Tools.Script
import ClusterDeploy.Tools.Toolbox
import ClusterDeploy.Url.Address
import ClusterDeploy.Url.Basic
import ClusterDeploy.Url.Folding
import ClusterDeploy.Url.HostName
import ClusterDeploy.Url.Join
import ClusterDeploy.Url.Parse
import ClusterDeploy.Url.Percent
import ClusterDeploy.Url.Punycode
import ClusterDeploy.Waiting
import ClusterDeploy.Yaml.Cursor
import ClusterDeploy.Yaml.Node
import ClusterDeploy.Yaml.Printer
import ClusterDeploy.Yaml.Scalar
import ClusterDeploy.Yaml.Text
import ClusterDeploy.Yaml.Token
import ClusterDeploy.Yaml.Value
