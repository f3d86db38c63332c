import ClusterHealth.Main
import ClusterHealth.Config.Document
import ClusterHealth.Rehearsal.Fetch
import ClusterHealth.Proofs.Course
import ClusterHealth.Proofs.Requests
import ClusterHealth.Proofs.Runs
import ClusterHealth.Proofs.Text.Pattern
import ClusterHealth.Proofs.Digest
import ClusterHealth.Proofs.Transfer.Course
import ClusterHealth.Proofs.Transfer.Scratch
import ClusterHealth.Proofs.Replies
import ClusterHealth.Proofs.Transfer.Verdict
import ClusterHealth.Proofs.Transfer.Replacement
import ClusterHealth.Proofs.Transfer.Service
import ClusterHealth.Proofs.FileTree
import ClusterHealth.Proofs.Transfer.Confinement
import ClusterHealth.Proofs.Retry.Attempts
import ClusterHealth.Proofs.Retry.Pause
import ClusterHealth.Proofs.Retry.Words
import ClusterHealth.Proofs.Retry.Deadline
import ClusterHealth.Proofs.Retry.Termination
import ClusterHealth.Proofs.Retry.Start
import ClusterHealth.Proofs.Retry.Idle
import ClusterHealth.Proofs.Retry.Grace
import ClusterHealth.Proofs.Candor
import ClusterHealth.Proofs.Candor.Pods
import ClusterHealth.Proofs.Candor.Api
import ClusterHealth.Proofs.Candor.Services
import ClusterHealth.Proofs.Candor.Transfer
import ClusterHealth.Proofs.Candor.BootArtifacts
import ClusterHealth.Proofs.Candor.Harness
import ClusterHealth.Proofs.Yields
import ClusterHealth.Proofs.BootArtifacts.Ready
import ClusterHealth.Proofs.BootArtifacts.Requests
import ClusterHealth.Proofs.BootArtifacts.Transfers
import ClusterHealth.Proofs.BootArtifacts.Verdict
import ClusterHealth.Proofs.Config.Timeouts
import ClusterHealth.Proofs.SocketAddress
import ClusterHealth.Proofs.Transfer.Targets
import ClusterHealth.Proofs.Json.Fields
import ClusterHealth.Proofs.Yaml.Values
import ClusterHealth.Proofs.Config.Reading
import ClusterHealth.Proofs.Config.Document
import ClusterHealth.Proofs.Requests.Pods
import ClusterHealth.Proofs.Requests.Api
import ClusterHealth.Proofs.Requests.Services
import ClusterHealth.Proofs.Diagnosis
import ClusterHealth.Proofs.Requests.Harness
import ClusterHealth.Proofs.Exchanges
import ClusterHealth.Proofs.Api.Collections
import ClusterHealth.Proofs.Api.Recipes
import ClusterHealth.Proofs.Dispatcher
import ClusterHealth.Proofs.Verdicts
import ClusterHealth.Proofs.Text.Names
import ClusterHealth.Proofs.Roles
import ClusterHealth.Proofs.Api.Shapes
import ClusterHealth.Proofs.Verdicts.Pods
import ClusterHealth.Proofs.Verdicts.InitPods
import ClusterHealth.Proofs.Verdicts.Etcd
import ClusterHealth.Proofs.Verdicts.Vcs
import ClusterHealth.Proofs.Config.NamedFile
import ClusterHealth.Proofs.Verdicts.Conman
import ClusterHealth.Proofs.Verdicts.Cfs
import ClusterHealth.Proofs.Text.Order
import ClusterHealth.Proofs.Json.Writing
import ClusterHealth.Proofs.Json.Records
import ClusterHealth.Proofs.Kubectl.Pods
import ClusterHealth.Proofs.Json.Integers
import ClusterHealth.Proofs.Kubectl.Services
import ClusterHealth.Proofs.Json.Grammar
import ClusterHealth.Proofs.Json.Paths
import ClusterHealth.Proofs.Config.Sources
import ClusterHealth.Proofs.Config.Sections
import ClusterHealth.Proofs.Config.Layers
import ClusterHealth.Proofs.Config.Accepted
import ClusterHealth.Proofs.Text.Blank
import ClusterHealth.Proofs.Text.Base64
import ClusterHealth.Proofs.Text.Utf8
import ClusterHealth.Proofs.Secret
import ClusterHealth.Proofs.Report
