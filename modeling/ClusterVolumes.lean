import ClusterVolumes.Configuration
import ClusterVolumes.Csi.Capability
import ClusterVolumes.Csi.Identity
import ClusterVolumes.Csi.Message
import ClusterVolumes.Device.Discovery
import ClusterVolumes.Endpoint
import ClusterVolumes.Endpoint.Listen
import ClusterVolumes.Failure
import ClusterVolumes.Failure.Parts
import ClusterVolumes.FileTree
import ClusterVolumes.FileTree.Name
import ClusterVolumes.FileTree.Pattern
import ClusterVolumes.Fleet
import ClusterVolumes.Fleet.Machine
import ClusterVolumes.Fleet.Membership
import ClusterVolumes.Fleet.Task
import ClusterVolumes.Gateway
import ClusterVolumes.Http.Encoding
import ClusterVolumes.Http.MediaType
import ClusterVolumes.Http.Message
import ClusterVolumes.Http.Status
import ClusterVolumes.Hypervisor.Client
import ClusterVolumes.Hypervisor.Credentials
import ClusterVolumes.Hypervisor.Report
import ClusterVolumes.Hypervisor.Request
import ClusterVolumes.Json.Codec
import ClusterVolumes.Json.Numeral
import ClusterVolumes.Json.Reader
import ClusterVolumes.Json.Value
import ClusterVolumes.KeyedLock
import ClusterVolumes.Maintenance.Basic
import ClusterVolumes.Maintenance.BoundClaim
import ClusterVolumes.Maintenance.Cordon
import ClusterVolumes.Maintenance.Drain
import ClusterVolumes.Maintenance.Grants
import ClusterVolumes.Maintenance.Rebind
import ClusterVolumes.Maintenance.Relocate
import ClusterVolumes.Maintenance.Retention
import ClusterVolumes.Metrics
import ClusterVolumes.Mount.Request
import ClusterVolumes.Mount.Tools
import ClusterVolumes.NodeVolume.Info
import ClusterVolumes.NodeVolume.Publish
import ClusterVolumes.NodeVolume.Stage
import ClusterVolumes.NodeVolume.Usage
import ClusterVolumes.Number.Binary64
import ClusterVolumes.Orchestrator.Client
import ClusterVolumes.Orchestrator.Manifest
import ClusterVolumes.Orchestrator.Object
import ClusterVolumes.Orchestrator.Request
import ClusterVolumes.Program
import ClusterVolumes.Provisioning.Attach
import ClusterVolumes.Provisioning.Capacity
import ClusterVolumes.Provisioning.Create
import ClusterVolumes.Provisioning.Delete
import ClusterVolumes.Service
import ClusterVolumes.Site
import ClusterVolumes.Site.Cluster
import ClusterVolumes.Site.Fault
import ClusterVolumes.Site.Forms
import ClusterVolumes.Site.Keyed
import ClusterVolumes.Site.Log
import ClusterVolumes.Site.Mounts
import ClusterVolumes.Site.Orchestrator
import ClusterVolumes.Site.Server
import ClusterVolumes.Site.Tools
import ClusterVolumes.SystemFailure
import ClusterVolumes.Text.Blank
import ClusterVolumes.Text.Cut
import ClusterVolumes.Text.Extending
import ClusterVolumes.Text.Quoted
import ClusterVolumes.Text.Unprintable
import ClusterVolumes.Text.Unsigned
import ClusterVolumes.TextMap
import ClusterVolumes.Topology
import ClusterVolumes.Volume.DiskName
import ClusterVolumes.Volume.Handle
import ClusterVolumes.Volume.Options
import ClusterVolumes.Volume.Sizing
import ClusterVolumes.WireType
import ClusterVolumes.Yaml.Cursor
import ClusterVolumes.Yaml.Node
import ClusterVolumes.Yaml.Scalar
import ClusterVolumes.Yaml.Token
import ClusterVolumes.Proofs.Device.Discovery
import ClusterVolumes.Proofs.Fleet.Configured
import ClusterVolumes.Proofs.Fleet.DiskOwners
import ClusterVolumes.Proofs.Fleet.MachineSearch
import ClusterVolumes.Proofs.Hypervisor.Session
import ClusterVolumes.Proofs.KeyedLock
import ClusterVolumes.Proofs.KeyedLock.Lines
import ClusterVolumes.Proofs.Maintenance.Caution
import ClusterVolumes.Proofs.Maintenance.NeededGrants
import ClusterVolumes.Proofs.Maintenance.Ownership
import ClusterVolumes.Proofs.Maintenance.Rebuilding
import ClusterVolumes.Proofs.Maintenance.Schedulability
import ClusterVolumes.Proofs.Maintenance.Standstill
import ClusterVolumes.Proofs.Maintenance.Survival
import ClusterVolumes.Proofs.Maintenance.Waiting
import ClusterVolumes.Proofs.Mount.Formatting
import ClusterVolumes.Proofs.NodeVolume.Growing
import ClusterVolumes.Proofs.NodeVolume.Publishing
import ClusterVolumes.Proofs.NodeVolume.Staging
import ClusterVolumes.Proofs.Provisioning.CreationFailures
import ClusterVolumes.Proofs.Provisioning.DevicePaths
import ClusterVolumes.Proofs.Provisioning.FreeSpace
import ClusterVolumes.Proofs.Provisioning.Idempotence
import ClusterVolumes.Proofs.Provisioning.LockKeys
import ClusterVolumes.Proofs.Provisioning.OlderHandles
import ClusterVolumes.Proofs.Provisioning.Reachability
import ClusterVolumes.Proofs.Provisioning.Refusals
import ClusterVolumes.Proofs.Topology.Gathering
import ClusterVolumes.Proofs.Volume.HandleLanguage
import ClusterVolumes.Proofs.Volume.Sizing
import ClusterVolumes.Proofs.WireType.RoundTrip
import ClusterVolumes.Proofs.Volume.OlderForm
import ClusterVolumes.Proofs.Maintenance.NewRecords
import ClusterVolumes.Proofs.Volume.DiskLayout
import ClusterVolumes.Proofs.Volume.Naming
import ClusterVolumes.Proofs.Volume.Siblings
import ClusterVolumes.Proofs.Volume.MachineNumbers
