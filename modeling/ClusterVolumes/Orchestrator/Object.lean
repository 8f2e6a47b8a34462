import ClusterVolumes.Orchestrator.Manifest

/-!
# Objects of the orchestrator

Nodes, the drivers that are installed on them, pods, volumes and claims, with the parts that the
driver looks at or changes. What else an object may hold is kept under `others` and written again as
it was read.

A claim asks for storage. It names a volume by `volumeName`, the volume names the claim that it
belongs to by `claimRef`, and the two are bound when the claim's phase says so.
-/

namespace ClusterVolumes.Orchestrator

/-- Members that are carried along. -/
abbrev Others : Type := List (String × Json)

/-! ## Metadata -/

/-- What all objects have in common. -/
structure Metadata where
  name : Option String := none
  space : Option String := none
  uid : Option String := none
  resourceVersion : Option String := none
  labels : Option StringMap := none
  annotations : Option StringMap := none
  finalizers : Option (List String) := none
  others : Others := []
  deriving Repr, Inhabited

def Metadata.record : Record Metadata where
  start := {}
  fields :=
    [ .optional "name" .text (·.name) fun x s => { s with name := x },
      .optional "namespace" .text (·.space) fun x s => { s with space := x },
      .optional "uid" .text (·.uid) fun x s => { s with uid := x },
      .optional "resourceVersion" .text (·.resourceVersion) fun x s =>
        { s with resourceVersion := x },
      .optional "labels" .stringMap (·.labels) fun x s => { s with labels := x },
      .optional "annotations" .stringMap (·.annotations) fun x s => { s with annotations := x },
      .optional "finalizers" (.list .text) (·.finalizers) fun x s => { s with finalizers := x } ] ++
    Field.carried
      [ "creationTimestamp", "deletionGracePeriodSeconds", "deletionTimestamp", "generateName",
        "generation", "managedFields", "ownerReferences", "selfLink" ]
      (·.others) fun x s => { s with others := x }

/-- The metadata of an object, which are always written. -/
def metadataField {σ : Type} (get : σ → Metadata) (set : Metadata → σ → σ) : Field σ :=
  .defaulted "metadata" Metadata.record.manifest {} get set

/-! ## Nodes -/

/-- What is asked of a node. -/
structure NodeSpec where
  unschedulable : Option Bool := none
  others : Others := []
  deriving Repr, Inhabited

def NodeSpec.record : Record NodeSpec where
  start := {}
  fields :=
    .optional "unschedulable" .bool (·.unschedulable) (fun x s => { s with unschedulable := x }) ::
    Field.carried ["configSource", "externalID", "podCIDR", "podCIDRs", "providerID", "taints"]
      (·.others) fun x s => { s with others := x }

/-- A node. -/
structure Node where
  metadata : Metadata := {}
  spec : Option NodeSpec := none
  others : Others := []
  deriving Repr, Inhabited

def Node.record : Record Node where
  start := {}
  fields :=
    metadataField (·.metadata) (fun x s => { s with metadata := x }) ::
    .optional "spec" NodeSpec.record.manifest (·.spec) (fun x s => { s with spec := x }) ::
    Field.carried ["status"] (·.others) fun x s => { s with others := x }

def Node.codec : Codec Node := Node.record.topLevel "v1" "Node"

/-- May new pods not be placed on the node? -/
def Node.unschedulable (n : Node) : Bool :=
  (n.spec.bind (·.unschedulable)).getD false

/-! ## Drivers on nodes -/

/-- A driver on a node. -/
structure InstalledDriver where
  name : String := ""
  nodeId : String := ""
  others : Others := []
  deriving Repr, Inhabited

def InstalledDriver.record : Record InstalledDriver where
  start := {}
  fields :=
    .defaulted "name" .text "" (·.name) (fun x s => { s with name := x }) ::
    .defaulted "nodeID" .text "" (·.nodeId) (fun x s => { s with nodeId := x }) ::
    Field.carried ["allocatable", "topologyKeys"] (·.others) fun x s => { s with others := x }

/-- The drivers on a node. -/
structure NodeDriversSpec where
  drivers : List InstalledDriver := []
  deriving Repr, Inhabited

def NodeDriversSpec.record : Record NodeDriversSpec where
  start := {}
  fields := [.defaulted "drivers" (.list InstalledDriver.record.manifest) [] (·.drivers) fun x s =>
    { s with drivers := x }]

/-- The object that lists the drivers on the node whose name it has. -/
structure NodeDrivers where
  metadata : Metadata := {}
  spec : NodeDriversSpec := {}
  deriving Repr, Inhabited

def NodeDrivers.record : Record NodeDrivers where
  start := {}
  fields :=
    [ metadataField (·.metadata) (fun x s => { s with metadata := x }),
      .defaulted "spec" NodeDriversSpec.record.manifest {} (·.spec) fun x s =>
        { s with spec := x } ]

def NodeDrivers.codec : Codec NodeDrivers :=
  NodeDrivers.record.topLevel "storage.k8s.io/v1" "CSINode"

/-! ## Pods -/

/-- The claim that a volume of a pod stands for. -/
structure ClaimSource where
  claimName : String := ""
  readOnly : Option Bool := none
  deriving DecidableEq, Repr, Inhabited

def ClaimSource.record : Record ClaimSource where
  start := {}
  fields :=
    [ .defaulted "claimName" .text "" (·.claimName) (fun x s => { s with claimName := x }),
      .optional "readOnly" .bool (·.readOnly) fun x s => { s with readOnly := x } ]

/-- A volume of a pod. -/
structure PodVolume where
  name : String := ""
  claim : Option ClaimSource := none
  others : Others := []
  deriving Repr, Inhabited

def PodVolume.record : Record PodVolume where
  start := {}
  fields :=
    .defaulted "name" .text "" (·.name) (fun x s => { s with name := x }) ::
    .optional "persistentVolumeClaim" ClaimSource.record.manifest (·.claim)
      (fun x s => { s with claim := x }) ::
    Field.carried
      [ "awsElasticBlockStore", "azureDisk", "azureFile", "cephfs", "cinder", "configMap", "csi",
        "downwardAPI", "emptyDir", "ephemeral", "fc", "flexVolume", "flocker", "gcePersistentDisk",
        "gitRepo", "glusterfs", "hostPath", "iscsi", "nfs", "photonPersistentDisk",
        "portworxVolume", "projected", "quobyte", "rbd", "scaleIO", "secret", "storageos",
        "vsphereVolume" ]
      (·.others) fun x s => { s with others := x }

/-- What is asked of a pod. -/
structure PodSpec where
  nodeName : Option String := none
  volumes : Option (List PodVolume) := none
  containers : List Json := []
  others : Others := []
  deriving Repr, Inhabited

def PodSpec.record : Record PodSpec where
  start := {}
  fields :=
    .optional "nodeName" .text (·.nodeName) (fun x s => { s with nodeName := x }) ::
    .optional "volumes" (.list PodVolume.record.manifest) (·.volumes)
      (fun x s => { s with volumes := x }) ::
    .defaulted "containers" (.list .any) [] (·.containers)
      (fun x s => { s with containers := x }) ::
    Field.carried
      [ "activeDeadlineSeconds", "affinity", "automountServiceAccountToken", "dnsConfig",
        "dnsPolicy", "enableServiceLinks", "ephemeralContainers", "hostAliases", "hostIPC",
        "hostNetwork", "hostPID", "hostUsers", "hostname", "imagePullSecrets", "initContainers",
        "nodeSelector", "os", "overhead", "preemptionPolicy", "priority", "priorityClassName",
        "readinessGates", "resourceClaims", "restartPolicy", "runtimeClassName", "schedulerName",
        "schedulingGates", "securityContext", "serviceAccount", "serviceAccountName",
        "setHostnameAsFQDN", "shareProcessNamespace", "subdomain", "terminationGracePeriodSeconds",
        "tolerations", "topologySpreadConstraints" ]
      (·.others) fun x s => { s with others := x }

/-- How far a pod, a volume or a claim has come. -/
structure Phased where
  phase : Option String := none
  others : Others := []
  deriving Repr, Inhabited

/-- A status of which the phase is looked at. -/
def Phased.record (carried : List String) : Record Phased where
  start := {}
  fields :=
    .optional "phase" .text (·.phase) (fun x s => { s with phase := x }) ::
    Field.carried carried (·.others) fun x s => { s with others := x }

/-- A pod. -/
structure Pod where
  metadata : Metadata := {}
  spec : Option PodSpec := none
  status : Option Phased := none
  deriving Repr, Inhabited

def Pod.record : Record Pod where
  start := {}
  fields :=
    [ metadataField (·.metadata) (fun x s => { s with metadata := x }),
      .optional "spec" PodSpec.record.manifest (·.spec) (fun x s => { s with spec := x }),
      .optional "status"
        (Phased.record
          [ "conditions", "containerStatuses", "ephemeralContainerStatuses", "hostIP", "hostIPs",
            "initContainerStatuses", "message", "nominatedNodeName", "podIP", "podIPs", "qosClass",
            "reason", "resize", "resourceClaimStatuses", "startTime" ]).manifest
        (·.status) fun x s => { s with status := x } ]

def Pod.codec : Codec Pod := Pod.record.topLevel "v1" "Pod"

/-- The name of a pod, empty if it has none. -/
def Pod.name (p : Pod) : String :=
  p.metadata.name.getD ""

/-! ## Volumes -/

/-- The claim that a volume belongs to. -/
structure ClaimRef where
  kind : Option String := none
  space : Option String := none
  name : Option String := none
  uid : Option String := none
  apiVersion : Option String := none
  fieldPath : Option String := none
  resourceVersion : Option String := none
  deriving DecidableEq, Repr, Inhabited

def ClaimRef.record : Record ClaimRef where
  start := {}
  fields :=
    [ .optional "kind" .text (·.kind) (fun x s => { s with kind := x }),
      .optional "namespace" .text (·.space) (fun x s => { s with space := x }),
      .optional "name" .text (·.name) (fun x s => { s with name := x }),
      .optional "uid" .text (·.uid) (fun x s => { s with uid := x }),
      .optional "apiVersion" .text (·.apiVersion) (fun x s => { s with apiVersion := x }),
      .optional "fieldPath" .text (·.fieldPath) (fun x s => { s with fieldPath := x }),
      .optional "resourceVersion" .text (·.resourceVersion) fun x s =>
        { s with resourceVersion := x } ]

/-- The driver's part of a volume. -/
structure DriverSource where
  driver : String := ""
  volumeHandle : String := ""
  fsType : Option String := none
  readOnly : Option Bool := none
  volumeAttributes : Option StringMap := none
  others : Others := []
  deriving Repr, Inhabited

def DriverSource.record : Record DriverSource where
  start := {}
  fields :=
    .defaulted "driver" .text "" (·.driver) (fun x s => { s with driver := x }) ::
    .defaulted "volumeHandle" .text "" (·.volumeHandle) (fun x s => { s with volumeHandle := x }) ::
    .optional "fsType" .text (·.fsType) (fun x s => { s with fsType := x }) ::
    .optional "readOnly" .bool (·.readOnly) (fun x s => { s with readOnly := x }) ::
    .optional "volumeAttributes" .stringMap (·.volumeAttributes)
      (fun x s => { s with volumeAttributes := x }) ::
    Field.carried
      [ "controllerExpandSecretRef", "controllerPublishSecretRef", "nodeExpandSecretRef",
        "nodePublishSecretRef", "nodeStageSecretRef" ]
      (·.others) fun x s => { s with others := x }

/-- A condition on a label or field of a node. -/
structure NodeExpression where
  key : String := ""
  operator : String := ""
  values : Option (List String) := none
  deriving DecidableEq, Repr, Inhabited

def NodeExpression.record : Record NodeExpression where
  start := {}
  fields :=
    [ .defaulted "key" .text "" (·.key) (fun x s => { s with key := x }),
      .defaulted "operator" .text "" (·.operator) (fun x s => { s with operator := x }),
      .optional "values" (.list .text) (·.values) fun x s => { s with values := x } ]

/-- Conditions that hold of a node together. -/
structure NodeTerm where
  matchExpressions : Option (List NodeExpression) := none
  matchFields : Option (List NodeExpression) := none
  deriving DecidableEq, Repr, Inhabited

def NodeTerm.record : Record NodeTerm where
  start := {}
  fields :=
    [ .optional "matchExpressions" (.list NodeExpression.record.manifest) (·.matchExpressions)
        (fun x s => { s with matchExpressions := x }),
      .optional "matchFields" (.list NodeExpression.record.manifest) (·.matchFields) fun x s =>
        { s with matchFields := x } ]

/-- Terms of which one must hold of a node. -/
structure NodeSelector where
  terms : List NodeTerm := []
  deriving DecidableEq, Repr, Inhabited

def NodeSelector.record : Record NodeSelector where
  start := {}
  fields := [.defaulted "nodeSelectorTerms" (.list NodeTerm.record.manifest) [] (·.terms) fun x s =>
    { s with terms := x }]

/-- The nodes from which a volume can be reached. -/
structure NodeAffinity where
  required : Option NodeSelector := none
  deriving DecidableEq, Repr, Inhabited

def NodeAffinity.record : Record NodeAffinity where
  start := {}
  fields := [.optional "required" NodeSelector.record.manifest (·.required) fun x s =>
    { s with required := x }]

/-- What a volume is. -/
structure VolumeSpec where
  accessModes : Option (List String) := none
  capacity : Option StringMap := none
  claimRef : Option ClaimRef := none
  source : Option DriverSource := none
  mountOptions : Option (List String) := none
  nodeAffinity : Option NodeAffinity := none
  reclaimPolicy : Option String := none
  storageClassName : Option String := none
  volumeMode : Option String := none
  others : Others := []
  deriving Repr, Inhabited

def VolumeSpec.record : Record VolumeSpec where
  start := {}
  fields :=
    [ .optional "accessModes" (.list .text) (·.accessModes)
        (fun x s => { s with accessModes := x }),
      .optional "capacity" .stringMap (·.capacity) (fun x s => { s with capacity := x }),
      .optional "claimRef" ClaimRef.record.manifest (·.claimRef)
        (fun x s => { s with claimRef := x }),
      .optional "csi" DriverSource.record.manifest (·.source) (fun x s => { s with source := x }),
      .optional "mountOptions" (.list .text) (·.mountOptions)
        (fun x s => { s with mountOptions := x }),
      .optional "nodeAffinity" NodeAffinity.record.manifest (·.nodeAffinity)
        (fun x s => { s with nodeAffinity := x }),
      .optional "persistentVolumeReclaimPolicy" .text (·.reclaimPolicy)
        (fun x s => { s with reclaimPolicy := x }),
      .optional "storageClassName" .text (·.storageClassName)
        (fun x s => { s with storageClassName := x }),
      .optional "volumeMode" .text (·.volumeMode) fun x s => { s with volumeMode := x } ] ++
    Field.carried
      [ "awsElasticBlockStore", "azureDisk", "azureFile", "cephfs", "cinder", "fc", "flexVolume",
        "flocker", "gcePersistentDisk", "glusterfs", "hostPath", "iscsi", "local", "nfs",
        "photonPersistentDisk", "portworxVolume", "quobyte", "rbd", "scaleIO", "storageos",
        "volumeAttributesClassName", "vsphereVolume" ]
      (·.others) fun x s => { s with others := x }

/-- A volume as the orchestrator records it. -/
structure VolumeRecord where
  metadata : Metadata := {}
  spec : Option VolumeSpec := none
  status : Option Phased := none
  deriving Repr, Inhabited

def VolumeRecord.record : Record VolumeRecord where
  start := {}
  fields :=
    [ metadataField (·.metadata) (fun x s => { s with metadata := x }),
      .optional "spec" VolumeSpec.record.manifest (·.spec) (fun x s => { s with spec := x }),
      .optional "status" (Phased.record ["lastPhaseTransitionTime", "message", "reason"]).manifest
        (·.status)
        fun x s => { s with status := x } ]

def VolumeRecord.codec : Codec VolumeRecord := VolumeRecord.record.topLevel "v1" "PersistentVolume"

/-- The name of a volume, empty if it has none. -/
def VolumeRecord.name (v : VolumeRecord) : String :=
  v.metadata.name.getD ""

/-! ## Claims -/

/-- How much a claim asks for. -/
structure ClaimResources where
  limits : Option StringMap := none
  requests : Option StringMap := none
  deriving DecidableEq, Repr, Inhabited

def ClaimResources.record : Record ClaimResources where
  start := {}
  fields :=
    [ .optional "limits" .stringMap (·.limits) (fun x s => { s with limits := x }),
      .optional "requests" .stringMap (·.requests) fun x s => { s with requests := x } ]

/-- What a claim asks for. -/
structure ClaimSpec where
  accessModes : Option (List String) := none
  resources : Option ClaimResources := none
  storageClassName : Option String := none
  volumeMode : Option String := none
  volumeName : Option String := none
  others : Others := []
  deriving Repr, Inhabited

def ClaimSpec.record : Record ClaimSpec where
  start := {}
  fields :=
    [ .optional "accessModes" (.list .text) (·.accessModes)
        (fun x s => { s with accessModes := x }),
      .optional "resources" ClaimResources.record.manifest (·.resources)
        (fun x s => { s with resources := x }),
      .optional "storageClassName" .text (·.storageClassName)
        (fun x s => { s with storageClassName := x }),
      .optional "volumeMode" .text (·.volumeMode) (fun x s => { s with volumeMode := x }),
      .optional "volumeName" .text (·.volumeName) fun x s => { s with volumeName := x } ] ++
    Field.carried ["dataSource", "dataSourceRef", "selector", "volumeAttributesClassName"]
      (·.others) fun x s => { s with others := x }

/-- A claim. -/
structure Claim where
  metadata : Metadata := {}
  spec : Option ClaimSpec := none
  status : Option Phased := none
  deriving Repr, Inhabited

def Claim.record : Record Claim where
  start := {}
  fields :=
    [ metadataField (·.metadata) (fun x s => { s with metadata := x }),
      .optional "spec" ClaimSpec.record.manifest (·.spec) (fun x s => { s with spec := x }),
      .optional "status"
        (Phased.record
          [ "accessModes", "allocatedResourceStatuses", "allocatedResources", "capacity",
            "conditions", "currentVolumeAttributesClassName", "modifyVolumeStatus" ]).manifest
        (·.status) fun x s => { s with status := x } ]

def Claim.codec : Codec Claim := Claim.record.topLevel "v1" "PersistentVolumeClaim"

/-- The name of a claim, empty if it has none. -/
def Claim.name (c : Claim) : String :=
  c.metadata.name.getD ""

end ClusterVolumes.Orchestrator
