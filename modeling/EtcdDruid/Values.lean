import EtcdDruid.Objects

/-!
# Values of the etcd StatefulSet

The configuration snapshot a deployer is built from, the constants this file uses but
declares elsewhere, and the storage provider resolution of `utils`. The snapshot's
replica counts are `int32` in Go; they are only compared, so they are integers here.
-/

namespace EtcdDruid

/-- `druidv1alpha1.TLSConfig`, by the names of its three secret references. -/
structure TLSConfig where
  tlsCASecretRef : String
  serverTLSSecretRef : String
  clientTLSSecretRef : String
  deriving DecidableEq, Repr

/-- `corev1.SecretReference`; only its name is read. -/
structure SecretReference where
  name : String
  deriving DecidableEq, Repr

/-- `druidv1alpha1.StoreSpec`: the backup store descriptor. -/
structure StoreSpec where
  container : Option String := none
  provider : Option String := none
  secretRef : Option SecretReference := none
  deriving DecidableEq, Repr

structure Values where
  name : String := ""
  «namespace» : String := ""
  etcdUID : String := ""
  replicas : Int := 0
  statusReplicas : Int := 0
  serviceName : String := ""
  labels : StringMap := ∅
  annotations : StringMap := ∅
  serviceAccountName : String := ""
  affinity : Option Affinity := none
  topologySpreadConstraints : List TopologySpreadConstraint := []
  etcdImage : String := ""
  etcdCommand : List String := []
  readinessProbeCommand : List String := []
  livenessProbCommand : List String := []
  serverPort : Option Int := none
  clientPort : Option Int := none
  etcdResourceRequirements : Option ResourceRequirements := none
  backupTLS : Option TLSConfig := none
  backupPort : Option Int := none
  backupImage : String := ""
  etcdBackupCommand : List String := []
  backupResourceRequirements : Option ResourceRequirements := none
  volumeClaimTemplateName : String := ""
  storageClass : Option String := none
  storageCapacity : Option Quantity := none
  priorityClassName : Option String := none
  configMapName : String := ""
  clientUrlTLS : Option TLSConfig := none
  peerUrlTLS : Option TLSConfig := none
  backupStore : Option StoreSpec := none
  deriving DecidableEq

/-- The package's default constants and the API group version, which this file uses and
other files declare. Their values are not under src/: every definition takes them as a
parameter, so every result holds whatever they are. -/
structure Constants where
  defaultServerPort : Int
  defaultClientPort : Int
  defaultBackupPort : Int
  defaultStorageCapacity : Quantity
  defaultLocalPrefix : String
  /-- `druidv1alpha1.GroupVersion.String()`. -/
  groupVersion : String

/-! ## Storage providers -/

/-- Modelled from the spec: the provider kinds of `utils` are not under src/. Section 3 has
a local kind and several object store kinds; each is named by its Go identifier, and
`getVolumes` matches the local one by the literal `"Local"`. -/
def Local : String := "Local"
def S3 : String := "S3"
def ABS : String := "ABS"
def GCS : String := "GCS"
def Swift : String := "Swift"
def OSS : String := "OSS"
def ECS : String := "ECS"
def OCS : String := "OCS"

/-- The closed enumeration of provider kinds. -/
def storageProviders : List String := [Local, S3, ABS, GCS, Swift, OSS, ECS, OCS]

/-- Modelled from the spec: `utils.StorageProviderFromInfraProvider` is not under src/.
Section 4.2 resolves a provider identifier on the closed enumeration of kinds, each kind
under its own name, and rejects any other identifier. -/
def storageProviderFromInfraProvider : Option String → Except GoError String
  | some p => if p ∈ storageProviders then .ok p else .error (.plain ("unsupported storage provider: " ++ p))
  | none => .error (.plain "no storage provider")

/-- A resolved provider is one of the kinds. -/
theorem storageProviderFromInfraProvider_mem {p : Option String} {kind : String}
    (h : storageProviderFromInfraProvider p = .ok kind) : kind ∈ storageProviders := by
  cases p with
  | none => cases h
  | some p =>
    simp only [storageProviderFromInfraProvider] at h
    split at h
    · cases h; assumption
    · cases h

/-- The cluster is being scaled from one member to several. A status of `0` counts as one
member because earlier releases did not maintain the field. -/
def clusterScaledUpToMultiNode (val : Values) : Bool :=
  1 < val.replicas && (val.statusReplicas == 0 || val.statusReplicas == 1)

theorem clusterScaledUpToMultiNode_iff (val : Values) :
    clusterScaledUpToMultiNode val = true ↔
      1 < val.replicas ∧ (val.statusReplicas = 0 ∨ val.statusReplicas = 1) := by
  simp [clusterScaledUpToMultiNode]

end EtcdDruid
