import EtcdDruid.Go

/-!
# Platform objects

The fields of the core and apps API types that the statefulset component writes or reads.
A Go pointer is an `Option`; a field the component never sets keeps the zero value of its
type, which is the default given here, so `{}` is Go's empty struct. Affinity and topology
spread constraints are passed through from the values unread, and are kept as opaque text.
-/

namespace EtcdDruid

/-- A resource quantity, kept as the text it is parsed from (`50m`, `128Mi`). -/
abbrev Quantity := String

/-- `corev1.Affinity`, passed through unread. -/
abbrev Affinity := String

/-- `corev1.TopologySpreadConstraint`, passed through unread. -/
abbrev TopologySpreadConstraint := String

structure ResourceRequirements where
  limits : List (String × Quantity) := []
  requests : List (String × Quantity) := []
  deriving DecidableEq, Repr

structure OwnerReference where
  apiVersion : String
  kind : String
  name : String
  uid : String
  controller : Option Bool
  blockOwnerDeletion : Option Bool
  deriving DecidableEq, Repr

structure ObjectMeta where
  name : String := ""
  «namespace» : String := ""
  generation : Int := 0
  labels : StringMap := ∅
  annotations : StringMap := ∅
  ownerReferences : List OwnerReference := []
  deriving DecidableEq

inductive EnvVarSource where
  | fieldRef (fieldPath : String)
  | secretKeyRef (secretName key : String)
  deriving DecidableEq, Repr

structure EnvVar where
  name : String
  value : String := ""
  valueFrom : Option EnvVarSource := none
  deriving DecidableEq, Repr

structure VolumeMount where
  name : String
  mountPath : String
  deriving DecidableEq, Repr

inductive VolumeSource where
  | configMap (name : String) (items : List (String × String)) (defaultMode : Option Int)
  | secret (secretName : String)
  | hostPath (path : String) (type : Option String)
  deriving DecidableEq, Repr

structure Volume where
  name : String
  source : VolumeSource
  deriving DecidableEq, Repr

structure ContainerPort where
  name : String
  protocol : String
  containerPort : Int
  deriving DecidableEq, Repr

/-- An exec probe. -/
structure Probe where
  command : List String
  initialDelaySeconds : Int
  periodSeconds : Int
  failureThreshold : Int
  deriving DecidableEq, Repr

structure Container where
  name : String
  image : String
  imagePullPolicy : String
  command : List String
  readinessProbe : Option Probe := none
  livenessProbe : Option Probe := none
  ports : List ContainerPort
  resources : ResourceRequirements
  env : List EnvVar
  volumeMounts : List VolumeMount
  /-- The capabilities the security context adds, when there is one. -/
  securityContext : Option (List String) := none
  deriving DecidableEq, Repr

structure HostAlias where
  ip : String
  hostnames : List String
  deriving DecidableEq, Repr

structure PodSpec where
  hostAliases : List HostAlias := []
  serviceAccountName : String := ""
  affinity : Option Affinity := none
  topologySpreadConstraints : List TopologySpreadConstraint := []
  containers : List Container := []
  shareProcessNamespace : Option Bool := none
  volumes : List Volume := []
  priorityClassName : String := ""
  deriving DecidableEq, Repr

structure PodTemplateSpec where
  metadata : ObjectMeta := {}
  spec : PodSpec := {}
  deriving DecidableEq

/-- A persistent volume claim: a claim template of a StatefulSet, or a claim listed in a
namespace, whose `phase` is its `Status.Phase`. -/
structure PersistentVolumeClaim where
  metadata : ObjectMeta := {}
  accessModes : List String := []
  storageClassName : Option String := none
  resources : ResourceRequirements := {}
  phase : String := ""
  deriving DecidableEq

structure LabelSelector where
  matchLabels : StringMap
  deriving DecidableEq

structure StatefulSetSpec where
  podManagementPolicy : String := ""
  updateStrategy : String := ""
  replicas : Option Int := none
  serviceName : String := ""
  selector : Option LabelSelector := none
  template : PodTemplateSpec := {}
  volumeClaimTemplates : List PersistentVolumeClaim := []
  deriving DecidableEq

structure StatefulSetStatus where
  observedGeneration : Int := 0
  replicas : Int := 0
  readyReplicas : Int := 0
  currentReplicas : Int := 0
  updatedReplicas : Int := 0
  currentRevision : String := ""
  updateRevision : String := ""
  deriving DecidableEq, Repr

structure StatefulSet where
  metadata : ObjectMeta := {}
  spec : StatefulSetSpec := {}
  status : StatefulSetStatus := {}
  deriving DecidableEq

/-- `client.ObjectKey`. -/
structure ObjectKey where
  «namespace» : String
  name : String
  deriving DecidableEq, Repr

/-- `client.ObjectKeyFromObject(sts)`. -/
def StatefulSet.key (sts : StatefulSet) : ObjectKey :=
  ⟨sts.metadata.namespace, sts.metadata.name⟩

end EtcdDruid
