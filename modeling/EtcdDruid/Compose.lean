import EtcdDruid.Values

/-!
# Composing the StatefulSet

The desired StatefulSet of `syncStatefulset` and the helpers it calls, in the order of
statefulset.go. A Go nil dereference panics; the functions that dereference a pointer
they do not check return `Option`, with `none` for the panic. The three provider
switches share the guard that returns the base list when there is no backup store or
its provider does not resolve (`backupProvider`).
-/

namespace EtcdDruid

variable (k : Constants)

def getCommonLabels (val : Values) : StringMap :=
  ((∅ : StringMap).insert "name" "etcd").insert "instance" val.name

def getObjectMeta (val : Values) : ObjectMeta where
  name := val.name
  «namespace» := val.namespace
  labels := mergeStringMaps (getCommonLabels val) val.labels
  annotations := mergeStringMaps
    (((∅ : StringMap).insert "gardener.cloud/owned-by" (val.namespace ++ "/" ++ val.name)).insert
      "gardener.cloud/owner-type" "etcd")
    val.annotations
  ownerReferences := [⟨k.groupVersion, "Etcd", val.name, val.etcdUID, some true, some true⟩]

def getEtcdPorts (val : Values) : List ContainerPort :=
  [⟨"server", "TCP", val.serverPort.getD k.defaultServerPort⟩,
   ⟨"client", "TCP", val.clientPort.getD k.defaultClientPort⟩]

def defaultResourceRequirements : ResourceRequirements :=
  { requests := [("cpu", "50m"), ("memory", "128Mi")] }

def getEtcdResources (val : Values) : ResourceRequirements :=
  val.etcdResourceRequirements.getD defaultResourceRequirements

def getEnvVarFromValue (name value : String) : EnvVar :=
  { name := name, value := value }

def getEnvVarFromField (name fieldPath : String) : EnvVar :=
  { name := name, valueFrom := some (.fieldRef fieldPath) }

def getEnvVarFromSecrets (name secretName secretKey : String) : EnvVar :=
  { name := name, valueFrom := some (.secretKeyRef secretName secretKey) }

def getEtcdEnvVars (val : Values) : List EnvVar :=
  let protocol := if val.backupTLS.isSome then "https" else "http"
  let endpoint := protocol ++ "://" ++ val.name ++ "-local:" ++
    toString (val.backupPort.getD k.defaultBackupPort)
  [getEnvVarFromValue "ENABLE_TLS" (toString val.backupTLS.isSome),
   getEnvVarFromValue "BACKUP_ENDPOINT" endpoint,
   -- unused for a long time, kept so that etcd is not restarted
   getEnvVarFromValue "FAIL_BELOW_REVISION_PARAMETER" ""]

def getSecretVolumeMounts (clientUrlTLS peerUrlTLS : Option TLSConfig) : List VolumeMount :=
  (if clientUrlTLS.isSome then
    [⟨"client-url-ca-etcd", "/var/etcd/ssl/client/ca"⟩,
     ⟨"client-url-etcd-server-tls", "/var/etcd/ssl/client/server"⟩,
     ⟨"client-url-etcd-client-tls", "/var/etcd/ssl/client/client"⟩] else []) ++
  (if peerUrlTLS.isSome then
    [⟨"peer-url-ca-etcd", "/var/etcd/ssl/peer/ca"⟩,
     ⟨"peer-url-etcd-server-tls", "/var/etcd/ssl/peer/server"⟩] else [])

def getEtcdVolumeMounts (val : Values) : List VolumeMount :=
  ⟨val.volumeClaimTemplateName, "/var/etcd/data/"⟩ ::
    getSecretVolumeMounts val.clientUrlTLS val.peerUrlTLS

/-- The guard of the three provider switches: the backup store and its resolved provider,
when there is a store and `StorageProviderFromInfraProvider` accepts its provider. -/
def backupProvider (val : Values) : Option (StoreSpec × String) :=
  val.backupStore.bind fun store =>
    match storageProviderFromInfraProvider store.provider with
    | .ok provider => some (store, provider)
    | .error _ => none

/-- The provider switch of `getBackupRestoreVolumeMounts`. -/
def providerVolumeMounts (store : StoreSpec) (provider : String) : List VolumeMount :=
  if provider = Local then
    match store.container with
    | some container => [⟨"host-storage", container⟩]
    | none => []
  else if provider = GCS then [⟨"etcd-backup", "/root/.gcp/"⟩]
  else if provider ∈ [S3, ABS, OSS, Swift, OCS] then [⟨"etcd-backup", "/root/etcd-backup/"⟩]
  else []

def getBackupRestoreVolumeMounts (val : Values) : List VolumeMount :=
  [⟨val.volumeClaimTemplateName, "/var/etcd/data"⟩, ⟨"etcd-config-file", "/var/etcd/config/"⟩] ++
    getSecretVolumeMounts val.clientUrlTLS val.peerUrlTLS ++
    match backupProvider val with
    | some (store, provider) => providerVolumeMounts store provider
    | none => []

def getStorageReq (val : Values) : ResourceRequirements :=
  { requests := [("storage", val.storageCapacity.getD k.defaultStorageCapacity)] }

def getBackupPorts (val : Values) : List ContainerPort :=
  [⟨"server", "TCP", val.backupPort.getD k.defaultBackupPort⟩]

def getBackupResources (val : Values) : ResourceRequirements :=
  val.backupResourceRequirements.getD defaultResourceRequirements

/-- The config map volume and the TLS secret volumes of `getVolumes`. -/
def baseVolumes (val : Values) : List Volume :=
  ⟨"etcd-config-file", .configMap val.configMapName [("etcd.conf.yaml", "etcd.conf.yaml")] (some 0o644)⟩ ::
  ((match val.clientUrlTLS with
    | some tls =>
      [⟨"client-url-ca-etcd", .secret tls.tlsCASecretRef⟩,
       ⟨"client-url-etcd-server-tls", .secret tls.serverTLSSecretRef⟩,
       ⟨"client-url-etcd-client-tls", .secret tls.clientTLSSecretRef⟩]
    | none => []) ++
  (match val.peerUrlTLS with
    | some tls =>
      [⟨"peer-url-ca-etcd", .secret tls.tlsCASecretRef⟩,
       ⟨"peer-url-etcd-server-tls", .secret tls.serverTLSSecretRef⟩]
    | none => []))

/-- The provider switch of `getVolumes`. It dereferences `Container` under the local
provider and `SecretRef` under the object stores without a nil check. -/
def providerVolumes (store : StoreSpec) (provider : String) : Option (List Volume) :=
  if provider = "Local" then
    store.container.map fun container =>
      [⟨"host-storage", .hostPath (k.defaultLocalPrefix ++ "/" ++ container) (some "Directory")⟩]
  else if provider ∈ [GCS, S3, OSS, ABS, Swift, OCS] then
    store.secretRef.map fun secretRef => [⟨"etcd-backup", .secret secretRef.name⟩]
  else some []

def getVolumes (val : Values) : Option (List Volume) :=
  match backupProvider val with
  | some (store, provider) => (providerVolumes k store provider).map (baseVolumes val ++ ·)
  | none => some (baseVolumes val)

def credentialsMountPath : String := "/root/etcd-backup"

/-- The provider switch of `getBackupRestoreEnvVars`. Under ECS it dereferences
`SecretRef` without a nil check. -/
def providerEnvVars (store : StoreSpec) (provider : String) : Option (List EnvVar) :=
  if provider = S3 then some [getEnvVarFromValue "AWS_APPLICATION_CREDENTIALS" credentialsMountPath]
  else if provider = ABS then
    some [getEnvVarFromValue "AZURE_APPLICATION_CREDENTIALS" credentialsMountPath]
  else if provider = GCS then
    some [getEnvVarFromValue "GOOGLE_APPLICATION_CREDENTIALS" "/root/.gcp/serviceaccount.json"]
  else if provider = Swift then
    some [getEnvVarFromValue "OPENSTACK_APPLICATION_CREDENTIALS" credentialsMountPath]
  else if provider = OSS then
    some [getEnvVarFromValue "ALICLOUD_APPLICATION_CREDENTIALS" credentialsMountPath]
  else if provider = ECS then
    store.secretRef.map fun secretRef =>
      [getEnvVarFromSecrets "ECS_ENDPOINT" secretRef.name "endpoint",
       getEnvVarFromSecrets "ECS_ACCESS_KEY_ID" secretRef.name "accessKeyID",
       getEnvVarFromSecrets "ECS_SECRET_ACCESS_KEY" secretRef.name "secretAccessKey"]
  else if provider = OCS then
    some [getEnvVarFromValue "OPENSHIFT_APPLICATION_CREDENTIALS" credentialsMountPath]
  else some []

def getBackupRestoreEnvVars (val : Values) : Option (List EnvVar) :=
  let storageContainer := match val.backupStore with
    | some store => store.container.getD ""
    | none => ""
  let env := [getEnvVarFromValue "STORAGE_CONTAINER" storageContainer,
    getEnvVarFromField "POD_NAME" "metadata.name",
    getEnvVarFromField "POD_NAMESPACE" "metadata.namespace"]
  match backupProvider val with
  | some (store, provider) => (providerEnvVars store provider).map (env ++ ·)
  | none => some env

def etcdContainer (val : Values) : Container where
  name := "etcd"
  image := val.etcdImage
  imagePullPolicy := "IfNotPresent"
  command := val.etcdCommand
  readinessProbe := some ⟨val.readinessProbeCommand, 15, 5, 5⟩
  livenessProbe := some ⟨val.livenessProbCommand, 15, 5, 5⟩
  ports := getEtcdPorts k val
  resources := getEtcdResources val
  env := getEtcdEnvVars k val
  volumeMounts := getEtcdVolumeMounts val

def backupRestoreContainer (val : Values) (env : List EnvVar) : Container where
  name := "backup-restore"
  image := val.backupImage
  imagePullPolicy := "IfNotPresent"
  command := val.etcdBackupCommand
  ports := getBackupPorts k val
  resources := getBackupResources val
  env := env
  volumeMounts := getBackupRestoreVolumeMounts val
  securityContext := some ["SYS_PTRACE"]

/-- The object `syncStatefulset` writes over `sts` before it patches or creates it: new
metadata and spec, the status kept. -/
def composeStatefulset (val : Values) (sts : StatefulSet) : Option StatefulSet :=
  (getBackupRestoreEnvVars val).bind fun backupEnv =>
  (getVolumes k val).map fun volumes =>
  let meta := getObjectMeta k val
  { sts with
    metadata := meta
    spec := {
      podManagementPolicy := "Parallel"
      updateStrategy := "RollingUpdate"
      replicas := some val.replicas
      serviceName := val.serviceName
      selector := some ⟨getCommonLabels val⟩
      template := {
        metadata := { annotations := val.annotations, labels := meta.labels }
        spec := {
          hostAliases := [⟨"127.0.0.1", [val.name ++ "-local"]⟩]
          serviceAccountName := val.serviceAccountName
          affinity := val.affinity
          topologySpreadConstraints := val.topologySpreadConstraints
          containers := [etcdContainer k val, backupRestoreContainer k val backupEnv]
          shareProcessNamespace := some true
          volumes := volumes
          priorityClassName := val.priorityClassName.getD "" } }
      volumeClaimTemplates := [{
        metadata := { name := val.volumeClaimTemplateName }
        accessModes := ["ReadWriteOnce"]
        storageClassName := val.storageClass
        resources := getStorageReq k val }] } }

def emptyStatefulset (val : Values) : StatefulSet :=
  { metadata := { name := val.name, «namespace» := val.namespace } }

end EtcdDruid

namespace EtcdDruid

variable {k : Constants}

/-- What a composed StatefulSet is made of: the helpers' results, put where the source
puts them. -/
theorem composeStatefulset_spec {val : Values} {sts sts' : StatefulSet}
    (h : composeStatefulset k val sts = some sts') :
    ∃ env volumes, getBackupRestoreEnvVars val = some env ∧ getVolumes k val = some volumes ∧
      sts'.metadata = getObjectMeta k val ∧
      sts'.spec.serviceName = val.serviceName ∧
      sts'.spec.selector = some ⟨getCommonLabels val⟩ ∧
      sts'.spec.template.metadata.labels = (getObjectMeta k val).labels ∧
      sts'.spec.template.spec.containers =
        [etcdContainer k val, backupRestoreContainer k val env] ∧
      sts'.spec.template.spec.volumes = volumes ∧
      sts'.spec.volumeClaimTemplates.map (·.metadata.name) = [val.volumeClaimTemplateName] := by
  simp only [composeStatefulset, Option.bind_eq_some, Option.map_eq_some'] at h
  obtain ⟨env, henv, volumes, hvol, rfl⟩ := h
  exact ⟨env, volumes, henv, hvol, rfl, rfl, rfl, rfl, rfl, rfl, rfl⟩

/-- The spec `syncStatefulset` writes depends on the values only, not on the object it is
written over. -/
theorem composeStatefulset_spec_eq {val : Values} {sts obj : StatefulSet}
    (h : composeStatefulset k val sts = some obj) (sts' : StatefulSet) :
    ∃ obj', composeStatefulset k val sts' = some obj' ∧ obj.spec = obj'.spec := by
  simp only [composeStatefulset, Option.bind_eq_some, Option.map_eq_some'] at h ⊢
  obtain ⟨env, henv, volumes, hvol, rfl⟩ := h
  exact ⟨_, ⟨env, henv, volumes, hvol, rfl⟩, rfl⟩

/-- A composed StatefulSet has the values' key and names their service. -/
theorem composeStatefulset_key {val : Values} {sts obj : StatefulSet}
    (h : composeStatefulset k val sts = some obj) :
    obj.key = (emptyStatefulset val).key ∧ obj.spec.serviceName = val.serviceName := by
  obtain ⟨-, -, -, -, hmeta, hsvc, -⟩ := composeStatefulset_spec h
  exact ⟨by simp [StatefulSet.key, hmeta, getObjectMeta, emptyStatefulset], hsvc⟩

/-! ## Nil dereferences -/

/-- The composition panics exactly when a provider switch dereferences a pointer that is
nil: `Container` under the local provider, `SecretRef` under an object store. -/
def ComposeDefined (val : Values) : Prop :=
  ∀ store provider, backupProvider val = some (store, provider) →
    (provider = Local → store.container.isSome) ∧
    (provider ∈ [GCS, S3, OSS, ABS, Swift, OCS] ∨ provider = ECS → store.secretRef.isSome)

theorem providerEnvVars_isSome (store : StoreSpec) (provider : String) :
    (providerEnvVars store provider).isSome ↔ (provider = ECS → store.secretRef.isSome) := by
  by_cases hecs : provider = ECS
  · subst hecs
    simp [providerEnvVars, S3, ABS, GCS, Swift, OSS, ECS]
  · simp only [providerEnvVars, hecs, ↓reduceIte, apply_ite Option.isSome, Option.isSome_some,
      ite_self, false_implies]

theorem providerVolumes_isSome (store : StoreSpec) (provider : String) :
    (providerVolumes k store provider).isSome ↔
      (provider = Local → store.container.isSome) ∧
      (provider ∈ [GCS, S3, OSS, ABS, Swift, OCS] → store.secretRef.isSome) := by
  unfold providerVolumes
  split_ifs <;> simp_all [Local, S3, ABS, GCS, Swift, OSS, OCS]

theorem composeStatefulset_isSome_iff (val : Values) (sts : StatefulSet) :
    (composeStatefulset k val sts).isSome ↔ ComposeDefined val := by
  have hsome : (composeStatefulset k val sts).isSome ↔
      (getBackupRestoreEnvVars val).isSome ∧ (getVolumes k val).isSome := by
    simp only [composeStatefulset]
    cases getBackupRestoreEnvVars val <;> cases getVolumes k val <;> simp
  rw [hsome, ComposeDefined]
  cases hp : backupProvider val with
  | none => simp [getBackupRestoreEnvVars, getVolumes, hp]
  | some sp =>
    obtain ⟨store, provider⟩ := sp
    simp only [getBackupRestoreEnvVars, getVolumes, hp, Option.isSome_map',
      providerEnvVars_isSome, providerVolumes_isSome, Option.some.injEq, Prod.mk.injEq, or_imp]
    constructor
    · rintro ⟨he, hl, hs⟩ _ _ ⟨rfl, rfl⟩
      exact ⟨hl, hs, he⟩
    · intro h
      obtain ⟨hl, hs, he⟩ := h store provider ⟨rfl, rfl⟩
      exact ⟨he, hl, hs⟩

/-- Under the local provider with no `Container`, `getBackupRestoreVolumeMounts` leaves the
host mount out, but `getVolumes` dereferences the nil `Container`: the composition panics. -/
theorem composeStatefulset_local_store_without_container (sts : StatefulSet) :
    getBackupRestoreVolumeMounts { backupStore := some { provider := some "Local" } } =
      [⟨"", "/var/etcd/data"⟩, ⟨"etcd-config-file", "/var/etcd/config/"⟩] ∧
    getVolumes k { backupStore := some { provider := some "Local" } } = none ∧
    composeStatefulset k { backupStore := some { provider := some "Local" } } sts = none :=
  ⟨rfl, rfl, rfl⟩

/-! ## Labels -/

theorem lookup_getCommonLabels (val : Values) (key : String) :
    (getCommonLabels val).lookup key =
      if key = "instance" then some val.name else if key = "name" then some "etcd" else none := by
  unfold getCommonLabels
  split_ifs with h₁ h₂
  · subst h₁; exact AList.lookup_insert _
  all_goals simp [*, AList.lookup_insert_ne]

/-- The pod template carries a selector label with the user's value when the user sets that
key, and with the selector's value otherwise. -/
theorem lookup_template_labels (val : Values) {key x : String}
    (h : (getCommonLabels val).lookup key = some x) :
    (getObjectMeta k val).labels.lookup key = some ((val.labels.lookup key).getD x) := by
  simp only [getObjectMeta, lookup_mergeStringMaps, h]
  cases val.labels.lookup key <;> rfl

/-- A selector label survives in the pod template exactly when the user labels leave its key
unset or give it the selector's value. -/
theorem template_label_eq_iff (val : Values) {key x : String}
    (h : (getCommonLabels val).lookup key = some x) :
    (getObjectMeta k val).labels.lookup key = some x ↔
      ∀ y, val.labels.lookup key = some y → y = x := by
  rw [lookup_template_labels val h]
  cases val.labels.lookup key <;> simp

/-- The selector is the identity labels `{name: etcd, instance: v.Name}`, and the pod template
labels are the user labels merged over them. So every selector key is a template label, with
the user's value where the user sets it, and the template carries the selector exactly when
the user labels leave `name` and `instance` alone or agree with them. -/
theorem composeStatefulset_selector_template_labels {val : Values} {sts sts' : StatefulSet}
    (h : composeStatefulset k val sts = some sts') :
    sts'.spec.selector = some ⟨getCommonLabels val⟩ ∧
    sts'.spec.template.metadata.labels = mergeStringMaps (getCommonLabels val) val.labels ∧
    (∀ key x, (getCommonLabels val).lookup key = some x →
      sts'.spec.template.metadata.labels.lookup key = some ((val.labels.lookup key).getD x)) ∧
    ((∀ key x, (getCommonLabels val).lookup key = some x →
        sts'.spec.template.metadata.labels.lookup key = some x) ↔
      (∀ y, val.labels.lookup "name" = some y → y = "etcd") ∧
      (∀ y, val.labels.lookup "instance" = some y → y = val.name)) := by
  obtain ⟨-, -, -, -, -, -, hsel, hlabels, -⟩ := composeStatefulset_spec h
  have hname : (getCommonLabels val).lookup "name" = some "etcd" := by simp [lookup_getCommonLabels]
  have hinstance : (getCommonLabels val).lookup "instance" = some val.name := by
    simp [lookup_getCommonLabels]
  rw [hlabels]
  refine ⟨hsel, rfl, fun key x hx => lookup_template_labels val hx, fun hkeep => ⟨?_, ?_⟩, ?_⟩
  · exact (template_label_eq_iff val hname).1 (hkeep _ _ hname)
  · exact (template_label_eq_iff val hinstance).1 (hkeep _ _ hinstance)
  · rintro ⟨hn, hi⟩ key x hx
    rw [lookup_getCommonLabels] at hx
    split_ifs at hx with hkey hkey' <;> cases hx
    · subst hkey; exact (template_label_eq_iff val hinstance).2 hi
    · subst hkey'; exact (template_label_eq_iff val hname).2 hn

/-- The user label `app` joins the identity labels in the pod template. -/
theorem composeStatefulset_selector_template_labels_of_user_label :
    ∃ sts', composeStatefulset ⟨1, 2, 3, "1Gi", "/backup", "v1"⟩
        { name := "etcd-main", labels := (∅ : StringMap).insert "app" "etcd-statefulset" } {} =
        some sts' ∧
      sts'.spec.selector = some ⟨getCommonLabels
        { name := "etcd-main", labels := (∅ : StringMap).insert "app" "etcd-statefulset" }⟩ ∧
      sts'.spec.template.metadata.labels = mergeStringMaps (getCommonLabels
          { name := "etcd-main", labels := (∅ : StringMap).insert "app" "etcd-statefulset" })
        ((∅ : StringMap).insert "app" "etcd-statefulset") ∧
      (∀ key x, (getCommonLabels
          { name := "etcd-main", labels := (∅ : StringMap).insert "app" "etcd-statefulset" }).lookup key =
          some x →
        sts'.spec.template.metadata.labels.lookup key =
          some ((((∅ : StringMap).insert "app" "etcd-statefulset").lookup key).getD x)) ∧
      ((∀ key x, (getCommonLabels
          { name := "etcd-main", labels := (∅ : StringMap).insert "app" "etcd-statefulset" }).lookup key =
          some x → sts'.spec.template.metadata.labels.lookup key = some x) ↔
        (∀ y, ((∅ : StringMap).insert "app" "etcd-statefulset").lookup "name" = some y → y = "etcd") ∧
        (∀ y, ((∅ : StringMap).insert "app" "etcd-statefulset").lookup "instance" = some y →
          y = "etcd-main")) :=
  ⟨_, rfl, composeStatefulset_selector_template_labels rfl⟩

/-- A user label `name: main` replaces the identity label in the pod template, so the
template no longer carries the selector's `name: etcd`. -/
theorem composeStatefulset_user_name_label_breaks_selector :
    ∃ sts' sel, composeStatefulset ⟨1, 2, 3, "1Gi", "/backup", "v1"⟩
        { name := "etcd-main", labels := (∅ : StringMap).insert "name" "main" } {} = some sts' ∧
      sts'.spec.selector = some sel ∧ sel.matchLabels.lookup "name" = some "etcd" ∧
      sts'.spec.template.metadata.labels.lookup "name" = some "main" :=
  ⟨_, _, rfl, rfl, by simp [lookup_getCommonLabels],
    by simp [getObjectMeta, lookup_getCommonLabels]⟩

end EtcdDruid
