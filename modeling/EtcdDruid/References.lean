import EtcdDruid.Compose

/-!
# References inside the composed pod

The three provider switches of `getBackupRestoreVolumeMounts`, `getVolumes` and
`getBackupRestoreEnvVars` are written separately. Wherever the composition is defined they
agree: every mount names a pod volume or the claim template, every pod volume is mounted,
the pod volume names are distinct, and every credentials file the backup-restore container
is pointed at lies in one of its mounts. This holds for every provider string, including
those the provider resolution rejects.
-/

namespace EtcdDruid

/-- The files the environment of a container points at as application credentials. -/
def credentialsFilePaths (env : List EnvVar) : List String :=
  env.filterMap fun e =>
    if "_APPLICATION_CREDENTIALS".data.isSuffixOf e.name.data then some e.value else none

/-- The characters of a path without its trailing `/`s. -/
def trimTrailingSlash (path : String) : List Char :=
  (path.data.reverse.dropWhile (· == '/')).reverse

/-- `path` is the mount path or lies below it, trailing `/`s ignored. -/
def pathWithin (path mountPath : String) : Bool :=
  trimTrailingSlash path == trimTrailingSlash mountPath ||
    (trimTrailingSlash mountPath ++ ['/']).isPrefixOf path.data

/-- What the provider part of the three switches must agree on: the volume it adds is one of
the two provider volumes, its mounts name its volumes and mount all of them, and every
credentials file it points at lies in one of its mounts. -/
structure ProviderPartsAgree (vols : List Volume) (env : List EnvVar)
    (mounts : List VolumeMount) : Prop where
  names : vols.map (·.name) = [] ∨ vols.map (·.name) = ["host-storage"] ∨
    vols.map (·.name) = ["etcd-backup"]
  mount_names_volume : ∀ m ∈ mounts, m.name ∈ vols.map (·.name)
  volume_mounted : ∀ v ∈ vols, ∃ m ∈ mounts, m.name = v.name
  credentials_within : ∀ p ∈ credentialsFilePaths env, ∃ m ∈ mounts, pathWithin p m.mountPath = true

theorem providerPartsAgree_none {env : List EnvVar} (hcred : credentialsFilePaths env = []) :
    ProviderPartsAgree [] env [] :=
  ⟨.inl rfl, by simp, by simp, by simp [hcred]⟩

theorem providerPartsAgree_local {path container : String} :
    ProviderPartsAgree [⟨"host-storage", .hostPath path (some "Directory")⟩] []
      [⟨"host-storage", container⟩] :=
  ⟨.inr (.inl rfl), by simp, by simp, by simp [credentialsFilePaths]⟩

theorem providerPartsAgree_objectStore {secretName mountPath path : String} {env : List EnvVar}
    (hcred : credentialsFilePaths env = [path]) (hpath : pathWithin path mountPath = true) :
    ProviderPartsAgree [⟨"etcd-backup", .secret secretName⟩] env [⟨"etcd-backup", mountPath⟩] :=
  ⟨.inr (.inr rfl), by simp, by simp, by simp [hcred, hpath]⟩

variable {k : Constants}

/-- The provider switches agree for every provider string, including those the provider
resolution rejects. -/
theorem provider_switches_agree (store : StoreSpec) (provider : String) {vols : List Volume}
    {env : List EnvVar} (hv : providerVolumes k store provider = some vols)
    (he : providerEnvVars store provider = some env) :
    ProviderPartsAgree vols env (providerVolumeMounts store provider) := by
  by_cases hmem : provider ∈ storageProviders
  · simp only [storageProviders, List.mem_cons, List.not_mem_nil, or_false] at hmem
    rcases hmem with rfl | rfl | rfl | rfl | rfl | rfl | rfl | rfl
    all_goals
      simp only [providerVolumes, providerEnvVars, Local, S3, ABS, GCS, Swift, OSS, ECS, OCS] at hv he
      simp at hv he
    · -- Local: the host path volume and its mount
      obtain ⟨container, hc, rfl⟩ := hv
      subst he
      have hmounts : providerVolumeMounts store Local = [⟨"host-storage", container⟩] := by
        simp [providerVolumeMounts, Local, hc]
      exact hmounts ▸ providerPartsAgree_local
    pick_goal 6
    · -- ECS: no volume, and its variables name no credentials file
      subst hv
      obtain ⟨_, _, rfl⟩ := he
      exact providerPartsAgree_none rfl
    -- the object stores: the secret volume and its mount
    all_goals
      obtain ⟨_, _, rfl⟩ := hv
      subst he
      exact providerPartsAgree_objectStore rfl (by decide)
  · simp only [storageProviders, List.mem_cons, List.not_mem_nil, or_false, not_or] at hmem
    simp only [providerVolumes, providerEnvVars, Local, S3, ABS, GCS, Swift, OSS, ECS, OCS] at hv he hmem
    simp [hmem] at hv he
    subst hv he
    simpa [providerVolumeMounts, Local, S3, ABS, GCS, Swift, OSS, ECS, OCS, hmem] using
      @providerPartsAgree_none [] rfl

/-! ## The composed pod -/

theorem baseVolumes_names (val : Values) :
    (baseVolumes val).map (·.name) =
      "etcd-config-file" :: (getSecretVolumeMounts val.clientUrlTLS val.peerUrlTLS).map (·.name) := by
  simp only [baseVolumes, getSecretVolumeMounts]
  cases val.clientUrlTLS <;> cases val.peerUrlTLS <;> rfl

/-- The pod volumes, the backup-restore mounts and its credentials files are the base parts
followed by the parts of one provider switch, and those parts agree. -/
theorem backup_provider_parts {val : Values} {volumes : List Volume} {env : List EnvVar}
    (hv : getVolumes k val = some volumes) (he : getBackupRestoreEnvVars val = some env) :
    ∃ vols penv mounts, volumes = baseVolumes val ++ vols ∧
      credentialsFilePaths env = credentialsFilePaths penv ∧
      getBackupRestoreVolumeMounts val =
        [⟨val.volumeClaimTemplateName, "/var/etcd/data"⟩, ⟨"etcd-config-file", "/var/etcd/config/"⟩] ++
          getSecretVolumeMounts val.clientUrlTLS val.peerUrlTLS ++ mounts ∧
      ProviderPartsAgree vols penv mounts := by
  cases hp : backupProvider val with
  | none =>
    simp only [getVolumes, getBackupRestoreEnvVars, hp, Option.some.injEq] at hv he
    exact ⟨[], [], [], by simp [← hv], by rw [← he]; rfl,
      by simp [getBackupRestoreVolumeMounts, hp], providerPartsAgree_none rfl⟩
  | some sp =>
    obtain ⟨store, provider⟩ := sp
    simp only [getVolumes, getBackupRestoreEnvVars, hp, Option.map_eq_some'] at hv he
    obtain ⟨vols, hvols, rfl⟩ := hv
    obtain ⟨penv, hpenv, rfl⟩ := he
    exact ⟨vols, penv, _, rfl, by simp only [credentialsFilePaths, List.filterMap_append]; rfl,
      by simp [getBackupRestoreVolumeMounts, hp], provider_switches_agree store provider hvols hpenv⟩

/-- Every reference inside the pod of a StatefulSet resolves: the pod volume names are
distinct, every mount names a pod volume or a claim template, every pod volume is mounted, and
every credentials file a container is pointed at lies in one of its mounts of a pod volume. -/
structure ReferencesResolve (sts : StatefulSet) : Prop where
  volume_names_nodup : (sts.spec.template.spec.volumes.map (·.name)).Nodup
  mount_names_volume : ∀ c ∈ sts.spec.template.spec.containers, ∀ m ∈ c.volumeMounts,
    m.name ∈ sts.spec.template.spec.volumes.map (·.name) ∨
      m.name ∈ sts.spec.volumeClaimTemplates.map (·.metadata.name)
  volume_mounted : ∀ v ∈ sts.spec.template.spec.volumes,
    ∃ c ∈ sts.spec.template.spec.containers, ∃ m ∈ c.volumeMounts, m.name = v.name
  credentials_within : ∀ c ∈ sts.spec.template.spec.containers, ∀ p ∈ credentialsFilePaths c.env,
    ∃ m ∈ c.volumeMounts, m.name ∈ sts.spec.template.spec.volumes.map (·.name) ∧
      pathWithin p m.mountPath = true

/-- Wherever the composition is defined, every reference inside the composed pod resolves. -/
theorem composeStatefulset_references_resolve {val : Values} {sts sts' : StatefulSet}
    (h : composeStatefulset k val sts = some sts') : ReferencesResolve sts' := by
  obtain ⟨env, volumes, henv, hvol, -, -, -, -, hcont, hvols, htmpl⟩ := composeStatefulset_spec h
  obtain ⟨vols, penv, mounts, rfl, hcred, hmounts, hagree⟩ := backup_provider_parts hvol henv
  have hsecret : ∀ m ∈ getSecretVolumeMounts val.clientUrlTLS val.peerUrlTLS,
      m.name ∈ (baseVolumes val).map (·.name) := fun m hm => by
    rw [baseVolumes_names]; exact List.mem_cons_of_mem _ (List.mem_map_of_mem _ hm)
  refine ⟨?nodup, ?mounts, ?mounted, ?credentials⟩ <;>
    simp only [hcont, hvols, htmpl, List.map_append]
  case nodup =>
    have hsec : List.Sublist ((getSecretVolumeMounts val.clientUrlTLS val.peerUrlTLS).map (·.name))
        ["client-url-ca-etcd", "client-url-etcd-server-tls", "client-url-etcd-client-tls",
          "peer-url-ca-etcd", "peer-url-etcd-server-tls"] := by
      cases val.clientUrlTLS <;> cases val.peerUrlTLS <;>
        simp only [getSecretVolumeMounts, Option.isSome_some, Option.isSome_none, ↓reduceIte,
          Bool.false_eq_true] <;> decide
    have hprov : List.Sublist (vols.map (·.name)) ["host-storage", "etcd-backup"] := by
      rcases hagree.names with h | h | h <;> rw [h] <;> decide
    rw [baseVolumes_names, List.cons_append]
    exact List.Nodup.sublist ((hsec.append hprov).cons₂ _) (by decide)
  case mounts =>
    intro c hc m hm
    simp only [List.mem_cons, List.not_mem_nil, or_false] at hc
    rcases hc with rfl | rfl
    · simp only [etcdContainer, getEtcdVolumeMounts, List.mem_cons] at hm
      rcases hm with rfl | hm
      · exact .inr (by simp)
      · exact .inl (List.mem_append_left _ (hsecret m hm))
    · simp only [backupRestoreContainer, hmounts, List.mem_append, List.mem_cons,
        List.not_mem_nil, or_false] at hm
      rcases hm with ((rfl | rfl) | hm) | hm
      · exact .inr (by simp)
      · exact .inl (List.mem_append_left _ (by simp [baseVolumes_names]))
      · exact .inl (List.mem_append_left _ (hsecret m hm))
      · exact .inl (List.mem_append_right _ (hagree.mount_names_volume m hm))
  case mounted =>
    intro v hv
    rcases List.mem_append.1 hv with hv | hv
    · have hname := List.mem_map_of_mem (·.name) hv
      rw [baseVolumes_names, List.mem_cons] at hname
      rcases hname with hconfig | hsec
      · exact ⟨backupRestoreContainer k val env, by simp, ⟨"etcd-config-file", "/var/etcd/config/"⟩,
          by simp [backupRestoreContainer, hmounts], hconfig.symm⟩
      · obtain ⟨m, hm, hname⟩ := List.mem_map.1 hsec
        exact ⟨etcdContainer k val, by simp, m, by simp [etcdContainer, getEtcdVolumeMounts, hm], hname⟩
    · obtain ⟨m, hm, hname⟩ := hagree.volume_mounted v hv
      exact ⟨backupRestoreContainer k val env, by simp, m,
        by simp [backupRestoreContainer, hmounts, hm], hname⟩
  case credentials =>
    intro c hc p hp
    simp only [List.mem_cons, List.not_mem_nil, or_false] at hc
    rcases hc with rfl | rfl
    · have hnone : credentialsFilePaths (etcdContainer k val).env = [] := rfl
      simp [hnone] at hp
    · obtain ⟨m, hm, hwithin⟩ := hagree.credentials_within p (hcred ▸ hp)
      exact ⟨m, by simp [backupRestoreContainer, hmounts, hm],
        List.mem_append_right _ (hagree.mount_names_volume m hm), hwithin⟩

theorem composeStatefulset_references_resolve_of_object_store :
    ∃ sts', composeStatefulset ⟨1, 2, 3, "1Gi", "/backup", "v1"⟩
        { name := "etcd-main"
          volumeClaimTemplateName := "etcd-main"
          clientUrlTLS := some ⟨"ca-etcd", "etcd-server-tls", "etcd-client-tls"⟩
          peerUrlTLS := some ⟨"ca-etcd-peer", "etcd-peer-server-tls", "etcd-peer-client-tls"⟩
          backupStore := some { provider := some "S3", secretRef := some ⟨"etcd-backup"⟩ } }
        {} = some sts' ∧ ReferencesResolve sts' :=
  (fun h => ⟨_, h, composeStatefulset_references_resolve h⟩) rfl

/-! ## Distinct mount paths -/

theorem secretVolumeMounts_paths_sublist (clientUrlTLS peerUrlTLS : Option TLSConfig) :
    ((getSecretVolumeMounts clientUrlTLS peerUrlTLS).map (·.mountPath)).Sublist
      ["/var/etcd/ssl/client/ca", "/var/etcd/ssl/client/server", "/var/etcd/ssl/client/client",
        "/var/etcd/ssl/peer/ca", "/var/etcd/ssl/peer/server"] := by
  cases clientUrlTLS <;> cases peerUrlTLS <;>
    simp only [getSecretVolumeMounts, Option.isSome_some, Option.isSome_none, ↓reduceIte,
      Bool.false_eq_true] <;> decide

theorem providerVolumeMounts_paths (store : StoreSpec) (provider : String) :
    (providerVolumeMounts store provider).map (·.mountPath) =
      if provider = Local then store.container.toList
      else if provider = GCS then ["/root/.gcp/"]
      else if provider ∈ [S3, ABS, OSS, Swift, OCS] then ["/root/etcd-backup/"] else [] := by
  unfold providerVolumeMounts
  split_ifs <;> (try cases store.container) <;> rfl

/-- The mount paths of every container of a composed pod are distinct, as the API server
requires, exactly unless the backup store is local and its container is the path of another
mount of the backup-restore container: the data directory, the config directory or a TLS
secret. -/
theorem composeStatefulset_mount_paths_nodup_iff {val : Values} {sts obj : StatefulSet}
    (h : composeStatefulset k val sts = some obj) :
    (∀ c ∈ obj.spec.template.spec.containers, (c.volumeMounts.map (·.mountPath)).Nodup) ↔
      ∀ store container, backupProvider val = some (store, Local) →
        store.container = some container →
        container ∉ "/var/etcd/data" :: "/var/etcd/config/" ::
          (getSecretVolumeMounts val.clientUrlTLS val.peerUrlTLS).map (·.mountPath) := by
  obtain ⟨env, -, -, -, -, -, -, -, hcont, -, -⟩ := composeStatefulset_spec h
  have hsec := secretVolumeMounts_paths_sublist val.clientUrlTLS val.peerUrlTLS
  have hbase := (hsec.cons₂ "/var/etcd/config/").cons₂ "/var/etcd/data"
  have hetcd : ((getEtcdVolumeMounts val).map (·.mountPath)).Nodup := by
    simpa [getEtcdVolumeMounts] using (hsec.cons₂ "/var/etcd/data/").nodup (by decide)
  have hout : ∀ p ∈ ["/root/.gcp/", "/root/etcd-backup/"], p ∉ "/var/etcd/data" ::
      "/var/etcd/config/" :: (getSecretVolumeMounts val.clientUrlTLS val.peerUrlTLS).map (·.mountPath) :=
    fun p hp hin => by
      have h7 := hbase.subset hin
      clear hin
      revert p
      decide
  rw [hcont]
  simp only [List.forall_mem_cons, List.mem_nil_iff, false_implies, implies_true, and_true,
    etcdContainer, backupRestoreContainer, hetcd, true_and]
  cases hp : backupProvider val with
  | none => simpa [getBackupRestoreVolumeMounts, hp] using hbase.nodup (by decide)
  | some sp =>
    obtain ⟨store, provider⟩ := sp
    simp only [getBackupRestoreVolumeMounts, hp, List.map_append, List.map_cons, List.map_nil,
      providerVolumeMounts_paths, List.cons_append, List.nil_append]
    rw [← List.cons_append, ← List.cons_append, List.nodup_append]
    simp only [hbase.nodup (by decide), true_and, Option.some.injEq, Prod.mk.injEq]
    split_ifs with hl hg ho
    · subst hl
      refine ⟨fun ⟨_, hdis⟩ store' c ⟨hs, _⟩ hc => ?_, fun hall => ?_⟩
      · subst hs
        rw [hc] at hdis
        exact List.disjoint_singleton.1 hdis
      · cases hc : store.container with
        | none => simp
        | some c => simpa [List.disjoint_singleton] using hall store c ⟨rfl, rfl⟩ hc
    · simp [hl, List.disjoint_singleton, hout "/root/.gcp/" (by simp)]
    · simp [hl, List.disjoint_singleton, hout "/root/etcd-backup/" (by simp)]
    · simp [hl]

theorem composeStatefulset_mount_paths_nodup_iff_of_local_data_dir :
    ∃ obj, composeStatefulset ⟨1, 2, 3, "1Gi", "/backup", "v1"⟩
        { name := "etcd"
          backupStore := some { provider := some "Local", container := some "/var/etcd/data" } }
        {} = some obj ∧
      ((∀ c ∈ obj.spec.template.spec.containers, (c.volumeMounts.map (·.mountPath)).Nodup) ↔
        ∀ store container, backupProvider
            { name := "etcd"
              backupStore := some { provider := some "Local", container := some "/var/etcd/data" } } =
              some (store, Local) →
          store.container = some container →
          container ∉ "/var/etcd/data" :: "/var/etcd/config/" ::
            (getSecretVolumeMounts none none).map (·.mountPath)) :=
  (fun h => ⟨_, h, composeStatefulset_mount_paths_nodup_iff h⟩) rfl

end EtcdDruid
