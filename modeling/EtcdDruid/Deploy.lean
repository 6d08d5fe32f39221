import EtcdDruid.Compose
import EtcdDruid.Retry

/-!
# Deploy, Destroy and WaitCleanup

The synchronizer of statefulset.go as programs against the platform client. `Deploy`
fetches the StatefulSet, recreates it when an old single-node object is scaled up to a
multi-node cluster under another service name, and otherwise patches the fetched object
or creates a new one. `WaitCleanup`'s deadline is the number of poll intervals `attempts`.
-/

namespace EtcdDruid

variable (k : Constants)

/-- `Get`: the etcd StatefulSet, or the client's error. -/
def get (val : Values) : Client (Except GoError StatefulSet) :=
  .get (emptyStatefulset val).key .pure

/-- `client.IgnoreNotFound(err)`. -/
def ignoreNotFound : Option GoError → Option GoError
  | some err => if err.isNotFound then none else some err
  | none => none

def deleteStatefulset (sts : StatefulSet) : Client (Option GoError) :=
  .delete sts fun r => .pure (ignoreNotFound r)

def destroy (val : Values) : Client (Option GoError) :=
  deleteStatefulset (emptyStatefulset val)

/-- What the poll of `WaitCleanup` reports on its `Get`'s reply: done when the StatefulSet is
not found, severe on another error, not done while the StatefulSet still exists. -/
def waitCleanupResult : Except GoError StatefulSet → Unit × Bool × Option GoError
  | .error err => ((), true, if err.isNotFound then none else some err)
  | .ok _ => ((), false, none)

def waitCleanupPoll (val : Values) (_ : Unit) : Client (Unit × Bool × Option GoError) :=
  .get (emptyStatefulset val).key fun r => .pure (waitCleanupResult r)

def waitCleanup (val : Values) (attempts : Nat) : Client (Option GoError) :=
  (untilTimeout (waitCleanupPoll val) attempts () none).bind fun r => .pure r.2

/-- `gardenercomponent.OpDestroyAndWait(c).Destroy(ctx)`, which is not under src/: `Destroy`,
then `WaitCleanup` when it succeeded. -/
def destroyAndWait (val : Values) (attempts : Nat) : Client (Option GoError) :=
  (destroy val).bind fun
    | some err => .pure (some err)
    | none => waitCleanup val attempts

/-- `syncStatefulset`: compose over `sts`, then patch from `sts` when it has a generation and
create otherwise. -/
def syncStatefulset (val : Values) (sts : StatefulSet) : Client (Option GoError) :=
  match composeStatefulset k val sts with
  | none => .panic
  | some obj => if 0 < sts.metadata.generation then .patch obj sts .pure else .create obj .pure

/-- The object `Deploy` goes on with after its `Get`: the fetched one, the empty one when
none was found, or the `Get`'s error. -/
def fetchedOrEmpty (val : Values) : Except GoError StatefulSet → Except GoError StatefulSet
  | .ok sts => .ok sts
  | .error err => if err.isNotFound then .ok (emptyStatefulset val) else .error err

/-- The two nested conditions under which `Deploy` destroys the object it fetched: it has a
generation above one and another service name, and the cluster is scaled up to several
members. -/
def recreates (val : Values) (sts : StatefulSet) : Prop :=
  1 < sts.metadata.generation ∧ sts.spec.serviceName ≠ val.serviceName ∧
    clusterScaledUpToMultiNode val = true

instance (val : Values) (sts : StatefulSet) : Decidable (recreates val sts) :=
  inferInstanceAs (Decidable (_ ∧ _))

/-- The body of `Deploy` after its `Get`. -/
def deployOn (val : Values) (attempts : Nat) (sts : StatefulSet) : Client (Option GoError) :=
  if recreates val sts then
    (destroyAndWait val attempts).bind fun
      | some err => .pure (some err)
      | none => syncStatefulset k val (emptyStatefulset val)
  else syncStatefulset k val sts

def deploy (val : Values) (attempts : Nat) : Client (Option GoError) :=
  (get val).bind fun r =>
    match fetchedOrEmpty val r with
    | .ok sts => deployOn k val attempts sts
    | .error err => .pure (some err)

end EtcdDruid

namespace EtcdDruid

variable {k : Constants} {val : Values} {attempts : Nat} {es : List Event}
  {o : Outcome (Option GoError)}

theorem runs_get {o : Outcome (Except GoError StatefulSet)} :
    Runs (get val) es o ↔ ∃ r, o = .returned r ∧ es = [.get (emptyStatefulset val).key r] := by
  simp [get, and_assoc]

theorem runs_syncStatefulset {sts : StatefulSet} :
    Runs (syncStatefulset k val sts) es o ↔
      (composeStatefulset k val sts = none ∧ es = [] ∧ o = .panicked) ∨
      ∃ obj r, composeStatefulset k val sts = some obj ∧ o = .returned r ∧
        es = [if 0 < sts.metadata.generation then .patch obj sts r else .create obj r] := by
  unfold syncStatefulset
  cases composeStatefulset k val sts with
  | none => simp
  | some obj => split_ifs <;> simp [and_assoc]

theorem runs_waitCleanupPoll {u : Unit} {o : Outcome (Unit × Bool × Option GoError)} :
    Runs (waitCleanupPoll val u) es o ↔
      ∃ r, o = .returned (waitCleanupResult r) ∧ es = [.get (emptyStatefulset val).key r] := by
  simp [waitCleanupPoll, and_assoc]

/-- Every call of `WaitCleanup` is a `Get` of the StatefulSet. -/
theorem waitCleanup_events (h : Runs (waitCleanup val attempts) es o) :
    ∀ e ∈ es, ∃ r, e = .get (emptyStatefulset val).key r := by
  rcases Runs.of_bind h with ⟨es₁, es₂, _, rfl, h₁, h₂⟩ | ⟨h₁, -⟩
  · obtain ⟨rfl, -⟩ := Runs.pure_iff.1 h₂
    simpa using untilTimeout_events (fun _ _ _ hp => by
      obtain ⟨r, -, rfl⟩ := runs_waitCleanupPoll.1 hp
      simp) h₁
  · exact untilTimeout_events (fun _ _ _ hp => by
      obtain ⟨r, -, rfl⟩ := runs_waitCleanupPoll.1 hp
      simp) h₁

theorem waitCleanup_not_panicked : ¬ Runs (waitCleanup val attempts) es .panicked := by
  intro h
  have hpoll : ∀ u es, ¬ Runs (waitCleanupPoll val u) es .panicked := fun _ _ hp => by
    obtain ⟨_, h, -⟩ := runs_waitCleanupPoll.1 hp
    cases h
  rcases Runs.of_bind h with ⟨_, _, _, -, -, h₂⟩ | ⟨h₁, -⟩
  · cases (Runs.pure_iff.1 h₂).2
  · exact untilTimeout_not_panicked hpoll h₁

/-- `WaitCleanup` succeeds only when its last `Get` found no StatefulSet. -/
theorem waitCleanup_success (h : Runs (waitCleanup val attempts) es (.returned none)) :
    ∃ es₁ err, es = es₁ ++ [.get (emptyStatefulset val).key (.error err)] ∧
      err.isNotFound = true := by
  obtain ⟨es₁, es₂, ⟨u, err⟩, rfl, h₁, h₂⟩ := Runs.bind_returned h
  obtain ⟨rfl, h₂⟩ := Runs.pure_iff.1 h₂
  cases h₂
  obtain ⟨es₃, es₄, _, rfl, h₃⟩ := untilTimeout_success h₁
  obtain ⟨r, h₄, rfl⟩ := runs_waitCleanupPoll.1 h₃
  cases r with
  | ok => simp [waitCleanupResult] at h₄
  | error err =>
    refine ⟨es₃, err, by simp, ?_⟩
    by_contra hn
    simp [waitCleanupResult, hn] at h₄

theorem runs_destroyAndWait :
    Runs (destroyAndWait val attempts) es o ↔ ∃ r rest,
      es = .delete (emptyStatefulset val) r :: rest ∧
      ((ignoreNotFound r = none ∧ Runs (waitCleanup val attempts) rest o) ∨
        ∃ err, ignoreNotFound r = some err ∧ rest = [] ∧ o = .returned (some err)) := by
  simp only [destroyAndWait, destroy, deleteStatefulset, Client.bind, Client.pure_bind,
    Runs.delete_iff]
  constructor
  · rintro ⟨r, rest, h, rfl⟩
    refine ⟨r, rest, rfl, ?_⟩
    cases hr : ignoreNotFound r with
    | none => rw [hr] at h; exact .inl ⟨rfl, h⟩
    | some err => rw [hr] at h; simpa using h
  · rintro ⟨r, rest, rfl, ⟨hr, h⟩ | ⟨err, hr, rfl, rfl⟩⟩
    · exact ⟨r, rest, by rw [hr]; exact h, rfl⟩
    · exact ⟨r, [], by rw [hr]; exact .pure _, rfl⟩

theorem runs_deploy :
    Runs (deploy k val attempts) es o ↔ ∃ r rest, es = .get (emptyStatefulset val).key r :: rest ∧
      ((∃ sts, fetchedOrEmpty val r = .ok sts ∧ Runs (deployOn k val attempts sts) rest o) ∨
        ∃ err, fetchedOrEmpty val r = .error err ∧ rest = [] ∧ o = .returned (some err)) := by
  simp only [deploy, get, Client.bind, Client.pure_bind, Runs.get_iff]
  constructor
  · rintro ⟨r, rest, h, rfl⟩
    refine ⟨r, rest, rfl, ?_⟩
    cases hr : fetchedOrEmpty val r with
    | ok sts => rw [hr] at h; exact .inl ⟨sts, rfl, h⟩
    | error err => rw [hr] at h; simpa using h
  · rintro ⟨r, rest, rfl, ⟨sts, hr, h⟩ | ⟨err, hr, rfl, rfl⟩⟩
    · exact ⟨r, rest, by rw [hr]; exact h, rfl⟩
    · exact ⟨r, [], by rw [hr]; exact .pure _, rfl⟩

theorem runs_deployOn_of_not_recreates {sts : StatefulSet} (h : ¬ recreates val sts) :
    Runs (deployOn k val attempts sts) es o ↔ Runs (syncStatefulset k val sts) es o := by
  simp [deployOn, h]

/-- After its `Get`, `Deploy` goes on with the object it fetched or the empty one. -/
theorem runs_deploy_get {r : Except GoError StatefulSet} {sts : StatefulSet}
    (hr : fetchedOrEmpty val r = .ok sts) :
    Runs (deploy k val attempts) (.get (emptyStatefulset val).key r :: es) o ↔
      Runs (deployOn k val attempts sts) es o := by
  simp [deploy, get, Client.bind, hr]

/-- After a `Get` that found an object it does not recreate, `Deploy` syncs that object. -/
theorem runs_deploy_found {sts : StatefulSet} (h : ¬ recreates val sts) :
    Runs (deploy k val attempts) (.get (emptyStatefulset val).key (.ok sts) :: es) o ↔
      Runs (syncStatefulset k val sts) es o :=
  (runs_deploy_get (show fetchedOrEmpty val (.ok sts) = .ok sts from rfl)).trans
    (runs_deployOn_of_not_recreates h)

/-- A `Deploy` whose `Get` finds nothing creates the object composed over the empty one and
returns the create's reply. -/
theorem runs_deploy_create {err : GoError} {obj : StatefulSet} {r : Option GoError}
    (herr : err.isNotFound = true)
    (hobj : composeStatefulset k val (emptyStatefulset val) = some obj) :
    Runs (deploy k val attempts) [.get (emptyStatefulset val).key (.error err), .create obj r]
      (.returned r) :=
  (runs_deploy_get (by simp [fetchedOrEmpty, herr])).2
    ((runs_deployOn_of_not_recreates (by simp [recreates, emptyStatefulset])).2
      (runs_syncStatefulset.2 (.inr ⟨obj, r, hobj, rfl, by simp [emptyStatefulset]⟩)))

/-- A `Deploy` that recreates the object its `Get` found: the `Delete`, a wait whose one `Get`
finds nothing, and the create of the object composed over the empty one. -/
theorem runs_deploy_recreate {sts obj : StatefulSet} {err : GoError} {r : Option GoError}
    (hre : recreates val sts) (herr : err.isNotFound = true)
    (hobj : composeStatefulset k val (emptyStatefulset val) = some obj) :
    Runs (deploy k val attempts)
      [.get (emptyStatefulset val).key (.ok sts), .delete (emptyStatefulset val) none,
        .get (emptyStatefulset val).key (.error err), .create obj r] (.returned r) := by
  have hwait : Runs (waitCleanup val attempts) [.get (emptyStatefulset val).key (.error err)]
      (.returned none) := by
    have hpoll : Runs (waitCleanupPoll val ()) [.get (emptyStatefulset val).key (.error err)]
        (.returned ((), true, none)) := runs_waitCleanupPoll.2 ⟨_, by simp [waitCleanupResult, herr], rfl⟩
    cases attempts <;>
    · show Runs (((waitCleanupPoll val ()).bind (afterPoll _ none)).bind fun r => .pure r.2)
        ([.get (emptyStatefulset val).key (.error err)] ++ [] ++ []) _
      exact Runs.bind (Runs.bind hpoll (.pure _)) (.pure _)
  have hon : Runs (deployOn k val attempts sts)
      ([.delete (emptyStatefulset val) none] ++ [.get (emptyStatefulset val).key (.error err)] ++
        [.create obj r]) (.returned r) := by
    simp only [deployOn, if_pos hre]
    exact Runs.bind (Runs.bind (.delete _ (.pure _)) hwait)
      (runs_syncStatefulset.2 (.inr ⟨obj, r, hobj, rfl, by simp [emptyStatefulset]⟩))
  exact (runs_deploy_get (show fetchedOrEmpty val (.ok sts) = .ok sts from rfl)).2 hon

/-- Syncing an object with a generation is one patch of the composed object. -/
theorem runs_syncStatefulset_patch {sts obj : StatefulSet}
    (hobj : composeStatefulset k val sts = some obj) (hgen : 0 < sts.metadata.generation) :
    Runs (syncStatefulset k val sts) es o ↔ ∃ r, o = .returned r ∧ es = [.patch obj sts r] := by
  simp [syncStatefulset, hobj, hgen, and_assoc]

/-- A StatefulSet of generation one that names the client service, fetched while the
cluster is scaled up from one member to three: `Deploy` patches it, and the patch changes
its service name. -/
theorem deploy_patches_service_name_at_generation_one (attempts : Nat) :
    ∃ obj, composeStatefulset k
        { name := "etcd-main", replicas := 3, statusReplicas := 1, serviceName := "etcd-main-peer" }
        { metadata := { name := "etcd-main", generation := 1 }
          spec := { serviceName := "etcd-main-client" } } = some obj ∧
      obj.spec.serviceName = "etcd-main-peer" ∧
      ∀ es o, Runs (deploy k
          { name := "etcd-main", replicas := 3, statusReplicas := 1, serviceName := "etcd-main-peer" }
          attempts)
          (.get ⟨"", "etcd-main"⟩ (.ok {
            metadata := { name := "etcd-main", generation := 1 }
            spec := { serviceName := "etcd-main-client" } }) :: es) o ↔
        ∃ r, o = .returned r ∧ es = [.patch obj {
          metadata := { name := "etcd-main", generation := 1 }
          spec := { serviceName := "etcd-main-client" } } r] := by
  refine ⟨_, rfl, rfl, fun es o => ?_⟩
  exact (runs_deploy_found (by simp [recreates])).trans (runs_syncStatefulset_patch rfl (by decide))

/-- `Deploy` on an object it recreates: the `Delete`, then, when that succeeded, the wait,
and, when the wait succeeded, the sync of the empty object. -/
theorem runs_deployOn_recreates {sts : StatefulSet} (hre : recreates val sts)
    (h : Runs (deployOn k val attempts sts) es o) :
    ∃ r rest, es = .delete (emptyStatefulset val) r :: rest ∧
      ((∃ err, ignoreNotFound r = some err ∧ rest = [] ∧ o = .returned (some err)) ∨
        ignoreNotFound r = none ∧
          ((∃ err, Runs (waitCleanup val attempts) rest (.returned (some err)) ∧
              o = .returned (some err)) ∨
            ∃ es₁ es₂, rest = es₁ ++ es₂ ∧ Runs (waitCleanup val attempts) es₁ (.returned none) ∧
              Runs (syncStatefulset k val (emptyStatefulset val)) es₂ o)) := by
  simp only [deployOn, hre, if_true] at h
  rcases Runs.of_bind h with ⟨es₁, es₂, w, rfl, h₁, h₂⟩ | ⟨h₁, rfl⟩
  · obtain ⟨r, rest, rfl, ⟨hr, hw⟩ | ⟨err, hr, rfl, hw⟩⟩ := runs_destroyAndWait.1 h₁
    · refine ⟨r, rest ++ es₂, rfl, .inr ⟨hr, ?_⟩⟩
      cases w with
      | some err =>
        obtain ⟨rfl, rfl⟩ := Runs.pure_iff.1 h₂
        exact .inl ⟨err, by simpa using hw, rfl⟩
      | none => exact .inr ⟨rest, es₂, rfl, hw, h₂⟩
    · cases hw
      obtain ⟨rfl, rfl⟩ := Runs.pure_iff.1 h₂
      exact ⟨r, [], rfl, .inl ⟨err, hr, rfl, rfl⟩⟩
  · obtain ⟨r, rest, rfl, ⟨hr, hw⟩ | ⟨err, hr, rfl, hw⟩⟩ := runs_destroyAndWait.1 h₁
    · exact absurd hw waitCleanup_not_panicked
    · cases hw

/-- The calls `Deploy` makes: `Get`s of its StatefulSet, the `Delete` of it, and creates and
patches of an object composed from its values. -/
inductive DeployCall (k : Constants) (val : Values) : Event → Prop
  | get (r : Except GoError StatefulSet) : DeployCall k val (.get (emptyStatefulset val).key r)
  | delete (r : Option GoError) : DeployCall k val (.delete (emptyStatefulset val) r)
  | create {sts obj : StatefulSet} (r : Option GoError) :
      composeStatefulset k val sts = some obj → DeployCall k val (.create obj r)
  | patch {sts obj : StatefulSet} (r : Option GoError) :
      composeStatefulset k val sts = some obj → DeployCall k val (.patch obj sts r)

theorem syncStatefulset_calls {sts : StatefulSet} (h : Runs (syncStatefulset k val sts) es o) :
    ∀ e ∈ es, DeployCall k val e := by
  rcases runs_syncStatefulset.1 h with ⟨-, rfl, -⟩ | ⟨obj, r, hobj, -, rfl⟩
  · simp
  · simp only [List.mem_singleton, forall_eq]
    split_ifs
    · exact .patch r hobj
    · exact .create r hobj

theorem deploy_calls (h : Runs (deploy k val attempts) es o) : ∀ e ∈ es, DeployCall k val e := by
  obtain ⟨r, rest, rfl, ⟨sts, -, h⟩ | ⟨err, -, rfl, -⟩⟩ := runs_deploy.1 h
  · refine List.forall_mem_cons.2 ⟨.get r, ?_⟩
    by_cases hre : recreates val sts
    · obtain ⟨r', rest, rfl, hcases⟩ := runs_deployOn_recreates hre h
      refine List.forall_mem_cons.2 ⟨.delete r', ?_⟩
      have hwait : ∀ {es' o'}, Runs (waitCleanup val attempts) es' o' →
          ∀ e ∈ es', DeployCall k val e := fun hw e he => by
        obtain ⟨r, rfl⟩ := waitCleanup_events hw e he
        exact .get r
      rcases hcases with ⟨err, -, rfl, -⟩ | ⟨-, ⟨err, hw, -⟩ | ⟨es₁, es₂, rfl, hw, hs⟩⟩
      · simp
      · exact hwait hw
      · exact List.forall_mem_append.2 ⟨hwait hw, syncStatefulset_calls hs⟩
    · exact syncStatefulset_calls ((runs_deployOn_of_not_recreates hre).1 h)
  · simpa using DeployCall.get r

theorem syncStatefulset_success {sts : StatefulSet}
    (h : Runs (syncStatefulset k val sts) es (.returned none)) :
    ∃ obj, composeStatefulset k val sts = some obj ∧
      (es = [.create obj none] ∨ es = [.patch obj sts none]) := by
  rcases runs_syncStatefulset.1 h with ⟨-, -, h⟩ | ⟨obj, r, hobj, hr, rfl⟩
  · cases h
  · cases hr
    refine ⟨obj, hobj, ?_⟩
    split_ifs
    · exact .inr rfl
    · exact .inl rfl

/-- A `Deploy` that returns nil ends with a successful create or patch of an object composed
from its values. -/
theorem deploy_success (h : Runs (deploy k val attempts) es (.returned none)) :
    ∃ es₁ obj sts, composeStatefulset k val sts = some obj ∧
      (es = es₁ ++ [.create obj none] ∨ es = es₁ ++ [.patch obj sts none]) := by
  obtain ⟨r, rest, rfl, ⟨sts, -, h⟩ | ⟨err, -, -, h⟩⟩ := runs_deploy.1 h
  · by_cases hre : recreates val sts
    · obtain ⟨r', rest, rfl, hcases⟩ := runs_deployOn_recreates hre h
      rcases hcases with ⟨err, -, -, h⟩ | ⟨-, ⟨err, -, h⟩ | ⟨es₁, es₂, rfl, -, hs⟩⟩
      · cases h
      · cases h
      · obtain ⟨obj, hobj, rfl | rfl⟩ := syncStatefulset_success hs
        · exact ⟨_ :: _ :: es₁, obj, _, hobj, .inl rfl⟩
        · exact ⟨_ :: _ :: es₁, obj, _, hobj, .inr rfl⟩
    · obtain ⟨obj, hobj, rfl | rfl⟩ :=
        syncStatefulset_success ((runs_deployOn_of_not_recreates hre).1 h)
      · exact ⟨[_], obj, sts, hobj, .inl rfl⟩
      · exact ⟨[_], obj, sts, hobj, .inr rfl⟩
  · cases h

theorem syncStatefulset_create {sts obj : StatefulSet} {r : Option GoError}
    (h : Runs (syncStatefulset k val sts) es o) (hc : Event.create obj r ∈ es) :
    es = [.create obj r] ∧ ¬ 0 < sts.metadata.generation ∧ composeStatefulset k val sts = some obj := by
  rcases runs_syncStatefulset.1 h with ⟨-, rfl, -⟩ | ⟨obj', r', hobj, -, rfl⟩
  · simp at hc
  · split_ifs at hc ⊢ with hgen
    · simp at hc
    · simp only [List.mem_singleton, Event.create.injEq] at hc
      obtain ⟨rfl, rfl⟩ := hc
      exact ⟨rfl, hgen, hobj⟩

/-- A Create is the last call of `Deploy`, sent right after a `Get` of its key that found
nothing or found an object without a generation, and no call before it is a Create. -/
theorem deploy_create_last {obj : StatefulSet} {r : Option GoError}
    (h : Runs (deploy k val attempts) es o) (hc : Event.create obj r ∈ es) :
    ∃ pre r₀, es = pre ++ [.get (emptyStatefulset val).key r₀, .create obj r] ∧
      (∀ e ∈ pre, ∀ obj' r', e ≠ .create obj' r') ∧ obj.key = (emptyStatefulset val).key ∧
      ((∃ err, r₀ = .error err ∧ err.isNotFound = true) ∨
        ∃ sts, r₀ = .ok sts ∧ ¬ 0 < sts.metadata.generation) := by
  obtain ⟨r₀, rest, rfl, ⟨sts, hfetch, hon⟩ | ⟨err, -, rfl, -⟩⟩ := runs_deploy.1 h
  · have hmem : Event.create obj r ∈ rest := by simpa using hc
    by_cases hre : recreates val sts
    · have hgets : ∀ {es' o'}, Runs (waitCleanup val attempts) es' o' →
          ∀ e ∈ es', ∀ obj' r', e ≠ .create obj' r' := fun hw e he obj' r' => by
        obtain ⟨_, rfl⟩ := waitCleanup_events hw e he
        simp
      obtain ⟨r', rest, rfl, hcases⟩ := runs_deployOn_recreates hre hon
      rcases hcases with ⟨err, -, rfl, -⟩ | ⟨-, ⟨err, hw, -⟩ | ⟨es₁, es₂, rfl, hw, hs⟩⟩
      · simp at hmem
      · exact absurd rfl (hgets hw _ (by simpa using hmem) obj r)
      · obtain ⟨es₃, err, rfl, hnf⟩ := waitCleanup_success hw
        have hmem₂ : Event.create obj r ∈ es₂ := by
          rcases List.mem_append.1 (List.mem_of_ne_of_mem (by simp) hmem) with hmem | hmem
          · exact absurd rfl (hgets hw _ hmem obj r)
          · exact hmem
        obtain ⟨rfl, -, hobj⟩ := syncStatefulset_create hs hmem₂
        refine ⟨.get (emptyStatefulset val).key r₀ :: .delete (emptyStatefulset val) r' :: es₃,
          .error err, by simp, ?_,
          (composeStatefulset_key hobj).1, .inl ⟨err, rfl, hnf⟩⟩
        simp only [List.mem_cons, forall_eq_or_imp]
        exact ⟨by simp, by simp, fun e he => hgets hw e (List.mem_append_left _ he)⟩
    · obtain ⟨rfl, hgen, hobj⟩ :=
        syncStatefulset_create ((runs_deployOn_of_not_recreates hre).1 hon) hmem
      refine ⟨[], r₀, rfl, by simp, (composeStatefulset_key hobj).1, ?_⟩
      cases r₀ with
      | ok sts' =>
        cases hfetch
        exact .inr ⟨_, rfl, hgen⟩
      | error err =>
        simp only [fetchedOrEmpty] at hfetch
        split_ifs at hfetch with hnf
        exact .inl ⟨err, rfl, hnf⟩
  · simp at hc

/-- `Deploy` deletes nothing after a `Get` whose reply is no object it recreates. -/
theorem deploy_no_delete {key : ObjectKey} {r : Except GoError StatefulSet} {rest : List Event}
    (h : Runs (deploy k val attempts) (.get key r :: rest) o)
    (hr : ∀ sts, r = .ok sts → ¬ recreates val sts) :
    ∀ e ∈ rest, DeployCall k val e ∧ ∀ r', e ≠ .delete (emptyStatefulset val) r' := by
  obtain ⟨r, rest', heq, ⟨sts, hsts, h⟩ | ⟨err, -, rfl, -⟩⟩ := runs_deploy.1 h
  · simp only [List.cons.injEq, Event.get.injEq] at heq
    obtain ⟨⟨-, rfl⟩, rfl⟩ := heq
    have hre : ¬ recreates val sts := by
      cases r with
      | ok sts' => cases hsts; exact hr _ rfl
      | error err =>
        simp only [fetchedOrEmpty] at hsts
        split_ifs at hsts
        cases hsts
        simp [recreates, emptyStatefulset]
    have hsync := (runs_deployOn_of_not_recreates hre).1 h
    intro e he
    refine ⟨syncStatefulset_calls hsync e he, fun r' hdel => ?_⟩
    subst hdel
    rcases runs_syncStatefulset.1 hsync with ⟨-, rfl, -⟩ | ⟨obj, r, -, -, rfl⟩
    · simp at he
    · split_ifs at he <;> simp at he
  · simp only [List.cons.injEq] at heq
    simp [heq.2]

/-! ## Deploy by the reply of its Get -/

/-- A found object that `Deploy` recreates: one `Delete`, then the `Get`s of the wait, then,
only when the last of them found nothing, one create of the object composed over the empty
one. There is never a patch, and a failed delete or wait ends the calls. -/
theorem deploy_recreate_creates_after_not_found {sts : StatefulSet} (hre : recreates val sts)
    (h : Runs (deploy k val attempts) (.get (emptyStatefulset val).key (.ok sts) :: es) o) :
    ∃ r waits, (∀ e ∈ waits, ∃ r', e = .get (emptyStatefulset val).key r') ∧
      (es = .delete (emptyStatefulset val) r :: waits ∨
        ∃ pre err obj r', waits = pre ++ [.get (emptyStatefulset val).key (.error err)] ∧
          err.isNotFound = true ∧ composeStatefulset k val (emptyStatefulset val) = some obj ∧
          es = .delete (emptyStatefulset val) r :: waits ++ [.create obj r']) := by
  obtain ⟨r, rest, rfl, hcases⟩ := runs_deployOn_recreates hre
    ((runs_deploy_get (show fetchedOrEmpty val (.ok sts) = .ok sts from rfl)).1 h)
  rcases hcases with ⟨-, -, rfl, -⟩ | ⟨-, ⟨_, hw, -⟩ | ⟨waits, es₂, rfl, hw, hs⟩⟩
  · exact ⟨r, [], by simp, .inl rfl⟩
  · exact ⟨r, rest, waitCleanup_events hw, .inl rfl⟩
  · refine ⟨r, waits, waitCleanup_events hw, ?_⟩
    rcases runs_syncStatefulset.1 hs with ⟨-, rfl, -⟩ | ⟨obj, r', hobj, -, rfl⟩
    · exact .inl (by simp)
    · obtain ⟨pre, err, rfl, hnf⟩ := waitCleanup_success hw
      exact .inr ⟨pre, err, obj, r', rfl, hnf, hobj, by simp [emptyStatefulset]⟩

theorem deploy_recreate_creates_after_not_found_of_scale_up :
    ∃ es, Runs (deploy ⟨1, 2, 3, "1Gi", "/backup", "v1"⟩ { replicas := 3, serviceName := "peer" } 0)
        (.get ⟨"", ""⟩ (.ok { metadata := { generation := 2 } }) :: es) (.returned none) ∧
      ∃ r waits, (∀ e ∈ waits, ∃ r', e = .get ⟨"", ""⟩ r') ∧
        (es = .delete (emptyStatefulset { replicas := 3, serviceName := "peer" }) r :: waits ∨
          ∃ pre err obj r', waits = pre ++ [.get ⟨"", ""⟩ (.error err)] ∧ err.isNotFound = true ∧
            composeStatefulset ⟨1, 2, 3, "1Gi", "/backup", "v1"⟩ { replicas := 3, serviceName := "peer" }
              (emptyStatefulset { replicas := 3, serviceName := "peer" }) = some obj ∧
            es = .delete (emptyStatefulset { replicas := 3, serviceName := "peer" }) r ::
              waits ++ [.create obj r']) := by
  obtain ⟨obj, hobj⟩ : ∃ obj, composeStatefulset ⟨1, 2, 3, "1Gi", "/backup", "v1"⟩
      { replicas := 3, serviceName := "peer" }
      (emptyStatefulset { replicas := 3, serviceName := "peer" }) = some obj := ⟨_, rfl⟩
  have hwait : Runs (waitCleanup { replicas := 3, serviceName := "peer" } 0)
      [.get ⟨"", ""⟩ (.error (.status .notFound "not found"))] (.returned none) :=
    Runs.bind (Runs.bind (.get _ (.pure _)) (.pure _)) (.pure _)
  have hre : recreates { replicas := 3, serviceName := "peer" } { metadata := { generation := 2 } } := by
    decide
  have hon : Runs (deployOn ⟨1, 2, 3, "1Gi", "/backup", "v1"⟩ { replicas := 3, serviceName := "peer" } 0
      { metadata := { generation := 2 } })
      ([.delete (emptyStatefulset { replicas := 3, serviceName := "peer" }) none] ++
        [.get ⟨"", ""⟩ (.error (.status .notFound "not found"))] ++ [.create obj none])
      (.returned none) := by
    simp only [deployOn, if_pos hre]
    exact Runs.bind (Runs.bind (.delete _ (.pure _)) hwait)
      (runs_syncStatefulset.2 (.inr ⟨obj, none, hobj, rfl, rfl⟩))
  have hrun := (runs_deploy_get
    (show fetchedOrEmpty _ (.ok { metadata := { generation := 2 } }) = .ok _ from rfl)).2 hon
  exact ⟨_, hrun, deploy_recreate_creates_after_not_found hre hrun⟩

end EtcdDruid
