import EtcdDruid.Platform
import EtcdDruid.Wait

/-!
# The operations of the component on a shared platform

`Wait` only reads, so during it the store changes only by what the platform does on its own,
which keeps every spec. The components of several etcds share the platform and their calls
interleave; each writes only the StatefulSet of its own values, and only `Deploy` writes, the
spec composed from its values. So the components of other etcds never touch this etcd's
StatefulSet, and, with a store that keeps every object under its own key, a `Wait` after a
successful `Deploy` polls the values' key throughout and finds ready the object `Deploy`
wrote.
-/

namespace EtcdDruid

variable {k : Constants} {val : Values} {attempts : Nat} {es : List Event} {st st' : Store}

/-! ## Wait only reads -/

theorem fetchPVCEventsFor_reads {ss : StatefulSet} {o : Outcome (Except GoError String)}
    (h : Runs (fetchPVCEventsFor ss) es o) : ∀ e ∈ es, e.isRead = true := by
  obtain ⟨r, rest, hloop, rfl⟩ := Runs.list_iff.1 h
  refine List.forall_mem_cons.2 ⟨rfl, fun e he => ?_⟩
  cases r with
  | error => simp [(Runs.pure_iff.1 hloop).1] at he
  | ok pvcs =>
    obtain ⟨pvc, r, rfl, -⟩ := claimTemplatesLoop_lookups hloop e he
    rfl

theorem waitFailed_reads {sts : StatefulSet} {err : GoError} {o : Outcome (Option GoError)}
    (h : Runs (waitFailed sts err) es o) : ∀ e ∈ es, e.isRead = true := by
  rcases Runs.of_bind h with ⟨es₁, es₂, r, rfl, h₁, h₂⟩ | ⟨h₁, -⟩
  · refine List.forall_mem_append.2 ⟨fetchPVCEventsFor_reads h₁, ?_⟩
    cases r with
    | error =>
      obtain ⟨_, h₃, rfl⟩ := Runs.logError_iff.1 h₂
      simp [(Runs.pure_iff.1 h₃).1, Event.isRead]
    | ok => simp [(Runs.pure_iff.1 h₂).1]
  · exact fetchPVCEventsFor_reads h₁

theorem wait_calls_read {o : Outcome (Option GoError)} (h : Runs (wait val attempts) es o) :
    ∀ e ∈ es, e.isRead = true := by
  have hpoll : ∀ s es o, Runs (waitPoll val s) es o → ∀ e ∈ es, e.isRead = true :=
    fun _ _ _ hp => by
      obtain ⟨r, -, rfl⟩ := runs_waitPoll.1 hp
      simp [Event.isRead]
  rcases Runs.of_bind h with ⟨es₁, es₂, ⟨sts, err⟩, rfl, h₁, h₂⟩ | ⟨h₁, -⟩
  · refine List.forall_mem_append.2 ⟨untilTimeout_events hpoll h₁, ?_⟩
    cases err with
    | none => simp [(Runs.pure_iff.1 h₂).1]
    | some err => exact waitFailed_reads h₂
  · exact untilTimeout_events hpoll h₁

/-- `Wait` never writes: whatever it returns, the store after it is one that the platform's
own steps reach from the store before it. -/
theorem wait_read_only {o : Outcome (Option GoError)} (hrun : Runs (wait val attempts) es o)
    (h : Admits st es st') : Relation.ReflTransGen Background st st' :=
  h.reads (wait_calls_read hrun)

theorem wait_read_only_of_timeout :
    Runs (wait { name := "etcd", replicas := 1 } 0)
        [.get ⟨"", "etcd"⟩ (.ok { metadata := { name := "etcd" } }), .list "" (.ok [])]
        (.returned (some (retryError (some (.plain "not enough ready replicas"))))) ∧
      Admits (fun _ => some ⟨{ metadata := { name := "etcd" } }, false⟩)
        [.get ⟨"", "etcd"⟩ (.ok { metadata := { name := "etcd" } }), .list "" (.ok [])]
        (fun _ => some ⟨{ metadata := { name := "etcd" } }, false⟩) ∧
      Relation.ReflTransGen Background (fun _ => some ⟨{ metadata := { name := "etcd" } }, false⟩)
        (fun _ => some ⟨{ metadata := { name := "etcd" } }, false⟩) := by
  refine (fun hrun ha => ⟨hrun, ha, wait_read_only hrun ha⟩) ?_
    (.answer (@Answers.getFound _ ⟨"", "etcd"⟩ ⟨{ metadata := { name := "etcd" } }, false⟩ rfl)
      (.answer .list .done))
  exact Runs.bind (Runs.bind (.get _ (.pure _)) (.pure _)) (Runs.bind (.list _ (.pure _)) (.pure _))

/-! ## Components of other etcds -/

/-- A call of one of the methods of `gardenercomponent.DeployWaiter` on the component of the
values `val`. -/
inductive Operation where
  | deploy (val : Values) (attempts : Nat)
  | destroy (val : Values)
  | wait (val : Values) (attempts : Nat)
  | waitCleanup (val : Values) (attempts : Nat)

def Operation.values : Operation → Values
  | .deploy val _ | .destroy val | .wait val _ | .waitCleanup val _ => val

def Operation.program (k : Constants) : Operation → Client (Option GoError)
  | .deploy val attempts => EtcdDruid.deploy k val attempts
  | .destroy val => EtcdDruid.destroy val
  | .wait val attempts => EtcdDruid.wait val attempts
  | .waitCleanup val attempts => EtcdDruid.waitCleanup val attempts

/-- One call of an operation: the calls it made to the platform and its outcome. -/
structure OperationRun where
  op : Operation
  events : List Event
  outcome : Outcome (Option GoError)

theorem DeployCall.target {e : Event} (h : DeployCall k val e) :
    e.target = none ∨ e.target = some (emptyStatefulset val).key := by
  cases h with
  | get => exact .inl rfl
  | delete => exact .inr rfl
  | create _ hobj | patch _ hobj => exact .inr (congrArg some (composeStatefulset_key hobj).1)

/-- Every write of an operation targets the StatefulSet of its own values. -/
theorem operation_targets {op : Operation} {o : Outcome (Option GoError)}
    (h : Runs (op.program k) es o) :
    ∀ e ∈ es, e.target = none ∨ e.target = some (emptyStatefulset op.values).key := by
  intro e he
  cases op with
  | deploy val attempts => exact (deploy_calls h e he).target
  | destroy val =>
    simp only [Operation.program, destroy, deleteStatefulset, Runs.delete_iff, Runs.pure_iff] at h
    obtain ⟨r, es', ⟨rfl, -⟩, rfl⟩ := h
    rw [List.mem_singleton.1 he]
    exact .inr rfl
  | wait val attempts => exact .inl (Event.target_of_isRead (wait_calls_read h e he))
  | waitCleanup val attempts =>
    have h : Runs (waitCleanup val attempts) es o := h
    obtain ⟨r, rfl⟩ := waitCleanup_events h e he
    exact .inl rfl

/-- The components of other etcds, whatever they are called to do and however their calls to
the platform interleave, never change, mark or remove this etcd's StatefulSet: while it is not
marked for deletion, its metadata and spec stay as they are, and only its status changes. -/
theorem other_components_keep_statefulset {runs : List OperationRun} {key : ObjectKey}
    {stored : Stored} (hruns : ∀ x ∈ runs, Runs (x.op.program k) x.events x.outcome)
    (hother : ∀ x ∈ runs, (emptyStatefulset x.op.values).key ≠ key)
    (hes : ∀ e ∈ es, ∃ x ∈ runs, e ∈ x.events) (h : Admits st es st')
    (hst : st key = some stored) (hlive : stored.deleting = false) :
    ∃ stored', st' key = some stored' ∧ stored'.obj.metadata = stored.obj.metadata ∧
      stored'.obj.spec = stored.obj.spec ∧ stored'.deleting = false := by
  refine h.frame (fun e he => ?_) hst hlive
  obtain ⟨x, hx, hex⟩ := hes e he
  rcases operation_targets (hruns x hx) e hex with ht | ht <;> rw [ht]
  · simp
  · exact fun hk => hother x hx (Option.some.inj hk)

theorem other_components_keep_statefulset_of_deploy :
    ∃ obj st', composeStatefulset ⟨1, 2, 3, "1Gi", "/backup", "v1"⟩ { name := "etcd-b" }
        (emptyStatefulset { name := "etcd-b" }) = some obj ∧
      (∀ x ∈ [OperationRun.mk (.deploy { name := "etcd-b" } 0)
          [.get ⟨"", "etcd-b"⟩ (.error (.status .notFound "not found")), .create obj none]
          (.returned none)],
        Runs (x.op.program ⟨1, 2, 3, "1Gi", "/backup", "v1"⟩) x.events x.outcome) ∧
      Admits (Function.update (fun _ => none) ⟨"", "etcd-a"⟩
          (some ⟨emptyStatefulset { name := "etcd-a" }, false⟩))
        [.get ⟨"", "etcd-b"⟩ (.error (.status .notFound "not found")), .create obj none] st' ∧
      ∃ stored', st' ⟨"", "etcd-a"⟩ = some stored' ∧
        stored'.obj.metadata = (emptyStatefulset { name := "etcd-a" }).metadata ∧
        stored'.obj.spec = (emptyStatefulset { name := "etcd-a" }).spec ∧
        stored'.deleting = false := by
  obtain ⟨obj, hobj⟩ : ∃ obj, composeStatefulset ⟨1, 2, 3, "1Gi", "/backup", "v1"⟩
      { name := "etcd-b" } (emptyStatefulset { name := "etcd-b" }) = some obj := ⟨_, rfl⟩
  have hkey : obj.key = ⟨"", "etcd-b"⟩ := (composeStatefulset_key hobj).1
  have hne : (⟨"", "etcd-b"⟩ : ObjectKey) ≠ ⟨"", "etcd-a"⟩ := by decide
  have hruns : ∀ x ∈ [OperationRun.mk (.deploy { name := "etcd-b" } 0)
      [.get ⟨"", "etcd-b"⟩ (.error (.status .notFound "not found")), .create obj none]
      (.returned none)], Runs (x.op.program ⟨1, 2, 3, "1Gi", "/backup", "v1"⟩) x.events x.outcome := by
    simp only [List.mem_singleton, forall_eq]
    exact runs_deploy_create rfl hobj
  have ha : Admits (Function.update (fun _ => none) ⟨"", "etcd-a"⟩
      (some ⟨emptyStatefulset { name := "etcd-a" }, false⟩))
      [.get ⟨"", "etcd-b"⟩ (.error (.status .notFound "not found")), .create obj none] _ :=
    .answer (.getNotFound (Function.update_noteq hne _ _) rfl)
      (.answer (.create (by rw [hkey]; exact Function.update_noteq hne _ _)) .done)
  exact ⟨obj, _, hobj, hruns, ha, other_components_keep_statefulset hruns
    (by simp [emptyStatefulset, StatefulSet.key, Operation.values])
    (fun e he => ⟨_, List.mem_singleton_self _, he⟩) ha (Function.update_same _ _ _) rfl⟩

/-- Only a `Deploy` writes, and what it writes is composed from its values. -/
theorem operation_writes {op : Operation} {o : Outcome (Option GoError)} {obj : StatefulSet}
    (h : Runs (op.program k) es o) :
    ∀ e ∈ es, e.written = some obj →
      ∃ val attempts sts, op = .deploy val attempts ∧ composeStatefulset k val sts = some obj := by
  intro e he hw
  cases op with
  | deploy val attempts =>
    cases deploy_calls h e he with
    | create r hobj | patch r hobj =>
      cases r with
      | none => cases hw; exact ⟨val, attempts, _, rfl, hobj⟩
      | some => cases hw
    | _ => cases hw
  | destroy val =>
    simp only [Operation.program, destroy, deleteStatefulset, Runs.delete_iff, Runs.pure_iff] at h
    obtain ⟨r, es', ⟨rfl, -⟩, rfl⟩ := h
    rw [List.mem_singleton.1 he] at hw
    cases hw
  | wait val attempts => simp [Event.written_of_isRead (wait_calls_read h e he)] at hw
  | waitCleanup val attempts =>
    have h : Runs (waitCleanup val attempts) es o := h
    obtain ⟨r, rfl⟩ := waitCleanup_events h e he
    cases hw

/-- `Interleaving l₁ l₂ l`: the calls `l` are those of `l₁` and those of `l₂`, each in its own
order. -/
inductive Interleaving {α : Type} : List α → List α → List α → Prop
  | nil : Interleaving [] [] []
  | left {a l₁ l₂ l} : Interleaving l₁ l₂ l → Interleaving (a :: l₁) l₂ (a :: l)
  | right {a l₁ l₂ l} : Interleaving l₁ l₂ l → Interleaving l₁ (a :: l₂) (a :: l)

namespace Interleaving

variable {α : Type} {l₁ l₂ l o : List α}

theorem mem (h : Interleaving l₁ l₂ l) : ∀ x ∈ l, x ∈ l₁ ∨ x ∈ l₂ := by
  induction h with
  | nil => simp
  | left _ ih =>
    intro x hx
    rcases List.mem_cons.1 hx with rfl | hx
    · exact .inl (List.mem_cons_self _ _)
    · exact (ih x hx).imp (List.mem_cons_of_mem _) id
  | right _ ih =>
    intro x hx
    rcases List.mem_cons.1 hx with rfl | hx
    · exact .inr (List.mem_cons_self _ _)
    · exact (ih x hx).imp id (List.mem_cons_of_mem _)

theorem mem_left (h : Interleaving l₁ l₂ l) : ∀ x ∈ l₁, x ∈ l := by
  induction h with
  | nil => simp
  | left _ ih => simpa using fun x hx => .inr (ih x hx)
  | right _ ih => exact fun x hx => List.mem_cons_of_mem _ (ih x hx)

/-- Where an element of the first list stands in the merged one: the parts before it and after
it are interleavings of the parts of the two lists. -/
theorem split {a : α} (h : Interleaving (l₁ ++ a :: l₂) o l) :
    ∃ p q o₁ o₂, l = p ++ a :: q ∧ o = o₁ ++ o₂ ∧ Interleaving l₁ o₁ p ∧ Interleaving l₂ o₂ q := by
  generalize hL : l₁ ++ a :: l₂ = L at h
  induction h generalizing l₁ with
  | nil => simp at hL
  | @left b L₁ _ l' h' ih =>
    cases l₁ with
    | nil =>
      obtain ⟨rfl, rfl⟩ := List.cons.inj hL
      exact ⟨[], l', [], _, rfl, rfl, .nil, h'⟩
    | cons x l₁ =>
      rw [List.cons_append, List.cons.injEq] at hL
      obtain ⟨rfl, hL⟩ := hL
      obtain ⟨p, q, o₁, o₂, rfl, rfl, h₁, h₂⟩ := ih hL
      exact ⟨x :: p, q, o₁, o₂, rfl, rfl, h₁.left, h₂⟩
  | right _ ih =>
    obtain ⟨p, q, o₁, o₂, rfl, rfl, h₁, h₂⟩ := ih hL
    exact ⟨_ :: p, q, _ :: o₁, o₂, rfl, rfl, h₁.right, h₂⟩

end Interleaving

/-- `spec` is the spec a `Deploy` among `runs` composes for the StatefulSet at `key`. -/
def ComposedBy (k : Constants) (runs : List OperationRun) (key : ObjectKey)
    (spec : StatefulSetSpec) : Prop :=
  ∃ x ∈ runs, ∃ val attempts obj, x.op = .deploy val attempts ∧ (emptyStatefulset val).key = key ∧
    composeStatefulset k val (emptyStatefulset val) = some obj ∧ spec = obj.spec

/-- With one writer per key, however the calls interleave, the StatefulSet at `key` keeps what
held of its spec, or has a spec that a `Deploy` of its own operations composed: the operations
`own` of the etcd at `key` run one after another, and the components of other etcds, whose
calls interleave with these in any order, deploy other keys only. -/
theorem stored_specs_composed {own others : List OperationRun} {eso : List Event}
    {P : StatefulSetSpec → Prop} {key : ObjectKey}
    (hown : ∀ x ∈ own, Runs (x.op.program k) x.events x.outcome)
    (hruns : ∀ x ∈ others, Runs (x.op.program k) x.events x.outcome)
    (hone : ∀ x ∈ others, ∀ val attempts, x.op = .deploy val attempts →
      (emptyStatefulset val).key ≠ key)
    (hes : ∀ e ∈ eso, ∃ x ∈ others, e ∈ x.events)
    (hmerge : Interleaving (own.flatMap (·.events)) eso es) (h : Admits st es st')
    (hs : SpecHolds P key st) :
    SpecHolds (fun spec => P spec ∨ ComposedBy k own key spec) key st' := by
  refine h.specHolds (fun stored hst => .inl (hs stored hst)) fun e he obj hw hkey => .inr ?_
  rcases hmerge.mem e he with he | he
  · obtain ⟨x, hx, hex⟩ := List.mem_flatMap.1 he
    obtain ⟨val, attempts, sts, hop, hobj⟩ := operation_writes (hown x hx) e hex hw
    obtain ⟨obj', hobj', hspec⟩ := composeStatefulset_spec_eq hobj (emptyStatefulset val)
    exact ⟨x, hx, val, attempts, obj', hop, (composeStatefulset_key hobj).1.symm.trans hkey,
      hobj', hspec⟩
  · -- a write of another component is a `Deploy` of another key
    obtain ⟨x, hx, hex⟩ := hes e he
    obtain ⟨val, attempts, _, hop, hobj⟩ := operation_writes (hruns x hx) e hex hw
    exact absurd ((composeStatefulset_key hobj).1.symm.trans hkey) (hone x hx val attempts hop)

/-- The etcd `etcd` and the etcd `etcd-b` are deployed at once, their calls alternating. -/
theorem stored_specs_composed_of_two_etcds :
    ∃ obj objB st', composeStatefulset ⟨1, 2, 3, "1Gi", "/backup", "v1"⟩ { name := "etcd" }
        (emptyStatefulset { name := "etcd" }) = some obj ∧
      composeStatefulset ⟨1, 2, 3, "1Gi", "/backup", "v1"⟩ { name := "etcd-b" }
        (emptyStatefulset { name := "etcd-b" }) = some objB ∧
      (∀ x ∈ [OperationRun.mk (.deploy { name := "etcd" } 0)
          [.get ⟨"", "etcd"⟩ (.error (.status .notFound "not found")), .create obj none]
          (.returned none)],
        Runs (x.op.program ⟨1, 2, 3, "1Gi", "/backup", "v1"⟩) x.events x.outcome) ∧
      (∀ x ∈ [OperationRun.mk (.deploy { name := "etcd-b" } 0)
          [.get ⟨"", "etcd-b"⟩ (.error (.status .notFound "not found")), .create objB none]
          (.returned none)],
        Runs (x.op.program ⟨1, 2, 3, "1Gi", "/backup", "v1"⟩) x.events x.outcome) ∧
      (∀ x ∈ [OperationRun.mk (.deploy { name := "etcd-b" } 0)
          [.get ⟨"", "etcd-b"⟩ (.error (.status .notFound "not found")), .create objB none]
          (.returned none)], ∀ val attempts, x.op = .deploy val attempts →
        (emptyStatefulset val).key ≠ ⟨"", "etcd"⟩) ∧
      (∀ e ∈ [Event.get ⟨"", "etcd-b"⟩ (.error (.status .notFound "not found")), .create objB none],
        ∃ x ∈ [OperationRun.mk (.deploy { name := "etcd-b" } 0)
          [.get ⟨"", "etcd-b"⟩ (.error (.status .notFound "not found")), .create objB none]
          (.returned none)], e ∈ x.events) ∧
      Interleaving ([OperationRun.mk (.deploy { name := "etcd" } 0)
          [.get ⟨"", "etcd"⟩ (.error (.status .notFound "not found")), .create obj none]
          (.returned none)].flatMap (·.events))
        [.get ⟨"", "etcd-b"⟩ (.error (.status .notFound "not found")), .create objB none]
        [.get ⟨"", "etcd"⟩ (.error (.status .notFound "not found")),
          .get ⟨"", "etcd-b"⟩ (.error (.status .notFound "not found")), .create obj none,
          .create objB none] ∧
      Admits (fun _ => none)
        [.get ⟨"", "etcd"⟩ (.error (.status .notFound "not found")),
          .get ⟨"", "etcd-b"⟩ (.error (.status .notFound "not found")), .create obj none,
          .create objB none] st' ∧
      SpecHolds (fun _ => False) ⟨"", "etcd"⟩ (fun _ => none) ∧
      SpecHolds (fun spec => False ∨ ComposedBy ⟨1, 2, 3, "1Gi", "/backup", "v1"⟩
        [OperationRun.mk (.deploy { name := "etcd" } 0)
          [.get ⟨"", "etcd"⟩ (.error (.status .notFound "not found")), .create obj none]
          (.returned none)] ⟨"", "etcd"⟩ spec) ⟨"", "etcd"⟩ st' := by
  obtain ⟨obj, hobj⟩ : ∃ obj, composeStatefulset ⟨1, 2, 3, "1Gi", "/backup", "v1"⟩
      { name := "etcd" } (emptyStatefulset { name := "etcd" }) = some obj := ⟨_, rfl⟩
  obtain ⟨objB, hobjB⟩ : ∃ obj, composeStatefulset ⟨1, 2, 3, "1Gi", "/backup", "v1"⟩
      { name := "etcd-b" } (emptyStatefulset { name := "etcd-b" }) = some obj := ⟨_, rfl⟩
  have hkey : obj.key = ⟨"", "etcd"⟩ := (composeStatefulset_key hobj).1
  have hkeyB : objB.key = ⟨"", "etcd-b"⟩ := (composeStatefulset_key hobjB).1
  have hne : objB.key ≠ obj.key := by rw [hkey, hkeyB]; decide
  have hown : ∀ x ∈ [OperationRun.mk (.deploy { name := "etcd" } 0)
      [.get ⟨"", "etcd"⟩ (.error (.status .notFound "not found")), .create obj none]
      (.returned none)], Runs (x.op.program ⟨1, 2, 3, "1Gi", "/backup", "v1"⟩) x.events x.outcome := by
    simp only [List.mem_singleton, forall_eq]
    exact runs_deploy_create rfl hobj
  have hruns : ∀ x ∈ [OperationRun.mk (.deploy { name := "etcd-b" } 0)
      [.get ⟨"", "etcd-b"⟩ (.error (.status .notFound "not found")), .create objB none]
      (.returned none)], Runs (x.op.program ⟨1, 2, 3, "1Gi", "/backup", "v1"⟩) x.events x.outcome := by
    simp only [List.mem_singleton, forall_eq]
    exact runs_deploy_create rfl hobjB
  have hone : ∀ x ∈ [OperationRun.mk (.deploy { name := "etcd-b" } 0)
      [.get ⟨"", "etcd-b"⟩ (.error (.status .notFound "not found")), .create objB none]
      (.returned none)], ∀ val attempts, x.op = .deploy val attempts →
        (emptyStatefulset val).key ≠ ⟨"", "etcd"⟩ := by
    simp only [List.mem_singleton, forall_eq, Operation.deploy.injEq]
    rintro val attempts ⟨rfl, -⟩
    decide
  have hmerge : Interleaving ([OperationRun.mk (.deploy { name := "etcd" } 0)
      [.get ⟨"", "etcd"⟩ (.error (.status .notFound "not found")), .create obj none]
      (.returned none)].flatMap (·.events))
      [.get ⟨"", "etcd-b"⟩ (.error (.status .notFound "not found")), .create objB none]
      [.get ⟨"", "etcd"⟩ (.error (.status .notFound "not found")),
        .get ⟨"", "etcd-b"⟩ (.error (.status .notFound "not found")), .create obj none,
        .create objB none] :=
    .left (.right (.left (.right .nil)))
  have ha : Admits (fun _ => none)
      [.get ⟨"", "etcd"⟩ (.error (.status .notFound "not found")),
        .get ⟨"", "etcd-b"⟩ (.error (.status .notFound "not found")), .create obj none,
        .create objB none] _ :=
    .answer (.getNotFound rfl rfl) (.answer (.getNotFound rfl rfl) (.answer (.create rfl)
      (.answer (.create (Function.update_noteq hne _ _)) .done)))
  have hs : SpecHolds (fun _ => False) ⟨"", "etcd"⟩ (fun _ => none) := fun _ h => by cases h
  exact ⟨obj, objB, _, hobj, hobjB, hown, hruns, hone,
    fun e he => ⟨_, List.mem_singleton_self _, he⟩, hmerge, ha, hs,
    stored_specs_composed hown hruns hone (fun e he => ⟨_, List.mem_singleton_self _, he⟩) hmerge
      ha hs⟩

/-! ## What a successful Wait found -/


/-- Deploy, then Wait, while the components of other etcds run and their calls interleave
with these in any order: when `Deploy` returned nil and `Wait` then returns nil, on a store
that keeps every object under its own key, every poll of `Wait` asked for the values' key and
the StatefulSet its last `Get` found ready is the one `Deploy` wrote: it has exactly the
composed spec. -/
theorem deploy_then_wait_ready {attempts' : Nat} {esd esw eso : List Event}
    {others : List OperationRun} (hc : KeysConsistent st)
    (hdeploy : Runs (deploy k val attempts) esd (.returned none))
    (hwait : Runs (wait val attempts') esw (.returned none))
    (hruns : ∀ x ∈ others, Runs (x.op.program k) x.events x.outcome)
    (hother : ∀ x ∈ others, (emptyStatefulset x.op.values).key ≠ (emptyStatefulset val).key)
    (hes : ∀ e ∈ eso, ∃ x ∈ others, e ∈ x.events)
    (hmerge : Interleaving (esd ++ esw) eso es) (h : Admits st es st') :
    ∃ obj pre sts, composeStatefulset k val (emptyStatefulset val) = some obj ∧
      (∀ key r, Event.get key r ∈ esw → key = (emptyStatefulset val).key) ∧
      esw = pre ++ [.get (emptyStatefulset val).key (.ok sts)] ∧ sts.spec = obj.spec ∧
      checkStatefulSet val.replicas sts = none := by
  -- the last call of `Deploy` wrote an object with the composed spec
  obtain ⟨d₁, obj, sts₀, hobj, hd⟩ := deploy_success hdeploy
  obtain ⟨obj', hobj', hspec⟩ := composeStatefulset_spec_eq hobj (emptyStatefulset val)
  obtain ⟨w, rfl, hw⟩ : ∃ w, esd = d₁ ++ [w] ∧ w.written = some obj := by
    rcases hd with rfl | rfl <;> exact ⟨_, rfl, rfl⟩
  rw [List.append_assoc, List.singleton_append] at hmerge
  obtain ⟨p, q, o₁, o₂, rfl, rfl, -, hq⟩ := hmerge.split
  obtain ⟨_, -, hwq⟩ := Admits.append h
  obtain ⟨_, s₂, -, hans, hq'⟩ := Admits.first hwq
    (show SpecHolds (fun _ => True) (emptyStatefulset val).key _ from fun _ _ => trivial)
  have hs₂ : SpecHolds (· = obj.spec) (emptyStatefulset val).key s₂ :=
    (composeStatefulset_key hobj).1 ▸ hans.written_specHolds hw
  -- after it, `Wait` only reads and the other components write only under their own keys
  have hafter : ∀ e ∈ q, ∀ o, e.written = some o → o.key = (emptyStatefulset val).key →
      o.spec = obj.spec := by
    intro e he o hwo hk
    rcases hq.mem e he with he | he
    · simp [Event.written_of_isRead (wait_calls_read hwait e he)] at hwo
    · obtain ⟨x, hx, hex⟩ := hes e (List.mem_append_right _ he)
      obtain ⟨val', _, _, hop, hobj''⟩ := operation_writes (hruns x hx) e hex hwo
      refine absurd ?_ (hother x hx)
      rw [hop, ← hk, (composeStatefulset_key hobj'').1]
      rfl
  -- every poll of `Wait` asked for the values' key, the last one too
  have hgets := wait_gets_values_key hwait fun key sts hmem =>
    h.get_key hc key sts (List.mem_append_right _ (List.mem_cons_of_mem _ (hq.mem_left _ hmem)))
  obtain ⟨pre, sts, hesw, -, hready⟩ := wait_returned_none hwait
  rw [hgets (lastFound (emptyStatefulset val) pre).key (.ok sts) (by rw [hesw]; simp)] at hesw
  have hlast : Event.get (emptyStatefulset val).key (.ok sts) ∈ q :=
    hq.mem_left _ (by rw [hesw]; simp)
  exact ⟨obj', pre, sts, hobj', hgets, hesw,
    (hq'.get_specHolds_all hs₂ hafter sts hlast).trans hspec, hready⟩

theorem deploy_then_wait_ready_of_create :
    ∃ obj es st', KeysConsistent (fun _ => none) ∧
      Runs (deploy ⟨1, 2, 3, "1Gi", "/backup", "v1"⟩ { name := "etcd", replicas := 1 } 0)
        [.get ⟨"", "etcd"⟩ (.error (.status .notFound "not found")), .create obj none]
        (.returned none) ∧
      Runs (wait { name := "etcd", replicas := 1 } 0)
        [.get ⟨"", "etcd"⟩ (.ok { created obj with
          status := { observedGeneration := 1, replicas := 1, readyReplicas := 1 } })]
        (.returned none) ∧
      (∀ x ∈ [OperationRun.mk (.destroy { name := "etcd-b" })
          [.delete (emptyStatefulset { name := "etcd-b" }) (some (.status .notFound "not found"))]
          (.returned none)],
        Runs (x.op.program ⟨1, 2, 3, "1Gi", "/backup", "v1"⟩) x.events x.outcome) ∧
      Admits (fun _ => none) es st' ∧
      ∃ obj' pre sts, composeStatefulset ⟨1, 2, 3, "1Gi", "/backup", "v1"⟩
          { name := "etcd", replicas := 1 } (emptyStatefulset { name := "etcd", replicas := 1 }) =
            some obj' ∧
        (∀ key r, Event.get key r ∈ ([.get ⟨"", "etcd"⟩ (.ok { created obj with
          status := { observedGeneration := 1, replicas := 1, readyReplicas := 1 } })] : List Event) →
          key = (emptyStatefulset { name := "etcd", replicas := 1 }).key) ∧
        ([.get ⟨"", "etcd"⟩ (.ok { created obj with
          status := { observedGeneration := 1, replicas := 1, readyReplicas := 1 } })] : List Event) =
          pre ++ [.get (emptyStatefulset { name := "etcd", replicas := 1 }).key (.ok sts)] ∧
        sts.spec = obj'.spec ∧ checkStatefulSet 1 sts = none := by
  obtain ⟨obj, hobj⟩ : ∃ obj, composeStatefulset ⟨1, 2, 3, "1Gi", "/backup", "v1"⟩
      { name := "etcd", replicas := 1 } (emptyStatefulset { name := "etcd", replicas := 1 }) =
        some obj := ⟨_, rfl⟩
  have hkey : obj.key = ⟨"", "etcd"⟩ := (composeStatefulset_key hobj).1
  have hc : KeysConsistent (fun _ => none) := fun _ _ h => by cases h
  have hdeploy : Runs (deploy ⟨1, 2, 3, "1Gi", "/backup", "v1"⟩ { name := "etcd", replicas := 1 } 0)
      [.get ⟨"", "etcd"⟩ (.error (.status .notFound "not found")), .create obj none]
      (.returned none) :=
    runs_deploy_create rfl hobj
  have hwait : Runs (wait { name := "etcd", replicas := 1 } 0)
      [.get ⟨"", "etcd"⟩ (.ok { created obj with
        status := { observedGeneration := 1, replicas := 1, readyReplicas := 1 } })]
      (.returned none) :=
    Runs.bind (Runs.bind (.get _ (.pure _)) (.pure _)) (.pure _)
  have hruns : ∀ x ∈ [OperationRun.mk (.destroy { name := "etcd-b" })
      [.delete (emptyStatefulset { name := "etcd-b" }) (some (.status .notFound "not found"))]
      (.returned none)], Runs (x.op.program ⟨1, 2, 3, "1Gi", "/backup", "v1"⟩) x.events x.outcome := by
    simp only [List.mem_singleton, forall_eq]
    exact .delete _ (.pure _)
  have hne : (⟨"", "etcd-b"⟩ : ObjectKey) ≠ ⟨"", "etcd"⟩ := by decide
  -- the create of etcd, the failed delete of etcd-b, the controller reporting the replica
  -- ready, then the poll of Wait
  have ha : Admits (fun _ => none)
      [.get obj.key (.error (.status .notFound "not found")), .create obj none,
        .delete (emptyStatefulset { name := "etcd-b" }) (some (.status .notFound "not found")),
        .get obj.key (.ok { created obj with
          status := { observedGeneration := 1, replicas := 1, readyReplicas := 1 } })] _ :=
    .answer (.getNotFound rfl rfl) (.answer (.create rfl)
      (.answer (.deleteNotFound (by rw [← hkey] at hne; exact Function.update_noteq hne _ _) rfl)
        (.background (.status (Function.update_same _ _ _))
          (.answer (.getFound (Function.update_same _ _ _)) .done))))
  rw [hkey] at ha
  exact ⟨obj, _, _, hc, hdeploy, hwait, hruns, ha, deploy_then_wait_ready hc hdeploy hwait hruns
    (by simp [emptyStatefulset, StatefulSet.key, Operation.values])
    (fun e he => ⟨_, List.mem_singleton_self _, he⟩) (.left (.left (.right (.left .nil)))) ha⟩

end EtcdDruid
