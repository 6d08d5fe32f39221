import EtcdDruid.Deploy

/-!
# The platform as a store

The platform that runs of `Deploy` are checked against keeps at most one StatefulSet per
key. `Get` returns it, or NotFound when there is none; `Create` installs the composed object
at generation one, and a successful `Patch` installs it over the stored one, counting the
generation up when the spec changes; `Delete` marks the object, and the platform removes a
marked object later, when it chooses. Any call can also fail with an error other than
NotFound and change nothing, and the StatefulSet controller rewrites an object's status when
it chooses. The component itself keeps no state between calls.

`syncStatefulset` patches with `client.StrategicMergeFrom` of the object it fetched: the API
server applies the diff from that object to the composed one onto the stored object. The
result is the composed object when the stored object is the fetched one, which is the case
with one writer per key, the case the results here are stated for; the merge of a diff onto
an object another writer changed in between is not modelled.
-/

namespace EtcdDruid

/-- A stored StatefulSet, and whether its deletion was requested. -/
structure Stored where
  obj : StatefulSet
  deleting : Bool := false

abbrev Store := ObjectKey → Option Stored

/-- The object the platform keeps for a created `obj`: its first generation, and no status. -/
def created (obj : StatefulSet) : StatefulSet :=
  { obj with metadata := { obj.metadata with generation := 1 }, status := {} }

/-- The object the platform keeps for a successful patch of the stored `old` to `obj`: the API
server counts the generation up only when the spec changes, and the status stays. -/
def patched (obj old : StatefulSet) : StatefulSet :=
  { obj with
    metadata := { obj.metadata with
      generation := if obj.spec = old.spec then old.metadata.generation
        else old.metadata.generation + 1 }
    status := old.status }

/-- The error a call was answered with, if any. -/
def Event.failure : Event → Option GoError
  | .get _ (.error err) | .list _ (.error err) | .fetchEventMessages _ _ _ (.error err) => some err
  | .create _ r | .patch _ _ r | .delete _ r => r
  | _ => none

/-- The object a successful create or patch asks the platform to store. -/
def Event.written : Event → Option StatefulSet
  | .create obj none | .patch obj _ none => some obj
  | _ => none

def Event.isDelete : Event → Bool
  | .delete .. => true
  | _ => false

/-- `Answers st e st'`: the platform in `st` can give the call of `e` the reply of `e`, and
is in `st'` after it. -/
inductive Answers : Store → Event → Store → Prop
  | getFound {st key stored} : st key = some stored → Answers st (.get key (.ok stored.obj)) st
  | getNotFound {st key err} :
      st key = none → err.isNotFound = true → Answers st (.get key (.error err)) st
  | create {st obj} : st obj.key = none →
      Answers st (.create obj none) (Function.update st obj.key (some ⟨created obj, false⟩))
  | patch {st obj base stored} : st obj.key = some stored →
      Answers st (.patch obj base none) (Function.update st obj.key
        (some { stored with obj := patched obj stored.obj }))
  | patchNotFound {st obj base err} :
      st obj.key = none → err.isNotFound = true → Answers st (.patch obj base (some err)) st
  | delete {st obj stored} : st obj.key = some stored →
      Answers st (.delete obj none) (Function.update st obj.key (some { stored with deleting := true }))
  | deleteNotFound {st obj err} :
      st obj.key = none → err.isNotFound = true → Answers st (.delete obj (some err)) st
  | fail {st e err} : e.failure = some err → err.isNotFound = false → Answers st e st
  | list {st ns r} : Answers st (.list ns r) st
  | fetchEventMessages {st pvc t n r} : Answers st (.fetchEventMessages pvc t n r) st
  | logError {st err msg} : Answers st (.logError err msg) st

/-- What the platform does on its own: remove an object marked for deletion, or rewrite an
object's status. -/
inductive Background : Store → Store → Prop
  | remove {st key stored} :
      st key = some stored → stored.deleting = true → Background st (Function.update st key none)
  | status {st key stored status} : st key = some stored →
      Background st (Function.update st key
        (some { stored with obj := { stored.obj with status := status } }))

/-- `Admits st es st'`: from `st` the platform can give the replies of `es` in order, doing
its own steps before, between and after them, and end in `st'`. -/
inductive Admits : Store → List Event → Store → Prop
  | done {st} : Admits st [] st
  | background {st st' es st''} : Background st st' → Admits st' es st'' → Admits st es st''
  | answer {st st' e es st''} : Answers st e st' → Admits st' es st'' → Admits st (e :: es) st''

theorem Admits.append {st st' : Store} {es₁ es₂ : List Event} (h : Admits st (es₁ ++ es₂) st') :
    ∃ st₁, Admits st es₁ st₁ ∧ Admits st₁ es₂ st' := by
  generalize hes : es₁ ++ es₂ = es at h
  induction h generalizing es₁ with
  | done =>
    obtain ⟨rfl, rfl⟩ := List.append_eq_nil.1 hes
    exact ⟨_, .done, .done⟩
  | background hb _ ih =>
    obtain ⟨st₁, h₁, h₂⟩ := ih hes
    exact ⟨st₁, .background hb h₁, h₂⟩
  | answer ha h ih =>
    cases es₁ with
    | nil =>
      rw [List.nil_append] at hes
      exact ⟨_, .done, hes ▸ .answer ha h⟩
    | cons e es₁ =>
      simp only [List.cons_append, List.cons.injEq] at hes
      obtain ⟨rfl, hes⟩ := hes
      obtain ⟨st₁, h₁, h₂⟩ := ih hes
      exact ⟨st₁, .answer ha h₁, h₂⟩

theorem Admits.trans {st st₁ st' : Store} {es₁ es₂ : List Event} (h₁ : Admits st es₁ st₁)
    (h₂ : Admits st₁ es₂ st') : Admits st (es₁ ++ es₂) st' := by
  induction h₁ with
  | done => exact h₂
  | background hb _ ih => exact .background hb (ih h₂)
  | answer ha _ ih => exact .answer ha (ih h₂)

/-! ## What the spec of a stored object satisfies -/

/-- The StatefulSet at `key`, if there is one, has a spec satisfying `P`. -/
def SpecHolds (P : StatefulSetSpec → Prop) (key : ObjectKey) (st : Store) : Prop :=
  ∀ stored, st key = some stored → P stored.obj.spec

/-- The StatefulSet at `key`, if there is one, has the service name `S`. -/
def ServiceNamed (S : String) (key : ObjectKey) (st : Store) : Prop :=
  ∀ stored, st key = some stored → stored.obj.spec.serviceName = S

variable {P : StatefulSetSpec → Prop} {S : String} {key : ObjectKey} {st st' : Store}

theorem serviceNamed_iff : ServiceNamed S key st ↔ SpecHolds (·.serviceName = S) key st := Iff.rfl

/-- The platform's own steps keep every spec: they only remove objects or rewrite status. -/
theorem Background.specHolds (h : Background st st') (hs : SpecHolds P key st) :
    SpecHolds P key st' := by
  intro stored hstored
  cases h with
  | remove =>
    rw [Function.update_apply] at hstored
    split_ifs at hstored
    exact hs _ hstored
  | @status key' stored' _ hk =>
    rw [Function.update_apply] at hstored
    split_ifs at hstored with hkey
    · cases hstored
      exact hs stored' (hkey ▸ hk)
    · exact hs _ hstored

/-- An answer keeps a property of the spec at `key` when what it writes there has it. -/
theorem Answers.specHolds {e : Event} (h : Answers st e st') (hs : SpecHolds P key st)
    (hw : ∀ obj, e.written = some obj → obj.key = key → P obj.spec) : SpecHolds P key st' := by
  intro stored hstored
  cases h with
  | @create obj _ =>
    rw [Function.update_apply] at hstored
    split_ifs at hstored with hkey
    · cases hstored; exact hw obj rfl hkey.symm
    · exact hs _ hstored
  | @patch obj _ _ _ =>
    rw [Function.update_apply] at hstored
    split_ifs at hstored with hkey
    · cases hstored; exact hw obj rfl hkey.symm
    · exact hs _ hstored
  | @delete _ stored' hk =>
    rw [Function.update_apply] at hstored
    split_ifs at hstored with hkey
    · cases hstored; exact hs stored' (hkey ▸ hk)
    · exact hs _ hstored
  | _ => exact hs _ hstored

theorem Admits.specHolds {es : List Event} (h : Admits st es st') (hs : SpecHolds P key st)
    (hw : ∀ e ∈ es, ∀ obj, e.written = some obj → obj.key = key → P obj.spec) :
    SpecHolds P key st' := by
  induction h with
  | done => exact hs
  | background hb _ ih => exact ih (hb.specHolds hs) hw
  | answer ha _ ih =>
    exact ih (ha.specHolds hs (hw _ (List.mem_cons_self _ _)))
      (fun e he => hw e (List.mem_cons_of_mem _ he))

/-- The first reply of a run, after the platform's own steps, which keep every spec. -/
theorem Admits.first {e : Event} {es : List Event} (h : Admits st (e :: es) st')
    (hs : SpecHolds P key st) :
    ∃ st₀ st₁, SpecHolds P key st₀ ∧ Answers st₀ e st₁ ∧ Admits st₁ es st' := by
  generalize hes : e :: es = es' at h
  induction h with
  | done => cases hes
  | background hb _ ih => exact ih (hb.specHolds hs) hes
  | answer ha h _ =>
    obtain ⟨rfl, rfl⟩ := List.cons.inj hes
    exact ⟨_, _, hs, ha, h⟩

/-- After a successful create or patch, the object at the written key has the written spec. -/
theorem Answers.written_specHolds {e : Event} {obj : StatefulSet} (h : Answers st e st')
    (hw : e.written = some obj) : SpecHolds (· = obj.spec) obj.key st' := by
  intro stored hstored
  cases h with
  | create | patch =>
    cases hw
    simp only [Function.update_same, Option.some.injEq] at hstored
    subst hstored
    rfl
  | fail hf _ => cases e <;> simp_all [Event.written, Event.failure]
  | _ => simp [Event.written] at hw

/-- After a successful create or patch and any steps of the platform's own, the object at
the written key, if any, has the written spec. -/
theorem Admits.written {e : Event} {obj : StatefulSet} (h : Admits st [e] st')
    (hw : e.written = some obj) : SpecHolds (· = obj.spec) obj.key st' := by
  generalize hes : [e] = es at h
  induction h with
  | done => cases hes
  | background _ _ ih => exact ih hes
  | answer ha h _ =>
    obtain ⟨rfl, rfl⟩ := List.cons.inj hes
    exact h.specHolds (ha.written_specHolds hw) (by simp)

/-- A `Get` returns only an object whose spec holds what the stored one does. -/
theorem Answers.get_specHolds {r : Except GoError StatefulSet} (h : Answers st (.get key r) st')
    (hs : SpecHolds P key st) (sts : StatefulSet) (hr : r = .ok sts) : P sts.spec := by
  subst hr
  cases h with
  | getFound hk => exact hs _ hk
  | fail hf _ => simp [Event.failure] at hf

/-- While every write at `key` has a spec satisfying `P`, every `Get` of `key` that finds an
object returns one whose spec satisfies `P`. -/
theorem Admits.get_specHolds_all {es : List Event} (h : Admits st es st') (hs : SpecHolds P key st)
    (hw : ∀ e ∈ es, ∀ obj, e.written = some obj → obj.key = key → P obj.spec) :
    ∀ sts, Event.get key (.ok sts) ∈ es → P sts.spec := by
  induction h with
  | done => simp
  | background hb _ ih => exact ih (hb.specHolds hs) hw
  | answer ha _ ih =>
    intro sts he
    have hw' := fun e he => hw e (List.mem_cons_of_mem _ he)
    rcases List.mem_cons.1 he with rfl | he
    · exact ha.get_specHolds hs sts rfl
    · exact ih (ha.specHolds hs (hw _ (List.mem_cons_self _ _))) hw' sts he

/-- The platform's own steps never create an object. -/
theorem Admits.none_of_nil (h : Admits st [] st') (hnone : st key = none) : st' key = none := by
  generalize hnil : ([] : List Event) = es at h
  induction h with
  | done => exact hnone
  | background hb _ ih =>
    refine ih ?_ hnil
    cases hb with
    | remove => rw [Function.update_apply]; split_ifs <;> simp_all
    | status hk => rw [Function.update_apply]; split_ifs <;> simp_all
  | answer => cases hnil

/-- After a `Get` that found nothing and any steps of the platform's own, there is still no
object. -/
theorem Admits.get_not_found {err : GoError} (h : Admits st [.get key (.error err)] st')
    (herr : err.isNotFound = true) : st' key = none := by
  generalize hes : [Event.get key (.error err)] = es at h
  induction h with
  | done => cases hes
  | background _ _ ih => exact ih hes
  | answer ha h _ =>
    obtain ⟨rfl, rfl⟩ := List.cons.inj hes
    refine h.none_of_nil ?_
    cases ha with
    | getNotFound hk => exact hk
    | fail hf hnf => simp only [Event.failure, Option.some.injEq] at hf; simp_all

/-! ## What every stored object satisfies, and calls that only read -/

/-- Every stored object, with the key it is stored under, satisfies `Q`. -/
def StoredHold (Q : ObjectKey → StatefulSet → Prop) (st : Store) : Prop :=
  ∀ key stored, st key = some stored → Q key stored.obj

/-- A property of stored objects that the platform's writes keep: it holds of what a create
installs, of what a patch installs over an object that has it, and of an object whose status
the platform rewrites. -/
structure Kept (Q : ObjectKey → StatefulSet → Prop) : Prop where
  create : ∀ obj, Q obj.key (created obj)
  patch : ∀ obj old, Q obj.key old → Q obj.key (patched obj old)
  status : ∀ key obj status, Q key obj → Q key { obj with status := status }

section Kept

variable {Q : ObjectKey → StatefulSet → Prop}

theorem StoredHold.update (hq : StoredHold Q st) {v : Option Stored}
    (hv : ∀ stored, v = some stored → Q key stored.obj) :
    StoredHold Q (Function.update st key v) := by
  intro key' stored h
  rw [Function.update_apply] at h
  split_ifs at h with hkey
  · exact hkey ▸ hv stored h
  · exact hq key' stored h

theorem Background.storedHold (hQ : Kept Q) (h : Background st st') (hq : StoredHold Q st) :
    StoredHold Q st' := by
  cases h with
  | remove => exact hq.update (by simp)
  | @status key stored _ hk => exact hq.update (by rintro _ ⟨⟩; exact hQ.status _ _ _ (hq key stored hk))

theorem Answers.storedHold {e : Event} (hQ : Kept Q) (h : Answers st e st') (hq : StoredHold Q st) :
    StoredHold Q st' := by
  cases h with
  | create => exact hq.update (by rintro _ ⟨⟩; exact hQ.create _)
  | @patch obj _ stored hk =>
    exact hq.update (by rintro _ ⟨⟩; exact hQ.patch _ _ (hq obj.key stored hk))
  | @delete obj stored hk => exact hq.update (by rintro _ ⟨⟩; exact hq obj.key stored hk)
  | _ => exact hq

theorem Admits.storedHold {es : List Event} (hQ : Kept Q) (h : Admits st es st')
    (hq : StoredHold Q st) : StoredHold Q st' := by
  induction h with
  | done => exact hq
  | background hb _ ih => exact ih (hb.storedHold hQ hq)
  | answer ha _ ih => exact ih (ha.storedHold hQ hq)

/-- A `Get` that finds an object returns one that satisfies what every stored object does. -/
theorem Admits.get_storedHold {es : List Event} (hQ : Kept Q) (h : Admits st es st')
    (hq : StoredHold Q st) : ∀ key sts, Event.get key (.ok sts) ∈ es → Q key sts := by
  induction h with
  | done => simp
  | background hb _ ih => exact ih (hb.storedHold hQ hq)
  | answer ha _ ih =>
    intro key sts he
    rcases List.mem_cons.1 he with rfl | he
    · cases ha with
      | getFound hk => exact hq _ _ hk
      | fail hf => simp [Event.failure] at hf
    · exact ih (ha.storedHold hQ hq) key sts he

end Kept

/-- Every stored object sits under its own key. -/
def KeysConsistent (st : Store) : Prop :=
  ∀ key stored, st key = some stored → stored.obj.key = key

theorem kept_key : Kept (fun key obj => obj.key = key) :=
  ⟨fun _ => rfl, fun _ _ _ => rfl, fun _ _ _ h => h⟩

/-- From a store that keeps every object under its own key, a `Get` that finds an object
finds one with the key it asked for. -/
theorem Admits.get_key {es : List Event} (h : Admits st es st') (hc : KeysConsistent st) :
    ∀ key sts, Event.get key (.ok sts) ∈ es → sts.key = key :=
  h.get_storedHold kept_key hc

/-- Every stored object has a generation: the platform counts it from one. -/
def GenerationsPositive (st : Store) : Prop :=
  ∀ key stored, st key = some stored → 0 < stored.obj.metadata.generation

theorem kept_generation_pos : Kept (fun _ obj => 0 < obj.metadata.generation) where
  create _ := by simp [created]
  patch _ _ h := by simp only [patched]; split_ifs <;> omega
  status _ _ _ h := h

/-- A call that only reads: a `Get`, a `List`, a lookup of events, or a log line. -/
def Event.isRead : Event → Bool
  | .get .. | .list .. | .fetchEventMessages .. | .logError .. => true
  | _ => false

theorem Event.written_of_isRead {e : Event} (h : e.isRead = true) : e.written = none := by
  cases e <;> simp_all [Event.isRead, Event.written]

/-- The platform answers a read without changing the store. -/
theorem Answers.read {e : Event} (h : Answers st e st') (he : e.isRead = true) : st' = st := by
  cases h <;> first | rfl | simp [Event.isRead] at he

/-- A run of reads leaves the store to what the platform does on its own. -/
theorem Admits.reads {es : List Event} (h : Admits st es st') (hr : ∀ e ∈ es, e.isRead = true) :
    Relation.ReflTransGen Background st st' := by
  induction h with
  | done => exact .refl
  | background hb _ ih => exact .head hb (ih hr)
  | answer ha _ ih =>
    obtain rfl := ha.read (hr _ (List.mem_cons_self _ _))
    exact ih fun e he => hr e (List.mem_cons_of_mem _ he)

/-- The key of the object a create, patch or delete asks the platform to change. -/
def Event.target : Event → Option ObjectKey
  | .create obj _ | .patch obj _ _ | .delete obj _ => some obj.key
  | _ => none

theorem Event.target_of_isRead {e : Event} (h : e.isRead = true) : e.target = none := by
  cases e <;> simp_all [Event.isRead, Event.target]

/-- An answer to a call that targets another key leaves the object at `key` as it was. -/
theorem Answers.frame {e : Event} (h : Answers st e st') (he : e.target ≠ some key) :
    st' key = st key := by
  cases h with
  | create | patch | delete =>
    exact Function.update_noteq (fun hk => he (congrArg some hk.symm)) _ _
  | _ => rfl

/-- The platform's own steps keep a StatefulSet that is not marked for deletion, and change
only its status. -/
theorem Background.frame {stored : Stored} (h : Background st st') (hst : st key = some stored)
    (hlive : stored.deleting = false) :
    ∃ stored', st' key = some stored' ∧ stored'.obj.metadata = stored.obj.metadata ∧
      stored'.obj.spec = stored.obj.spec ∧ stored'.deleting = false := by
  cases h with
  | @remove key' stored' hk hdel =>
    have hne : key ≠ key' := by
      rintro rfl
      rw [hst, Option.some.injEq] at hk
      simp_all
    exact ⟨stored, by rw [Function.update_noteq hne, hst], rfl, rfl, hlive⟩
  | @status key' stored' _ hk =>
    by_cases hkey : key = key'
    · subst hkey
      rw [hst, Option.some.injEq] at hk
      subst hk
      exact ⟨_, Function.update_same _ _ _, rfl, rfl, hlive⟩
    · exact ⟨stored, by rw [Function.update_noteq hkey, hst], rfl, rfl, hlive⟩

/-- Calls that target other keys, and the platform's own steps, keep a StatefulSet that is
not marked for deletion: its metadata and spec stay, only its status can change. -/
theorem Admits.frame {es : List Event} {stored : Stored} (h : Admits st es st')
    (ht : ∀ e ∈ es, e.target ≠ some key) (hst : st key = some stored)
    (hlive : stored.deleting = false) :
    ∃ stored', st' key = some stored' ∧ stored'.obj.metadata = stored.obj.metadata ∧
      stored'.obj.spec = stored.obj.spec ∧ stored'.deleting = false := by
  induction h generalizing stored with
  | done => exact ⟨stored, hst, rfl, rfl, hlive⟩
  | background hb _ ih =>
    obtain ⟨s₁, hs₁, hm₁, hsp₁, hl₁⟩ := hb.frame hst hlive
    obtain ⟨s₂, hs₂, hm₂, hsp₂, hl₂⟩ := ih ht hs₁ hl₁
    exact ⟨s₂, hs₂, hm₂.trans hm₁, hsp₂.trans hsp₁, hl₂⟩
  | answer ha _ ih =>
    rw [← ha.frame (ht _ (List.mem_cons_self _ _))] at hst
    exact ih (fun e he => ht e (List.mem_cons_of_mem _ he)) hst hlive

/-! ## Runs of Deploy -/

variable {k : Constants}

/-- What a `Deploy` writes is stored under its values' key and names their service. -/
theorem DeployCall.written {val : Values} {e : Event} {obj : StatefulSet}
    (h : DeployCall k val e) (hw : e.written = some obj) :
    obj.key = (emptyStatefulset val).key ∧ obj.spec.serviceName = val.serviceName := by
  cases h with
  | create r hobj | patch r hobj =>
    cases r with
    | none => cases hw; exact composeStatefulset_key hobj
    | some => cases hw
  | _ => cases hw

/-- A `Deploy` of service `S` on a store whose StatefulSet is absent or named `S` deletes
nothing and leaves the StatefulSet absent or named `S`. -/
theorem deploy_keeps_serviceNamed {val : Values} {attempts : Nat} {es : List Event}
    {o : Outcome (Option GoError)} (hrun : Runs (deploy k val attempts) es o)
    (h : Admits st es st') (hs : ServiceNamed val.serviceName (emptyStatefulset val).key st) :
    (∀ e ∈ es, e.isDelete = false) ∧
      ServiceNamed val.serviceName (emptyStatefulset val).key st' := by
  refine ⟨?_, h.specHolds (serviceNamed_iff.1 hs) fun e he obj hw _ =>
    ((deploy_calls hrun e he).written hw).2⟩
  obtain ⟨r, rest, rfl, -⟩ := runs_deploy.1 hrun
  obtain ⟨st₀, st₁, hs₀, hget, -⟩ := h.first (serviceNamed_iff.1 hs)
  have hno := deploy_no_delete hrun fun sts hr hre => hre.2.1 (hget.get_specHolds hs₀ sts hr)
  intro e he
  rcases List.mem_cons.1 he with rfl | he
  · rfl
  · obtain ⟨hcall, hne⟩ := hno e he
    cases hcall with
    | delete r => exact absurd rfl (hne r)
    | _ => rfl

/-- A `Deploy` that returns nil leaves its StatefulSet named after its service. -/
theorem deploy_success_serviceNamed {val : Values} {attempts : Nat} {es : List Event}
    (hrun : Runs (deploy k val attempts) es (.returned none)) (h : Admits st es st') :
    ServiceNamed val.serviceName (emptyStatefulset val).key st' := by
  obtain ⟨es₁, obj, sts, hobj, rfl | rfl⟩ := deploy_success hrun <;>
  · obtain ⟨_, -, h₂⟩ := Admits.append h
    obtain ⟨hkey, hsvc⟩ := composeStatefulset_key hobj
    intro stored hstored
    rw [h₂.written rfl stored (hkey ▸ hstored), hsvc]

/-- After a `Deploy` that returns nil, and whatever the platform does on its own afterwards,
the StatefulSet at the values' key is gone or has exactly the composed spec. -/
theorem deploy_success_stores_composed {val : Values} {attempts : Nat} {es : List Event}
    (hrun : Runs (deploy k val attempts) es (.returned none)) (h : Admits st es st') :
    ∃ obj, composeStatefulset k val (emptyStatefulset val) = some obj ∧
      SpecHolds (· = obj.spec) (emptyStatefulset val).key st' := by
  obtain ⟨es₁, obj, sts, hobj, hes⟩ := deploy_success hrun
  obtain ⟨obj', hobj', hspec⟩ := composeStatefulset_spec_eq hobj (emptyStatefulset val)
  obtain ⟨hkey, -⟩ := composeStatefulset_key hobj
  refine ⟨obj', hobj', ?_⟩
  rcases hes with rfl | rfl <;>
  · obtain ⟨_, -, h₂⟩ := Admits.append h
    intro stored hstored
    rw [h₂.written rfl stored (hkey ▸ hstored), hspec]

theorem deploy_success_stores_composed_of_create :
    ∃ obj st', composeStatefulset ⟨1, 2, 3, "1Gi", "/backup", "v1"⟩ { name := "etcd" }
        (emptyStatefulset { name := "etcd" }) = some obj ∧
      Runs (deploy ⟨1, 2, 3, "1Gi", "/backup", "v1"⟩ { name := "etcd" } 0)
        [.get ⟨"", "etcd"⟩ (.error (.status .notFound "not found")), .create obj none]
        (.returned none) ∧
      Admits (fun _ => none)
        [.get ⟨"", "etcd"⟩ (.error (.status .notFound "not found")), .create obj none] st' ∧
      ∃ obj', composeStatefulset ⟨1, 2, 3, "1Gi", "/backup", "v1"⟩ { name := "etcd" }
          (emptyStatefulset { name := "etcd" }) = some obj' ∧
        SpecHolds (· = obj'.spec) (emptyStatefulset { name := "etcd" }).key st' := by
  obtain ⟨obj, hobj⟩ : ∃ obj, composeStatefulset ⟨1, 2, 3, "1Gi", "/backup", "v1"⟩
      { name := "etcd" } (emptyStatefulset { name := "etcd" }) = some obj := ⟨_, rfl⟩
  have hsync := runs_syncStatefulset.2 (.inr ⟨obj, none, hobj, rfl, rfl⟩)
  have hrun : Runs (deploy ⟨1, 2, 3, "1Gi", "/backup", "v1"⟩ { name := "etcd" } 0)
      [.get ⟨"", "etcd"⟩ (.error (.status .notFound "not found")), .create obj none]
      (.returned none) :=
    runs_deploy.2 ⟨_, _, rfl, .inl ⟨_, rfl,
      (runs_deployOn_of_not_recreates (by simp [recreates, emptyStatefulset])).2 hsync⟩⟩
  have hadmits : Admits (fun _ => none)
      [.get ⟨"", "etcd"⟩ (.error (.status .notFound "not found")), .create obj none] _ :=
    .answer (.getNotFound rfl rfl) (.answer (.create rfl) .done)
  exact ⟨obj, _, hobj, hrun, hadmits, deploy_success_stores_composed hrun hadmits⟩

/-- The platform answers the `Get`, the `Delete` and a wait's `Get` of a recreate: it returns
the stored object, marks it, removes it, and then finds nothing. -/
theorem Admits.recreate {val : Values} {stored : Stored} {err : GoError}
    (hk : st (emptyStatefulset val).key = some stored) (herr : err.isNotFound = true) :
    Admits st [.get (emptyStatefulset val).key (.ok stored.obj), .delete (emptyStatefulset val) none,
        .get (emptyStatefulset val).key (.error err)]
      (Function.update (Function.update st (emptyStatefulset val).key
        (some { stored with deleting := true })) (emptyStatefulset val).key none) :=
  .answer (.getFound hk) (.answer (.delete hk)
    (.background (.remove (Function.update_same _ _ _) rfl)
      (.answer (.getNotFound (Function.update_same _ _ _) herr) .done)))

/-- A call that does not occur before the last call of a run cuts the run only there. -/
theorem eq_of_append_singleton_eq {a b c : List Event} {x : Event} (hx : x ∉ a)
    (h : a ++ [x] = b ++ x :: c) : b = a ∧ c = [] := by
  rcases List.append_eq_append_iff.1 h with ⟨d, rfl, hd⟩ | ⟨d, rfl, hd⟩
  · cases d <;> simp_all
  · cases d with
    | nil => simp_all
    | cons y d =>
      obtain ⟨rfl, -⟩ := List.cons.inj hd
      simp at hx

/-- On a platform whose objects all have a generation, which the platform keeps so, a Create
is the last call of `Deploy` and is sent only when there is no StatefulSet at its key,
whatever the platform did before it: `Deploy` chooses between Create and Patch by the
generation of what its last `Get` returned, and that `Get` found nothing. -/
theorem deploy_creates_only_absent {val : Values} {attempts : Nat} {es pre post : List Event}
    {o : Outcome (Option GoError)} {obj : StatefulSet} {r : Option GoError}
    (hpos : GenerationsPositive st) (hrun : Runs (deploy k val attempts) es o)
    (hes : es = pre ++ .create obj r :: post) (h : Admits st pre st') :
    post = [] ∧ st' obj.key = none := by
  obtain ⟨pre', r₀, hes', hnone, hkey, hr₀⟩ :=
    deploy_create_last hrun (hes ▸ List.mem_append_right _ (List.mem_cons_self _ _))
  -- the Create occurs once, so the two ways of writing the calls agree
  obtain ⟨rfl, rfl⟩ := @eq_of_append_singleton_eq (pre' ++ [.get (emptyStatefulset val).key r₀])
    pre post (.create obj r) (by simpa using fun h => hnone _ h obj r rfl)
    (by rw [← hes, hes']; simp)
  refine ⟨rfl, ?_⟩
  obtain ⟨_, -, hget⟩ := Admits.append h
  rcases hr₀ with ⟨err, rfl, hnf⟩ | ⟨sts, rfl, hgen⟩
  · rw [hkey]
    exact hget.get_not_found hnf
  · exact absurd (h.get_storedHold kept_generation_pos hpos (emptyStatefulset val).key sts
      (by simp)) hgen

/-- A StatefulSet of generation two that names the client service, while the cluster is scaled
up from one member to three: `Deploy` deletes it, waits until it is removed, and creates the
composed object at a key that is free again. -/
theorem deploy_creates_only_absent_of_recreate :
    ∃ obj st', composeStatefulset ⟨1, 2, 3, "1Gi", "/backup", "v1"⟩
        { name := "etcd-main", replicas := 3, statusReplicas := 1, serviceName := "etcd-main-peer" }
        (emptyStatefulset
          { name := "etcd-main", replicas := 3, statusReplicas := 1, serviceName := "etcd-main-peer" }) =
          some obj ∧
      GenerationsPositive (Function.update (fun _ => none) ⟨"", "etcd-main"⟩
        (some ⟨{ metadata := { name := "etcd-main", generation := 2 }
                 spec := { serviceName := "etcd-main-client" } }, false⟩)) ∧
      Runs (deploy ⟨1, 2, 3, "1Gi", "/backup", "v1"⟩
          { name := "etcd-main", replicas := 3, statusReplicas := 1, serviceName := "etcd-main-peer" } 0)
        [.get ⟨"", "etcd-main"⟩ (.ok { metadata := { name := "etcd-main", generation := 2 }
                                       spec := { serviceName := "etcd-main-client" } }),
          .delete (emptyStatefulset
            { name := "etcd-main", replicas := 3, statusReplicas := 1, serviceName := "etcd-main-peer" })
            none,
          .get ⟨"", "etcd-main"⟩ (.error (.status .notFound "not found")), .create obj none]
        (.returned none) ∧
      Admits (Function.update (fun _ => none) ⟨"", "etcd-main"⟩
          (some ⟨{ metadata := { name := "etcd-main", generation := 2 }
                   spec := { serviceName := "etcd-main-client" } }, false⟩))
        [.get ⟨"", "etcd-main"⟩ (.ok { metadata := { name := "etcd-main", generation := 2 }
                                       spec := { serviceName := "etcd-main-client" } }),
          .delete (emptyStatefulset
            { name := "etcd-main", replicas := 3, statusReplicas := 1, serviceName := "etcd-main-peer" })
            none,
          .get ⟨"", "etcd-main"⟩ (.error (.status .notFound "not found"))] st' ∧
      ([] : List Event) = [] ∧ st' obj.key = none := by
  obtain ⟨obj, hobj⟩ : ∃ obj, composeStatefulset ⟨1, 2, 3, "1Gi", "/backup", "v1"⟩
      { name := "etcd-main", replicas := 3, statusReplicas := 1, serviceName := "etcd-main-peer" }
      (emptyStatefulset
        { name := "etcd-main", replicas := 3, statusReplicas := 1, serviceName := "etcd-main-peer" }) =
        some obj := ⟨_, rfl⟩
  have hpos : GenerationsPositive (Function.update (fun _ => none) ⟨"", "etcd-main"⟩
      (some ⟨{ metadata := { name := "etcd-main", generation := 2 }
               spec := { serviceName := "etcd-main-client" } }, false⟩)) := by
    intro key stored h
    rw [Function.update_apply] at h
    split_ifs at h
    cases h
    decide
  have hrun := @runs_deploy_recreate ⟨1, 2, 3, "1Gi", "/backup", "v1"⟩
    { name := "etcd-main", replicas := 3, statusReplicas := 1, serviceName := "etcd-main-peer" } 0
    { metadata := { name := "etcd-main", generation := 2 }, spec := { serviceName := "etcd-main-client" } }
    obj (.status .notFound "not found") none (by decide) rfl hobj
  have ha := @Admits.recreate (Function.update (fun _ => none) ⟨"", "etcd-main"⟩
      (some ⟨{ metadata := { name := "etcd-main", generation := 2 }
               spec := { serviceName := "etcd-main-client" } }, false⟩))
    { name := "etcd-main", replicas := 3, statusReplicas := 1, serviceName := "etcd-main-peer" } _
    (.status .notFound "not found") (Function.update_same _ _ _) rfl
  exact ⟨obj, _, hobj, hpos, hrun, ha, deploy_creates_only_absent hpos hrun
    (show _ = [_, _, _] ++ [_] from rfl) ha⟩

/-- `OpDestroyAndWait` returns nil only when the StatefulSet is gone from the store, and the
platform's own steps do not bring it back. -/
theorem destroyAndWait_success_removed {val : Values} {attempts : Nat} {es : List Event}
    (hrun : Runs (destroyAndWait val attempts) es (.returned none)) (h : Admits st es st') :
    st' (emptyStatefulset val).key = none := by
  obtain ⟨r, rest, rfl, ⟨-, hw⟩ | ⟨err, -, -, hcontra⟩⟩ := runs_destroyAndWait.1 hrun
  · obtain ⟨es₁, err, rfl, hnf⟩ := waitCleanup_success hw
    rw [← List.cons_append] at h
    obtain ⟨_, -, h₂⟩ := Admits.append h
    exact h₂.get_not_found hnf
  · cases hcontra

theorem destroyAndWait_success_removed_of_stored :
    ∃ st', Runs (destroyAndWait { name := "etcd" } 0)
        [.delete (emptyStatefulset { name := "etcd" }) none,
          .get ⟨"", "etcd"⟩ (.error (.status .notFound "not found"))] (.returned none) ∧
      Admits (Function.update (fun _ => none) ⟨"", "etcd"⟩
          (some ⟨emptyStatefulset { name := "etcd" }, false⟩))
        [.delete (emptyStatefulset { name := "etcd" }) none,
          .get ⟨"", "etcd"⟩ (.error (.status .notFound "not found"))] st' ∧
      st' (emptyStatefulset { name := "etcd" }).key = none := by
  have hrun : Runs (destroyAndWait { name := "etcd" } 0)
      [.delete (emptyStatefulset { name := "etcd" }) none,
        .get ⟨"", "etcd"⟩ (.error (.status .notFound "not found"))] (.returned none) :=
    Runs.bind (.delete _ (.pure _)) (Runs.bind (Runs.bind (.get _ (.pure _)) (.pure _)) (.pure _))
  have hadmits : Admits (Function.update (fun _ => none) ⟨"", "etcd"⟩
        (some ⟨emptyStatefulset { name := "etcd" }, false⟩))
      [.delete (emptyStatefulset { name := "etcd" }) none,
        .get ⟨"", "etcd"⟩ (.error (.status .notFound "not found"))] _ :=
    .answer (.delete rfl) (.background (@Background.remove _ ⟨"", "etcd"⟩ _ rfl rfl)
      (.answer (.getNotFound rfl rfl) .done))
  exact ⟨_, hrun, hadmits, destroyAndWait_success_removed hrun hadmits⟩

/-- One call of `Deploy` in a run: its values, its deadline, its calls and its outcome. -/
structure Invocation where
  values : Values
  attempts : Nat
  events : List Event
  outcome : Outcome (Option GoError)

/-- `DeployRun k st runs st'`: the calls of `Deploy` in `runs`, one after the other and each
answered by the platform, take the store from `st` to `st'`. -/
inductive DeployRun (k : Constants) : Store → List Invocation → Store → Prop
  | nil {st} : DeployRun k st [] st
  | cons {st st' st'' i runs} : Runs (deploy k i.values i.attempts) i.events i.outcome →
      Admits st i.events st' → DeployRun k st' runs st'' → DeployRun k st (i :: runs) st''

theorem DeployRun.append {pre runs : List Invocation} (h : DeployRun k st (pre ++ runs) st') :
    ∃ st₁, DeployRun k st pre st₁ ∧ DeployRun k st₁ runs st' := by
  induction pre generalizing st with
  | nil => exact ⟨st, .nil, h⟩
  | cons i pre ih =>
    cases h with
    | cons hrun ha h =>
      obtain ⟨st₁, h₁, h₂⟩ := ih h
      exact ⟨st₁, .cons hrun ha h₁, h₂⟩

/-- Every `Deploy` of service `S` keeps the StatefulSet at `key` absent or named `S`, and so
deletes nothing. -/
theorem DeployRun.keeps {runs : List Invocation} (h : DeployRun k st runs st')
    (hs : ServiceNamed S key st)
    (hv : ∀ i ∈ runs, i.values.serviceName = S ∧ (emptyStatefulset i.values).key = key) :
    (∀ i ∈ runs, ∀ e ∈ i.events, e.isDelete = false) ∧ ServiceNamed S key st' := by
  induction h with
  | nil => exact ⟨by simp, hs⟩
  | @cons _ _ _ i _ hrun ha _ ih =>
    obtain ⟨rfl, rfl⟩ := hv i (List.mem_cons_self _ _)
    obtain ⟨hdel, hs'⟩ := deploy_keeps_serviceNamed hrun ha hs
    obtain ⟨hdel', hs''⟩ := ih hs' fun j hj => hv j (List.mem_cons_of_mem _ hj)
    exact ⟨List.forall_mem_cons.2 ⟨hdel, hdel'⟩, hs''⟩

/-- In a run of `Deploy` calls for one StatefulSet and one service name `S`, once a call
has returned nil no later call deletes, and the StatefulSet is absent or named `S` from
then on: the recreate for the topology migration happens at most until the first success,
however long the observed replica count lags. -/
theorem deployRun_no_delete_after_success {pre post : List Invocation} {i : Invocation}
    (hrun : DeployRun k st (pre ++ i :: post) st')
    (hvals : ∀ j ∈ pre ++ i :: post,
      j.values.serviceName = S ∧ (emptyStatefulset j.values).key = key)
    (hok : i.outcome = .returned none) :
    (∀ j ∈ post, ∀ e ∈ j.events, e.isDelete = false) ∧ ServiceNamed S key st' := by
  obtain ⟨st₁, -, hrest⟩ := DeployRun.append hrun
  cases hrest with
  | cons hi ha hpost =>
    obtain ⟨rfl, rfl⟩ := hvals i (by simp)
    exact hpost.keeps (deploy_success_serviceNamed (hok ▸ hi) ha)
      fun j hj => hvals j (by simp [hj])

/-- The recreate of a StatefulSet of generation two that names the client service, while the
observed replica count still says one: a second `Deploy` with the same values finds the new
object, at generation one, and patches it without deleting. -/
theorem deployRun_no_delete_after_success_of_recreate :
    ∃ i j st', DeployRun ⟨1, 2, 3, "1Gi", "/backup", "v1"⟩
        (Function.update (fun _ => none) ⟨"", "etcd-main"⟩
          (some ⟨{ metadata := { name := "etcd-main", generation := 2 }
                   spec := { serviceName := "etcd-main-client" } }, false⟩))
        ([] ++ i :: [j]) st' ∧
      i.values =
        { name := "etcd-main", replicas := 3, statusReplicas := 1, serviceName := "etcd-main-peer" } ∧
      j.values = i.values ∧ (∃ e ∈ i.events, e.isDelete = true) ∧ i.outcome = .returned none ∧
      (∀ j' ∈ [j], ∀ e ∈ j'.events, e.isDelete = false) ∧
      ServiceNamed "etcd-main-peer" ⟨"", "etcd-main"⟩ st' := by
  obtain ⟨obj, hobj⟩ : ∃ obj, composeStatefulset ⟨1, 2, 3, "1Gi", "/backup", "v1"⟩
      { name := "etcd-main", replicas := 3, statusReplicas := 1, serviceName := "etcd-main-peer" }
      (emptyStatefulset
        { name := "etcd-main", replicas := 3, statusReplicas := 1, serviceName := "etcd-main-peer" }) =
        some obj := ⟨_, rfl⟩
  have hkey : obj.key = ⟨"", "etcd-main"⟩ := (composeStatefulset_key hobj).1
  obtain ⟨obj', hobj', -⟩ := composeStatefulset_spec_eq hobj (created obj)
  have hkey' : obj'.key = ⟨"", "etcd-main"⟩ := (composeStatefulset_key hobj').1
  -- the first `Deploy` recreates the object
  have hrun₁ := @runs_deploy_recreate ⟨1, 2, 3, "1Gi", "/backup", "v1"⟩
    { name := "etcd-main", replicas := 3, statusReplicas := 1, serviceName := "etcd-main-peer" } 0
    { metadata := { name := "etcd-main", generation := 2 }
      spec := { serviceName := "etcd-main-client" } }
    obj (.status .notFound "not found") none (by decide) rfl hobj
  have ha₁ := (@Admits.recreate (Function.update (fun _ => none) ⟨"", "etcd-main"⟩
      (some ⟨{ metadata := { name := "etcd-main", generation := 2 }
               spec := { serviceName := "etcd-main-client" } }, false⟩))
    { name := "etcd-main", replicas := 3, statusReplicas := 1, serviceName := "etcd-main-peer" } _
    (.status .notFound "not found") (Function.update_same _ _ _) rfl).trans
      (.answer (.create (by rw [hkey]; exact Function.update_same _ _ _)) .done)
  -- the second finds the created object, of generation one, and patches it
  have hrun₂ : Runs (deploy ⟨1, 2, 3, "1Gi", "/backup", "v1"⟩
      { name := "etcd-main", replicas := 3, statusReplicas := 1, serviceName := "etcd-main-peer" } 0)
      [.get ⟨"", "etcd-main"⟩ (.ok (created obj)), .patch obj' (created obj) none] (.returned none) :=
    (runs_deploy_found (by simp [recreates, created])).2
      ((runs_syncStatefulset_patch hobj' (by simp [created])).2 ⟨none, rfl, rfl⟩)
  obtain ⟨_, hrun⟩ : ∃ st', DeployRun ⟨1, 2, 3, "1Gi", "/backup", "v1"⟩
      (Function.update (fun _ => none) ⟨"", "etcd-main"⟩
        (some ⟨{ metadata := { name := "etcd-main", generation := 2 }
                 spec := { serviceName := "etcd-main-client" } }, false⟩))
      ([] ++
        ⟨{ name := "etcd-main", replicas := 3, statusReplicas := 1, serviceName := "etcd-main-peer" }, 0,
          [.get ⟨"", "etcd-main"⟩ (.ok { metadata := { name := "etcd-main", generation := 2 }
                                         spec := { serviceName := "etcd-main-client" } }),
            .delete (emptyStatefulset { name := "etcd-main", replicas := 3, statusReplicas := 1
                                        serviceName := "etcd-main-peer" }) none,
            .get ⟨"", "etcd-main"⟩ (.error (.status .notFound "not found")), .create obj none],
          .returned none⟩ ::
        [⟨{ name := "etcd-main", replicas := 3, statusReplicas := 1, serviceName := "etcd-main-peer" }, 0,
          [.get ⟨"", "etcd-main"⟩ (.ok (created obj)), .patch obj' (created obj) none],
          .returned none⟩]) st' := by
    refine ⟨_, .cons hrun₁ ha₁ (.cons hrun₂ (.answer (@Answers.getFound _ _ ⟨created obj, false⟩ ?_)
      (.answer (@Answers.patch _ obj' (created obj) ⟨created obj, false⟩ ?_) .done)) .nil)⟩
    · rw [← hkey]; exact Function.update_same _ _ _
    · rw [hkey', ← hkey]; exact Function.update_same _ _ _
  exact ⟨_, _, _, hrun, rfl, rfl, ⟨_, List.mem_cons_of_mem _ (List.mem_cons_self _ _), rfl⟩, rfl,
    deployRun_no_delete_after_success hrun (by simp [emptyStatefulset, StatefulSet.key]) rfl⟩

end EtcdDruid
