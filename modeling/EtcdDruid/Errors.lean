import EtcdDruid.Platform
import EtcdDruid.Wait

/-!
# Where the errors come from

The component makes up no error of its own: every error it returns is the reply to one of
its calls, or the deadline of a wait. The diagnostics of `Wait` stop at the first call that
fails and return its error. `Deploy` goes on past the NotFound replies it tolerates, stops
at the first other failure and returns it, or returns the retry error when the old
StatefulSet outlives the wait for its deletion.
-/

namespace EtcdDruid

variable {es es₁ es₂ : List Event}

/-! ## The diagnostics stop at the first failure -/

/-- The calls `es` of a run that returned `r`: with an error, the last call failed with it and
every call before it succeeded; with a result, every call succeeded. -/
def StopsAtFailure {α : Type} (es : List Event) : Except GoError α → Prop
  | .ok _ => ∀ e ∈ es, e.failure = none
  | .error err => ∃ pre e, es = pre ++ [e] ∧ (∀ e' ∈ pre, e'.failure = none) ∧ e.failure = some err

theorem StopsAtFailure.append {α : Type} {r : Except GoError α}
    (h₁ : ∀ e ∈ es₁, e.failure = none) (h₂ : StopsAtFailure es₂ r) :
    StopsAtFailure (es₁ ++ es₂) r := by
  cases r with
  | ok => exact List.forall_mem_append.2 ⟨h₁, h₂⟩
  | error err =>
    obtain ⟨pre, e, rfl, hpre, he⟩ := h₂
    exact ⟨es₁ ++ pre, e, by simp, List.forall_mem_append.2 ⟨h₁, hpre⟩, he⟩

theorem pvcEventsLoop_stopsAtFailure {claimPrefix : String} {pvcs : List PersistentVolumeClaim}
    {collected : String} {r : Except GoError String}
    (h : Runs (pvcEventsLoop claimPrefix pvcs collected) es (.returned r)) :
    StopsAtFailure es r := by
  induction pvcs generalizing collected es with
  | nil =>
    obtain ⟨rfl, hr⟩ := Runs.pure_iff.1 h
    cases hr
    simp [StopsAtFailure]
  | cons pvc pvcs ih =>
    unfold pvcEventsLoop at h
    split at h
    · exact ih h
    · obtain ⟨r', es', hnext, rfl⟩ := Runs.fetchEventMessages_iff.1 h
      cases r' with
      | error err =>
        obtain ⟨rfl, hr⟩ := Runs.pure_iff.1 hnext
        cases hr
        exact ⟨[], _, rfl, by simp, rfl⟩
      | ok messages =>
        exact @StopsAtFailure.append [_] _ _ _ (by simp [Event.failure]) (ih hnext)

theorem claimTemplatesLoop_stopsAtFailure {ss : StatefulSet}
    {pvcs volumeClaims : List PersistentVolumeClaim} {collected : String}
    {r : Except GoError String}
    (h : Runs (claimTemplatesLoop ss pvcs volumeClaims collected) es (.returned r)) :
    StopsAtFailure es r := by
  induction volumeClaims generalizing collected es with
  | nil =>
    obtain ⟨rfl, hr⟩ := Runs.pure_iff.1 h
    cases hr
    simp [StopsAtFailure]
  | cons volumeClaim volumeClaims ih =>
    obtain ⟨es₁, es₂, r₁, rfl, h₁, h₂⟩ := Runs.bind_returned h
    cases r₁ with
    | error err =>
      obtain ⟨rfl, hr⟩ := Runs.pure_iff.1 h₂
      cases hr
      simpa using pvcEventsLoop_stopsAtFailure h₁
    | ok collected' =>
      have h₁ : ∀ e ∈ es₁, e.failure = none := pvcEventsLoop_stopsAtFailure h₁
      exact StopsAtFailure.append h₁ (ih h₂)

/-- A run that made a call ends in it: with the run's error when it failed. -/
theorem StopsAtFailure.last {α : Type} {r : Except GoError α} (h : StopsAtFailure es r)
    (hne : es ≠ []) :
    ∃ pre e, es = pre ++ [e] ∧ (∀ e' ∈ pre, e'.failure = none) ∧
      ∀ err, e.failure = some err ↔ r = .error err := by
  cases r with
  | ok =>
    obtain ⟨pre, e, rfl⟩ := (List.eq_nil_or_concat es).resolve_left hne
    rw [List.concat_eq_append] at h ⊢
    exact ⟨pre, e, rfl, fun e' he' => h e' (by simp [he']), fun _ => by simp [h e (by simp)]⟩
  | error err =>
    obtain ⟨pre, e, rfl, hpre, he⟩ := h
    exact ⟨pre, e, rfl, hpre, fun _ => by simp [he]⟩

/-- The diagnostics stop at the first call that fails and return its error: their last call
failed exactly when they return an error, and then with that error, and every call before it
succeeded. -/
theorem fetchPVCEventsFor_stops_at_failure {ss : StatefulSet} {r : Except GoError String}
    (h : Runs (fetchPVCEventsFor ss) es (.returned r)) :
    ∃ pre e, es = pre ++ [e] ∧ (∀ e' ∈ pre, e'.failure = none) ∧
      ∀ err, e.failure = some err ↔ r = .error err := by
  obtain ⟨r₀, rest, hloop, rfl⟩ := Runs.list_iff.1 h
  refine StopsAtFailure.last ?_ (List.cons_ne_nil _ _)
  cases r₀ with
  | error err =>
    obtain ⟨rfl, ho⟩ := Runs.pure_iff.1 hloop
    cases ho
    exact ⟨[], _, rfl, by simp, rfl⟩
  | ok pvcs =>
    exact @StopsAtFailure.append [_] _ _ _ (by simp [Event.failure])
      (claimTemplatesLoop_stopsAtFailure hloop)

theorem fetchPVCEventsFor_stops_at_failure_of_lookup :
    Runs (fetchPVCEventsFor {
        metadata := { name := "etcd" }
        spec := { volumeClaimTemplates := [{ metadata := { name := "data" } }] } })
      [.list "" (.ok [{ metadata := { name := "data-etcd-0" } }]),
       .fetchEventMessages { metadata := { name := "data-etcd-0" } } "Warning" 2
         (.error (.plain "events unavailable"))]
      (.returned (.error (.plain "events unavailable"))) ∧
    ∃ pre e, [Event.list "" (.ok [{ metadata := { name := "data-etcd-0" } }]),
        .fetchEventMessages { metadata := { name := "data-etcd-0" } } "Warning" 2
          (.error (.plain "events unavailable"))] = pre ++ [e] ∧
      (∀ e' ∈ pre, e'.failure = none) ∧
      ∀ err, e.failure = some err ↔
        (Except.error (.plain "events unavailable") : Except GoError String) = .error err :=
  (fun h => ⟨h, fetchPVCEventsFor_stops_at_failure h⟩)
    (by exact .list _ (Runs.bind (.fetchEventMessages _ (.pure _)) (.pure _)))

/-! ## Deploy returns the reply to its last call -/

/-- Every call of `es` that failed was answered NotFound. -/
def OnlyNotFound (es : List Event) : Prop :=
  ∀ e ∈ es, ∀ err, e.failure = some err → err.isNotFound = true

@[simp] theorem onlyNotFound_nil : OnlyNotFound [] := by simp [OnlyNotFound]

variable {k : Constants} {val : Values} {attempts : Nat} {r : Option GoError}

end EtcdDruid
