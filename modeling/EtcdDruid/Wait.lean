import EtcdDruid.Retry
import EtcdDruid.Compose

/-!
# Wait and the claim diagnostics

`Wait` polls until the StatefulSet is ready. When the poll fails, it lists the claims of
the namespace and appends the warning events of those that belong to the StatefulSet's
claim templates by name prefix and are not bound. The diagnostics are best effort: when
they fail, the poll's error is returned as it is.
-/

namespace EtcdDruid

/-- `strings.HasPrefix(s, pfx)`. -/
def hasPrefix (s pfx : String) : Bool := pfx.data.isPrefixOf s.data

/-- The block `fetchPVCEventsFor` appends for one claim with warning messages. -/
def pvcWarning (pvc : PersistentVolumeClaim) (messages : String) : String :=
  "Warning for PVC " ++ pvc.metadata.name ++ ":\n" ++ messages ++ "\n"

/-- The inner loop of `fetchPVCEventsFor`: the listed claims, for one claim template whose
claims are prefixed by `claimPrefix`, with the messages collected so far. A failed event
lookup ends the whole function with its error. -/
def pvcEventsLoop (claimPrefix : String) :
    List PersistentVolumeClaim → String → Client (Except GoError String)
  | [], collected => .pure (.ok collected)
  | pvc :: pvcs, collected =>
    if !hasPrefix pvc.metadata.name claimPrefix || pvc.phase == "Bound" then
      pvcEventsLoop claimPrefix pvcs collected
    else
      .fetchEventMessages pvc "Warning" 2 fun
        | .error err => .pure (.error err)
        | .ok messages => pvcEventsLoop claimPrefix pvcs
            (if messages != "" then collected ++ pvcWarning pvc messages else collected)

/-- The outer loop of `fetchPVCEventsFor`, over the claim templates of `ss`. -/
def claimTemplatesLoop (ss : StatefulSet) (pvcs : List PersistentVolumeClaim) :
    List PersistentVolumeClaim → String → Client (Except GoError String)
  | [], collected => .pure (.ok collected)
  | volumeClaim :: volumeClaims, collected =>
    (pvcEventsLoop (volumeClaim.metadata.name ++ "-" ++ ss.metadata.name) pvcs collected).bind fun
      | .error err => .pure (.error err)
      | .ok collected => claimTemplatesLoop ss pvcs volumeClaims collected

def fetchPVCEventsFor (ss : StatefulSet) : Client (Except GoError String) :=
  .list ss.metadata.namespace fun
    | .error err => .pure (.error err)
    | .ok pvcs => claimTemplatesLoop ss pvcs ss.spec.volumeClaimTemplates ""

/-- Modelled from the spec: `utils.CheckStatefulSet` is not under src/. Section 4.4 calls a
StatefulSet ready when its ready replicas equal the desired count and the rollout is
finished: the controller observed the current generation and every replica runs the
update revision. -/
def checkStatefulSet (replicas : Int) (sts : StatefulSet) : Option GoError :=
  if sts.status.observedGeneration < sts.metadata.generation then
    some (.plain "observed generation outdated")
  else if sts.status.readyReplicas ≠ replicas then some (.plain "not enough ready replicas")
  else if sts.status.currentRevision ≠ sts.status.updateRevision then
    some (.plain "StatefulSet not updated for all replicas")
  else none

/-- What the poll of `Wait` reports on its `Get`'s reply, with the object the `Get` read
into: NotFound is minor, another error severe, an object not ready minor. -/
def waitResult (val : Values) (sts : StatefulSet) :
    Except GoError StatefulSet → StatefulSet × Bool × Option GoError
  | .error err => (sts, !err.isNotFound, some err)
  | .ok fetched =>
    match checkStatefulSet val.replicas fetched with
    | some err => (fetched, false, some err)
    | none => (fetched, true, none)

def waitPoll (val : Values) (sts : StatefulSet) : Client (StatefulSet × Bool × Option GoError) :=
  .get sts.key fun r => .pure (waitResult val sts r)

/-- What `Wait` returns after its poll failed with `err` on the object `sts` it read last. -/
def waitFailed (sts : StatefulSet) (err : GoError) : Client (Option GoError) :=
  (fetchPVCEventsFor sts).bind fun
    | .error err2 =>
      -- fetching events is best effort and must not be confused with the actual error
      .logError err2 "Error while fetching events for depending PVC" (.pure (some err))
    | .ok messages => .pure (some (if messages != "" then err.wrapMessages messages else err))

def wait (val : Values) (attempts : Nat) : Client (Option GoError) :=
  (untilTimeout (waitPoll val) attempts (emptyStatefulset val) none).bind fun
    | (_, none) => .pure none
    | (sts, some err) => waitFailed sts err

/-! ## The diagnostics always return -/

theorem pvcEventsLoop_not_panicked {claimPrefix : String} {pvcs : List PersistentVolumeClaim}
    {collected : String} {es : List Event} :
    ¬ Runs (pvcEventsLoop claimPrefix pvcs collected) es .panicked := by
  induction pvcs generalizing collected es with
  | nil => simp [pvcEventsLoop]
  | cons pvc pvcs ih =>
    unfold pvcEventsLoop
    split
    · exact ih
    · simp only [Runs.fetchEventMessages_iff, not_exists, not_and]
      rintro (err | messages) es' h -
      · simp at h
      · exact ih h

theorem claimTemplatesLoop_not_panicked {ss : StatefulSet} {pvcs volumeClaims : List PersistentVolumeClaim}
    {collected : String} {es : List Event} :
    ¬ Runs (claimTemplatesLoop ss pvcs volumeClaims collected) es .panicked := by
  induction volumeClaims generalizing collected es with
  | nil => simp [claimTemplatesLoop]
  | cons volumeClaim volumeClaims ih =>
    intro h
    rcases Runs.of_bind h with ⟨_, _, (err | collected'), -, -, h₂⟩ | ⟨h₁, -⟩
    · simp at h₂
    · exact ih h₂
    · exact pvcEventsLoop_not_panicked h₁

theorem fetchPVCEventsFor_not_panicked {ss : StatefulSet} {es : List Event} :
    ¬ Runs (fetchPVCEventsFor ss) es .panicked := by
  simp only [fetchPVCEventsFor, Runs.list_iff, not_exists, not_and]
  rintro (err | pvcs) es' h -
  · simp at h
  · exact claimTemplatesLoop_not_panicked h

/-! ## Which claims the diagnostics look at -/

/-- The inner loop looks up the events only of claims of its list that carry its prefix and
are not bound. -/
theorem pvcEventsLoop_lookups {claimPrefix : String} {pvcs : List PersistentVolumeClaim}
    {collected : String} {es : List Event} {o : Outcome (Except GoError String)}
    (h : Runs (pvcEventsLoop claimPrefix pvcs collected) es o) :
    ∀ e ∈ es, ∃ pvc r, e = .fetchEventMessages pvc "Warning" 2 r ∧ pvc ∈ pvcs ∧
      pvc.phase ≠ "Bound" ∧ hasPrefix pvc.metadata.name claimPrefix = true := by
  induction pvcs generalizing collected es with
  | nil =>
    simp only [pvcEventsLoop, Runs.pure_iff] at h
    simp [h.1]
  | cons pvc pvcs ih =>
    have tail : ∀ {es' collected'}, Runs (pvcEventsLoop claimPrefix pvcs collected') es' o →
        ∀ e ∈ es', ∃ pvc' r, e = .fetchEventMessages pvc' "Warning" 2 r ∧ pvc' ∈ pvc :: pvcs ∧
          pvc'.phase ≠ "Bound" ∧ hasPrefix pvc'.metadata.name claimPrefix = true :=
      fun h e he => by
        obtain ⟨pvc', r, rfl, hmem, hrest⟩ := ih h e he
        exact ⟨pvc', r, rfl, List.mem_cons_of_mem _ hmem, hrest⟩
    unfold pvcEventsLoop at h
    split at h
    case isTrue => exact tail h
    case isFalse hkeep =>
      simp only [Bool.or_eq_true, Bool.not_eq_true', beq_iff_eq, not_or, Bool.not_eq_false] at hkeep
      obtain ⟨r, es', hnext, rfl⟩ := Runs.fetchEventMessages_iff.1 h
      refine List.forall_mem_cons.2 ⟨⟨pvc, r, rfl, List.mem_cons_self _ _, hkeep.2, hkeep.1⟩, ?_⟩
      cases r with
      | error err => simp [(Runs.pure_iff.1 hnext).1]
      | ok messages => exact tail hnext

/-- The outer loop looks up the events only of claims of the listing that carry the prefix
of one of its templates and are not bound. -/
theorem claimTemplatesLoop_lookups {ss : StatefulSet} {pvcs volumeClaims : List PersistentVolumeClaim}
    {collected : String} {es : List Event} {o : Outcome (Except GoError String)}
    (h : Runs (claimTemplatesLoop ss pvcs volumeClaims collected) es o) :
    ∀ e ∈ es, ∃ pvc r, e = .fetchEventMessages pvc "Warning" 2 r ∧ pvc ∈ pvcs ∧
      pvc.phase ≠ "Bound" ∧ ∃ volumeClaim ∈ volumeClaims,
        hasPrefix pvc.metadata.name (volumeClaim.metadata.name ++ "-" ++ ss.metadata.name) = true := by
  induction volumeClaims generalizing collected es with
  | nil =>
    simp only [claimTemplatesLoop, Runs.pure_iff] at h
    simp [h.1]
  | cons volumeClaim volumeClaims ih =>
    rcases Runs.of_bind h with ⟨es₁, es₂, r, rfl, h₁, h₂⟩ | ⟨h₁, -⟩
    · intro e he
      rcases List.mem_append.1 he with he | he
      · obtain ⟨pvc, r, rfl, hmem, hb, hp⟩ := pvcEventsLoop_lookups h₁ e he
        exact ⟨pvc, r, rfl, hmem, hb, volumeClaim, List.mem_cons_self _ _, hp⟩
      · cases r with
        | error err => simp [(Runs.pure_iff.1 h₂).1] at he
        | ok collected' =>
          obtain ⟨pvc, r, rfl, hmem, hb, vc, hvc, hp⟩ := ih h₂ e he
          exact ⟨pvc, r, rfl, hmem, hb, vc, List.mem_cons_of_mem _ hvc, hp⟩
    · exact absurd h₁ pvcEventsLoop_not_panicked

/-- The diagnostics list the claims of the namespace once, and then look up the events only
of listed claims that are not bound and carry the prefix `<template>-<ss.Name>` of one of
the claim templates of `ss`. -/
theorem fetchPVCEventsFor_lookups {ss : StatefulSet} {es : List Event}
    {o : Outcome (Except GoError String)} (h : Runs (fetchPVCEventsFor ss) es o) :
    ∃ r rest, es = .list ss.metadata.namespace r :: rest ∧
      ∀ e ∈ rest, ∃ pvcs pvc r', r = .ok pvcs ∧ e = .fetchEventMessages pvc "Warning" 2 r' ∧
        pvc ∈ pvcs ∧ pvc.phase ≠ "Bound" ∧ ∃ volumeClaim ∈ ss.spec.volumeClaimTemplates,
          hasPrefix pvc.metadata.name (volumeClaim.metadata.name ++ "-" ++ ss.metadata.name) = true := by
  obtain ⟨r, rest, hloop, rfl⟩ := Runs.list_iff.1 h
  refine ⟨r, rest, rfl, fun e he => ?_⟩
  cases r with
  | error err => simp [(Runs.pure_iff.1 hloop).1] at he
  | ok pvcs =>
    obtain ⟨pvc, r', rfl, hrest⟩ := claimTemplatesLoop_lookups hloop e he
    exact ⟨pvcs, pvc, r', rfl, rfl, hrest⟩

theorem fetchPVCEventsFor_lookups_of_listing :
    Runs (fetchPVCEventsFor {
        metadata := { name := "etcd" }
        spec := { volumeClaimTemplates := [{ metadata := { name := "data" } }] } })
      [.list "" (.ok [{ metadata := { name := "data-etcd-0" } }]),
       .fetchEventMessages { metadata := { name := "data-etcd-0" } } "Warning" 2 (.ok "no volume")]
      (.returned (.ok "Warning for PVC data-etcd-0:\nno volume\n")) ∧
    ∃ r rest, [Event.list "" (.ok [{ metadata := { name := "data-etcd-0" } }]),
        .fetchEventMessages { metadata := { name := "data-etcd-0" } } "Warning" 2 (.ok "no volume")] =
        .list "" r :: rest ∧
      ∀ e ∈ rest, ∃ pvcs pvc r', r = .ok pvcs ∧ e = .fetchEventMessages pvc "Warning" 2 r' ∧
        pvc ∈ pvcs ∧ pvc.phase ≠ "Bound" ∧
        ∃ volumeClaim ∈ ([{ metadata := { name := "data" } }] : List PersistentVolumeClaim),
          hasPrefix pvc.metadata.name (volumeClaim.metadata.name ++ "-" ++ "etcd") = true :=
  (fun h => ⟨h, fetchPVCEventsFor_lookups h⟩)
    (by exact .list _ (Runs.bind (.fetchEventMessages _ (.pure _)) (.pure _)))

/-! ## What the diagnostics report -/

variable {val : Values} {attempts : Nat} {es : List Event} {o : Outcome (Option GoError)}

theorem waitFailed_keeps {sts : StatefulSet} {err : GoError} (h : Runs (waitFailed sts err) es o) :
    o = .returned (some err) ∨
      ∃ messages, Runs (fetchPVCEventsFor sts) es (.returned (.ok messages)) ∧ messages ≠ "" ∧
        o = .returned (some (err.wrapMessages messages)) := by
  rcases Runs.of_bind h with ⟨es₁, es₂, (err2 | messages), rfl, h₁, h₂⟩ | ⟨h₁, -⟩
  · obtain ⟨_, h₂, -⟩ := Runs.logError_iff.1 h₂
    exact .inl (Runs.pure_iff.1 h₂).2
  · obtain ⟨rfl, rfl⟩ := Runs.pure_iff.1 h₂
    by_cases hm : messages = ""
    · simp [hm]
    · exact .inr ⟨messages, by simpa using h₁, hm, by simp [hm]⟩
  · exact absurd h₁ fetchPVCEventsFor_not_panicked

theorem waitPoll_not_panicked (sts : StatefulSet) (es : List Event) :
    ¬ Runs (waitPoll val sts) es .panicked := by
  simp [waitPoll]

/-- `Wait` returns nil exactly when its poll did. Otherwise it returns the poll's error, or,
when the diagnostics found warnings, an error that wraps the poll's error and whose text is
the poll error's text, a blank line and the warnings. A failure of the diagnostics never
replaces the poll's error. -/
theorem wait_keeps_poll_error (h : Runs (wait val attempts) es o) :
    ∃ es₁ es₂ sts pollErr, es = es₁ ++ es₂ ∧
      Runs (untilTimeout (waitPoll val) attempts (emptyStatefulset val) none) es₁
        (.returned (sts, pollErr)) ∧
      ((pollErr = none ∧ o = .returned none) ∨
        ∃ err, pollErr = some err ∧
          (o = .returned (some err) ∨
            ∃ messages e, Runs (fetchPVCEventsFor sts) es₂ (.returned (.ok messages)) ∧
              messages ≠ "" ∧ o = .returned (some e) ∧ e.Is err ∧
              e.text = err.text ++ "\n\n" ++ messages)) := by
  rcases Runs.of_bind h with ⟨es₁, es₂, ⟨sts, pollErr⟩, rfl, h₁, h₂⟩ | ⟨h₁, -⟩
  · refine ⟨es₁, es₂, sts, pollErr, rfl, h₁, ?_⟩
    cases pollErr with
    | none => exact .inl ⟨rfl, (Runs.pure_iff.1 h₂).2⟩
    | some err =>
      refine .inr ⟨err, rfl, ?_⟩
      rcases waitFailed_keeps h₂ with ho | ⟨messages, hf, hm, ho⟩
      · exact .inl ho
      · exact .inr ⟨messages, _, hf, hm, ho, err.wrapMessages_is messages, rfl⟩
  · exact absurd h₁ (untilTimeout_not_panicked (waitPoll_not_panicked))

theorem wait_keeps_poll_error_of_timeout :
    ∃ es o, Runs (wait { name := "etcd" } 0) es o ∧
      ∃ es₁ es₂ sts pollErr, es = es₁ ++ es₂ ∧
        Runs (untilTimeout (waitPoll { name := "etcd" }) 0 (emptyStatefulset { name := "etcd" }) none)
          es₁ (.returned (sts, pollErr)) ∧
        ((pollErr = none ∧ o = .returned none) ∨
          ∃ err, pollErr = some err ∧
            (o = .returned (some err) ∨
              ∃ messages e, Runs (fetchPVCEventsFor sts) es₂ (.returned (.ok messages)) ∧
                messages ≠ "" ∧ o = .returned (some e) ∧ e.Is err ∧
                e.text = err.text ++ "\n\n" ++ messages)) := by
  have hpoll : Runs (untilTimeout (waitPoll { name := "etcd" }) 0 (emptyStatefulset { name := "etcd" }) none)
      [.get ⟨"", "etcd"⟩ (.error (.status .notFound "not found"))]
      (.returned (emptyStatefulset { name := "etcd" },
        some (retryError (some (.status .notFound "not found"))))) :=
    Runs.bind (.get _ (.pure _)) (.pure _)
  have hfetch : Runs (fetchPVCEventsFor (emptyStatefulset { name := "etcd" })) [.list "" (.ok [])]
      (.returned (.ok "")) := .list _ (.pure _)
  exact ⟨_, _, Runs.bind hpoll (Runs.bind hfetch (.pure _)), wait_keeps_poll_error
    (Runs.bind hpoll (Runs.bind hfetch (.pure _)))⟩

/-! ## The state of the poll loop

The poll's closure `Get`s into the one `sts` of `Wait`: a `Get` that finds the StatefulSet
overwrites it, a failed one leaves it as it was, and the next poll asks for the key of what
is there. -/

/-- The object the poll's `Get`s leave in `sts`: the one the last `Get` that found the
StatefulSet read, or `init` when none did. -/
def lastFound (init : StatefulSet) : List Event → StatefulSet
  | [] => init
  | .get _ (.ok sts) :: es => lastFound sts es
  | _ :: es => lastFound init es

/-- Every `Get` of the calls asks for the key of the object the calls before it left in
`sts`, starting from `s`. -/
def GetsLastFound : StatefulSet → List Event → Prop
  | _, [] => True
  | s, .get key r :: es => key = s.key ∧ GetsLastFound (lastFound s [.get key r]) es
  | s, _ :: es => GetsLastFound s es

theorem lastFound_append (s : StatefulSet) (es₁ es₂ : List Event) :
    lastFound s (es₁ ++ es₂) = lastFound (lastFound s es₁) es₂ := by
  induction es₁ generalizing s with
  | nil => rfl
  | cons e es₁ ih =>
    cases e with
    | get key r => cases r <;> exact ih _
    | _ => exact ih _

theorem getsLastFound_append {s : StatefulSet} {es₁ es₂ : List Event} :
    GetsLastFound s (es₁ ++ es₂) ↔ GetsLastFound s es₁ ∧ GetsLastFound (lastFound s es₁) es₂ := by
  induction es₁ generalizing s with
  | nil => simp [GetsLastFound, lastFound]
  | cons e es₁ ih =>
    cases e with
    | get key r => cases r <;> simp [GetsLastFound, lastFound, ih, and_assoc]
    | _ => exact ih

/-- When every `Get` that found an object found one under the key it asked for, the polls
keep to one key: the initial object's. -/
theorem getsLastFound_get_key {s : StatefulSet} {es : List Event} (hg : GetsLastFound s es)
    (hown : ∀ key sts, Event.get key (.ok sts) ∈ es → sts.key = key) :
    ∀ key r, Event.get key r ∈ es → key = s.key := by
  induction es generalizing s with
  | nil => simp
  | cons e es ih =>
    have htail : ∀ key sts, Event.get key (.ok sts) ∈ es → sts.key = key :=
      fun key sts h => hown key sts (List.mem_cons_of_mem _ h)
    intro key r he
    cases e with
    | get key' r' =>
      obtain ⟨rfl, hg⟩ := hg
      -- what the first `Get` left in `sts` has the key it asked for
      have hs : (lastFound s [.get s.key r']).key = s.key := by
        cases r' with
        | error => rfl
        | ok sts => exact hown _ sts (List.mem_cons_self _ _)
      rcases List.mem_cons.1 he with he | he
      · cases he; rfl
      · exact hs ▸ ih hg htail key r he
    | _ =>
      rcases List.mem_cons.1 he with he | he
      · cases he
      · exact ih hg htail key r he

theorem runs_waitPoll {sts : StatefulSet} {o : Outcome (StatefulSet × Bool × Option GoError)} :
    Runs (waitPoll val sts) es o ↔
      ∃ r, o = .returned (waitResult val sts r) ∧ es = [.get sts.key r] := by
  simp [waitPoll, and_assoc]

/-- One poll asks for the key of `sts` and leaves in it what its `Get` found. -/
theorem waitPoll_state {sts s' : StatefulSet} {done : Bool} {err : Option GoError}
    (h : Runs (waitPoll val sts) es (.returned (s', done, err))) :
    s' = lastFound sts es ∧ GetsLastFound sts es := by
  obtain ⟨r, hr, rfl⟩ := runs_waitPoll.1 h
  have hs : s' = (waitResult val sts r).1 := congrArg Prod.fst (Outcome.returned.inj hr)
  refine ⟨hs.trans ?_, rfl, trivial⟩
  cases r with
  | error => rfl
  | ok fetched => simp only [waitResult]; split <;> rfl

/-- Over the whole loop, `sts` holds what the last `Get` that found the StatefulSet read, and
every poll asked for the key of what `sts` held. -/
theorem waitLoop_state {n : Nat} {s s' : StatefulSet} {minorErr err : Option GoError}
    (h : Runs (untilTimeout (waitPoll val) n s minorErr) es (.returned (s', err))) :
    s' = lastFound s es ∧ GetsLastFound s es := by
  induction n generalizing s minorErr es with
  | zero =>
    rcases runs_afterPoll h with ⟨_, _, h₁, h₂⟩ | ⟨es₁, es₂, _, _, rfl, h₁, h₂⟩ | ⟨-, h₂⟩
    · cases h₂; exact waitPoll_state h₁
    · obtain ⟨rfl, h₂⟩ := Runs.pure_iff.1 h₂
      cases h₂
      simpa using waitPoll_state h₁
    · cases h₂
  | succ n ih =>
    rcases runs_afterPoll h with ⟨_, _, h₁, h₂⟩ | ⟨es₁, es₂, _, _, rfl, h₁, h₂⟩ | ⟨-, h₂⟩
    · cases h₂; exact waitPoll_state h₁
    · obtain ⟨rfl, hget₁⟩ := waitPoll_state h₁
      obtain ⟨rfl, hget₂⟩ := ih h₂
      exact ⟨(lastFound_append _ _ _).symm, getsLastFound_append.2 ⟨hget₁, hget₂⟩⟩
    · cases h₂

/-- The failure handling of `Wait` gets nothing: it lists claims, looks up events and logs. -/
theorem waitFailed_no_get {sts : StatefulSet} {err : GoError} (h : Runs (waitFailed sts err) es o)
    (key : ObjectKey) (r : Except GoError StatefulSet) : Event.get key r ∉ es := by
  have hfetch : ∀ {es' o'}, Runs (fetchPVCEventsFor sts) es' o' → Event.get key r ∉ es' :=
    fun h he => by
      obtain ⟨_, rest, rfl, hrest⟩ := fetchPVCEventsFor_lookups h
      rcases List.mem_cons.1 he with he | he
      · cases he
      · obtain ⟨_, _, _, -, he', -⟩ := hrest _ he
        cases he'
  rcases Runs.of_bind h with ⟨es₁, es₂, r', rfl, h₁, h₂⟩ | ⟨h₁, -⟩
  · rw [List.mem_append, not_or]
    refine ⟨hfetch h₁, ?_⟩
    cases r' with
    | error =>
      obtain ⟨_, h₃, rfl⟩ := Runs.logError_iff.1 h₂
      simp [(Runs.pure_iff.1 h₃).1]
    | ok => simp [(Runs.pure_iff.1 h₂).1]
  · exact hfetch h₁

/-- On a platform whose `Get` finds an object only under the key asked for, every `Get` of
`Wait` asks for the values' key. -/
theorem wait_gets_values_key (h : Runs (wait val attempts) es o)
    (hown : ∀ key sts, Event.get key (.ok sts) ∈ es → sts.key = key) :
    ∀ key r, Event.get key r ∈ es → key = (emptyStatefulset val).key := by
  rcases Runs.of_bind h with ⟨es₁, es₂, ⟨sts, pollErr⟩, rfl, h₁, h₂⟩ | ⟨h₁, -⟩
  · intro key r he
    rcases List.mem_append.1 he with he | he
    · exact getsLastFound_get_key (waitLoop_state h₁).2
        (fun key sts h => hown key sts (List.mem_append_left _ h)) key r he
    · cases pollErr with
      | none => simp [(Runs.pure_iff.1 h₂).1] at he
      | some err => exact absurd he (waitFailed_no_get h₂ key r)
  · exact absurd h₁ (untilTimeout_not_panicked waitPoll_not_panicked)

/-- A `Wait` that returns nil: its last call is a `Get`, of the key of what `sts` held, that
found the StatefulSet ready. -/
theorem wait_returned_none (h : Runs (wait val attempts) es (.returned none)) :
    ∃ es₁ sts, es = es₁ ++ [.get (lastFound (emptyStatefulset val) es₁).key (.ok sts)] ∧
      GetsLastFound (emptyStatefulset val) es ∧ checkStatefulSet val.replicas sts = none := by
  obtain ⟨es₁, es₂, ⟨sts, pollErr⟩, rfl, h₁, h₂⟩ := Runs.bind_returned h
  cases pollErr with
  | some err => rcases waitFailed_keeps h₂ with h | ⟨_, -, -, h⟩ <;> cases h
  | none =>
    obtain ⟨rfl, -⟩ := Runs.pure_iff.1 h₂
    have hloop := (waitLoop_state h₁).2
    obtain ⟨es₃, es₄, s₀, rfl, h₃⟩ := untilTimeout_success h₁
    obtain ⟨r, hr, rfl⟩ := runs_waitPoll.1 h₃
    obtain ⟨-, hget, -⟩ := getsLastFound_append.1 hloop
    cases r with
    | error err => simp [waitResult] at hr
    | ok fetched =>
      simp only [waitResult] at hr
      split at hr
      · simp at hr
      · rw [List.append_nil]
        exact ⟨es₃, fetched, by rw [hget], hloop, by assumption⟩

/-- On a platform whose `Get` finds an object only under the key asked for, `Wait` returns nil
only after its last call, a `Get` of the values' key that found the StatefulSet ready. -/
theorem wait_success (h : Runs (wait val attempts) es (.returned none))
    (hown : ∀ key sts, Event.get key (.ok sts) ∈ es → sts.key = key) :
    ∃ es₁ sts, es = es₁ ++ [.get (emptyStatefulset val).key (.ok sts)] ∧
      checkStatefulSet val.replicas sts = none := by
  obtain ⟨es₁, sts, hes, -, hready⟩ := wait_returned_none h
  have hkey := wait_gets_values_key h hown (lastFound (emptyStatefulset val) es₁).key (.ok sts)
    (by rw [hes]; simp)
  exact ⟨es₁, sts, by rw [hes, hkey], hready⟩

theorem wait_success_of_ready :
    Runs (wait { name := "etcd" } 0) [.get ⟨"", "etcd"⟩ (.ok { metadata := { name := "etcd" } })]
      (.returned none) ∧
    (∀ key sts, Event.get key (.ok sts) ∈
      [Event.get ⟨"", "etcd"⟩ (.ok { metadata := { name := "etcd" } })] → sts.key = key) ∧
    ∃ es₁ sts, [Event.get ⟨"", "etcd"⟩ (.ok { metadata := { name := "etcd" } })] =
        es₁ ++ [.get (emptyStatefulset { name := "etcd" }).key (.ok sts)] ∧
      checkStatefulSet 0 sts = none :=
  (fun h hown => ⟨h, hown, wait_success h hown⟩)
    (by exact Runs.bind (Runs.bind (.get _ (.pure _)) (.pure _)) (.pure _))
    (by simp [StatefulSet.key])

/-! ## What Wait diagnoses -/

/-- On a platform whose `Get` finds an object only under the key asked for, every poll of
`Wait` asks for the values' key, and when the poll fails, `Wait` diagnoses the StatefulSet
that the last `Get` to find it read, or the empty one when no `Get` found it. -/
theorem wait_diagnoses_last_found (h : Runs (wait val attempts) es o)
    (hown : ∀ key sts, Event.get key (.ok sts) ∈ es → sts.key = key) :
    (∀ key r, Event.get key r ∈ es → key = (emptyStatefulset val).key) ∧
    ∃ es₁ es₂ pollErr, es = es₁ ++ es₂ ∧
      Runs (untilTimeout (waitPoll val) attempts (emptyStatefulset val) none) es₁
        (.returned (lastFound (emptyStatefulset val) es₁, pollErr)) ∧
      ∀ err, pollErr = some err →
        Runs (waitFailed (lastFound (emptyStatefulset val) es₁) err) es₂ o := by
  refine ⟨wait_gets_values_key h hown, ?_⟩
  rcases Runs.of_bind h with ⟨es₁, es₂, ⟨sts, pollErr⟩, rfl, h₁, h₂⟩ | ⟨h₁, -⟩
  · obtain ⟨rfl, -⟩ := waitLoop_state h₁
    exact ⟨es₁, es₂, pollErr, rfl, h₁, fun err herr => by subst herr; exact h₂⟩
  · exact absurd h₁ (untilTimeout_not_panicked waitPoll_not_panicked)

theorem wait_diagnoses_last_found_of_timeout :
    Runs (wait { name := "etcd", replicas := 1 } 0)
      [.get ⟨"", "etcd"⟩ (.ok { metadata := { name := "etcd" } }), .list "" (.ok [])]
      (.returned (some (retryError (some (.plain "not enough ready replicas"))))) ∧
    (∀ key sts, Event.get key (.ok sts) ∈ [Event.get ⟨"", "etcd"⟩ (.ok { metadata := { name := "etcd" } }),
      .list "" (.ok [])] → sts.key = key) ∧
    (∀ key r, Event.get key r ∈ [Event.get ⟨"", "etcd"⟩ (.ok { metadata := { name := "etcd" } }),
        .list "" (.ok [])] → key = (emptyStatefulset { name := "etcd", replicas := 1 }).key) ∧
    ∃ es₁ es₂ pollErr, [Event.get ⟨"", "etcd"⟩ (.ok { metadata := { name := "etcd" } }),
        .list "" (.ok [])] = es₁ ++ es₂ ∧
      Runs (untilTimeout (waitPoll { name := "etcd", replicas := 1 }) 0
          (emptyStatefulset { name := "etcd", replicas := 1 }) none) es₁
        (.returned (lastFound (emptyStatefulset { name := "etcd", replicas := 1 }) es₁, pollErr)) ∧
      ∀ err, pollErr = some err →
        Runs (waitFailed (lastFound (emptyStatefulset { name := "etcd", replicas := 1 }) es₁) err)
          es₂
          (.returned (some (retryError (some (.plain "not enough ready replicas"))))) :=
  (fun h hown => ⟨h, hown, wait_diagnoses_last_found h hown⟩)
    (by exact Runs.bind (Runs.bind (.get _ (.pure _)) (.pure _))
          (Runs.bind (.list _ (.pure _)) (.pure _)))
    (by simp [StatefulSet.key])

/-- A StatefulSet that no `Get` found has no claim templates to diagnose. -/
theorem lastFound_of_not_found {s : StatefulSet} (hnone : ∀ e ∈ es, ∀ key sts, e ≠ .get key (.ok sts)) :
    lastFound s es = s := by
  induction es with
  | nil => rfl
  | cons e es ih =>
    have hrest := ih fun e' he' => hnone e' (List.mem_cons_of_mem _ he')
    cases e with
    | get key r =>
      cases r with
      | ok sts => exact absurd rfl (hnone _ (List.mem_cons_self _ _) key sts)
      | error => exact hrest
    | _ => exact hrest

/-- When no `Get` of the poll found the StatefulSet, a `Wait` fails with the poll's error
itself: the empty StatefulSet it diagnoses has no claim templates, so no warnings are added. -/
theorem wait_not_found_returns_poll_error (h : Runs (wait val attempts) es o)
    (hnone : ∀ e ∈ es, ∀ key sts, e ≠ .get key (.ok sts)) :
    ∃ es₁ es₂ err, es = es₁ ++ es₂ ∧
      Runs (untilTimeout (waitPoll val) attempts (emptyStatefulset val) none) es₁
        (.returned (emptyStatefulset val, some err)) ∧ o = .returned (some err) := by
  rcases Runs.of_bind h with ⟨es₁, es₂, ⟨sts, pollErr⟩, rfl, h₁, h₂⟩ | ⟨h₁, -⟩
  · obtain ⟨rfl, -⟩ := waitLoop_state h₁
    rw [lastFound_of_not_found fun e he => hnone e (List.mem_append_left _ he)] at h₁ h₂
    cases pollErr with
    | none =>
      obtain ⟨rfl, rfl⟩ := Runs.pure_iff.1 h₂
      obtain ⟨es₃, sts, hes, -⟩ := wait_returned_none h
      exact absurd rfl (hnone _ (by simp [hes]) (lastFound (emptyStatefulset val) es₃).key sts)
    | some err =>
      refine ⟨es₁, es₂, err, rfl, h₁, ?_⟩
      rcases waitFailed_keeps h₂ with ho | ⟨messages, hf, hm, -⟩
      · exact ho
      · obtain ⟨r, es', hloop, rfl⟩ := Runs.list_iff.1 hf
        cases r <;> simp [emptyStatefulset, claimTemplatesLoop] at hloop
        exact absurd hloop.2 hm
  · exact absurd h₁ (untilTimeout_not_panicked waitPoll_not_panicked)

theorem wait_not_found_returns_poll_error_of_absent :
    Runs (wait { name := "etcd" } 0)
      [.get ⟨"", "etcd"⟩ (.error (.status .notFound "not found")), .list "" (.ok [])]
      (.returned (some (retryError (some (.status .notFound "not found"))))) ∧
    ∃ es₁ es₂ err, [Event.get ⟨"", "etcd"⟩ (.error (.status .notFound "not found")),
        .list "" (.ok [])] = es₁ ++ es₂ ∧
      Runs (untilTimeout (waitPoll { name := "etcd" }) 0 (emptyStatefulset { name := "etcd" }) none)
        es₁ (.returned (emptyStatefulset { name := "etcd" }, some err)) ∧
      Outcome.returned (some (retryError (some (.status .notFound "not found")))) =
        .returned (some err) :=
  (fun h => ⟨h, wait_not_found_returns_poll_error h (by simp)⟩)
    (by exact Runs.bind (Runs.bind (.get _ (.pure _)) (.pure _))
          (Runs.bind (.list _ (.pure _)) (.pure _)))

end EtcdDruid
