import EtcdDruid.Objects

/-!
# Programs against the platform client

The component talks to the platform through `client.Client`. A program is a finite tree:
each call names what it asks and continues with the platform's reply. A run records
every call with the reply it got, so one statement covers every reply the platform can
give; the platform's own rules are stated separately (`Platform`). A nil dereference
ends a program in `panic`.
-/

namespace EtcdDruid

inductive Client (α : Type) where
  | pure (a : α)
  | get (key : ObjectKey) (next : Except GoError StatefulSet → Client α)
  | create (obj : StatefulSet) (next : Option GoError → Client α)
  /-- `Patch(obj, StrategicMergeFrom(base))`. -/
  | patch (obj base : StatefulSet) (next : Option GoError → Client α)
  | delete (obj : StatefulSet) (next : Option GoError → Client α)
  | list («namespace» : String) (next : Except GoError (List PersistentVolumeClaim) → Client α)
  | fetchEventMessages (pvc : PersistentVolumeClaim) (eventType : String) (limit : Nat)
      (next : Except GoError String → Client α)
  | logError (err : GoError) (msg : String) (next : Client α)
  | panic

namespace Client

def bind : Client α → (α → Client β) → Client β
  | pure a, f => f a
  | get key next, f => get key fun r => (next r).bind f
  | create obj next, f => create obj fun r => (next r).bind f
  | patch obj base next, f => patch obj base fun r => (next r).bind f
  | delete obj next, f => delete obj fun r => (next r).bind f
  | list ns next, f => list ns fun r => (next r).bind f
  | fetchEventMessages pvc t n next, f => fetchEventMessages pvc t n fun r => (next r).bind f
  | logError err msg next, f => logError err msg (next.bind f)
  | panic, _ => panic

@[simp] theorem pure_bind (a : α) (f : α → Client β) : (pure a).bind f = f a := rfl

end Client

/-- A call with the reply the platform gave. -/
inductive Event where
  | get (key : ObjectKey) (reply : Except GoError StatefulSet)
  | create (obj : StatefulSet) (reply : Option GoError)
  | patch (obj base : StatefulSet) (reply : Option GoError)
  | delete (obj : StatefulSet) (reply : Option GoError)
  | list («namespace» : String) (reply : Except GoError (List PersistentVolumeClaim))
  | fetchEventMessages (pvc : PersistentVolumeClaim) (eventType : String) (limit : Nat)
      (reply : Except GoError String)
  | logError (err : GoError) (msg : String)

inductive Outcome (α : Type) where
  | returned (a : α)
  | panicked

/-- `Runs c es o`: run against a platform whose replies the events `es` record, the program
`c` makes exactly the calls of `es` and ends with `o`. -/
inductive Runs : Client α → List Event → Outcome α → Prop
  | pure (a : α) : Runs (.pure a) [] (.returned a)
  | panic : Runs .panic [] .panicked
  | get {key next es o} (r : Except GoError StatefulSet) :
      Runs (next r) es o → Runs (.get key next) (.get key r :: es) o
  | create {obj next es o} (r : Option GoError) :
      Runs (next r) es o → Runs (.create obj next) (.create obj r :: es) o
  | patch {obj base next es o} (r : Option GoError) :
      Runs (next r) es o → Runs (.patch obj base next) (.patch obj base r :: es) o
  | delete {obj next es o} (r : Option GoError) :
      Runs (next r) es o → Runs (.delete obj next) (.delete obj r :: es) o
  | list {ns next es o} (r : Except GoError (List PersistentVolumeClaim)) :
      Runs (next r) es o → Runs (.list ns next) (.list ns r :: es) o
  | fetchEventMessages {pvc t n next es o} (r : Except GoError String) :
      Runs (next r) es o →
        Runs (.fetchEventMessages pvc t n next) (.fetchEventMessages pvc t n r :: es) o
  | logError {err msg next es o} :
      Runs next es o → Runs (.logError err msg next) (.logError err msg :: es) o

namespace Runs

variable {c : Client α} {f : α → Client β} {es : List Event} {o : Outcome β}

@[simp] theorem pure_iff {a : α} {o : Outcome α} :
    Runs (.pure a) es o ↔ es = [] ∧ o = .returned a :=
  ⟨fun h => by cases h; exact ⟨rfl, rfl⟩, fun ⟨h₁, h₂⟩ => h₁ ▸ h₂ ▸ .pure a⟩

@[simp] theorem panic_iff {o : Outcome α} : Runs .panic es o ↔ es = [] ∧ o = .panicked :=
  ⟨fun h => by cases h; exact ⟨rfl, rfl⟩, fun ⟨h₁, h₂⟩ => h₁ ▸ h₂ ▸ .panic⟩

@[simp] theorem get_iff {key} {next : Except GoError StatefulSet → Client α} {o : Outcome α} :
    Runs (.get key next) es o ↔ ∃ r es', Runs (next r) es' o ∧ es = .get key r :: es' :=
  ⟨fun h => by cases h; exact ⟨_, _, ‹_›, rfl⟩, fun ⟨r, _, h₂, h₁⟩ => h₁ ▸ .get r h₂⟩

@[simp] theorem create_iff {obj} {next : Option GoError → Client α} {o : Outcome α} :
    Runs (.create obj next) es o ↔ ∃ r es', Runs (next r) es' o ∧ es = .create obj r :: es' :=
  ⟨fun h => by cases h; exact ⟨_, _, ‹_›, rfl⟩, fun ⟨r, _, h₂, h₁⟩ => h₁ ▸ .create r h₂⟩

@[simp] theorem patch_iff {obj base} {next : Option GoError → Client α} {o : Outcome α} :
    Runs (.patch obj base next) es o ↔
      ∃ r es', Runs (next r) es' o ∧ es = .patch obj base r :: es' :=
  ⟨fun h => by cases h; exact ⟨_, _, ‹_›, rfl⟩, fun ⟨r, _, h₂, h₁⟩ => h₁ ▸ .patch r h₂⟩

@[simp] theorem delete_iff {obj} {next : Option GoError → Client α} {o : Outcome α} :
    Runs (.delete obj next) es o ↔ ∃ r es', Runs (next r) es' o ∧ es = .delete obj r :: es' :=
  ⟨fun h => by cases h; exact ⟨_, _, ‹_›, rfl⟩, fun ⟨r, _, h₂, h₁⟩ => h₁ ▸ .delete r h₂⟩

@[simp] theorem list_iff {ns} {next : Except GoError (List PersistentVolumeClaim) → Client α}
    {o : Outcome α} :
    Runs (.list ns next) es o ↔ ∃ r es', Runs (next r) es' o ∧ es = .list ns r :: es' :=
  ⟨fun h => by cases h; exact ⟨_, _, ‹_›, rfl⟩, fun ⟨r, _, h₂, h₁⟩ => h₁ ▸ .list r h₂⟩

@[simp] theorem fetchEventMessages_iff {pvc t n} {next : Except GoError String → Client α}
    {o : Outcome α} :
    Runs (.fetchEventMessages pvc t n next) es o ↔
      ∃ r es', Runs (next r) es' o ∧ es = .fetchEventMessages pvc t n r :: es' :=
  ⟨fun h => by cases h; exact ⟨_, _, ‹_›, rfl⟩,
    fun ⟨r, _, h₂, h₁⟩ => h₁ ▸ .fetchEventMessages r h₂⟩

@[simp] theorem logError_iff {err msg} {next : Client α} {o : Outcome α} :
    Runs (.logError err msg next) es o ↔ ∃ es', Runs next es' o ∧ es = .logError err msg :: es' :=
  ⟨fun h => by cases h; exact ⟨_, ‹_›, rfl⟩, fun ⟨_, h₂, h₁⟩ => h₁ ▸ .logError h₂⟩

/-- A run of `c.bind f` is a run of `c` that returns, followed by a run of its
continuation, or a run of `c` that panics. -/
theorem of_bind (h : Runs (c.bind f) es o) :
    (∃ es₁ es₂ a, es = es₁ ++ es₂ ∧ Runs c es₁ (.returned a) ∧ Runs (f a) es₂ o) ∨
      (Runs c es .panicked ∧ o = .panicked) := by
  induction c generalizing es
  case pure a => exact .inl ⟨[], es, a, rfl, .pure a, h⟩
  case panic => cases h; exact .inr ⟨.panic, rfl⟩
  case logError err msg next ih =>
    cases h with
    | logError h =>
      rcases ih h with ⟨es₁, es₂, a, rfl, h₁, h₂⟩ | ⟨h₁, rfl⟩
      · exact .inl ⟨_ :: es₁, es₂, a, rfl, .logError h₁, h₂⟩
      · exact .inr ⟨.logError h₁, rfl⟩
  all_goals
    cases h
    rename_i ih _ r h
    rcases ih r h with ⟨es₁, es₂, a, rfl, h₁, h₂⟩ | ⟨h₁, rfl⟩
    · exact .inl ⟨_ :: es₁, es₂, a, rfl, by constructor; exact h₁, h₂⟩
    · exact .inr ⟨by constructor; exact h₁, rfl⟩

/-- The runs of `c.bind f` that return are a returning run of `c` and one of `f`. -/
theorem bind_returned {b : β} (h : Runs (c.bind f) es (.returned b)) :
    ∃ es₁ es₂ a, es = es₁ ++ es₂ ∧ Runs c es₁ (.returned a) ∧ Runs (f a) es₂ (.returned b) := by
  rcases of_bind h with h | ⟨-, h⟩
  · exact h
  · cases h

theorem bind {es₁ es₂ : List Event} {a : α} (h₁ : Runs c es₁ (.returned a))
    (h₂ : Runs (f a) es₂ o) : Runs (c.bind f) (es₁ ++ es₂) o := by
  induction c generalizing es₁
  case pure => cases h₁; exact h₂
  case panic => cases h₁
  case logError ih => cases h₁ with | logError h₁ => exact .logError (ih h₁)
  all_goals
    cases h₁
    rename_i ih _ r h₁
    constructor
    exact ih r h₁

end Runs

end EtcdDruid
