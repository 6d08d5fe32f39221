import Mathlib.Data.List.AList

/-!
# Go values of the statefulset component

An error is a value: an API status returned by the platform, an error wrapped by
`fmt.Errorf` with `%w`, or the error gardener's retry loop returns when its context
expires. `errors.Is` and `apierrors.IsNotFound` follow the unwrap chain. A Go
`map[string]string` is an association list whose keys are distinct.
-/

namespace EtcdDruid

/-- The reason of a platform API status, as `apierrors` classifies it. -/
inductive StatusReason where
  | notFound
  | alreadyExists
  | other (reason : String)
  deriving DecidableEq, Repr

inductive GoError where
  /-- An API status error of the platform. -/
  | status (reason : StatusReason) (message : String)
  /-- `errors.New(text)`, or `fmt.Errorf` with no `%w` verb. -/
  | plain (text : String)
  /-- `fmt.Errorf` with one `%w` verb: the formatted text and the wrapped error. -/
  | wrap (text : String) (inner : GoError)
  /-- `retry.NewError(ctxErr, nil)`: the context expired before any minor error. -/
  | retryFailed (ctxErr : String)
  /-- `retry.NewError(ctxErr, err)`: the context expired after the minor error `err`. -/
  | retryFailedWith (ctxErr : String) (last : GoError)

namespace GoError

/-- `err.Error()`. -/
def text : GoError → String
  | status _ message => message
  | plain text => text
  | wrap text _ => text
  | retryFailed ctxErr => "retry failed with " ++ ctxErr
  | retryFailedWith ctxErr last => "retry failed with " ++ ctxErr ++ ", last error: " ++ last.text

/-- `errors.Unwrap(err)`. -/
def unwrap : GoError → Option GoError
  | wrap _ inner => some inner
  | retryFailedWith _ last => some last
  | _ => none

/-- `errors.Is(err, target)`: `target` is `err` or is reached from it by unwrapping. -/
def Is (err target : GoError) : Prop :=
  match err with
  | wrap _ inner => err = target ∨ inner.Is target
  | retryFailedWith _ last => err = target ∨ last.Is target
  | _ => err = target

theorem is_refl (err : GoError) : err.Is err := by
  cases err <;> simp [Is]

theorem is_wrap (text : String) (inner target : GoError) (h : inner.Is target) :
    (wrap text inner).Is target :=
  .inr h

/-- `apierrors.IsNotFound(err)`, which looks through wrapping. -/
def isNotFound : GoError → Bool
  | status reason _ => reason == .notFound
  | plain _ => false
  | wrap _ inner => inner.isNotFound
  | retryFailed _ => false
  | retryFailedWith _ last => last.isNotFound

/-- `fmt.Errorf("%w\n\n%s", err, messages)`. -/
def wrapMessages (err : GoError) (messages : String) : GoError :=
  wrap (err.text ++ "\n\n" ++ messages) err

@[simp] theorem wrapMessages_text (err : GoError) (messages : String) :
    (err.wrapMessages messages).text = err.text ++ "\n\n" ++ messages := rfl

theorem wrapMessages_is (err : GoError) (messages : String) :
    (err.wrapMessages messages).Is err :=
  is_wrap _ err err (is_refl err)

end GoError

/-- A Go `map[string]string`. -/
abbrev StringMap := AList (fun _ : String => String)

@[simp] theorem lookup_singleton (a b key : String) :
    (AList.singleton a b : StringMap).lookup key = if key = a then some b else none := by
  show List.dlookup key [(⟨a, b⟩ : Σ _ : String, String)] = _
  by_cases h : key = a
  · subst h; rw [List.dlookup_cons_eq, if_pos rfl]
  · rw [List.dlookup_cons_ne [] (⟨a, b⟩ : Σ _ : String, String) h, List.dlookup_nil, if_neg h]

/-- Modelled from the spec: `utils.MergeStringMaps` is not under src/. Section 4.1 layers the
maps in order, the second on top of the first, so on a shared key the second map's value
wins. -/
def mergeStringMaps (old new : StringMap) : StringMap :=
  new.entries.foldl (fun out entry => out.insert entry.1 entry.2) old

private theorem lookup_foldl_insert (k : String) :
    ∀ (l : List (Σ _ : String, String)) (out : StringMap), l.NodupKeys →
      (l.foldl (fun out entry => out.insert entry.1 entry.2) out).lookup k =
        (l.dlookup k).or (out.lookup k)
  | [], out, _ => rfl
  | ⟨a, b⟩ :: l, out, h => by
    rw [List.nodupKeys_cons] at h
    rw [List.foldl_cons, lookup_foldl_insert k l _ h.2]
    by_cases hk : k = a
    · subst hk
      simp [List.dlookup_eq_none.2 h.1, Option.or]
    · simp [List.dlookup_cons_ne l ⟨a, b⟩ hk, AList.lookup_insert_ne hk]

/-- A key of the merged map has the second map's value, or else the first map's. -/
@[simp] theorem lookup_mergeStringMaps (old new : StringMap) (k : String) :
    (mergeStringMaps old new).lookup k = (new.lookup k).or (old.lookup k) :=
  lookup_foldl_insert k new.entries old new.nodupKeys

end EtcdDruid
