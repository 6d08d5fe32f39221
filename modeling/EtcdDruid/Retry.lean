import EtcdDruid.Client

/-!
# The retry loop

`Wait` and `WaitCleanup` poll through gardener's `retry.UntilTimeout`, which is not under
src/. Its contract is the one section 4.4 states: a poll reports whether it is done and an
error; done with an error is severe and returned, done without one is success, and not
done keeps the last minor error and polls again after an interval until the deadline,
where the context error is returned with the last minor error. The deadline is real time;
`attempts` is the number of intervals that pass before it, and every result here holds for
every number. The poll's state `σ` is what its closure captures and overwrites.
-/

namespace EtcdDruid

/-- `retry.NewError(ctx.Err(), minorErr)` at the deadline. -/
def retryError (minorErr : Option GoError) : GoError :=
  match minorErr with
  | some err => .retryFailedWith "context deadline exceeded" err
  | none => .retryFailed "context deadline exceeded"

variable {σ : Type}

/-- What the loop does with a poll's result: stop when the poll is done, and otherwise
keep its error as the last minor one and go on with `next`. -/
def afterPoll (next : σ → Option GoError → Client (σ × Option GoError))
    (minorErr : Option GoError) : σ × Bool × Option GoError → Client (σ × Option GoError)
  | (s, true, err) => .pure (s, err)
  | (s, false, err) => next s (err.or minorErr)

/-- `retry.UntilTimeout(ctx, interval, timeout, f)` with `attempts` intervals left before the
deadline, the poll's state `s` and the last minor error `minorErr`. -/
def untilTimeout (poll : σ → Client (σ × Bool × Option GoError)) :
    Nat → σ → Option GoError → Client (σ × Option GoError)
  | 0, s, minorErr =>
    (poll s).bind (afterPoll (fun s minorErr => .pure (s, some (retryError minorErr))) minorErr)
  | n + 1, s, minorErr => (poll s).bind (afterPoll (untilTimeout poll n) minorErr)

variable {poll : σ → Client (σ × Bool × Option GoError)}
  {next : σ → Option GoError → Client (σ × Option GoError)} {minorErr : Option GoError}
  {s : σ} {es : List Event} {o : Outcome (σ × Option GoError)}

/-- One round of the loop: a poll that is done ends it, a poll that is not goes on, a poll
that panics ends the run. -/
theorem runs_afterPoll (h : Runs ((poll s).bind (afterPoll next minorErr)) es o) :
    (∃ s' err, Runs (poll s) es (.returned (s', true, err)) ∧ o = .returned (s', err)) ∨
    (∃ es₁ es₂ s' err, es = es₁ ++ es₂ ∧ Runs (poll s) es₁ (.returned (s', false, err)) ∧
      Runs (next s' (err.or minorErr)) es₂ o) ∨
    (Runs (poll s) es .panicked ∧ o = .panicked) := by
  rcases Runs.of_bind h with ⟨es₁, es₂, ⟨s', done, err⟩, rfl, h₁, h₂⟩ | h
  · cases done with
    | true =>
      obtain ⟨rfl, rfl⟩ := Runs.pure_iff.1 h₂
      exact .inl ⟨s', err, by simpa using h₁, rfl⟩
    | false => exact .inr (.inl ⟨es₁, es₂, s', err, rfl, h₁, h₂⟩)
  · exact .inr (.inr h)

/-- Every call of the loop is a call of some poll. -/
theorem untilTimeout_events {Q : Event → Prop}
    (hpoll : ∀ s es o, Runs (poll s) es o → ∀ e ∈ es, Q e) {attempts : Nat}
    (h : Runs (untilTimeout poll attempts s minorErr) es o) : ∀ e ∈ es, Q e := by
  induction attempts generalizing s minorErr es with
  | zero =>
    rcases runs_afterPoll h with ⟨_, _, h₁, -⟩ | ⟨es₁, es₂, _, _, rfl, h₁, h₂⟩ | ⟨h₁, -⟩
    · exact hpoll _ _ _ h₁
    · obtain ⟨rfl, -⟩ := Runs.pure_iff.1 h₂
      simpa using hpoll _ _ _ h₁
    · exact hpoll _ _ _ h₁
  | succ n ih =>
    rcases runs_afterPoll h with ⟨_, _, h₁, -⟩ | ⟨es₁, es₂, _, _, rfl, h₁, h₂⟩ | ⟨h₁, -⟩
    · exact hpoll _ _ _ h₁
    · intro e he
      rcases List.mem_append.1 he with he | he
      · exact hpoll _ _ _ h₁ e he
      · exact ih h₂ e he
    · exact hpoll _ _ _ h₁

/-- The loop panics only where a poll panics. -/
theorem untilTimeout_not_panicked (hpoll : ∀ s es, ¬ Runs (poll s) es .panicked)
    {attempts : Nat} (h : Runs (untilTimeout poll attempts s minorErr) es .panicked) : False := by
  induction attempts generalizing s minorErr es with
  | zero =>
    rcases runs_afterPoll h with ⟨_, _, -, h₂⟩ | ⟨_, _, _, _, -, -, h₂⟩ | ⟨h₁, -⟩
    · cases h₂
    · cases Runs.pure_iff.1 h₂ |>.2
    · exact hpoll _ _ h₁
  | succ n ih =>
    rcases runs_afterPoll h with ⟨_, _, -, h₂⟩ | ⟨_, _, _, _, -, -, h₂⟩ | ⟨h₁, -⟩
    · cases h₂
    · exact ih h₂
    · exact hpoll _ _ h₁

/-- The loop succeeds only through a poll that is done without an error, the last poll of
the run. -/
theorem untilTimeout_success {attempts : Nat} {s' : σ}
    (h : Runs (untilTimeout poll attempts s minorErr) es (.returned (s', none))) :
    ∃ es₁ es₂ s₀, es = es₁ ++ es₂ ∧ Runs (poll s₀) es₂ (.returned (s', true, none)) := by
  induction attempts generalizing s minorErr es with
  | zero =>
    rcases runs_afterPoll h with ⟨_, _, h₁, h₂⟩ | ⟨_, _, _, _, -, -, h₂⟩ | ⟨-, h₂⟩
    · cases h₂; exact ⟨[], es, s, rfl, h₁⟩
    · cases Runs.pure_iff.1 h₂ |>.2
    · cases h₂
  | succ n ih =>
    rcases runs_afterPoll h with ⟨_, _, h₁, h₂⟩ | ⟨es₁, es₂, _, _, rfl, -, h₂⟩ | ⟨-, h₂⟩
    · cases h₂; exact ⟨[], es, s, rfl, h₁⟩
    · obtain ⟨es₃, es₄, s₀, rfl, h₃⟩ := ih h₂
      exact ⟨es₁ ++ es₃, es₄, s₀, by simp, h₃⟩
    · cases h₂

end EtcdDruid
