/-!
# Stateful code that may throw

A method that changes a state and may throw keeps the changes it made before it threw.
`Holds` says what is known of the state before it and of its result and the state after it.
The rules follow the code: sequences, branches, `try … catch` and `try … finally`.
-/

namespace Openpyn.Foundation

universe u v w

/-- Code that changes a state and may throw. -/
def Effect (σ : Type u) (ε : Type v) (α : Type w) := σ → Except ε α × σ

namespace Effect

variable {σ : Type u} {ε : Type v} {α β : Type w}

/-- The result and the state after a run. -/
def run (effect : Effect σ ε α) (state : σ) : Except ε α × σ := effect state

protected def pure (value : α) : Effect σ ε α := fun state => (.ok value, state)

protected def bind (effect : Effect σ ε α) (next : α → Effect σ ε β) : Effect σ ε β := fun state =>
  match effect state with
  | (.ok value, state) => next value state
  | (.error error, state) => (.error error, state)

instance : Monad (Effect σ ε) where
  pure := Effect.pure
  bind := Effect.bind

def throwing (error : ε) : Effect σ ε α := fun state => (.error error, state)

/-- The handler goes on with the changes made so far. -/
def catching (effect : Effect σ ε α) (handler : ε → Effect σ ε α) : Effect σ ε α := fun state =>
  match effect state with
  | (.ok value, state) => (.ok value, state)
  | (.error error, state) => handler error state

/-- The cleanup runs in any case. What it throws replaces the result. -/
def ensuring (effect : Effect σ ε α) (cleanup : Effect σ ε PUnit) : Effect σ ε α := fun state =>
  match cleanup (effect state).2 with
  | (.ok _, last) => ((effect state).1, last)
  | (.error error, last) => (.error error, last)

/-- A branch without an alternative. -/
def when (condition : Bool) (effect : Effect σ ε PUnit) : Effect σ ε PUnit :=
  if condition then effect else pure ⟨⟩

/-- A value read from the state. -/
def reading (read : σ → α) : Effect σ ε α := fun state => (.ok (read state), state)

def changing (change : σ → σ) : Effect σ ε PUnit := fun state => (.ok ⟨⟩, change state)

/-! ## Steps of a run -/

section Runs

@[simp] theorem run_pure (value : α) (state : σ) :
    (pure value : Effect σ ε α).run state = (.ok value, state) := rfl

@[simp] theorem run_throwing (error : ε) (state : σ) :
    (throwing error : Effect σ ε α).run state = (.error error, state) := rfl

@[simp] theorem run_reading (read : σ → α) (state : σ) :
    (reading read : Effect σ ε α).run state = (.ok (read state), state) := rfl

@[simp] theorem run_changing (change : σ → σ) (state : σ) :
    (changing change : Effect σ ε PUnit).run state = (.ok ⟨⟩, change state) := rfl

@[simp] theorem run_pure_bind (value : α) (next : α → Effect σ ε β) (state : σ) :
    ((pure value : Effect σ ε α) >>= next).run state = (next value).run state := rfl

@[simp] theorem run_throwing_bind (error : ε) (next : α → Effect σ ε β) (state : σ) :
    ((throwing error : Effect σ ε α) >>= next).run state = (.error error, state) := rfl

@[simp] theorem run_reading_bind (read : σ → α) (next : α → Effect σ ε β) (state : σ) :
    (reading read >>= next).run state = (next (read state)).run state := rfl

@[simp] theorem run_changing_bind (change : σ → σ) (next : PUnit → Effect σ ε β) (state : σ) :
    (changing change >>= next).run state = (next ⟨⟩).run (change state) := rfl

theorem when_true (effect : Effect σ ε PUnit) : when true effect = effect := rfl

theorem when_false (effect : Effect σ ε PUnit) : when false effect = pure ⟨⟩ := rfl

variable {effect : Effect σ ε α} {state reached : σ}

theorem run_bind_of_ok {value : α} {next : α → Effect σ ε β}
    (ran : effect.run state = (.ok value, reached)) :
    (effect >>= next).run state = (next value).run reached := by
  show Effect.bind effect next state = _
  unfold run at ran
  rw [Effect.bind, ran]
  rfl

theorem run_bind_of_error {error : ε} {next : α → Effect σ ε β}
    (ran : effect.run state = (.error error, reached)) :
    (effect >>= next).run state = (.error error, reached) := by
  show Effect.bind effect next state = _
  unfold run at ran
  rw [Effect.bind, ran]

theorem run_catching_of_ok {value : α} {handler : ε → Effect σ ε α}
    (ran : effect.run state = (.ok value, reached)) :
    (effect.catching handler).run state = (.ok value, reached) := by
  unfold run at ran ⊢
  rw [catching, ran]

theorem run_catching_of_error {error : ε} {handler : ε → Effect σ ε α}
    (ran : effect.run state = (.error error, reached)) :
    (effect.catching handler).run state = (handler error).run reached := by
  unfold run at ran ⊢
  rw [catching, ran]

end Runs

/-! ## What holds before and after -/

/-- What is known after a step that others follow unless it throws. -/
def OnOk (middle : α → σ → Prop) (after : Except ε β → σ → Prop) : Except ε α → σ → Prop
  | .ok value => middle value
  | .error error => after (.error error)

/-- What is known after a step whose exceptions are caught. -/
def OnError (after : Except ε α → σ → Prop) (middle : ε → σ → Prop) : Except ε α → σ → Prop
  | .ok value => after (.ok value)
  | .error error => middle error

/-- What is known after a step that may end in two ways. -/
def OnEnd (returned threw : σ → Prop) : Except ε α → σ → Prop
  | .ok _ => returned
  | .error _ => threw

/-- What is known after the cleanup of a step that had this result. -/
def OnCleanup (after : Except ε α → σ → Prop) (result : Except ε α) :
    Except ε PUnit → σ → Prop
  | .ok _ => after result
  | .error error => after (.error error)

/-- If `before` holds of the state then `after` holds of the result and the state after. -/
def Holds (before : σ → Prop) (effect : Effect σ ε α) (after : Except ε α → σ → Prop) : Prop :=
  ∀ state, before state → after (effect.run state).1 (effect.run state).2

variable {before : σ → Prop} {effect : Effect σ ε α} {after : Except ε α → σ → Prop}

theorem Holds.weaken {stronger : σ → Prop} {weaker : Except ε α → σ → Prop}
    (holds : Holds before effect after) (first : ∀ state, stronger state → before state)
    (last : ∀ result state, after result state → weaker result state) :
    Holds stronger effect weaker :=
  fun state known => last _ _ (holds state (first state known))

/-- What is known of the state however the step ends. -/
theorem Holds.anyway {known : σ → Prop} (holds : Holds before effect fun _ => known)
    (returned : ∀ value state, known state → after (.ok value) state)
    (threw : ∀ error state, known state → after (.error error) state) :
    Holds before effect after :=
  holds.weaken (fun _ => id) fun result state reached => by
    cases result with
    | ok value => exact returned value state reached
    | error error => exact threw error state reached

/-- What is known of the two ways a step ends. -/
theorem Holds.either {returned threw : σ → Prop}
    (holds : Holds before effect (OnEnd returned threw))
    (onReturn : ∀ value state, returned state → after (.ok value) state)
    (onThrow : ∀ error state, threw state → after (.error error) state) :
    Holds before effect after :=
  holds.weaken (fun _ => id) fun result state reached => by
    cases result with
    | ok value => exact onReturn value state reached
    | error error => exact onThrow error state reached

theorem holds_reading {read : σ → α}
    (known : ∀ state, before state → after (.ok (read state)) state) :
    Holds before (reading read : Effect σ ε α) after := known

theorem holds_bind {next : α → Effect σ ε β} {after : Except ε β → σ → Prop}
    (middle : α → σ → Prop) (first : Holds before effect (OnOk middle after))
    (second : ∀ value, Holds (middle value) (next value) after) :
    Holds before (effect >>= next) after := by
  intro state known
  have reached := first state known
  show after (Effect.bind effect next state).1 (Effect.bind effect next state).2
  unfold Effect.bind
  cases ran : effect state with
  | mk result reachedState =>
      simp only [run, ran] at reached
      cases result with
      | ok value => exact second value reachedState reached
      | error error => exact reached

/-- A value that is known before it is read. -/
theorem holds_known {read : σ → α} (value : α) {next : α → Effect σ ε β}
    {after : Except ε β → σ → Prop} (known : ∀ state, before state → read state = value)
    (rest : Holds before (next value) after) : Holds before (reading read >>= next) after := by
  intro state holds
  have reached := rest state holds
  rw [← known state holds] at reached
  exact reached

theorem holds_catching {handler : ε → Effect σ ε α} (middle : ε → σ → Prop)
    (first : Holds before effect (OnError after middle))
    (second : ∀ error, Holds (middle error) (handler error) after) :
    Holds before (effect.catching handler) after := by
  intro state known
  have reached := first state known
  unfold run catching
  cases ran : effect state with
  | mk result reachedState =>
      simp only [run, ran] at reached
      cases result with
      | ok value => exact reached
      | error error => exact second error reachedState reached

theorem holds_ensuring {cleanup : Effect σ ε PUnit} (middle : Except ε α → σ → Prop)
    (first : Holds before effect middle)
    (second : ∀ result, Holds (middle result) cleanup (OnCleanup after result)) :
    Holds before (effect.ensuring cleanup) after := by
  intro state known
  have reached := first state known
  have cleaned := second _ _ reached
  unfold run ensuring
  unfold run at cleaned
  cases left : cleanup (effect state).2 with
  | mk outcome last =>
      rw [left] at cleaned
      cases outcome with
      | ok _ => exact cleaned
      | error error => exact cleaned

theorem holds_when {condition : Bool} {effect : Effect σ ε PUnit}
    {after : Except ε PUnit → σ → Prop}
    (taken : condition = true → Holds before effect after)
    (skipped : condition = false → ∀ state, before state → after (.ok ⟨⟩) state) :
    Holds before (when condition effect) after := by
  cases condition with
  | true => exact taken rfl
  | false => exact skipped rfl

/-! ## Following plainer code -/

/-- From related states, an effect ends as a plainer one does. Or it throws, which is excused by
the plainer state, the state after it and the plainer state that goes with that. -/
def Follows {τ : Type u} (Rel : σ → τ → Prop) (Excuse : τ → σ → ε → τ → Prop)
    (effect : Effect σ ε α) (plain : Effect τ ε α) : Prop :=
  ∀ state model, Rel state model →
    ((effect.run state).1 = (plain.run model).1 ∧ Rel (effect.run state).2 (plain.run model).2) ∨
      ∃ error next, (effect.run state).1 = .error error ∧
        Excuse model (effect.run state).2 error next ∧ Rel (effect.run state).2 next

section Follows

variable {τ : Type u} {Rel : σ → τ → Prop} {Excuse : τ → σ → ε → τ → Prop} {plain : Effect τ ε α}

theorem follows_pure (value : α) :
    Follows Rel Excuse (pure value : Effect σ ε α) (pure value) :=
  fun _ _ related => .inl ⟨rfl, related⟩

theorem follows_throwing (error : ε) :
    Follows Rel Excuse (throwing error : Effect σ ε α) (throwing error) :=
  fun _ _ related => .inl ⟨rfl, related⟩

theorem follows_reading {read : σ → α} {plainRead : τ → α}
    (same : ∀ state model, Rel state model → read state = plainRead model) :
    Follows Rel Excuse (reading read : Effect σ ε α) (reading plainRead) :=
  fun state model related => .inl ⟨congrArg Except.ok (same state model related), related⟩

/-- A first step that changes nothing of the plain state, and then another one. -/
theorem Follows.bind {next : α → Effect σ ε β} {plainNext : α → Effect τ ε β}
    (first : Follows Rel Excuse effect plain)
    (only : ∀ model, (plain.run model).2 = model)
    (second : ∀ value, Follows Rel Excuse (next value) (plainNext value)) :
    Follows Rel Excuse (effect >>= next) (plain >>= plainNext) := by
  intro state model related
  have unchanged := only model
  have stepped := first state model related
  cases ran : effect.run state with
  | mk result reached =>
      cases plainRan : plain.run model with
      | mk answer last =>
          rw [ran, plainRan] at stepped
          rw [plainRan] at unchanged
          obtain rfl : last = model := unchanged
          cases result with
          | error error =>
              rw [run_bind_of_error ran]
              rcases stepped with ⟨same, kept⟩ | ⟨other, left, same, excuse, kept⟩
              · obtain rfl : Except.error error = answer := same
                rw [run_bind_of_error plainRan]
                exact .inl ⟨rfl, kept⟩
              · obtain rfl : error = other := Except.error.inj same
                exact .inr ⟨error, left, rfl, excuse, kept⟩
          | ok value =>
              rcases stepped with ⟨same, kept⟩ | ⟨error, left, failed, -⟩
              · obtain rfl : Except.ok value = answer := same
                rw [run_bind_of_ok ran, run_bind_of_ok plainRan]
                exact second value reached last kept
              · cases failed

/-- What an effect returns is put another way. -/
theorem Follows.map (follows : Follows Rel Excuse effect plain) (change : α → β) :
    Follows Rel Excuse (effect >>= fun value => pure (change value))
      (plain >>= fun value => pure (change value)) := by
  intro state model related
  have stepped := follows state model related
  cases ran : effect.run state with
  | mk result reached =>
      cases plainRan : plain.run model with
      | mk answer last =>
          rw [ran, plainRan] at stepped
          rcases stepped with ⟨same, kept⟩ | ⟨error, left, same, excuse, kept⟩
          · obtain rfl : result = answer := same
            cases result with
            | ok value =>
                rw [run_bind_of_ok ran, run_bind_of_ok plainRan]
                exact .inl ⟨rfl, kept⟩
            | error error =>
                rw [run_bind_of_error ran, run_bind_of_error plainRan]
                exact .inl ⟨rfl, kept⟩
          · obtain rfl : result = .error error := same
            rw [run_bind_of_error ran]
            exact .inr ⟨error, left, rfl, excuse, kept⟩

end Follows

end Effect
end Openpyn.Foundation
