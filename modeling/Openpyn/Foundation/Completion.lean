/-!
# Completions of void methods

A method without a result returns or throws, and on both paths it has already
changed the state and called other components. `Completion` keeps all three, so
a law about states or calls also covers the throwing runs. `forEach` is the loop
that stops at the first exception; its rules are the only inductions over lines
that the rest of the development makes.
-/

namespace Openpyn.Foundation

universe u v w x y

/-- What one call leaves behind: the state, the calls it made in order, and the
exception it left with, if any. -/
structure Completion (ε : Type u) (ω : Type v) (σ : Type w) where
  state : σ
  emitted : List ω
  thrown : Option ε
deriving DecidableEq

namespace Completion

variable {ε : Type u} {ω : Type v} {σ : Type w} {α : Type x}

@[ext] theorem ext {left right : Completion ε ω σ} (state : left.state = right.state)
    (emitted : left.emitted = right.emitted) (thrown : left.thrown = right.thrown) :
    left = right := by
  cases left
  cases right
  cases state
  cases emitted
  cases thrown
  rfl

/-- Return without calling anything. -/
def done (state : σ) : Completion ε ω σ := ⟨state, [], none⟩

/-- Return after the given calls. -/
def emit (state : σ) (calls : List ω) : Completion ε ω σ := ⟨state, calls, none⟩

/-- Leave with an exception. -/
def throw (state : σ) (exception : ε) : Completion ε ω σ := ⟨state, [], some exception⟩

/-- Sequencing: the second part runs only when the first one returned. -/
def andThen (first : Completion ε ω σ) (next : σ → Completion ε ω σ) : Completion ε ω σ :=
  match first.thrown with
  | none =>
      ⟨(next first.state).state, first.emitted ++ (next first.state).emitted,
        (next first.state).thrown⟩
  | some _ => first

/-- Use the value of a computation that may throw. -/
def withValue (state : σ) (computation : Except ε α) (next : α → Completion ε ω σ) :
    Completion ε ω σ :=
  match computation with
  | .ok value => next value
  | .error exception => throw state exception

/-- Swallow the exceptions of the handled types. -/
def catching (handled : ε → Bool) (body : Completion ε ω σ) : Completion ε ω σ :=
  ⟨body.state, body.emitted, body.thrown.filter fun exception => !handled exception⟩

/-- Run the body on each item until one throws. -/
def forEach (body : σ → α → Completion ε ω σ) (state : σ) : List α → Completion ε ω σ
  | [] => done state
  | item :: rest => (body state item).andThen fun next => forEach body next rest

@[simp] theorem done_state (state : σ) : (done state : Completion ε ω σ).state = state := rfl
@[simp] theorem done_emitted (state : σ) : (done state : Completion ε ω σ).emitted = [] := rfl
@[simp] theorem done_thrown (state : σ) : (done state : Completion ε ω σ).thrown = none := rfl

@[simp] theorem emit_state (state : σ) (calls : List ω) :
    (emit state calls : Completion ε ω σ).state = state := rfl
@[simp] theorem emit_emitted (state : σ) (calls : List ω) :
    (emit state calls : Completion ε ω σ).emitted = calls := rfl
@[simp] theorem emit_thrown (state : σ) (calls : List ω) :
    (emit state calls : Completion ε ω σ).thrown = none := rfl

@[simp] theorem throw_state (state : σ) (exception : ε) :
    (throw state exception : Completion ε ω σ).state = state := rfl
@[simp] theorem throw_emitted (state : σ) (exception : ε) :
    (throw state exception : Completion ε ω σ).emitted = [] := rfl
@[simp] theorem throw_thrown (state : σ) (exception : ε) :
    (throw state exception : Completion ε ω σ).thrown = some exception := rfl

@[simp] theorem withValue_ok (state : σ) (value : α) (next : α → Completion ε ω σ) :
    withValue state (.ok value) next = next value := rfl
@[simp] theorem withValue_error (state : σ) (exception : ε) (next : α → Completion ε ω σ) :
    withValue state (.error exception) next = throw state exception := rfl

@[simp] theorem catching_state (handled : ε → Bool) (body : Completion ε ω σ) :
    (body.catching handled).state = body.state := rfl
@[simp] theorem catching_emitted (handled : ε → Bool) (body : Completion ε ω σ) :
    (body.catching handled).emitted = body.emitted := rfl

/-- A body is caught when it returns or throws what is handled. -/
theorem catching_returned_iff (handled : ε → Bool) (body : Completion ε ω σ) :
    (body.catching handled).thrown = none ↔
      ∀ exception, body.thrown = some exception → handled exception = true := by
  simp [catching, Option.filter_eq_none_iff]

/-- What a `try` block lets through is not handled. -/
theorem unhandled_of_catching {handled : ε → Bool} {body : Completion ε ω σ} {exception : ε}
    (threw : (body.catching handled).thrown = some exception) : handled exception = false := by
  obtain ⟨_, unhandled⟩ := Option.filter_eq_some_iff.mp threw
  simpa using unhandled

/-- What holds now and after every value holds after a computation. -/
theorem withValue_invariant (Inv : σ → Prop) {state : σ} (holds : Inv state)
    (computation : Except ε α) {next : α → Completion ε ω σ}
    (later : ∀ value, Inv (next value).state) :
    Inv (withValue state computation next).state := by
  cases computation with
  | error exception => exact holds
  | ok value => exact later value

theorem andThen_of_returned {first : Completion ε ω σ} (returned : first.thrown = none)
    (next : σ → Completion ε ω σ) :
    first.andThen next =
      ⟨(next first.state).state, first.emitted ++ (next first.state).emitted,
        (next first.state).thrown⟩ := by
  simp [andThen, returned]

theorem andThen_of_thrown {first : Completion ε ω σ} {exception : ε}
    (threw : first.thrown = some exception) (next : σ → Completion ε ω σ) :
    first.andThen next = first := by
  simp [andThen, threw]

@[simp] theorem done_andThen (state : σ) (next : σ → Completion ε ω σ) :
    (done state).andThen next = next state := by
  simp [andThen]

@[simp] theorem emit_andThen (state : σ) (calls : List ω) (next : σ → Completion ε ω σ) :
    (emit state calls).andThen next =
      ⟨(next state).state, calls ++ (next state).emitted, (next state).thrown⟩ := rfl

@[simp] theorem andThen_done (first : Completion ε ω σ) : first.andThen done = first := by
  cases threw : first.thrown with
  | none =>
      rw [andThen_of_returned threw]
      ext1 <;> simp [threw]
  | some exception => exact andThen_of_thrown threw done

@[simp] theorem throw_andThen (state : σ) (exception : ε) (next : σ → Completion ε ω σ) :
    (throw state exception).andThen next = throw state exception :=
  andThen_of_thrown rfl next

theorem andThen_assoc (first : Completion ε ω σ) (second third : σ → Completion ε ω σ) :
    (first.andThen second).andThen third =
      first.andThen fun state => (second state).andThen third := by
  cases firstThrew : first.thrown with
  | some exception => simp [andThen_of_thrown firstThrew]
  | none =>
      cases secondThrew : (second first.state).thrown with
      | none => simp [andThen, firstThrew, secondThrew, List.append_assoc]
      | some exception => simp [andThen, firstThrew, secondThrew]

/-- After a first part that returned, only the second can have something to catch. -/
theorem catching_andThen_of_returned {first : Completion ε ω σ} (returned : first.thrown = none)
    (handled : ε → Bool) (next : σ → Completion ε ω σ) :
    (first.andThen next).catching handled =
      first.andThen fun state => (next state).catching handled := by
  rw [andThen_of_returned returned, andThen_of_returned returned]
  rfl

/-- A sequence returns exactly when both parts do. -/
theorem andThen_returned_iff (first : Completion ε ω σ) (next : σ → Completion ε ω σ) :
    (first.andThen next).thrown = none ↔
      first.thrown = none ∧ (next first.state).thrown = none := by
  cases threw : first.thrown with
  | none => simp [andThen_of_returned threw]
  | some exception => simp [andThen_of_thrown threw, threw]

/-- What both parts preserve, the sequence preserves. -/
theorem andThen_invariant (Inv : σ → Prop) {first : Completion ε ω σ}
    {next : σ → Completion ε ω σ} (holds : Inv first.state)
    (preserved : ∀ state, Inv state → Inv (next state).state) :
    Inv (first.andThen next).state := by
  cases threw : first.thrown with
  | none =>
      rw [andThen_of_returned threw]
      exact preserved first.state holds
  | some exception =>
      rw [andThen_of_thrown threw]
      exact holds

/-- The calls of a sequence are calls of its parts. -/
theorem andThen_emitted {allowed : ω → Prop} {first : Completion ε ω σ}
    {next : σ → Completion ε ω σ} (here : ∀ call ∈ first.emitted, allowed call)
    (later : ∀ state, ∀ call ∈ (next state).emitted, allowed call) :
    ∀ call ∈ (first.andThen next).emitted, allowed call := by
  intro call member
  cases threw : first.thrown with
  | none =>
      rw [andThen_of_returned threw] at member
      exact (List.mem_append.mp member).elim (here call) (later first.state call)
  | some exception =>
      rw [andThen_of_thrown threw] at member
      exact here call member

@[simp] theorem forEach_nil (body : σ → α → Completion ε ω σ) (state : σ) :
    forEach body state [] = done state := rfl

theorem forEach_cons (body : σ → α → Completion ε ω σ) (state : σ) (item : α)
    (rest : List α) :
    forEach body state (item :: rest) =
      (body state item).andThen fun next => forEach body next rest := rfl

theorem forEach_append (body : σ → α → Completion ε ω σ) (state : σ) (first second : List α) :
    forEach body state (first ++ second) =
      (forEach body state first).andThen fun next => forEach body next second := by
  induction first generalizing state with
  | nil => simp
  | cons item rest inductionHypothesis =>
      rw [List.cons_append, forEach_cons, forEach_cons, andThen_assoc]
      congr 1
      funext next
      exact inductionHypothesis next

/-- A loop over items that do nothing does nothing. -/
theorem forEach_eq_done {body : σ → α → Completion ε ω σ} {state : σ} {items : List α}
    (idle : ∀ item ∈ items, body state item = done state) :
    forEach body state items = done state := by
  induction items with
  | nil => rfl
  | cons item rest inductionHypothesis =>
      obtain ⟨here, later⟩ := List.forall_mem_cons.mp idle
      rw [forEach_cons, here, done_andThen, inductionHypothesis later]

theorem forEach_map {β : Type y} (body : σ → β → Completion ε ω σ) (state : σ) (view : α → β)
    (items : List α) :
    forEach body state (items.map view) =
      forEach (fun state item => body state (view item)) state items := by
  induction items generalizing state with
  | nil => rfl
  | cons item rest inductionHypothesis =>
      rw [List.map_cons, forEach_cons, forEach_cons]
      congr 1
      funext next
      exact inductionHypothesis next

/-- What the body preserves, the loop preserves, also on a throwing run. -/
theorem forEach_invariant {body : σ → α → Completion ε ω σ} (Inv : σ → Prop)
    (preserved : ∀ state item, Inv state → Inv (body state item).state)
    {state : σ} (holds : Inv state) (items : List α) :
    Inv (forEach body state items).state := by
  induction items generalizing state with
  | nil => exact holds
  | cons item rest inductionHypothesis =>
      rw [forEach_cons]
      exact andThen_invariant Inv (preserved state item holds) fun _ kept =>
        inductionHypothesis kept

/-- What every call of the body satisfies, every call of the loop does. -/
theorem forEach_emitted {body : σ → α → Completion ε ω σ} {allowed : ω → Prop}
    (each : ∀ state item, ∀ call ∈ (body state item).emitted, allowed call)
    (state : σ) (items : List α) : ∀ call ∈ (forEach body state items).emitted, allowed call := by
  induction items generalizing state with
  | nil => simp
  | cons item rest inductionHypothesis =>
      rw [forEach_cons]
      exact andThen_emitted (each state item) inductionHypothesis

/-- When whether an item is accepted depends on the item alone, the loop returns
exactly when every item is accepted. -/
theorem forEach_returned_iff {body : σ → α → Completion ε ω σ} {accepted : α → Prop}
    (each : ∀ state item, (body state item).thrown = none ↔ accepted item) (state : σ)
    (items : List α) :
    (forEach body state items).thrown = none ↔ ∀ item ∈ items, accepted item := by
  induction items generalizing state with
  | nil => simp
  | cons item rest inductionHypothesis =>
      rw [forEach_cons, andThen_returned_iff, each, inductionHypothesis, List.forall_mem_cons]

/-- A loop that returned has taken the step of every item. -/
theorem forEach_state_of_returned {body : σ → α → Completion ε ω σ} {step : σ → α → σ}
    (each : ∀ state item, (body state item).state = step state item) {state : σ}
    {items : List α} (returned : (forEach body state items).thrown = none) :
    (forEach body state items).state = items.foldl step state := by
  induction items generalizing state with
  | nil => rfl
  | cons item rest inductionHypothesis =>
      rw [forEach_cons, andThen_returned_iff] at returned
      obtain ⟨here, later⟩ := returned
      rw [forEach_cons, andThen_of_returned here, List.foldl_cons, ← each]
      exact inductionHypothesis later

/-! ## Two completions side by side -/

/-- Two calls that make the same calls, end alike and leave related states. -/
structure Agree {τ : Type y} (Rel : σ → τ → Prop) (left : Completion ε ω σ)
    (right : Completion ε ω τ) : Prop where
  state : Rel left.state right.state
  emitted : left.emitted = right.emitted
  thrown : left.thrown = right.thrown

namespace Agree

variable {τ : Type y} {Rel : σ → τ → Prop}

theorem done {left : σ} {right : τ} (related : Rel left right) :
    Agree Rel (.done left : Completion ε ω σ) (.done right) :=
  ⟨related, rfl, rfl⟩

theorem emit {left : σ} {right : τ} (related : Rel left right) (calls : List ω) :
    Agree Rel (.emit left calls : Completion ε ω σ) (.emit right calls) :=
  ⟨related, rfl, rfl⟩

theorem throw {left : σ} {right : τ} (related : Rel left right) (exception : ε) :
    Agree Rel (.throw left exception : Completion ε ω σ) (.throw right exception) :=
  ⟨related, rfl, rfl⟩

theorem withValue {left : σ} {right : τ} (related : Rel left right)
    (computation : Except ε α) {leftNext : α → Completion ε ω σ}
    {rightNext : α → Completion ε ω τ}
    (later : ∀ value, Agree Rel (leftNext value) (rightNext value)) :
    Agree Rel (Completion.withValue left computation leftNext)
      (Completion.withValue right computation rightNext) := by
  cases computation with
  | error exception => exact throw related exception
  | ok value => exact later value

theorem andThen {left : Completion ε ω σ} {right : Completion ε ω τ} (first : Agree Rel left right)
    {leftNext : σ → Completion ε ω σ} {rightNext : τ → Completion ε ω τ}
    (later : ∀ leftState rightState, Rel leftState rightState →
      Agree Rel (leftNext leftState) (rightNext rightState)) :
    Agree Rel (left.andThen leftNext) (right.andThen rightNext) := by
  have next := later left.state right.state first.state
  cases threw : left.thrown with
  | none =>
      rw [andThen_of_returned threw, andThen_of_returned (first.thrown ▸ threw)]
      exact ⟨next.state, by rw [first.emitted, next.emitted], next.thrown⟩
  | some exception =>
      rw [andThen_of_thrown threw, andThen_of_thrown (first.thrown ▸ threw)]
      exact first

theorem catching {left : Completion ε ω σ} {right : Completion ε ω τ} (body : Agree Rel left right)
    (handled : ε → Bool) : Agree Rel (left.catching handled) (right.catching handled) :=
  ⟨body.state, body.emitted,
    congrArg (Option.filter fun exception => !handled exception) body.thrown⟩

theorem forEach {leftBody : σ → α → Completion ε ω σ} {rightBody : τ → α → Completion ε ω τ}
    (each : ∀ leftState rightState item, Rel leftState rightState →
      Agree Rel (leftBody leftState item) (rightBody rightState item))
    {left : σ} {right : τ} (related : Rel left right) (items : List α) :
    Agree Rel (Completion.forEach leftBody left items)
      (Completion.forEach rightBody right items) := by
  induction items generalizing left right with
  | nil => exact done related
  | cons item rest inductionHypothesis =>
      exact andThen (each left right item related) fun _ _ next => inductionHypothesis next

end Agree

end Completion
end Openpyn.Foundation
