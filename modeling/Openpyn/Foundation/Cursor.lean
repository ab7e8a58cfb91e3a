import Openpyn.Foundation.Completion

/-!
# Loops over an array position

A parser with one index into an array moves that index from several places: a
`for` loop, its body, and inner loops that run to an expected item and fail when
the array ends first. Each loop is compared with a recursion over the items that
are still to be read, on which induction is direct. The comparison is `Agree`:
both make the same calls, end alike and leave the same state.
-/

namespace Openpyn.Foundation

universe u v w x y

namespace Completion

variable {ε : Type u} {ω : Type v} {σ : Type w} {τ : Type y} {α : Type x}

/-- The same call, seen as leaving another kind of state. -/
def mapState (view : σ → τ) (body : Completion ε ω σ) : Completion ε ω τ :=
  ⟨view body.state, body.emitted, body.thrown⟩

/-- Sequencing into another kind of state, which a throw reaches through `view`. -/
def resume (view : σ → τ) (first : Completion ε ω σ) (next : σ → Completion ε ω τ) :
    Completion ε ω τ :=
  match first.thrown with
  | none =>
      ⟨(next first.state).state, first.emitted ++ (next first.state).emitted,
        (next first.state).thrown⟩
  | some _ => first.mapState view

@[simp] theorem mapState_state (view : σ → τ) (body : Completion ε ω σ) :
    (body.mapState view).state = view body.state := rfl
@[simp] theorem mapState_emitted (view : σ → τ) (body : Completion ε ω σ) :
    (body.mapState view).emitted = body.emitted := rfl
@[simp] theorem mapState_thrown (view : σ → τ) (body : Completion ε ω σ) :
    (body.mapState view).thrown = body.thrown := rfl

theorem resume_of_returned {first : Completion ε ω σ} (returned : first.thrown = none)
    (view : σ → τ) (next : σ → Completion ε ω τ) :
    first.resume view next =
      ⟨(next first.state).state, first.emitted ++ (next first.state).emitted,
        (next first.state).thrown⟩ := by
  simp [resume, returned]

theorem resume_of_thrown {first : Completion ε ω σ} {exception : ε}
    (threw : first.thrown = some exception) (view : σ → τ) (next : σ → Completion ε ω τ) :
    first.resume view next = first.mapState view := by
  simp [resume, threw]

theorem resume_andThen (first : Completion ε ω σ) (view : σ → τ) (next : σ → Completion ε ω τ)
    (after : τ → Completion ε ω τ) :
    (first.resume view next).andThen after =
      first.resume view fun state => (next state).andThen after := by
  cases firstThrew : first.thrown with
  | some exception =>
      rw [resume_of_thrown firstThrew, resume_of_thrown firstThrew]
      have threw : (first.mapState view).thrown = some exception := firstThrew
      exact andThen_of_thrown threw after
  | none =>
      cases nextThrew : (next first.state).thrown with
      | none => simp [resume, andThen, firstThrew, nextThrew, List.append_assoc]
      | some exception => simp [resume, andThen, firstThrew, nextThrew]

/-- What holds through the view and after every continuation holds after both. -/
theorem resume_invariant (Inv : τ → Prop) {first : Completion ε ω σ} {view : σ → τ}
    {next : σ → Completion ε ω τ} (holds : Inv (view first.state))
    (later : ∀ state, Inv (next state).state) : Inv (first.resume view next).state := by
  cases threw : first.thrown with
  | none =>
      rw [resume_of_returned threw]
      exact later first.state
  | some exception =>
      rw [resume_of_thrown threw]
      exact holds

theorem mapState_andThen (first : Completion ε ω σ) (view : σ → τ) (next : τ → Completion ε ω τ) :
    (first.mapState view).andThen next = first.resume view fun state => next (view state) := by
  cases threw : first.thrown with
  | none =>
      rw [resume_of_returned threw, andThen_of_returned (first.mapState_thrown view ▸ threw)]
      rfl
  | some exception =>
      rw [resume_of_thrown threw, andThen_of_thrown (first.mapState_thrown view ▸ threw)]

theorem Agree.resume {Rel : τ → σ → Prop} {first : Completion ε ω σ} {view : σ → τ}
    (seen : ∀ state, Rel (view state) state) {leftNext : σ → Completion ε ω τ}
    {rightNext : σ → Completion ε ω σ}
    (later : ∀ state, Agree Rel (leftNext state) (rightNext state)) :
    Agree Rel (first.resume view leftNext) (first.andThen rightNext) := by
  have next := later first.state
  cases threw : first.thrown with
  | none =>
      rw [resume_of_returned threw, andThen_of_returned threw]
      exact ⟨next.state, by rw [next.emitted], next.thrown⟩
  | some exception =>
      rw [resume_of_thrown threw, andThen_of_thrown threw]
      exact ⟨seen first.state, rfl, rfl⟩

end Completion

/-- A position in an array beside the state of the loop, and whether the loop was
left by `break`. -/
structure Cursor (σ : Type w) where
  state : σ
  index : Nat
  broke : Bool
deriving DecidableEq

namespace Cursor

open Completion

variable {ε : Type u} {ω : Type v} {σ : Type w} {α : Type x}

/-- `while (!stop(items[i])) body(items[i++]);` -/
def advanceUntil (missing : ε) (stop : α → Bool) (body : σ → α → Completion ε ω σ)
    (items : List α) (state : σ) (index : Nat) : Completion ε ω (Cursor σ) :=
  if inside : index < items.length then
    if stop items[index] then done ⟨state, index, false⟩
    else
      (body state items[index]).resume (fun next => ⟨next, index + 1, false⟩) fun next =>
        advanceUntil missing stop body items next (index + 1)
  else throw ⟨state, index, false⟩ missing
termination_by items.length - index

/-- `for (; i < length; i++) body`, where the body may advance the index too. -/
def forIndex (body : Cursor σ → Completion ε ω (Cursor σ))
    (advances : ∀ cursor, cursor.index ≤ (body cursor).state.index) (length : Nat)
    (cursor : Cursor σ) : Completion ε ω (Cursor σ) :=
  if cursor.index < length then
    if (body cursor).thrown.isSome || (body cursor).state.broke then body cursor
    else
      let later := forIndex body advances length
        { (body cursor).state with index := (body cursor).state.index + 1 }
      ⟨later.state, (body cursor).emitted ++ later.emitted, later.thrown⟩
  else done cursor
termination_by length - cursor.index
decreasing_by
  have := advances cursor
  omega

/-- The inner loop over the items still to read; `next` continues behind the item
that stopped it. -/
def eachUntil (missing : ε) (stop : α → Bool) (body : σ → α → Completion ε ω σ)
    (next : σ → List α → Completion ε ω σ) (state : σ) : List α → Completion ε ω σ
  | [] => throw state missing
  | item :: rest =>
      if stop item then next state rest
      else (body state item).andThen fun later => eachUntil missing stop body next later rest

/-- What a recursion over the remaining items knows of a cursor. -/
def Holds (cursor : Cursor σ) (state : σ) : Prop := cursor.state = state

theorem agrees_done (cursor : Cursor σ) :
    Agree Holds (done cursor : Completion ε ω (Cursor σ)) (done cursor.state) := by
  have related : Holds cursor cursor.state := rfl
  exact Agree.done related

theorem agrees_throw (cursor : Cursor σ) (exception : ε) :
    Agree Holds (throw cursor exception : Completion ε ω (Cursor σ))
      (throw cursor.state exception) := by
  have related : Holds cursor cursor.state := rfl
  exact Agree.throw related exception

variable {missing : ε} {stop : α → Bool} {body : σ → α → Completion ε ω σ} {items : List α}

theorem getElem_of_drop {index : Nat} {item : α} {rest : List α}
    (remaining : items.drop index = item :: rest) :
    ∃ inside : index < items.length, items[index] = item := by
  have inside : index < items.length := by
    rcases Nat.lt_or_ge index items.length with inside | outside
    · exact inside
    · rw [List.drop_eq_nil_of_le outside] at remaining
      cases remaining
  rw [List.drop_eq_getElem_cons inside] at remaining
  injection remaining with same
  exact ⟨inside, same⟩

theorem drop_succ_of_drop {index : Nat} {item : α} {rest : List α}
    (remaining : items.drop index = item :: rest) : items.drop (index + 1) = rest := by
  rw [← List.drop_drop, remaining]
  rfl

/-- The inner loop never moves the index back. -/
theorem advanceUntil_advances (state : σ) (index : Nat) :
    index ≤ (advanceUntil missing stop body items state index).state.index := by
  induction measured : items.length - index generalizing state index with
  | zero =>
      have outside : ¬index < items.length := by omega
      rw [advanceUntil, dif_neg outside]
      exact Nat.le_refl index
  | succ remaining inductionHypothesis =>
      have inside : index < items.length := by omega
      rw [advanceUntil, dif_pos inside]
      split
      · exact Nat.le_refl index
      · apply resume_invariant fun cursor : Cursor σ => index ≤ cursor.index
        · exact Nat.le_succ index
        · intro next
          have later := inductionHypothesis next (index + 1) (by omega)
          omega

/-- The index loop and what follows it agree with the recursion over the remaining
items, when what follows does. -/
theorem advanceUntil_agrees {after : Cursor σ → Completion ε ω (Cursor σ)}
    {next : σ → List α → Completion ε ω σ}
    (later : ∀ state index item rest, items.drop index = item :: rest → stop item = true →
      Agree Holds (after ⟨state, index, false⟩) (next state rest))
    (state : σ) {index : Nat} {rest : List α} (remaining : items.drop index = rest) :
    Agree Holds
      ((advanceUntil missing stop body items state index).andThen after)
      (eachUntil missing stop body next state rest) := by
  induction rest generalizing state index with
  | nil =>
      have outside : ¬index < items.length := by
        have := List.drop_eq_nil_iff.mp remaining
        omega
      rw [advanceUntil, dif_neg outside, throw_andThen, eachUntil]
      exact agrees_throw ⟨state, index, false⟩ missing
  | cons item rest inductionHypothesis =>
      obtain ⟨inside, here⟩ := getElem_of_drop remaining
      rw [advanceUntil, dif_pos inside, here, eachUntil]
      by_cases stops : stop item = true
      · rw [if_pos stops, if_pos stops, done_andThen]
        exact later state index item rest remaining stops
      · rw [if_neg stops, if_neg stops]
        rw [resume_andThen]
        apply Agree.resume
        · intro next
          exact rfl
        · intro next
          exact inductionHypothesis next (drop_succ_of_drop remaining)

/-- Items before the first one that stops are each given to the body. -/
theorem eachUntil_found {next : σ → List α → Completion ε ω σ} (state : σ) {rows : List α}
    (before : ∀ row ∈ rows, stop row = false) {item : α} (stops : stop item = true)
    (rest : List α) :
    eachUntil missing stop body next state (rows ++ item :: rest) =
      (forEach body state rows).andThen fun later => next later rest := by
  induction rows generalizing state with
  | nil => simp [eachUntil, stops]
  | cons row rows inductionHypothesis =>
      have passes := before row List.mem_cons_self
      have others : ∀ other ∈ rows, stop other = false := fun other member =>
        before other (List.mem_cons_of_mem row member)
      rw [List.cons_append, eachUntil, passes, if_neg Bool.false_ne_true, forEach_cons,
        andThen_assoc]
      congr 1
      funext later
      exact inductionHypothesis later others

/-- Two inner loops over the same items agree if their bodies and continuations do. -/
theorem eachUntil_agrees {τ : Type y} {Rel : σ → τ → Prop}
    {leftBody : σ → α → Completion ε ω σ} {rightBody : τ → α → Completion ε ω τ}
    {leftNext : σ → List α → Completion ε ω σ} {rightNext : τ → List α → Completion ε ω τ}
    (each : ∀ left right item, Rel left right →
      Agree Rel (leftBody left item) (rightBody right item))
    (later : ∀ left right rest, Rel left right →
      Agree Rel (leftNext left rest) (rightNext right rest))
    {left : σ} {right : τ} (related : Rel left right) (items : List α) :
    Agree Rel (eachUntil missing stop leftBody leftNext left items)
      (eachUntil missing stop rightBody rightNext right items) := by
  induction items generalizing left right with
  | nil => exact Agree.throw related missing
  | cons item rest inductionHypothesis =>
      rw [eachUntil, eachUntil]
      split
      · exact later left right rest related
      · exact (each left right item related).andThen fun _ _ next => inductionHypothesis next

/-- The `for` loop is its body and, unless that broke off, the rest of the loop. -/
theorem forIndex_of_lt (round : Cursor σ → Completion ε ω (Cursor σ))
    (advances : ∀ cursor, cursor.index ≤ (round cursor).state.index) {length : Nat}
    {cursor : Cursor σ} (inside : cursor.index < length) :
    forIndex round advances length cursor =
      (round cursor).andThen fun next =>
        if next.broke then done next
        else forIndex round advances length { next with index := next.index + 1 } := by
  rw [forIndex, if_pos inside]
  cases threw : (round cursor).thrown with
  | some exception => simp [andThen_of_thrown threw]
  | none =>
      rw [andThen_of_returned threw]
      cases broke : (round cursor).state.broke with
      | true => ext1 <;> simp [threw]
      | false => simp [broke]

theorem forIndex_of_le (round : Cursor σ → Completion ε ω (Cursor σ))
    (advances : ∀ cursor, cursor.index ≤ (round cursor).state.index) {length : Nat}
    {cursor : Cursor σ} (outside : length ≤ cursor.index) :
    forIndex round advances length cursor = done cursor := by
  rw [forIndex, if_neg (by omega)]

end Cursor

end Openpyn.Foundation
