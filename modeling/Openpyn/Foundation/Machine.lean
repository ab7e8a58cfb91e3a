import Mathlib.Data.List.Induction

/-!
# Input-driven machines

A component that reacts to one input at a time is a step function. `after` is
the state a whole run reaches and `outputs` the answers it gave. The rules here
turn one-step facts into facts about every run: `history` for what a state owes
to its past, `invariant` for what every state keeps, and `outputs_eq` for two
states that answer alike. `journal` interleaves the inputs of a run with its
answers, for what depends on their order.
-/

namespace Openpyn.Foundation

universe u v w

/-- A deterministic machine that answers every input. -/
structure Machine (σ : Type u) (ι : Type v) (ο : Type w) where
  step : σ → ι → σ × ο

namespace Machine

variable {σ : Type u} {ι : Type v} {ο : Type w} (machine : Machine σ ι ο)

/-- The state reached after a run. -/
def after : σ → List ι → σ
  | state, [] => state
  | state, input :: rest => after (machine.step state input).1 rest

/-- The answers of a run, in order. -/
def outputs : σ → List ι → List ο
  | _, [] => []
  | state, input :: rest =>
      (machine.step state input).2 :: outputs (machine.step state input).1 rest

@[simp] theorem after_nil (state : σ) : machine.after state [] = state := rfl

@[simp] theorem after_cons (state : σ) (input : ι) (rest : List ι) :
    machine.after state (input :: rest) = machine.after (machine.step state input).1 rest := rfl

@[simp] theorem outputs_nil (state : σ) : machine.outputs state [] = [] := rfl

@[simp] theorem outputs_cons (state : σ) (input : ι) (rest : List ι) :
    machine.outputs state (input :: rest) =
      (machine.step state input).2 :: machine.outputs (machine.step state input).1 rest := rfl

@[simp] theorem after_append (state : σ) (first second : List ι) :
    machine.after state (first ++ second) = machine.after (machine.after state first) second := by
  induction first generalizing state with
  | nil => rfl
  | cons input rest inductionHypothesis => exact inductionHypothesis _

@[simp] theorem outputs_append (state : σ) (first second : List ι) :
    machine.outputs state (first ++ second) =
      machine.outputs state first ++ machine.outputs (machine.after state first) second := by
  induction first generalizing state with
  | nil => rfl
  | cons input rest inductionHypothesis =>
      rw [List.cons_append, outputs_cons, outputs_cons, inductionHypothesis, after_cons,
        List.cons_append]

variable {machine}

/-- What every step preserves holds after every run. -/
theorem invariant (Inv : σ → Prop)
    (preserved : ∀ state input, Inv state → Inv (machine.step state input).1)
    {state : σ} (holds : Inv state) (inputs : List ι) : Inv (machine.after state inputs) := by
  induction inputs generalizing state with
  | nil => exact holds
  | cons input rest inductionHypothesis => exact inductionHypothesis (preserved state input holds)

/-- A relation between the past of a run, its answers and its state holds after
every run if it holds at the start and one more step keeps it. -/
theorem history (Rel : List ι → List ο → σ → Prop) {state : σ} (start : Rel [] [] state)
    (next : ∀ past answers current input, Rel past answers current →
      Rel (past ++ [input]) (answers ++ [(machine.step current input).2])
        (machine.step current input).1)
    (inputs : List ι) :
    Rel inputs (machine.outputs state inputs) (machine.after state inputs) := by
  suffices extended : ∀ past answers current, Rel past answers current →
      Rel (past ++ inputs) (answers ++ machine.outputs current inputs)
        (machine.after current inputs) by
    simpa using extended [] [] state start
  induction inputs with
  | nil =>
      intro past answers current related
      simpa using related
  | cons input rest inductionHypothesis =>
      intro past answers current related
      have stepped := next past answers current input related
      simpa using inductionHypothesis _ _ _ stepped

/-- Two states related by a relation whose steps answer alike answer every run
alike. -/
theorem outputs_eq (Rel : σ → σ → Prop)
    (alike : ∀ left right input, Rel left right →
      (machine.step left input).2 = (machine.step right input).2 ∧
        Rel (machine.step left input).1 (machine.step right input).1)
    {left right : σ} (related : Rel left right) (inputs : List ι) :
    machine.outputs left inputs = machine.outputs right inputs := by
  induction inputs generalizing left right with
  | nil => rfl
  | cons input rest inductionHypothesis =>
      obtain ⟨same, next⟩ := alike left right input related
      rw [outputs_cons, outputs_cons, same, inductionHypothesis next]

/-- What each step owes to its input alone, as long as an invariant holds. -/
theorem forall₂_outputs (Inv : σ → Prop) (Good : ι → ο → Prop)
    (step : ∀ state input, Inv state →
      Good input (machine.step state input).2 ∧ Inv (machine.step state input).1)
    {state : σ} (holds : Inv state) (inputs : List ι) :
    List.Forall₂ Good inputs (machine.outputs state inputs) := by
  induction inputs generalizing state with
  | nil => exact .nil
  | cons input rest inductionHypothesis =>
      obtain ⟨good, next⟩ := step state input holds
      exact .cons good (inductionHypothesis next)

section Modelled

variable {τ : Type u} (Step : τ → ι → ο → τ → Prop)

/-- The answers are ones that a model allows, step by step. -/
def Admits : τ → List ι → List ο → Prop
  | _, [], answers => answers = []
  | _, _ :: _, [] => False
  | model, input :: rest, answer :: answers =>
      ∃ next, Step model input answer next ∧ Admits next rest answers

variable {Step}

/-- A machine each of whose steps a model allows gives answers that it allows. -/
theorem admits_outputs (Rel : σ → τ → Prop) (inputs : List ι)
    (step : ∀ state model input, input ∈ inputs → Rel state model →
      ∃ next, Step model input (machine.step state input).2 next ∧
        Rel (machine.step state input).1 next)
    {state : σ} {model : τ} (related : Rel state model) :
    Admits Step model inputs (machine.outputs state inputs) := by
  induction inputs generalizing state model with
  | nil => rfl
  | cons input rest inductionHypothesis =>
      have later := fun state model next member =>
        step state model next (List.mem_cons_of_mem input member)
      obtain ⟨next, allowed, kept⟩ := step state model input List.mem_cons_self related
      exact ⟨next, allowed, inductionHypothesis later kept⟩

/-- A machine that answers as a plain one does, input by input. -/
theorem map_outputs_eq {κ : Type w} {plain : Machine τ ι κ} {read : ο → κ} (Rel : σ → τ → Prop)
    (inputs : List ι)
    (step : ∀ state model input, input ∈ inputs → Rel state model →
      read (machine.step state input).2 = (plain.step model input).2 ∧
        Rel (machine.step state input).1 (plain.step model input).1)
    {state : σ} {model : τ} (related : Rel state model) :
    (machine.outputs state inputs).map read = plain.outputs model inputs := by
  induction inputs generalizing state model with
  | nil => rfl
  | cons input rest inductionHypothesis =>
      have later := fun state model next member =>
        step state model next (List.mem_cons_of_mem input member)
      obtain ⟨same, kept⟩ := step state model input List.mem_cons_self related
      rw [outputs_cons, List.map_cons, outputs_cons, same, inductionHypothesis later kept]

end Modelled

section Journal

variable {κ : Type w} (logger : Machine σ ι (List κ))

/-- The inputs of a run and the answers to each, in the order they happened. -/
def journal : σ → List ι → List (ι ⊕ κ)
  | _, [] => []
  | state, input :: rest =>
      .inl input :: (logger.step state input).2.map .inr ++
        journal (logger.step state input).1 rest

@[simp] theorem journal_nil (state : σ) : logger.journal state [] = [] := rfl

theorem journal_concat (state : σ) (past : List ι) (input : ι) :
    logger.journal state (past ++ [input]) = logger.journal state past ++
      .inl input :: (logger.step (logger.after state past) input).2.map .inr := by
  induction past generalizing state with
  | nil => simp [journal]
  | cons first rest inductionHypothesis => simp [journal, inductionHypothesis]

/-- The last answer of a step comes after everything else. -/
theorem entries_concat (input : ι) (answers : List κ) (last : κ) :
    Sum.inl input :: (answers ++ [last]).map Sum.inr =
      (Sum.inl input :: answers.map Sum.inr) ++ [Sum.inr last] := by
  simp

variable {logger}

/-- A relation between the journal of a run and its state holds after every run if
it holds at the start and one more step keeps it. -/
theorem journal_history (Rel : List (ι ⊕ κ) → σ → Prop) {state : σ} (start : Rel [] state)
    (next : ∀ journal current input, Rel journal current →
      Rel (journal ++ .inl input :: (logger.step current input).2.map .inr)
        (logger.step current input).1)
    (inputs : List ι) : Rel (logger.journal state inputs) (logger.after state inputs) := by
  induction inputs using List.reverseRecOn with
  | nil => exact start
  | append_singleton past input inductionHypothesis =>
      rw [journal_concat, after_append]
      exact next _ _ input inductionHypothesis

end Journal

end Machine
end Openpyn.Foundation
