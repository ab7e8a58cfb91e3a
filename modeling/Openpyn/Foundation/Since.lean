import Mathlib.Data.List.Induction

/-!
# What has held since

A condition that some events of a history open and others close holds when an
opening event has occurred and no closing one since. A property of events and their
pasts holds always when every event of a history has it, and throughout when every
past does. The rules take a history apart from either end.
-/

namespace Openpyn.Foundation

universe u
variable {ε : Type u} {opens closes : ε → Prop}

/-- An opening event has occurred, and no closing one since. -/
def Since (opens closes : ε → Prop) (past : List ε) : Prop :=
  ∃ before event after, past = before ++ event :: after ∧ opens event ∧
    ∀ later ∈ after, ¬closes later

@[simp] theorem not_since_nil : ¬Since opens closes [] := by
  rintro ⟨before, event, after, past, -, -⟩
  simp at past

@[simp] theorem since_cons {event : ε} {rest : List ε} :
    Since opens closes (event :: rest) ↔
      (opens event ∧ ∀ later ∈ rest, ¬closes later) ∨ Since opens closes rest := by
  constructor
  · rintro ⟨before, opening, after, whole, opened, kept⟩
    cases before with
    | nil =>
        obtain ⟨rfl, rfl⟩ := List.cons.inj whole
        exact .inl ⟨opened, kept⟩
    | cons head inner =>
        obtain ⟨rfl, tail⟩ := List.cons.inj whole
        exact .inr ⟨inner, opening, after, tail, opened, kept⟩
  · rintro (⟨opened, kept⟩ | ⟨before, opening, after, rfl, opened, kept⟩)
    · exact ⟨[], event, rest, rfl, opened, kept⟩
    · exact ⟨event :: before, opening, after, rfl, opened, kept⟩

theorem since_append {past events : List ε} :
    Since opens closes (past ++ events) ↔
      Since opens closes events ∨ (Since opens closes past ∧ ∀ event ∈ events, ¬closes event) := by
  induction past with
  | nil => simp
  | cons first rest inductionHypothesis =>
      rw [List.cons_append, since_cons, since_cons, inductionHypothesis]
      simp only [List.mem_append, or_imp, forall_and]
      rw [or_and_right, and_assoc, or_left_comm]

/-- An opening event opens the condition even if it closes it too. -/
@[simp] theorem since_concat {past : List ε} {event : ε} :
    Since opens closes (past ++ [event]) ↔
      opens event ∨ (Since opens closes past ∧ ¬closes event) := by
  simp [since_append]

/-- Events that neither open nor close leave the condition as it is. -/
theorem since_append_of_neutral {past events : List ε}
    (neutral : ∀ event ∈ events, ¬opens event ∧ ¬closes event) :
    Since opens closes (past ++ events) ↔ Since opens closes past := by
  rw [since_append]
  constructor
  · rintro (⟨before, event, after, rfl, opened, -⟩ | ⟨since, -⟩)
    · exact absurd opened (neutral event (by simp)).1
    · exact since
  · exact fun since => .inr ⟨since, fun event member => (neutral event member).2⟩

/-- Fewer closing events. -/
theorem Since.mono {fewer : ε → Prop} (implies : ∀ event, fewer event → closes event)
    {past : List ε} (since : Since opens closes past) : Since opens fewer past := by
  obtain ⟨before, event, after, whole, opened, kept⟩ := since
  exact ⟨before, event, after, whole, opened, fun later member =>
    mt (implies later) (kept later member)⟩

instance [DecidablePred opens] [DecidablePred closes] : DecidablePred (Since opens closes) :=
  fun past => decidable_of_iff
    (past.foldl (fun holds event => decide (opens event) || (holds && !decide (closes event)))
      false = true) <| by
    induction past using List.reverseRecOn with
    | nil => simp
    | append_singleton past event inductionHypothesis =>
        simp [← inductionHypothesis]

/-- What came before the latest opening event. -/
def beforeLatest (opens : ε → Prop) [DecidablePred opens] (past : List ε) : Option (List ε) :=
  match past.reverse.dropWhile fun event => ¬opens event with
  | [] => none
  | _ :: earlier => some earlier.reverse

@[simp] theorem beforeLatest_concat [DecidablePred opens] (past : List ε) (event : ε) :
    beforeLatest opens (past ++ [event]) =
      if opens event then some past else beforeLatest opens past := by
  simp only [beforeLatest, List.reverse_append, List.reverse_singleton, List.singleton_append,
    List.dropWhile_cons]
  by_cases opened : opens event
  · simp [opened]
  · simp [opened]

theorem beforeLatest_append_of_forall_not [DecidablePred opens] {past events : List ε}
    (neutral : ∀ event ∈ events, ¬opens event) :
    beforeLatest opens (past ++ events) = beforeLatest opens past := by
  induction events using List.reverseRecOn with
  | nil => rw [List.append_nil]
  | append_singleton events event inductionHypothesis =>
      rw [← List.append_assoc, beforeLatest_concat, if_neg (neutral event (by simp)),
        inductionHypothesis fun earlier member => neutral earlier (by simp [member])]

/-- Every event of the history has the property, given what came before it. -/
def Always (property : List ε → ε → Prop) (history : List ε) : Prop :=
  ∀ before event after, history = before ++ event :: after → property before event

variable {property other : List ε → ε → Prop}

/-- A property that an event has after any past. -/
theorem always_of_forall {history : List ε}
    (holds : ∀ event ∈ history, ∀ before, property before event) : Always property history := by
  rintro before event after rfl
  exact holds event (by simp) before

@[simp] theorem always_nil : Always property [] := by
  intro before event after whole
  simp at whole

@[simp] theorem always_cons {event : ε} {rest : List ε} :
    Always property (event :: rest) ↔
      property [] event ∧ Always (fun before => property (event :: before)) rest := by
  constructor
  · intro always
    refine ⟨always [] event rest rfl, ?_⟩
    rintro before later after rfl
    exact always (event :: before) later after rfl
  · rintro ⟨first, always⟩ before latest after whole
    cases before with
    | nil =>
        obtain ⟨rfl, -⟩ := List.cons.inj whole
        exact first
    | cons head inner =>
        obtain ⟨rfl, tail⟩ := List.cons.inj whole
        exact always inner latest after tail

theorem always_append {past events : List ε} :
    Always property (past ++ events) ↔
      Always property past ∧ Always (fun before => property (past ++ before)) events := by
  induction past generalizing property with
  | nil => simp
  | cons event rest inductionHypothesis => simp [inductionHypothesis, and_assoc]

theorem always_concat {past : List ε} {event : ε} :
    Always property (past ++ [event]) ↔ Always property past ∧ property past event := by
  simp [always_append]

/-- Every past of the history has the property, the whole history included. -/
def Throughout (property : List ε → Prop) (history : List ε) : Prop :=
  ∀ past, past <+: history → property past

theorem Throughout.last {property : List ε → Prop} {history : List ε}
    (throughout : Throughout property history) : property history :=
  throughout history (List.prefix_refl history)

theorem throughout_nil {property : List ε → Prop} : Throughout property [] ↔ property [] := by
  simp [Throughout]

theorem throughout_concat {property : List ε → Prop} {past : List ε} {event : ε} :
    Throughout property (past ++ [event]) ↔
      Throughout property past ∧ property (past ++ [event]) := by
  simp only [Throughout, List.prefix_concat_iff, or_imp, forall_and, forall_eq]
  exact and_comm

/-- Equivalent properties hold always together. -/
theorem always_congr {history : List ε} {premise : List ε → ε → Prop}
    (holds : Always premise history)
    (same : ∀ before event, premise before event → (property before event ↔ other before event)) :
    Always property history ↔ Always other history := by
  constructor
  · intro always before event after whole
    exact (same before event (holds before event after whole)).mp (always before event after whole)
  · intro always before event after whole
    exact (same before event (holds before event after whole)).mpr (always before event after whole)

end Openpyn.Foundation
