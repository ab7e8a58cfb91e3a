import Mathlib.Data.List.Induction
import Mathlib.Order.Lattice

/-!
# Leaders of a sequence

An item leads a sequence when its key exceeds a bound and every key before it.
A history that keeps one item for each period keeps the leaders: their keys
increase strictly, and the greatest key so far decides whether the next item
leads too.
-/

namespace Openpyn.Foundation

universe u v
variable {α : Type u} {κ : Type v} [LinearOrder κ] (key : α → κ)

/-- The greatest key so far, `bound` being the greatest before. -/
def peak (bound : κ) (items : List α) : κ :=
  items.foldl (fun top item => max top (key item)) bound

/-- The items whose key exceeds `bound` and the keys before them. -/
def leaders : κ → List α → List α
  | _, [] => []
  | bound, item :: rest =>
      if bound < key item then item :: leaders (key item) rest else leaders bound rest

@[simp] theorem peak_nil (bound : κ) : peak key bound [] = bound := rfl

@[simp] theorem peak_cons (bound : κ) (item : α) (rest : List α) :
    peak key bound (item :: rest) = peak key (max bound (key item)) rest := rfl

@[simp] theorem leaders_nil (bound : κ) : leaders key bound [] = [] := rfl

theorem peak_concat (bound : κ) (items : List α) (item : α) :
    peak key bound (items ++ [item]) = max (peak key bound items) (key item) := by
  simp [peak]

/-- Whether one more item leads is decided by the greatest key before it. -/
theorem leaders_concat (bound : κ) (items : List α) (item : α) :
    leaders key bound (items ++ [item]) =
      if peak key bound items < key item then leaders key bound items ++ [item]
      else leaders key bound items := by
  induction items generalizing bound with
  | nil => rfl
  | cons first rest inductionHypothesis =>
      rw [List.cons_append, leaders, leaders, peak_cons]
      by_cases leads : bound < key first
      · rw [if_pos leads, if_pos leads, max_eq_right leads.le, inductionHypothesis]
        split
        · rfl
        · rfl
      · rw [if_neg leads, if_neg leads, max_eq_left (not_lt.mp leads), inductionHypothesis]

variable {key}

/-- Nothing exceeds a bound on all keys. -/
theorem peak_le {bound top : κ} {items : List α} (bounded : bound ≤ top)
    (below : ∀ item ∈ items, key item ≤ top) : peak key bound items ≤ top := by
  induction items generalizing bound with
  | nil => exact bounded
  | cons first rest inductionHypothesis =>
      rw [peak_cons]
      apply inductionHypothesis
      · exact max_le bounded (below first List.mem_cons_self)
      · exact fun item member => below item (List.mem_cons_of_mem first member)

theorem bound_le_peak (bound : κ) (items : List α) : bound ≤ peak key bound items := by
  induction items generalizing bound with
  | nil => exact le_rfl
  | cons first rest inductionHypothesis =>
      rw [peak_cons]
      exact (le_max_left bound (key first)).trans (inductionHypothesis _)

theorem le_peak_of_mem {bound : κ} {items : List α} {item : α} (member : item ∈ items) :
    key item ≤ peak key bound items := by
  induction items generalizing bound with
  | nil => simp at member
  | cons first rest inductionHypothesis =>
      rw [peak_cons]
      rcases List.mem_cons.mp member with rfl | later
      · exact (le_max_right bound (key item)).trans (bound_le_peak _ rest)
      · exact inductionHypothesis later

/-- The latest item has the greatest key when no key before it is greater. -/
theorem peak_concat_of_le {bound : κ} {items : List α} {item : α} (bounded : bound ≤ key item)
    (below : ∀ earlier ∈ items, key earlier ≤ key item) :
    peak key bound (items ++ [item]) = key item := by
  rw [peak_concat]
  exact max_eq_right (peak_le bounded below)

theorem leaders_sublist (bound : κ) (items : List α) : (leaders key bound items).Sublist items := by
  induction items generalizing bound with
  | nil => exact List.Sublist.refl []
  | cons first rest inductionHypothesis =>
      rw [leaders]
      split
      · exact (inductionHypothesis _).cons_cons first
      · exact (inductionHypothesis _).cons first

theorem lt_key_of_mem_leaders {bound : κ} {items : List α} {item : α}
    (leads : item ∈ leaders key bound items) : bound < key item := by
  induction items generalizing bound with
  | nil => simp at leads
  | cons first rest inductionHypothesis =>
      rw [leaders] at leads
      split at leads
      · rename_i exceeds
        rcases List.mem_cons.mp leads with rfl | later
        · exact exceeds
        · exact exceeds.trans (inductionHypothesis later)
      · exact inductionHypothesis leads

variable (key)

/-- The keys of the leaders increase strictly. -/
theorem leaders_increase (bound : κ) (items : List α) :
    (leaders key bound items).Pairwise fun earlier later => key earlier < key later := by
  induction items generalizing bound with
  | nil => exact List.Pairwise.nil
  | cons first rest inductionHypothesis =>
      rw [leaders]
      split
      · refine List.Pairwise.cons ?_ (inductionHypothesis _)
        exact fun later member => lt_key_of_mem_leaders member
      · exact inductionHypothesis _

/-- The last leader has the greatest key so far. -/
theorem key_last_leader {bound : κ} {start : α} (starts : key start = bound) (items : List α) :
    key ((leaders key bound items).getLastD start) = peak key bound items := by
  induction items using List.reverseRecOn with
  | nil => exact starts
  | append_singleton items item inductionHypothesis =>
      rw [leaders_concat, peak_concat]
      split
      · rename_i exceeds
        rw [List.getLastD_concat, max_eq_right exceeds.le]
      · rename_i behind
        rw [inductionHypothesis, max_eq_left (not_lt.mp behind)]

end Openpyn.Foundation
