import Mathlib.Data.List.MinMax

/-!
# The first smallest item

A program that takes the smallest of the keys and looks it up among them finds the
first item of that key, which is `List.argmin`.
-/

namespace Openpyn.Foundation

universe u v
variable {α : Type u} {δ : Type v} [LinearOrder δ]

/-- The item at the first position of the smallest key. -/
def firstMin (key : α → δ) (items : List α) : Option α :=
  match (items.map key).min? with
  | some least => items[(items.map key).idxOf least]?
  | none => none

theorem firstMin_eq_argmin (key : α → δ) (items : List α) :
    firstMin key items = items.argmin key := by
  induction items with
  | nil => rfl
  | cons item rest inductionHypothesis =>
      rw [List.argmin_cons, ← inductionHypothesis]
      unfold firstMin
      cases smallest : (rest.map key).min? with
      | none =>
          obtain rfl := List.map_eq_nil_iff.mp (List.min?_eq_none_iff.mp smallest)
          simp
      | some least =>
          have member : least ∈ rest.map key := List.min?_mem smallest
          have inside : (rest.map key).idxOf least < (rest.map key).length :=
            List.idxOf_lt_length_iff.mpr member
          have insideRest : (rest.map key).idxOf least < rest.length := by
            rwa [List.length_map] at inside
          have here : key rest[(rest.map key).idxOf least] = least := by
            rw [← List.getElem_map key (h := inside)]
            exact List.getElem_idxOf inside
          have both : ((item :: rest).map key).min? = some (min (key item) least) := by
            rw [List.map_cons, List.min?_cons, smallest]
            rfl
          rw [both]
          simp only [List.getElem?_eq_getElem insideRest, here]
          split_ifs with smaller
          · rw [min_eq_right smaller.le, List.map_cons, List.idxOf_cons_ne _ smaller.ne',
              Nat.succ_eq_add_one, List.getElem?_cons_succ, List.getElem?_eq_getElem insideRest]
          · rw [min_eq_left (not_lt.mp smaller), List.map_cons, List.idxOf_cons_self]
            rfl

end Openpyn.Foundation
