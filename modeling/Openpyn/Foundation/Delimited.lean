import Mathlib.Data.List.Infix

/-!
# Fields between delimiters

Fields are joined by a delimiter of several characters and cut apart again at its
leftmost occurrences, which do not overlap. Fields that never contain the first
character of the delimiter survive the round trip.
-/

namespace Openpyn.Foundation

universe u
variable {α : Type u} [DecidableEq α]

/-- Scan a text with the current field so far, while `skip` characters of a delimiter
are still to be passed over. -/
def cutFrom (delimiter : List α) : Nat → List α → List α → List (List α)
  | _, field, [] => [field]
  | skip + 1, field, _ :: rest => cutFrom delimiter skip field rest
  | 0, field, ch :: rest =>
      if delimiter <+: ch :: rest then
        field :: cutFrom delimiter (delimiter.length - 1) [] rest
      else cutFrom delimiter 0 (field ++ [ch]) rest

/-- Cut a text at every occurrence of a delimiter. -/
def cutBy (delimiter text : List α) : List (List α) := cutFrom delimiter 0 [] text

section

variable {first : α} {more : List α}

/-- Characters other than the first of the delimiter belong to the field. -/
theorem cutFrom_append {text : List α} (free : first ∉ text) (field rest : List α) :
    cutFrom (first :: more) 0 field (text ++ rest) =
      cutFrom (first :: more) 0 (field ++ text) rest := by
  induction text generalizing field with
  | nil => rw [List.nil_append, List.append_nil]
  | cons ch text inductionHypothesis =>
      obtain ⟨different, absent⟩ := not_or.mp (mt List.mem_cons.mpr free)
      have elsewhere : ¬first :: more <+: ch :: (text ++ rest) := by
        rw [List.cons_prefix_cons]
        exact fun occurs => different occurs.1
      rw [List.cons_append, cutFrom, if_neg elsewhere, inductionHypothesis absent,
        List.append_assoc, List.singleton_append]

theorem cutFrom_skip (delimiter skipped rest : List α) :
    cutFrom delimiter skipped.length [] (skipped ++ rest) = cutFrom delimiter 0 [] rest := by
  induction skipped with
  | nil => rfl
  | cons ch skipped inductionHypothesis =>
      rw [List.cons_append, List.length_cons, cutFrom]
      exact inductionHypothesis

/-- A delimiter ends the field. -/
theorem cutFrom_delimiter (field rest : List α) :
    cutFrom (first :: more) 0 field (first :: more ++ rest) =
      field :: cutFrom (first :: more) 0 [] rest := by
  have occurs : first :: more <+: first :: (more ++ rest) := List.prefix_append (first :: more) rest
  rw [List.cons_append, cutFrom, if_pos occurs, List.length_cons, Nat.add_sub_cancel,
    cutFrom_skip]

/-- Joined fields are cut apart again. -/
theorem cutBy_intercalate {fields : List (List α)} (nonempty : fields ≠ [])
    (free : ∀ field ∈ fields, first ∉ field) :
    cutBy (first :: more) ((first :: more).intercalate fields) = fields := by
  induction fields with
  | nil => exact absurd rfl nonempty
  | cons field rest inductionHypothesis =>
      have clean := free field List.mem_cons_self
      unfold cutBy at inductionHypothesis ⊢
      cases rest with
      | nil =>
          rw [List.intercalate_singleton, ← List.append_nil field, cutFrom_append clean, cutFrom,
            List.nil_append, List.append_nil]
      | cons next rest =>
          rw [List.intercalate_cons_cons, List.append_assoc, cutFrom_append clean,
            cutFrom_delimiter,
            inductionHypothesis (List.cons_ne_nil _ _)
              fun other member => free other (List.mem_cons_of_mem _ member)]
          rfl

end

end Openpyn.Foundation
