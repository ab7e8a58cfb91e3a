import Mathlib.Data.List.Basic

/-!
# Overwriting in place

A file that is opened for writing is emptied first, and a write may stop after any
prefix of its data. Data are uncuttable for a reader that rejects each of their proper
prefixes: after a write it finds the value whole or rejects the file.
-/

namespace Openpyn.Foundation

universe u v
variable {β : Type u} {α : Type v}

/-- How a write ends. -/
inductive WriteEnd where
  | notOpened
  | stopped (written : Nat)
  | finished
deriving DecidableEq

/-- What a write of the data leaves of a file, which need not exist. -/
def overwrite (data : List β) (file : Option (List β)) : WriteEnd → Option (List β)
  | .notOpened => file
  | .stopped written => some (data.take written)
  | .finished => some data

/-- The data decode to the value, and none of their proper prefixes decodes. -/
structure Uncuttable (decode : List β → Option α) (data : List β) (value : α) : Prop where
  whole : decode data = some value
  cut : ∀ written < data.length, decode (data.take written) = none

theorem Uncuttable.decode_take {decode : List β → Option α} {data : List β} {value : α}
    (uncuttable : Uncuttable decode data value) (written : Nat) :
    decode (data.take written) = if data.length ≤ written then some value else none := by
  split
  · rename_i complete
    rw [List.take_of_length_le complete, uncuttable.whole]
  · rename_i incomplete
    exact uncuttable.cut written (Nat.lt_of_not_le incomplete)

/-- A reader that accepts only what ends with a mark that occurs nowhere else in the
data rejects every cut. -/
theorem Uncuttable.of_getLast {decode : List β → Option α} {inner : List β} {mark : β}
    {value : α} (whole : decode (inner ++ [mark]) = some value) (unmarked : mark ∉ inner)
    (marked : ∀ data, (decode data).isSome → data.getLast? = some mark) :
    Uncuttable decode (inner ++ [mark]) value where
  whole := whole
  cut := by
    intro written short
    have inside : (inner ++ [mark]).take written = inner.take written :=
      List.take_append_of_le_length (Nat.le_of_lt_succ (by simpa using short))
    rw [inside, Option.eq_none_iff_forall_ne_some]
    intro decoded accepted
    have ended := marked _ (Option.isSome_iff_exists.mpr ⟨decoded, accepted⟩)
    exact unmarked (List.mem_of_mem_take (List.mem_of_getLast? ended))

end Openpyn.Foundation
