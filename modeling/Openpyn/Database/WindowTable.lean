import Openpyn.Database.CursorWindow
import Mathlib.Data.List.Basic

/-!
# Cursor windows hold tables

What a cursor window is for: rows of equally many fields, where each field is read as it was last
put. The window keeps them in one block of memory, and every operation that succeeds on the block
does to the table what its name says. An operation that fails leaves the table alone, and fails
for the reason it gives.
-/

namespace Openpyn.Database

open Openpyn.Foundation

/-! ## Tables -/

/-- Rows of equally many fields. -/
structure Table where
  columns : Nat
  rows : List (List Field)
  width : ∀ row ∈ rows, row.length = columns

namespace Table

variable {table : Table}

def empty : Table := ⟨0, [], fun _ member => absurd member List.not_mem_nil⟩

def field (table : Table) (row column : Nat) : Option Field :=
  table.rows[row]?.bind (·[column]?)

theorem width_allocRow (table : Table) :
    ∀ row ∈ table.rows ++ [List.replicate table.columns Field.null],
      row.length = table.columns := by
  intro row member
  rcases List.mem_append.mp member with before | new
  · exact table.width row before
  · rw [List.mem_singleton.mp new, List.length_replicate]

def allocRow (table : Table) : Table := ⟨table.columns, _, table.width_allocRow⟩

theorem width_freeLastRow (table : Table) : ∀ row ∈ table.rows.dropLast,
    row.length = table.columns :=
  fun row member => table.width row (List.dropLast_subset table.rows member)

def freeLastRow (table : Table) : Table := ⟨table.columns, _, table.width_freeLastRow⟩

theorem width_putField (table : Table) (row column : Nat) (field : Field) :
    ∀ fields ∈ table.rows.modify row (·.set column field), fields.length = table.columns := by
  intro fields member
  obtain ⟨index, bound, rfl⟩ := List.getElem_of_mem member
  rw [List.length_modify] at bound
  rw [List.getElem_modify]
  split
  · rw [List.length_set]
    exact table.width _ (List.getElem_mem bound)
  · exact table.width _ (List.getElem_mem bound)

def putField (table : Table) (row column : Nat) (field : Field) : Table :=
  ⟨table.columns, _, table.width_putField row column field⟩

/-- Rows that are there keep their fields. -/
def Refuses (table : Table) (numColumns : Nat) : Prop :=
  (0 < table.columns ∨ 0 < table.rows.length) ∧ table.columns ≠ numColumns

instance (table : Table) (numColumns : Nat) : Decidable (table.Refuses numColumns) :=
  inferInstanceAs (Decidable (_ ∧ _))

theorem width_setNumColumns {numColumns : Nat} (accepts : ¬ table.Refuses numColumns) :
    ∀ row ∈ table.rows, row.length = numColumns := by
  intro row member
  have some : 0 < table.rows.length := List.length_pos_of_mem member
  by_contra other
  rw [table.width row member] at other
  exact accepts ⟨.inr some, other⟩

/-- What an operation does to a table when there is memory enough. -/
def perform (table : Table) : CursorWindow.Operation → Except Status Table
  | .clear => .ok empty
  | .setNumColumns numColumns =>
      if refuses : table.Refuses numColumns then .error .invalidOperation
      else .ok ⟨numColumns, table.rows, width_setNumColumns refuses⟩
  | .allocRow => .ok table.allocRow
  | .freeLastRow => .ok table.freeLastRow
  | .putField row column field =>
      if row < table.rows.length ∧ column < table.columns then
        .ok (table.putField row column field)
      else .error .badValue

/-- What becomes of a table: an operation that is refused leaves it alone. -/
def performed (table : Table) (operation : CursorWindow.Operation) : Table :=
  match table.perform operation with
  | .ok after => after
  | .error _ => table

def after (table : Table) (operations : List CursorWindow.Operation) : Table :=
  operations.foldl performed table

/-! ### Looking up -/

theorem field_isSome (table : Table) (row column : Nat) :
    (table.field row column).isSome = true ↔ row < table.rows.length ∧ column < table.columns := by
  rw [field]
  cases found : table.rows[row]? with
  | none =>
      have outside := List.getElem?_eq_none_iff.mp found
      simp only [Option.bind_none, Option.isSome_none, Bool.false_eq_true, false_iff]
      omega
  | some fields =>
      obtain ⟨bound, same⟩ := List.getElem?_eq_some_iff.mp found
      have width := table.width fields (same ▸ List.getElem_mem bound)
      rw [Option.bind_some, isSome_getElem?, width]
      exact (and_iff_right bound).symm

theorem lt_of_field {row column : Nat} {field : Field}
    (found : table.field row column = some field) :
    row < table.rows.length ∧ column < table.columns := by
  rw [← field_isSome, found]
  rfl

theorem field_eq_none {row column : Nat}
    (outside : ¬ (row < table.rows.length ∧ column < table.columns)) :
    table.field row column = none := by
  rw [← Option.not_isSome_iff_eq_none, field_isSome]
  exact outside

theorem field_allocRow_of_some {row column : Nat} {field : Field}
    (found : table.allocRow.field row column = some field) :
    table.field row column = some field ∨
      (row = table.rows.length ∧ column < table.columns ∧ field = .null) := by
  simp only [Table.field, allocRow] at found
  by_cases before : row < table.rows.length
  · rw [List.getElem?_append_left before] at found
    exact .inl found
  · rw [List.getElem?_append_right (by omega)] at found
    obtain ⟨fields, new, here⟩ := Option.bind_eq_some_iff.mp found
    obtain ⟨last, rfl⟩ := List.getElem?_eq_some_iff.mp new
    obtain ⟨bound, same⟩ := List.getElem?_eq_some_iff.mp here
    simp only [List.length_singleton] at last
    simp only [List.getElem_singleton, List.length_replicate, List.getElem_replicate] at bound same
    exact .inr ⟨by omega, bound, same.symm⟩

theorem field_freeLastRow_of_some {row column : Nat} {field : Field}
    (found : table.freeLastRow.field row column = some field) :
    table.field row column = some field := by
  have bound : row < table.rows.dropLast.length := (lt_of_field found).1
  have before : row < table.rows.length - 1 := by rwa [← List.length_dropLast]
  simp only [Table.field, freeLastRow, List.getElem?_dropLast, if_pos before] at found
  exact found

theorem field_putField (table : Table) {row column : Nat} (field : Field)
    (inside : row < table.rows.length ∧ column < table.columns) (otherRow otherColumn : Nat) :
    (table.putField row column field).field otherRow otherColumn =
      if otherRow = row ∧ otherColumn = column then some field
      else table.field otherRow otherColumn := by
  simp only [Table.field, putField, List.getElem?_modify]
  by_cases sameRow : row = otherRow
  · have found := List.getElem?_eq_getElem inside.1
    have width := table.width _ (List.getElem_mem inside.1)
    simp only [← sameRow, found, Option.map_eq_map, Option.map_some, Option.bind_some, if_true,
      true_and, List.getElem?_set, width, inside.2]
    by_cases sameColumn : column = otherColumn
    · rw [if_pos sameColumn, if_pos sameColumn.symm]
    · rw [if_neg sameColumn, if_neg (Ne.symm sameColumn)]
  · rw [if_neg (fun same => sameRow same.1.symm)]
    simp only [sameRow, if_false, Option.map_eq_map, Option.map_id']

end Table

end Openpyn.Database
