import Openpyn.Database.WindowRefinement

/-!
# Filling a cursor window with the rows of a query

A statement is stepped from its first row, and the rows from a position on are copied until the
window is full. A row that is required must be in the window afterwards: when the window is full
before it, the window is cleared and filled again from the row that found no room. The fill tells
where the rows in the window begin, and how many rows it has seen.
-/

namespace Openpyn.Database

open Openpyn.Foundation

/-! ## Copying a row -/

/-- What copying a row comes to. -/
inductive CopyRowResult where
  | ok
  | full
  deriving DecidableEq, Repr

namespace CursorWindow

/-- Puts fields into a row, from a column on, until one finds no room. -/
def putFields (window : CursorWindow) (row : Nat) : Nat → List Field → CursorWindow × Status
  | _, [] => (window, .ok)
  | column, field :: rest =>
      let put := window.putField row column field
      if put.2 = .ok then put.1.putFields row (column + 1) rest else put

def copyRow (window : CursorWindow) (fields : List Field) (addedRows : Nat) :
    CursorWindow × CopyRowResult :=
  let allocated := window.allocRow
  if allocated.2 ≠ .ok then (allocated.1, .full)
  else
    let copied := allocated.1.putFields addedRows 0 fields
    if copied.2 = .ok then (copied.1, .ok) else (copied.1.freeLastRow.1, .full)

end CursorWindow

/-! ## Filling -/

/-- What `sqlite3_step` brings: a row, no row because the table is locked, or an error. After the
last of these, it says that it is done. -/
inductive StatementStep where
  | row (fields : List Field)
  | busy
  | error
  deriving DecidableEq, Repr

/-- Why a fill throws. -/
inductive FillException where
  | clear
  | setNumColumns
  | retryCountExceeded
  | step
  deriving DecidableEq, Repr

/-- The variables of a fill. -/
structure Filling where
  window : CursorWindow
  numColumns : Nat
  startPos : Nat
  totalRows : Nat := 0
  addedRows : Nat := 0
  windowFull : Bool := false
  retryCount : Nat := 0
  exception : Option FillException := none

namespace Filling

/-- The row that has just been copied, or for which there was no room. -/
def copied (filling : Filling) (result : CursorWindow × CopyRowResult) : Filling :=
  if result.2 = .ok then
    { filling with window := result.1, addedRows := filling.addedRows + 1 }
  else { filling with window := result.1, windowFull := true }

def row (filling : Filling) (requiredPos : Nat) (fields : List Field) : Filling :=
  let stepped := { filling with retryCount := 0, totalRows := filling.totalRows + 1 }
  -- The row is skipped if the window is full or the start position is not reached yet.
  if stepped.totalRows ≤ filling.startPos ∨ filling.windowFull = true then stepped
  else
    let result := filling.window.copyRow fields filling.addedRows
    if result.2 = .full ∧ filling.addedRows ≠ 0 ∧
        filling.startPos + filling.addedRows ≤ requiredPos then
      -- The window was filled before the row that is really wanted.
      let cleared := (result.1.clear.1.setNumColumns filling.numColumns).1
      { stepped with startPos := filling.startPos + filling.addedRows, addedRows := 0 }.copied
        (cleared.copyRow fields 0)
    else stepped.copied result

def step (filling : Filling) (requiredPos : Nat) : StatementStep → Filling
  | .row fields => filling.row requiredPos fields
  | .busy =>
      if 50 < filling.retryCount then { filling with exception := some .retryCountExceeded }
      else { filling with retryCount := filling.retryCount + 1 }
  | .error => { filling with exception := some .step }

/-- Whether the statement is stepped once more. -/
def goesOn (filling : Filling) (countAllRows : Bool) : Bool :=
  filling.exception.isNone && (!filling.windowFull || countAllRows)

def run (filling : Filling) (requiredPos : Nat) (countAllRows : Bool) :
    List StatementStep → Filling
  | [] => filling
  | next :: rest =>
      if filling.goesOn countAllRows = true then
        (filling.step requiredPos next).run requiredPos countAllRows rest
      else filling

end Filling

/-- `jlong(startPos) << 32 | jlong(totalRows)` -/
def packPositions (startPos totalRows : Nat) : BitVec 64 :=
  BitVec.ofNat 64 startPos <<< 32 ||| BitVec.ofNat 64 totalRows

/-- `(int)(result >> 32)` -/
def actualPos (result : BitVec 64) : Int := ((result.sshiftRight 32).setWidth 32).toInt

/-- `(int)result` -/
def countedRows (result : BitVec 64) : Int := (result.setWidth 32).toInt

namespace CursorWindow

/-- A window of `numColumns` columns, filled by stepping a statement. -/
def nativeExecuteForCursorWindow (window : CursorWindow) (numColumns : Nat)
    (steps : List StatementStep) (startPos requiredPos : Nat) (countAllRows : Bool) :
    CursorWindow × Except FillException (BitVec 64) :=
  let cleared := window.clear
  if cleared.2 ≠ .ok then (cleared.1, .error .clear)
  else
    let wide := cleared.1.setNumColumns numColumns
    if wide.2 ≠ .ok then (wide.1, .error .setNumColumns)
    else
      let filled : Filling :=
        Filling.run { window := wide.1, numColumns := numColumns, startPos := startPos }
          requiredPos countAllRows steps
      match filled.exception with
      | some exception => (filled.window, .error exception)
      | none => (filled.window, .ok (packPositions filled.startPos filled.totalRows))

end CursorWindow

/-! ## What copying a row does to the table -/

theorem modify_append_singleton {α : Type} (before : List α) (last : α) (change : α → α) :
    (before ++ [last]).modify before.length change = before ++ [change last] := by
  induction before with
  | nil => rfl
  | cons first rest inductionHypothesis =>
      rw [List.cons_append, List.length_cons, List.modify_succ_cons, inductionHypothesis,
        List.cons_append]

theorem set_append_cons {α : Type} (before : List α) (value new : α) (rest : List α) :
    (before ++ value :: rest).set before.length new = before ++ new :: rest := by
  induction before with
  | nil => rfl
  | cons first more inductionHypothesis =>
      rw [List.cons_append, List.length_cons, List.set_cons_succ, inductionHypothesis,
        List.cons_append]

/-- The bytes of a row's fields beside their slots. -/
def fieldsSize (fields : List Field) : Nat := (fields.map Field.size).sum

/-- The memory that a row takes in an empty window. -/
def rowSize (fields : List Field) : Nat := 12 * fields.length + fieldsSize fields

/-- A row that SQLite can return for so many columns. -/
def IsRow (columns : Nat) (fields : List Field) : Prop :=
  fields.length = columns ∧ ∀ field ∈ fields, field.size ≤ 2 ^ 31

namespace Represents

variable {layout : Layout} {window : CursorWindow} {table : Table}

/-- Fields are put one after the other into the last row, which was empty before. -/
theorem putFields (before : List (List Field)) (fields : List Field)
    (short : ∀ field ∈ fields, field.size ≤ 2 ^ 31) :
    ∀ (done : List Field) {layout : Layout} {window : CursorWindow} {table : Table},
      Represents layout window table → table.columns = done.length + fields.length →
      table.rows = before ++ [done ++ List.replicate fields.length Field.null] →
      let result := window.putFields before.length done.length fields
      result.1.mSize = window.mSize ∧ ∃ layout' table', Represents layout' result.1 table' ∧
        table'.columns = table.columns ∧
        (result.2 = .ok ∧ table'.rows = before ++ [done ++ fields] ∧
            result.1.freeOffset = window.freeOffset + fieldsSize fields ∨
          result.2 ≠ .ok ∧ (∃ last, table'.rows = before ++ [last]) ∧
            window.mSize < window.freeOffset + fieldsSize fields) := by
  induction fields with
  | nil =>
      intro done layout window table here columns rows
      exact ⟨rfl, layout, table, here, rfl, .inl ⟨rfl, rows, rfl⟩⟩
  | cons field rest inductionHypothesis =>
      intro done layout window table here columns rows
      have inside : before.length < table.rows.length ∧ done.length < table.columns := by
        rw [rows, columns, List.length_append, List.length_cons, List.length_cons]
        omega
      have size : fieldsSize (field :: rest) = field.size + fieldsSize rest := rfl
      simp only [CursorWindow.putFields]
      rcases here.putField inside field (short field List.mem_cons_self) with
        ⟨failed, little⟩ | ⟨ended, sameSize, ⟨layout', put⟩, freeOffset⟩
      · rw [failed]
        simp only
        rw [if_neg Status.noConfusion]
        exact ⟨rfl, layout, table, here, rfl,
          .inr ⟨Status.noConfusion, ⟨_, rows⟩, by rw [size]; omega⟩⟩
      · rw [if_pos ended]
        have changed : (table.putField before.length done.length field).rows =
            before ++ [(done ++ [field]) ++ List.replicate rest.length Field.null] := by
          simp only [Table.putField]
          rw [rows, modify_append_singleton, List.length_cons, List.replicate_succ,
            set_append_cons, List.append_assoc]
          rfl
        have place : done.length + 1 = (done ++ [field]).length := by simp
        have later := inductionHypothesis (fun other member => short other
          (List.mem_cons_of_mem field member)) (done ++ [field]) put
          (by simp only [Table.putField]; rw [columns, ← place, List.length_cons]; omega) changed
        rw [place]
        obtain ⟨lastSize, layout'', table', after, sameColumns, ended⟩ := later
        refine ⟨lastSize.trans sameSize, layout'', table', after, sameColumns, ?_⟩
        rw [freeOffset, sameSize] at ended
        rcases ended with ⟨ended, all, free⟩ | ⟨ended, some, little⟩
        · exact .inl ⟨ended, by rw [all, List.append_assoc]; rfl, by rw [free, size]; omega⟩
        · exact .inr ⟨ended, some, by rw [size]; omega⟩

/-- A row is added as a whole or not at all. Into an empty window it goes if it is small enough. -/
theorem copyRow (here : Represents layout window table) {fields : List Field}
    (isRow : IsRow table.columns fields) :
    let result := window.copyRow fields table.rows.length
    result.1.mSize = window.mSize ∧ ∃ layout' table', Represents layout' result.1 table' ∧
      table'.columns = table.columns ∧
      (result.2 = .ok ∧ table'.rows = table.rows ++ [fields] ∨
        result.2 = .full ∧ table'.rows = table.rows ∧
          (table.rows = [] → window.freeOffset = 420 → window.mSize < 420 + rowSize fields)) := by
  obtain ⟨sameSize, slotted, least, near, allocated⟩ := here.allocRow
  have first (none : table.rows = []) (empty : window.freeOffset = 420) :
      slotted = 420 ∧ chunkMemory table.rows.length = 0 := by
    have noChunk : chunkMemory table.rows.length = 0 := by
      rw [none]
      rfl
    omega
  have aligned : CursorWindow.padding 420 true = 0 := by decide
  simp only [CursorWindow.copyRow]
  rcases allocated with ⟨ended, little, layout', failed⟩ | ⟨ended, ⟨layout', added⟩, freeOffset⟩
  · have notOk : Status.noMemory ≠ Status.ok := Status.noConfusion
    rw [ended, if_pos notOk]
    refine ⟨sameSize, layout', table, failed, rfl, .inr ⟨rfl, rfl, fun none empty => ?_⟩⟩
    obtain ⟨start, noChunk⟩ := first none empty
    rw [start, aligned] at little
    rw [rowSize, isRow.1]
    omega
  · rw [ended, if_neg (not_not_intro rfl)]
    have rows : table.allocRow.rows =
        table.rows ++ [[] ++ List.replicate fields.length Field.null] := by
      rw [isRow.1]
      rfl
    obtain ⟨lastSize, layout'', table', after, sameColumns, ended⟩ := putFields table.rows fields
      isRow.2 [] added (by rw [isRow.1]; exact (Nat.zero_add _).symm) rows
    rcases ended with ⟨ended, all, -⟩ | ⟨ended, ⟨last, all⟩, little⟩
    · rw [List.length_nil] at ended
      rw [if_pos ended]
      exact ⟨lastSize.trans sameSize, layout'', table', after, sameColumns, .inl ⟨rfl, all⟩⟩
    · rw [List.length_nil] at ended
      rw [if_neg ended]
      obtain ⟨freed, -, freedSize⟩ := after.freeLastRow
      refine ⟨(freedSize.trans lastSize).trans sameSize, layout'', table'.freeLastRow, freed,
        sameColumns, .inr ⟨rfl, ?_, fun none empty => ?_⟩⟩
      · simp only [Table.freeLastRow]
        rw [all, List.dropLast_concat]
      · obtain ⟨start, -⟩ := first none empty
        rw [freeOffset, start, aligned] at little
        rw [rowSize, isRow.1]
        omega

end Represents

/-! ## Invariant of a fill -/

/-- A fill that has seen some rows: those in the window are in a row from the start position on.
The start position is only moved up to the required row, and a full window has that row or cannot
have the first one. -/
structure Filled (size startPos requiredPos : Nat) (rows : List (List Field))
    (filling : Filling) : Prop where
  table : ∃ layout table, Represents layout filling.window table ∧
    table.columns = filling.numColumns ∧ table.rows.length = filling.addedRows ∧
    table.rows = (rows.drop filling.startPos).take filling.addedRows
  sized : filling.window.mSize = size
  counted : filling.totalRows = rows.length
  moved : startPos ≤ filling.startPos ∧
    (filling.startPos = startPos ∨ filling.startPos ≤ requiredPos)
  fresh : filling.addedRows = 0 → filling.windowFull = false → filling.window.freeOffset = 420
  all : filling.windowFull = false → filling.addedRows = rows.length - filling.startPos
  full : filling.windowFull = true →
    requiredPos < filling.startPos + filling.addedRows ∨
      filling.addedRows = 0 ∧ ∃ fields, rows[filling.startPos]? = some fields ∧
        size < 420 + rowSize fields

namespace Filled

variable {size startPos requiredPos : Nat} {rows : List (List Field)} {filling : Filling}
  {fields : List Field}

/-- A row that is skipped. -/
theorem skip (filled : Filled size startPos requiredPos rows filling) (fields : List Field)
    (skipped : rows.length < filling.startPos ∨ filling.windowFull = true) :
    Filled size startPos requiredPos (rows ++ [fields])
      { filling with retryCount := 0, totalRows := filling.totalRows + 1 } := by
  obtain ⟨layout, table, here, columns, added, slice⟩ := filled.table
  have short := congrArg List.length slice
  rw [List.length_take, List.length_drop, added] at short
  refine ⟨⟨layout, table, here, columns, added, ?_⟩, filled.sized, ?_, filled.moved, filled.fresh,
    fun notFull => ?_, fun isFull => ?_⟩
  · rw [slice]
    by_cases before : filling.startPos ≤ rows.length
    · rw [List.drop_append_of_le_length before, List.take_append_of_le_length]
      rw [List.length_drop]
      simp only
      omega
    · have none : filling.addedRows = 0 := by omega
      simp only [none, List.take_zero]
  · rw [List.length_append, List.length_singleton, filled.counted]
  · have all := filled.all notFull
    rw [notFull] at skipped
    simp only [Bool.false_eq_true, or_false] at skipped
    simp only [List.length_append, List.length_singleton]
    omega
  · rcases filled.full isFull with reached | ⟨empty, first, found, large⟩
    · exact .inl reached
    · have bound := (List.getElem?_eq_some_iff.mp found).1
      refine .inr ⟨empty, first, ?_, large⟩
      rw [List.getElem?_append_left bound]
      exact found

/-- A row that is copied, or finds no room although it is not to be copied again. -/
theorem copied (filled : Filled size startPos requiredPos rows filling)
    (isRow : IsRow filling.numColumns fields) (reached : filling.startPos ≤ rows.length)
    (notFull : filling.windowFull = false)
    (last : (filling.window.copyRow fields filling.addedRows).2 = .full →
      filling.addedRows = 0 ∨ requiredPos < filling.startPos + filling.addedRows) :
    Filled size startPos requiredPos (rows ++ [fields])
      ({ filling with retryCount := 0, totalRows := filling.totalRows + 1 }.copied
        (filling.window.copyRow fields filling.addedRows)) := by
  obtain ⟨layout, table, here, columns, added, slice⟩ := filled.table
  have all := filled.all notFull
  have whole : (rows.drop filling.startPos).take filling.addedRows =
      rows.drop filling.startPos := List.take_of_length_le (by rw [List.length_drop]; omega)
  rw [whole] at slice
  rw [← columns] at isRow
  have counted : filling.totalRows + 1 = (rows ++ [fields]).length := by
    rw [List.length_append, List.length_singleton, filled.counted]
  have copy := here.copyRow isRow
  rw [added] at copy
  simp only at copy
  generalize filling.window.copyRow fields filling.addedRows = result at copy last ⊢
  obtain ⟨sameSize, layout', table', after, sameColumns, ended⟩ := copy
  simp only [Filling.copied]
  rcases ended with ⟨ended, more⟩ | ⟨ended, same, large⟩
  · rw [ended, if_pos rfl]
    refine ⟨⟨layout', table', after, sameColumns.trans columns, ?_, ?_⟩,
      sameSize.trans filled.sized, counted, filled.moved, fun none => absurd none ?_,
      fun _ => ?_, fun isFull => absurd (notFull.symm.trans isFull) Bool.false_ne_true⟩
    · rw [more, List.length_append, List.length_singleton, added]
    · rw [more, slice, List.drop_append_of_le_length reached, List.take_of_length_le]
      rw [List.length_append, List.length_singleton, List.length_drop]
      simp only
      omega
    · exact Nat.succ_ne_zero _
    · rw [List.length_append, List.length_singleton]
      simp only
      omega
  · have notOk : CopyRowResult.full ≠ CopyRowResult.ok := CopyRowResult.noConfusion
    rw [ended, if_neg notOk]
    refine ⟨⟨layout', table', after, sameColumns.trans columns, ?_, ?_⟩,
      sameSize.trans filled.sized, counted, filled.moved,
      fun _ isOpen => absurd isOpen.symm Bool.false_ne_true,
      fun isOpen => absurd isOpen.symm Bool.false_ne_true, fun _ => ?_⟩
    · rw [same, added]
    · rw [same, slice, List.drop_append_of_le_length reached, List.take_append_of_le_length]
      · exact (List.take_of_length_le (by rw [List.length_drop]; simp only; omega)).symm
      · rw [List.length_drop]
        simp only
        omega
    · rcases last ended with none | found
      · have empty : table.rows = [] := List.eq_nil_of_length_eq_zero (added.trans none)
        have place : filling.startPos = rows.length := by omega
        refine .inr ⟨none, fields, ?_, ?_⟩
        · simp only [place, List.getElem?_concat_length]
        · rw [← filled.sized]
          exact large empty (filled.fresh none notFull)
      · exact .inl found

/-- A window that was full before the required row is filled again from the row at hand. -/
theorem restarted (filled : Filled size startPos requiredPos rows filling)
    (isRow : IsRow filling.numColumns fields) (reached : filling.startPos ≤ rows.length)
    (notFull : filling.windowFull = false)
    (short : filling.startPos + filling.addedRows ≤ requiredPos) :
    let result := filling.window.copyRow fields filling.addedRows
    let cleared := (result.1.clear.1.setNumColumns filling.numColumns).1
    Filled size startPos requiredPos (rows ++ [fields])
      ({ filling with
          retryCount := 0
          totalRows := filling.totalRows + 1
          startPos := filling.startPos + filling.addedRows
          addedRows := 0 }.copied (cleared.copyRow fields 0)) := by
  obtain ⟨layout, table, here, columns, added, slice⟩ := filled.table
  have all := filled.all notFull
  have narrow := here.framed.narrow
  rw [← columns] at isRow
  have copy := here.copyRow isRow
  rw [added] at copy
  simp only at copy ⊢
  generalize filling.window.copyRow fields filling.addedRows = result at copy ⊢
  obtain ⟨sameSize, layout', table', after, -⟩ := copy
  rw [columns] at narrow isRow
  obtain ⟨-, -, free, clearSize, layout'', table'', cleared, wide, empty⟩ := after.restart narrow
  generalize (result.1.clear.1.setNumColumns filling.numColumns).1 =
    window at free clearSize cleared ⊢
  have place : filling.startPos + filling.addedRows = rows.length := by omega
  have again : Filled size startPos requiredPos rows
      { filling with
        window := window
        startPos := filling.startPos + filling.addedRows
        addedRows := 0 } := by
    refine ⟨⟨layout'', table'', cleared, wide, ?_, ?_⟩, ?_, filled.counted, ?_, fun _ _ => free,
      fun _ => ?_, fun isFull => absurd (notFull.symm.trans isFull) Bool.false_ne_true⟩
    · rw [empty]
      rfl
    · rw [empty]
      rfl
    · exact (clearSize.trans sameSize).trans filled.sized
    · exact ⟨Nat.le_trans filled.moved.1 (Nat.le_add_right _ _), .inr short⟩
    · simp only [place, Nat.sub_self]
  exact again.copied isRow (Nat.le_of_eq place) notFull fun _ => .inl rfl

/-- What one row does to a fill. -/
theorem row (filled : Filled size startPos requiredPos rows filling)
    (isRow : IsRow filling.numColumns fields) :
    Filled size startPos requiredPos (rows ++ [fields]) (filling.row requiredPos fields) := by
  have counted := filled.counted
  simp only [Filling.row]
  by_cases skipped : filling.totalRows + 1 ≤ filling.startPos ∨ filling.windowFull = true
  · rw [if_pos skipped]
    exact filled.skip fields (skipped.imp_left fun before => by omega)
  · rw [if_neg skipped]
    obtain ⟨reached, isOpen⟩ := not_or.mp skipped
    have notFull : filling.windowFull = false := Bool.eq_false_iff.mpr isOpen
    have started : filling.startPos ≤ rows.length := by omega
    by_cases again : (filling.window.copyRow fields filling.addedRows).2 = .full ∧
        filling.addedRows ≠ 0 ∧ filling.startPos + filling.addedRows ≤ requiredPos
    · rw [if_pos again]
      exact filled.restarted isRow started notFull again.2.2
    · rw [if_neg again]
      refine filled.copied isRow started notFull fun isFull => ?_
      by_contra neither
      exact again ⟨isFull, by omega, by omega⟩

end Filled

/-! ## A whole fill -/

/-- The rows that a statement brings. -/
def rowsOf (steps : List StatementStep) : List (List Field) :=
  steps.filterMap fun
    | .row fields => some fields
    | _ => none

/-- The table is found locked until a fill gives up: once, and again in each of 51 retries. -/
def StaysLocked (steps : List StatementStep) : Prop := List.replicate 52 .busy <:+: steps

/-- It takes as many steps. -/
theorem not_staysLocked_of_lt {steps : List StatementStep} (few : steps.length < 52) :
    ¬ StaysLocked steps := by
  intro locked
  have least := locked.length_le
  rw [List.length_replicate] at least
  omega

namespace Filling

variable {filling : Filling} {requiredPos : Nat}

/-- A row changes neither the columns nor whether the fill has thrown. -/
theorem row_same (filling : Filling) (requiredPos : Nat) (fields : List Field) :
    (filling.row requiredPos fields).numColumns = filling.numColumns ∧
      (filling.row requiredPos fields).exception = filling.exception ∧
      (filling.row requiredPos fields).retryCount = 0 := by
  have copied (filling : Filling) (result : CursorWindow × CopyRowResult) :
      (filling.copied result).numColumns = filling.numColumns ∧
        (filling.copied result).exception = filling.exception ∧
        (filling.copied result).retryCount = filling.retryCount := by
    rw [Filling.copied]
    split <;> exact ⟨rfl, rfl, rfl⟩
  simp only [Filling.row]
  split
  · exact ⟨rfl, rfl, rfl⟩
  · split <;> exact copied _ _

theorem step_numColumns (filling : Filling) (requiredPos : Nat) (next : StatementStep) :
    (filling.step requiredPos next).numColumns = filling.numColumns := by
  cases next with
  | row fields => exact (filling.row_same requiredPos fields).1
  | busy =>
      rw [Filling.step]
      split <;> rfl
  | error => rfl

/-- A fill throws because of an error, or because the table stayed locked. The retries made before
count as long as no row comes. -/
theorem run_exception (countAllRows : Bool) (steps : List StatementStep)
    {exception : FillException}
    (thrown : (filling.run requiredPos countAllRows steps).exception = some exception) :
    filling.exception = some exception ∨ .error ∈ steps ∨
      StaysLocked (List.replicate filling.retryCount .busy ++ steps) := by
  induction steps generalizing filling with
  | nil => exact .inl thrown
  | cons next rest inductionHypothesis =>
      rw [Filling.run] at thrown
      split at thrown
      case isFalse => exact .inl thrown
      case isTrue =>
        cases next with
        | row fields =>
            obtain ⟨-, same, none⟩ := filling.row_same requiredPos fields
            rcases inductionHypothesis thrown with before | error | locked
            · exact .inl (same.symm.trans before)
            · exact .inr (.inl (List.mem_cons_of_mem _ error))
            · -- A row resets the retries.
              have retries : (filling.step requiredPos (.row fields)).retryCount = 0 := none
              rw [retries, List.replicate_zero, List.nil_append] at locked
              exact .inr (.inr (locked.trans
                ((List.suffix_cons _ rest).trans (List.suffix_append _ _)).isInfix))
        | busy =>
            have more : List.replicate filling.retryCount .busy ++ .busy :: rest =
                List.replicate (filling.retryCount + 1) .busy ++ rest := by
              rw [List.replicate_succ', List.append_assoc]
              rfl
            rw [more]
            by_cases exceeded : 50 < filling.retryCount
            · have enough : 52 ≤ filling.retryCount + 1 := by omega
              have long : List.replicate 52 .busy <+:
                  List.replicate (filling.retryCount + 1) StatementStep.busy := by
                rw [List.prefix_replicate_iff, List.length_replicate]
                exact ⟨enough, rfl⟩
              exact .inr (.inr (long.trans (List.prefix_append _ rest)).isInfix)
            · rw [Filling.step, if_neg exceeded] at thrown
              rcases inductionHypothesis thrown with before | error | locked
              · exact .inl before
              · exact .inr (.inl (List.mem_cons_of_mem _ error))
              · exact .inr (.inr locked)
        | error => exact .inr (.inl List.mem_cons_self)

end Filling

namespace Filled

variable {size startPos requiredPos : Nat} {rows : List (List Field)} {filling : Filling}

/-- A fill that goes on to the end has seen all rows. -/
theorem run (countAllRows : Bool) (steps : List StatementStep)
    (filled : Filled size startPos requiredPos rows filling)
    (isRows : ∀ fields, .row fields ∈ steps → IsRow filling.numColumns fields) :
    let last := filling.run requiredPos countAllRows steps
    ∃ seen rest, rowsOf steps = seen ++ rest ∧
      Filled size startPos requiredPos (rows ++ seen) last ∧
      last.numColumns = filling.numColumns ∧
      (last.exception = none → last.windowFull = false ∨ countAllRows = true → rest = []) := by
  induction steps generalizing rows filling with
  | nil => exact ⟨[], [], rfl, by rw [List.append_nil]; exact filled, rfl, fun _ _ => rfl⟩
  | cons next rest inductionHypothesis =>
      simp only [Filling.run]
      by_cases more : filling.goesOn countAllRows = true
      · rw [if_pos more]
        have later : ∀ fields, StatementStep.row fields ∈ rest →
            IsRow (filling.step requiredPos next).numColumns fields := by
          intro fields member
          rw [filling.step_numColumns]
          exact isRows fields (List.mem_cons_of_mem next member)
        have columns := filling.step_numColumns requiredPos next
        cases next with
        | row fields =>
            have stepped : Filled size startPos requiredPos (rows ++ [fields])
                (filling.step requiredPos (.row fields)) :=
              filled.row (isRows fields List.mem_cons_self)
            obtain ⟨seen, unseen, all, ran, same, ended⟩ := inductionHypothesis stepped later
            refine ⟨fields :: seen, unseen, ?_, ?_, same.trans columns, ended⟩
            · exact congrArg (fields :: ·) all
            · rw [List.append_assoc] at ran
              exact ran
        | busy =>
            have stepped : Filled size startPos requiredPos rows
                (filling.step requiredPos .busy) := by
              rw [Filling.step]
              split <;> exact ⟨filled.table, filled.sized, filled.counted, filled.moved,
                filled.fresh, filled.all, filled.full⟩
            obtain ⟨seen, unseen, all, ran, same, ended⟩ := inductionHypothesis stepped later
            exact ⟨seen, unseen, all, ran, same.trans columns, ended⟩
        | error =>
            have stepped : Filled size startPos requiredPos rows
                (filling.step requiredPos .error) :=
              ⟨filled.table, filled.sized, filled.counted, filled.moved, filled.fresh,
                filled.all, filled.full⟩
            obtain ⟨seen, unseen, all, ran, same, ended⟩ := inductionHypothesis stepped later
            exact ⟨seen, unseen, all, ran, same.trans columns, ended⟩
      · rw [if_neg more]
        refine ⟨[], rowsOf (next :: rest), rfl, by rw [List.append_nil]; exact filled, rfl,
          fun none open' => absurd ?_ more⟩
        simp only [Filling.goesOn, none, Option.isNone_none, Bool.true_and]
        rcases open' with notFull | counts
        · rw [notFull]
          rfl
        · rw [counts, Bool.or_true]

end Filled

/-! ### Packing positions -/

theorem toNat_packPositions {startPos totalRows : Nat} (start : startPos < 2 ^ 31)
    (total : totalRows < 2 ^ 31) :
    (packPositions startPos totalRows).toNat = startPos * 2 ^ 32 + totalRows := by
  rw [packPositions, BitVec.toNat_or, BitVec.toNat_shiftLeft, BitVec.toNat_ofNat,
    BitVec.toNat_ofNat, Nat.mod_eq_of_lt (by omega : startPos < 2 ^ 64),
    Nat.mod_eq_of_lt (by omega : totalRows < 2 ^ 64), Nat.shiftLeft_eq,
    Nat.mod_eq_of_lt (by omega : startPos * 2 ^ 32 < 2 ^ 64), ← Nat.shiftLeft_eq,
    ← Nat.shiftLeft_add_eq_or_of_lt (by omega : totalRows < 2 ^ 32)]

theorem actualPos_packPositions {startPos totalRows : Nat} (start : startPos < 2 ^ 31)
    (total : totalRows < 2 ^ 31) : actualPos (packPositions startPos totalRows) = startPos := by
  have packed := toNat_packPositions start total
  have positive : (packPositions startPos totalRows).msb = false := by
    rw [BitVec.msb_eq_false_iff_two_mul_lt]
    omega
  rw [actualPos, BitVec.sshiftRight_eq_of_msb_false positive]
  have high : (((packPositions startPos totalRows) >>> 32).setWidth 32).toNat = startPos := by
    rw [BitVec.toNat_setWidth, BitVec.toNat_ushiftRight, packed, Nat.shiftRight_eq_div_pow]
    omega
  rw [BitVec.toInt_eq_toNat_of_lt (by omega), high]

theorem countedRows_packPositions {startPos totalRows : Nat} (start : startPos < 2 ^ 31)
    (total : totalRows < 2 ^ 31) : countedRows (packPositions startPos totalRows) = totalRows := by
  have packed := toNat_packPositions start total
  have low : ((packPositions startPos totalRows).setWidth 32).toNat = totalRows := by
    rw [BitVec.toNat_setWidth, packed]
    omega
  rw [countedRows, BitVec.toInt_eq_toNat_of_lt (by omega), low]

/-! ### The result -/

/-- What a fill is for: the window has a part of the rows without gaps, with the required row in
it unless a row is too large for any window, and all rows are counted when that was asked for. -/
structure Delivered (size startPos requiredPos : Nat) (countAllRows : Bool)
    (rows : List (List Field)) (table : Table) (start total : Nat) : Prop where
  slice : table.rows = (rows.drop start).take table.rows.length
  moved : startPos ≤ start ∧ (start = startPos ∨ start ≤ requiredPos)
  counted : total ≤ rows.length ∧ (countAllRows = true → total = rows.length)
  reached : startPos ≤ requiredPos → requiredPos < rows.length →
    start ≤ requiredPos ∧ (requiredPos < start + table.rows.length ∨
      table.rows = [] ∧ ∃ fields, rows[start]? = some fields ∧ size < 420 + rowSize fields)

theorem length_rowsOf_le (steps : List StatementStep) : (rowsOf steps).length ≤ steps.length :=
  List.length_filterMap_le _ steps

/-- From any window, a fill either throws for a reason or delivers. -/
theorem Represents.nativeExecuteForCursorWindow {layout : Layout} {window : CursorWindow}
    {table : Table} (here : Represents layout window table) {numColumns : Nat}
    (narrow : numColumns < 2 ^ 27) (steps : List StatementStep)
    (isRows : ∀ fields, .row fields ∈ steps → IsRow numColumns fields)
    (startPos requiredPos : Nat) (countAllRows : Bool) :
    let result := window.nativeExecuteForCursorWindow numColumns steps startPos requiredPos
      countAllRows
    result.1.mSize = window.mSize ∧ ∃ layout' table', Represents layout' result.1 table' ∧
      ((∃ exception, result.2 = .error exception) ∧
          (.error ∈ steps ∨ StaysLocked steps) ∨
        ∃ start total, result.2 = .ok (packPositions start total) ∧
          table'.columns = numColumns ∧
          Delivered window.mSize startPos requiredPos countAllRows (rowsOf steps) table'
            start total) := by
  obtain ⟨cleared, widened, free, size, layout', table', wide, columns, empty⟩ :=
    here.restart narrow
  simp only [CursorWindow.nativeExecuteForCursorWindow]
  rw [cleared, widened, if_neg (not_not_intro rfl), if_neg (not_not_intro rfl)]
  have start : Filled window.mSize startPos requiredPos []
      { window := (window.clear.1.setNumColumns numColumns).1, numColumns := numColumns,
        startPos := startPos } :=
    ⟨⟨layout', table', wide, columns, by rw [empty]; rfl, by rw [empty]; rfl⟩, size, rfl,
      ⟨Nat.le_refl startPos, .inl rfl⟩, fun _ _ => free, fun _ => (Nat.zero_sub startPos).symm,
      fun isFull => absurd isFull Bool.false_ne_true⟩
  obtain ⟨seen, rest, all, filled, same, ended⟩ := start.run countAllRows steps isRows
  have thrown := @Filling.run_exception
    { window := (window.clear.1.setNumColumns numColumns).1, numColumns := numColumns,
      startPos := startPos } requiredPos countAllRows steps
  generalize Filling.run _ requiredPos countAllRows steps = last at filled same ended thrown ⊢
  rw [List.nil_append] at filled
  obtain ⟨layout'', table'', held, sameColumns, added, slice⟩ := filled.table
  cases outcome : last.exception with
  | some exception =>
      refine ⟨filled.sized, layout'', table'', held, .inl ⟨⟨exception, rfl⟩, ?_⟩⟩
      rcases thrown outcome with before | error | locked
      · cases before
      · exact .inl error
      · exact .inr locked
  | none =>
      have short := congrArg List.length slice
      rw [List.length_take, List.length_drop, added] at short
      refine ⟨filled.sized, layout'', table'', held, .inr ⟨last.startPos, last.totalRows, rfl,
        sameColumns.trans same, ?_, filled.moved, ?_, fun before inside => ?_⟩⟩
      · rw [added, slice, all]
        by_cases reached : last.startPos ≤ seen.length
        · rw [List.drop_append_of_le_length reached, List.take_append_of_le_length]
          rw [List.length_drop]
          omega
        · have none : last.addedRows = 0 := by omega
          rw [none, List.take_zero, List.take_zero]
      · have counted : last.totalRows = seen.length := filled.counted
        rw [all, List.length_append, counted]
        refine ⟨Nat.le_add_right _ _, fun counts => ?_⟩
        rw [ended outcome (.inr counts)]
        rfl
      · have moved := filled.moved
        refine ⟨by omega, ?_⟩
        rw [added]
        cases isFull : last.windowFull with
        | false =>
            have everything : last.addedRows = seen.length - last.startPos := filled.all isFull
            rw [all, ended outcome (.inl isFull), List.append_nil] at inside
            exact .inl (by omega)
        | true =>
            rcases filled.full isFull with reached | ⟨none, fields, found, large⟩
            · exact .inl reached
            · have present : seen[last.startPos]? = some fields := found
              have bound := (List.getElem?_eq_some_iff.mp present).1
              refine .inr ⟨List.eq_nil_of_length_eq_zero (added.trans none), fields, ?_, large⟩
              rw [all, List.getElem?_append_left bound, present]

namespace CursorWindow

theorem mSize_after (window : CursorWindow) (operations : List Operation) :
    (machine.after window operations).mSize = window.mSize :=
  Machine.invariant (fun reached : CursorWindow => reached.mSize = window.mSize)
    (fun reached operation same => (reached.mSize_perform operation).trans same) rfl operations

/-- Whatever was done to a window before, filling it fails only if the statement does or the table
stays locked. Otherwise the window can be read as a part of the rows without gaps, with
the required row in it unless a row is too large for the window, and the result says where the
part begins and how many rows there are. -/
theorem delivered_after (data : Memory) (size : Nat) (large : 420 ≤ size) (small : size < 2 ^ 31)
    (operations : List Operation) (short : ∀ operation ∈ operations, operation.IsShort)
    (numColumns : Nat) (narrow : numColumns < 2 ^ 27) (steps : List StatementStep)
    (isRows : ∀ fields, .row fields ∈ steps → IsRow numColumns fields)
    (few : steps.length < 2 ^ 31) (startPos requiredPos : Nat)
    (positions : startPos < 2 ^ 31 ∧ requiredPos < 2 ^ 31) (countAllRows : Bool) :
    let result := (machine.after (create data size) operations).nativeExecuteForCursorWindow
      numColumns steps startPos requiredPos countAllRows
    (∃ exception, result.2 = .error exception) ∧ (.error ∈ steps ∨ StaysLocked steps) ∨
      ∃ packed start total table, result.2 = .ok packed ∧ actualPos packed = (start : Nat) ∧
        countedRows packed = (total : Nat) ∧ result.1.getNumRows = table.rows.length ∧
        (∀ row column, result.1.getField row column = table.field row column) ∧
        table.columns = numColumns ∧
        Delivered size startPos requiredPos countAllRows (rowsOf steps) table start total := by
  obtain ⟨layout, here⟩ := represents_after data large small operations short
  have sized : (machine.after (create data size) operations).mSize = size :=
    (mSize_after _ operations).trans (mSize_clear _)
  obtain ⟨-, layout', table, held, ended⟩ := here.nativeExecuteForCursorWindow narrow steps isRows
    startPos requiredPos countAllRows
  rcases ended with thrown | ⟨start, total, ended, columns, delivered⟩
  · exact .inl thrown
  · have fewRows := length_rowsOf_le steps
    have counted := delivered.counted.1
    have moved := delivered.moved
    rw [sized] at delivered
    exact .inr ⟨_, start, total, table, ended,
      actualPos_packPositions (by omega) (by omega),
      countedRows_packPositions (by omega) (by omega), held.framed.getNumRows, held.getField,
      columns, delivered⟩

/-- A window with room for two of three rows is filled again from the required one. -/
theorem delivered_after_restart :
    let rows : List (List Field) :=
      [[.blob [1, 2, 3]], [.blob [4, 5, 6]], [.blob [7, 8, 9]]]
    let steps := [.row [.blob [1, 2, 3]], .busy, .row [.blob [4, 5, 6]], .row [.blob [7, 8, 9]]]
    let result := (create (fun _ => 170) 452).nativeExecuteForCursorWindow 1 steps 0 2 true
    result.2 = .ok (packPositions 2 3) ∧ rowsOf steps = rows ∧
      ∃ table start total, start = 2 ∧ total = 3 ∧
        (∀ row column, result.1.getField row column = table.field row column) ∧
        Delivered 452 0 2 true rows table start total := by
  intro rows steps result
  have ended : result.2 = .ok (packPositions 2 3) := by decide +kernel
  refine ⟨ended, rfl, ?_⟩
  rcases delivered_after (fun _ => 170) 452 (by decide) (by decide) [] (by simp) 1 (by decide) steps
    (by simp [steps, IsRow, Field.size]) (by decide) 0 2 (by decide) true with
    ⟨⟨exception, thrown⟩, -⟩ |
      ⟨packed, start, total, table, same, first, all, -, fields, -, delivered⟩
  · exact absurd (ended.symm.trans thrown) (by simp)
  · obtain rfl : packed = packPositions 2 3 := Except.ok.inj (same.symm.trans ended)
    have two : start = 2 := Int.ofNat.inj (first.symm.trans (by decide))
    have three : total = 3 := Int.ofNat.inj (all.symm.trans (by decide))
    exact ⟨table, start, total, two, three, fields, delivered⟩

end CursorWindow

end Openpyn.Database
