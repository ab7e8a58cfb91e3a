import Openpyn.Database.SQLiteCursor
import Openpyn.Foundation.Machine

/-!
# What a cursor shows

For whoever reads from it, a cursor is a position among the rows of its query. `RowCursor` is that
and no more: there is no window and nothing fails. A window shows rows if those in it are the rows
from its start position on, and a cursor keeps a window that shows the rows of the query that was
made last. Its answers are then those of a `RowCursor`, or it throws and stays where it is:
because of an execution that fails, or because the row has been lost. It is lost from a failure,
or from letting the window go, until the cursor is moved.
-/

namespace Openpyn.Database

open Openpyn.Foundation Openpyn.Foundation.Effect

/-! ## What is assumed of SQLite -/

/-- Nobody writes to the database meanwhile: a query has the same rows whenever it is executed for
the same arguments, with as many fields as it has columns. -/
structure Serves {β : Type} (outside : Nat → Execution β) (numColumns : Nat)
    (select : β → List (List Field)) : Prop where
  narrow : numColumns < 2 ^ 27
  rows : ∀ number bindArgs, rowsOf ((outside number).steps bindArgs) = select bindArgs
  isRows : ∀ number bindArgs fields, .row fields ∈ (outside number).steps bindArgs →
    IsRow numColumns fields
  few : ∀ number bindArgs, ((outside number).steps bindArgs).length < 2 ^ 31

theorem Serves.length_eq {β : Type} {outside : Nat → Execution β} {numColumns : Nat}
    {select : β → List (List Field)} (serves : Serves outside numColumns select) {bindArgs : β}
    {fields : List Field} (member : fields ∈ select bindArgs) : fields.length = numColumns := by
  rw [← serves.rows 0, rowsOf] at member
  obtain ⟨step, stepped, found⟩ := List.mem_filterMap.mp member
  cases step with
  | row other =>
      obtain rfl : other = fields := Option.some.inj found
      exact (serves.isRows 0 bindArgs other stepped).1
  | busy => cases found
  | error => cases found

theorem Serves.length_select_lt {β : Type} {outside : Nat → Execution β} {numColumns : Nat}
    {select : β → List (List Field)} (serves : Serves outside numColumns select) (bindArgs : β) :
    (select bindArgs).length < 2 ^ 31 := by
  rw [← serves.rows 0 bindArgs]
  exact Nat.lt_of_le_of_lt (length_rowsOf_le _) (serves.few 0 bindArgs)

/-- What an execution makes a cursor throw: there is no memory for a window, the database refuses,
or stepping fails or stays locked. -/
def Execution.Fails {β : Type} (execution : Execution β) (bindArgs : β) : CursorException → Prop
  | .allocation => execution.data = none
  | .refused => execution.refused = true
  | .fill _ => .error ∈ execution.steps bindArgs ∨ StaysLocked (execution.steps bindArgs)
  | _ => False

/-- An execution that nothing goes wrong with. -/
def Execution.Succeeds {β : Type} (execution : Execution β) (bindArgs : β) : Prop :=
  execution.data ≠ none ∧ execution.refused = false ∧ .error ∉ execution.steps bindArgs ∧
    ¬ StaysLocked (execution.steps bindArgs)

theorem Execution.Succeeds.not_fails {β : Type} {execution : Execution β} {bindArgs : β}
    (succeeds : execution.Succeeds bindArgs) (exception : CursorException) :
    ¬ execution.Fails bindArgs exception := by
  obtain ⟨memory, accepted, noError, unlocked⟩ := succeeds
  intro fails
  cases exception with
  | allocation => exact memory fails
  | refused => exact absurd (accepted.symm.trans fails) Bool.false_ne_true
  | fill exception => exact fails.elim noError unlocked
  | _ => exact fails

/-- A row that an empty window has room for. -/
def Fits (fields : List Field) : Prop := 420 + rowSize fields ≤ cursorWindowSize

/-- Nothing goes wrong with any execution, and no row is too large for a window. -/
structure Faultless {β : Type} (outside : Nat → Execution β) (select : β → List (List Field)) :
    Prop where
  succeeds : ∀ number bindArgs, (outside number).Succeeds bindArgs
  fits : ∀ bindArgs, ∀ fields ∈ select bindArgs, Fits fields

/-! ## Windows that show rows -/

namespace PositionedWindow

/-- The rows in a window are those from its start position on. -/
def Shows (window : PositionedWindow) (rows : List (List Field)) : Prop :=
  ∃ layout table, Represents layout window.native table ∧
    window.native.mSize = cursorWindowSize ∧
    0 ≤ window.mStartPos ∧ window.mStartPos < 2 ^ 31 ∧
    table.rows = (rows.drop window.mStartPos.toNat).take table.rows.length

/-- A position is in a window, or some row is too large for it. -/
def Reaches (window : PositionedWindow) (rows : List (List Field)) (position : Int) : Prop :=
  position < rows.length → window.mStartPos ≤ position ∧
    (position < window.mStartPos + window.native.getNumRows ∨ ∃ fields ∈ rows, ¬ Fits fields)

variable {window : PositionedWindow} {rows : List (List Field)}

/-- A window whose rows have been cleared shows the beginning of any rows. -/
theorem shows_of_clear {native : CursorWindow} {layout : Layout} {table : Table}
    (here : Represents layout native table) (size : native.mSize = cursorWindowSize)
    (none : table.rows = []) (rows : List (List Field)) :
    PositionedWindow.Shows ⟨native, 0⟩ rows :=
  ⟨layout, table, here, size, Int.le_refl 0, Int.ofNat_lt.mpr (Nat.two_pow_pos 31),
    by rw [none]; rfl⟩

theorem shows_create (data : Memory) (rows : List (List Field)) :
    PositionedWindow.Shows ⟨CursorWindow.create data cursorWindowSize, 0⟩ rows :=
  have large : 420 ≤ cursorWindowSize := by decide
  have small : cursorWindowSize < 2 ^ 31 := by decide
  shows_of_clear (represents_clear ⟨data, cursorWindowSize, false⟩ rfl large small).1
    (CursorWindow.mSize_clear _) rfl rows

theorem Shows.clear (shows : window.Shows rows) (other : List (List Field)) :
    window.clear.Shows other := by
  obtain ⟨layout, table, here, size, -⟩ := shows
  have used := here.framed.used
  have chunked := here.framed.chunked
  have inside := here.framed.inside
  exact shows_of_clear (represents_clear window.native here.framed.writable (by omega)
    here.framed.small).1 ((CursorWindow.mSize_clear _).trans size) rfl other

/-- A field that is read from a window that shows rows is the field of the row at the position. -/
theorem Shows.getField (shows : window.Shows rows) {position : Int} (column : Nat)
    (range : 0 ≤ position ∧ position < 2 ^ 31) :
    window.native.getField (window.nativeRow position) column =
      if window.mStartPos ≤ position ∧
          position < window.mStartPos + window.native.getNumRows then
        rows[position.toNat]?.bind (·[column]?)
      else none := by
  obtain ⟨layout, table, here, -, start, bound, slice⟩ := shows
  have few := here.framed.rows_lt
  rw [here.getField, here.framed.getNumRows]
  split
  case isTrue inside =>
    have row : window.nativeRow position = position.toNat - window.mStartPos.toNat := by
      rw [nativeRow, Int.emod_eq_of_lt (by omega) (by omega)]
      omega
    have place : window.mStartPos.toNat + (position.toNat - window.mStartPos.toNat) =
        position.toNat := by omega
    rw [Table.field, slice, List.getElem?_take, if_pos (by omega), List.getElem?_drop, row, place]
  case isFalse outside =>
    apply Table.field_eq_none
    rintro ⟨inside, -⟩
    rw [nativeRow] at inside
    by_cases before : position < window.mStartPos
    · have wrapped : (position - window.mStartPos) % 2 ^ 32 =
          position - window.mStartPos + 2 ^ 32 := by omega
      rw [wrapped] at inside
      omega
    · rw [Int.emod_eq_of_lt (by omega) (by omega)] at inside
      omega

/-- Filling a window shows the rows, or something went wrong. -/
theorem Shows.fill (shows : window.Shows rows) {numColumns : Nat} (narrow : numColumns < 2 ^ 27)
    (steps : List StatementStep) (isRows : ∀ fields, .row fields ∈ steps → IsRow numColumns fields)
    (few : steps.length < 2 ^ 31) {startPos requiredPos : Int}
    (positions : 0 ≤ startPos ∧ startPos ≤ requiredPos ∧ requiredPos < 2 ^ 31)
    (countAllRows : Bool) :
    let filled := window.native.nativeExecuteForCursorWindow numColumns steps startPos.toNat
      requiredPos.toNat countAllRows
    (∃ exception, filled.2 = .error exception ∧ (.error ∈ steps ∨ StaysLocked steps)) ∨
      ∃ packed, filled.2 = .ok packed ∧
        PositionedWindow.Shows ⟨filled.1, actualPos packed⟩ (rowsOf steps) ∧
        PositionedWindow.Reaches ⟨filled.1, actualPos packed⟩ (rowsOf steps) requiredPos ∧
        (countAllRows = true → countedRows packed = (rowsOf steps).length) := by
  intro filled
  have fewRows := length_rowsOf_le steps
  obtain ⟨layout, table, here, size, -⟩ := shows
  obtain ⟨sameSize, layout', table', held, outcome⟩ := here.nativeExecuteForCursorWindow narrow
    steps isRows startPos.toNat requiredPos.toNat countAllRows
  rcases outcome with ⟨⟨exception, thrown⟩, reason⟩ | ⟨start, total, ended, -, delivered⟩
  · exact .inl ⟨exception, thrown, reason⟩
  · have counted := delivered.counted
    have moved := delivered.moved
    have first : actualPos (packPositions start total) = start :=
      actualPos_packPositions (by omega) (by omega)
    have all : countedRows (packPositions start total) = total :=
      countedRows_packPositions (by omega) (by omega)
    refine .inr ⟨_, ended, ⟨layout', table', held, sameSize.trans size, ?_⟩, ?_, fun counts => ?_⟩
    · simp only [first]
      exact ⟨by omega, by omega, delivered.slice⟩
    · intro inside
      have reached := delivered.reached (by omega) (by omega)
      simp only [first]
      rw [held.framed.getNumRows]
      refine ⟨by omega, ?_⟩
      rcases reached.2 with row | ⟨-, fields, found, large⟩
      · exact .inl (by omega)
      · rw [size] at large
        exact .inr ⟨fields, List.mem_of_getElem? found, Nat.not_le.mpr large⟩
    · rw [all, counted.2 counts]

end PositionedWindow

/-! ## A cursor without a window -/

/-- The rows of a query for some arguments and a position among them: -1 in front of the first row,
and the number of rows behind the last one. Other rows can be asked for as long as the query is
available. The row is lost if an execution has failed, or the window was let go, since the cursor
was moved to its position. -/
structure RowCursor (β : Type) where
  bindArgs : β
  rows : List (List Field)
  position : Int := -1
  available : Bool := true
  lost : Bool := false

abbrev RowMethod (β α : Type) := Effect (RowCursor β) CursorException α

namespace RowCursor

variable {β : Type}

def onRow (cursor : RowCursor β) : Bool :=
  decide (0 ≤ cursor.position ∧ cursor.position < cursor.rows.length)

/-- A lost row is still lost if it is moved to where it is. -/
def moveTo (cursor : RowCursor β) (position : Int) : RowCursor β :=
  let target := max (-1) (min position cursor.rows.length)
  { cursor with position := target, lost := cursor.lost && target == cursor.position }

def getCount : RowMethod β Int := reading fun cursor => cursor.rows.length

def moveToPosition (position : Int) : RowMethod β Bool := do
  changing (·.moveTo position)
  reading (·.onRow)

def move (offset : Int) : RowMethod β Bool := do
  moveToPosition (((← reading (·.position)) + offset).bmod (2 ^ 32))

def moveToLast : RowMethod β Bool := do moveToPosition ((← getCount) - 1)

/-- The field of the row at the position. -/
def field (cursor : RowCursor β) (column : Nat) : Option Field :=
  cursor.rows[cursor.position.toNat]?.bind (·[column]?)

def getField (column : Nat) : RowMethod β Field := do
  let cursor ← reading id
  if cursor.onRow then
    match cursor.field column with
    | none => throwing (.couldNotRead cursor.position column)
    | some field => pure field
  else throwing (.indexOutOfBounds cursor.position cursor.rows.length)

def getBlob (column : Nat) : RowMethod β (Option (List UInt8)) := do
  SQLiteCursor.blobOf (← getField column)

theorem run_moveToPosition (cursor : RowCursor β) (position : Int) :
    (moveToPosition position).run cursor =
      (.ok (decide (0 ≤ position ∧ position < cursor.rows.length)), cursor.moveTo position) := by
  rw [moveToPosition, run_changing_bind, run_reading]
  congr 2
  rw [onRow]
  simp only [moveTo]
  exact decide_eq_decide.mpr (by omega)

theorem run_getField (cursor : RowCursor β) (column : Nat) :
    ((getField column).run cursor).2 = cursor := by
  rw [getField, run_reading_bind, id]
  split
  · split <;> rfl
  · rfl

end RowCursor

/-! ## Cursors that keep to their rows -/

/-- Why a call may throw although the position among the rows has an answer, and what that does to
it. One of its executions fails, or the query is not available: then the row is lost. A read finds
no window, or not its field, if the row has been lost before; or else some row is too large for a
window, or there is no such column. -/
inductive RowCursor.Interrupts {β : Type} (outside : Nat → Execution β) (executions : List Nat)
    (read : Option Nat) (plain : RowCursor β) : CursorException → RowCursor β → Prop
  | execution {number : Nat} {exception : CursorException} (made : number ∈ executions)
      (fails : (outside number).Fails plain.bindArgs exception) :
      Interrupts outside executions read plain exception { plain with lost := true }
  | unavailable (made : executions ≠ []) (closed : plain.available = false) :
      Interrupts outside executions read plain .refused { plain with lost := true }
  | stale (reads : read ≠ none) (lost : plain.lost = true) :
      Interrupts outside executions read plain .staleData plain
  | unread (row : Int) {column : Nat} (reads : read = some column)
      (reason : plain.lost = true ∨ (∃ fields ∈ plain.rows, ¬ Fits fields) ∨
        plain.field column = none) :
      Interrupts outside executions read plain (.couldNotRead row column) plain

namespace SQLiteCursor

variable {β : Type} {outside : Nat → Execution β} {numColumns : Nat}
  {select : β → List (List Field)} {cursor : SQLiteCursor β} {plain : RowCursor β}

/-- A cursor stands for a position among rows, those of its query as long as it can be executed. -/
structure Sound (select : β → List (List Field)) (cursor : SQLiteCursor β) (plain : RowCursor β) :
    Prop where
  shows : ∀ window, cursor.mWindow = some window → window.Shows plain.rows
  counted : cursor.mCount = noCount ∨ cursor.mCount = plain.rows.length
  position : cursor.mPos = plain.position
  range : -1 ≤ plain.position ∧ plain.position ≤ plain.rows.length
  capacity : 0 ≤ cursor.mCursorWindowCapacity
  available : cursor.available = plain.available
  bound : cursor.available = true → cursor.bindArgs = plain.bindArgs
  rows : plain.rows = select plain.bindArgs
  few : plain.rows.length < 2 ^ 31

/-! ### Filling -/

/-- What keeps an execution from delivering, if the cursor makes it. -/
def Prevents (execution : Execution β) (cursor : SQLiteCursor β) (exception : CursorException) :
    Prop :=
  cursor.available = false ∧ exception = .refused ∨
    (cursor.available = true ∨ exception = .allocation) ∧
      execution.Fails cursor.bindArgs exception

/-- An execution that did not deliver. The window is whatever it left. -/
def Failed {α : Type} (execution : Execution β) (cursor : SQLiteCursor β)
    (ended : Except CursorException α × SQLiteCursor β) : Prop :=
  ∃ exception window, ended = (.error exception, { cursor with mWindow := window }) ∧
    Prevents execution cursor exception

/-- Executing the query fills a window that is there, or something went wrong. -/
theorem run_queryFillWindow (serves : Serves outside numColumns select) (number : Nat)
    {window : PositionedWindow} (present : cursor.mWindow = some window)
    {rows : List (List Field)} (shows : window.Shows rows) {startPos requiredPos : Int}
    (positions : 0 ≤ startPos ∧ startPos ≤ requiredPos ∧ requiredPos < 2 ^ 31)
    (countAllRows : Bool) :
    let ended :=
      (queryFillWindow numColumns (outside number) startPos requiredPos countAllRows).run cursor
    Failed (outside number) cursor ended ∨
      ∃ filled total, ended = (.ok total, { cursor with mWindow := some filled }) ∧
        cursor.available = true ∧ filled.Shows (select cursor.bindArgs) ∧
        filled.Reaches (select cursor.bindArgs) requiredPos ∧
        (countAllRows = true → total = (select cursor.bindArgs).length) := by
  have same : cursor = { cursor with mWindow := some window } := by rw [← present]
  simp only [queryFillWindow, run_reading_bind]
  cases refused : (!cursor.available || (outside number).refused) with
  | true =>
      rw [when_true, run_throwing_bind]
      refine .inl ⟨.refused, some window, by rw [← same], ?_⟩
      cases usable : cursor.available with
      | false => exact .inl ⟨usable, rfl⟩
      | true =>
          rw [usable, Bool.not_true, Bool.false_or] at refused
          exact .inr ⟨.inl usable, refused⟩
  | false =>
      rw [when_false, run_pure_bind, run_reading_bind, run_reading_bind, present]
      simp only [executeForCursorWindow]
      have usable : cursor.available = true := by
        simpa using (Bool.or_eq_false_iff.mp refused).1
      have rows := serves.rows number cursor.bindArgs
      rcases shows.fill serves.narrow _ (serves.isRows number cursor.bindArgs)
        (serves.few number cursor.bindArgs) positions countAllRows with
        ⟨exception, thrown, reason⟩ | ⟨packed, ended, shown, reached, counted⟩
      · rw [thrown]
        exact .inl ⟨.fill exception, _, rfl, .inr ⟨.inl usable, reason⟩⟩
      · rw [rows] at shown reached counted
        rw [ended]
        exact .inr ⟨_, _, rfl, usable, shown, reached, counted⟩

/-- As long as a cursor can execute its query, it has the rows of it. -/
theorem Sound.select_eq (sound : Sound select cursor plain) (usable : cursor.available = true) :
    select cursor.bindArgs = plain.rows := by
  rw [sound.bound usable, sound.rows]

/-- A clear window is filled, from the required row on or a bit in front of it. -/
theorem Sound.fillClearWindow (sound : Sound select cursor plain)
    (serves : Serves outside numColumns select) (number : Nat) {window : PositionedWindow}
    (present : cursor.mWindow = some window) {requiredPos : Int}
    (range : 0 ≤ requiredPos ∧ requiredPos < 2 ^ 31) :
    let ended := (SQLiteCursor.fillClearWindow numColumns (outside number) requiredPos).run cursor
    Failed (outside number) cursor ended ∨
      ∃ filled capacity, ended = (.ok ⟨⟩, { cursor with
          mWindow := some filled
          mCount := plain.rows.length
          mCursorWindowCapacity := capacity }) ∧
        0 ≤ capacity ∧ filled.Shows plain.rows ∧ filled.Reaches plain.rows requiredPos := by
  have shows := sound.shows window present
  have third : 0 ≤ cursor.mCursorWindowCapacity.tdiv 3 :=
    Int.tdiv_nonneg sound.capacity (by decide)
  simp only [SQLiteCursor.fillClearWindow, run_reading_bind]
  split
  case isTrue unknown =>
    have start : cursorPickFillWindowStartPosition requiredPos 0 = requiredPos := by
      rw [cursorPickFillWindowStartPosition, Int.zero_tdiv]
      omega
    rw [start]
    rcases run_queryFillWindow serves number present shows
      ⟨range.1, Int.le_refl requiredPos, range.2⟩ true with
      ⟨exception, left, ran, failed⟩ | ⟨filled, total, ran, usable, shown, reached, counted⟩
    · rw [run_bind_of_error ran]
      exact .inl ⟨exception, left, rfl, failed⟩
    · rw [run_bind_of_ok ran, run_changing_bind, run_changing, counted rfl]
      rw [sound.select_eq usable] at shown reached ⊢
      exact .inr ⟨filled, filled.native.getNumRows, rfl, Int.natCast_nonneg _, shown, reached⟩
  case isFalse known =>
    rw [run_reading_bind]
    have start : 0 ≤ cursorPickFillWindowStartPosition requiredPos cursor.mCursorWindowCapacity ∧
        cursorPickFillWindowStartPosition requiredPos cursor.mCursorWindowCapacity ≤
          requiredPos := by
      rw [cursorPickFillWindowStartPosition]
      omega
    have count : cursor.mCount = plain.rows.length := sound.counted.resolve_left known
    rcases run_queryFillWindow serves number present shows
      ⟨start.1, start.2, range.2⟩ false with
      ⟨exception, left, ran, failed⟩ | ⟨filled, total, ran, usable, shown, reached, -⟩
    · rw [run_bind_of_error ran]
      exact .inl ⟨exception, left, rfl, failed⟩
    · rw [run_bind_of_ok ran, run_pure]
      rw [sound.select_eq usable] at shown reached
      exact .inr ⟨filled, cursor.mCursorWindowCapacity, by rw [← count], sound.capacity, shown,
        reached⟩

theorem run_clearOrCreateWindow (execution : Execution β)
    (shows : ∀ window, cursor.mWindow = some window → window.Shows plain.rows) :
    let ended := (clearOrCreateWindow execution).run cursor
    ended = (.error .allocation, cursor) ∧ execution.data = none ∨
      ∃ window, ended = (.ok ⟨⟩, { cursor with mWindow := some window }) ∧
        window.Shows plain.rows := by
  simp only [clearOrCreateWindow, run_reading_bind]
  cases present : cursor.mWindow with
  | some window => exact .inr ⟨window.clear, rfl, (shows window present).clear plain.rows⟩
  | none =>
      cases memory : execution.data with
      | none => exact .inl ⟨rfl, rfl⟩
      | some data => exact .inr ⟨_, rfl, PositionedWindow.shows_create data plain.rows⟩

/-- A fill that fails closes the window, or there was none. One that does not fail has the required
row in the window, or a row is too large. -/
theorem Sound.fillWindow (sound : Sound select cursor plain)
    (serves : Serves outside numColumns select) {requiredPos : Int}
    (range : 0 ≤ requiredPos ∧ requiredPos < 2 ^ 31) :
    let ended := (SQLiteCursor.fillWindow outside numColumns requiredPos).run cursor
    Sound select ended.2 plain ∧ ended.2.fills = cursor.fills + 1 ∧
      ((∃ exception, ended.1 = .error exception ∧
          Prevents (outside cursor.fills) cursor exception) ∨
        ended.1 = .ok ⟨⟩ ∧ ended.2.mCount = plain.rows.length ∧
          ∃ window, ended.2.mWindow = some window ∧ window.Reaches plain.rows requiredPos) := by
  simp only [SQLiteCursor.fillWindow, run_reading_bind, run_changing_bind]
  have ticked : Sound select { cursor with fills := cursor.fills + 1 } plain :=
    { sound with }
  rcases run_clearOrCreateWindow (outside cursor.fills) ticked.shows with
    ⟨ran, memory⟩ | ⟨window, ran, shows⟩
  · rw [run_bind_of_error ran]
    exact ⟨ticked, rfl, .inl ⟨_, rfl, .inr ⟨.inr rfl, memory⟩⟩⟩
  · rw [run_bind_of_ok ran]
    have cleared : Sound select
        { cursor with fills := cursor.fills + 1, mWindow := some window } plain :=
      { ticked with
        shows := fun other present => Option.some.inj present ▸ shows }
    rcases cleared.fillClearWindow serves cursor.fills rfl range with
      ⟨exception, left, filled, prevents⟩ | ⟨filled, capacity, ran, least, shown, reached⟩
    · rw [run_catching_of_error filled]
      have dropped : Sound select { cursor with
          fills := cursor.fills + 1, mWindow := Option.none, mCount := noCount } plain :=
        { ticked with
          shows := fun other present => absurd present (by simp)
          counted := .inl rfl }
      exact ⟨dropped, rfl, .inl ⟨exception, rfl, prevents⟩⟩
    · rw [run_catching_of_ok ran]
      exact ⟨{ cleared with
        shows := fun other present => Option.some.inj present ▸ shown
        counted := .inr rfl
        capacity := least }, rfl, .inr ⟨rfl, rfl, filled, rfl, reached⟩⟩

/-! ### Counting and moving -/

/-- A cursor stands for a position among rows, after `least` fills or more. Unless the row is lost,
it is in the window or some row is too large. If nothing may go wrong, it is not lost. -/
structure Tracks (select : β → List (List Field)) (live : Prop) (least : Nat)
    (cursor : SQLiteCursor β) (plain : RowCursor β) : Prop where
  sound : Sound select cursor plain
  made : least ≤ cursor.fills
  unmoved : plain.lost = false → cursor.mCount = noCount → plain.position = -1
  shown : plain.lost = false → plain.onRow = true →
    ∃ window, cursor.mWindow = some window ∧ window.Reaches plain.rows plain.position
  ready : live → plain.available = true ∧ plain.lost = false

/-- Why a cursor that is to read a column, or none, may throw: not if nothing may go wrong. Its
executions are those after `least` others. -/
def Excuse (outside : Nat → Execution β) (live : Prop) (least : Nat) (read : Option Nat)
    (plain : RowCursor β) (reached : SQLiteCursor β) (exception : CursorException)
    (next : RowCursor β) : Prop :=
  ¬ live ∧ plain.Interrupts outside (List.range' least (reached.fills - least)) read exception next

variable {live : Prop} {least : Nat} {read : Option Nat}

/-- A method that throws with an excuse. -/
def Throws {α : Type} (outside : Nat → Execution β) (select : β → List (List Field))
    (live : Prop) (least : Nat) (read : Option Nat) (plain : RowCursor β)
    (ended : Except CursorException α × SQLiteCursor β) : Prop :=
  ∃ exception reached next, ended = (.error exception, reached) ∧
    Excuse outside live least read plain reached exception next ∧
    Tracks select live least reached next

theorem Throws.bind {α γ : Type} {method : CursorMethod β α} {next : α → CursorMethod β γ}
    (throws : Throws outside select live least read plain (method.run cursor)) :
    Throws outside select live least read plain ((method >>= next).run cursor) := by
  obtain ⟨exception, reached, left, ran, excuse, kept⟩ := throws
  exact ⟨exception, reached, left, run_bind_of_error ran, excuse, kept⟩

theorem Throws.follows {α : Type} {method : CursorMethod β α} {plainMethod : RowMethod β α}
    (throws : Throws outside select live least read plain (method.run cursor)) :
    ((method.run cursor).1 = (plainMethod.run plain).1 ∧
        Tracks select live least (method.run cursor).2 (plainMethod.run plain).2) ∨
      ∃ exception next, (method.run cursor).1 = .error exception ∧
        Excuse outside live least read plain (method.run cursor).2 exception next ∧
        Tracks select live least (method.run cursor).2 next := by
  obtain ⟨exception, reached, next, ran, excuse, kept⟩ := throws
  rw [ran]
  exact .inr ⟨exception, next, rfl, excuse, kept⟩

/-- An execution that is prevented interrupts the cursor that makes it. -/
theorem Sound.interrupts (sound : Sound select cursor plain) {exception : CursorException}
    (prevents : Prevents (outside cursor.fills) cursor exception) {executions : List Nat}
    (made : cursor.fills ∈ executions) :
    plain.Interrupts outside executions read exception { plain with lost := true } := by
  rcases prevents with ⟨closed, rfl⟩ | ⟨usable | rfl, fails⟩
  · exact .unavailable (List.ne_nil_of_mem made) (sound.available.symm.trans closed)
  · rw [sound.bound usable] at fails
    exact .execution made fails
  · exact .execution made fails

theorem Tracks.fillWindow (tracks : Tracks select live least cursor plain)
    (serves : Serves outside numColumns select) (faultless : live → Faultless outside select)
    {requiredPos : Int} (range : 0 ≤ requiredPos ∧ requiredPos < 2 ^ 31) :
    let ended := (SQLiteCursor.fillWindow outside numColumns requiredPos).run cursor
    Throws outside select live least read plain ended ∨
      ∃ reached window, ended = (.ok ⟨⟩, reached) ∧ Sound select reached plain ∧
        least ≤ reached.fills ∧ reached.mCount = plain.rows.length ∧
        reached.mWindow = some window ∧ window.Reaches plain.rows requiredPos := by
  have filled := tracks.sound.fillWindow serves range
  simp only at filled ⊢
  generalize (SQLiteCursor.fillWindow outside numColumns requiredPos).run cursor = result
    at filled ⊢
  obtain ⟨sound, ticked, ended⟩ := filled
  have made := tracks.made
  have still : least ≤ result.2.fills := by omega
  have among : cursor.fills ∈ List.range' least (result.2.fills - least) := by
    rw [List.mem_range'_1]
    omega
  rcases ended with ⟨exception, thrown, prevents⟩ | ⟨ended, counted, window, present, reached⟩
  · have faulty : ¬ live := by
      intro holds
      have usable := tracks.sound.available.trans (tracks.ready holds).1
      rcases prevents with ⟨closed, -⟩ | ⟨-, fails⟩
      · exact absurd (closed.symm.trans usable) Bool.false_ne_true
      · exact ((faultless holds).succeeds _ _).not_fails exception fails
    refine .inl ⟨exception, _, { plain with lost := true }, Prod.ext thrown rfl,
      ⟨faulty, tracks.sound.interrupts prevents among⟩, {
      sound := { sound with }
      made := still
      unmoved := fun found => absurd found.symm Bool.false_ne_true
      shown := fun found => absurd found.symm Bool.false_ne_true
      ready := fun holds => absurd holds faulty }⟩
  · exact .inr ⟨_, window, Prod.ext ended rfl, sound, still, counted, present, reached⟩

theorem Tracks.getCount (tracks : Tracks select live least cursor plain)
    (serves : Serves outside numColumns select) (faultless : live → Faultless outside select) :
    let ended := (SQLiteCursor.getCount outside numColumns).run cursor
    Throws outside select live least read plain ended ∨
      ∃ reached, ended = (.ok (plain.rows.length : Int), reached) ∧
        Tracks select live least reached plain ∧ reached.mCount = plain.rows.length := by
  simp only [SQLiteCursor.getCount, run_reading_bind]
  split
  case isTrue unknown =>
    have first : (0 : Int) ≤ 0 ∧ (0 : Int) < 2 ^ 31 := by decide
    rcases tracks.fillWindow serves faultless first with
      throws | ⟨reached, window, ran, sound, made, counted, -⟩
    · exact .inl throws.bind
    · rw [run_bind_of_ok ran, run_reading, counted]
      refine .inr ⟨reached, rfl, {
        sound := sound
        made := made
        unmoved := fun _ none => ?_
        shown := fun found on => ?_
        ready := tracks.ready }, counted⟩
      · rw [counted] at none
        exact absurd none (by simp only [noCount]; omega)
      · rw [RowCursor.onRow, tracks.unmoved found unknown] at on
        simp at on
  case isFalse known =>
    have count := tracks.sound.counted.resolve_left known
    rw [run_reading, count]
    exact .inr ⟨cursor, rfl, tracks, count⟩

/-- A cursor that is moved has what it needs there. -/
theorem Tracks.moveTo (sound : Sound select cursor plain) (made : least ≤ cursor.fills)
    (ready : live → plain.available = true ∧ plain.lost = false)
    (counted : cursor.mCount = plain.rows.length) {position target : Int}
    (landed : (plain.moveTo position).position = target)
    (there : 0 ≤ position ∧ position < plain.rows.length →
      ∃ window, cursor.mWindow = some window ∧ window.Reaches plain.rows position) :
    Tracks select live least { cursor with mPos := target } (plain.moveTo position) := by
  refine {
    sound := { sound with
      position := landed.symm
      range := by
        simp only [RowCursor.moveTo]
        omega }
    made := made
    unmoved := fun _ none => ?_
    shown := fun _ on => ?_
    ready := fun holds => ?_ }
  · have known : cursor.mCount = noCount := none
    rw [counted] at known
    exact absurd known (by simp only [noCount]; omega)
  · have range : 0 ≤ (plain.moveTo position).position ∧
        (plain.moveTo position).position < plain.rows.length := of_decide_eq_true on
    simp only [RowCursor.moveTo] at range
    have same : (plain.moveTo position).position = position := by
      simp only [RowCursor.moveTo]
      omega
    rw [same]
    exact there (by omega)
  · obtain ⟨usable, found⟩ := ready holds
    refine ⟨usable, ?_⟩
    rw [RowCursor.moveTo, found, Bool.false_and]

theorem Tracks.onMove (tracks : Tracks select live least cursor plain)
    (serves : Serves outside numColumns select) (faultless : live → Faultless outside select)
    (counted : cursor.mCount = plain.rows.length) {position : Int}
    (inside : 0 ≤ position ∧ position < plain.rows.length) :
    let ended := (SQLiteCursor.onMove outside numColumns position).run cursor
    Throws outside select live least read plain ended ∨
      ∃ reached window, ended = (.ok ⟨⟩, reached) ∧ Sound select reached plain ∧
        least ≤ reached.fills ∧ reached.mCount = plain.rows.length ∧
        reached.mWindow = some window ∧ window.Reaches plain.rows position := by
  have few := tracks.sound.few
  simp only [SQLiteCursor.onMove, run_reading_bind]
  cases shown : cursor.shows position with
  | true =>
      rw [SQLiteCursor.shows] at shown
      cases present : cursor.mWindow with
      | none =>
          rw [present] at shown
          cases shown
      | some window =>
          rw [present] at shown
          have within := of_decide_eq_true shown
          exact .inr ⟨cursor, window, rfl, tracks.sound, tracks.made, counted, present,
            fun _ => ⟨within.1, .inl within.2⟩⟩
  | false => exact tracks.fillWindow serves faultless ⟨inside.1, by omega⟩

theorem follows_moveToPosition (serves : Serves outside numColumns select)
    (faultless : live → Faultless outside select) (position : Int) :
    Follows (Tracks select live least) (Excuse outside live least read)
      (SQLiteCursor.moveToPosition outside numColumns position)
      (RowCursor.moveToPosition position) := by
  intro cursor plain tracks
  rcases tracks.getCount serves faultless with throws | ⟨reached, ran, kept, counted⟩
  · exact throws.bind.follows
  · rw [SQLiteCursor.moveToPosition, run_bind_of_ok ran, plain.run_moveToPosition]
    split
    case isTrue behind =>
      rw [run_changing_bind, run_pure]
      refine .inl ⟨congrArg Except.ok (decide_eq_false (by omega)).symm, ?_⟩
      refine Tracks.moveTo kept.sound kept.made kept.ready counted ?_ fun inside => by omega
      simp only [RowCursor.moveTo]
      omega
    case isFalse notBehind =>
      split
      case isTrue before =>
        rw [run_changing_bind, run_pure]
        refine .inl ⟨congrArg Except.ok (decide_eq_false (by omega)).symm, ?_⟩
        refine Tracks.moveTo kept.sound kept.made kept.ready counted ?_ fun inside => by omega
        simp only [RowCursor.moveTo]
        omega
      case isFalse notBefore =>
        have inside : 0 ≤ position ∧ position < plain.rows.length := by omega
        have landed : (plain.moveTo position).position = position := by
          simp only [RowCursor.moveTo]
          omega
        rw [run_reading_bind, decide_eq_true inside]
        split
        case isTrue there =>
          have unmoved : plain.position = position := kept.sound.position.symm.trans there.symm
          have same : plain.moveTo position = plain := by
            have target : max (-1) (min position (plain.rows.length : Int)) = plain.position := by
              omega
            simp only [RowCursor.moveTo, target, beq_self_eq_true, Bool.and_true]
          rw [same, run_pure]
          exact .inl ⟨rfl, kept⟩
        case isFalse elsewhere =>
          rcases kept.onMove serves faultless counted inside with
            throws | ⟨last, window, moved, sound, made, counted, present, reaches⟩
          · obtain ⟨exception, last, next, ended, excuse, stays⟩ := throws.bind
            rw [ended]
            exact .inr ⟨exception, next, rfl, excuse, stays⟩
          · rw [run_bind_of_ok moved, run_changing_bind, run_pure]
            exact .inl ⟨rfl, Tracks.moveTo sound made kept.ready counted landed fun _ =>
              ⟨window, present, reaches⟩⟩

/-! ### Reading -/

theorem Tracks.outOfBounds (tracks : Tracks select live least cursor plain)
    (serves : Serves outside numColumns select) (faultless : live → Faultless outside select) :
    let ended := (SQLiteCursor.outOfBounds outside numColumns).run cursor
    Throws outside select live least read plain ended ∨
      ∃ reached, Tracks select live least reached plain ∧
        ended = (.error (.indexOutOfBounds plain.position plain.rows.length), reached) := by
  simp only [SQLiteCursor.outOfBounds, run_reading_bind]
  rcases tracks.getCount serves faultless with throws | ⟨reached, ran, kept, -⟩
  · exact .inl throws.bind
  · rw [run_bind_of_ok ran, run_throwing, tracks.sound.position]
    exact .inr ⟨reached, kept, rfl⟩

theorem Tracks.checkBounds (tracks : Tracks select live least cursor plain)
    (serves : Serves outside numColumns select) (faultless : live → Faultless outside select) :
    let ended := (SQLiteCursor.checkBounds outside numColumns).run cursor
    Throws outside select live least read plain ended ∨
      ∃ reached, Tracks select live least reached plain ∧
        (plain.onRow = false ∧
            ended = (.error (.indexOutOfBounds plain.position plain.rows.length), reached) ∨
          plain.onRow = true ∧ ended = (.ok ⟨⟩, reached)) := by
  have range := tracks.sound.range
  simp only [SQLiteCursor.checkBounds, run_reading_bind, tracks.sound.position]
  split
  case isTrue before =>
    have off : plain.onRow = false := decide_eq_false (by omega)
    rcases tracks.outOfBounds serves faultless with throws | ⟨reached, kept, ran⟩
    · exact .inl throws
    · exact .inr ⟨reached, kept, .inl ⟨off, ran⟩⟩
  case isFalse notBefore =>
    rcases tracks.getCount serves faultless with throws | ⟨middle, ran, still, -⟩
    · exact .inl throws.bind
    · rw [run_bind_of_ok ran]
      split
      case isTrue behind =>
        have off : plain.onRow = false := decide_eq_false (by omega)
        rcases still.outOfBounds serves faultless with throws | ⟨reached, kept, ran⟩
        · exact .inl throws
        · exact .inr ⟨reached, kept, .inl ⟨off, ran⟩⟩
      case isFalse notBehind =>
        exact .inr ⟨middle, still, .inr ⟨decide_eq_true (by omega), rfl⟩⟩

theorem Tracks.checkPosition (tracks : Tracks select live least cursor plain)
    (serves : Serves outside numColumns select) (faultless : live → Faultless outside select)
    (reads : read ≠ none) :
    let ended := (SQLiteCursor.checkPosition outside numColumns).run cursor
    Throws outside select live least read plain ended ∨
      ∃ reached, Tracks select live least reached plain ∧
        (plain.onRow = false ∧
            ended = (.error (.indexOutOfBounds plain.position plain.rows.length), reached) ∨
          plain.onRow = true ∧ ended = (.ok ⟨⟩, reached) ∧
            ∃ window, reached.mWindow = some window) := by
  simp only [SQLiteCursor.checkPosition]
  rcases tracks.checkBounds serves faultless with
    throws | ⟨reached, kept, ⟨off, ran⟩ | ⟨on, ran⟩⟩
  · exact .inl throws.bind
  · exact .inr ⟨reached, kept, .inl ⟨off, run_bind_of_error ran⟩⟩
  · rw [run_bind_of_ok ran, run_reading_bind]
    cases present : reached.mWindow with
    | some window => exact .inr ⟨reached, kept, .inr ⟨on, rfl, window, present⟩⟩
    | none =>
        have lost : plain.lost = true := by
          by_contra found
          obtain ⟨window, held, -⟩ := kept.shown (Bool.eq_false_iff.mpr found) on
          rw [present] at held
          cases held
        refine .inl ⟨.staleData, reached, plain, rfl, ⟨fun holds => ?_, .stale reads lost⟩, kept⟩
        exact absurd ((kept.ready holds).2.symm.trans lost) Bool.false_ne_true

/-- A cursor that is ready has a field at its position in every column. -/
theorem Tracks.field_ne_none (tracks : Tracks select live least cursor plain)
    (serves : Serves outside numColumns select) {column : Nat} (narrow : column < numColumns)
    (on : plain.onRow = true) : plain.field column ≠ none := by
  have range : 0 ≤ plain.position ∧ plain.position < plain.rows.length := of_decide_eq_true on
  have inside : plain.position.toNat < plain.rows.length := by omega
  have member := List.getElem_mem inside
  rw [RowCursor.field, List.getElem?_eq_getElem inside, Option.bind_some]
  generalize plain.rows[plain.position.toNat] = fields at member
  rw [tracks.sound.rows] at member
  have wide := serves.length_eq member
  rw [List.getElem?_eq_getElem (wide ▸ narrow)]
  exact Option.some_ne_none _

/-- The row at the position is in the window, or something went wrong. -/
theorem follows_getField (serves : Serves outside numColumns select)
    (faultless : live → Faultless outside select) {column : Nat}
    (narrow : live → column < numColumns) :
    Follows (Tracks select live least) (Excuse outside live least (some column))
      (SQLiteCursor.getField outside numColumns column) (RowCursor.getField column) := by
  intro cursor plain tracks
  rcases tracks.checkPosition serves faultless (Option.some_ne_none column) with
    throws | ⟨reached, kept, ⟨off, ran⟩ | ⟨on, ran, window, present⟩⟩
  · exact throws.bind.follows
  · rw [SQLiteCursor.getField, run_bind_of_error ran, RowCursor.getField, run_reading_bind, id, off]
    exact .inl ⟨rfl, kept⟩
  · have range : 0 ≤ plain.position ∧ plain.position < plain.rows.length := of_decide_eq_true on
    have few := kept.sound.few
    have found := (kept.sound.shows window present).getField column
      ⟨range.1, by omega⟩
    rw [SQLiteCursor.getField, run_bind_of_ok ran, run_reading_bind, run_reading_bind, present,
      kept.sound.position, RowCursor.getField, run_reading_bind, id, on]
    simp only
    cases looked : window.native.getField (window.nativeRow plain.position) column with
    | some field =>
        have same : plain.field column = some field := by
          rw [found] at looked
          split at looked
          · exact looked
          · cases looked
        rw [same]
        exact .inl ⟨rfl, kept⟩
    | none =>
        have reason : plain.lost = true ∨ (∃ fields ∈ plain.rows, ¬ Fits fields) ∨
            plain.field column = none := by
          by_cases lost : plain.lost = true
          · exact .inl lost
          · obtain ⟨other, held, reaches⟩ := kept.shown (Bool.eq_false_iff.mpr lost) on
            obtain rfl : window = other := Option.some.inj (present.symm.trans held)
            obtain ⟨first, last | large⟩ := reaches range.2
            · rw [found, if_pos ⟨first, last⟩] at looked
              exact .inr (.inr looked)
            · exact .inr (.inl large)
        refine .inr ⟨_, plain, rfl, ⟨fun holds => ?_, .unread _ rfl reason⟩, kept⟩
        obtain ⟨usable, notLost⟩ := kept.ready holds
        rcases reason with lost | ⟨fields, member, large⟩ | missing
        · exact absurd (notLost.symm.trans lost) Bool.false_ne_true
        · rw [kept.sound.rows] at member
          exact large ((faultless holds).fits plain.bindArgs fields member)
        · exact kept.field_ne_none serves (narrow holds) on missing

theorem follows_blobOf (field : Field) :
    Follows (Tracks select live least) (Excuse outside live least read)
      (blobOf field : CursorMethod β _) (blobOf field) := by
  cases field with
  | null => exact follows_pure none
  | integer value => exact follows_throwing CursorException.integerData
  | float value => exact follows_throwing CursorException.floatData
  | string bytes => exact follows_pure (some bytes)
  | blob bytes => exact follows_pure (some bytes)

theorem follows_getCount (serves : Serves outside numColumns select)
    (faultless : live → Faultless outside select) :
    Follows (Tracks select live least) (Excuse outside live least read)
      (SQLiteCursor.getCount outside numColumns) RowCursor.getCount := by
  intro cursor plain tracks
  rcases tracks.getCount serves faultless with throws | ⟨reached, ran, kept, -⟩
  · exact throws.follows
  · rw [ran]
    exact .inl ⟨rfl, kept⟩

/-! ### Executing the query anew -/

theorem run_requery_of_unavailable (closed : cursor.available = false) :
    requery.run cursor = (.ok false, cursor) := by
  rw [requery, run_reading_bind, closed]
  rfl

theorem run_requery_of_available (usable : cursor.available = true) :
    requery.run cursor = (.ok true, { cursor with
      mWindow := cursor.mWindow.map (·.clear), mPos := -1, mCount := noCount }) := by
  rw [requery, run_reading_bind, usable]
  rfl

/-- The window is clear, and there are other rows now. -/
theorem Tracks.requeried (tracks : Tracks select live least cursor plain)
    (serves : Serves outside numColumns select) (usable : cursor.available = true) (bindArgs : β) :
    Tracks select live least { cursor with
      bindArgs := bindArgs
      mWindow := cursor.mWindow.map (·.clear)
      mPos := -1
      mCount := noCount } { bindArgs := bindArgs, rows := select bindArgs } := by
  refine {
    sound := {
      shows := fun window present => ?_
      counted := .inl rfl
      position := rfl
      range := by
        simp only
        omega
      capacity := tracks.sound.capacity
      available := usable
      bound := fun _ => rfl
      rows := rfl
      few := serves.length_select_lt bindArgs }
    made := tracks.made
    unmoved := fun _ _ => rfl
    shown := fun _ on => ?_
    ready := fun _ => ⟨rfl, rfl⟩ }
  · obtain ⟨before, held, rfl⟩ := Option.map_eq_some_iff.mp present
    exact (tracks.sound.shows before held).clear (select bindArgs)
  · simp [RowCursor.onRow] at on

/-- Arguments that are bound to a query that cannot be executed any more. -/
theorem Tracks.bound (tracks : Tracks select live least cursor plain)
    (closed : cursor.available = false) (bindArgs : β) :
    Tracks select live least { cursor with bindArgs := bindArgs } plain :=
  { tracks with
    sound := { tracks.sound with
      bound := fun usable => absurd (usable.symm.trans closed) (by simp) } }

/-- A cursor that is closed, or whose window or database is. Without its window, its row is lost. -/
theorem Tracks.closed (tracks : Tracks select live least cursor plain) (unused : ¬ live)
    {window : Option PositionedWindow} {lost : Bool}
    (letGo : window = none ∧ lost = true ∨ window = cursor.mWindow ∧ lost = plain.lost)
    {isOpen mClosed : Bool}
    (available : (!mClosed && isOpen) = true → cursor.available = true) :
    Tracks select live least
      { cursor with mWindow := window, isOpen := isOpen, mClosed := mClosed }
      { plain with available := !mClosed && isOpen, lost := lost } := by
  refine {
    sound := { tracks.sound with
      shows := fun held present => ?_
      available := rfl
      bound := fun usable => tracks.sound.bound (available usable) }
    made := tracks.made
    unmoved := fun found => ?_
    shown := fun found => ?_
    ready := fun holds => absurd holds unused }
  · rcases letGo with ⟨none, -⟩ | ⟨same, -⟩
    · exact absurd (none.symm.trans present) (by simp)
    · exact tracks.sound.shows held (same.symm.trans present)
  · rcases letGo with ⟨-, gone⟩ | ⟨-, same⟩
    · exact absurd (gone.symm.trans found) (by simp)
    · exact tracks.unmoved (same.symm.trans found)
  · rcases letGo with ⟨-, gone⟩ | ⟨rfl, same⟩
    · exact absurd (gone.symm.trans found) (by simp)
    · exact tracks.shown (same.symm.trans found)

end SQLiteCursor

end Openpyn.Database
