import Mathlib.Algebra.Ring.Int.Defs
import Openpyn.Database.FillWindow
import Openpyn.Foundation.Effects

/-!
# Cursors over the rows of a query

A cursor has a position among the rows of its query and a window that shows a part of them. A move
out of that part fills the window again, by executing the query once more. The rows are counted by
the first fill. Whatever fails on the way closes the window and forgets the count.
-/

namespace Openpyn.Database

open Openpyn.Foundation Openpyn.Foundation.Effect

/-- A window object of Java: a native window and the position of its first row. -/
structure PositionedWindow where
  native : CursorWindow
  mStartPos : Int

/-- `WINDOW_SIZE_KB * 1024` -/
def cursorWindowSize : Nat := 2097152

def noCount : Int := -1

/-- What a fill meets outside: memory for a window, if there is some, a database that may refuse
to execute the query, and what stepping the statement brings for its arguments. What comes after
an error is not stepped to. -/
structure Execution (β : Type) where
  data : Option Memory
  refused : Bool
  steps : β → List StatementStep

inductive CursorException where
  | allocation
  | refused
  | fill (exception : FillException)
  | nullPointer
  | indexOutOfBounds (index size : Int)
  | staleData
  | couldNotRead (row column : Int)
  | integerData
  | floatData
  deriving DecidableEq, Repr

/-- A cursor, with the arguments that are bound to its query, whether its database is open, and
the number of fills so far. -/
structure SQLiteCursor (β : Type) where
  bindArgs : β
  isOpen : Bool := true
  mPos : Int := -1
  mCount : Int := noCount
  mWindow : Option PositionedWindow := none
  mCursorWindowCapacity : Int := 0
  mClosed : Bool := false
  fills : Nat := 0

abbrev CursorMethod (β α : Type) := Effect (SQLiteCursor β) CursorException α

namespace PositionedWindow

def clear (window : PositionedWindow) : PositionedWindow :=
  { native := window.native.clear.1, mStartPos := 0 }

/-- The native row of a position, which is passed as a `uint32_t`. -/
def nativeRow (window : PositionedWindow) (row : Int) : Nat :=
  ((row - window.mStartPos) % 2 ^ 32).toNat

end PositionedWindow

namespace SQLiteCursor

variable {β : Type} (outside : Nat → Execution β) (numColumns : Nat)

/-! ## Filling the window -/

def closeWindow : CursorMethod β Unit := changing fun cursor => { cursor with mWindow := none }

/-- `setWindow(null)` -/
def dropWindow : CursorMethod β Unit := do
  closeWindow
  changing fun cursor => { cursor with mCount := noCount }

def clearOrCreateWindow (execution : Execution β) : CursorMethod β Unit := do
  match ← reading (·.mWindow) with
  | none =>
      match execution.data with
      | none => throwing .allocation
      | some data =>
          changing fun cursor =>
            { cursor with mWindow := some ⟨CursorWindow.create data cursorWindowSize, 0⟩ }
  | some window => changing fun cursor => { cursor with mWindow := some window.clear }

/-- Whether the query is not closed and its database is open. -/
def available (cursor : SQLiteCursor β) : Bool := !cursor.mClosed && cursor.isOpen

/-- What the native fill of a window comes to. Unless it throws, the position is set. -/
def delivered (window : PositionedWindow) (native : CursorWindow) :
    Except FillException (BitVec 64) → CursorMethod β Int
  | .error exception => do
      changing fun cursor => { cursor with mWindow := some { window with native := native } }
      throwing (.fill exception)
  | .ok result => do
      changing fun cursor => { cursor with mWindow := some ⟨native, actualPos result⟩ }
      pure (countedRows result)

def executeForCursorWindow (steps : List StatementStep) (window : PositionedWindow)
    (startPos requiredPos : Int) (countAllRows : Bool) : CursorMethod β Int :=
  let filled := window.native.nativeExecuteForCursorWindow numColumns steps startPos.toNat
    requiredPos.toNat countAllRows
  delivered window filled.1 filled.2

/-- `SQLiteQuery.fillWindow`, which reaches the connection unless the query is closed or the
database refuses. -/
def queryFillWindow (execution : Execution β) (startPos requiredPos : Int)
    (countAllRows : Bool) : CursorMethod β Int := do
  let refused ← reading fun cursor => !cursor.available || execution.refused
  when refused (throwing .refused)
  let steps ← reading fun cursor => execution.steps cursor.bindArgs
  match ← reading (·.mWindow) with
  | none => throwing .nullPointer
  | some window =>
      executeForCursorWindow numColumns steps window startPos requiredPos countAllRows

def cursorPickFillWindowStartPosition (cursorPosition cursorWindowCapacity : Int) : Int :=
  max (cursorPosition - cursorWindowCapacity.tdiv 3) 0

/-- The rows in the window. -/
def windowNumRows (cursor : SQLiteCursor β) : Int :=
  match cursor.mWindow with
  | none => 0
  | some window => window.native.getNumRows

/-- The first fill counts the rows. Later ones begin in front of the required row. -/
def fillClearWindow (execution : Execution β) (requiredPos : Int) : CursorMethod β Unit := do
  if (← reading (·.mCount)) = noCount then
    let startPos := cursorPickFillWindowStartPosition requiredPos 0
    let counted ← queryFillWindow numColumns execution startPos requiredPos true
    changing fun cursor => { cursor with mCount := counted }
    changing fun cursor => { cursor with mCursorWindowCapacity := cursor.windowNumRows }
  else
    let capacity ← reading (·.mCursorWindowCapacity)
    let startPos := cursorPickFillWindowStartPosition requiredPos capacity
    let _ ← queryFillWindow numColumns execution startPos requiredPos false

def fillWindow (requiredPos : Int) : CursorMethod β Unit := do
  let execution := outside (← reading (·.fills))
  changing fun cursor => { cursor with fills := cursor.fills + 1 }
  clearOrCreateWindow execution
  (fillClearWindow numColumns execution requiredPos).catching fun exception => do
    dropWindow
    throwing exception

def getCount : CursorMethod β Int := do
  if (← reading (·.mCount)) = noCount then fillWindow outside numColumns 0
  reading (·.mCount)

/-! ## Moving -/

/-- Whether the window shows a position. -/
def shows (cursor : SQLiteCursor β) (position : Int) : Bool :=
  match cursor.mWindow with
  | none => false
  | some window =>
      decide (window.mStartPos ≤ position ∧
        position < window.mStartPos + window.native.getNumRows)

def onMove (newPosition : Int) : CursorMethod β Unit := do
  if !(← reading (·.shows newPosition)) then fillWindow outside numColumns newPosition

def moveToPosition (position : Int) : CursorMethod β Bool := do
  let count ← getCount outside numColumns
  if count ≤ position then
    changing fun cursor => { cursor with mPos := count }
    pure false
  else if position < 0 then
    changing fun cursor => { cursor with mPos := -1 }
    pure false
  else if position = (← reading (·.mPos)) then pure true
  else do
    onMove outside numColumns position
    changing fun cursor => { cursor with mPos := position }
    pure true

/-- `move(int)`, whose sum is an `int`. -/
def move (offset : Int) : CursorMethod β Bool := do
  moveToPosition outside numColumns (((← reading (·.mPos)) + offset).bmod (2 ^ 32))

def moveToFirst : CursorMethod β Bool := moveToPosition outside numColumns 0

def moveToLast : CursorMethod β Bool := do
  moveToPosition outside numColumns ((← getCount outside numColumns) - 1)

def moveToNext : CursorMethod β Bool := move outside numColumns 1

def moveToPrevious : CursorMethod β Bool := move outside numColumns (-1)

/-! ## Reading -/

def outOfBounds : CursorMethod β Unit := do
  let position ← reading (·.mPos)
  throwing (.indexOutOfBounds position (← getCount outside numColumns))

/-- `AbstractCursor.checkPosition` -/
def checkBounds : CursorMethod β Unit := do
  let position ← reading (·.mPos)
  if position = -1 then outOfBounds outside numColumns
  else if (← getCount outside numColumns) = position then outOfBounds outside numColumns

/-- `AbstractWindowedCursor.checkPosition` -/
def checkPosition : CursorMethod β Unit := do
  checkBounds outside numColumns
  when (← reading (·.mWindow.isNone)) (throwing .staleData)

/-- What all getters begin with: the field at the cursor's position. -/
def getField (column : Nat) : CursorMethod β Field := do
  checkPosition outside numColumns
  let position ← reading (·.mPos)
  match ← reading (·.mWindow) with
  | none => throwing .nullPointer
  | some window =>
      match window.native.getField (window.nativeRow position) column with
      | none => throwing (.couldNotRead (position - window.mStartPos) column)
      | some field => pure field

/-- `nativeGetBlob` of a field. -/
def blobOf {σ : Type} : Field → Effect σ CursorException (Option (List UInt8))
  | .null => pure none
  | .blob bytes | .string bytes => pure (some bytes)
  | .integer _ => throwing .integerData
  | .float _ => throwing .floatData

def getBlob (column : Nat) : CursorMethod β (Option (List UInt8)) := do
  blobOf (← getField outside numColumns column)

/-! ## Executing the query anew -/

/-- `bindString`, for all arguments of the query. -/
def bindAllArgs (bindArgs : β) : CursorMethod β Unit :=
  changing fun cursor => { cursor with bindArgs := bindArgs }

def requery : CursorMethod β Bool := do
  if !(← reading (·.available)) then pure false
  else do
    changing fun cursor =>
      { cursor with mWindow := cursor.mWindow.map (·.clear), mPos := -1, mCount := noCount }
    pure true

def deactivate : CursorMethod β Unit := closeWindow

def close : CursorMethod β Unit := do
  changing fun cursor => { cursor with mClosed := true }
  closeWindow

/-- The database is closed under the cursor. -/
def closeDatabase : CursorMethod β Unit := changing fun cursor => { cursor with isOpen := false }

end SQLiteCursor

end Openpyn.Database
