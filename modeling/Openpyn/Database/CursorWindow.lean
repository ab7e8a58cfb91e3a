import Openpyn.Foundation.Memory
import Openpyn.Foundation.Machine

/-!
# Cursor windows

The rows of a query travel from SQLite to the cursor in one block of memory. It begins with a
header and a chunk of a hundred row slots. A row slot is the offset of the row's directory, which
has a field slot for each column, and a field slot holds a number or says where the bytes of a
text are. A chunk ends with the offset of the next one. Everything behind the header and the first
chunk is handed out from front to back and never taken back until the window is cleared.
-/

namespace Openpyn.Database

open Openpyn.Foundation

/-- What a row holds in a column. The bits of a floating-point number are not looked into, and
the bytes of a string include the zero at its end. -/
inductive Field where
  | null
  | integer (value : BitVec 64)
  | float (bits : BitVec 64)
  | string (bytes : List UInt8)
  | blob (bytes : List UInt8)
  deriving DecidableEq, Repr

/-- `status_t`, as far as a cursor window uses it. -/
inductive Status where
  | ok
  | noMemory
  | invalidOperation
  | badValue
  deriving DecidableEq, Repr

/-- A window. Offsets count from the beginning of `mData`, where the header is. -/
structure CursorWindow where
  mData : Memory
  mSize : Nat
  mReadOnly : Bool

namespace CursorWindow

def fieldTypeNull : Nat := 0
def fieldTypeInteger : Nat := 1
def fieldTypeFloat : Nat := 2
def fieldTypeString : Nat := 3
def fieldTypeBlob : Nat := 4

def rowSlotChunkNumRows : Nat := 100

/-! The sizes of `Header`, `RowSlotChunk` and the packed `FieldSlot`, and the places in them. -/

def headerSize : Nat := 16
def rowSlotChunkSize : Nat := 404
def fieldSlotSize : Nat := 12

def freeOffsetField : Nat := 0
def firstChunkOffsetField : Nat := 4
def numRowsField : Nat := 8
def numColumnsField : Nat := 12
def nextChunkOffsetField : Nat := 400

/-- The `uint32_t` at an offset. -/
def word (window : CursorWindow) (offset : Nat) : Nat := window.mData.readNumber offset 4

def putWord (window : CursorWindow) (offset value : Nat) : CursorWindow :=
  { window with mData := window.mData.writeNumber offset 4 value }

def freeOffset (window : CursorWindow) : Nat := window.word freeOffsetField

def getNumRows (window : CursorWindow) : Nat := window.word numRowsField

def getNumColumns (window : CursorWindow) : Nat := window.word numColumnsField

def freeSpace (window : CursorWindow) : Nat := window.mSize - window.freeOffset

/-! ## The whole window -/

def clear (window : CursorWindow) : CursorWindow × Status :=
  if window.mReadOnly then (window, .invalidOperation)
  else
    let header := (((window.putWord freeOffsetField (headerSize + rowSlotChunkSize)).putWord
      firstChunkOffsetField headerSize).putWord numRowsField 0).putWord numColumnsField 0
    (header.putWord (header.word firstChunkOffsetField + nextChunkOffsetField) 0, .ok)

/-- A window in memory that has just been allocated and may hold anything. -/
def create (data : Memory) (size : Nat) : CursorWindow := (clear ⟨data, size, false⟩).1

def setNumColumns (window : CursorWindow) (numColumns : Nat) : CursorWindow × Status :=
  if window.mReadOnly then (window, .invalidOperation)
  else
    let cur := window.getNumColumns
    if (0 < cur ∨ 0 < window.getNumRows) ∧ cur ≠ numColumns then (window, .invalidOperation)
    else (window.putWord numColumnsField numColumns, .ok)

/-- What is left out so that an offset is divided by four. -/
def padding (freeOffset : Nat) (aligned : Bool) : Nat :=
  if aligned then (2 ^ 32 - freeOffset) % 4 else 0

/-- Hands out memory, or `0` if there is not enough left. All sums are of `uint32_t`. -/
def alloc (window : CursorWindow) (size : Nat) (aligned : Bool) : CursorWindow × Nat :=
  let offset := (window.freeOffset + padding window.freeOffset aligned) % 2 ^ 32
  let nextFreeOffset := (offset + size) % 2 ^ 32
  if window.mSize < nextFreeOffset then (window, 0)
  else (window.putWord freeOffsetField nextFreeOffset, offset)

/-! ## Rows -/

/-- The row slot that is `chunkPos` slots behind the beginning of a chunk. -/
def rowSlotFrom (window : CursorWindow) (chunk chunkPos : Nat) : Nat :=
  if rowSlotChunkNumRows ≤ chunkPos then
    rowSlotFrom window (window.word (chunk + nextChunkOffsetField))
      (chunkPos - rowSlotChunkNumRows)
  else chunk + 4 * chunkPos
termination_by chunkPos
decreasing_by
  unfold rowSlotChunkNumRows at *
  omega

def getRowSlot (window : CursorWindow) (row : Nat) : Nat :=
  window.rowSlotFrom (window.word firstChunkOffsetField) row

/-- The chunk of the last row, and how many of its slots are in use. -/
def lastChunkFrom (window : CursorWindow) (chunk chunkPos : Nat) : Nat × Nat :=
  if rowSlotChunkNumRows < chunkPos then
    lastChunkFrom window (window.word (chunk + nextChunkOffsetField))
      (chunkPos - rowSlotChunkNumRows)
  else (chunk, chunkPos)
termination_by chunkPos
decreasing_by
  unfold rowSlotChunkNumRows at *
  omega

/-- The chunk that follows one, with room for it if there is none yet. -/
def allocNextChunk (window : CursorWindow) (chunk : Nat) : CursorWindow :=
  if window.word (chunk + nextChunkOffsetField) = 0 then
    let allocated := window.alloc rowSlotChunkSize true
    allocated.1.putWord (chunk + nextChunkOffsetField) allocated.2
  else window

/-- The slot of a new row, or `none` if there is not enough memory left. -/
def allocRowSlot (window : CursorWindow) : CursorWindow × Option Nat :=
  let last := window.lastChunkFrom (window.word firstChunkOffsetField) window.getNumRows
  if last.2 = rowSlotChunkNumRows then
    let extended := window.allocNextChunk last.1
    let chunk := extended.word (last.1 + nextChunkOffsetField)
    if chunk = 0 then (extended, none)
    else
      let linked := extended.putWord (chunk + nextChunkOffsetField) 0
      (linked.putWord numRowsField (linked.getNumRows + 1), some chunk)
  else
    (window.putWord numRowsField (window.getNumRows + 1), some (last.1 + 4 * last.2))

def allocRow (window : CursorWindow) : CursorWindow × Status :=
  if window.mReadOnly then (window, .invalidOperation)
  else
    let slotted := window.allocRowSlot
    match slotted.2 with
    | none => (slotted.1, .noMemory)
    | some rowSlot =>
        let fieldDirSize := slotted.1.getNumColumns * fieldSlotSize
        let allocated := slotted.1.alloc fieldDirSize true
        if allocated.2 = 0 then
          (allocated.1.putWord numRowsField (allocated.1.getNumRows - 1), .noMemory)
        else
          let zeroed := { allocated.1 with
            mData := allocated.1.mData.write allocated.2 (List.replicate fieldDirSize 0) }
          (zeroed.putWord rowSlot allocated.2, .ok)

def freeLastRow (window : CursorWindow) : CursorWindow × Status :=
  if window.mReadOnly then (window, .invalidOperation)
  else if 0 < window.getNumRows then
    (window.putWord numRowsField (window.getNumRows - 1), .ok)
  else (window, .ok)

/-! ## Fields -/

def getFieldSlot (window : CursorWindow) (row column : Nat) : Option Nat :=
  if window.getNumRows ≤ row ∨ window.getNumColumns ≤ column then none
  else some (window.word (window.getRowSlot row) + fieldSlotSize * column)

/-- A field slot's type, its number, and the offset and size of its bytes. -/
def getFieldSlotType (window : CursorWindow) (fieldSlot : Nat) : Nat := window.word fieldSlot

def getFieldSlotValueLong (window : CursorWindow) (fieldSlot : Nat) : BitVec 64 :=
  BitVec.ofNat 64 (window.mData.readNumber (fieldSlot + 4) 8)

def getFieldSlotValueBlob (window : CursorWindow) (fieldSlot : Nat) : List UInt8 :=
  window.mData.read (window.word (fieldSlot + 4)) (window.word (fieldSlot + 8))

/-- The field in a slot. Other types than the five are never written. -/
def fieldOf (window : CursorWindow) (fieldSlot : Nat) : Option Field :=
  let type := window.getFieldSlotType fieldSlot
  if type = fieldTypeNull then some .null
  else if type = fieldTypeInteger then some (.integer (window.getFieldSlotValueLong fieldSlot))
  else if type = fieldTypeFloat then some (.float (window.getFieldSlotValueLong fieldSlot))
  else if type = fieldTypeString then some (.string (window.getFieldSlotValueBlob fieldSlot))
  else if type = fieldTypeBlob then some (.blob (window.getFieldSlotValueBlob fieldSlot))
  else none

def getField (window : CursorWindow) (row column : Nat) : Option Field :=
  (window.getFieldSlot row column).bind window.fieldOf

def putBlobOrString (window : CursorWindow) (row column : Nat) (value : List UInt8)
    (type : Nat) : CursorWindow × Status :=
  if window.mReadOnly then (window, .invalidOperation)
  else
    match window.getFieldSlot row column with
    | none => (window, .badValue)
    | some fieldSlot =>
        let allocated := window.alloc value.length false
        if allocated.2 = 0 then (allocated.1, .noMemory)
        else
          let copied := { allocated.1 with mData := allocated.1.mData.write allocated.2 value }
          (((copied.putWord fieldSlot type).putWord (fieldSlot + 4) allocated.2).putWord
            (fieldSlot + 8) value.length, .ok)

/-- `putLong` and `putDouble`, which differ in the type they write. -/
def putEightBytes (window : CursorWindow) (row column : Nat) (value : BitVec 64) (type : Nat) :
    CursorWindow × Status :=
  if window.mReadOnly then (window, .invalidOperation)
  else
    match window.getFieldSlot row column with
    | none => (window, .badValue)
    | some fieldSlot =>
        let typed := window.putWord fieldSlot type
        ({ typed with mData := typed.mData.writeNumber (fieldSlot + 4) 8 value.toNat }, .ok)

def putBlob (window : CursorWindow) (row column : Nat) (value : List UInt8) :
    CursorWindow × Status :=
  window.putBlobOrString row column value fieldTypeBlob

def putString (window : CursorWindow) (row column : Nat) (value : List UInt8) :
    CursorWindow × Status :=
  window.putBlobOrString row column value fieldTypeString

def putLong (window : CursorWindow) (row column : Nat) (value : BitVec 64) :
    CursorWindow × Status :=
  window.putEightBytes row column value fieldTypeInteger

def putDouble (window : CursorWindow) (row column : Nat) (value : BitVec 64) :
    CursorWindow × Status :=
  window.putEightBytes row column value fieldTypeFloat

def putNull (window : CursorWindow) (row column : Nat) : CursorWindow × Status :=
  if window.mReadOnly then (window, .invalidOperation)
  else
    match window.getFieldSlot row column with
    | none => (window, .badValue)
    | some fieldSlot =>
        (((window.putWord fieldSlot fieldTypeNull).putWord (fieldSlot + 4) 0).putWord
          (fieldSlot + 8) 0, .ok)

/-! ## Operations -/

/-- The method that puts a field of its kind. -/
def putField (window : CursorWindow) (row column : Nat) : Field → CursorWindow × Status
  | .null => window.putNull row column
  | .integer value => window.putLong row column value
  | .float bits => window.putDouble row column bits
  | .string bytes => window.putString row column bytes
  | .blob bytes => window.putBlob row column bytes

/-- What is done to a window from outside. -/
inductive Operation where
  | clear
  | setNumColumns (numColumns : Nat)
  | allocRow
  | freeLastRow
  | putField (row column : Nat) (field : Field)
  deriving DecidableEq, Repr

def perform (window : CursorWindow) : Operation → CursorWindow × Status
  | .clear => window.clear
  | .setNumColumns numColumns => window.setNumColumns numColumns
  | .allocRow => window.allocRow
  | .freeLastRow => window.freeLastRow
  | .putField row column field => window.putField row column field

/-! ## No operation changes the size -/

@[simp] theorem mSize_putWord (window : CursorWindow) (offset value : Nat) :
    (window.putWord offset value).mSize = window.mSize := rfl

@[simp] theorem mSize_alloc (window : CursorWindow) (size : Nat) (aligned : Bool) :
    (window.alloc size aligned).1.mSize = window.mSize := by
  simp only [alloc]
  split <;> rfl

@[simp] theorem mSize_allocRowSlot (window : CursorWindow) :
    window.allocRowSlot.1.mSize = window.mSize := by
  have extended (chunk : Nat) : (window.allocNextChunk chunk).mSize = window.mSize := by
    rw [allocNextChunk]
    split
    · rw [mSize_putWord, mSize_alloc]
    · rfl
  simp only [allocRowSlot]
  split
  · split
    · exact extended _
    · simp only [mSize_putWord, extended]
  · rfl

@[simp] theorem mSize_clear (window : CursorWindow) : window.clear.1.mSize = window.mSize := by
  rw [clear]
  split <;> rfl

theorem mSize_perform (window : CursorWindow) (operation : Operation) :
    (window.perform operation).1.mSize = window.mSize := by
  cases operation with
  | clear => exact window.mSize_clear
  | setNumColumns numColumns =>
      simp only [perform, setNumColumns]
      split
      · rfl
      · split <;> rfl
  | allocRow =>
      simp only [perform, allocRow]
      split
      · rfl
      · split
        · exact window.mSize_allocRowSlot
        · split <;> simp
  | freeLastRow =>
      simp only [perform, freeLastRow]
      split
      · rfl
      · split <;> rfl
  | putField row column field =>
      have eight (value : BitVec 64) (type : Nat) :
          (window.putEightBytes row column value type).1.mSize = window.mSize := by
        rw [putEightBytes]
        split
        · rfl
        · split <;> rfl
      have bytes (value : List UInt8) (type : Nat) :
          (window.putBlobOrString row column value type).1.mSize = window.mSize := by
        rw [putBlobOrString]
        split
        · rfl
        · split
          · rfl
          · simp only
            split <;> simp
      cases field with
      | null =>
          simp only [perform, putField, putNull]
          split
          · rfl
          · split <;> rfl
      | integer value => exact eight value fieldTypeInteger
      | float bits => exact eight bits fieldTypeFloat
      | string value => exact bytes value fieldTypeString
      | blob value => exact bytes value fieldTypeBlob

end CursorWindow
end Openpyn.Database
