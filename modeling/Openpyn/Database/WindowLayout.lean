import Openpyn.Database.WindowTable

/-!
# How a cursor window lays out a table

Each part of a window belongs to what it describes: the words of the header, a row slot, the link
to the next chunk, the type and the data of a field, and the bytes of a text. What is not handed
out yet belongs to nobody. An operation writes what is its own or nobody's, so that everything
else is read as before.
-/

namespace Openpyn.Database

open Openpyn.Foundation

/-- Whose a byte of a window is. -/
inductive WindowOwner where
  | freeOffset
  | firstChunkOffset
  | numRows
  | numColumns
  | slot (row : Nat)
  | nextChunk (chunk : Nat)
  | type (row column : Nat)
  | data (row column : Nat)
  | buffer (row column : Nat)
  | free
  deriving DecidableEq

namespace WindowOwner

/-- The parts of one field. -/
def IsCell (row column : Nat) (name : WindowOwner) : Prop :=
  name = .type row column ∨ name = .data row column ∨ name = .buffer row column

theorem IsCell.same {row column otherRow otherColumn : Nat} {name : WindowOwner}
    (cell : name.IsCell row column) (otherCell : name.IsCell otherRow otherColumn) :
    row = otherRow ∧ column = otherColumn := by
  rcases cell with rfl | rfl | rfl <;> rcases otherCell with same | same | same <;> cases same <;>
    exact ⟨rfl, rfl⟩

/-- What nothing changes while a window has so many rows and memory is not handed out. -/
def IsFixed (rows : Nat) : WindowOwner → Prop
  | .freeOffset | .firstChunkOffset => True
  | .slot row => row < rows
  | _ => False

/-- What handing out memory changes. -/
def IsFree (name : WindowOwner) : Prop := name = .freeOffset ∨ name = .free

/-- What finding a slot for another row changes. -/
def IsGrowth (name : WindowOwner) : Prop :=
  name.IsFree ∨ name = .numRows ∨ ∃ chunk, name = .nextChunk chunk

theorem IsCell.not_isGrowth {row column : Nat} {name : WindowOwner}
    (cell : name.IsCell row column) : ¬ name.IsGrowth := by
  rcases cell with rfl | rfl | rfl <;> simp [IsGrowth, IsFree]

theorem isGrowth_numRows (name : WindowOwner) (same : name = .numRows) : name.IsGrowth :=
  .inr (.inl same)

theorem isGrowth_link {chunk : Nat} (name : WindowOwner) (same : name = .nextChunk chunk) :
    name.IsGrowth :=
  .inr (.inr ⟨chunk, same⟩)

end WindowOwner

/-! ## Fields in memory -/

/-- A field slot with a number in it. -/
def HasEightBytes (region : Region WindowOwner) (row column fieldSlot type : Nat)
    (value : BitVec 64) : Prop :=
  region.HasNumber (.type row column) fieldSlot 4 type ∧
    region.HasNumber (.data row column) (fieldSlot + 4) 8 value.toNat

/-- A field slot and the bytes it points to. -/
def HasBytes (region : Region WindowOwner) (row column fieldSlot type : Nat)
    (bytes : List UInt8) : Prop :=
  region.HasNumber (.type row column) fieldSlot 4 type ∧
    ∃ offset, region.HasNumber (.data row column) (fieldSlot + 4) 4 offset ∧
      region.HasNumber (.data row column) (fieldSlot + 8) 4 bytes.length ∧
      region.Has (.buffer row column) offset bytes

def HasContent (region : Region WindowOwner) (row column fieldSlot : Nat) : Field → Prop
  | .null => region.HasNumber (.type row column) fieldSlot 4 CursorWindow.fieldTypeNull
  | .integer value =>
      HasEightBytes region row column fieldSlot CursorWindow.fieldTypeInteger value
  | .float bits => HasEightBytes region row column fieldSlot CursorWindow.fieldTypeFloat bits
  | .string bytes => HasBytes region row column fieldSlot CursorWindow.fieldTypeString bytes
  | .blob bytes => HasBytes region row column fieldSlot CursorWindow.fieldTypeBlob bytes

/-- A field slot that belongs to a field, and the field is in it. -/
def HasField (region : Region WindowOwner) (row column fieldSlot : Nat) (field : Field) : Prop :=
  (region.Owns (.type row column) fieldSlot 4 ∧
    region.Owns (.data row column) (fieldSlot + 4) 8) ∧
    HasContent region row column fieldSlot field

section Fields

variable {region before after : Region WindowOwner} {row column fieldSlot : Nat} {field : Field}
  {writes : WindowOwner → Prop}

theorem HasField.keeps (has : HasField before row column fieldSlot field)
    (keeps : Region.Keeps writes before after)
    (spared : ∀ name, WindowOwner.IsCell row column name → ¬ writes name) :
    HasField after row column fieldSlot field := by
  have type := spared (.type row column) (.inl rfl)
  have data := spared (.data row column) (.inr (.inl rfl))
  have buffer := spared (.buffer row column) (.inr (.inr rfl))
  obtain ⟨owns, content⟩ := has
  refine ⟨⟨owns.1.keeps keeps type, owns.2.keeps keeps data⟩, ?_⟩
  cases field with
  | null => exact content.keeps keeps type
  | integer value => exact ⟨content.1.keeps keeps type, content.2.keeps keeps data⟩
  | float bits => exact ⟨content.1.keeps keeps type, content.2.keeps keeps data⟩
  | string bytes =>
      obtain ⟨typed, offset, first, size, copied⟩ := content
      exact ⟨typed.keeps keeps type, offset, first.keeps keeps data, size.keeps keeps data,
        copied.keeps keeps buffer⟩
  | blob bytes =>
      obtain ⟨typed, offset, first, size, copied⟩ := content
      exact ⟨typed.keeps keeps type, offset, first.keeps keeps data, size.keeps keeps data,
        copied.keeps keeps buffer⟩

/-- Writing a number of a type. -/
theorem hasEightBytes_write {type : Nat} (value : BitVec 64)
    (owns : region.Owns (.type row column) fieldSlot 4 ∧
      region.Owns (.data row column) (fieldSlot + 4) 8)
    (fits : type < 256 ^ 4) :
    let written :=
      (region.writeNumber fieldSlot 4 type).writeNumber (fieldSlot + 4) 8 value.toNat
    HasEightBytes written row column fieldSlot type value ∧
      Region.Keeps (WindowOwner.IsCell row column) region written := by
  have typed : (region.writeNumber fieldSlot 4 type).HasNumber (.type row column) fieldSlot 4
      type := Region.hasNumber_writeNumber owns.1 fits
  have ownsData : (region.writeNumber fieldSlot 4 type).Owns (.data row column) (fieldSlot + 4) 8 :=
    owns.2
  have keepsType : Region.Keeps (WindowOwner.IsCell row column) region
      (region.writeNumber fieldSlot 4 type) := Region.keeps_writeNumber owns.1 (.inl rfl)
  have keepsData : Region.Keeps (· = .data row column) (region.writeNumber fieldSlot 4 type)
      ((region.writeNumber fieldSlot 4 type).writeNumber (fieldSlot + 4) 8 value.toNat) :=
    Region.keeps_writeNumber ownsData rfl
  exact ⟨⟨typed.keeps keepsData (by simp), Region.hasNumber_writeNumber ownsData value.isLt⟩,
    keepsType.trans (keepsData.mono fun _ same => .inr (.inl same))⟩

/-- Writing a type, and where the bytes are. -/
theorem hasBytes_write {type offset : Nat} {bytes : List UInt8}
    (has : region.Has (.buffer row column) offset bytes)
    (owns : region.Owns (.type row column) fieldSlot 4 ∧
      region.Owns (.data row column) (fieldSlot + 4) 8)
    (fits : type < 256 ^ 4) (near : offset < 256 ^ 4) (short : bytes.length < 256 ^ 4) :
    let written := ((region.writeNumber fieldSlot 4 type).writeNumber (fieldSlot + 4) 4
      offset).writeNumber (fieldSlot + 8) 4 bytes.length
    HasBytes written row column fieldSlot type bytes ∧
      Region.Keeps (WindowOwner.IsCell row column) region written := by
  let typedRegion := region.writeNumber fieldSlot 4 type
  let pointed := typedRegion.writeNumber (fieldSlot + 4) 4 offset
  have typed : typedRegion.HasNumber (.type row column) fieldSlot 4 type :=
    Region.hasNumber_writeNumber owns.1 fits
  have ownsFirst : typedRegion.Owns (.data row column) (fieldSlot + 4) 4 :=
    owns.2.part (by decide : 0 + 4 ≤ 8)
  have ownsSecond : pointed.Owns (.data row column) (fieldSlot + 4 + 4) 4 :=
    owns.2.part (by decide : 4 + 4 ≤ 8)
  have keepsType : Region.Keeps (WindowOwner.IsCell row column) region typedRegion :=
    Region.keeps_writeNumber owns.1 (.inl rfl)
  have keepsFirst : Region.Keeps (· = .data row column) typedRegion pointed :=
    Region.keeps_writeNumber ownsFirst rfl
  have keepsSecond : Region.Keeps (· = .data row column) pointed
      (pointed.writeNumber (fieldSlot + 8) 4 bytes.length) :=
    Region.keeps_writeNumber ownsSecond rfl
  have keeps := keepsFirst.trans keepsSecond
  have first : pointed.HasNumber (.data row column) (fieldSlot + 4) 4 offset :=
    Region.hasNumber_writeNumber ownsFirst near
  have keepsAll := keepsType.trans (keeps.mono fun _ same => .inr (.inl same))
  refine ⟨⟨typed.keeps keeps (by simp), offset, first.apart ?_,
    Region.hasNumber_writeNumber ownsSecond short, ?_⟩, keepsAll⟩
  · rw [Memory.length_bytesOf]
    omega
  · have kept : Region.Keeps (· = .type row column) region typedRegion :=
      Region.keeps_writeNumber owns.1 rfl
    exact (has.keeps kept (by simp)).keeps keeps (by simp)

/-- The field that is there is the one that is read. -/
theorem HasField.fieldOf {window : CursorWindow} {owner : Nat → WindowOwner}
    (has : HasField ⟨window.mData, owner⟩ row column fieldSlot field) :
    window.fieldOf fieldSlot = some field := by
  have typed {type : Nat} (typed : Region.HasNumber ⟨window.mData, owner⟩ (.type row column)
      fieldSlot 4 type) : window.getFieldSlotType fieldSlot = type := typed.2
  have number {value : BitVec 64} (number : Region.HasNumber ⟨window.mData, owner⟩
      (.data row column) (fieldSlot + 4) 8 value.toNat) :
      window.getFieldSlotValueLong fieldSlot = value := by
    have read : window.mData.readNumber (fieldSlot + 4) 8 = value.toNat := number.2
    rw [CursorWindow.getFieldSlotValueLong, read, BitVec.ofNat_toNat, BitVec.setWidth_eq]
  have text {offset : Nat} {bytes : List UInt8} (first : Region.HasNumber ⟨window.mData, owner⟩
      (.data row column) (fieldSlot + 4) 4 offset) (size : Region.HasNumber ⟨window.mData, owner⟩
      (.data row column) (fieldSlot + 8) 4 bytes.length)
      (copied : Region.Has ⟨window.mData, owner⟩ (.buffer row column) offset bytes) :
      window.getFieldSlotValueBlob fieldSlot = bytes := by
    have firstRead : window.word (fieldSlot + 4) = offset := first.2
    have sizeRead : window.word (fieldSlot + 8) = _ := size.2
    rw [CursorWindow.getFieldSlotValueBlob, firstRead, sizeRead]
    exact copied.2
  obtain ⟨-, content⟩ := has
  cases field with
  | null => simp [CursorWindow.fieldOf, typed content, CursorWindow.fieldTypeNull]
  | integer value =>
      simp [CursorWindow.fieldOf, typed content.1, number content.2, CursorWindow.fieldTypeNull,
        CursorWindow.fieldTypeInteger]
  | float bits =>
      simp [CursorWindow.fieldOf, typed content.1, number content.2, CursorWindow.fieldTypeNull,
        CursorWindow.fieldTypeInteger, CursorWindow.fieldTypeFloat]
  | string bytes =>
      obtain ⟨isString, offset, first, size, copied⟩ := content
      simp [CursorWindow.fieldOf, typed isString, text first size copied,
        CursorWindow.fieldTypeNull, CursorWindow.fieldTypeInteger, CursorWindow.fieldTypeFloat,
        CursorWindow.fieldTypeString]
  | blob bytes =>
      obtain ⟨isBlob, offset, first, size, copied⟩ := content
      simp [CursorWindow.fieldOf, typed isBlob, text first size copied,
        CursorWindow.fieldTypeNull, CursorWindow.fieldTypeInteger, CursorWindow.fieldTypeFloat,
        CursorWindow.fieldTypeString, CursorWindow.fieldTypeBlob]

end Fields

/-! ## The frame -/

/-- Where the parts of a window are. -/
structure Layout where
  owner : Nat → WindowOwner
  chunks : Nat
  chunkAt : Nat → Nat
  directoryAt : Nat → Nat

namespace Layout

def region (layout : Layout) (window : CursorWindow) : Region WindowOwner :=
  ⟨window.mData, layout.owner⟩

theorem region_putWord (layout : Layout) (window : CursorWindow) (offset value : Nat) :
    layout.region (window.putWord offset value) =
      (layout.region window).writeNumber offset 4 value := rfl

theorem region_write (layout : Layout) (window : CursorWindow) (offset : Nat)
    (bytes : List UInt8) :
    layout.region { window with mData := window.mData.write offset bytes } =
      (layout.region window).write offset bytes := rfl

def slotAt (layout : Layout) (row : Nat) : Nat := layout.chunkAt (row / 100) + 4 * (row % 100)

/-- What the link at the end of a chunk says, where the last one says what is given. -/
def nextOf (layout : Layout) (next chunk : Nat) : Nat :=
  if chunk + 1 < layout.chunks then layout.chunkAt (chunk + 1) else next

/-- Somebody owns bytes that belonged to nobody. -/
def claim (layout : Layout) (names : Nat → WindowOwner) (offset size : Nat) : Layout :=
  { layout with owner := (Region.claim ⟨fun _ => 0, layout.owner⟩ names offset size).owner }

theorem owns_claim (layout : Layout) (window : CursorWindow) {names : Nat → WindowOwner}
    {name : WindowOwner} {offset start size total : Nat} (inside : start + size ≤ total)
    (named : ∀ index < size, names (start + index) = name) :
    ((layout.claim names offset total).region window).Owns name (offset + start) size :=
  (Region.owns_claim inside named :
    (Region.claim ⟨fun _ => 0, layout.owner⟩ names offset total).Owns name (offset + start) size)

/-- One more chunk at an offset. -/
def extend (layout : Layout) (offset : Nat) : Layout :=
  { layout with
    chunks := layout.chunks + 1
    chunkAt := fun chunk => if chunk < layout.chunks then layout.chunkAt chunk else offset }

theorem slotAt_extend (layout : Layout) (offset : Nat) {row : Nat}
    (before : row < 100 * layout.chunks) :
    (layout.extend offset).slotAt row = layout.slotAt row := by
  simp only [slotAt, extend]
  rw [if_pos (by omega)]

/-- One more row, whose directory is at an offset. -/
def addRow (layout : Layout) (row directory : Nat) : Layout :=
  { layout with
    directoryAt := fun other => if other < row then layout.directoryAt other else directory }

end Layout

/-- Memory that is enough for the slot of one more row. -/
def chunkMemory (rows : Nat) : Nat :=
  if rows ≠ 0 ∧ rows % 100 = 0 then 3 + CursorWindow.rowSlotChunkSize else 0

/-- Everything but the fields: the header, which may count another number of rows, the chunks,
of which the last may have any link, and the slots of the rows. -/
structure Framed (layout : Layout) (window : CursorWindow) (columns rows numRows next : Nat) :
    Prop where
  writable : window.mReadOnly = false
  small : window.mSize < 2 ^ 31
  narrow : columns < 2 ^ 27
  free : (layout.region window).Owns .freeOffset CursorWindow.freeOffsetField 4
  used : 16 + 404 * layout.chunks ≤ window.freeOffset
  inside : window.freeOffset ≤ window.mSize
  tail : ∀ place, window.freeOffset ≤ place → layout.owner place = .free
  first : (layout.region window).HasNumber .firstChunkOffset CursorWindow.firstChunkOffsetField 4
    (layout.chunkAt 0)
  count : (layout.region window).HasNumber .numRows CursorWindow.numRowsField 4 numRows
  width : (layout.region window).HasNumber .numColumns CursorWindow.numColumnsField 4 columns
  chunked : 0 < layout.chunks
  room : rows ≤ 100 * layout.chunks
  starts : ∀ chunk < layout.chunks, layout.chunkAt chunk ≠ 0
  links : ∀ chunk < layout.chunks, (layout.region window).HasNumber (.nextChunk chunk)
    (layout.chunkAt chunk + CursorWindow.nextChunkOffsetField) 4 (layout.nextOf next chunk)
  slots : ∀ row < 100 * layout.chunks,
    (layout.region window).Owns (.slot row) (layout.slotAt row) 4
  directories : ∀ row < rows, (layout.region window).HasNumber (.slot row) (layout.slotAt row) 4
    (layout.directoryAt row)

namespace Framed

variable {layout : Layout} {window : CursorWindow} {columns rows numRows next : Nat}

theorem getNumRows (framed : Framed layout window columns rows numRows next) :
    window.getNumRows = numRows := framed.count.2

theorem getNumColumns (framed : Framed layout window columns rows numRows next) :
    window.getNumColumns = columns := framed.width.2

/-- A window has memory for fewer rows than a number of rows can count. -/
theorem rows_lt (framed : Framed layout window columns rows numRows next) : rows + 1 < 2 ^ 31 := by
  have used := framed.used
  have inside := framed.inside
  have small := framed.small
  have room := framed.room
  omega

/-! ### Finding a row -/

theorem word_next (framed : Framed layout window columns rows numRows next) {chunk : Nat}
    (following : chunk + 1 < layout.chunks) :
    window.word (layout.chunkAt chunk + CursorWindow.nextChunkOffsetField) =
      layout.chunkAt (chunk + 1) := by
  have linked : window.word (layout.chunkAt chunk + CursorWindow.nextChunkOffsetField) =
      layout.nextOf next chunk := (framed.links chunk (by omega)).2
  rw [linked, Layout.nextOf, if_pos following]

theorem rowSlotFrom (framed : Framed layout window columns rows numRows next) (chunk chunkPos : Nat)
    (inside : 100 * chunk + chunkPos < 100 * layout.chunks) :
    window.rowSlotFrom (layout.chunkAt chunk) chunkPos =
      layout.slotAt (100 * chunk + chunkPos) := by
  induction chunkPos using Nat.strong_induction_on generalizing chunk with
  | _ chunkPos inductionHypothesis =>
    have hundred : CursorWindow.rowSlotChunkNumRows = 100 := rfl
    rw [CursorWindow.rowSlotFrom]
    by_cases further : CursorWindow.rowSlotChunkNumRows ≤ chunkPos
    · rw [if_pos further, framed.word_next (by omega), hundred,
        inductionHypothesis (chunkPos - 100) (by omega) (chunk + 1) (by omega)]
      congr 1
      omega
    · have quotient : (100 * chunk + chunkPos) / 100 = chunk := by omega
      have remainder : (100 * chunk + chunkPos) % 100 = chunkPos := by omega
      rw [if_neg further, Layout.slotAt, quotient, remainder]

theorem getRowSlot (framed : Framed layout window columns rows numRows next) {row : Nat}
    (inside : row < 100 * layout.chunks) : window.getRowSlot row = layout.slotAt row := by
  have first : window.word CursorWindow.firstChunkOffsetField = layout.chunkAt 0 := framed.first.2
  rw [CursorWindow.getRowSlot, first, framed.rowSlotFrom 0 row (by omega)]
  congr 1
  omega

theorem getFieldSlot (framed : Framed layout window columns rows rows next) {row column : Nat}
    (inside : row < rows ∧ column < columns) :
    window.getFieldSlot row column = some (layout.directoryAt row + 12 * column) := by
  have room := framed.room
  have directory : window.word (layout.slotAt row) = layout.directoryAt row :=
    (framed.directories row inside.1).2
  rw [CursorWindow.getFieldSlot, framed.getNumRows, framed.getNumColumns, if_neg (by omega),
    framed.getRowSlot (by omega), directory, CursorWindow.fieldSlotSize]

theorem getFieldSlot_none (framed : Framed layout window columns rows rows next) {row column : Nat}
    (outside : ¬ (row < rows ∧ column < columns)) : window.getFieldSlot row column = none := by
  rw [CursorWindow.getFieldSlot, framed.getNumRows, framed.getNumColumns, if_pos (by omega)]

/-- The chunk of the last row, and how many of its slots are in use. -/
theorem lastChunkFrom (framed : Framed layout window columns rows numRows next)
    (chunk chunkPos : Nat) (inside : 100 * chunk + chunkPos ≤ 100 * layout.chunks)
    (bound : chunk < layout.chunks) :
    ∃ last filled, window.lastChunkFrom (layout.chunkAt chunk) chunkPos =
        (layout.chunkAt last, filled) ∧ last < layout.chunks ∧ filled ≤ 100 ∧
      100 * last + filled = 100 * chunk + chunkPos := by
  induction chunkPos using Nat.strong_induction_on generalizing chunk with
  | _ chunkPos inductionHypothesis =>
    have hundred : CursorWindow.rowSlotChunkNumRows = 100 := rfl
    rw [CursorWindow.lastChunkFrom]
    by_cases further : CursorWindow.rowSlotChunkNumRows < chunkPos
    · rw [if_pos further, framed.word_next (by omega), hundred]
      obtain ⟨last, filled, found, inChunks, most, same⟩ :=
        inductionHypothesis (chunkPos - 100) (by omega) (chunk + 1) (by omega) (by omega)
      exact ⟨last, filled, found, inChunks, most, by omega⟩
    · rw [if_neg further]
      exact ⟨chunk, chunkPos, rfl, bound, by omega, rfl⟩

/-! ### Writing -/

theorem freeOffset_eq {writes : WindowOwner → Prop} {after : CursorWindow}
    (framed : Framed layout window columns rows numRows next)
    (keeps : Region.Keeps writes (layout.region window) (layout.region after))
    (spared : ¬ writes .freeOffset) : after.freeOffset = window.freeOffset := by
  have free : (layout.region window).HasNumber .freeOffset CursorWindow.freeOffsetField 4
      window.freeOffset := ⟨framed.free, rfl⟩
  exact (free.keeps keeps spared).2

/-- A write that spares the slots and the offsets. What it does to the rest of the frame is said
apart. -/
theorem overwrite {writes : WindowOwner → Prop} {mData : Memory} {newColumns count link : Nat}
    (framed : Framed layout window columns rows numRows next)
    (keeps : Region.Keeps writes (layout.region window)
      (layout.region { window with mData := mData }))
    (spares : ∀ name, name.IsFixed rows → ¬ writes name)
    (counted : (layout.region { window with mData := mData }).HasNumber .numRows
      CursorWindow.numRowsField 4 count)
    (wide : (layout.region { window with mData := mData }).HasNumber .numColumns
      CursorWindow.numColumnsField 4 newColumns)
    (narrow : newColumns < 2 ^ 27)
    (linked : ∀ chunk < layout.chunks, (layout.region { window with mData := mData }).HasNumber
      (.nextChunk chunk) (layout.chunkAt chunk + CursorWindow.nextChunkOffsetField) 4
      (layout.nextOf link chunk)) :
    Framed layout { window with mData := mData } newColumns rows count link := by
  have same := framed.freeOffset_eq keeps (spares _ trivial)
  exact {
    writable := framed.writable
    small := framed.small
    narrow := narrow
    free := framed.free
    used := same ▸ framed.used
    inside := same ▸ framed.inside
    tail := same ▸ framed.tail
    first := framed.first.keeps keeps (spares _ trivial)
    count := counted
    width := wide
    chunked := framed.chunked
    room := framed.room
    starts := framed.starts
    links := linked
    slots := framed.slots
    directories := fun row bound => (framed.directories row bound).keeps keeps (spares _ bound) }

theorem keeps_putNumRows (framed : Framed layout window columns rows numRows next)
    (count : Nat) : Region.Keeps (· = .numRows) (layout.region window)
      (layout.region (window.putWord CursorWindow.numRowsField count)) :=
  Region.keeps_writeNumber framed.count.1 rfl

theorem putNumRows (framed : Framed layout window columns rows numRows next) {count : Nat}
    (fits : count < 2 ^ 32) :
    Framed layout (window.putWord CursorWindow.numRowsField count) columns rows count next := by
  have keeps := framed.keeps_putNumRows count
  refine framed.overwrite keeps ?_ (Region.hasNumber_writeNumber framed.count.1 fits)
    (framed.width.keeps keeps (by simp)) framed.narrow
    fun chunk bound => (framed.links chunk bound).keeps keeps (by simp)
  rintro _ isFixed rfl
  exact isFixed

theorem putNumColumns (framed : Framed layout window columns rows numRows next)
    {newColumns : Nat} (narrow : newColumns < 2 ^ 27) :
    Framed layout (window.putWord CursorWindow.numColumnsField newColumns) newColumns rows
      numRows next := by
  have keeps : Region.Keeps (· = .numColumns) (layout.region window)
      (layout.region (window.putWord CursorWindow.numColumnsField newColumns)) :=
    Region.keeps_writeNumber framed.width.1 rfl
  refine framed.overwrite keeps ?_ (framed.count.keeps keeps (by simp))
    (Region.hasNumber_writeNumber framed.width.1 (by omega)) narrow
    fun chunk bound => (framed.links chunk bound).keeps keeps (by simp)
  rintro _ isFixed rfl
  exact isFixed

theorem keeps_putLink (framed : Framed layout window columns rows numRows next) {chunk : Nat}
    (bound : chunk < layout.chunks) (link : Nat) :
    Region.Keeps (· = .nextChunk chunk) (layout.region window) (layout.region
      (window.putWord (layout.chunkAt chunk + CursorWindow.nextChunkOffsetField) link)) :=
  Region.keeps_writeNumber (framed.links chunk bound).1 rfl

theorem putLink (framed : Framed layout window columns rows numRows next) {last link : Nat}
    (isLast : last + 1 = layout.chunks) (fits : link < 2 ^ 32) :
    Framed layout
      (window.putWord (layout.chunkAt last + CursorWindow.nextChunkOffsetField) link)
      columns rows numRows link := by
  have owns := (framed.links last (by omega)).1
  have keeps := framed.keeps_putLink (by omega : last < layout.chunks) link
  refine framed.overwrite keeps ?_ (framed.count.keeps keeps (by simp))
    (framed.width.keeps keeps (by simp)) framed.narrow fun chunk bound => ?_
  · rintro _ isFixed rfl
    exact isFixed
  · by_cases same : chunk = last
    · have written := Region.hasNumber_writeNumber owns fits
      rw [same, Layout.nextOf, if_neg (by omega)]
      exact written
    · have before := framed.links chunk bound
      rw [Layout.nextOf, if_pos (by omega)] at before ⊢
      exact before.keeps keeps (by simp [same])

/-- Fields may be written in any row, and the slots of rows that are not there yet. -/
theorem write {writes : WindowOwner → Prop} {mData : Memory}
    (framed : Framed layout window columns rows numRows next)
    (keeps : Region.Keeps writes (layout.region window)
      (layout.region { window with mData := mData }))
    (named : ∀ name, writes name →
      (∃ row column, name.IsCell row column) ∨ ∃ row, rows ≤ row ∧ name = .slot row) :
    Framed layout { window with mData := mData } columns rows numRows next := by
  have spared {name : WindowOwner} (noCell : ∀ row column, ¬ name.IsCell row column)
      (noSlot : ∀ row, rows ≤ row → name ≠ .slot row) : ¬ writes name := by
    intro written
    rcases named name written with ⟨row, column, isCell⟩ | ⟨row, later, isSlot⟩
    · exact noCell row column isCell
    · exact noSlot row later isSlot
  refine framed.overwrite keeps (fun name isFixed => ?_)
    (framed.count.keeps keeps (spared ?_ (by simp)))
    (framed.width.keeps keeps (spared ?_ (by simp))) framed.narrow
    fun chunk bound => (framed.links chunk bound).keeps keeps (spared ?_ (by simp))
  · apply spared
    · rintro row column (rfl | rfl | rfl) <;> exact isFixed
    · rintro row later rfl
      exact Nat.not_lt.mpr later isFixed
  all_goals simp [WindowOwner.IsCell]

/-! ### Chunks -/

/-- The chunks behind one may be forgotten, together with what its link says. -/
theorem shrink (framed : Framed layout window columns rows numRows next) {chunks : Nat}
    (chunked : 0 < chunks) (fewer : chunks ≤ layout.chunks) (room : rows ≤ 100 * chunks) :
    ∃ link, Framed { layout with chunks := chunks } window columns rows numRows link := by
  refine ⟨layout.nextOf next (chunks - 1), ?_⟩
  exact {
    writable := framed.writable
    small := framed.small
    narrow := framed.narrow
    free := framed.free
    used := Nat.le_trans (by simp only; omega) framed.used
    inside := framed.inside
    tail := framed.tail
    first := framed.first
    count := framed.count
    width := framed.width
    chunked := chunked
    room := room
    starts := fun chunk bound => framed.starts chunk (by simp only at bound; omega)
    links := fun chunk bound => by
      simp only at bound
      have link := framed.links chunk (by omega)
      by_cases isLast : chunk = chunks - 1
      · rw [Layout.nextOf, if_neg (by simp only; omega), ← isLast]
        exact link
      · rw [Layout.nextOf, if_pos (by omega)] at link
        rw [Layout.nextOf, if_pos (by simp only; omega)]
        exact link
    slots := fun row bound => framed.slots row (by simp only at bound; omega)
    directories := framed.directories }

/-- The chunk that the last link leads to belongs to the window. -/
theorem extend (framed : Framed layout window columns rows numRows next) (start : next ≠ 0)
    (used : 16 + 404 * (layout.chunks + 1) ≤ window.freeOffset)
    (link : (layout.region window).Owns (.nextChunk layout.chunks)
      (next + CursorWindow.nextChunkOffsetField) 4)
    (slots : ∀ place < 100, (layout.region window).Owns (.slot (100 * layout.chunks + place))
      (next + 4 * place) 4) :
    Framed (layout.extend next) window columns rows numRows
      (window.word (next + CursorWindow.nextChunkOffsetField)) := by
  have room := framed.room
  have chunked := framed.chunked
  exact {
    writable := framed.writable
    small := framed.small
    narrow := framed.narrow
    free := framed.free
    used := used
    inside := framed.inside
    tail := framed.tail
    first := by
      simp only [Layout.extend, if_pos chunked]
      exact framed.first
    count := framed.count
    width := framed.width
    chunked := Nat.succ_pos _
    room := by simp only [Layout.extend]; omega
    starts := fun chunk _ => by
      simp only [Layout.extend]
      split
      case isTrue before => exact framed.starts chunk before
      case isFalse => exact start
    links := fun chunk bound => by
      simp only [Layout.extend] at bound ⊢
      by_cases before : chunk < layout.chunks
      · have same := framed.links chunk before
        simp only [Layout.nextOf, if_pos before, if_pos (Nat.succ_lt_succ before)] at same ⊢
        exact same
      · have new : chunk = layout.chunks := by omega
        rw [if_neg before, Layout.nextOf, if_neg (by simp only; omega), new]
        exact ⟨link, rfl⟩
    slots := fun row bound => by
      by_cases before : row < 100 * layout.chunks
      · rw [layout.slotAt_extend next before]
        exact framed.slots row before
      · simp only [Layout.extend] at bound
        have place := slots (row - 100 * layout.chunks) (by omega)
        have quotient : ¬ row / 100 < layout.chunks := by omega
        have remainder : row % 100 = row - 100 * layout.chunks := by omega
        rw [Nat.add_sub_of_le (by omega)] at place
        simp only [Layout.slotAt, Layout.extend]
        rw [if_neg quotient, remainder]
        exact place
    directories := fun row bound => by
      rw [layout.slotAt_extend next (by omega)]
      exact framed.directories row bound }

/-! ### More rows and fewer -/

theorem addRow (framed : Framed layout window columns rows numRows next) {directory : Nat}
    (room : rows < 100 * layout.chunks)
    (slot : (layout.region window).HasNumber (.slot rows) (layout.slotAt rows) 4 directory) :
    Framed (layout.addRow rows directory) window columns (rows + 1) numRows next :=
  { framed with
    room := room
    directories := fun row bound => by
      simp only [Layout.addRow]
      split
      case isTrue before => exact framed.directories row before
      case isFalse last =>
        obtain rfl : row = rows := by omega
        exact slot }

theorem dropRows (framed : Framed layout window columns rows numRows next) {fewer : Nat}
    (bound : fewer ≤ rows) : Framed layout window columns fewer numRows next :=
  { framed with
    room := Nat.le_trans bound framed.room
    directories := fun row inside =>
      framed.directories row (Nat.lt_of_lt_of_le inside bound) }

/-! ### Handing out memory -/

end Framed

theorem padding_le (freeOffset : Nat) (aligned : Bool) :
    CursorWindow.padding freeOffset aligned ≤ 3 * aligned.toNat := by
  cases aligned with
  | true =>
      rw [CursorWindow.padding, if_pos rfl, Bool.toNat_true]
      omega
  | false => exact Nat.le_refl 0

theorem alloc_cases (window : CursorWindow) (size : Nat) (aligned : Bool)
    (small : window.mSize < 2 ^ 31) (inside : window.freeOffset ≤ window.mSize)
    (fits : size + 3 * aligned.toNat ≤ 2 ^ 31) :
    let offset := window.freeOffset + CursorWindow.padding window.freeOffset aligned
    (window.alloc size aligned = (window, 0) ∧ window.mSize < offset + size) ∨
      window.alloc size aligned =
          (window.putWord CursorWindow.freeOffsetField (offset + size), offset) ∧
        offset + size ≤ window.mSize := by
  have most := padding_le window.freeOffset aligned
  simp only [CursorWindow.alloc]
  generalize CursorWindow.padding window.freeOffset aligned = padding at most ⊢
  have next : window.freeOffset + padding < 2 ^ 32 := by omega
  have last : window.freeOffset + padding + size < 2 ^ 32 := by omega
  rw [Nat.mod_eq_of_lt next, Nat.mod_eq_of_lt last]
  split
  case isTrue full => exact .inl ⟨rfl, full⟩
  case isFalse room => exact .inr ⟨rfl, Nat.le_of_not_lt room⟩

namespace Framed

variable {layout : Layout} {window : CursorWindow} {columns rows numRows next : Nat}

/-- Memory that is handed out becomes its new owner's, and everything else stays as it is. -/
theorem claim (framed : Framed layout window columns rows numRows next) {offset size : Nat}
    (names : Nat → WindowOwner) (behind : window.freeOffset ≤ offset)
    (inside : offset + size ≤ window.mSize) :
    let after := window.putWord CursorWindow.freeOffsetField (offset + size)
    Framed (layout.claim names offset size) after columns rows numRows next ∧
      after.freeOffset = offset + size ∧
      Region.Keeps WindowOwner.IsFree (layout.region window)
        ((layout.claim names offset size).region after) := by
  have small := framed.small
  have nobody : (layout.region window).Owns .free offset size :=
    fun index _ => framed.tail _ (by omega)
  have claimed : Region.Keeps WindowOwner.IsFree (layout.region window)
      ((layout.claim names offset size).region window) :=
    Region.keeps_claim nobody (.inr rfl)
  have ownsFree : ((layout.claim names offset size).region window).Owns .freeOffset
      CursorWindow.freeOffsetField 4 := fun index bound => by
    have before : CursorWindow.freeOffsetField + 4 ≤ offset := by
      have used := framed.used
      simp only [CursorWindow.freeOffsetField]
      omega
    have mine := framed.free index bound
    simp only [Layout.region, Layout.claim, Region.claim] at mine ⊢
    rw [if_neg (by omega)]
    exact mine
  have written : Region.Keeps WindowOwner.IsFree ((layout.claim names offset size).region window)
      ((layout.claim names offset size).region
        (window.putWord CursorWindow.freeOffsetField (offset + size))) :=
    Region.keeps_writeNumber ownsFree (.inl rfl)
  have keeps := claimed.trans written
  have freeOffset : (window.putWord CursorWindow.freeOffsetField (offset + size)).freeOffset =
      offset + size := (Region.hasNumber_writeNumber ownsFree (by omega)).2
  refine ⟨?_, freeOffset, keeps⟩
  have used := framed.used
  exact {
    writable := framed.writable
    small := framed.small
    narrow := framed.narrow
    free := ownsFree
    used := by
      rw [freeOffset]
      exact Nat.le_trans used (by omega)
    inside := freeOffset.symm ▸ inside
    tail := fun place bound => by
      rw [freeOffset] at bound
      simp only [Layout.claim, Region.claim]
      rw [if_neg (by omega)]
      exact framed.tail place (by omega)
    first := framed.first.keeps keeps (by simp [WindowOwner.IsFree])
    count := framed.count.keeps keeps (by simp [WindowOwner.IsFree])
    width := framed.width.keeps keeps (by simp [WindowOwner.IsFree])
    chunked := framed.chunked
    room := framed.room
    starts := framed.starts
    links := fun chunk bound => (framed.links chunk bound).keeps keeps
      (by simp [WindowOwner.IsFree])
    slots := fun row bound => (framed.slots row bound).keeps keeps
      (by simp [WindowOwner.IsFree])
    directories := fun row bound => (framed.directories row bound).keeps keeps 
      (by simp [WindowOwner.IsFree]) }

/-! ### Room for another row -/

/-- What a new chunk's bytes belong to. -/
def chunkNames (chunk place : Nat) : WindowOwner :=
  if place < CursorWindow.nextChunkOffsetField then .slot (100 * chunk + place / 4)
  else .nextChunk chunk

theorem owns_chunk (layout : Layout) (window : CursorWindow) (offset : Nat) :
    let claimed :=
      layout.claim (chunkNames layout.chunks) offset CursorWindow.rowSlotChunkSize
    (claimed.region window).Owns (.nextChunk layout.chunks)
        (offset + CursorWindow.nextChunkOffsetField) 4 ∧
      ∀ place < 100, (claimed.region window).Owns (.slot (100 * layout.chunks + place))
        (offset + 4 * place) 4 := by
  refine ⟨layout.owns_claim window (by decide) fun index bound => ?_, fun place inside =>
    layout.owns_claim window (by simp only [CursorWindow.rowSlotChunkSize]; omega)
      fun index bound => ?_⟩
  · rw [chunkNames, if_neg (by simp only [CursorWindow.nextChunkOffsetField]; omega)]
  · have quotient : (4 * place + index) / 4 = place := by omega
    rw [chunkNames, if_pos (by simp only [CursorWindow.nextChunkOffsetField]; omega), quotient]

/-- A new chunk behind the last one. -/
theorem grow (framed : Framed layout window columns rows numRows next) {last offset : Nat}
    (isLast : last + 1 = layout.chunks) (behind : window.freeOffset ≤ offset)
    (inside : offset + CursorWindow.rowSlotChunkSize ≤ window.mSize) :
    let place := layout.chunkAt last + CursorWindow.nextChunkOffsetField
    let after := (window.putWord CursorWindow.freeOffsetField
      (offset + CursorWindow.rowSlotChunkSize)).putWord place offset
    ∃ layout' link, layout'.chunks = last + 2 ∧ layout'.directoryAt = layout.directoryAt ∧
      layout'.chunkAt (last + 1) = after.word place ∧
      Framed layout' after columns rows numRows link ∧
      after.freeOffset = offset + CursorWindow.rowSlotChunkSize ∧
      Region.Keeps WindowOwner.IsGrowth (layout.region window) (layout'.region after) := by
  have bound : last < layout.chunks := by omega
  have used := framed.used
  have small := framed.small
  obtain ⟨claimed, freeOffset, keeps⟩ := framed.claim (chunkNames layout.chunks) behind inside
  intro place after
  have owns := owns_chunk layout after offset
  simp only at owns
  have linked : Framed (layout.claim (chunkNames layout.chunks) offset
      CursorWindow.rowSlotChunkSize) after columns rows numRows offset :=
    claimed.putLink isLast (by omega)
  have keepsLink := claimed.keeps_putLink bound offset
  have sameFree : after.freeOffset = offset + CursorWindow.rowSlotChunkSize :=
    (claimed.freeOffset_eq keepsLink (by simp)).trans freeOffset
  have word : after.word place = offset := by
    have link := (linked.links last bound).2
    rw [Layout.nextOf, if_neg (by simp only [Layout.claim]; omega)] at link
    exact link
  have extended := linked.extend (by omega)
    (by rw [sameFree]; simp only [Layout.claim, CursorWindow.rowSlotChunkSize]; omega) owns.1 owns.2
  refine ⟨(layout.claim _ offset CursorWindow.rowSlotChunkSize).extend offset, _, ?_, rfl, ?_,
    extended, sameFree, (keeps.mono fun _ => .inl).trans (keepsLink.mono WindowOwner.isGrowth_link)⟩
  · simp only [Layout.extend, Layout.claim]
    omega
  · rw [word]
    exact if_neg (by simp only [Layout.claim]; omega)

theorem allocNextChunk (framed : Framed layout window columns rows numRows 0) {last : Nat}
    (bound : last < layout.chunks) (full : rows ≤ 100 * (last + 1)) :
    let extended := window.allocNextChunk (layout.chunkAt last)
    let chunk := extended.word (layout.chunkAt last + CursorWindow.nextChunkOffsetField)
    extended.mSize = window.mSize ∧
      (chunk = 0 ∧
          window.mSize < window.freeOffset + (3 + CursorWindow.rowSlotChunkSize) ∧
          Framed layout extended columns rows numRows 0 ∧
          Region.Keeps WindowOwner.IsGrowth (layout.region window) (layout.region extended) ∨
        ∃ layout' next, layout'.chunks = last + 2 ∧ layout'.directoryAt = layout.directoryAt ∧
          layout'.chunkAt (last + 1) = chunk ∧
          Framed layout' extended columns rows numRows next ∧
          window.freeOffset ≤ extended.freeOffset ∧
          extended.freeOffset ≤ window.freeOffset + (3 + CursorWindow.rowSlotChunkSize) ∧
          Region.Keeps WindowOwner.IsGrowth (layout.region window) (layout'.region extended)) := by
  have linked : window.word (layout.chunkAt last + CursorWindow.nextChunkOffsetField) =
      layout.nextOf 0 last := (framed.links last bound).2
  by_cases following : last + 1 < layout.chunks
  · -- The chunk was allocated for rows that have been freed since.
    rw [Layout.nextOf, if_pos following] at linked
    have unchanged : window.allocNextChunk (layout.chunkAt last) = window := by
      rw [CursorWindow.allocNextChunk, linked, if_neg (framed.starts _ following)]
    obtain ⟨next, shrunk⟩ := framed.shrink (Nat.succ_pos (last + 1)) following (by omega)
    rw [unchanged]
    exact ⟨rfl, .inr ⟨{ layout with chunks := last + 2 }, next, rfl, rfl, linked.symm, shrunk,
      Nat.le_refl _, Nat.le_add_right _ _, Region.Keeps.refl _⟩⟩
  · have isLast : last + 1 = layout.chunks := by omega
    have most := padding_le window.freeOffset true
    rw [Bool.toNat_true] at most
    rw [Layout.nextOf, if_neg following] at linked
    rw [CursorWindow.allocNextChunk, if_pos linked]
    rcases alloc_cases window CursorWindow.rowSlotChunkSize true framed.small framed.inside
      (by decide) with ⟨allocated, little⟩ | ⟨allocated, inside⟩
    · have keeps := (framed.keeps_putLink bound 0).mono WindowOwner.isGrowth_link
      have failed := @putLink _ _ _ _ _ _ framed last 0 isLast (by decide)
      have zero := (failed.links last bound).2
      rw [Layout.nextOf, if_neg following] at zero
      rw [allocated]
      exact ⟨rfl, .inl ⟨zero, by omega, failed, keeps⟩⟩
    · obtain ⟨layout', next, chunks, same, chunk, grown, freeOffset, keeps⟩ :=
        framed.grow isLast (Nat.le_add_right _ _) inside
      rw [allocated]
      simp only at freeOffset ⊢
      refine ⟨rfl, .inr ⟨layout', next, chunks, same, chunk, grown, ?_, ?_, keeps⟩⟩ <;>
        rw [freeOffset] <;> omega

/-- The header counts another row, and there is a slot for it, or memory for a chunk is
missing. -/
theorem allocRowSlot (framed : Framed layout window columns rows rows 0) :
    let result := window.allocRowSlot
    ∃ layout', layout'.directoryAt = layout.directoryAt ∧ result.1.mSize = window.mSize ∧
      Region.Keeps WindowOwner.IsGrowth (layout.region window) (layout'.region result.1) ∧
      (result.2 = none ∧ window.mSize < window.freeOffset + chunkMemory rows ∧
          Framed layout' result.1 columns rows rows 0 ∨
        result.2 = some (layout'.slotAt rows) ∧ rows < 100 * layout'.chunks ∧
          window.freeOffset ≤ result.1.freeOffset ∧
          result.1.freeOffset ≤ window.freeOffset + chunkMemory rows ∧
          Framed layout' result.1 columns rows (rows + 1) 0) := by
  have first : window.word CursorWindow.firstChunkOffsetField = layout.chunkAt 0 := framed.first.2
  have hundred : CursorWindow.rowSlotChunkNumRows = 100 := rfl
  have counts := framed.rows_lt
  obtain ⟨last, filled, found, bound, most, same⟩ :=
    framed.lastChunkFrom 0 rows (by have := framed.room; omega) framed.chunked
  simp only [CursorWindow.allocRowSlot, first, framed.getNumRows, found]
  by_cases full : filled = CursorWindow.rowSlotChunkNumRows
  · rw [if_pos full]
    have memory : chunkMemory rows = 3 + CursorWindow.rowSlotChunkSize := if_pos (by omega)
    have allocated := framed.allocNextChunk bound (by omega)
    generalize window.allocNextChunk (layout.chunkAt last) = result at allocated ⊢
    obtain ⟨sameSize, ended | ⟨layout', next, chunks, directories, chunk, extended, least, near,
      keeps⟩⟩ := allocated
    · obtain ⟨none, little, failed, keeps⟩ := ended
      rw [if_pos none]
      have more : window.mSize < window.freeOffset + chunkMemory rows := by
        rw [memory]
        exact little
      exact ⟨layout, rfl, sameSize, keeps, .inl ⟨rfl, more, failed⟩⟩
    · have behind : last + 1 < layout'.chunks := by omega
      rw [← chunk, if_neg (extended.starts (last + 1) behind)]
      have emptied := @putLink _ _ _ _ _ _ extended (last + 1) 0 chunks.symm (by decide)
      have keepsLink := extended.keeps_putLink behind 0
      have keepsCount := emptied.keeps_putNumRows (rows + 1)
      have sameFree := (emptied.freeOffset_eq keepsCount (by simp)).trans
        (extended.freeOffset_eq keepsLink (by simp))
      have place : layout'.slotAt rows = layout'.chunkAt (last + 1) := by
        have quotient : rows / 100 = last + 1 := by omega
        have remainder : rows % 100 = 0 := by omega
        rw [Layout.slotAt, quotient, remainder]
        rfl
      rw [← memory] at near
      rw [emptied.getNumRows]
      exact ⟨layout', directories, sameSize,
        (keeps.trans (keepsLink.mono WindowOwner.isGrowth_link)).trans
          (keepsCount.mono WindowOwner.isGrowth_numRows),
        .inr ⟨congrArg some place.symm, by omega,
          Nat.le_trans least (Nat.le_of_eq sameFree.symm),
          Nat.le_trans (Nat.le_of_eq sameFree) near, emptied.putNumRows (by omega)⟩⟩
  · rw [if_neg full]
    have keeps := framed.keeps_putNumRows (rows + 1)
    have sameFree := framed.freeOffset_eq keeps (by simp)
    have place : layout.slotAt rows = layout.chunkAt last + 4 * filled := by
      have quotient : rows / 100 = last := by omega
      have remainder : rows % 100 = filled := by omega
      rw [Layout.slotAt, quotient, remainder]
    exact ⟨layout, rfl, rfl, keeps.mono WindowOwner.isGrowth_numRows,
      .inr ⟨congrArg some place.symm, by omega, Nat.le_of_eq sameFree.symm,
        Nat.le_trans (Nat.le_of_eq sameFree) (Nat.le_add_right _ _), framed.putNumRows (by omega)⟩⟩

end Framed

end Openpyn.Database
