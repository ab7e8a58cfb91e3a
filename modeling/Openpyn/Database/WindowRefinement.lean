import Openpyn.Database.WindowLayout

/-!
# Operations on a cursor window are operations on its table

A window represents a table when its frame has room for the rows, and each field is where the
row's directory says. Every operation keeps this, for the table that the operation leads to.
-/

namespace Openpyn.Database

open Openpyn.Foundation

/-- A window in which a table is laid out. -/
structure Represents (layout : Layout) (window : CursorWindow) (table : Table) : Prop where
  framed : Framed layout window table.columns table.rows.length table.rows.length 0
  fields : ∀ row column field, table.field row column = some field →
    HasField (layout.region window) row column (layout.directoryAt row + 12 * column) field

namespace Represents

variable {layout : Layout} {window : CursorWindow} {table : Table}

/-- A field is read as it is in the table. -/
theorem getField (here : Represents layout window table) (row column : Nat) :
    window.getField row column = table.field row column := by
  rw [CursorWindow.getField]
  by_cases inside : row < table.rows.length ∧ column < table.columns
  · have present := (table.field_isSome row column).mpr inside
    obtain ⟨field, found⟩ := Option.isSome_iff_exists.mp present
    rw [here.framed.getFieldSlot inside, Option.bind_some, found]
    exact (here.fields row column field found).fieldOf
  · rw [here.framed.getFieldSlot_none inside, Option.bind_none, Table.field_eq_none inside]

/-! ## Putting fields -/

/-- Whoever writes one field's parts puts that field. -/
theorem putCell (here : Represents layout window table) {row column : Nat} {field : Field}
    {mData : Memory} (inside : row < table.rows.length ∧ column < table.columns)
    (keeps : Region.Keeps (WindowOwner.IsCell row column) (layout.region window)
      (layout.region { window with mData := mData }))
    (content : HasContent (layout.region { window with mData := mData }) row column
      (layout.directoryAt row + 12 * column) field) :
    Represents layout { window with mData := mData } (table.putField row column field) ∧
      ({ window with mData := mData } : CursorWindow).freeOffset = window.freeOffset := by
  have framed := here.framed.write keeps fun name isCell => .inl ⟨row, column, isCell⟩
  refine ⟨⟨?_, ?_⟩, here.framed.freeOffset_eq keeps (by simp [WindowOwner.IsCell])⟩
  · rw [Table.putField, List.length_modify]
    exact framed
  · intro otherRow otherColumn other found
    rw [table.field_putField field inside] at found
    split at found
    case isTrue same =>
      obtain ⟨rfl, rfl⟩ := same
      cases Option.some.inj found
      obtain ⟨before, present⟩ :=
        Option.isSome_iff_exists.mp ((table.field_isSome otherRow otherColumn).mpr inside)
      exact ⟨(here.fields otherRow otherColumn before present).1, content⟩
    case isFalse apart =>
      exact (here.fields otherRow otherColumn other found).keeps keeps fun name isOther isCell =>
        apart (isOther.same isCell)

/-- The slot of a field, and who owns it. -/
theorem owns (here : Represents layout window table) {row column : Nat}
    (inside : row < table.rows.length ∧ column < table.columns) :
    let fieldSlot := layout.directoryAt row + 12 * column
    (layout.region window).Owns (.type row column) fieldSlot 4 ∧
      (layout.region window).Owns (.data row column) (fieldSlot + 4) 8 := by
  obtain ⟨field, found⟩ := Option.isSome_iff_exists.mp ((table.field_isSome row column).mpr inside)
  exact (here.fields row column field found).1

/-- A field outside the table is refused. -/
theorem getFieldSlot_none (here : Represents layout window table) {row column : Nat}
    (outside : ¬ (row < table.rows.length ∧ column < table.columns)) :
    window.getFieldSlot row column = none :=
  here.framed.getFieldSlot_none outside

theorem putEightBytes (here : Represents layout window table) {row column : Nat}
    (inside : row < table.rows.length ∧ column < table.columns) (value : BitVec 64) (type : Nat)
    (field : Field) (fits : type < 256 ^ 4)
    (content : ∀ region fieldSlot, HasEightBytes region row column fieldSlot type value →
      HasContent region row column fieldSlot field) :
    let result := window.putEightBytes row column value type
    result.2 = .ok ∧ result.1.mSize = window.mSize ∧
      Represents layout result.1 (table.putField row column field) ∧
      result.1.freeOffset = window.freeOffset := by
  obtain ⟨has, keeps⟩ := hasEightBytes_write value (here.owns inside) fits
  simp only [CursorWindow.putEightBytes, here.framed.writable, Bool.false_eq_true, if_false,
    here.framed.getFieldSlot inside]
  exact ⟨trivial, rfl, here.putCell inside keeps (content _ _ has)⟩

theorem putNull (here : Represents layout window table) {row column : Nat}
    (inside : row < table.rows.length ∧ column < table.columns) :
    let result := window.putNull row column
    result.2 = .ok ∧ result.1.mSize = window.mSize ∧
      Represents layout result.1 (table.putField row column .null) ∧
      result.1.freeOffset = window.freeOffset := by
  have nothing : (layout.region window).Has (.buffer row column) 0 [] :=
    ⟨fun _ bound => absurd bound (Nat.not_lt_zero _), rfl⟩
  obtain ⟨has, keeps⟩ := hasBytes_write nothing (here.owns inside)
    (by decide : CursorWindow.fieldTypeNull < 256 ^ 4) (by decide) (by decide)
  simp only [CursorWindow.putNull, here.framed.writable, Bool.false_eq_true, if_false,
    here.framed.getFieldSlot inside]
  exact ⟨trivial, rfl, here.putCell inside keeps has.1⟩

/-! ## Handing out memory -/

theorem claim (here : Represents layout window table) {offset size : Nat}
    (names : Nat → WindowOwner) (behind : window.freeOffset ≤ offset)
    (inside : offset + size ≤ window.mSize) :
    let after := window.putWord CursorWindow.freeOffsetField (offset + size)
    Represents (layout.claim names offset size) after table ∧
      after.freeOffset = offset + size := by
  obtain ⟨framed, freeOffset, keeps⟩ := here.framed.claim names behind inside
  refine ⟨⟨framed, fun row column field found => ?_⟩, freeOffset⟩
  refine (here.fields row column field found).keeps keeps fun name isCell isFree => ?_
  rcases isFree with rfl | rfl <;> rcases isCell with same | same | same <;> cases same

theorem putBlobOrString (here : Represents layout window table) {row column : Nat}
    (inside : row < table.rows.length ∧ column < table.columns) {bytes : List UInt8}
    (short : bytes.length ≤ 2 ^ 31) (type : Nat) (field : Field) (fits : type < 256 ^ 4)
    (content : ∀ region fieldSlot, HasBytes region row column fieldSlot type bytes →
      HasContent region row column fieldSlot field) :
    let result := window.putBlobOrString row column bytes type
    (result = (window, .noMemory) ∧ window.mSize < window.freeOffset + bytes.length) ∨
      (result.2 = .ok ∧ result.1.mSize = window.mSize ∧
        (∃ layout', Represents layout' result.1 (table.putField row column field)) ∧
        result.1.freeOffset = window.freeOffset + bytes.length) := by
  have used := here.framed.used
  have small := here.framed.small
  simp only [CursorWindow.putBlobOrString, here.framed.writable, Bool.false_eq_true, if_false,
    here.framed.getFieldSlot inside]
  rcases alloc_cases window bytes.length false here.framed.small here.framed.inside short with
    ⟨allocated, little⟩ | ⟨allocated, room⟩
  · rw [allocated]
    exact .inl ⟨rfl, little⟩
  · let layout' := layout.claim (fun _ => .buffer row column) window.freeOffset bytes.length
    let handed := window.putWord CursorWindow.freeOffsetField (window.freeOffset + bytes.length)
    obtain ⟨claimed, freeOffset⟩ : Represents layout' handed table ∧
      handed.freeOffset = window.freeOffset + bytes.length :=
        here.claim _ (Nat.le_refl window.freeOffset) room
    have mine : (layout'.region handed).Owns (.buffer row column) (window.freeOffset + 0)
        bytes.length := layout.owns_claim handed (Nat.le_of_eq (Nat.zero_add _)) fun _ _ => rfl
    have copied : ((layout'.region handed).write window.freeOffset bytes).Has
        (.buffer row column) window.freeOffset bytes := Region.has_write mine
    have keepsCopy : Region.Keeps (WindowOwner.IsCell row column) (layout'.region handed)
        ((layout'.region handed).write window.freeOffset bytes) :=
      Region.keeps_write mine (.inr (.inr rfl))
    have owns := claimed.owns inside
    obtain ⟨has, keeps⟩ := hasBytes_write copied
      ⟨Region.Owns.write owns.1 window.freeOffset bytes,
        Region.Owns.write owns.2 window.freeOffset bytes⟩ fits (by omega) (by omega)
    let fieldSlot := layout'.directoryAt row + 12 * column
    let copiedWindow := { handed with mData := handed.mData.write window.freeOffset bytes }
    let after := ((copiedWindow.putWord fieldSlot type).putWord (fieldSlot + 4)
      window.freeOffset).putWord (fieldSlot + 8) bytes.length
    rw [← Layout.region_write, ← Layout.region_putWord, ← Layout.region_putWord,
      ← Layout.region_putWord] at has keeps
    rw [← Layout.region_write] at keepsCopy
    have keepsAfter : Region.Keeps (WindowOwner.IsCell row column) (layout'.region handed)
        (layout'.region after) := keepsCopy.trans keeps
    obtain ⟨put, same⟩ := @putCell layout' handed table claimed row column field after.mData inside
      keepsAfter (content _ _ has)
    have unpadded : CursorWindow.padding window.freeOffset false = 0 := rfl
    rw [allocated]
    simp only [unpadded, Nat.add_zero]
    rw [if_neg (by omega)]
    exact .inr ⟨rfl, rfl, ⟨layout', put⟩, same.trans freeOffset⟩

/-! ## Rows -/

/-- The names of a new row's directory. -/
def directoryNames (row place : Nat) : WindowOwner :=
  if place % 12 < 4 then .type row (place / 12) else .data row (place / 12)

theorem owns_directory (layout : Layout) (window : CursorWindow) (row offset : Nat)
    {column columns : Nat} (bound : column < columns) :
    let claimed := (layout.claim (directoryNames row) offset (columns * 12)).region window
    claimed.Owns (.type row column) (offset + 12 * column) 4 ∧
      claimed.Owns (.data row column) (offset + 12 * column + 4) 8 := by
  refine ⟨layout.owns_claim window (by omega) fun index inside => ?_, ?_⟩
  · have quotient : (12 * column + index) / 12 = column := by omega
    rw [directoryNames, if_pos (by omega), quotient]
  · rw [Nat.add_assoc]
    refine layout.owns_claim window (by omega) fun index inside => ?_
    have quotient : (12 * column + 4 + index) / 12 = column := by omega
    rw [directoryNames, if_neg (by omega), quotient]

/-- A directory of zeros in front of which there is a row slot. -/
theorem addRow {numRows offset : Nat} {layout' : Layout} {slotted : CursorWindow}
    (framed : Framed layout' slotted table.columns table.rows.length numRows 0)
    (fields : ∀ row column field, table.field row column = some field →
      HasField (layout'.region slotted) row column (layout'.directoryAt row + 12 * column) field)
    (counted : numRows = table.rows.length + 1)
    (room : table.rows.length < 100 * layout'.chunks)
    (behind : slotted.freeOffset ≤ offset)
    (inside : offset + table.columns * 12 ≤ slotted.mSize) :
    let handed := slotted.putWord CursorWindow.freeOffsetField (offset + table.columns * 12)
    let zeroed := { handed with
      mData := handed.mData.write offset (List.replicate (table.columns * 12) 0) }
    let after := zeroed.putWord (layout'.slotAt table.rows.length) offset
    Represents ((layout'.claim (directoryNames table.rows.length) offset
        (table.columns * 12)).addRow table.rows.length offset) after table.allocRow ∧
      after.freeOffset = offset + table.columns * 12 := by
  have small := framed.small
  obtain ⟨claimed, freeOffset, keepsClaim⟩ :=
    framed.claim (directoryNames table.rows.length) behind inside
  intro handed zeroed after
  let layout₁ := layout'.claim (directoryNames table.rows.length) offset (table.columns * 12)
  have keepsZero : Region.Keeps (fun name => ∃ column, name.IsCell table.rows.length column)
      (layout₁.region handed) (layout₁.region zeroed) := by
    refine Region.keeps_write_each fun index bound => ?_
    rw [List.length_replicate] at bound
    have owner : layout₁.owner (offset + index) = directoryNames table.rows.length index :=
      layout'.owns_claim handed (by omega : index + 1 ≤ table.columns * 12)
        (fun place first => by rw [Nat.lt_one_iff.mp first]; rfl) 0 Nat.one_pos
    refine ⟨index / 12, ?_⟩
    simp only [Layout.region, owner, directoryNames]
    split
    · exact .inl rfl
    · exact .inr (.inl rfl)
  have framedZero := claimed.write keepsZero fun _ cell => .inl ⟨table.rows.length, cell⟩
  have ownsSlot : (layout₁.region zeroed).Owns (.slot table.rows.length)
      (layout'.slotAt table.rows.length) 4 := framedZero.slots table.rows.length room
  have keepsSlot : Region.Keeps (· = .slot table.rows.length) (layout₁.region zeroed)
      (layout₁.region after) := Region.keeps_writeNumber ownsSlot rfl
  have framedSlot := framedZero.write keepsSlot
    fun _ same => .inr ⟨table.rows.length, Nat.le_refl _, same⟩
  have slot : (layout₁.region after).HasNumber (.slot table.rows.length)
      (layout'.slotAt table.rows.length) 4 offset :=
    Region.hasNumber_writeNumber ownsSlot (by omega)
  have added := framedSlot.addRow room slot
  have sameFree : after.freeOffset = offset + table.columns * 12 :=
    ((framedZero.freeOffset_eq keepsSlot (by simp)).trans
      (claimed.freeOffset_eq keepsZero (by simp [WindowOwner.IsCell]))).trans freeOffset
  refine ⟨⟨?_, ?_⟩, sameFree⟩
  · rw [counted] at added
    simp only [Table.allocRow, List.length_append, List.length_singleton]
    exact added
  · intro row column field found
    rcases Table.field_allocRow_of_some found with before | ⟨rfl, bound, rfl⟩
    · have old := (Table.lt_of_field before).1
      have kept := ((fields row column field before).keeps keepsClaim
        fun name isCell isFree => isCell.not_isGrowth (.inl isFree)).keeps keepsZero
          fun name isCell other => by
            obtain ⟨otherColumn, isOther⟩ := other
            exact absurd (isCell.same isOther).1 (Nat.ne_of_lt old)
      have last := kept.keeps keepsSlot fun name isCell same => by
        rw [same] at isCell
        rcases isCell with same | same | same <;> cases same
      simp only [Layout.addRow, if_pos old]
      exact last
    · obtain ⟨ownsType, ownsData⟩ := owns_directory layout' zeroed table.rows.length offset bound
      have zero : (layout₁.region zeroed).HasNumber (.type table.rows.length column)
          (offset + 12 * column) 4 0 :=
        ⟨ownsType, Memory.readNumber_zeroed _ offset (by omega)⟩
      simp only [Layout.addRow, if_neg (Nat.lt_irrefl _)]
      exact ⟨⟨ownsType, ownsData⟩, zero.keeps keepsSlot (by simp)⟩

theorem allocRow (here : Represents layout window table) :
    let result := window.allocRow
    result.1.mSize = window.mSize ∧
      ∃ slotted, window.freeOffset ≤ slotted ∧
        slotted ≤ window.freeOffset + chunkMemory table.rows.length ∧
        (result.2 = .noMemory ∧
            (window.mSize < window.freeOffset + chunkMemory table.rows.length ∨
              window.mSize < slotted + CursorWindow.padding slotted true + table.columns * 12) ∧
            (∃ layout', Represents layout' result.1 table) ∨
          result.2 = .ok ∧ (∃ layout', Represents layout' result.1 table.allocRow) ∧
            result.1.freeOffset =
              slotted + CursorWindow.padding slotted true + table.columns * 12) := by
  have counts := here.framed.rows_lt
  obtain ⟨layout', directories, sameSize, keeps, found⟩ := here.framed.allocRowSlot
  have fields : ∀ row column field, table.field row column = some field →
      HasField (layout'.region window.allocRowSlot.1) row column
        (layout'.directoryAt row + 12 * column) field := by
    intro row column field present
    rw [directories]
    exact (here.fields row column field present).keeps keeps fun _ isCell => isCell.not_isGrowth
  simp only [CursorWindow.allocRow, here.framed.writable, Bool.false_eq_true, if_false]
  rcases found with ⟨none, little, framed⟩ | ⟨slot, room, least, near, framed⟩
  · rw [none]
    exact ⟨sameSize, window.freeOffset, Nat.le_refl _, Nat.le_add_right _ _,
      .inl ⟨rfl, .inl little, layout', framed, fields⟩⟩
  · have narrow := framed.narrow
    rw [slot]
    simp only [framed.getNumColumns, CursorWindow.fieldSlotSize]
    rcases alloc_cases window.allocRowSlot.1 (table.columns * 12) true framed.small framed.inside
      (by rw [Bool.toNat_true]; omega) with ⟨allocated, little⟩ | ⟨allocated, inside⟩
    · have keepsCount := framed.keeps_putNumRows table.rows.length
      rw [allocated]
      simp only [if_true, framed.getNumRows, Nat.add_sub_cancel]
      refine ⟨sameSize, window.allocRowSlot.1.freeOffset, least, near,
        .inl ⟨trivial, .inr (sameSize ▸ little), layout', framed.putNumRows (by omega), ?_⟩⟩
      intro row column field present
      refine (fields row column field present).keeps keepsCount fun _ isCell same => ?_
      exact isCell.not_isGrowth (.inr (.inl same))
    · have used := framed.used
      obtain ⟨added, freeOffset⟩ :=
        addRow framed fields rfl room (Nat.le_add_right _ _) inside
      rw [allocated]
      simp only
      rw [if_neg (by omega)]
      exact ⟨sameSize, window.allocRowSlot.1.freeOffset, least, near,
        .inr ⟨rfl, ⟨_, added⟩, freeOffset⟩⟩

theorem freeLastRow (here : Represents layout window table) :
    Represents layout window.freeLastRow.1 table.freeLastRow ∧ window.freeLastRow.2 = .ok ∧
      window.freeLastRow.1.mSize = window.mSize := by
  have counts := here.framed.rows_lt
  have rows : table.freeLastRow.rows.length = table.rows.length - 1 := List.length_dropLast
  have dropped := here.framed.dropRows (Nat.sub_le table.rows.length 1)
  simp only [CursorWindow.freeLastRow, here.framed.writable, Bool.false_eq_true, if_false,
    here.framed.getNumRows]
  split
  case isTrue some =>
    have keeps := here.framed.keeps_putNumRows (table.rows.length - 1)
    refine ⟨⟨?_, fun row column field found => ?_⟩, rfl, rfl⟩
    · rw [rows]
      exact dropped.putNumRows (by omega)
    · refine (here.fields row column field (Table.field_freeLastRow_of_some found)).keeps keeps
        fun _ isCell same => isCell.not_isGrowth (.inr (.inl same))
  case isFalse none =>
    refine ⟨⟨?_, fun row column field found => ?_⟩, rfl, rfl⟩
    · have zero : table.rows.length = 0 := by omega
      have framed := here.framed
      rw [zero] at framed
      rw [rows, zero]
      exact framed
    · exact here.fields row column field (Table.field_freeLastRow_of_some found)

/-! ## The whole window -/

theorem setNumColumns (here : Represents layout window table) {numColumns : Nat}
    (narrow : numColumns < 2 ^ 27) :
    (table.Refuses numColumns ∧ window.setNumColumns numColumns = (window, .invalidOperation)) ∨
      ∃ accepts : ¬ table.Refuses numColumns,
        (window.setNumColumns numColumns).2 = .ok ∧
        Represents layout (window.setNumColumns numColumns).1
          ⟨numColumns, table.rows, Table.width_setNumColumns accepts⟩ ∧
        (window.setNumColumns numColumns).1.freeOffset = window.freeOffset ∧
        (window.setNumColumns numColumns).1.mSize = window.mSize := by
  simp only [CursorWindow.setNumColumns, here.framed.writable, Bool.false_eq_true, if_false,
    here.framed.getNumColumns, here.framed.getNumRows]
  by_cases refuses : table.Refuses numColumns
  · exact .inl ⟨refuses, if_pos refuses⟩
  · have accepts : ¬ ((0 < table.columns ∨ 0 < table.rows.length) ∧ table.columns ≠ numColumns) :=
      refuses
    rw [if_neg accepts]
    have keeps : Region.Keeps (· = .numColumns) (layout.region window)
        (layout.region (window.putWord CursorWindow.numColumnsField numColumns)) :=
      Region.keeps_writeNumber here.framed.width.1 rfl
    refine .inr ⟨refuses, rfl,
      ⟨here.framed.putNumColumns narrow, fun row column field found => ?_⟩,
      here.framed.freeOffset_eq keeps (by simp), rfl⟩
    refine (here.fields row column field found).keeps keeps fun name isCell same => ?_
    rw [same] at isCell
    rcases isCell with same | same | same <;> cases same

end Represents

/-! ### Clearing -/

/-- A window without rows. -/
def clearLayout : Layout where
  owner place :=
    if place < 4 then .freeOffset
    else if place < 8 then .firstChunkOffset
    else if place < 12 then .numRows
    else if place < 16 then .numColumns
    else if place < 416 then .slot ((place - 16) / 4)
    else if place < 420 then .nextChunk 0
    else .free
  chunks := 1
  chunkAt _ := 16
  directoryAt _ := 0

theorem represents_clear (window : CursorWindow) (writable : window.mReadOnly = false)
    (large : 420 ≤ window.mSize) (small : window.mSize < 2 ^ 31) :
    Represents clearLayout window.clear.1 Table.empty ∧ window.clear.2 = .ok ∧
      window.clear.1.freeOffset = 420 ∧ window.clear.1.mSize = window.mSize := by
  have put (before : CursorWindow) {name : WindowOwner} {offset value : Nat}
      (owns : ∀ index < 4, clearLayout.owner (offset + index) = name) (fits : value < 256 ^ 4) :
      (clearLayout.region (before.putWord offset value)).HasNumber name offset 4 value ∧
        Region.Keeps (· = name) (clearLayout.region before)
          (clearLayout.region (before.putWord offset value)) :=
    ⟨@Region.hasNumber_writeNumber _ (clearLayout.region before) _ _ _ _ owns fits,
      @Region.keeps_writeNumber _ (clearLayout.region before) _ _ _ _ _ owns rfl⟩
  let free := window.putWord CursorWindow.freeOffsetField 420
  let first := free.putWord CursorWindow.firstChunkOffsetField 16
  let rows := first.putWord CursorWindow.numRowsField 0
  let columns := rows.putWord CursorWindow.numColumnsField 0
  let link := columns.putWord 416 0
  obtain ⟨hasFree, -⟩ := @put window .freeOffset 0 420 (by decide) (by decide)
  obtain ⟨hasFirst, keepsFirst⟩ := @put free .firstChunkOffset 4 16 (by decide) (by decide)
  obtain ⟨hasRows, keepsRows⟩ := @put first .numRows 8 0 (by decide) (by decide)
  obtain ⟨hasColumns, keepsColumns⟩ := @put rows .numColumns 12 0 (by decide) (by decide)
  obtain ⟨hasLink, keepsLink⟩ := @put columns (.nextChunk 0) 416 0 (by decide) (by decide)
  have start : columns.word CursorWindow.firstChunkOffsetField = 16 :=
    ((hasFirst.keeps keepsRows (by simp)).keeps keepsColumns (by simp)).2
  have cleared : window.clear = (link, .ok) := by
    simp only [CursorWindow.clear, writable, Bool.false_eq_true, if_false]
    exact congrArg
      (fun chunk => (columns.putWord (chunk + CursorWindow.nextChunkOffsetField) 0, Status.ok))
      start
  have freeOffset : (clearLayout.region link).HasNumber .freeOffset 0 4 420 :=
    (((hasFree.keeps keepsFirst (by simp)).keeps keepsRows (by simp)).keeps keepsColumns
      (by simp)).keeps keepsLink (by simp)
  have used : link.freeOffset = 420 := freeOffset.2
  rw [cleared]
  refine ⟨⟨?_, fun row column field found => ?_⟩, rfl, used, rfl⟩
  · exact {
      writable := writable
      small := small
      narrow := by decide
      free := freeOffset.1
      used := Nat.le_of_eq (used.symm ▸ rfl)
      inside := used.symm ▸ large
      tail := fun place bound => by
        rw [used] at bound
        simp only [clearLayout]
        repeat rw [if_neg (by omega)]
      first := ((hasFirst.keeps keepsRows (by simp)).keeps keepsColumns (by simp)).keeps
        keepsLink (by simp)
      count := (hasRows.keeps keepsColumns (by simp)).keeps keepsLink (by simp)
      width := hasColumns.keeps keepsLink (by simp)
      chunked := Nat.one_pos
      room := Nat.zero_le _
      starts := fun _ _ => Nat.succ_ne_zero 15
      links := fun chunk bound => by
        obtain rfl : chunk = 0 := Nat.lt_one_iff.mp bound
        exact hasLink
      slots := fun row bound index inside => by
        simp only [clearLayout] at bound
        have place : row / 100 = 0 := by omega
        simp only [Layout.region, Layout.slotAt, clearLayout]
        rw [if_neg (by omega), if_neg (by omega), if_neg (by omega), if_neg (by omega),
          if_pos (by omega)]
        congr 1
        omega
      directories := fun row bound => absurd bound (Nat.not_lt_zero row) }
  · exact absurd (Table.lt_of_field found).1 (Nat.not_lt_zero row)

/-- Cleared, a window can have any number of columns. -/
theorem Represents.restart {layout : Layout} {window : CursorWindow} {table : Table}
    (here : Represents layout window table) {numColumns : Nat} (narrow : numColumns < 2 ^ 27) :
    let wide := window.clear.1.setNumColumns numColumns
    window.clear.2 = .ok ∧ wide.2 = .ok ∧ wide.1.freeOffset = 420 ∧
      wide.1.mSize = window.mSize ∧
      ∃ layout' table', Represents layout' wide.1 table' ∧ table'.columns = numColumns ∧
        table'.rows = [] := by
  have used := here.framed.used
  have inside := here.framed.inside
  have chunked := here.framed.chunked
  obtain ⟨cleared, ended, free, size⟩ :=
    represents_clear window here.framed.writable (by omega) here.framed.small
  rcases cleared.setNumColumns narrow with
    ⟨refuses, -⟩ | ⟨accepts, widened, set, sameFree, sameSize⟩
  · rcases refuses.1 with some | some <;> exact absurd some (Nat.lt_irrefl 0)
  · exact ⟨ended, widened, sameFree.trans free, sameSize.trans size, _, _, set, rfl, rfl⟩

/-! ## Runs -/

/-- The bytes that a field takes beside its slot. -/
def Field.size : Field → Nat
  | .string bytes => bytes.length
  | .blob bytes => bytes.length
  | _ => 0

namespace CursorWindow

namespace Operation

/-- Lengths are those of arrays and of what SQLite returns, which has no more than 32767 columns. -/
def IsShort : Operation → Prop
  | .setNumColumns numColumns => numColumns < 2 ^ 27
  | .putField _ _ field => field.size ≤ 2 ^ 31
  | _ => True

/-- Memory that is enough for an operation on a window with a table. -/
def mostMemory (table : Table) : Operation → Nat
  | .allocRow => chunkMemory table.rows.length + 3 + 12 * table.columns
  | .putField _ _ field => field.size
  | _ => 0

end Operation

/-- The operations of a run that memory was enough for. -/
def served (window : CursorWindow) : List Operation → List Operation
  | [] => []
  | operation :: rest =>
      let result := window.perform operation
      if result.2 = .noMemory then result.1.served rest else operation :: result.1.served rest

/-- A window reacting to operations. -/
def machine : Machine CursorWindow Operation Status := ⟨perform⟩

end CursorWindow

namespace Table

/-- How an operation on a table ends when there is memory enough. -/
def statusOf (table : Table) (operation : CursorWindow.Operation) : Status :=
  match table.perform operation with
  | .ok _ => .ok
  | .error status => status

end Table

namespace Represents

variable {layout : Layout} {window : CursorWindow} {table : Table}

theorem putField (here : Represents layout window table) {row column : Nat}
    (inside : row < table.rows.length ∧ column < table.columns) (field : Field)
    (short : field.size ≤ 2 ^ 31) :
    let result := window.putField row column field
    (result = (window, .noMemory) ∧ window.mSize < window.freeOffset + field.size) ∨
      (result.2 = .ok ∧ result.1.mSize = window.mSize ∧
        (∃ layout', Represents layout' result.1 (table.putField row column field)) ∧
        result.1.freeOffset = window.freeOffset + field.size) := by
  cases field with
  | null =>
      obtain ⟨ended, size, put, same⟩ := here.putNull inside
      exact .inr ⟨ended, size, ⟨layout, put⟩, same⟩
  | integer value =>
      obtain ⟨ended, size, put, same⟩ := here.putEightBytes inside value
        CursorWindow.fieldTypeInteger (.integer value) (by decide) fun _ _ has => has
      exact .inr ⟨ended, size, ⟨layout, put⟩, same⟩
  | float bits =>
      obtain ⟨ended, size, put, same⟩ := here.putEightBytes inside bits
        CursorWindow.fieldTypeFloat (.float bits) (by decide) fun _ _ has => has
      exact .inr ⟨ended, size, ⟨layout, put⟩, same⟩
  | string bytes =>
      exact here.putBlobOrString inside short CursorWindow.fieldTypeString
        (.string bytes) (by decide) fun _ _ has => has
  | blob bytes =>
      exact here.putBlobOrString inside short CursorWindow.fieldTypeBlob
        (.blob bytes) (by decide) fun _ _ has => has

theorem putField_outside (here : Represents layout window table) {row column : Nat}
    (outside : ¬ (row < table.rows.length ∧ column < table.columns)) (field : Field) :
    window.putField row column field = (window, .badValue) := by
  have none := here.getFieldSlot_none outside
  have writable := here.framed.writable
  cases field <;>
    simp [CursorWindow.putField, CursorWindow.putNull, CursorWindow.putLong,
      CursorWindow.putDouble, CursorWindow.putString, CursorWindow.putBlob,
      CursorWindow.putEightBytes, CursorWindow.putBlobOrString, none, writable]

/-- An operation does to the table what its name says, and fails for the reason it gives. -/
theorem perform (here : Represents layout window table) {operation : CursorWindow.Operation}
    (short : operation.IsShort) :
    let result := window.perform operation
    (result.2 = .noMemory ∧ window.freeSpace < operation.mostMemory table ∧
        ∃ layout', Represents layout' result.1 table) ∨
      result.2 = table.statusOf operation ∧ result.2 ≠ .noMemory ∧
        ∃ layout', Represents layout' result.1 (table.performed operation) := by
  have inside := here.framed.inside
  cases operation with
  | clear =>
      have used := here.framed.used
      have chunked := here.framed.chunked
      obtain ⟨cleared, ended, -⟩ := represents_clear window here.framed.writable (by omega)
        here.framed.small
      exact .inr ⟨ended, by simp [CursorWindow.perform, ended], _, cleared⟩
  | setNumColumns numColumns =>
      rcases here.setNumColumns short with ⟨refuses, ended⟩ | ⟨accepts, ended, set, -⟩
      · have refused : table.perform (.setNumColumns numColumns) = .error .invalidOperation :=
          dif_pos refuses
        refine .inr ⟨?_, ?_, layout, ?_⟩
        · rw [Table.statusOf, refused, CursorWindow.perform, ended]
        · rw [CursorWindow.perform, ended]
          exact Status.noConfusion
        · rw [Table.performed, refused, CursorWindow.perform, ended]
          exact here
      · have accepted : table.perform (.setNumColumns numColumns) = .ok _ := dif_neg accepts
        refine .inr ⟨?_, ?_, layout, ?_⟩
        · rw [Table.statusOf, accepted]
          exact ended
        · rw [CursorWindow.perform, ended]
          exact Status.noConfusion
        · rw [Table.performed, accepted]
          exact set
  | allocRow =>
      obtain ⟨-, slotted, -, near, ⟨ended, little, failed⟩ | ⟨ended, allocated, -⟩⟩ := here.allocRow
      · refine .inl ⟨ended, ?_, failed⟩
        have most := padding_le slotted true
        rw [Bool.toNat_true] at most
        rw [CursorWindow.freeSpace, CursorWindow.Operation.mostMemory]
        omega
      · exact .inr ⟨ended, by rw [CursorWindow.perform, ended]; exact Status.noConfusion, allocated⟩
  | freeLastRow =>
      obtain ⟨freed, ended, -⟩ := here.freeLastRow
      exact .inr ⟨ended, by rw [CursorWindow.perform, ended]; exact Status.noConfusion, layout,
        freed⟩
  | putField row column field =>
      by_cases inTable : row < table.rows.length ∧ column < table.columns
      · have accepted : table.perform (.putField row column field) = .ok _ := if_pos inTable
        rcases here.putField inTable field short with ⟨failed, little⟩ | ⟨ended, -, put, -⟩
        · refine .inl ⟨?_, ?_, layout, ?_⟩
          · rw [CursorWindow.perform, failed]
          · rw [CursorWindow.freeSpace, CursorWindow.Operation.mostMemory]
            omega
          · rw [CursorWindow.perform, failed]
            exact here
        · refine .inr ⟨?_, by rw [CursorWindow.perform, ended]; exact Status.noConfusion, ?_⟩
          · rw [Table.statusOf, accepted]
            exact ended
          · rw [Table.performed, accepted]
            exact put
      · have refused : table.perform (.putField row column field) = .error .badValue :=
          if_neg inTable
        have ended := here.putField_outside inTable field
        refine .inr ⟨?_, ?_, layout, ?_⟩
        · rw [Table.statusOf, refused, CursorWindow.perform, ended]
        · rw [CursorWindow.perform, ended]
          exact Status.noConfusion
        · rw [Table.performed, refused, CursorWindow.perform, ended]
          exact here

/-- A run does to the table what the operations do that memory was enough for. -/
theorem after (here : Represents layout window table) (operations : List CursorWindow.Operation)
    (short : ∀ operation ∈ operations, operation.IsShort) :
    ∃ layout', Represents layout' (CursorWindow.machine.after window operations)
      (table.after (window.served operations)) := by
  induction operations generalizing layout window table with
  | nil => exact ⟨layout, here⟩
  | cons operation rest inductionHypothesis =>
      have later := fun other member => short other (List.mem_cons_of_mem operation member)
      rw [Machine.after_cons, CursorWindow.served]
      rcases here.perform (short operation List.mem_cons_self) with
        ⟨ended, -, layout', failed⟩ | ⟨-, ended, layout', performed⟩
      · rw [if_pos ended]
        exact inductionHypothesis failed later
      · rw [if_neg ended]
        exact inductionHypothesis performed later

end Represents

namespace CursorWindow

theorem represents_after (data : Memory) {size : Nat} (large : 420 ≤ size)
    (small : size < 2 ^ 31) (operations : List Operation)
    (short : ∀ operation ∈ operations, operation.IsShort) :
    ∃ layout, Represents layout (machine.after (create data size) operations)
      (Table.empty.after ((create data size).served operations)) :=
  (represents_clear ⟨data, size, false⟩ rfl large small).1.after operations short

/-- Whatever memory a window gets and whatever is done to it, it has the rows of the table that
the operations lead to, and each field is read as it was last put. Its size leaves room for a header
and a chunk of rows and is that of an `int`, and the operations are short. -/
theorem fields_after (data : Memory) (size : Nat) (large : 420 ≤ size) (small : size < 2 ^ 31)
    (operations : List Operation) (short : ∀ operation ∈ operations, operation.IsShort) :
    let window := machine.after (create data size) operations
    let table := Table.empty.after ((create data size).served operations)
    window.getNumRows = table.rows.length ∧ window.getNumColumns = table.columns ∧
      ∀ row column, window.getField row column = table.field row column := by
  obtain ⟨layout, here⟩ := represents_after data large small operations short
  exact ⟨here.framed.getNumRows, here.framed.getNumColumns, here.getField⟩

/-- A blob that has been put over a number, in memory that held anything. -/
theorem fields_after_puts :
    let operations : List Operation := [.setNumColumns 2, .allocRow, .putField 0 1 (.integer 7),
      .putField 0 1 (.blob [1, 2, 3]), .allocRow, .freeLastRow]
    let window := machine.after (create (fun _ => 170) 4096) operations
    window.getNumRows = 1 ∧ window.getField 0 1 = some (.blob [1, 2, 3]) ∧
      window.getField 0 0 = some .null := by
  have fields := fields_after (fun _ => 170) 4096 (by decide) (by decide)
    [.setNumColumns 2, .allocRow, .putField 0 1 (.integer 7), .putField 0 1 (.blob [1, 2, 3]),
      .allocRow, .freeLastRow] (by simp [Operation.IsShort, Field.size])
  exact ⟨fields.1.trans (by decide +kernel), (fields.2.2 0 1).trans (by decide +kernel),
    (fields.2.2 0 0).trans (by decide +kernel)⟩

/-- Whatever was done to a window, the next operation fails only for the reason that its status
gives: the table refuses it, or there is less memory left than it takes. The same bounds hold as for
reading. -/
theorem statuses_after (data : Memory) (size : Nat) (large : 420 ≤ size) (small : size < 2 ^ 31)
    (operations : List Operation) (short : ∀ operation ∈ operations, operation.IsShort)
    (next : Operation) (nextShort : next.IsShort) :
    let window := machine.after (create data size) operations
    let table := Table.empty.after ((create data size).served operations)
    let status := (window.perform next).2
    status = .noMemory ∧ window.freeSpace < next.mostMemory table ∨
      status ≠ .noMemory ∧ status = table.statusOf next := by
  obtain ⟨layout, here⟩ := represents_after data large small operations short
  rcases here.perform nextShort with ⟨ended, little, -⟩ | ⟨same, ended, -⟩
  · exact .inl ⟨ended, little⟩
  · exact .inr ⟨ended, same⟩

/-- A window of the least size has no room for a row of one column. -/
theorem statuses_after_columns :
    let window := machine.after (create (fun _ => 170) 420) [.setNumColumns 1]
    (window.perform .allocRow).2 = .noMemory ∧ window.freeSpace < 15 := by
  have statuses := statuses_after (fun _ => 170) 420 (by decide) (by decide) [.setNumColumns 1]
    (by simp [Operation.IsShort]) .allocRow trivial
  rcases statuses with ⟨ended, little⟩ | ⟨ended, -⟩
  · exact ⟨ended, little⟩
  · exact absurd (by decide +kernel) ended

end CursorWindow

end Openpyn.Database
