import Mathlib.Algebra.Ring.Int.Defs
import Mathlib.Data.List.Forall2
import Openpyn.Database.CursorRuns
import Openpyn.Java.Integer

/-!
# Offline tiles

The tiles of a map are rows of a database. A provider has one query and one cursor for all of
them: for each tile it binds new arguments, executes the query anew and reads the first row. What a
request finds does not depend on those before it.
-/

namespace Openpyn.Map

open Openpyn.Java Openpyn.Database Openpyn.Foundation Openpyn.Foundation.Effect

/-- `NO_TILE`, or a tile with the data that were read for it. -/
inductive Tile where
  | noTile
  | tile (data : Option (List UInt8))
  deriving DecidableEq, Repr

/-- The arguments of `getTile`. -/
structure TileRequest where
  x : Int32
  y : Int32
  zoom : Int32

/-- The arguments of the query: zoom, column and row, which is counted from the other side. -/
def TileRequest.bindArgs (request : TileRequest) : List JString :=
  [toText request.zoom.toInt, toText request.x.toInt,
    toText ((1 <<< request.zoom) - 1 - request.y).toInt]

/-- A tile of the map. Zooms begin at 0 and go to 30, and the rows of a zoom are counted from 0. -/
structure TileRequest.IsTile (request : TileRequest) : Prop where
  zoom : 0 ≤ request.zoom.toInt ∧ request.zoom.toInt < 31
  row : 0 ≤ request.y.toInt

/-- Where a tile is stored: its zoom, its column, and its row among the `2 ^ zoom` rows of the zoom,
counted from the last one. -/
def TileRequest.place (request : TileRequest) : List JString :=
  [toText request.zoom.toInt, toText request.x.toInt,
    toText (2 ^ request.zoom.toInt.toNat - 1 - request.y.toInt)]

namespace MapBoxOfflineTileProvider

def getTile (outside : Nat → Execution (List JString)) (request : TileRequest) :
    CursorMethod (List JString) Tile := do
  SQLiteCursor.bindAllArgs request.bindArgs
  let _ ← SQLiteCursor.requery
  if ← SQLiteCursor.moveToPosition outside 1 0 then
    pure (.tile (← SQLiteCursor.getBlob outside 1 0))
  else pure .noTile

def machine (outside : Nat → Execution (List JString)) :
    Machine (SQLiteCursor (List JString)) TileRequest (Performed Tile) where
  step cursor request := SQLiteCursor.performing (getTile outside request) cursor

/-- The cursor before the first request. Its query has no arguments yet. -/
def create : SQLiteCursor (List JString) := SQLiteCursor.create []

/-! ## What a request finds -/

/-- A tile of the data in a field, which may not be a number. -/
def tileOfField : Field → Except CursorException Tile
  | .null => .ok (.tile none)
  | .string bytes | .blob bytes => .ok (.tile (some bytes))
  | .integer _ => .error .integerData
  | .float _ => .error .floatData

/-- The tile of the first row of a query of one column. -/
def tileOf (rows : List (List Field)) : Except CursorException Tile :=
  match rows.head?.bind (·.head?) with
  | none => .ok .noTile
  | some field => tileOfField field

/-- Why a request may throw: one of its executions fails, or a row is too large for a window. -/
def Excused (outside : Nat → Execution (List JString))
    (select : List JString → List (List Field)) (bindArgs : List JString) (executions : List Nat)
    (exception : CursorException) : Prop :=
  (∃ number ∈ executions, (outside number).Fails bindArgs exception) ∨
    (∃ row, exception = .couldNotRead row 0) ∧ ∃ fields ∈ select bindArgs, ¬ Fits fields

variable {outside : Nat → Execution (List JString)}
  {select : List JString → List (List Field)} {live : Prop} {least : Nat}
  {cursor : SQLiteCursor (List JString)} {plain : RowCursor (List JString)}

/-- Between requests a cursor is open. -/
def IsOpen (select : List JString → List (List Field)) (live : Prop)
    (cursor : SQLiteCursor (List JString)) : Prop :=
  ∃ plain, plain.available = true ∧ SQLiteCursor.Tracks select live cursor.fills cursor plain

theorem isOpen_create (serves : Serves outside 1 select) : IsOpen select live create :=
  ⟨_, rfl, SQLiteCursor.tracks_create serves []⟩

/-- The number of rows of a zoom. -/
theorem toInt_one_shiftLeft {zoom : Int32} (least : 0 ≤ zoom.toInt) (last : zoom.toInt < 31) :
    ((1 : Int32) <<< zoom).toInt = 2 ^ zoom.toInt.toNat := by
  have each : ∀ number : Fin 31,
      ((1 : Int32) <<< Int32.ofInt number).toInt = 2 ^ (number : Nat) := by decide
  have same : zoom = Int32.ofInt zoom.toInt.toNat := by
    rw [Int.toNat_of_nonneg least, Int32.ofInt_toInt]
  have shifted := each ⟨zoom.toInt.toNat, by omega⟩
  simp only at shifted
  rwa [← same] at shifted

/-- The query asks for the place of the tile. -/
theorem bindArgs_eq_place {request : TileRequest} (isTile : request.IsTile) :
    request.bindArgs = request.place := by
  obtain ⟨⟨least, last⟩, row⟩ := isTile
  have most := Int32.toInt_lt request.y
  have rows : (2 : Int) ^ request.zoom.toInt.toNat ≤ 2 ^ 30 := by
    exact_mod_cast Nat.pow_le_pow_right (by decide) (by omega)
  have some : (1 : Int) ≤ 2 ^ request.zoom.toInt.toNat := by
    exact_mod_cast Nat.one_le_two_pow
  have one : Int32.toInt 1 = 1 := by decide
  have below : (((1 : Int32) <<< request.zoom) - 1).toInt = 2 ^ request.zoom.toInt.toNat - 1 := by
    rw [Int32.toInt_sub, toInt_one_shiftLeft least last, one]
    exact Int.bmod_eq_of_le (by omega) (by omega)
  have mirrored : (((1 : Int32) <<< request.zoom) - 1 - request.y).toInt =
      2 ^ request.zoom.toInt.toNat - 1 - request.y.toInt := by
    rw [Int32.toInt_sub, below]
    exact Int.bmod_eq_of_le (by omega) (by omega)
  rw [TileRequest.bindArgs, TileRequest.place, mirrored]

/-- The blob of a row with one field, at which a cursor is. -/
theorem run_getBlob {field : Field} {rest : List (List Field)}
    (here : plain.rows = [field] :: rest) (first : plain.position = 0) :
    (RowCursor.getBlob 0 >>= fun data => pure (Tile.tile data) : RowMethod _ Tile).run plain =
      (tileOfField field, plain) := by
  have on : plain.onRow = true := by
    rw [RowCursor.onRow, here, first]
    exact decide_eq_true ⟨Int.le_refl 0, by simp only [List.length_cons]; omega⟩
  have found : plain.field 0 = some field := by
    rw [RowCursor.field, here, first]
    rfl
  have read : (RowCursor.getField 0).run plain = (.ok field, plain) := by
    rw [RowCursor.getField, run_reading_bind, id, on, found]
    rfl
  have blob : (RowCursor.getBlob 0).run plain = (SQLiteCursor.blobOf field).run plain :=
    run_bind_of_ok read
  cases field with
  | null => rw [run_bind_of_ok blob]; rfl
  | integer value => rw [run_bind_of_error blob]; rfl
  | float value => rw [run_bind_of_error blob]; rfl
  | string bytes => rw [run_bind_of_ok blob]; rfl
  | blob bytes => rw [run_bind_of_ok blob]; rfl

/-- What a request is answered, and that the next one can be made. -/
def Answered (outside : Nat → Execution (List JString)) (live : Prop) (least : Nat)
    (select : List JString → List (List Field)) (request : TileRequest)
    (ended : Except CursorException Tile × SQLiteCursor (List JString)) : Prop :=
  (ended.1 = tileOf (select request.bindArgs) ∨
      ∃ exception, ended.1 = .error exception ∧ ¬ live ∧
        Excused outside select request.bindArgs (List.range' least (ended.2.fills - least))
          exception) ∧
    ∃ plain, plain.available = true ∧ SQLiteCursor.Tracks select live least ended.2 plain

/-- Moving to the first row throws only because of an execution: no row is read. -/
theorem excused_of_move {bindArgs : List JString} {rows : List (List Field)}
    {executions : List Nat} {exception : CursorException} {next : RowCursor (List JString)}
    (interrupts : RowCursor.Interrupts outside executions none ⟨bindArgs, rows, -1, true, false⟩
      exception next) :
    Excused outside select bindArgs executions exception ∧ next.available = true := by
  cases interrupts with
  | execution made fails => exact ⟨.inl ⟨_, made, fails⟩, rfl⟩
  | unavailable made closed => cases closed
  | stale reads lost => exact absurd rfl reads
  | unread row reads reason => cases reads

/-- Reading a row that is not lost throws because of an execution, or because it is too large. -/
theorem excused_of_read {bindArgs : List JString} {field : Field} {rest : List (List Field)}
    (rows : select bindArgs = [field] :: rest) {executions : List Nat}
    {exception : CursorException} {next : RowCursor (List JString)}
    (interrupts : RowCursor.Interrupts outside executions (some 0)
      ⟨bindArgs, [field] :: rest, 0, true, false⟩ exception next) :
    Excused outside select bindArgs executions exception ∧ next.available = true := by
  cases interrupts with
  | execution made fails => exact ⟨.inl ⟨_, made, fails⟩, rfl⟩
  | unavailable made closed => cases closed
  | stale reads lost => cases lost
  | unread row reads reason =>
      obtain rfl := Option.some.inj reads
      rcases reason with lost | large | missing
      · cases lost
      · rw [Excused, rows]
        exact ⟨.inr ⟨⟨row, rfl⟩, large⟩, rfl⟩
      · cases missing

/-- The tile of the row that a cursor has moved to. -/
theorem answered_getBlob (serves : Serves outside 1 select)
    (faultless : live → Faultless outside select) {request : TileRequest} {field : Field}
    {rest : List (List Field)} (rows : select request.bindArgs = [field] :: rest)
    (tracks : SQLiteCursor.Tracks select live least cursor
      ⟨request.bindArgs, [field] :: rest, 0, true, false⟩) :
    Answered outside live least select request ((SQLiteCursor.getBlob outside 1 0 >>=
      fun data => pure (Tile.tile data) : CursorMethod (List JString) Tile).run cursor) := by
  have read := (SQLiteCursor.follows_getBlob serves faultless
    fun _ => Nat.zero_lt_one).map Tile.tile cursor _ tracks
  rcases read with ⟨same, stays⟩ | ⟨exception, next, thrown, excuse, stays⟩
  · rw [run_getBlob rfl rfl] at same stays
    refine ⟨.inl ?_, _, rfl, stays⟩
    rw [same, rows]
    rfl
  · obtain ⟨reason, usable⟩ := excused_of_read rows excuse.2
    exact ⟨.inr ⟨exception, thrown, excuse.1, reason⟩, _, usable, stays⟩

theorem answered_getTile (serves : Serves outside 1 select)
    (faultless : live → Faultless outside select) (request : TileRequest)
    (tracks : SQLiteCursor.Tracks select live least cursor plain)
    (usable : plain.available = true) :
    Answered outside live least select request ((getTile outside request).run cursor) := by
  have open' : cursor.available = true := tracks.sound.available.trans usable
  have still : SQLiteCursor.available { cursor with bindArgs := request.bindArgs } = true := open'
  rw [getTile, SQLiteCursor.bindAllArgs, run_changing_bind,
    run_bind_of_ok (SQLiteCursor.run_requery_of_available still)]
  have requeried := tracks.requeried serves open' request.bindArgs
  have moved : Follows _ (SQLiteCursor.Excuse outside live least none) _ _ :=
    SQLiteCursor.follows_moveToPosition serves faultless 0
  replace moved := moved _ _ requeried
  generalize SQLiteCursor.mk request.bindArgs _ _ _ _ _ _ _ = fresh at moved ⊢
  rw [RowCursor.run_moveToPosition] at moved
  cases ran : (SQLiteCursor.moveToPosition outside 1 0).run fresh with
  | mk result reached =>
      rw [ran] at moved
      rcases moved with ⟨same, kept⟩ | ⟨exception, next, same, excuse, kept⟩
      · obtain rfl : result = _ := same
        rw [run_bind_of_ok ran]
        cases rows : select request.bindArgs with
        | nil =>
            refine ⟨.inl ?_, _, rfl, kept⟩
            rw [rows]
            rfl
        | cons row rest =>
            have member : row ∈ select request.bindArgs := by
              rw [rows]
              exact List.mem_cons_self
            obtain ⟨field, rfl⟩ := List.length_eq_one_iff.mp (serves.length_eq member)
            rw [rows] at kept
            have inside : decide ((0 : Int) ≤ 0 ∧ (0 : Int) < (([field] :: rest).length : Nat)) =
                true := decide_eq_true ⟨Int.le_refl 0, by simp only [List.length_cons]; omega⟩
            have place : max (-1) (min (0 : Int) (([field] :: rest).length : Nat)) = 0 := by
              simp only [List.length_cons]
              omega
            have first : RowCursor.moveTo
                { bindArgs := request.bindArgs, rows := [field] :: rest } 0 =
                  ⟨request.bindArgs, [field] :: rest, 0, true, false⟩ := by
              simp only [RowCursor.moveTo, place, Bool.false_and]
            rw [first] at kept
            rw [if_pos inside]
            exact answered_getBlob serves faultless rows kept
      · obtain rfl : result = .error exception := same
        rw [run_bind_of_error ran]
        obtain ⟨reason, open'⟩ := excused_of_move excuse.2
        exact ⟨.inr ⟨exception, rfl, excuse.1, reason⟩, _, open', kept⟩

/-- For any requests in any order, whatever goes wrong outside, one for a tile of the map is
answered with the tile that is stored at its place. Or it throws, because one of its own executions
fails or a row is too large. -/
theorem tiles_after (serves : Serves outside 1 select) (requests : List TileRequest) :
    List.Forall₂ (fun (request : TileRequest) (performed : Performed Tile) => request.IsTile →
        performed.answer = tileOf (select request.place) ∨
          ∃ exception, performed.answer = .error exception ∧
            Excused outside select request.place performed.executions exception)
      requests ((machine outside).outputs create requests) := by
  refine Machine.forall₂_outputs (IsOpen select False) _ (fun cursor request known => ?_)
    (isOpen_create serves) requests
  obtain ⟨plain, usable, tracks⟩ := known
  obtain ⟨answer, next, available, kept⟩ :=
    answered_getTile serves False.elim request tracks usable
  refine ⟨fun isTile => ?_, next, available, kept.next⟩
  rw [← bindArgs_eq_place isTile]
  rcases answer with found | ⟨exception, thrown, -, reason⟩
  · exact .inl found
  · exact .inr ⟨exception, thrown, reason⟩

/-- A database with one tile, which it refuses to look for now and then. It is at zoom 3, in column
6, and in the second row from the other side. -/
def oneTile (refuses : Nat → Bool) (number : Nat) : Execution (List JString) where
  data := some fun _ => 170
  refused := refuses number
  steps bindArgs :=
    if bindArgs = [lit "3", lit "6", lit "1"] then [.row [.blob [1, 2, 3]]] else []

/-- The rows that it has for some arguments. -/
def selectTile (bindArgs : List JString) : List (List Field) :=
  if bindArgs = [lit "3", lit "6", lit "1"] then [[.blob [1, 2, 3]]] else []

theorem serves_oneTile (refuses : Nat → Bool) : Serves (oneTile refuses) 1 selectTile where
  narrow := by decide
  rows _ bindArgs := by
    simp only [oneTile, selectTile]
    split <;> rfl
  isRows _ bindArgs fields member := by
    simp only [oneTile] at member
    split at member
    · obtain rfl : fields = [.blob [1, 2, 3]] := by simpa using member
      simp [IsRow, Field.size]
    · cases member
  few _ bindArgs := by
    simp only [oneTile]
    split <;> simp

/-- A request for a tile that is not there, one that is refused, and one that finds its tile: of the
eight rows of zoom 3, the sixth one from above is the second one from below. -/
theorem tiles_after_refusal :
    let requests : List TileRequest := [⟨6, 1, 3⟩, ⟨6, 6, 3⟩, ⟨6, 6, 3⟩]
    let answers := (machine (oneTile (· = 1))).outputs create requests
    answers = [⟨.ok .noTile, [0]⟩, ⟨.error .refused, [1]⟩, ⟨.ok (.tile (some [1, 2, 3])), [2]⟩] ∧
      List.Forall₂ (fun (request : TileRequest) (performed : Performed Tile) => request.IsTile →
        performed.answer = tileOf (selectTile request.place) ∨
          ∃ exception, performed.answer = .error exception ∧
            Excused (oneTile (· = 1)) selectTile request.place performed.executions exception)
        requests answers :=
  ⟨by decide +kernel, tiles_after (serves_oneTile (· = 1)) _⟩

/-- Where nothing goes wrong outside and every row fits into a window, a request for a tile of the
map always finds the tile that is stored at its place. -/
theorem tiles_eq (serves : Serves outside 1 select) (faultless : Faultless outside select)
    (requests : List TileRequest) (areTiles : ∀ request ∈ requests, request.IsTile) :
    ((machine outside).outputs create requests).map Performed.answer =
      requests.map fun request => tileOf (select request.place) := by
  have step : ∀ cursor : SQLiteCursor (List JString), ∀ request, IsOpen select True cursor →
      tileOf (select request.bindArgs) = ((machine outside).step cursor request).2.answer ∧
        IsOpen select True ((machine outside).step cursor request).1 := by
    rintro cursor request ⟨plain, usable, tracks⟩
    obtain ⟨found | ⟨exception, -, excuse, -⟩, next, available, kept⟩ :=
      answered_getTile serves (fun _ => faultless) request tracks usable
    · exact ⟨found.symm, next, available, kept.next⟩
    · exact absurd trivial excuse
  have found := Machine.forall₂_outputs (IsOpen select True)
    (fun request (performed : Performed Tile) =>
      tileOf (select request.bindArgs) = performed.answer) step
    (isOpen_create serves) requests
  have places : requests.map (fun request => tileOf (select request.place)) =
      requests.map fun request => tileOf (select request.bindArgs) := by
    apply List.map_congr_left
    intro request member
    rw [bindArgs_eq_place (areTiles request member)]
  rw [places, eq_comm, ← List.forall₂_eq_eq_eq, List.forall₂_map_left_iff,
    List.forall₂_map_right_iff]
  exact found

theorem faultless_oneTile : Faultless (oneTile fun _ => false) selectTile where
  succeeds _ bindArgs := by
    refine ⟨?_, rfl, ?_, not_staysLocked_of_lt ?_⟩ <;> simp only [oneTile] <;> try split
    all_goals simp
  fits bindArgs fields member := by
    simp only [selectTile] at member
    split at member
    · obtain rfl : fields = [.blob [1, 2, 3]] := by simpa using member
      simp only [Fits]
      decide
    · cases member

theorem tiles_eq_requests :
    ((machine (oneTile fun _ => false)).outputs create [⟨6, 1, 3⟩, ⟨6, 6, 3⟩]).map
      Performed.answer = [.ok .noTile, .ok (.tile (some [1, 2, 3]))] := by
  have areTiles : ∀ request ∈ ([⟨6, 1, 3⟩, ⟨6, 6, 3⟩] : List TileRequest), request.IsTile := by
    intro request member
    have either : request = ⟨6, 1, 3⟩ ∨ request = ⟨6, 6, 3⟩ := by simpa using member
    rcases either with rfl | rfl <;> exact ⟨by decide, by decide⟩
  exact (tiles_eq (serves_oneTile fun _ => false) faultless_oneTile _ areTiles).trans (by decide)

end MapBoxOfflineTileProvider

end Openpyn.Map
