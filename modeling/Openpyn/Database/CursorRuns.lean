import Openpyn.Database.CursorRows
import Openpyn.Java.Integer

/-!
# Runs of a cursor

Whatever is asked of a cursor, its answers are those of a position among the rows of its query, or
it throws for one of the reasons of `RowCursor.Interrupts`. Where nothing goes wrong it never does,
although its window holds only a part of the rows. The offline tiles of a map are read through such
a cursor. The reads are those that check the position: the field that `getString`, `getLong` and
the other getters begin with, and `getBlob`.
-/

namespace Openpyn.Database

open Openpyn.Foundation Openpyn.Foundation.Effect

/-- What is asked of a cursor. `requery` comes with the arguments that are bound before it. -/
inductive CursorCall (β : Type) where
  | getCount
  | moveToPosition (position : Int)
  | move (offset : Int)
  | moveToFirst
  | moveToLast
  | moveToNext
  | moveToPrevious
  | getField (column : Nat)
  | getBlob (column : Nat)
  | requery (bindArgs : β)
  | deactivate
  | close
  | closeDatabase

inductive CursorAnswer where
  | count (count : Int)
  | moved (onRow : Bool)
  | field (field : Field)
  | blob (blob : Option (List UInt8))
  | requeried (available : Bool)
  | done
  deriving DecidableEq, Repr

/-- What a call comes to: its answer, and the numbers of the executions that were made for it. -/
structure Performed (α : Type) where
  answer : Except CursorException α
  executions : List Nat
  deriving DecidableEq

/-- The column that is read. -/
def CursorCall.read {β : Type} : CursorCall β → Option Nat
  | .getField column | .getBlob column => some column
  | _ => none

/-- A call that leaves the window to the cursor, and reads one of the columns. -/
def CursorCall.Lasts {β : Type} (numColumns : Nat) : CursorCall β → Prop
  | .getField column | .getBlob column => column < numColumns
  | .deactivate | .close | .closeDatabase => False
  | _ => True

section Performing

variable {β : Type} (outside : Nat → Execution β) (numColumns : Nat)
  (select : β → List (List Field))

def SQLiteCursor.perform : CursorCall β → CursorMethod β CursorAnswer
  | .getCount => do pure (.count (← getCount outside numColumns))
  | .moveToPosition position => do
      pure (.moved (← moveToPosition outside numColumns position))
  | .move offset => do pure (.moved (← move outside numColumns offset))
  | .moveToFirst => do pure (.moved (← moveToFirst outside numColumns))
  | .moveToLast => do pure (.moved (← moveToLast outside numColumns))
  | .moveToNext => do pure (.moved (← moveToNext outside numColumns))
  | .moveToPrevious => do pure (.moved (← moveToPrevious outside numColumns))
  | .getField column => do pure (.field (← getField outside numColumns column))
  | .getBlob column => do pure (.blob (← getBlob outside numColumns column))
  | .requery bindArgs => do
      bindAllArgs bindArgs
      pure (.requeried (← requery))
  | .deactivate => do
      deactivate
      pure .done
  | .close => do
      close
      pure .done
  | .closeDatabase => do
      closeDatabase
      pure .done

/-- The answers that a position among rows gives. -/
def RowCursor.perform : CursorCall β → RowMethod β CursorAnswer
  | .getCount => do pure (.count (← getCount))
  | .moveToPosition position => do pure (.moved (← moveToPosition position))
  | .move offset => do pure (.moved (← move offset))
  | .moveToFirst => do pure (.moved (← moveToPosition 0))
  | .moveToLast => do pure (.moved (← moveToLast))
  | .moveToNext => do pure (.moved (← move 1))
  | .moveToPrevious => do pure (.moved (← move (-1)))
  | .getField column => do pure (.field (← getField column))
  | .getBlob column => do pure (.blob (← getBlob column))
  | .requery bindArgs => do
      let available ← reading (·.available)
      when available (changing fun _ => { bindArgs := bindArgs, rows := select bindArgs })
      pure (.requeried available)
  | .deactivate => do
      changing fun cursor => { cursor with lost := true }
      pure .done
  | .close => do
      changing fun cursor => { cursor with available := false, lost := true }
      pure .done
  | .closeDatabase => do
      changing fun cursor => { cursor with available := false }
      pure .done

/-- What a method of a cursor comes to. -/
def SQLiteCursor.performing {α : Type} (method : CursorMethod β α) (cursor : SQLiteCursor β) :
    SQLiteCursor β × Performed α :=
  let ended := method.run cursor
  (ended.2, ⟨ended.1, List.range' cursor.fills (ended.2.fills - cursor.fills)⟩)

/-- A cursor that answers one call after the other. -/
def SQLiteCursor.machine : Machine (SQLiteCursor β) (CursorCall β) (Performed CursorAnswer) where
  step cursor call := performing (SQLiteCursor.perform outside numColumns call) cursor

def RowCursor.machine :
    Machine (RowCursor β) (CursorCall β) (Except CursorException CursorAnswer) where
  step cursor call :=
    let ended := (RowCursor.perform select call).run cursor
    (ended.2, ended.1)

/-- What may come of a call: the answer that the position among the rows gives, or an exception
for a reason. -/
def RowCursor.Step (plain : RowCursor β) (call : CursorCall β) (performed : Performed CursorAnswer)
    (next : RowCursor β) : Prop :=
  performed.answer = ((RowCursor.machine select).step plain call).2 ∧
      next = ((RowCursor.machine select).step plain call).1 ∨
    ∃ exception, performed.answer = .error exception ∧
      plain.Interrupts outside performed.executions call.read exception next

end Performing

namespace SQLiteCursor

variable {β : Type} {outside : Nat → Execution β} {numColumns : Nat}
  {select : β → List (List Field)} {cursor : SQLiteCursor β} {plain : RowCursor β} {live : Prop}
  {least : Nat} {read : Option Nat}

def create (bindArgs : β) : SQLiteCursor β := { bindArgs := bindArgs }

theorem tracks_create (serves : Serves outside numColumns select) (bindArgs : β) :
    Tracks select live 0 (create bindArgs) { bindArgs := bindArgs, rows := select bindArgs } where
  sound := {
    shows := fun window present => absurd present (by simp [create])
    counted := .inl rfl
    position := rfl
    range := by
      simp only
      omega
    capacity := Int.le_refl 0
    available := rfl
    bound := fun _ => rfl
    rows := rfl
    few := serves.length_select_lt bindArgs }
  made := Nat.zero_le _
  unmoved _ _ := rfl
  shown _ on := by simp [RowCursor.onRow] at on
  ready _ := ⟨rfl, rfl⟩

theorem follows_move (serves : Serves outside numColumns select)
    (faultless : live → Faultless outside select) (offset : Int) :
    Follows (Tracks select live least) (Excuse outside live least read)
      (move outside numColumns offset) (RowCursor.move offset) :=
  (follows_reading fun _ _ tracks => tracks.sound.position).bind (fun _ => rfl) fun position =>
    follows_moveToPosition serves faultless ((position + offset).bmod (2 ^ 32))

theorem follows_moveToLast (serves : Serves outside numColumns select)
    (faultless : live → Faultless outside select) :
    Follows (Tracks select live least) (Excuse outside live least read)
      (moveToLast outside numColumns) RowCursor.moveToLast :=
  (follows_getCount serves faultless).bind (fun _ => rfl) fun count =>
    follows_moveToPosition serves faultless (count - 1)

theorem follows_getBlob (serves : Serves outside numColumns select)
    (faultless : live → Faultless outside select) {column : Nat}
    (narrow : live → column < numColumns) :
    Follows (Tracks select live least) (Excuse outside live least (some column))
      (getBlob outside numColumns column) (RowCursor.getBlob column) :=
  (follows_getField serves faultless narrow).bind (fun plain => plain.run_getField column)
    follows_blobOf

theorem follows_requery (serves : Serves outside numColumns select) (bindArgs : β) :
    Follows (Tracks select live least) (Excuse outside live least read)
      (perform outside numColumns (.requery bindArgs))
      (RowCursor.perform select (.requery bindArgs)) := by
  intro cursor plain tracks
  have same := tracks.sound.available
  simp only [perform, RowCursor.perform, bindAllArgs, run_changing_bind, run_reading_bind]
  cases usable : cursor.available with
  | true =>
      have still : SQLiteCursor.available { cursor with bindArgs := bindArgs } = true := usable
      rw [← same, usable, when_true, run_changing_bind,
        run_bind_of_ok (run_requery_of_available still)]
      exact .inl ⟨rfl, tracks.requeried serves usable bindArgs⟩
  | false =>
      have still : SQLiteCursor.available { cursor with bindArgs := bindArgs } = false := usable
      rw [← same, usable, when_false, run_pure_bind,
        run_bind_of_ok (run_requery_of_unavailable still)]
      exact .inl ⟨rfl, tracks.bound usable bindArgs⟩

/-- One call, whatever it is. -/
theorem follows_perform (serves : Serves outside numColumns select)
    (faultless : live → Faultless outside select) (call : CursorCall β)
    (lasts : live → call.Lasts numColumns) :
    Follows (Tracks select live least) (Excuse outside live least call.read)
      (perform outside numColumns call) (RowCursor.perform select call) := by
  cases call with
  | getCount => exact (follows_getCount serves faultless).map CursorAnswer.count
  | moveToPosition position =>
      exact (follows_moveToPosition serves faultless position).map CursorAnswer.moved
  | move offset => exact (follows_move serves faultless offset).map CursorAnswer.moved
  | moveToFirst => exact (follows_moveToPosition serves faultless 0).map CursorAnswer.moved
  | moveToLast => exact (follows_moveToLast serves faultless).map CursorAnswer.moved
  | moveToNext => exact (follows_move serves faultless 1).map CursorAnswer.moved
  | moveToPrevious => exact (follows_move serves faultless (-1)).map CursorAnswer.moved
  | getField column => exact (follows_getField serves faultless lasts).map CursorAnswer.field
  | getBlob column => exact (follows_getBlob serves faultless lasts).map CursorAnswer.blob
  | requery bindArgs => exact follows_requery serves bindArgs
  | deactivate =>
      intro cursor plain tracks
      have kept : Tracks select live least { cursor with mWindow := none }
          { plain with available := cursor.available, lost := true } :=
        tracks.closed lasts (.inl ⟨rfl, rfl⟩) id
      rw [tracks.sound.available] at kept
      exact .inl ⟨rfl, kept⟩
  | close =>
      intro cursor plain tracks
      have kept : Tracks select live least { cursor with mClosed := true, mWindow := none }
          { plain with available := false, lost := true } :=
        tracks.closed lasts (.inl ⟨rfl, rfl⟩) fun usable => absurd usable Bool.false_ne_true
      exact .inl ⟨rfl, kept⟩
  | closeDatabase =>
      intro cursor plain tracks
      have never : (!cursor.mClosed && false) = false := Bool.and_false _
      have kept : Tracks select live least { cursor with isOpen := false }
          { plain with available := !cursor.mClosed && false } :=
        tracks.closed lasts (.inr ⟨rfl, rfl⟩)
          fun usable => absurd (usable.symm.trans never) (by simp)
      rw [never] at kept
      exact .inl ⟨rfl, kept⟩

/-- The next call begins after the fills of the one before. -/
theorem Tracks.next (tracks : Tracks select live least cursor plain) :
    Tracks select live cursor.fills cursor plain :=
  { tracks with made := Nat.le_refl _ }

/-! ## Whole runs -/

/-- Whatever goes wrong outside and whenever, a cursor answers each call as the position among the
rows does that the answered calls lead to. Or the call throws, because one of its own executions
fails, the query is closed, the row it reads has been lost or is too large, or has no such column.
The position stays. -/
theorem answers_after (serves : Serves outside numColumns select) (bindArgs : β)
    (calls : List (CursorCall β)) :
    Machine.Admits (RowCursor.Step outside select)
      { bindArgs := bindArgs, rows := select bindArgs } calls
      ((machine outside numColumns).outputs (create bindArgs) calls) := by
  refine Machine.admits_outputs (fun cursor => Tracks select False cursor.fills cursor) calls
    (fun cursor plain call _ tracks => ?_) (tracks_create serves bindArgs)
  rcases follows_perform serves False.elim call False.elim cursor plain tracks with
    ⟨same, kept⟩ | ⟨exception, next, thrown, excuse, kept⟩
  · exact ⟨_, .inl ⟨same, rfl⟩, kept.next⟩
  · exact ⟨next, .inr ⟨exception, thrown, excuse.2⟩, kept.next⟩

/-- A query of two rows, which the database refuses to execute now and then. -/
def twoRows (refuses : Nat → Bool) (number : Nat) : Execution Unit where
  data := some fun _ => 170
  refused := refuses number
  steps _ := [.row [.integer 7], .busy, .row [.integer 8]]

theorem serves_twoRows (refuses : Nat → Bool) :
    Serves (twoRows refuses) 1 fun _ => [[.integer 7], [.integer 8]] where
  narrow := by decide
  rows _ _ := rfl
  isRows number bindArgs fields member := by
    have row : fields = [.integer 7] ∨ fields = [.integer 8] := by simpa [twoRows] using member
    rcases row with rfl | rfl <;> simp [IsRow, Field.size]
  few _ _ := by simp [twoRows]

/-- The first fill is refused, and the next one is not. Then the window is let go: the row is lost
until the cursor is moved. -/
theorem answers_after_refusal :
    let calls : List (CursorCall Unit) := [.moveToLast, .moveToLast, .getField 0, .deactivate,
      .getField 0, .moveToFirst, .getField 0]
    let outputs := (machine (twoRows (· = 0)) 1).outputs (create ()) calls
    outputs = [⟨.error .refused, [0]⟩, ⟨.ok (.moved true), [1]⟩, ⟨.ok (.field (.integer 8)), []⟩,
        ⟨.ok .done, []⟩, ⟨.error .staleData, []⟩, ⟨.ok (.moved true), [2]⟩,
        ⟨.ok (.field (.integer 7)), []⟩] ∧
      Machine.Admits (RowCursor.Step (twoRows (· = 0)) fun _ => [[.integer 7], [.integer 8]])
        { bindArgs := (), rows := [[.integer 7], [.integer 8]] } calls outputs :=
  ⟨by decide +kernel, answers_after (serves_twoRows (· = 0)) () _⟩

/-- Where nothing goes wrong outside and every row fits into a window, a cursor that is not closed
answers any calls as the position among the rows does, whatever its window holds. -/
theorem answers_eq (serves : Serves outside numColumns select)
    (faultless : Faultless outside select) (bindArgs : β) (calls : List (CursorCall β))
    (lasts : ∀ call ∈ calls, call.Lasts numColumns) :
    ((machine outside numColumns).outputs (create bindArgs) calls).map Performed.answer =
      (RowCursor.machine select).outputs { bindArgs := bindArgs, rows := select bindArgs }
        calls := by
  refine Machine.map_outputs_eq (fun cursor => Tracks select True cursor.fills cursor) calls
    (fun cursor plain call member tracks => ?_) (tracks_create serves bindArgs)
  rcases follows_perform serves (fun _ => faultless) call (fun _ => lasts call member)
    cursor plain tracks with ⟨same, kept⟩ | ⟨exception, next, -, excuse, -⟩
  · exact ⟨same, kept.next⟩
  · exact absurd trivial excuse.1

theorem faultless_twoRows :
    Faultless (twoRows fun _ => false) fun _ => [[.integer 7], [.integer 8]] where
  succeeds _ _ := by
    refine ⟨?_, rfl, ?_, not_staysLocked_of_lt ?_⟩ <;> simp [twoRows]
  fits _ fields member := by
    have row : fields = [.integer 7] ∨ fields = [.integer 8] := by simpa using member
    rcases row with rfl | rfl <;> simp only [Fits] <;> decide

/-- A cursor that is moved over its rows, behind the last one and back. -/
theorem answers_eq_moves :
    ((machine (twoRows fun _ => false) 1).outputs (create ())
      [.moveToNext, .getField 0, .moveToNext, .moveToNext, .moveToPrevious, .getField 0]).map
        Performed.answer =
      [.ok (.moved true), .ok (.field (.integer 7)), .ok (.moved true), .ok (.moved false),
        .ok (.moved true), .ok (.field (.integer 8))] :=
  (answers_eq (serves_twoRows fun _ => false) faultless_twoRows ()
    [.moveToNext, .getField 0, .moveToNext, .moveToNext, .moveToPrevious, .getField 0]
    (by simp [CursorCall.Lasts])).trans (by decide)

end SQLiteCursor

end Openpyn.Database
