import Openpyn.Foundation.Since
import Openpyn.Servers.ServerList

/-!
# Interrupted writes

A launch restores the bundled list only if there is no file, so a write that stops early
leaves a file that every later launch reads and rejects. The launches load a whole list
exactly when every write that opens the file gets all of its data into it.
-/

namespace Openpyn.Servers

open Foundation

variable {α : Type}

/-- The list that a finished refresh has written. -/
def ListEvent.finishedList (build : Build α) : ListEvent α → Option (List α)
  | .onRefreshItemSelected true (some jsonArray) .finished => some (build.refreshList jsonArray)
  | _ => none

/-- The bundled list, or the list of a refresh that has finished. -/
def Complete (build : Build α) (past : List (ListEvent α)) (list : List α) : Prop :=
  list = build.bundled ∨ ∃ event ∈ past, event.finishedList build = some list

/-- The file after the past, which began without one. -/
def fileAfter (build : Build α) (past : List (ListEvent α)) : Option (List UInt8) :=
  (listMachine build).after none past

/-- A launch that can write and read returns a complete list. -/
def LoadsComplete (build : Build α) (past : List (ListEvent α)) : Prop :=
  Complete build past (build.createJsonArray (fileAfter build past) .finished true).2

/-- A write that stops gets all of its data into the file, and the list of a refresh that
stops is complete already. -/
def StopsComplete (build : Build α) (past : List (ListEvent α)) : ListEvent α → Prop
  | .createJsonArray (.stopped written) _ =>
      fileAfter build past = none → build.nordvpn.length ≤ written
  | .onRefreshItemSelected true (some jsonArray) (.stopped written) =>
      (build.refreshJson jsonArray).length ≤ written ∧
        Complete build past (build.refreshList jsonArray)
  | _ => True

/-! ## Complete lists -/

section Lists

variable {build : Build α} {past : List (ListEvent α)}

@[simp] theorem complete_bundled : Complete build past build.bundled := .inl rfl

theorem complete_concat {event : ListEvent α} {list : List α} :
    Complete build (past ++ [event]) list ↔
      Complete build past list ∨ event.finishedList build = some list := by
  simp [Complete, or_and_right, exists_or, or_assoc]

/-- An event that finishes no refresh completes no list. -/
theorem complete_concat_of_none {event : ListEvent α} (none : event.finishedList build = none)
    {list : List α} : Complete build (past ++ [event]) list ↔ Complete build past list := by
  simp [complete_concat, none]

/-- The empty array is never complete. -/
theorem not_complete_nil : ¬Complete build past [] := by
  rintro (bundled | ⟨event, -, finished⟩)
  · exact build.bundled_ne_nil bundled.symm
  · unfold ListEvent.finishedList at finished
    split at finished
    · exact Build.refreshList_ne_nil _ (Option.some.inj finished)
    · cases finished

end Lists

/-! ## What a launch finds -/

section Files

variable {build : Build α} {past : List (ListEvent α)}

@[simp] theorem fileAfter_concat (event : ListEvent α) :
    fileAfter build (past ++ [event]) =
      ((listMachine build).step (fileAfter build past) event).1 := by
  simp [fileAfter]

theorem loadsComplete_of_none (absent : fileAfter build past = none) :
    LoadsComplete build past := by
  simp [LoadsComplete, absent]

/-- The list of the whole data is loaded if all of them are in the file. -/
theorem loadsComplete_iff_of_take {data : List UInt8} {list : List α}
    (uncuttable : Uncuttable build.json.parse data list) {written : Nat}
    (cut : fileAfter build past = some (data.take written)) :
    LoadsComplete build past ↔ data.length ≤ written ∧ Complete build past list := by
  rw [LoadsComplete, cut, Build.createJsonArray_some, uncuttable.decode_take]
  by_cases whole : data.length ≤ written
  · simp [whole]
  · simp [whole, not_complete_nil]

theorem loadsComplete_iff_of_whole {data : List UInt8} {list : List α}
    (uncuttable : Uncuttable build.json.parse data list) (here : fileAfter build past = some data) :
    LoadsComplete build past ↔ Complete build past list := by
  have cut : fileAfter build past = some (data.take data.length) := by
    rw [List.take_length, here]
  simp [loadsComplete_iff_of_take uncuttable cut]

/-- An event that leaves the file and finishes no refresh. -/
theorem loadsComplete_concat_of_same {event : ListEvent α}
    (same : fileAfter build (past ++ [event]) = fileAfter build past)
    (none : event.finishedList build = none) :
    LoadsComplete build (past ++ [event]) ↔ LoadsComplete build past := by
  rw [LoadsComplete, same, complete_concat_of_none none]
  exact Iff.rfl

end Files

/-! ## Steps and runs -/

section Steps

variable {build : Build α} {past : List (ListEvent α)}

/-- A launch keeps the file that it finds, and copies the bundled list otherwise. -/
theorem loads_createJsonArray_iff (loads : LoadsComplete build past) (copy : WriteEnd)
    (readable : Bool) :
    LoadsComplete build (past ++ [.createJsonArray copy readable]) ↔
      StopsComplete build past (.createJsonArray copy readable) := by
  cases file : fileAfter build past with
  | some text =>
      have same : fileAfter build (past ++ [.createJsonArray copy readable]) =
          fileAfter build past := by
        simp [listMachine, file]
      rw [loadsComplete_concat_of_same same rfl]
      refine iff_of_true loads ?_
      cases copy with
      | stopped written => exact fun absent => absurd (file.symm.trans absent) (by simp)
      | notOpened => trivial
      | finished => trivial
  | none =>
      have copied : fileAfter build (past ++ [.createJsonArray copy readable]) =
          overwrite build.nordvpn none copy := by
        simp [listMachine, Build.createJsonArray, file]
      cases copy with
      | notOpened => exact iff_of_true (loadsComplete_of_none copied) trivial
      | stopped written =>
          rw [loadsComplete_iff_of_take build.uncuttable_nordvpn copied]
          simp [StopsComplete, file]
      | finished =>
          rw [loadsComplete_iff_of_whole build.uncuttable_nordvpn copied]
          exact iff_of_true complete_bundled trivial

/-- A refresh writes its list over the file. -/
theorem loads_refresh_iff (loads : LoadsComplete build past) (jsonArray : ServerArray α)
    (write : WriteEnd) :
    LoadsComplete build (past ++ [.onRefreshItemSelected true (some jsonArray) write]) ↔
      StopsComplete build past (.onRefreshItemSelected true (some jsonArray) write) := by
  have written : fileAfter build (past ++ [.onRefreshItemSelected true (some jsonArray) write]) =
      overwrite (build.refreshJson jsonArray) (fileAfter build past) write := by
    simp [listMachine, Build.onRefreshItemSelected]
  have uncuttable := build.uncuttable_refreshJson (jsonArray : List α)
  cases write with
  | notOpened =>
      rw [loadsComplete_concat_of_same written rfl]
      exact iff_of_true loads trivial
  | stopped count =>
      rw [loadsComplete_iff_of_take uncuttable written, complete_concat_of_none rfl]
      exact Iff.rfl
  | finished =>
      rw [loadsComplete_iff_of_whole uncuttable written, complete_concat]
      exact iff_of_true (.inr rfl) trivial

/-- After a past from which a complete list is loaded, one is loaded after one more event
exactly when the event does not stop early. -/
theorem loads_step_iff (loads : LoadsComplete build past) (event : ListEvent α) :
    LoadsComplete build (past ++ [event]) ↔ StopsComplete build past event := by
  cases event with
  | createJsonArray copy readable => exact loads_createJsonArray_iff loads copy readable
  | onRefreshItemSelected isOnline createJson write =>
      cases isOnline with
      | false =>
          have same : fileAfter build (past ++ [.onRefreshItemSelected false createJson write]) =
              fileAfter build past := by
            simp [listMachine, Build.onRefreshItemSelected]
          rw [loadsComplete_concat_of_same same rfl]
          exact iff_of_true loads trivial
      | true =>
          cases createJson with
          | none =>
              have same : fileAfter build (past ++ [.onRefreshItemSelected true none write]) =
                  fileAfter build past := by
                simp [listMachine, Build.onRefreshItemSelected]
              rw [loadsComplete_concat_of_same same rfl]
              exact iff_of_true loads trivial
          | some jsonArray => exact loads_refresh_iff loads jsonArray write

end Steps

/-- In every history of launches and refreshes, later launches load complete lists exactly
when no write that opens the file stops early. -/
theorem loadsComplete_iff (build : Build α) (inputs : List (ListEvent α)) :
    Throughout (LoadsComplete build) inputs ↔ Always (StopsComplete build) inputs := by
  induction inputs using List.reverseRecOn with
  | nil => simpa [throughout_nil] using loadsComplete_of_none rfl
  | append_singleton past event inductionHypothesis =>
      rw [throughout_concat, always_concat, ← inductionHypothesis]
      apply and_congr_right
      intro loads
      exact loads_step_iff loads.last event

/-! ## Arrays of digits -/

section Digits

def digitByte (digit : Fin 10) : UInt8 := 48 + digit.val.toUInt8

def byteDigit (byte : UInt8) : Option (Fin 10) :=
  (List.finRange 10).find? fun digit => digitByte digit = byte

/-- What stands before each element. -/
def lineBreak : Option Nat → List UInt8
  | none => []
  | some indentSpaces => 10 :: List.replicate indentSpaces 32

def digitEntries (indentSpaces : Option Nat) : List (Fin 10) → List UInt8
  | [] => []
  | [digit] => lineBreak indentSpaces ++ [digitByte digit]
  | digit :: next :: rest =>
      lineBreak indentSpaces ++ [digitByte digit, 44] ++ digitEntries indentSpaces (next :: rest)

def digitArray (indentSpaces : Option Nat) : List (Fin 10) → List UInt8
  | [] => [91]
  | list => 91 :: digitEntries indentSpaces list ++ lineBreak (indentSpaces.map fun _ => 0)

def parseDigits (text : List UInt8) : Option (List (Fin 10)) :=
  if text.head? = some 91 ∧ text.getLast? = some 93 then some (text.filterMap byteDigit) else none

theorem byteDigit_digitByte (digit : Fin 10) : byteDigit (digitByte digit) = some digit := by
  revert digit
  decide

theorem digitByte_ne_close (digit : Fin 10) : 93 ≠ digitByte digit := by
  revert digit
  decide

theorem filterMap_lineBreak (indentSpaces : Option Nat) :
    (lineBreak indentSpaces).filterMap byteDigit = [] := by
  have newline : byteDigit 10 = none := by decide
  have space : byteDigit 32 = none := by decide
  cases indentSpaces with
  | none => rfl
  | some count => simp [lineBreak, newline, space]

theorem close_not_mem_lineBreak (indentSpaces : Option Nat) : 93 ∉ lineBreak indentSpaces := by
  cases indentSpaces with
  | none => simp [lineBreak]
  | some count => simp [lineBreak]

theorem filterMap_digitEntries (indentSpaces : Option Nat) (list : List (Fin 10)) :
    (digitEntries indentSpaces list).filterMap byteDigit = list := by
  have comma : byteDigit 44 = none := by decide
  induction list using digitEntries.induct with
  | case1 => rfl
  | case2 digit => simp [digitEntries, filterMap_lineBreak, byteDigit_digitByte]
  | case3 digit next rest inductionHypothesis =>
      simp [digitEntries, filterMap_lineBreak, byteDigit_digitByte, comma, inductionHypothesis]

theorem close_not_mem_digitEntries (indentSpaces : Option Nat) (list : List (Fin 10)) :
    93 ∉ digitEntries indentSpaces list := by
  induction list using digitEntries.induct with
  | case1 => simp [digitEntries]
  | case2 digit => simp [digitEntries, close_not_mem_lineBreak, digitByte_ne_close]
  | case3 digit next rest inductionHypothesis =>
      simp [digitEntries, close_not_mem_lineBreak, digitByte_ne_close, inductionHypothesis]

theorem parseDigits_digitArray (indentSpaces : Option Nat) (list : List (Fin 10)) :
    parseDigits (digitArray indentSpaces list ++ [93]) = some list := by
  have opening : byteDigit 91 = none := by decide
  have closing : byteDigit 93 = none := by decide
  have last : (digitArray indentSpaces list ++ [93]).getLast? = some 93 := List.getLast?_concat
  rw [parseDigits, last]
  cases list with
  | nil => simp [digitArray, opening, closing]
  | cons digit rest =>
      simp [digitArray, filterMap_digitEntries, filterMap_lineBreak, opening, closing]

/-- The texts of arrays of digits. -/
def digitFormat : JsonFormat (Fin 10) where
  parse := parseDigits
  toString indentSpaces list := digitArray indentSpaces list ++ [93]
  uncuttable := by
    intro indentSpaces list
    refine .of_getLast (parseDigits_digitArray indentSpaces list) ?_ ?_
    · cases list with
      | nil => simp [digitArray]
      | cons digit rest =>
          simp [digitArray, close_not_mem_digitEntries, close_not_mem_lineBreak]
    · intro data accepted
      unfold parseDigits at accepted
      split at accepted
      · rename_i marks
        exact marks.2
      · cases accepted

/-- A build whose bundled list is `[1,2]`. -/
def digitBuild : Build (Fin 10) where
  debug := false
  json := digitFormat
  compareBy first second := first ≤ second
  nordvpn := digitFormat.toString none [1, 2]
  bundled := [1, 2]
  bundled_ne_nil := by simp
  uncuttable_nordvpn := digitFormat.uncuttable none [1, 2]

/-- A refresh that finishes, after a first launch that could not read. -/
theorem loadsComplete_digits : Throughout (LoadsComplete digitBuild)
    [.createJsonArray .finished false,
      .onRefreshItemSelected true (some ⟨[3], by simp⟩) .finished] :=
  (loadsComplete_iff digitBuild _).mpr (by simp [StopsComplete])

/-- After a first copy that stopped at once, every launch answers with the empty array. -/
theorem createJsonArray_rejects_cut :
    ¬∀ inputs, Throughout (LoadsComplete digitBuild) inputs := by
  intro loads
  exact not_complete_nil (loads [.createJsonArray (.stopped 0) true]).last

end Digits

end Openpyn.Servers
