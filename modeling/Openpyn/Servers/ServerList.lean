import Openpyn.Foundation.Machine
import Openpyn.Foundation.Overwrite

/-!
# The file of the server list

The server list lives in one file. A launch copies the bundled list there if the file does
not exist and reads it back, and a refresh writes what the server sent over it. JSON is
the platform's: its texts are read back, and none of them is read when it is cut.
The logs and the progress bar are left out.
-/

namespace Openpyn.Servers

open Foundation

/-- `JSONArray`: the parser and `toString`, also with a number of spaces to indent by. -/
structure JsonFormat (α : Type) where
  parse : List UInt8 → Option (List α)
  toString : Option Nat → List α → List UInt8
  uncuttable : ∀ indentSpaces list, Uncuttable parse (toString indentSpaces list) list

/-- What a build brings along: the flag `BuildConfig.DEBUG`, the order of `sortJsonArray`
and the resource `R.raw.nordvpn` with the list in it. -/
structure Build (α : Type) where
  debug : Bool
  json : JsonFormat α
  compareBy : α → α → Bool
  nordvpn : List UInt8
  bundled : List α
  bundled_ne_nil : bundled ≠ []
  uncuttable_nordvpn : Uncuttable json.parse nordvpn bundled

/-- What `createJson` returns when it returns an array. -/
abbrev ServerArray (α : Type) := {jsonArray : List α // jsonArray ≠ []}

namespace Build

variable {α : Type} (build : Build α)

/-- `sortJsonArray`. -/
def sortJsonArray (jsonArray : List α) : List α := jsonArray.mergeSort build.compareBy

/-- `stringifyJsonArray`. -/
def stringifyJsonArray (jsonArray : List α) : List UInt8 :=
  build.json.toString (some 2) (build.sortJsonArray jsonArray)

/-- The list that a refresh writes. -/
def refreshList (jsonArray : List α) : List α :=
  if build.debug then build.sortJsonArray jsonArray else jsonArray

/-- The text that a refresh writes. -/
def refreshJson (jsonArray : List α) : List UInt8 :=
  if build.debug then build.stringifyJsonArray jsonArray else build.json.toString none jsonArray

/-- `createJsonArray`: the file it leaves and the list it returns. An exception is logged
and answered with the empty array. -/
def createJsonArray (file : Option (List UInt8)) (copy : WriteEnd) (readable : Bool) :
    Option (List UInt8) × List α :=
  let copied := if file.isSome then file else overwrite build.nordvpn none copy
  let ready := (file.isSome || copy = .finished) && readable
  (copied, if ready then (copied.bind build.json.parse).getD [] else [])

/-- `onRefreshItemSelected`: the file it leaves and whether an exception was thrown, which
is also what it says if there is no list. -/
def onRefreshItemSelected (file : Option (List UInt8)) (isOnline : Bool)
    (createJson : Option (ServerArray α)) (write : WriteEnd) : Option (List UInt8) × Bool :=
  match if isOnline then createJson else none with
  | none => (file, true)
  | some jsonArray => (overwrite (build.refreshJson jsonArray) file write, write ≠ .finished)

end Build

/-- What happens to the file. The writes end as they do, and a launch may be unable to
read. -/
inductive ListEvent (α : Type) where
  | createJsonArray (copy : WriteEnd) (readable : Bool)
  | onRefreshItemSelected (isOnline : Bool) (createJson : Option (ServerArray α))
      (write : WriteEnd)

/-- What a launch or a refresh answers. -/
inductive ListReply (α : Type) where
  | loaded (jsonArray : List α)
  | refreshed (thrown : Bool)

/-- One launch or refresh after another. The file may not exist. -/
def listMachine {α : Type} (build : Build α) :
    Machine (Option (List UInt8)) (ListEvent α) (ListReply α) where
  step file
    | .createJsonArray copy readable =>
        let (copied, list) := build.createJsonArray file copy readable
        (copied, .loaded list)
    | .onRefreshItemSelected isOnline createJson write =>
        let (written, thrown) := build.onRefreshItemSelected file isOnline createJson write
        (written, .refreshed thrown)

namespace Build

variable {α : Type} {build : Build α}

theorem refreshList_ne_nil (jsonArray : ServerArray α) : build.refreshList jsonArray ≠ [] := by
  unfold refreshList sortJsonArray
  split
  · have sorted : (jsonArray.val.mergeSort build.compareBy).length = jsonArray.val.length :=
      List.length_mergeSort _
    intro empty
    rw [empty] at sorted
    exact jsonArray.property (List.eq_nil_of_length_eq_zero sorted.symm)
  · exact jsonArray.property

/-- A refresh writes its list, in a text that is not read when it is cut. -/
theorem uncuttable_refreshJson (jsonArray : List α) :
    Uncuttable build.json.parse (build.refreshJson jsonArray) (build.refreshList jsonArray) := by
  unfold refreshJson refreshList stringifyJsonArray
  split
  · exact build.json.uncuttable _ _
  · exact build.json.uncuttable _ _

@[simp] theorem createJsonArray_some (text : List UInt8) (copy : WriteEnd) (readable : Bool) :
    build.createJsonArray (some text) copy readable =
      (some text, if readable then (build.json.parse text).getD [] else []) := by
  simp [createJsonArray]

/-- With no file, the launch restores the bundled list. -/
@[simp] theorem createJsonArray_none_finished :
    build.createJsonArray none .finished true = (some build.nordvpn, build.bundled) := by
  simp [createJsonArray, overwrite, build.uncuttable_nordvpn.whole]

end Build
end Openpyn.Servers
