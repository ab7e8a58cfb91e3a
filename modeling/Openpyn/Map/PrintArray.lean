import Openpyn.Foundation.Delimited
import Openpyn.Java.CaseMapping
import Openpyn.Java.Integer

/-!
# Lists in the preferences

A list of numbers or of booleans is stored as one text, its items joined by a
delimiter of three characters. The empty list has no text of its own: its text is
that of one empty item. The dialog that changes the list keeps the items it offers and those that
are checked. Its hint and its titles are left out.
-/

namespace Openpyn.Map

open Foundation Java

/-- A country as the dialog lists it. Only `MultiSelectModelExtra` has a tag. -/
inductive MultiSelectable where
  | multiSelectModel (id : Int32)
  | multiSelectModelExtra (id : Int32) (tag : JString)
deriving DecidableEq

def MultiSelectable.id : MultiSelectable → Int32
  | .multiSelectModel id => id
  | .multiSelectModelExtra id _ => id

/-- The fields of the object `PrintArray`, unset until the first call of the setters. -/
structure PrintArray where
  itemsList : List MultiSelectable
  checkedItemsList : List Int32
deriving DecidableEq

namespace PrintArray

/-- `delimiter`. -/
def delimiter : JString := lit "‚‗‚"

/-- `Iterable.joinToString(separator = delimiter)` of numbers. -/
def joinToString (intList : List Int32) : JString :=
  delimiter.intercalate (intList.map fun number => toText number.toInt)

/-- `putListInt`: the text that is stored. -/
def putListInt (intList : List Int32) : JString := joinToString intList

/-- `String.toInt()`. -/
def toInt (text : JString) : Except Throwable Int32 := (parseInt text).map Int32.ofInt

/-- `getListInt`; the preference may be missing. -/
def getListInt (preference : Option JString) (defValue : JString) :
    Except Throwable (List Int32) :=
  (cutBy delimiter (preference.getD defValue)).mapM toInt

/-- `Boolean.toString()`. -/
def booleanText (value : Bool) : JString := if value then lit "true" else lit "false"

/-- `putListBoolean`: the text that is stored. -/
def putListBoolean (booleanList : List Bool) : JString :=
  delimiter.intercalate (booleanList.map booleanText)

/-- `String.toBoolean()`. -/
def toBoolean (mapping : CaseMapping) (text : JString) : Bool :=
  mapping.equalsIgnoreCase text (lit "true")

/-- `getListBoolean`; the preference may be missing. -/
def getListBoolean (mapping : CaseMapping) (preference : Option JString) (defValue : JString) :
    List Bool :=
  (cutBy delimiter (preference.getD defValue)).map (toBoolean mapping)

/-! ## Numbers -/

theorem toInt_toText (number : Int32) : toInt (toText number.toInt) = .ok number := by
  have range := number.toInt_lt
  have inRange : -2 ^ 31 ≤ number.toInt ∧ number.toInt ≤ 2 ^ 31 - 1 :=
    ⟨number.le_toInt, by omega⟩
  rw [toInt, parseInt, parseNumber_toText inRange]
  exact congrArg Except.ok (Int32.ofInt_toInt number)

theorem mapM_toInt_toText (intList : List Int32) :
    (intList.map fun number => toText number.toInt).mapM toInt = .ok intList := by
  induction intList with
  | nil => rfl
  | cons number rest inductionHypothesis =>
      rw [List.map_cons, List.mapM_cons, toInt_toText, inductionHypothesis]
      rfl

/-- No number contains the first character of the delimiter. -/
theorem not_mem_toText {value : Int} : chr '‚' ∉ toText value := by
  intro member
  rcases mem_toText member with sign | digit
  · exact absurd sign (by decide)
  · exact absurd digit (by decide)

/-- A list that is not empty is read back. -/
theorem getListInt_putListInt {intList : List Int32} (nonempty : intList ≠ [])
    (defValue : JString) : getListInt (some (putListInt intList)) defValue = .ok intList := by
  have delimiters : delimiter = chr '‚' :: lit "‗‚" := rfl
  have fields : cutBy delimiter (joinToString intList) =
      intList.map fun number => toText number.toInt := by
    rw [joinToString, delimiters]
    apply cutBy_intercalate
    · simpa using nonempty
    · intro field member
      obtain ⟨number, -, rfl⟩ := List.mem_map.mp member
      exact not_mem_toText
  rw [getListInt, Option.getD_some, putListInt, fields]
  exact mapM_toInt_toText intList

/-- The text of an empty list holds one item, which is no number. -/
theorem getListInt_empty (defValue : JString) :
    getListInt (some (putListInt [])) defValue = .error .numberFormatException := rfl

/-! ## Booleans -/

theorem toBoolean_booleanText (mapping : CaseMapping) (value : Bool) :
    toBoolean mapping (booleanText value) = value := by
  cases value with
  | true => exact CaseMapping.equalsIgnoreCase_self (lit "true")
  | false =>
      rw [toBoolean, Bool.eq_false_iff]
      intro same
      exact absurd (CaseMapping.length_of_equalsIgnoreCase same) (by decide)

/-- A list that is not empty is read back. -/
theorem getListBoolean_putListBoolean (mapping : CaseMapping) {booleanList : List Bool}
    (nonempty : booleanList ≠ []) (defValue : JString) :
    getListBoolean mapping (some (putListBoolean booleanList)) defValue = booleanList := by
  have delimiters : delimiter = chr '‚' :: lit "‗‚" := rfl
  have fields : cutBy delimiter (putListBoolean booleanList) = booleanList.map booleanText := by
    rw [putListBoolean, delimiters]
    apply cutBy_intercalate
    · simpa using nonempty
    · intro field member
      obtain ⟨value, -, rfl⟩ := List.mem_map.mp member
      cases value <;> decide
  rw [getListBoolean, Option.getD_some, fields, List.map_map]
  exact (List.map_congr_left fun value _ => toBoolean_booleanText mapping value).trans
    (List.map_id booleanList)

/-- The text of an empty list holds one item, which is read as false. -/
theorem getListBoolean_empty (mapping : CaseMapping) (defValue : JString) :
    getListBoolean mapping (some (putListBoolean [])) defValue = [false] := rfl

end PrintArray

end Openpyn.Map
