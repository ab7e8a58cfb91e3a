import Mathlib.Data.Finset.Basic
import Mathlib.Data.Finset.Dedup
import Mathlib.Data.Finset.Lattice.Lemmas
import Openpyn.Map.PrintArray

/-!
# The country filter

A selection of countries is turned into flags twice: in the session it is made in,
from the selected ids alone, and after a restart from the stored ids and the flags on
offer then.
-/

namespace Openpyn.Map

open Foundation Java PrintArray

/-- The flag of a selected country. -/
def selectedTag (selectedIds : List Int32) : MultiSelectable → Option JString
  | .multiSelectModel _ => none
  | .multiSelectModelExtra id tag => if id ∈ selectedIds then some tag else none

/-- `getCurrentFlags`. -/
def getCurrentFlags (countries : List MultiSelectable) (selectedIds : List Int32) :
    Finset JString :=
  (countries.filterMap (selectedTag selectedIds)).toFinset

/-- The country has a flag of the set. -/
def MultiSelectable.isOffered (hashSet : Finset JString) : MultiSelectable → Bool
  | .multiSelectModel _ => false
  | .multiSelectModelExtra _ tag => tag ∈ hashSet

/-- The countries that `showPrintArray` puts into the dialog. -/
def currentCountries (countries : List MultiSelectable) (hashSet : Finset JString) :
    List MultiSelectable :=
  countries.filter (MultiSelectable.isOffered hashSet)

/-- `showPrintArray`: the flags to begin with and the dialog. -/
def showPrintArray (countries : List MultiSelectable) (hashSet : Finset JString)
    (preference : Option JString) : Except Throwable (Finset JString × PrintArray) := do
  let items := currentCountries countries hashSet
  let defValue := joinToString (items.map MultiSelectable.id)
  let prefSelectedIdsList ← getListInt preference defValue
  let currentFlags := (items.filterMap (selectedTag prefSelectedIdsList)).toFinset
  let currentIds := (items.map MultiSelectable.id).filter (· ∈ prefSelectedIdsList)
  return (currentFlags, ⟨items, currentIds⟩)

theorem mem_getCurrentFlags {countries : List MultiSelectable} {selectedIds : List Int32}
    {flag : JString} :
    flag ∈ getCurrentFlags countries selectedIds ↔
      ∃ id ∈ selectedIds, .multiSelectModelExtra id flag ∈ countries := by
  rw [getCurrentFlags, List.mem_toFinset, List.mem_filterMap]
  constructor
  · rintro ⟨item, member, tagged⟩
    cases item with
    | multiSelectModel id => cases tagged
    | multiSelectModelExtra id tag =>
        obtain ⟨selected, ⟨⟩⟩ := Option.ite_none_right_eq_some.mp tagged
        exact ⟨id, selected, member⟩
  · rintro ⟨id, selected, member⟩
    exact ⟨_, member, if_pos selected⟩

theorem extra_mem_currentCountries {countries : List MultiSelectable} {hashSet : Finset JString}
    {id : Int32} {tag : JString} :
    .multiSelectModelExtra id tag ∈ currentCountries countries hashSet ↔
      tag ∈ hashSet ∧ .multiSelectModelExtra id tag ∈ countries := by
  simp [currentCountries, MultiSelectable.isOffered, and_comm]

/-- The ids in the dialog are those of the countries on offer. -/
theorem mem_ids_currentCountries {countries : List MultiSelectable} {hashSet : Finset JString}
    {id : Int32} :
    id ∈ (currentCountries countries hashSet).map MultiSelectable.id ↔
      ∃ tag ∈ hashSet, .multiSelectModelExtra id tag ∈ countries := by
  rw [List.mem_map]
  constructor
  · rintro ⟨item, member, rfl⟩
    cases item with
    | multiSelectModel id => simp [currentCountries, MultiSelectable.isOffered] at member
    | multiSelectModelExtra id tag => exact ⟨tag, extra_mem_currentCountries.mp member⟩
  · rintro ⟨tag, offered⟩
    exact ⟨_, extra_mem_currentCountries.mpr offered, rfl⟩

/-- What a dialog owes to the selection that was stored before it was opened. -/
structure Restores (countries : List MultiSelectable) (selectedIds : List Int32)
    (hashSet : Finset JString) (currentFlags : Finset JString) (dialog : PrintArray) : Prop where
  flags : currentFlags = getCurrentFlags countries selectedIds ∩ hashSet
  items : dialog.itemsList = currentCountries countries hashSet
  checked : ∀ id, id ∈ dialog.checkedItemsList ↔
    id ∈ selectedIds ∧ ∃ tag ∈ hashSet, .multiSelectModelExtra id tag ∈ countries
  once : dialog.checkedItemsList.Nodup

/-- A stored selection is read back, and both loops filter by it. -/
theorem showPrintArray_restores {countries : List MultiSelectable}
    (distinct : (countries.map MultiSelectable.id).Nodup) {selectedIds : List Int32}
    (nonempty : selectedIds ≠ []) (hashSet : Finset JString) :
    ∃ currentFlags dialog,
      showPrintArray countries hashSet (some (putListInt selectedIds)) =
        .ok (currentFlags, dialog) ∧
      Restores countries selectedIds hashSet currentFlags dialog := by
  let items := currentCountries countries hashSet
  refine ⟨getCurrentFlags items selectedIds,
    ⟨items, (items.map MultiSelectable.id).filter (· ∈ selectedIds)⟩, ?_, ?_, rfl, ?_, ?_⟩
  · rw [showPrintArray]
    dsimp only
    rw [getListInt_putListInt nonempty]
    rfl
  · ext flag
    rw [Finset.mem_inter, mem_getCurrentFlags, mem_getCurrentFlags]
    simp only [items, extra_mem_currentCountries]
    constructor
    · rintro ⟨id, selected, offered, member⟩
      exact ⟨⟨id, selected, member⟩, offered⟩
    · rintro ⟨⟨id, selected, member⟩, offered⟩
      exact ⟨id, selected, offered, member⟩
  · intro id
    rw [List.mem_filter, mem_ids_currentCountries, and_comm, decide_eq_true_iff]
  · have sublist : (items.map MultiSelectable.id).Sublist (countries.map MultiSelectable.id) :=
      List.filter_sublist.map _
    exact (distinct.sublist sublist).filter _

/-- The country of a selected id is the one shown, so all flags of the session are on
offer. -/
theorem getCurrentFlags_subset {countries : List MultiSelectable}
    (distinct : (countries.map MultiSelectable.id).Nodup) {selectedIds : List Int32}
    {hashSet : Finset JString}
    (shown : ∀ id ∈ selectedIds,
      id ∈ (currentCountries countries hashSet).map MultiSelectable.id) :
    getCurrentFlags countries selectedIds ⊆ hashSet := by
  intro flag member
  obtain ⟨id, selected, here⟩ := mem_getCurrentFlags.mp member
  obtain ⟨tag, offered, there⟩ := mem_ids_currentCountries.mp (shown id selected)
  have same := List.inj_on_of_nodup_map distinct here there rfl
  rw [MultiSelectable.multiSelectModelExtra.injEq] at same
  exact same.2 ▸ offered

/-- A selection among the countries shown at one launch is restored at the next one, as
far as its flags are on offer then; with the same flags on offer, entirely. -/
theorem filter_survives_restart {countries : List MultiSelectable}
    (distinct : (countries.map MultiSelectable.id).Nodup) (hashSet : Finset JString)
    {selectedIds : List Int32} (nonempty : selectedIds ≠ [])
    (shown : ∀ id ∈ selectedIds,
      id ∈ (currentCountries countries hashSet).map MultiSelectable.id)
    (later : Finset JString) :
    ∃ currentFlags dialog,
      showPrintArray countries later (some (putListInt selectedIds)) =
        .ok (currentFlags, dialog) ∧
      Restores countries selectedIds later currentFlags dialog ∧
      (later = hashSet → currentFlags = getCurrentFlags countries selectedIds) := by
  obtain ⟨currentFlags, dialog, answer, restores⟩ :=
    showPrintArray_restores distinct nonempty later
  refine ⟨currentFlags, dialog, answer, restores, ?_⟩
  rintro rfl
  rw [restores.flags]
  exact Finset.inter_eq_left.mpr (getCurrentFlags_subset distinct shown)

/-- Two countries are selected, and only one of them is on offer at the next launch. -/
theorem filter_survives_restart_oneLeft :
    let countries : List MultiSelectable := [.multiSelectModelExtra 56 (lit "de"),
      .multiSelectModel 75, .multiSelectModelExtra 150 (lit "nl")]
    ∃ currentFlags dialog,
      showPrintArray countries {lit "nl"} (some (putListInt [150, 56])) =
        .ok (currentFlags, dialog) ∧
      Restores countries [150, 56] {lit "nl"} currentFlags dialog ∧
      ({lit "nl"} = ({lit "de", lit "nl"} : Finset JString) →
        currentFlags = getCurrentFlags countries [150, 56]) :=
  filter_survives_restart (by decide) _ (by decide)
    (List.forall_mem_cons.mpr ⟨by decide, List.forall_mem_singleton.mpr (by decide)⟩) _

/-! ## Default values -/

/-- With no stored selection, the dialog is shown when its default is not empty. -/
theorem showPrintArray_default_iff (countries : List MultiSelectable)
    (hashSet : Finset JString) :
    (∃ answer, showPrintArray countries hashSet none = .ok answer) ↔
      currentCountries countries hashSet ≠ [] := by
  unfold showPrintArray
  generalize currentCountries countries hashSet = items
  have stored : getListInt none (joinToString (items.map MultiSelectable.id)) =
      getListInt (some (putListInt (items.map MultiSelectable.id))) [] := rfl
  dsimp only
  rw [stored]
  cases items with
  | nil =>
      constructor
      · rintro ⟨answer, decoded⟩
        cases decoded
      · exact fun nonempty => absurd rfl nonempty
  | cons item rest =>
      have nonempty : (item :: rest).map MultiSelectable.id ≠ [] := by simp
      rw [getListInt_putListInt nonempty]
      exact ⟨fun _ => List.cons_ne_nil _ _, fun _ => ⟨_, rfl⟩⟩

/-- Lists of numbers and of booleans are read back exactly when they are not empty,
and the default of the dialog is read exactly when some country is on offer. -/
theorem lists_readBack_iff (mapping : CaseMapping) :
    (∀ (intList : List Int32) (defValue : JString),
        getListInt (some (putListInt intList)) defValue = .ok intList ↔ intList ≠ []) ∧
      (∀ (booleanList : List Bool) (defValue : JString),
        getListBoolean mapping (some (putListBoolean booleanList)) defValue = booleanList ↔
          booleanList ≠ []) ∧
      ∀ (countries : List MultiSelectable) (hashSet : Finset JString),
        (∃ answer, showPrintArray countries hashSet none = .ok answer) ↔
          currentCountries countries hashSet ≠ [] := by
  refine ⟨fun intList defValue => ⟨?_, fun nonempty => getListInt_putListInt nonempty defValue⟩,
    fun booleanList defValue => ⟨?_, fun nonempty =>
      getListBoolean_putListBoolean mapping nonempty defValue⟩, showPrintArray_default_iff⟩
  · rintro decoded rfl
    rw [getListInt_empty] at decoded
    cases decoded
  · rintro decoded rfl
    rw [getListBoolean_empty] at decoded
    cases decoded

/-- An empty server list offers no flags, and an empty default is no list of numbers. -/
theorem emptyLists_fail :
    getListInt (some (putListInt [])) [] ≠ .ok [] ∧
      getListBoolean .ascii (some (putListBoolean [])) [] ≠ [] ∧
      ¬∃ answer, showPrintArray [.multiSelectModelExtra 56 (lit "de")] ∅ none = .ok answer := by
  refine ⟨by decide, by decide, ?_⟩
  rintro ⟨answer, decoded⟩
  cases decoded

end Openpyn.Map
