import Mathlib.Data.List.Basic
import Mathlib.Data.List.Nodup

/-!
# Stored lists

A storage keeps a list of values as one text in the preferences and reads it back
before every change. The adapter that writes and reads the text is not part of the
program; what the program needs of it is that it preserves what values are compared by.
-/

namespace Openpyn.Map

/-- `JsonAdapter<List<T>>`, with the texts it writes. -/
structure JsonAdapter (T : Type) where
  Text : Type
  toJson : List T → Text
  fromJson : Text → Option (List T)

/-- Writing a list and reading it back preserves a property of every value. -/
def JsonAdapter.Preserves {T κ : Type} (adapter : JsonAdapter T) (key : T → κ) : Prop :=
  ∀ values, ∃ back, adapter.fromJson (adapter.toJson values) = some back ∧
    back.map key = values.map key

namespace MyStorage

variable {T : Type} (adapter : JsonAdapter T)

/-- `storeFavorites`: the new text under the key. -/
def storeFavorites (arrayList : List T) : Option adapter.Text := some (adapter.toJson arrayList)

/-- `loadFavorites`. -/
def loadFavorites (preference : Option adapter.Text) : List T :=
  match preference with
  | some string => (adapter.fromJson string).getD []
  | none => []

theorem map_loadFavorites_storeFavorites {adapter : JsonAdapter T} {κ : Type} {key : T → κ}
    (preserves : adapter.Preserves key) (values : List T) :
    (loadFavorites adapter (storeFavorites adapter values)).map key = values.map key := by
  obtain ⟨back, read, same⟩ := preserves values
  rw [storeFavorites, loadFavorites, read]
  exact same

variable [BEq T]

/-- `addFavorite`. -/
def addFavorite (preference : Option adapter.Text) (value : T) : Option adapter.Text :=
  let arrayList := loadFavorites adapter preference
  storeFavorites adapter
    (if arrayList.contains value then arrayList else arrayList ++ [value])

/-- `removeFavorite`. -/
def removeFavorite (preference : Option adapter.Text) (value : T) : Option adapter.Text :=
  let arrayList := loadFavorites adapter preference
  if arrayList.isEmpty then preference else storeFavorites adapter (arrayList.erase value)

section Keys

variable {adapter} {κ : Type} [DecidableEq κ] {key : T → κ}
variable (compares : ∀ value other : T, (value == other) = true ↔ key value = key other)

include compares

omit [DecidableEq κ] in
theorem contains_iff (values : List T) (value : T) :
    values.contains value = true ↔ key value ∈ values.map key := by
  rw [List.contains_iff_exists_mem_beq, List.mem_map]
  constructor
  · rintro ⟨other, member, same⟩
    exact ⟨other, member, ((compares value other).mp same).symm⟩
  · rintro ⟨other, member, same⟩
    exact ⟨other, member, (compares value other).mpr same.symm⟩

theorem map_erase (values : List T) (value : T) :
    (values.erase value).map key = (values.map key).erase (key value) := by
  induction values with
  | nil => rfl
  | cons first rest inductionHypothesis =>
      have same : (first == value) = (key first == key value) := by
        rw [Bool.eq_iff_iff, compares, beq_iff_eq]
      rw [List.map_cons, List.erase_cons, List.erase_cons, same]
      split
      · rfl
      · rw [List.map_cons, inductionHypothesis]

/-- A value is added unless one of its key is stored. -/
theorem map_addFavorite (preserves : adapter.Preserves key) (preference : Option adapter.Text)
    (value : T) :
    let stored := (loadFavorites adapter preference).map key
    (loadFavorites adapter (addFavorite adapter preference value)).map key =
      if key value ∈ stored then stored else stored ++ [key value] := by
  intro stored
  have present := contains_iff compares (loadFavorites adapter preference) value
  rw [addFavorite, map_loadFavorites_storeFavorites preserves]
  by_cases member : key value ∈ stored
  · rw [if_pos member, if_pos (present.mpr member)]
  · rw [if_neg member, if_neg (mt present.mp member), List.map_append]
    rfl

/-- The first value of the key is removed. -/
theorem map_removeFavorite (preserves : adapter.Preserves key)
    (preference : Option adapter.Text) (value : T) :
    (loadFavorites adapter (removeFavorite adapter preference value)).map key =
      ((loadFavorites adapter preference).map key).erase (key value) := by
  unfold removeFavorite
  dsimp only
  split
  · rename_i empty
    rw [List.isEmpty_iff.mp empty]
    rfl
  · rw [map_loadFavorites_storeFavorites preserves, map_erase compares]

end Keys

end MyStorage
end Openpyn.Map
