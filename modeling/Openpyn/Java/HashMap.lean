import Mathlib.Data.List.Basic
import Mathlib.Data.List.Nodup

/-!
# Hash maps

A hash map lists its entries in the order its iterator meets them, one for each
key. Values that are objects are changed in place, which leaves keys and order as
they are.
-/

namespace Openpyn.Java

/-- A map from keys to values; no key occurs twice. -/
structure HashMap (κ : Type) (ν : Type) where
  entries : List (κ × ν)
  nodup : (entries.map Prod.fst).Nodup

namespace HashMap

variable {κ ν : Type}

/-- `new HashMap<>()`. -/
def empty : HashMap κ ν := ⟨[], List.nodup_nil⟩

/-- Every value after it was changed in place. -/
def change (map : HashMap κ ν) (update : κ → ν → ν) : HashMap κ ν where
  entries := map.entries.map fun entry => (entry.1, update entry.1 entry.2)
  nodup := by
    have keys : (map.entries.map fun entry => (entry.1, update entry.1 entry.2)).map Prod.fst =
        map.entries.map Prod.fst := by simp
    rw [keys]
    exact map.nodup

theorem mem_change {map : HashMap κ ν} {update : κ → ν → ν} {key : κ} {value : ν} :
    (key, value) ∈ (map.change update).entries ↔
      ∃ old, (key, old) ∈ map.entries ∧ value = update key old := by
  simp only [change, List.mem_map, Prod.mk.injEq, Prod.exists]
  constructor
  · rintro ⟨_, old, member, rfl, rfl⟩
    exact ⟨old, member, rfl⟩
  · rintro ⟨old, member, rfl⟩
    exact ⟨key, old, member, rfl, rfl⟩

/-- A key has one value. -/
theorem value_unique {map : HashMap κ ν} {key : κ} {value other : ν}
    (first : (key, value) ∈ map.entries) (second : (key, other) ∈ map.entries) :
    value = other :=
  congrArg Prod.snd (List.inj_on_of_nodup_map map.nodup first second rfl)

/-- `count` is one if the property holds of one entry and of no entry with another key. -/
theorem countP_eq_one_iff {map : HashMap κ ν} {property : κ × ν → Bool} {key : κ} {value : ν}
    (member : (key, value) ∈ map.entries) (holds : property (key, value) = true) :
    map.entries.countP property = 1 ↔
      ∀ entry ∈ map.entries, property entry = true → entry.1 = key := by
  obtain ⟨front, back, split⟩ := List.append_of_mem member
  have distinct := map.nodup
  rw [split, List.map_append, List.map_cons, List.nodup_middle, List.nodup_cons] at distinct
  have others : ∀ entry ∈ front ++ back, entry.1 ≠ key := by
    intro entry present same
    apply distinct.1
    rw [← List.map_append, ← same]
    exact List.mem_map.mpr ⟨entry, present, rfl⟩
  have total : map.entries.countP property = (front ++ back).countP property + 1 := by
    rw [split, List.countP_append, List.countP_cons_of_pos holds, List.countP_append]
    omega
  rw [total, Nat.add_eq_right, List.countP_eq_zero, split]
  constructor
  · intro none entry present satisfied
    by_contra different
    rcases List.mem_append.mp present with early | late
    · exact none entry (List.mem_append_left _ early) satisfied
    · rcases List.mem_cons.mp late with rfl | later
      · exact different rfl
      · exact none entry (List.mem_append_right _ later) satisfied
  · intro only entry present satisfied
    apply others entry present
    apply only entry _ satisfied
    rcases List.mem_append.mp present with early | late
    · exact List.mem_append_left _ early
    · exact List.mem_append_right _ (List.mem_cons_of_mem _ late)

variable [DecidableEq κ]

/-- `get`. -/
def get? (map : HashMap κ ν) (key : κ) : Option ν :=
  (map.entries.find? fun entry => entry.1 = key).map Prod.snd

theorem mem_of_get? {map : HashMap κ ν} {key : κ} {value : ν}
    (found : map.get? key = some value) : (key, value) ∈ map.entries := by
  obtain ⟨⟨key', value'⟩, present, rfl⟩ := Option.map_eq_some_iff.mp found
  have same : key' = key := by simpa using List.find?_some present
  exact same ▸ List.mem_of_find?_eq_some present

theorem get?_of_mem {map : HashMap κ ν} {key : κ} {value : ν}
    (member : (key, value) ∈ map.entries) : map.get? key = some value := by
  cases found : map.get? key with
  | some other => rw [value_unique (mem_of_get? found) member]
  | none =>
      rw [get?, Option.map_eq_none_iff, List.find?_eq_none] at found
      exact absurd (decide_eq_true rfl) (found _ member)

/-- Change the value of one key in place. -/
def changeAt (map : HashMap κ ν) (key : κ) (update : ν → ν) : HashMap κ ν :=
  map.change fun other value => if other = key then update value else value

/-- `put`: the value of a key that is there is replaced. -/
def put (map : HashMap κ ν) (key : κ) (value : ν) : HashMap κ ν :=
  if present : key ∈ map.entries.map Prod.fst then map.changeAt key fun _ => value
  else ⟨map.entries ++ [(key, value)], by
    rw [List.map_append]
    exact map.nodup.append (List.nodup_singleton key) (by simpa using present)⟩

/-- An entry after `put` is the new one or an old one. -/
theorem mem_put {map : HashMap κ ν} {key other : κ} {value stored : ν}
    (member : (other, stored) ∈ (map.put key value).entries) :
    (other, stored) = (key, value) ∨ (other, stored) ∈ map.entries := by
  unfold put at member
  split at member
  · obtain ⟨old, before, rfl⟩ := mem_change.mp member
    by_cases same : other = key
    · rw [if_pos same, same]
      exact .inl rfl
    · rw [if_neg same]
      exact .inr before
  · rcases List.mem_append.mp member with before | last
    · exact .inr before
    · exact .inl (List.mem_singleton.mp last)

/-- After `put` the key has the value. -/
theorem mem_put_self (map : HashMap κ ν) (key : κ) (value : ν) :
    (key, value) ∈ (map.put key value).entries := by
  unfold put
  split
  · rename_i present
    obtain ⟨⟨key', old⟩, member, rfl⟩ := List.mem_map.mp present
    exact mem_change.mpr ⟨old, member, (if_pos rfl).symm⟩
  · exact List.mem_append_right _ List.mem_cons_self

/-- The other keys keep their values. -/
theorem mem_put_of_ne {map : HashMap κ ν} {key other : κ} (different : other ≠ key)
    {stored : ν} (member : (other, stored) ∈ map.entries) (value : ν) :
    (other, stored) ∈ (map.put key value).entries := by
  unfold put
  split
  · exact mem_change.mpr ⟨stored, member, (if_neg different).symm⟩
  · exact List.mem_append_left _ member

end HashMap
end Openpyn.Java
