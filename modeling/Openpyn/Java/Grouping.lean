import Mathlib.Data.List.Induction
import Openpyn.Java.HashMap

/-!
# Grouping by key

A loop over items that keeps one value for each key: the first item with a key makes the
value, and every later one changes it in place. The keys stay in the order in which they
first occurred, and a value comes from the items with its key alone.
-/

namespace Openpyn.Java
namespace HashMap

variable {α κ ν : Type} [DecidableEq κ]

/-- Put the fresh value for a new key; otherwise change the value that is there. -/
def upsert (map : HashMap κ ν) (key : κ) (fresh : ν) (update : ν → ν) : HashMap κ ν :=
  match map.get? key with
  | none => map.put key fresh
  | some _ => map.changeAt key update

theorem get?_eq_none_iff {map : HashMap κ ν} {key : κ} :
    map.get? key = none ↔ key ∉ map.entries.map Prod.fst := by
  rw [get?, Option.map_eq_none_iff, List.find?_eq_none]
  simp only [List.mem_map, not_exists, not_and, decide_eq_true_eq]

theorem entries_put_of_absent {map : HashMap κ ν} {key : κ} (absent : map.get? key = none)
    (value : ν) : (map.put key value).entries = map.entries ++ [(key, value)] := by
  rw [put, dif_neg (get?_eq_none_iff.mp absent)]

theorem keys_changeAt (map : HashMap κ ν) (key : κ) (update : ν → ν) :
    (map.changeAt key update).entries.map Prod.fst = map.entries.map Prod.fst := by
  simp [changeAt, change]

theorem get?_changeAt (map : HashMap κ ν) (key other : κ) (update : ν → ν) :
    (map.changeAt key update).get? other =
      if other = key then (map.get? key).map update else map.get? other := by
  rw [get?, changeAt, change, List.find?_map, Option.map_map]
  change Option.map _ (map.entries.find? fun entry => entry.1 = other) = _
  split_ifs with same
  · subst same
    rw [get?, Option.map_map]
    refine Option.map_congr fun entry found => ?_
    have here : entry.1 = other := by simpa using List.find?_some found
    exact if_pos here
  · refine Option.map_congr fun entry found => ?_
    have here : entry.1 = other := by simpa using List.find?_some found
    exact if_neg (here ▸ same)

/-- A new key comes last. -/
theorem keys_upsert (map : HashMap κ ν) (key : κ) (fresh : ν) (update : ν → ν) :
    (map.upsert key fresh update).entries.map Prod.fst =
      if key ∈ map.entries.map Prod.fst then map.entries.map Prod.fst
      else map.entries.map Prod.fst ++ [key] := by
  unfold upsert
  cases found : map.get? key with
  | none =>
      rw [if_neg (get?_eq_none_iff.mp found), entries_put_of_absent found, List.map_append]
      rfl
  | some value =>
      have present : key ∈ map.entries.map Prod.fst :=
        List.mem_map_of_mem (mem_of_get? found)
      rw [if_pos present, keys_changeAt]

/-- The other keys keep their values. -/
theorem get?_upsert (map : HashMap κ ν) (key other : κ) (fresh : ν) (update : ν → ν) :
    (map.upsert key fresh update).get? other =
      if other = key then some ((map.get? key).elim fresh update) else map.get? other := by
  unfold upsert
  cases found : map.get? key with
  | none =>
      rw [get?, entries_put_of_absent found, List.find?_append]
      split_ifs with same
      · subst same
        have absent := get?_eq_none_iff.mp found
        have missing : (map.entries.find? fun entry => entry.1 = other) = none := by
          simpa [get?] using found
        simp [missing]
      · have last : ([(key, fresh)].find? fun entry => entry.1 = other) = none := by
          simpa using Ne.symm same
        rw [last, Option.or_none, get?]
  | some value =>
      rw [get?_changeAt, found]
      rfl

section Group

variable (key : α → κ) (fresh : α → ν) (update : α → ν → ν)

/-- The map after the loop. -/
def group (items : List α) : HashMap κ ν :=
  items.foldl (fun map item => map.upsert (key item) (fresh item) (update item)) empty

@[simp] theorem group_concat (items : List α) (item : α) :
    group key fresh update (items ++ [item]) =
      (group key fresh update items).upsert (key item) (fresh item) (update item) := by
  simp [group]

/-- One key for each that occurs, in the order of first occurrence. -/
theorem keys_group [BEq κ] [LawfulBEq κ] (items : List α) :
    (group key fresh update items).entries.map Prod.fst = (items.map key).eraseDups := by
  induction items using List.reverseRecOn with
  | nil => rfl
  | append_singleton items item inductionHypothesis =>
      rw [group_concat, keys_upsert, inductionHypothesis, List.map_append, List.eraseDups_append,
        List.map_singleton]
      by_cases present : key item ∈ items.map key
      · rw [if_pos (List.mem_eraseDups.mpr present)]
        have nothingNew : [key item].removeAll (items.map key) = [] := by
          rw [List.removeAll, List.filter_singleton, List.elem_eq_true_of_mem present]
          rfl
        rw [nothingNew, List.eraseDups_nil, List.append_nil]
      · rw [if_neg (mt List.mem_eraseDups.mp present)]
        have new : [key item].removeAll (items.map key) = [key item] := by
          rw [List.removeAll, List.filter_singleton, List.elem_eq_mem, decide_eq_false present]
          rfl
        rw [new]
        rfl

/-- The value of a key is made and changed by the items with the key, one after another. -/
theorem get?_group (items : List α) (wanted : κ) :
    (group key fresh update items).get? wanted =
      (items.filter fun item => key item = wanted).foldl
        (fun value item => some (value.elim (fresh item) (update item))) none := by
  induction items using List.reverseRecOn with
  | nil => rfl
  | append_singleton items item inductionHypothesis =>
      rw [group_concat, get?_upsert, List.filter_append, List.foldl_append, ← inductionHypothesis]
      by_cases same : key item = wanted
      · subst same
        simp
      · rw [if_neg (Ne.symm same)]
        simp [same]

/-- Once it is made, a value is only changed. -/
theorem foldl_some (rest : List α) (value : ν) :
    rest.foldl (fun value item => some (value.elim (fresh item) (update item))) (some value) =
      some (rest.foldl (fun value item => update item value) value) := by
  induction rest generalizing value with
  | nil => rfl
  | cons item rest inductionHypothesis => exact inductionHypothesis (update item value)

/-- The first item with the key of an entry made its value, and the others changed it. -/
theorem mem_group {items : List α} {wanted : κ} {value : ν}
    (member : (wanted, value) ∈ (group key fresh update items).entries) :
    ∃ first rest, (items.filter fun item => key item = wanted) = first :: rest ∧
      value = rest.foldl (fun value item => update item value) (fresh first) := by
  have found := get?_of_mem member
  rw [get?_group] at found
  cases here : items.filter fun item => key item = wanted with
  | nil =>
      rw [here] at found
      cases found
  | cons first rest =>
      rw [here, List.foldl_cons, Option.elim_none, foldl_some] at found
      exact ⟨first, rest, rfl, (Option.some.inj found).symm⟩

end Group

/-- The keys of a map do not repeat, so neither do these. -/
theorem nodup_eraseDups [BEq κ] [LawfulBEq κ] (items : List κ) : items.eraseDups.Nodup := by
  have keys := keys_group id id (fun _ value => value) items
  rw [List.map_id] at keys
  exact keys ▸ (group id id (fun _ value => value) items).nodup

end HashMap
end Openpyn.Java
