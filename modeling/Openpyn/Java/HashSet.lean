import Mathlib.Data.Finset.Basic
import Mathlib.Data.List.Pairwise
import Openpyn.Java.Throwable

/-!
# Hash sets

`HashSet.add` compares a new element with those of its bucket: the stored hash
first, and only then `equals`. Two equal elements with different hashes are
therefore both kept, and the model follows that. The iteration order is not
modelled; elements are listed as they were added.
-/

namespace Openpyn.Java

/-- The `equals` and `hashCode` of a class. -/
structure Identity (α : Type) where
  equals : α → α → Bool
  hashCode : α → UInt32
  equals_self : ∀ element, equals element element = true

/-- The comparison a bucket makes between a new and a stored element. -/
def Identity.sameKey {α : Type} (identity : Identity α) (added stored : α) : Bool :=
  identity.hashCode stored == identity.hashCode added && identity.equals added stored

/-- A set whose elements are kept apart by the comparison of `add`. -/
structure HashSet {α : Type} (identity : Identity α) where
  elements : List α
  apart : elements.Pairwise fun stored added => identity.sameKey added stored = false

namespace HashSet

variable {α : Type} {identity : Identity α}

/-- `new HashSet<>()`. -/
def empty : HashSet identity := ⟨[], List.Pairwise.nil⟩

/-- `HashSet.add`: an element that a stored one stands for is not added. -/
def add (set : HashSet identity) (added : α) : HashSet identity :=
  if free : ∀ stored ∈ set.elements, identity.sameKey added stored = false then
    ⟨set.elements ++ [added], by
      rw [List.pairwise_append]
      refine ⟨set.apart, List.pairwise_singleton _ _, ?_⟩
      intro stored member other last
      rw [List.mem_singleton.mp last]
      exact free stored member⟩
  else set

/-- The set after adding elements in order. -/
def addAll (set : HashSet identity) (added : List α) : HashSet identity := added.foldl add set

/-- The elements as a set of values. -/
def toFinset [DecidableEq α] (set : HashSet identity) : Finset α := set.elements.toFinset

@[ext] theorem ext {left right : HashSet identity} (elements : left.elements = right.elements) :
    left = right := by
  cases left
  cases right
  cases elements
  rfl

@[simp] theorem elements_empty : (empty : HashSet identity).elements = [] := rfl

@[simp] theorem addAll_nil (set : HashSet identity) : set.addAll [] = set := rfl

@[simp] theorem addAll_cons (set : HashSet identity) (added : α) (rest : List α) :
    set.addAll (added :: rest) = (set.add added).addAll rest := rfl

theorem elements_add (set : HashSet identity) (added : α) :
    (set.add added).elements =
      if ∀ stored ∈ set.elements, identity.sameKey added stored = false then
        set.elements ++ [added]
      else set.elements := by
  by_cases free : ∀ stored ∈ set.elements, identity.sameKey added stored = false
  · simp only [add, dif_pos free, if_pos free]
  · simp only [add, dif_neg free, if_neg free]

theorem mem_add_of_mem {set : HashSet identity} {stored : α} (member : stored ∈ set.elements)
    (added : α) : stored ∈ (set.add added).elements := by
  rw [elements_add]
  split
  · exact List.mem_append_left _ member
  · exact member

theorem mem_or_eq_of_mem_add {set : HashSet identity} {added stored : α}
    (member : stored ∈ (set.add added).elements) : stored ∈ set.elements ∨ stored = added := by
  rw [elements_add] at member
  split at member
  · simpa using member
  · exact Or.inl member

theorem sameKey_self (element : α) : identity.sameKey element element = true := by
  simp [Identity.sameKey, identity.equals_self]

theorem sameKey_iff {added stored : α} :
    identity.sameKey added stored = true ↔
      identity.hashCode added = identity.hashCode stored ∧ identity.equals added stored = true := by
  simp only [Identity.sameKey, Bool.and_eq_true, beq_iff_eq]
  exact and_congr_left fun _ => eq_comm

/-- The element is stored, or one that stands for it. -/
theorem add_stands (set : HashSet identity) (added : α) :
    ∃ stored ∈ (set.add added).elements, identity.sameKey added stored = true := by
  rw [elements_add]
  split
  · exact ⟨added, List.mem_append_right _ (List.mem_singleton_self added), sameKey_self added⟩
  · rename_i taken
    push Not at taken
    obtain ⟨stored, member, same⟩ := taken
    exact ⟨stored, member, Bool.eq_true_of_not_eq_false same⟩

theorem mem_addAll_of_mem {set : HashSet identity} {stored : α} (member : stored ∈ set.elements)
    (added : List α) : stored ∈ (set.addAll added).elements := by
  induction added generalizing set with
  | nil => exact member
  | cons first rest inductionHypothesis =>
      exact inductionHypothesis (mem_add_of_mem member first)

/-- The elements of a grown set are the old ones and added ones. -/
theorem mem_or_mem_of_mem_addAll {set : HashSet identity} {added : List α} {stored : α}
    (member : stored ∈ (set.addAll added).elements) :
    stored ∈ set.elements ∨ stored ∈ added := by
  induction added generalizing set with
  | nil => exact Or.inl member
  | cons first rest inductionHypothesis =>
      rcases inductionHypothesis member with early | late
      · rcases mem_or_eq_of_mem_add early with old | rfl
        · exact Or.inl old
        · exact Or.inr List.mem_cons_self
      · exact Or.inr (List.mem_cons_of_mem first late)

/-- Every added element has one in the grown set that stands for it. -/
theorem addAll_stands (set : HashSet identity) {added : List α} {element : α}
    (member : element ∈ added) :
    ∃ stored ∈ (set.addAll added).elements, identity.sameKey element stored = true := by
  induction added generalizing set with
  | nil => simp at member
  | cons first rest inductionHypothesis =>
      rcases List.mem_cons.mp member with rfl | later
      · obtain ⟨stored, here, same⟩ := add_stands set element
        exact ⟨stored, mem_addAll_of_mem here rest, same⟩
      · exact inductionHypothesis _ later

/-- Every added element has an equal one in the grown set. -/
theorem addAll_covers {set : HashSet identity} {added : List α} {element : α}
    (member : element ∈ added) :
    ∃ stored ∈ (set.addAll added).elements, identity.equals element stored = true := by
  obtain ⟨stored, here, same⟩ := addAll_stands set member
  exact ⟨stored, here, (sameKey_iff.mp same).2⟩

theorem addAll_append (set : HashSet identity) (first second : List α) :
    set.addAll (first ++ second) = (set.addAll first).addAll second := List.foldl_append

theorem addAll_concat (set : HashSet identity) (added : List α) (last : α) :
    set.addAll (added ++ [last]) = (set.addAll added).add last := List.foldl_concat ..

/-- An element that a stored one stands for changes nothing. -/
theorem add_of_stands {set : HashSet identity} {added stored : α}
    (member : stored ∈ set.elements) (same : identity.sameKey added stored = true) :
    set.add added = set := by
  apply ext
  rw [elements_add, if_neg]
  intro free
  exact Bool.false_ne_true ((free stored member).symm.trans same)

/-- If equality is transitive, adding to a set first and then its elements to another one
is adding to both. -/
theorem addAll_elements_add
    (transitive : ∀ first second third, identity.equals first second = true →
      identity.equals second third = true → identity.equals first third = true)
    (set other : HashSet identity) (added : α) :
    set.addAll (other.add added).elements = (set.addAll other.elements).add added := by
  rw [elements_add]
  split
  · exact addAll_concat set other.elements added
  · rename_i taken
    push Not at taken
    obtain ⟨stored, member, same⟩ := taken
    obtain ⟨hash, equal⟩ := sameKey_iff.mp (Bool.eq_true_of_not_eq_false same)
    obtain ⟨standing, here, stands⟩ := addAll_stands set member
    obtain ⟨standingHash, standingEqual⟩ := sameKey_iff.mp stands
    have standsForAdded : identity.sameKey added standing = true :=
      sameKey_iff.mpr ⟨hash.trans standingHash, transitive _ _ _ equal standingEqual⟩
    exact (add_of_stands here standsForAdded).symm

/-- Of the stored elements none stands for another. -/
theorem eq_of_sameKey
    (symmetric : ∀ first second, identity.equals first second = true →
      identity.equals second first = true)
    {set : HashSet identity} {first second : α} (firstStored : first ∈ set.elements)
    (secondStored : second ∈ set.elements) (same : identity.sameKey first second = true) :
    first = second := by
  have symm : Std.Symm fun stored added => identity.sameKey added stored = false := by
    refine ⟨fun stored added free => Bool.eq_false_iff.mpr fun same => ?_⟩
    obtain ⟨hash, equal⟩ := sameKey_iff.mp same
    exact Bool.eq_false_iff.mp free (sameKey_iff.mpr ⟨hash.symm, symmetric _ _ equal⟩)
  by_contra differ
  exact Bool.eq_false_iff.mp (set.apart.forall secondStored firstStored (Ne.symm differ)) same

/-- If equality is an equivalence, a filled set stores equal elements once exactly when
those that were added have equal hashes. -/
theorem elements_unique_iff
    (symmetric : ∀ first second, identity.equals first second = true →
      identity.equals second first = true)
    (transitive : ∀ first second third, identity.equals first second = true →
      identity.equals second third = true → identity.equals first third = true)
    (added : List α) :
    (∀ first ∈ (empty.addAll added : HashSet identity).elements,
        ∀ second ∈ (empty.addAll added : HashSet identity).elements,
          identity.equals first second = true → first = second) ↔
      ∀ first ∈ added, ∀ second ∈ added, identity.equals first second = true →
        identity.hashCode first = identity.hashCode second := by
  constructor
  · intro unique first firstAdded second secondAdded equal
    obtain ⟨left, leftStored, leftStands⟩ := addAll_stands empty firstAdded
    obtain ⟨right, rightStored, rightStands⟩ := addAll_stands empty secondAdded
    have leftEqual := symmetric _ _ (sameKey_iff.mp leftStands).2
    have rightEqual := transitive _ _ _ equal (sameKey_iff.mp rightStands).2
    have same := unique left leftStored right rightStored (transitive _ _ _ leftEqual rightEqual)
    rw [(sameKey_iff.mp leftStands).1, same, (sameKey_iff.mp rightStands).1]
  · intro hashes first firstStored second secondStored equal
    have stemmed : ∀ stored ∈ (empty.addAll added : HashSet identity).elements, stored ∈ added :=
      fun stored member => (mem_or_mem_of_mem_addAll member).resolve_left List.not_mem_nil
    have hash := hashes first (stemmed first firstStored) second (stemmed second secondStored) equal
    exact eq_of_sameKey symmetric firstStored secondStored (sameKey_iff.mpr ⟨hash, equal⟩)

/-- Elements that are pairwise unequal, also to those stored, are all added. -/
theorem elements_addAll_of_unequal {set : HashSet identity} {added : List α}
    (unequal : (set.elements ++ added).Pairwise fun stored later =>
      identity.equals later stored = false) :
    (set.addAll added).elements = set.elements ++ added := by
  induction added generalizing set with
  | nil => simp
  | cons first rest inductionHypothesis =>
      have free : ∀ stored ∈ set.elements, identity.sameKey first stored = false := by
        intro stored member
        have differ := (List.pairwise_append.mp unequal).2.2 stored member first List.mem_cons_self
        simp [Identity.sameKey, differ]
      have grown : (set.add first).elements = set.elements ++ [first] := by
        rw [elements_add, if_pos free]
      have split : set.elements ++ first :: rest = (set.add first).elements ++ rest := by
        simp [grown]
      rw [addAll_cons, inductionHypothesis (split ▸ unequal), ← split]

end HashSet

end Openpyn.Java
