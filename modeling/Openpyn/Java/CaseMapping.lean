import Openpyn.Java.Text

/-!
# Upper and lower case

The Unicode case tables are not part of the modelled code. A `CaseMapping` stands
for them, with the two facts about `String.toLowerCase` that the code relies on.
Comparing without regard to case needs no fact about them: it compares character
by character, so texts of different lengths always differ.
-/

namespace Openpyn.Java

/-- `Character.toUpperCase`, `Character.toLowerCase`, and `String.toLowerCase` of
the root locale, which may change the number of characters. -/
structure CaseMapping where
  toUpperCase : JChar → JChar
  toLowerCase : JChar → JChar
  lowerCase : JString → JString
  lowerCase_lowerCase : ∀ text, lowerCase (lowerCase text) = lowerCase text
  lowerCase_ne_nil : ∀ text, text ≠ [] → lowerCase text ≠ []

namespace CaseMapping

variable (mapping : CaseMapping)

/-- Two characters that differ in case at most, as `regionMatches` compares them. -/
def sameIgnoringCase (ch other : JChar) : Bool :=
  ch == other || mapping.toUpperCase ch == mapping.toUpperCase other ||
    mapping.toLowerCase (mapping.toUpperCase ch) ==
      mapping.toLowerCase (mapping.toUpperCase other)

/-- `String.equals(String, ignoreCase = true)`. -/
def equalsIgnoreCase : JString → JString → Bool
  | [], [] => true
  | ch :: text, other :: rest => mapping.sameIgnoringCase ch other && equalsIgnoreCase text rest
  | _, _ => false

/-- `String.startsWith(String, ignoreCase = true)`. -/
def startsWithIgnoreCase (text start : JString) : Bool :=
  mapping.equalsIgnoreCase (text.take start.length) start

variable {mapping}

theorem length_of_equalsIgnoreCase {text other : JString}
    (same : mapping.equalsIgnoreCase text other = true) : text.length = other.length := by
  induction text generalizing other with
  | nil =>
      cases other with
      | nil => rfl
      | cons => cases same
  | cons ch text inductionHypothesis =>
      cases other with
      | nil => cases same
      | cons otherCh rest =>
          rw [equalsIgnoreCase, Bool.and_eq_true] at same
          rw [List.length_cons, List.length_cons, inductionHypothesis same.2]

@[simp] theorem equalsIgnoreCase_self (text : JString) :
    mapping.equalsIgnoreCase text text = true := by
  induction text with
  | nil => rfl
  | cons ch text inductionHypothesis =>
      simp [equalsIgnoreCase, sameIgnoringCase, inductionHypothesis]

/-- The case mapping of the Basic Latin letters alone. -/
def ascii : CaseMapping where
  toUpperCase ch := if chr 'a' ≤ ch ∧ ch ≤ chr 'z' then ch - 32 else ch
  toLowerCase ch := if chr 'A' ≤ ch ∧ ch ≤ chr 'Z' then ch + 32 else ch
  lowerCase text := text.map fun ch => if chr 'A' ≤ ch ∧ ch ≤ chr 'Z' then ch + 32 else ch
  lowerCase_lowerCase text := by
    rw [List.map_map, List.map_inj_left]
    intro ch _
    have upperBound : (chr 'Z').toNat = 90 := rfl
    have lowerBound : (chr 'A').toNat = 65 := rfl
    have step : (32 : UInt16).toNat = 32 := rfl
    simp only [Function.comp_apply, UInt16.le_iff_toNat_le]
    split_ifs with letter twice
    · rw [UInt16.toNat_add] at twice
      omega
    · rfl
    · rfl
  lowerCase_ne_nil text nonempty := by simpa using nonempty

end CaseMapping
end Openpyn.Java
