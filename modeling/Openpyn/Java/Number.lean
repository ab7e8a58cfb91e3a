import Mathlib.Algebra.Ring.Int.Defs
import Mathlib.Algebra.Ring.Nat
import Openpyn.Java.Throwable

/-!
# Decimal numbers

`Integer.parseInt` and `Long.parseLong` take an optional sign and then decimal
digits of any script, as `Character.digit` knows them; they raise
`NumberFormatException` for every other text and for values outside the type.
-/

namespace Openpyn.Java

/-- The zeros of the decimal digit blocks of the basic multilingual plane. -/
def decimalZeros : List JChar :=
  [0x0030, 0x0660, 0x06F0, 0x07C0, 0x0966, 0x09E6, 0x0A66, 0x0AE6, 0x0B66, 0x0BE6, 0x0C66,
   0x0CE6, 0x0D66, 0x0DE6, 0x0E50, 0x0ED0, 0x0F20, 0x1040, 0x1090, 0x17E0, 0x1810, 0x1946,
   0x19D0, 0x1A80, 0x1A90, 0x1B50, 0x1BB0, 0x1C40, 0x1C50, 0xA620, 0xA8D0, 0xA900, 0xA9D0,
   0xA9F0, 0xAA50, 0xABF0, 0xFF10]

/-- `Character.digit(char, 10)`. -/
def digit (ch : JChar) : Option Nat :=
  (decimalZeros.find? fun zero => zero ≤ ch && ch ≤ zero + 9).map fun zero => (ch - zero).toNat

/-- The value of a digit sequence read after `value`. -/
def magnitude (value : Nat) : JString → Option Nat
  | [] => some value
  | ch :: rest =>
      match digit ch with
      | some next => magnitude (10 * value + next) rest
      | none => none

/-- The value of a nonempty digit sequence. -/
def unsignedValue (text : JString) : Option Nat :=
  if text.isEmpty then none else magnitude 0 text

/-- The value of an optionally signed digit sequence. -/
def signedValue : JString → Option Int
  | [] => none
  | first :: rest =>
      if first = chr '-' then (unsignedValue rest).map fun value => -(value : Int)
      else if first = chr '+' then (unsignedValue rest).map fun value => (value : Int)
      else (unsignedValue (first :: rest)).map fun value => (value : Int)

/-- The shared body of the two parsers, for a type with the given range. -/
def parseNumber (low high : Int) (text : JString) : Except Throwable Int :=
  match signedValue text with
  | some value =>
      if low ≤ value ∧ value ≤ high then .ok value else .error .numberFormatException
  | none => .error .numberFormatException

/-- `Integer.parseInt(String)`. -/
def parseInt (text : JString) : Except Throwable Int := parseNumber (-2 ^ 31) (2 ^ 31 - 1) text

/-- `Long.parseLong(String)`, which `Long.valueOf(String)` boxes. -/
def parseLong (text : JString) : Except Throwable Int := parseNumber (-2 ^ 63) (2 ^ 63 - 1) text

/-- A parser fails in one way only. -/
theorem parseNumber_error {low high : Int} {text : JString} {exception : Throwable}
    (failed : parseNumber low high text = .error exception) :
    exception = .numberFormatException := by
  unfold parseNumber at failed
  split at failed
  · split at failed
    · cases failed
    · injection failed with same
      exact same.symm
  · injection failed with same
    exact same.symm

theorem parseInt_error {text : JString} {exception : Throwable}
    (failed : parseInt text = .error exception) : exception = .numberFormatException :=
  parseNumber_error failed

theorem parseLong_error {text : JString} {exception : Throwable}
    (failed : parseLong text = .error exception) : exception = .numberFormatException :=
  parseNumber_error failed

/-- An ASCII digit. -/
def IsDigit (ch : JChar) : Prop := chr '0' ≤ ch ∧ ch ≤ chr '9'

instance (ch : JChar) : Decidable (IsDigit ch) := inferInstanceAs (Decidable (_ ∧ _))

/-- The value of a text of ASCII digits. -/
def decimalValue (text : JString) : Nat :=
  text.foldl (fun value ch => 10 * value + (ch - chr '0').toNat) 0

/-- A nonempty text of ASCII digits. -/
def IsDecimal (text : JString) : Prop := text ≠ [] ∧ ∀ ch ∈ text, IsDigit ch

instance (text : JString) : Decidable (IsDecimal text) := inferInstanceAs (Decidable (_ ∧ _))

theorem digit_of_isDigit {ch : JChar} (ascii : IsDigit ch) :
    digit ch = some (ch - chr '0').toNat := by
  have first : decimalZeros.find? (fun zero => zero ≤ ch && ch ≤ zero + 9) = some (chr '0') := by
    rw [decimalZeros, List.find?_cons_of_pos]
    · rfl
    · simpa [IsDigit, chr] using ascii
  rw [digit, first]
  rfl

private theorem magnitude_of_digits {text : JString} (digits : ∀ ch ∈ text, IsDigit ch)
    (value : Nat) :
    magnitude value text =
      some (text.foldl (fun value ch => 10 * value + (ch - chr '0').toNat) value) := by
  induction text generalizing value with
  | nil => rfl
  | cons ch rest inductionHypothesis =>
      have here := digit_of_isDigit (digits ch List.mem_cons_self)
      simp only [magnitude, here, List.foldl_cons]
      apply inductionHypothesis
      exact fun other member => digits other (List.mem_cons_of_mem ch member)

/-- A decimal text is its value. -/
theorem unsignedValue_of_isDecimal {text : JString} (decimal : IsDecimal text) :
    unsignedValue text = some (decimalValue text) := by
  obtain ⟨nonempty, digits⟩ := decimal
  have value := magnitude_of_digits digits 0
  rw [unsignedValue, if_neg (by simpa using nonempty), value]
  rfl

/-- A text without a sign is read like an unsigned one. -/
theorem signedValue_of_isDecimal {text : JString} (decimal : IsDecimal text) :
    signedValue text = some (decimalValue text : Int) := by
  have unsigned := unsignedValue_of_isDecimal decimal
  obtain ⟨nonempty, digits⟩ := decimal
  cases text with
  | nil => exact absurd rfl nonempty
  | cons first rest =>
      have ascii := digits first List.mem_cons_self
      have notMinus : first ≠ chr '-' := by
        rintro rfl
        exact absurd ascii (by decide)
      have notPlus : first ≠ chr '+' := by
        rintro rfl
        exact absurd ascii (by decide)
      rw [signedValue, if_neg notMinus, if_neg notPlus, unsigned]
      rfl

/-- A decimal text within the range parses to its value. -/
theorem parseNumber_of_isDecimal {low high : Int} {text : JString} (decimal : IsDecimal text)
    (inRange : low ≤ decimalValue text ∧ (decimalValue text : Int) ≤ high) :
    parseNumber low high text = .ok (decimalValue text : Int) := by
  simp only [parseNumber, signedValue_of_isDecimal decimal, if_pos inRange]

theorem parseInt_of_isDecimal {text : JString} (decimal : IsDecimal text)
    (small : decimalValue text < 2 ^ 31) : parseInt text = .ok (decimalValue text : Int) :=
  parseNumber_of_isDecimal decimal (by omega)

theorem parseLong_of_isDecimal {text : JString} (decimal : IsDecimal text)
    (small : decimalValue text < 2 ^ 63) : parseLong text = .ok (decimalValue text : Int) :=
  parseNumber_of_isDecimal decimal (by omega)

end Openpyn.Java
