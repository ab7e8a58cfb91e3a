import Openpyn.Java.Number

/-!
# Integers and their texts

`long` arithmetic wraps around, and its division rounds towards zero. Numbers are
written in decimal with a minus sign for negative values, and what
`Integer.toString` or `Long.toString` writes is read back by the parsers.
-/

namespace Openpyn.Java

/-- The value of a `long` computation whose exact result is `value`. -/
def wrapLong (value : Int) : Int := value.bmod (2 ^ 64)

/-- The result of a computation that stays in range is exact. -/
theorem wrapLong_of_range {value : Int} (low : -2 ^ 63 ≤ value) (high : value < 2 ^ 63) :
    wrapLong value = value := by
  apply Int.bmod_eq_of_le
  · omega
  · omega

/-- The `long` division of a nonnegative quotient, compared with a positive
bound. -/
theorem le_tdiv_iff {value period bound : Int} (positive : 0 < period) (lower : 0 < bound) :
    bound ≤ value.tdiv period ↔ bound * period ≤ value := by
  rcases Int.lt_or_le value 0 with negative | nonnegative
  · have quotient : value.tdiv period ≤ 0 := by
      rw [← Int.neg_neg value, Int.neg_tdiv]
      have opposite : 0 ≤ (-value).tdiv period := Int.tdiv_nonneg (by omega) (by omega)
      omega
    have product : 0 < bound * period := Int.mul_pos lower positive
    omega
  · rw [Int.tdiv_eq_ediv_of_nonneg nonnegative]
    exact Int.le_ediv_iff_mul_le positive

/-- The decimal digits of a number. -/
def decimal (value : Nat) : JString := (Nat.toDigits 10 value).map chr

/-- `Integer.toString(int)` and `Long.toString(long)`. -/
def toText (value : Int) : JString :=
  if value < 0 then chr '-' :: decimal value.natAbs else decimal value.natAbs

private theorem digitChar_spec :
    ∀ value : Fin 10, IsDigit (chr (Nat.digitChar value)) ∧
      (chr (Nat.digitChar value) - chr '0').toNat = value := by
  decide

private theorem decimalValue_concat (text : JString) (ch : JChar) :
    decimalValue (text ++ [ch]) = 10 * decimalValue text + (ch - chr '0').toNat := by
  simp [decimalValue]

/-- The digits of a number are decimal, and their value is the number. -/
theorem decimal_spec (value : Nat) :
    IsDecimal (decimal value) ∧ decimalValue (decimal value) = value := by
  induction value using Nat.strong_induction_on with
  | _ value inductionHypothesis =>
    by_cases small : value < 10
    · obtain ⟨ascii, same⟩ := digitChar_spec ⟨value, small⟩
      have single : decimal value = [chr (Nat.digitChar value)] := by
        rw [decimal, Nat.toDigits_of_lt_base small]
        rfl
      rw [single]
      refine ⟨⟨List.cons_ne_nil _ _, by simpa using ascii⟩, ?_⟩
      simpa [decimalValue] using same
    · have below : value / 10 < value := by omega
      obtain ⟨⟨nonempty, digits⟩, same⟩ := inductionHypothesis (value / 10) below
      obtain ⟨ascii, last⟩ := digitChar_spec ⟨value % 10, Nat.mod_lt value (by omega)⟩
      have more : decimal value = decimal (value / 10) ++ [chr (Nat.digitChar (value % 10))] := by
        rw [decimal, Nat.toDigits_of_base_le (by omega) (by omega)]
        simp [decimal]
      rw [more]
      refine ⟨⟨by simp, ?_⟩, ?_⟩
      · intro ch member
        rcases List.mem_append.mp member with early | final
        · exact digits ch early
        · rw [List.mem_singleton.mp final]
          exact ascii
      · rw [decimalValue_concat, same, last]
        exact Nat.div_add_mod value 10

/-- A written number is read back. -/
theorem signedValue_toText (value : Int) : signedValue (toText value) = some value := by
  obtain ⟨decimals, same⟩ := decimal_spec value.natAbs
  unfold toText
  split
  · rw [signedValue, if_pos rfl, unsignedValue_of_isDecimal decimals, same]
    have negative : -(value.natAbs : Int) = value := by omega
    exact congrArg some negative
  · rw [signedValue_of_isDecimal decimals, same, Option.some_inj]
    omega

theorem parseNumber_toText {low high value : Int} (inRange : low ≤ value ∧ value ≤ high) :
    parseNumber low high (toText value) = .ok value := by
  simp only [parseNumber, signedValue_toText, if_pos inRange]

/-- The characters of a written number. -/
theorem mem_toText {value : Int} {ch : JChar} (member : ch ∈ toText value) :
    ch = chr '-' ∨ IsDigit ch := by
  have digits := (decimal_spec value.natAbs).1.2
  unfold toText at member
  split at member
  · rcases List.mem_cons.mp member with sign | rest
    · exact .inl sign
    · exact .inr (digits ch rest)
  · exact .inr (digits ch member)

end Openpyn.Java
