import Openpyn.Java.Double
import Openpyn.Java.Integer

/-!
# Texts of floating point numbers

`Double.toString` writes the shortest decimal that rounds to the number, of two digits at
least, and of several such decimals the nearest. Numbers from a thousandth up to ten million are
written out; others have one digit before the point and an exponent.
-/

namespace Openpyn.Java

namespace Double

/-- The sign bit. -/
def isNegative (value : Double) : Bool := value.bits >>> 63 == 1

/-- The bits of the fraction. -/
def fractionBits (value : Double) : Nat := value.bits.toNat % 2 ^ 52

/-- The bits of the exponent. -/
def exponentBits (value : Double) : Nat := value.bits.toNat / 2 ^ 52 % 2 ^ 11

/-- The number without its sign as a quotient of integers. -/
def magnitudeRatio (value : Double) : Nat × Nat :=
  if value.exponentBits = 0 then (value.fractionBits, 2 ^ 1074)
  else
    let exponent : Int := value.exponentBits - 1075
    ((2 ^ 52 + value.fractionBits) * 2 ^ exponent.toNat, 2 ^ (-exponent).toNat)

/-- The number of decimal digits of an integer. -/
def digitCount (number : Nat) : Nat := (decimal number).length

/-- The exponent of the first digit of a positive quotient. -/
def floorLog10 (numerator denominator : Nat) : Int :=
  let estimate : Int := digitCount numerator - digitCount denominator
  if denominator * 10 ^ estimate.toNat ≤ numerator * 10 ^ (-estimate).toNat then estimate
  else estimate - 1

/-- The two decimals of a number of digits that are next to a quotient, the nearer one first;
half way between the two it is the even one. A decimal is an integer and a power of ten. -/
def neighbours (numerator denominator length : Nat) : List (Nat × Int) :=
  let unit := floorLog10 numerator denominator - (length - 1)
  let dividend := numerator * 10 ^ (-unit).toNat
  let divisor := denominator * 10 ^ unit.toNat
  let quotient := dividend / divisor
  let twice := 2 * (dividend % divisor)
  if divisor < twice || twice = divisor && quotient % 2 = 1 then
    [(quotient + 1, unit), (quotient, unit)]
  else [(quotient, unit), (quotient + 1, unit)]

/-- The decimal that is written. Seventeen digits are always enough. -/
def shortest (value : Double) : Nat × Int :=
  let (numerator, denominator) := value.magnitudeRatio
  let decimals := (List.range' 2 16).flatMap (neighbours numerator denominator)
  let positive := if value.isNegative then value.negate else value
  (decimals.find? fun (number, unit) => ofPower number 10 unit = positive).getD (0, 0)

/-- The digits of a decimal without the zeros at the end. -/
def significantDigits (number : Nat) : JString :=
  ((decimal number).reverse.dropWhile (· == chr '0')).reverse

/-- Digits after a point, of which there is one at least. -/
def fraction (digits : JString) : JString :=
  chr '.' :: if digits.isEmpty then [chr '0'] else digits

/-- A decimal as a text. The first digit stands for tens to the power of `exponent`. -/
def decimalText (number : Nat) (unit : Int) : JString :=
  let digits := significantDigits number
  let exponent := unit + digitCount number - 1
  if -3 ≤ exponent ∧ exponent < 0 then
    chr '0' :: fraction (List.replicate ((-exponent).toNat - 1) (chr '0') ++ digits)
  else if 0 ≤ exponent ∧ exponent < 7 then
    let whole := exponent.toNat + 1
    (digits ++ List.replicate (whole - digits.length) (chr '0')).take whole ++
      fraction (digits.drop whole)
  else digits.take 1 ++ fraction (digits.drop 1) ++ chr 'E' :: toText exponent

/-- The text of a number without its sign. -/
def unsignedText (value : Double) : JString :=
  if value.exponentBits = 2047 then lit "Infinity"
  else if value.isZero then lit "0.0"
  else
    let (number, unit) := value.shortest
    decimalText number unit

/-- `Double.toString(double)`. -/
def toString (value : Double) : JString :=
  if value.exponentBits = 2047 ∧ value.fractionBits ≠ 0 then lit "NaN"
  else if value.isNegative then chr '-' :: value.unsignedText
  else value.unsignedText

/-! ## The characters of a text -/

/-- A character of the text of a number, or of the texts for what is no number. -/
def IsNumeric (ch : JChar) : Prop := IsDigit ch ∨ ch ∈ lit "-.ENaInfity"

theorem isNumeric_zero : IsNumeric (chr '0') := .inl (by decide)

theorem isNumeric_minus : IsNumeric (chr '-') := .inr List.mem_cons_self

theorem isNumeric_toText (value : Int) : ∀ ch ∈ toText value, IsNumeric ch := by
  intro ch member
  rcases mem_toText member with rfl | digit
  · exact isNumeric_minus
  · exact .inl digit

theorem isNumeric_significantDigits (number : Nat) :
    ∀ ch ∈ significantDigits number, IsNumeric ch := by
  intro ch member
  have dropped := (List.dropWhile_sublist _).subset (List.mem_reverse.mp member)
  exact .inl ((decimal_spec number).1.2 ch (List.mem_reverse.mp dropped))

theorem isNumeric_replicate (count : Nat) :
    ∀ ch ∈ List.replicate count (chr '0'), IsNumeric ch := by
  intro ch member
  rw [List.eq_of_mem_replicate member]
  exact isNumeric_zero

theorem isNumeric_append {text other : JString} (first : ∀ ch ∈ text, IsNumeric ch)
    (second : ∀ ch ∈ other, IsNumeric ch) : ∀ ch ∈ text ++ other, IsNumeric ch :=
  fun ch member => (List.mem_append.mp member).elim (first ch) (second ch)

theorem isNumeric_fraction {digits : JString} (numeric : ∀ ch ∈ digits, IsNumeric ch) :
    ∀ ch ∈ fraction digits, IsNumeric ch := by
  unfold fraction
  rw [List.forall_mem_cons]
  refine ⟨.inr (by decide), ?_⟩
  split
  · exact fun ch member => List.mem_singleton.mp member ▸ isNumeric_zero
  · exact numeric

theorem isNumeric_decimalText (number : Nat) (unit : Int) :
    ∀ ch ∈ decimalText number unit, IsNumeric ch := by
  have digits := isNumeric_significantDigits number
  unfold decimalText
  dsimp only
  split_ifs
  · rw [List.forall_mem_cons]
    exact ⟨isNumeric_zero, isNumeric_fraction (isNumeric_append (isNumeric_replicate _) digits)⟩
  · have padded := fun count => isNumeric_append digits (isNumeric_replicate count)
    exact isNumeric_append (fun ch member => padded _ ch (List.mem_of_mem_take member))
      (isNumeric_fraction fun ch member => digits ch (List.mem_of_mem_drop member))
  · have whole : ∀ ch ∈ (significantDigits number).take 1, IsNumeric ch :=
      fun ch member => digits ch (List.mem_of_mem_take member)
    have rest : ∀ ch ∈ fraction ((significantDigits number).drop 1), IsNumeric ch :=
      isNumeric_fraction fun ch member => digits ch (List.mem_of_mem_drop member)
    apply isNumeric_append (isNumeric_append whole rest)
    rw [List.forall_mem_cons]
    exact ⟨.inr (by decide), isNumeric_toText _⟩

theorem decimalText_ne_nil (number : Nat) (unit : Int) : decimalText number unit ≠ [] := by
  unfold decimalText
  dsimp only
  split_ifs
  · exact List.cons_ne_nil _ _
  · exact List.append_ne_nil_of_right_ne_nil _ (List.cons_ne_nil _ _)
  · exact List.append_ne_nil_of_right_ne_nil _ (List.cons_ne_nil _ _)

theorem isNumeric_of_subset {text : JString} (subset : text ⊆ lit "-.ENaInfity") :
    ∀ ch ∈ text, IsNumeric ch :=
  fun _ member => .inr (subset member)

theorem unsignedText_spec (value : Double) :
    value.unsignedText ≠ [] ∧ ∀ ch ∈ value.unsignedText, IsNumeric ch := by
  unfold unsignedText
  split_ifs
  · exact ⟨by decide, isNumeric_of_subset (by decide)⟩
  · refine ⟨by decide, ?_⟩
    have zero : lit "0.0" = chr '0' :: fraction [] := by decide
    rw [zero, List.forall_mem_cons]
    exact ⟨isNumeric_zero, isNumeric_fraction fun ch member => absurd member List.not_mem_nil⟩
  · obtain ⟨number, unit⟩ := value.shortest
    exact ⟨decimalText_ne_nil number unit, isNumeric_decimalText number unit⟩

/-- The text of a number is not empty and has only such characters. -/
theorem toString_spec (value : Double) :
    value.toString ≠ [] ∧ ∀ ch ∈ value.toString, IsNumeric ch := by
  obtain ⟨nonempty, numeric⟩ := unsignedText_spec value
  unfold toString
  split_ifs
  · exact ⟨by decide, isNumeric_of_subset (by decide)⟩
  · refine ⟨List.cons_ne_nil _ _, ?_⟩
    rw [List.forall_mem_cons]
    exact ⟨isNumeric_minus, numeric⟩
  · exact ⟨nonempty, numeric⟩

end Double
end Openpyn.Java
