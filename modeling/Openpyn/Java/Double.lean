import Mathlib.Algebra.Ring.Int.Defs
import Mathlib.Algebra.Ring.Nat
import Openpyn.Java.Text

/-!
# Floating point numbers

A `double` is its 64 bits in the IEEE 754 format. `Double.valueOf` reads a decimal or a
hexadecimal literal of any length and rounds it to the nearest double.
-/

namespace Openpyn.Java

/-- A Java `double`. -/
structure Double where
  bits : UInt64
deriving DecidableEq

namespace Double

def zero : Double := ⟨0⟩

def nan : Double := ⟨0x7FF8000000000000⟩

def infinity : Double := ⟨0x7FF0000000000000⟩

/-- Neither infinite nor NaN: not all bits of the exponent are set. -/
def isFinite (value : Double) : Bool := (value.bits >>> 52) &&& 0x7FF != 0x7FF

@[simp] theorem isFinite_zero : zero.isFinite = true := by decide

/-- The comparison `value == 0.0`, true of both zeros and of no NaN. -/
def isZero (value : Double) : Bool := value.bits <<< 1 == 0

/-- The unary minus. -/
def negate (value : Double) : Double := ⟨value.bits ^^^ 0x8000000000000000⟩

/-- The exponent of the highest bit of a positive quotient. -/
def floorLog (numerator denominator : Nat) : Int :=
  let estimate : Int := numerator.log2 - denominator.log2
  if denominator * 2 ^ estimate.toNat ≤ numerator * 2 ^ (-estimate).toNat then estimate
  else estimate - 1

/-- The double nearest to a quotient; half way between two it is the even one. The bits of
the exponent continue those of the significand, so a carry out of the one goes to the other. -/
def ofRatio (numerator denominator : Nat) : Double :=
  if numerator = 0 then zero
  else
    let unit := max (-1074) (floorLog numerator denominator - 52)
    let dividend := numerator * 2 ^ (-unit).toNat
    let divisor := denominator * 2 ^ unit.toNat
    let quotient := dividend / divisor
    let twice := 2 * (dividend % divisor)
    let up := divisor < twice || twice = divisor && quotient % 2 = 1
    let bits := (unit + 1074).toNat * 2 ^ 52 + if up then quotient + 1 else quotient
    if bits < infinity.bits.toNat then ⟨bits.toUInt64⟩ else infinity

/-- The double nearest to `significand * base ^ exponent`. -/
def ofPower (significand base : Nat) (exponent : Int) : Double :=
  ofRatio (significand * base ^ exponent.toNat) (base ^ (-exponent).toNat)

/-! ## Literals -/

/-- The value of an ASCII digit of a base up to 16. -/
def digitOf (base : Nat) (ch : JChar) : Option Nat :=
  let value :=
    if chr '0' ≤ ch ∧ ch ≤ chr '9' then (ch - chr '0').toNat
    else if chr 'a' ≤ ch ∧ ch ≤ chr 'f' then (ch - chr 'a').toNat + 10
    else if chr 'A' ≤ ch ∧ ch ≤ chr 'F' then (ch - chr 'A').toNat + 10
    else base
  if value < base then some value else none

/-- The leading digits of a text, and the rest. -/
def digits (base : Nat) : JString → List Nat × JString
  | [] => ([], [])
  | ch :: text =>
      match digitOf base ch with
      | some value => let (more, rest) := digits base text; (value :: more, rest)
      | none => ([], ch :: text)

/-- The number that digits stand for. -/
def ofDigits (base : Nat) (values : List Nat) : Nat :=
  values.foldl (fun number value => base * number + value) 0

/-- Digits with or without a point, one digit at least: the digits before the point and
after it, and the rest. -/
def significand (base : Nat) (text : JString) : Option (List Nat × List Nat × JString) :=
  let (whole, rest) := digits base text
  let (fraction, rest) :=
    match rest with
    | ch :: tail => if ch = chr '.' then digits base tail else ([], ch :: tail)
    | [] => ([], [])
  if whole.isEmpty && fraction.isEmpty then none else some (whole, fraction, rest)

/-- A decimal number with or without a sign, and the rest. -/
def signedInteger (text : JString) : Option (Int × JString) :=
  let (minus, unsigned) :=
    match text with
    | ch :: tail =>
        if ch = chr '-' then (true, tail) else if ch = chr '+' then (false, tail) else (false, text)
    | [] => (false, text)
  let (values, rest) := digits 10 unsigned
  if values.isEmpty then none
  else
    let number : Int := ofDigits 10 values
    some (if minus then -number else number, rest)

/-- An exponent after one of the two letters that announce it, and the rest. -/
def exponentAfter (letters : List JChar) : JString → Option (Int × JString)
  | ch :: text => if ch ∈ letters then signedInteger text else none
  | [] => none

/-- A type suffix may follow the number. -/
def isSuffix : JString → Bool
  | [] => true
  | [ch] => ch ∈ [chr 'f', chr 'F', chr 'd', chr 'D']
  | _ => false

/-- A literal in base ten; the exponent may be missing. -/
def decimalLiteral (text : JString) : Option Double := do
  let (whole, fraction, rest) ← significand 10 text
  let letters := [chr 'e', chr 'E']
  let (exponent, rest) ←
    if (rest.head?.any fun ch => ch ∈ letters) then exponentAfter letters rest else some (0, rest)
  if isSuffix rest then
    some (ofPower (ofDigits 10 (whole ++ fraction)) 10 (exponent - fraction.length))
  else none

/-- A literal in base sixteen after its mark; the exponent, a power of two, is required. -/
def hexLiteral (text : JString) : Option Double := do
  let (whole, fraction, rest) ← significand 16 text
  let (exponent, rest) ← exponentAfter [chr 'p', chr 'P'] rest
  if isSuffix rest then
    some (ofPower (ofDigits 16 (whole ++ fraction)) 2 (exponent - 4 * fraction.length))
  else none

/-- A number without a sign. -/
def unsignedLiteral (text : JString) : Option Double :=
  if text = lit "NaN" then some nan
  else if text = lit "Infinity" then some infinity
  else if startsWith text (lit "0x") || startsWith text (lit "0X") then hexLiteral (text.drop 2)
  else decimalLiteral text

/-- `String.trim()`: the outer characters up to the space go. -/
def trim (text : JString) : JString :=
  ((text.dropWhile (· ≤ chr ' ')).reverse.dropWhile (· ≤ chr ' ')).reverse

/-- `Double.valueOf(String)`; `none` is a `NumberFormatException`. -/
def valueOf (text : JString) : Option Double :=
  match trim text with
  | [] => none
  | ch :: rest =>
      if ch = chr '-' then (unsignedLiteral rest).map negate
      else if ch = chr '+' then unsignedLiteral rest
      else unsignedLiteral (ch :: rest)

end Double
end Openpyn.Java
