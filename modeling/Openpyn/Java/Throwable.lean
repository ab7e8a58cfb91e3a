import Openpyn.Java.Text

/-!
# Exceptions and the operations that raise them

One constructor for each exception type the modelled code throws or catches.
Array access and `String.substring` are the two library operations whose bounds
failures matter; they raise different types, which `catch` clauses tell apart.
-/

namespace Openpyn.Java

/-- The exceptions of the modelled code. -/
inductive Throwable where
  | ioException (message : JString)
  | openVpnParseException (message : JString)
  | arrayIndexOutOfBoundsException
  | illegalArgumentException (message : JString)
  | indexOutOfBoundsException
  | jsonException
  | nullPointerException
  | numberFormatException
  | parseException
  | runtimeException (cause : Throwable)
  | stringIndexOutOfBoundsException
  | unknownHostException
  | unsupportedOperationException (message : JString)
deriving DecidableEq

/-- The instances of `IOException`. -/
def Throwable.isIOException : Throwable → Bool
  | .ioException _ => true
  | .unknownHostException => true
  | _ => false

/-- The instances of `IllegalArgumentException`. -/
def Throwable.isIllegalArgumentException : Throwable → Bool
  | .illegalArgumentException _ => true
  | .numberFormatException => true
  | _ => false

/-- The instances of `OpenVpnParseException`. -/
def Throwable.isOpenVpnParseException : Throwable → Bool
  | .openVpnParseException _ => true
  | _ => false

/-- Array access `items[index]`. -/
def arrayGet {α : Type} (items : List α) (index : Int) : Except Throwable α :=
  if index < 0 then .error .arrayIndexOutOfBoundsException
  else
    match items[index.toNat]? with
    | some item => .ok item
    | none => .error .arrayIndexOutOfBoundsException

/-- `String.substring(int, int)`. -/
def substring (text : JString) (first last : Int) : Except Throwable JString :=
  if 0 ≤ first ∧ first ≤ last ∧ last ≤ text.length then
    .ok ((text.drop first.toNat).take (last - first).toNat)
  else .error .stringIndexOutOfBoundsException

/-- `String.substring(int)`. -/
def substringFrom (text : JString) (first : Int) : Except Throwable JString :=
  substring text first text.length

/-- The value, or the exception where there is none. -/
def orThrow {α : Type} (value : Option α) (exception : Throwable) : Except Throwable α :=
  value.elim (.error exception) .ok

@[simp] theorem arrayGet_natCast {α : Type} (items : List α) (index : Nat) :
    arrayGet items (index : Int) =
      match items[index]? with
      | some item => .ok item
      | none => .error .arrayIndexOutOfBoundsException := by
  rw [arrayGet, if_neg (by omega), Int.toNat_natCast]

theorem arrayGet_of_lt {α : Type} {items : List α} {index : Nat} (inside : index < items.length) :
    arrayGet items (index : Int) = .ok items[index] := by
  simp [List.getElem?_eq_getElem inside]

theorem arrayGet_of_le {α : Type} {items : List α} {index : Nat} (outside : items.length ≤ index) :
    arrayGet items (index : Int) = .error .arrayIndexOutOfBoundsException := by
  simp [List.getElem?_eq_none outside]

/-- The piece between a prefix and the rest of a text. -/
theorem substring_append (before piece after : JString) :
    substring (before ++ piece ++ after) before.length (before.length + piece.length) =
      .ok piece := by
  have inside : (0 : Int) ≤ before.length ∧ (before.length : Int) ≤ before.length + piece.length ∧
      (before.length + piece.length : Int) ≤ ((before ++ piece ++ after).length : Nat) := by
    simp only [List.length_append]
    omega
  have size : ((before.length + piece.length : Int) - before.length).toNat = piece.length := by
    omega
  rw [substring, if_pos inside, Int.toNat_natCast, size, List.append_assoc, List.drop_left,
    List.take_left]

/-- The rest of a text after a prefix. -/
theorem substringFrom_append (before after : JString) :
    substringFrom (before ++ after) before.length = .ok after := by
  have whole := substring_append before after []
  rw [List.append_nil] at whole
  rw [substringFrom, List.length_append]
  exact_mod_cast whole

theorem substring_of_negative (text : JString) (first : Int) {last : Int} (negative : last < 0) :
    substring text first last = .error .stringIndexOutOfBoundsException := by
  have outside : ¬(0 ≤ first ∧ first ≤ last ∧ last ≤ (text.length : Int)) := by omega
  rw [substring, if_neg outside]

@[simp] theorem orThrow_eq_ok_iff {α : Type} {value : Option α} {exception : Throwable}
    {result : α} : orThrow value exception = .ok result ↔ value = some result := by
  cases value <;> simp [orThrow]

/-- A computation after another returns if both do. -/
theorem bind_eq_ok_iff {α β : Type} {first : Except Throwable α}
    {second : α → Except Throwable β} {result : β} :
    first.bind second = .ok result ↔ ∃ value, first = .ok value ∧ second value = .ok result := by
  cases first <;> simp [Except.bind]

end Openpyn.Java
