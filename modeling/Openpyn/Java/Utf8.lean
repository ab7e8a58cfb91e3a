import Openpyn.Java.Text

/-!
# UTF-8

`getBytes` and `new String` with the charset UTF-8. A text is made of code points, and
one that is not has lone surrogates, which `getBytes` writes as question marks. Malformed
bytes are read as replacement characters; how many of them a replacement character
stands for is left open, as it is in the documentation.
-/

namespace Openpyn.Java

/-- `Character.isHighSurrogate`. -/
def isHighSurrogate (ch : JChar) : Bool := 0xD800 ≤ ch && ch < 0xDC00

/-- `Character.isLowSurrogate`. -/
def isLowSurrogate (ch : JChar) : Bool := 0xDC00 ≤ ch && ch < 0xE000

/-- `Character.toChars`. -/
def toChars (codePoint : Char) : JString :=
  if codePoint.toNat < 0x10000 then [codePoint.toNat.toUInt16]
  else
    let offset := codePoint.toNat - 0x10000
    [(0xD800 + offset / 0x400).toUInt16, (0xDC00 + offset % 0x400).toUInt16]

/-- `Character.toCodePoint`. -/
def toCodePoint (high low : JChar) : Char :=
  Char.ofNat (0x10000 + (high.toNat - 0xD800) * 0x400 + (low.toNat - 0xDC00))

/-- A character that is no part of a pair. -/
def loneCodePoint (ch : JChar) : Char :=
  if isHighSurrogate ch || isLowSurrogate ch then '?' else Char.ofNat ch.toNat

/-- The code points that are encoded. -/
def codePoints : JString → List Char
  | high :: low :: rest =>
      if isHighSurrogate high && isLowSurrogate low then toCodePoint high low :: codePoints rest
      else loneCodePoint high :: codePoints (low :: rest)
  | [ch] => [loneCodePoint ch]
  | [] => []

/-- A text without lone surrogates. -/
def WellFormed (text : JString) : Prop := ∃ points : List Char, text = points.flatMap toChars

/-- `getBytes(StandardCharsets.UTF_8)`. -/
def getBytes (text : JString) : List UInt8 := (codePoints text).flatMap String.utf8EncodeChar

/-- `new String(bytes, StandardCharsets.UTF_8)`. A replacement character stands for the first
byte where no code point begins, and for as many more as `malformed` says. -/
def newString (malformed : List UInt8 → Nat) : List UInt8 → JString
  | [] => []
  | byte :: rest =>
      match (byte :: rest).toByteArray.utf8DecodeChar? 0 with
      | some codePoint =>
          toChars codePoint ++ newString malformed (rest.drop (codePoint.utf8Size - 1))
      | none => 0xFFFD :: newString malformed (rest.drop (malformed (byte :: rest)))
termination_by bytes => bytes.length
decreasing_by
  · simp only [List.length_drop, List.length_cons]
    omega
  · simp only [List.length_drop, List.length_cons]
    omega

/-! ## Texts and code points -/

theorem isHighSurrogate_iff {ch : JChar} :
    isHighSurrogate ch = true ↔ 0xD800 ≤ ch.toNat ∧ ch.toNat < 0xDC00 := by
  simp [isHighSurrogate, UInt16.le_iff_toNat_le, UInt16.lt_iff_toNat_lt]

theorem isLowSurrogate_iff {ch : JChar} :
    isLowSurrogate ch = true ↔ 0xDC00 ≤ ch.toNat ∧ ch.toNat < 0xE000 := by
  simp [isLowSurrogate, UInt16.le_iff_toNat_le, UInt16.lt_iff_toNat_lt]

theorem toNat_toUInt16 (number : Nat) (small : number < 0x10000) :
    number.toUInt16.toNat = number := by
  rw [Nat.toUInt16, UInt16.toNat_ofNat']
  exact Nat.mod_eq_of_lt small

/-- No code point is a surrogate. -/
theorem toNat_codePoint (codePoint : Char) :
    codePoint.toNat < 0xD800 ∨ 0xDFFF < codePoint.toNat ∧ codePoint.toNat < 0x110000 :=
  codePoint.valid

/-- A code point of the basic plane is its own character. -/
theorem codePoints_basic {codePoint : Char} (basic : codePoint.toNat < 0x10000) (rest : JString) :
    codePoints (codePoint.toNat.toUInt16 :: rest) = codePoint :: codePoints rest := by
  have unit := toNat_toUInt16 _ basic
  have valid := toNat_codePoint codePoint
  have notHigh : isHighSurrogate codePoint.toNat.toUInt16 = false := by
    rw [Bool.eq_false_iff, Ne, isHighSurrogate_iff, unit]
    omega
  have notLow : isLowSurrogate codePoint.toNat.toUInt16 = false := by
    rw [Bool.eq_false_iff, Ne, isLowSurrogate_iff, unit]
    omega
  have lone : loneCodePoint codePoint.toNat.toUInt16 = codePoint := by
    rw [loneCodePoint, notHigh, notLow, unit]
    exact Char.ofNat_toNat codePoint
  cases rest with
  | nil => simp [codePoints, lone]
  | cons low rest => simp [codePoints, notHigh, lone]

/-- A code point is read back before any text. -/
theorem codePoints_toChars (codePoint : Char) (rest : JString) :
    codePoints (toChars codePoint ++ rest) = codePoint :: codePoints rest := by
  unfold toChars
  split_ifs with basic
  · exact codePoints_basic basic rest
  · have valid := toNat_codePoint codePoint
    have high := toNat_toUInt16 (0xD800 + (codePoint.toNat - 0x10000) / 0x400) (by omega)
    have low := toNat_toUInt16 (0xDC00 + (codePoint.toNat - 0x10000) % 0x400) (by omega)
    have isHigh := isHighSurrogate_iff.mpr (by rw [high]; omega)
    have isLow := isLowSurrogate_iff.mpr (by rw [low]; omega)
    have whole : 0x10000 + (0xD800 + (codePoint.toNat - 0x10000) / 0x400 - 0xD800) * 0x400 +
        (0xDC00 + (codePoint.toNat - 0x10000) % 0x400 - 0xDC00) = codePoint.toNat := by
      omega
    simp only [List.cons_append, List.nil_append, codePoints, isHigh, isLow, Bool.and_self,
      if_true, toCodePoint, high, low, whole, Char.ofNat_toNat]

theorem codePoints_flatMap (points : List Char) : codePoints (points.flatMap toChars) = points := by
  induction points with
  | nil => rfl
  | cons point points inductionHypothesis =>
      rw [List.flatMap_cons, codePoints_toChars, inductionHypothesis]

theorem getBytes_flatMap (points : List Char) :
    getBytes (points.flatMap toChars) = points.flatMap String.utf8EncodeChar := by
  rw [getBytes, codePoints_flatMap]

/-! ## Reading bytes -/

theorem newString_append (malformed : List UInt8 → Nat) (codePoint : Char) (rest : List UInt8) :
    newString malformed (String.utf8EncodeChar codePoint ++ rest) =
      toChars codePoint ++ newString malformed rest := by
  have read : (String.utf8EncodeChar codePoint ++ rest).toByteArray.utf8DecodeChar? 0 =
      some codePoint := by
    rw [List.toByteArray_append]
    exact ByteArray.utf8DecodeChar?_utf8EncodeChar_append
  have size := String.length_utf8EncodeChar codePoint
  cases encoded : String.utf8EncodeChar codePoint with
  | nil => exact absurd encoded String.utf8EncodeChar_ne_nil
  | cons byte more =>
      rw [encoded, List.cons_append] at read
      rw [encoded, List.length_cons] at size
      rw [List.cons_append, newString, read]
      simp only [← size, Nat.add_sub_cancel, List.drop_left]

theorem newString_flatMap (malformed : List UInt8 → Nat) (points : List Char) :
    newString malformed (points.flatMap String.utf8EncodeChar) = points.flatMap toChars := by
  induction points with
  | nil => simp [newString]
  | cons point points inductionHypothesis =>
      rw [List.flatMap_cons, newString_append, inductionHypothesis, List.flatMap_cons]

/-- A well-formed text is read back. -/
theorem newString_getBytes (malformed : List UInt8 → Nat) {text : JString}
    (wellFormed : WellFormed text) : newString malformed (getBytes text) = text := by
  obtain ⟨points, rfl⟩ := wellFormed
  rw [getBytes_flatMap, newString_flatMap]

theorem length_toChars_le (codePoint : Char) :
    (toChars codePoint).length ≤ codePoint.utf8Size := by
  unfold toChars
  split_ifs with basic
  · exact codePoint.utf8Size_pos
  · have four : codePoint.utf8Size = 4 := by
      rw [Char.utf8Size_eq_four_iff, UInt32.lt_iff_toNat_lt]
      exact Nat.lt_of_succ_le (Nat.not_lt.mp basic)
    rw [four]
    exact Nat.le_of_ble_eq_true rfl

/-- The bytes that a code point was read from are there. -/
theorem utf8Size_le_of_read {bytes : List UInt8} {codePoint : Char}
    (read : bytes.toByteArray.utf8DecodeChar? 0 = some codePoint) :
    codePoint.utf8Size ≤ bytes.length := by
  obtain ⟨rest, whole⟩ := ByteArray.exists_of_utf8DecodeChar?_eq_some read
  have sizes := congrArg ByteArray.size whole
  rw [ByteArray.size_append, List.size_toByteArray, List.size_toByteArray,
    String.length_utf8EncodeChar] at sizes
  omega

/-- A text has no more characters than it has bytes. -/
theorem length_newString_le (malformed : List UInt8 → Nat) (bytes : List UInt8) :
    (newString malformed bytes).length ≤ bytes.length := by
  induction bytes using newString.induct malformed with
  | case1 => simp [newString]
  | case2 byte rest codePoint read inductionHypothesis =>
      have here := utf8Size_le_of_read read
      have chars := length_toChars_le codePoint
      rw [List.length_drop] at inductionHypothesis
      rw [List.length_cons] at here
      simp only [newString, read, List.length_append, List.length_cons]
      omega
  | case3 byte rest unread inductionHypothesis =>
      rw [List.length_drop] at inductionHypothesis
      simp only [newString, unread, List.length_cons]
      omega

/-! ## Bytes below 128 -/

/-- Only a code point of one byte has a byte below 128. -/
theorem le_of_mem_utf8EncodeChar {codePoint : Char} (several : codePoint.utf8Size ≠ 1)
    {byte : UInt8} (member : byte ∈ String.utf8EncodeChar codePoint) : 128 ≤ byte := by
  have marked : ∀ low high : UInt8, 128 ≤ high → 128 ≤ low ||| high := by
    intro low high large
    rw [UInt8.le_iff_toNat_le] at large ⊢
    rw [UInt8.toNat_or]
    exact large.trans Nat.right_le_or
  have positive := codePoint.utf8Size_pos
  have bound := codePoint.utf8Size_le_four
  have sizes : codePoint.utf8Size = 2 ∨ codePoint.utf8Size = 3 ∨ codePoint.utf8Size = 4 := by
    omega
  rcases sizes with two | three | four
  · rw [String.utf8EncodeChar_eq_cons_cons two] at member
    simp only [List.mem_cons, List.not_mem_nil, or_false] at member
    rcases member with rfl | rfl
    · exact marked _ _ (by decide)
    · exact marked _ _ (by decide)
  · rw [String.utf8EncodeChar_eq_cons_cons_cons three] at member
    simp only [List.mem_cons, List.not_mem_nil, or_false] at member
    rcases member with rfl | rfl | rfl
    · exact marked _ _ (by decide)
    · exact marked _ _ (by decide)
    · exact marked _ _ (by decide)
  · rw [String.utf8EncodeChar_eq_cons_cons_cons_cons four] at member
    simp only [List.mem_cons, List.not_mem_nil, or_false] at member
    rcases member with rfl | rfl | rfl | rfl
    · exact marked _ _ (by decide)
    · exact marked _ _ (by decide)
    · exact marked _ _ (by decide)
    · exact marked _ _ (by decide)

theorem length_codePoints_le (text : JString) : (codePoints text).length ≤ text.length := by
  induction text using codePoints.induct with
  | case1 high low rest pair inductionHypothesis =>
      rw [codePoints, if_pos pair, List.length_cons, List.length_cons, List.length_cons]
      omega
  | case2 high low rest alone inductionHypothesis =>
      rw [codePoints, if_neg alone, List.length_cons, List.length_cons]
      omega
  | case3 ch => exact Nat.le_refl 1
  | case4 => exact Nat.le_refl 0

theorem toNat_ofNat_of_ascii {number : Nat} (ascii : number < 128) :
    (Char.ofNat number).toNat = number := by
  rw [Char.ofNat, dif_pos (Or.inl (by omega))]
  rfl

/-- A character of ASCII is a code point wherever it occurs. -/
theorem mem_codePoints {text : JString} {ch : JChar} (member : ch ∈ text)
    (ascii : ch.toNat < 128) : Char.ofNat ch.toNat ∈ codePoints text := by
  have notHigh : isHighSurrogate ch = false := by
    rw [Bool.eq_false_iff, Ne, isHighSurrogate_iff]
    omega
  have notLow : isLowSurrogate ch = false := by
    rw [Bool.eq_false_iff, Ne, isLowSurrogate_iff]
    omega
  have lone : loneCodePoint ch = Char.ofNat ch.toNat := by simp [loneCodePoint, notHigh, notLow]
  induction text using codePoints.induct with
  | case1 high low rest pair inductionHypothesis =>
      rw [Bool.and_eq_true] at pair
      rw [codePoints, if_pos (by simp [pair])]
      rcases List.mem_cons.mp member with rfl | later
      · exact absurd (notHigh.symm.trans pair.1) Bool.false_ne_true
      · rcases List.mem_cons.mp later with rfl | inRest
        · exact absurd (notLow.symm.trans pair.2) Bool.false_ne_true
        · exact List.mem_cons_of_mem _ (inductionHypothesis inRest)
  | case2 high low rest alone inductionHypothesis =>
      rw [codePoints, if_neg alone]
      rcases List.mem_cons.mp member with rfl | later
      · exact lone ▸ List.mem_cons_self
      · exact List.mem_cons_of_mem _ (inductionHypothesis later)
  | case3 other =>
      obtain rfl := List.mem_singleton.mp member
      exact List.mem_singleton.mpr lone.symm
  | case4 => cases member

/-- Each character gives one byte below 128 at most. -/
theorem countP_getBytes_le {property : UInt8 → Bool}
    (ascii : ∀ byte, property byte = true → byte < 128) (text : JString) :
    (getBytes text).countP property ≤ text.length := by
  have each : ∀ codePoint, (String.utf8EncodeChar codePoint).countP property ≤ 1 := by
    intro codePoint
    by_cases one : codePoint.utf8Size = 1
    · rw [← one, ← String.length_utf8EncodeChar]
      exact List.countP_le_length
    · have none : (String.utf8EncodeChar codePoint).countP property = 0 := by
        rw [List.countP_eq_zero]
        intro byte member holds
        have large := le_of_mem_utf8EncodeChar one member
        exact absurd (ascii byte holds) (UInt8.not_lt.mpr large)
      rw [none]
      exact Nat.zero_le 1
  have points : ∀ points : List Char,
      (points.flatMap String.utf8EncodeChar).countP property ≤ points.length := by
    intro points
    induction points with
    | nil => exact Nat.le_refl 0
    | cons point points inductionHypothesis =>
        rw [List.flatMap_cons, List.countP_append, List.length_cons, Nat.add_comm]
        exact Nat.add_le_add inductionHypothesis (each point)
  exact (points _).trans (length_codePoints_le text)

theorem utf8EncodeChar_of_ascii {byte : UInt8} (ascii : byte < 128) :
    String.utf8EncodeChar (Char.ofNat byte.toNat) = [byte] := by
  have small : byte.toNat < 128 := UInt8.lt_iff_toNat_lt.mp ascii
  have value : (Char.ofNat byte.toNat).val.toNat = byte.toNat := toNat_ofNat_of_ascii small
  have one : (Char.ofNat byte.toNat).utf8Size = 1 := by
    rw [Char.utf8Size_eq_one_iff, UInt32.le_iff_toNat_le, value]
    exact Nat.le_of_lt_succ small
  rw [String.utf8EncodeChar_eq_singleton one, List.cons.injEq, ← UInt8.toNat_inj,
    UInt32.toNat_toUInt8, value]
  exact ⟨Nat.mod_eq_of_lt (by omega), rfl⟩

/-- Bytes below 128 are code points of one byte. -/
theorem flatMap_utf8EncodeChar_of_ascii {bytes : List UInt8} (ascii : ∀ byte ∈ bytes, byte < 128) :
    (bytes.map fun byte => Char.ofNat byte.toNat).flatMap String.utf8EncodeChar = bytes := by
  induction bytes with
  | nil => rfl
  | cons byte bytes inductionHypothesis =>
      rw [List.forall_mem_cons] at ascii
      rw [List.map_cons, List.flatMap_cons, utf8EncodeChar_of_ascii ascii.1,
        inductionHypothesis ascii.2]
      rfl

/-- Such bytes are written as they were read. -/
theorem getBytes_newString_of_ascii (malformed : List UInt8 → Nat) {bytes : List UInt8}
    (ascii : ∀ byte ∈ bytes, byte < 128) : getBytes (newString malformed bytes) = bytes := by
  rw [← flatMap_utf8EncodeChar_of_ascii ascii, newString_flatMap, getBytes_flatMap]

end Openpyn.Java
