import Openpyn.Java.Text

/-!
# Base64

`android.util.Base64`: bytes are encoded without line breaks and decoded with the default
flags. The decoder skips every byte that is not in the alphabet and does without the
padding, but padding that is there must be in its place.
-/

namespace Openpyn.Java.Base64

/-- Consecutive bytes. -/
def run (first : UInt8) (count : Nat) : List UInt8 :=
  (List.range count).map fun index => first + index.toUInt8

/-- The alphabet in the order of the values: letters, small letters, digits, `+` and `/`. -/
def alphabet : List UInt8 := run 65 26 ++ run 97 26 ++ run 48 10 ++ [43, 47]

/-- `ENCODE`. -/
def symbol (value : Nat) : UInt8 := alphabet.getD value 0

/-- `DECODE`, without its entries `SKIP` and `EQUALS`. -/
def valueOf (byte : UInt8) : Option Nat := alphabet.idxOf? byte

/-- The byte `=`. -/
def equals : UInt8 := 61

/-- `encode` with the flag `NO_WRAP`. -/
def encode : List UInt8 → List UInt8
  | first :: second :: third :: rest =>
      let value := (first.toNat * 256 + second.toNat) * 256 + third.toNat
      symbol (value / 262144) :: symbol (value / 4096 % 64) :: symbol (value / 64 % 64) ::
        symbol (value % 64) :: encode rest
  | [first, second] =>
      let value := (first.toNat * 256 + second.toNat) * 4
      [symbol (value / 4096), symbol (value / 64 % 64), symbol (value % 64), equals]
  | [first] =>
      let value := first.toNat * 16
      [symbol (value / 64), symbol (value % 64), equals, equals]
  | [] => []

/-- The bits of a group of values, `value` in the decoder. -/
def bits (group : List Nat) : Nat := group.foldl (fun number value => number * 64 + value) 0

/-- The bytes of a group of four values. -/
def wholeBytes (group : List Nat) : List UInt8 :=
  [(bits group / 65536).toUInt8, (bits group / 256).toUInt8, (bits group).toUInt8]

/-- The bytes of the last group if it is not a whole one. -/
def lastBytes (group : List Nat) : Option (List UInt8) :=
  match group.length with
  | 0 => some []
  | 2 => some [(bits group / 16).toUInt8]
  | 3 => some [(bits group / 1024).toUInt8, (bits group / 4).toUInt8]
  | _ => none

/-- Nothing but skipped bytes and the given number of further `=` follows. -/
def isPadding (missing : Nat) (bytes : List UInt8) : Bool :=
  bytes.filter (fun byte => byte = equals || (valueOf byte).isSome) =
    List.replicate missing equals

/-- `decode` with the flag `DEFAULT` after the pending values of a group, which are the
states 0 to 3 of the decoder. -/
def decodeAfter (pending : List Nat) : List UInt8 → Option (List UInt8)
  | [] => lastBytes pending
  | byte :: rest =>
      match valueOf byte with
      | some value =>
          if pending.length < 3 then decodeAfter (pending ++ [value]) rest
          else (decodeAfter [] rest).map (wholeBytes (pending ++ [value]) ++ ·)
      | none =>
          if byte ≠ equals then decodeAfter pending rest
          else if 2 ≤ pending.length ∧ isPadding (3 - pending.length) rest then lastBytes pending
          else none

/-- `decode` with the flag `DEFAULT`; `none` is an `IllegalArgumentException`. -/
def decode (bytes : List UInt8) : Option (List UInt8) := decodeAfter [] bytes

/-! ## The alphabet -/

theorem valueOf_symbol {value : Nat} (small : value < 64) :
    valueOf (symbol value) = some value := by
  have all : ∀ value < 64, valueOf (symbol value) = some value := by decide +kernel
  exact all value small

@[simp] theorem valueOf_equals : valueOf equals = none := by decide +kernel

theorem mem_alphabet_lt {byte : UInt8} (member : byte ∈ alphabet) : byte < 128 := by
  have all : alphabet.all fun byte => byte < 128 := by decide +kernel
  simpa using List.all_eq_true.mp all byte member

theorem valueOf_isSome_lt {byte : UInt8} (known : (valueOf byte).isSome = true) : byte < 128 := by
  rw [valueOf, List.isSome_idxOf?] at known
  exact mem_alphabet_lt known

theorem symbol_lt (value : Nat) : symbol value < 128 := by
  rw [symbol, List.getD_eq_getElem?_getD]
  cases found : alphabet[value]? with
  | none => decide
  | some byte => exact mem_alphabet_lt (List.mem_of_getElem? found)

/-- The encoder writes ASCII. -/
theorem encode_lt (bytes : List UInt8) : ∀ byte ∈ encode bytes, byte < 128 := by
  induction bytes using encode.induct with
  | case1 first second third rest inductionHypothesis =>
      simp only [encode, List.forall_mem_cons]
      exact ⟨symbol_lt _, symbol_lt _, symbol_lt _, symbol_lt _, inductionHypothesis⟩
  | case2 first second =>
      simp only [encode, List.forall_mem_cons]
      exact ⟨symbol_lt _, symbol_lt _, symbol_lt _, by decide, by simp⟩
  | case3 first =>
      simp only [encode, List.forall_mem_cons]
      exact ⟨symbol_lt _, symbol_lt _, by decide, by decide, by simp⟩
  | case4 => simp [encode]

/-! ## Decoding -/

/-- Fewer than three pending values wait for the next one. -/
theorem decodeAfter_symbol {pending : List Nat} (short : pending.length < 3) {value : Nat}
    (small : value < 64) (rest : List UInt8) :
    decodeAfter pending (symbol value :: rest) = decodeAfter (pending ++ [value]) rest := by
  simp only [decodeAfter, valueOf_symbol small, if_pos short]

theorem decodeAfter_symbols {pending values : List Nat}
    (short : pending.length + values.length ≤ 3) (small : ∀ value ∈ values, value < 64)
    (rest : List UInt8) :
    decodeAfter pending (values.map symbol ++ rest) = decodeAfter (pending ++ values) rest := by
  induction values generalizing pending with
  | nil => rw [List.map_nil, List.nil_append, List.append_nil]
  | cons value values inductionHypothesis =>
      rw [List.forall_mem_cons] at small
      rw [List.length_cons] at short
      rw [List.map_cons, List.cons_append, decodeAfter_symbol (by omega) small.1,
        inductionHypothesis _ small.2, List.append_assoc, List.singleton_append]
      rw [List.length_append, List.length_singleton]
      omega

/-- A fourth value completes the group. -/
theorem decodeAfter_fourth {pending : List Nat} (three : pending.length = 3) {value : Nat}
    (small : value < 64) (rest : List UInt8) :
    decodeAfter pending (symbol value :: rest) =
      (decodeAfter [] rest).map (wholeBytes (pending ++ [value]) ++ ·) := by
  have complete : ¬pending.length < 3 := by omega
  simp only [decodeAfter, valueOf_symbol small, if_neg complete]

/-- Padding in its place ends the last group. -/
theorem decodeAfter_padding {pending : List Nat} (several : 2 ≤ pending.length) {rest : List UInt8}
    (padding : isPadding (3 - pending.length) rest = true) :
    decodeAfter pending (equals :: rest) = lastBytes pending := by
  simp only [decodeAfter, valueOf_equals, ne_eq, not_true_eq_false, if_false,
    if_pos (And.intro several padding)]

theorem toUInt8_eq {number : Nat} (byte : UInt8) (same : number % 256 = byte.toNat) :
    number.toUInt8 = byte := by
  rw [← UInt8.toNat_inj, Nat.toUInt8, UInt8.toNat_ofNat']
  exact same

/-- Three bytes are encoded to four symbols. -/
theorem decodeAfter_group {value : Nat} (small : value < 16777216) (rest : List UInt8) :
    decodeAfter [] (symbol (value / 262144) :: symbol (value / 4096 % 64) ::
        symbol (value / 64 % 64) :: symbol (value % 64) :: rest) =
      (decodeAfter [] rest).map
        ([(value / 65536).toUInt8, (value / 256).toUInt8, value.toUInt8] ++ ·) := by
  have whole : bits [value / 262144, value / 4096 % 64, value / 64 % 64, value % 64] = value := by
    simp only [bits, List.foldl_cons, List.foldl_nil]
    omega
  have three : decodeAfter [] ([value / 262144, value / 4096 % 64, value / 64 % 64].map symbol ++
      symbol (value % 64) :: rest) = _ := decodeAfter_symbols (by simp) (by simp; omega) _
  refine three.trans ?_
  rw [List.nil_append, decodeAfter_fourth rfl (by omega), List.cons_append, List.cons_append,
    List.singleton_append, wholeBytes, whole]

/-- Two bytes are encoded to three symbols and one `=`. -/
theorem decodeAfter_two {value : Nat} (small : value < 262144) :
    decodeAfter [] [symbol (value / 4096), symbol (value / 64 % 64), symbol (value % 64), equals] =
      some [(value / 1024).toUInt8, (value / 4).toUInt8] := by
  have whole : bits [value / 4096, value / 64 % 64, value % 64] = value := by
    simp only [bits, List.foldl_cons, List.foldl_nil]
    omega
  have three : decodeAfter [] ([value / 4096, value / 64 % 64, value % 64].map symbol ++
      [equals]) = _ := decodeAfter_symbols (by simp) (by simp; omega) _
  have last : decodeAfter [value / 4096, value / 64 % 64, value % 64] [equals] = _ :=
    decodeAfter_padding (by simp) rfl
  refine three.trans ?_
  rw [List.nil_append, last]
  simp only [lastBytes, List.length_cons, List.length_nil, whole]

/-- One byte is encoded to two symbols and two `=`. -/
theorem decodeAfter_one {value : Nat} (small : value < 4096) :
    decodeAfter [] [symbol (value / 64), symbol (value % 64), equals, equals] =
      some [(value / 16).toUInt8] := by
  have whole : bits [value / 64, value % 64] = value := by
    simp only [bits, List.foldl_cons, List.foldl_nil]
    omega
  have two : decodeAfter [] ([value / 64, value % 64].map symbol ++ [equals, equals]) = _ :=
    decodeAfter_symbols (by simp) (by simp; omega) _
  have last : decodeAfter [value / 64, value % 64] [equals, equals] = _ :=
    decodeAfter_padding (by simp) (show isPadding 1 [equals] = true by decide +kernel)
  refine two.trans ?_
  rw [List.nil_append, last]
  simp only [lastBytes, List.length_cons, List.length_nil, whole]

/-- What is encoded is decoded to the same bytes. -/
theorem decode_encode (bytes : List UInt8) : decode (encode bytes) = some bytes := by
  rw [decode]
  induction bytes using encode.induct with
  | case1 first second third rest inductionHypothesis =>
      have firstBound := first.toNat_lt
      have secondBound := second.toNat_lt
      have thirdBound := third.toNat_lt
      simp only [encode]
      rw [decodeAfter_group (by omega), inductionHypothesis, Option.map_some,
        toUInt8_eq first (by omega), toUInt8_eq second (by omega), toUInt8_eq third (by omega)]
      rfl
  | case2 first second =>
      have firstBound := first.toNat_lt
      have secondBound := second.toNat_lt
      simp only [encode]
      rw [decodeAfter_two (by omega), toUInt8_eq first (by omega), toUInt8_eq second (by omega)]
  | case3 first =>
      have firstBound := first.toNat_lt
      simp only [encode]
      rw [decodeAfter_one (by omega), toUInt8_eq first (by omega)]
  | case4 => rfl

theorem length_lastBytes_le {group : List Nat} {decoded : List UInt8}
    (result : lastBytes group = some decoded) : decoded.length ≤ group.length := by
  unfold lastBytes at result
  split at result
  · cases result
    exact Nat.zero_le _
  · rename_i size
    cases result
    simp [size]
  · rename_i size
    cases result
    simp [size]
  · cases result

/-- Every decoded byte takes a byte of the alphabet. -/
theorem length_decodeAfter_le {pending : List Nat} {bytes decoded : List UInt8}
    (result : decodeAfter pending bytes = some decoded) :
    decoded.length ≤ pending.length + bytes.countP fun byte => (valueOf byte).isSome := by
  induction bytes generalizing pending decoded with
  | nil => exact length_lastBytes_le result
  | cons byte bytes inductionHypothesis =>
      rw [List.countP_cons]
      cases known : valueOf byte with
      | some value =>
          simp only [decodeAfter, known] at result
          split_ifs at result with short
          · have later := inductionHypothesis result
            rw [List.length_append, List.length_singleton] at later
            simp only [Option.isSome_some, if_true]
            omega
          · obtain ⟨rest, later, rfl⟩ := Option.map_eq_some_iff.mp result
            have bound := inductionHypothesis later
            rw [List.length_nil] at bound
            simp only [wholeBytes, List.length_append, List.length_cons, List.length_nil,
              Option.isSome_some, if_true]
            omega
      | none =>
          simp only [decodeAfter, known] at result
          split_ifs at result
          · have later := inductionHypothesis result
            omega
          · have last := length_lastBytes_le result
            omega

end Openpyn.Java.Base64
