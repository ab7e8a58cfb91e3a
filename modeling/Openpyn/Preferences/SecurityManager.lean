import Openpyn.Java.Base64
import Openpyn.Java.Throwable
import Openpyn.Java.Utf8

/-!
# Encrypted preferences

`SecurityManager` stores a text as the Base64 form of an IV and a ciphertext. In both
directions it falls back to the text it was given when one of the checked exceptions of
the cipher is raised. Base64 and the IV raise an unchecked one, which passes. The cipher
is the platform's, and the logs are left out.
-/

namespace Openpyn.Preferences

open Java

/-- `IV_LENGTH`. -/
def ivLength : Nat := 16

/-- The bytes of `SecureRandom.nextBytes` for an IV. -/
abbrev Iv := {iv : List UInt8 // iv.length = ivLength}

/-- The cipher `AES/GCM/NoPadding` under the key of the device: what `doFinal` returns in
either mode for an IV and an input, unless one of the checked exceptions is raised. -/
structure AesGcm where
  encrypt : List UInt8 → List UInt8 → Option (List UInt8)
  decrypt : List UInt8 → List UInt8 → Option (List UInt8)
  decrypt_eq_some_iff : ∀ iv cipherBytes clearText,
    decrypt iv cipherBytes = some clearText ↔ encrypt iv clearText = some cipherBytes
  length_le : ∀ iv clearText cipherBytes,
    encrypt iv clearText = some cipherBytes → clearText.length ≤ cipherBytes.length

/-- `new IvParameterSpec(byte[], int, int)`. -/
def ivParameterSpec (iv : List UInt8) (offset length : Nat) : Except Throwable (List UInt8) :=
  if iv.length < offset + length then
    .error (.illegalArgumentException
      (lit "IV buffer too short for given offset/length combination"))
  else .ok ((iv.drop offset).take length)

/-- `Base64.decode(String, int)`. -/
def base64Decode (text : JString) : Except Throwable (List UInt8) :=
  orThrow (Base64.decode (getBytes text)) (.illegalArgumentException (lit "bad base-64"))

/-- The platform of a `SecurityManager`: its cipher, and how many malformed bytes a replacement
character stands for. -/
structure SecurityManager where
  cipher : AesGcm
  malformed : List UInt8 → Nat

namespace SecurityManager

variable (manager : SecurityManager)

/-- `decryptString`. -/
def decryptString (stringToDecrypt : JString) : Except Throwable JString :=
  if stringToDecrypt.isEmpty then .ok stringToDecrypt
  else
    (base64Decode stringToDecrypt).bind fun encryptedBytes =>
    (ivParameterSpec encryptedBytes 0 ivLength).bind fun iv =>
    .ok ((manager.cipher.decrypt iv (encryptedBytes.drop ivLength)).elim stringToDecrypt
      (newString manager.malformed))

/-- `concat`. -/
def concat (arrays : List (List UInt8)) : List UInt8 := arrays.flatten

/-- `encryptString`, given the IV. -/
def encryptString (iv : Iv) (stringToEncrypt : JString) : JString :=
  if stringToEncrypt.isEmpty then stringToEncrypt
  else
    (manager.cipher.encrypt iv.val (getBytes stringToEncrypt)).elim stringToEncrypt
      fun cipherBytes => newString manager.malformed (Base64.encode (concat [iv.val, cipherBytes]))

/-- `SecuredEditTextPreference.getText`, given the stored text. -/
def getText (stored : Option JString) : Except Throwable (Option JString) :=
  match stored with
  | none => .ok none
  | some text => if text.isEmpty then .ok text else (manager.decryptString text).map some

/-- `SecuredEditTextPreference.setText`: the text that is stored. -/
def setText (iv : Iv) (text : Option JString) : Option JString :=
  text.map fun text => if text.isEmpty then text else manager.encryptString iv text

/-- The text was made of the clear text, and not by the fallback. -/
def Encrypts (clear text : JString) : Prop :=
  ∃ iv : Iv, (clear = [] ∨ (manager.cipher.encrypt iv.val (getBytes clear)).isSome = true) ∧
    manager.encryptString iv clear = text

/-- Nothing is thrown; the clear text of a ciphertext is returned, and any other text itself. -/
def Restores (text : JString) : Prop :=
  ∃ output, manager.decryptString text = .ok output ∧
    (∀ clear, WellFormed clear → manager.Encrypts clear text → output = clear) ∧
    ((¬∃ clear, WellFormed clear ∧ manager.Encrypts clear text) → output = text)

/-- The text is empty, or it has the bytes of an IV at least, and nothing is decrypted of it
but what was encrypted to it. -/
def Genuine (text : JString) : Prop :=
  text = [] ∨ ∃ bytes, Base64.decode (getBytes text) = some bytes ∧ ivLength ≤ bytes.length ∧
    ((manager.cipher.decrypt (bytes.take ivLength) (bytes.drop ivLength)).isSome = true →
      ∃ clear, WellFormed clear ∧ manager.Encrypts clear text)

variable {manager}

/-! ## Ciphertexts -/

@[simp] theorem decryptString_nil : manager.decryptString [] = .ok [] := rfl

@[simp] theorem encryptString_nil (iv : Iv) : manager.encryptString iv [] = [] := rfl

/-- The layout of a ciphertext that is read back. -/
theorem decode_encryptString {iv : Iv} {clear : JString} (nonempty : clear ≠ [])
    {cipherBytes : List UInt8}
    (encrypted : manager.cipher.encrypt iv.val (getBytes clear) = some cipherBytes) :
    Base64.decode (getBytes (manager.encryptString iv clear)) = some (iv.val ++ cipherBytes) := by
  have whole : manager.encryptString iv clear =
      newString manager.malformed (Base64.encode (iv.val ++ cipherBytes)) := by
    simp [encryptString, nonempty, encrypted, concat]
  rw [whole, getBytes_newString_of_ascii _ (Base64.encode_lt _), Base64.decode_encode]

/-- A text with the bytes of an IV is decrypted or returned as it is. -/
theorem decryptString_of_decode {text : JString} (nonempty : text ≠ []) {bytes : List UInt8}
    (decoded : Base64.decode (getBytes text) = some bytes) (long : ivLength ≤ bytes.length) :
    manager.decryptString text =
      .ok ((manager.cipher.decrypt (bytes.take ivLength) (bytes.drop ivLength)).elim text
        (newString manager.malformed)) := by
  have enough : ¬bytes.length < 0 + ivLength := by omega
  simp only [decryptString, List.isEmpty_iff, nonempty, base64Decode, decoded, orThrow,
    Option.elim_some, Except.bind, ivParameterSpec, enough, List.drop_zero, if_false]

/-- A text that is not empty is decrypted only if it has the bytes of an IV. -/
theorem exists_decode_of_ok {text output : JString} (nonempty : text ≠ [])
    (result : manager.decryptString text = .ok output) :
    ∃ bytes, Base64.decode (getBytes text) = some bytes ∧ ivLength ≤ bytes.length := by
  rw [decryptString, if_neg (by simpa using nonempty), bind_eq_ok_iff] at result
  obtain ⟨bytes, decoded, result⟩ := result
  obtain ⟨iv, spec, -⟩ := bind_eq_ok_iff.mp result
  refine ⟨bytes, orThrow_eq_ok_iff.mp decoded, ?_⟩
  unfold ivParameterSpec at spec
  split_ifs at spec with short
  omega

/-- What was encrypted is decrypted. -/
theorem decryptString_of_encrypts {clear text : JString} (wellFormed : WellFormed clear)
    (encrypts : manager.Encrypts clear text) : manager.decryptString text = .ok clear := by
  obtain ⟨iv, succeeds, rfl⟩ := encrypts
  by_cases empty : clear = []
  · subst empty
    rw [encryptString_nil, decryptString_nil]
  · obtain ⟨cipherBytes, encrypted⟩ := Option.isSome_iff_exists.mp (succeeds.resolve_left empty)
    have decoded := decode_encryptString empty encrypted
    have nonempty : manager.encryptString iv clear ≠ [] := by
      intro nothing
      rw [nothing] at decoded
      have sizes := congrArg List.length (Option.some.inj decoded)
      rw [List.length_append, iv.property, List.length_nil, ivLength] at sizes
      omega
    have long : ivLength ≤ (iv.val ++ cipherBytes).length := by
      rw [List.length_append, iv.property]
      exact Nat.le_add_right _ _
    have decrypted := (manager.cipher.decrypt_eq_some_iff _ _ _).mpr encrypted
    rw [decryptString_of_decode nonempty decoded long, List.take_left' iv.property,
      List.drop_left' iv.property, decrypted, Option.elim_some, newString_getBytes _ wellFormed]

theorem getText_some (text : JString) :
    manager.getText (some text) = (manager.decryptString text).map some := by
  cases text with
  | nil => rfl
  | cons ch text => rfl

theorem setText_some (iv : Iv) (text : JString) :
    manager.setText iv (some text) = some (manager.encryptString iv text) := by
  cases text with
  | nil => rfl
  | cons ch text => rfl

/-- The preference returns the text that was set. -/
theorem getText_setText {iv : Iv} {text : JString} (wellFormed : WellFormed text)
    (succeeds : (manager.cipher.encrypt iv.val (getBytes text)).isSome = true) :
    manager.getText (manager.setText iv (some text)) = .ok (some text) := by
  have decrypted := decryptString_of_encrypts wellFormed ⟨iv, .inr succeeds, rfl⟩
  rw [setText_some, getText_some, decrypted]
  rfl

/-! ## Other texts -/

/-- A text is longer than what is decrypted of it. -/
theorem newString_ne_text {text : JString} {bytes clearText : List UInt8}
    (decoded : Base64.decode (getBytes text) = some bytes) (long : ivLength ≤ bytes.length)
    (decrypted : manager.cipher.decrypt (bytes.take ivLength) (bytes.drop ivLength) =
      some clearText) : newString manager.malformed clearText ≠ text := by
  intro same
  have chars := length_newString_le manager.malformed clearText
  have cipher := manager.cipher.length_le _ _ _
    ((manager.cipher.decrypt_eq_some_iff _ _ _).mp decrypted)
  have symbols := Base64.length_decodeAfter_le decoded
  have ascii := countP_getBytes_le (fun _ => Base64.valueOf_isSome_lt) text
  rw [same] at chars
  rw [List.length_drop] at cipher
  rw [List.length_nil] at symbols
  have positive : 0 < ivLength := by decide
  omega

theorem genuine_of_restores {text : JString} (restores : manager.Restores text) :
    manager.Genuine text := by
  obtain ⟨output, result, -, unchanged⟩ := restores
  by_cases empty : text = []
  · exact .inl empty
  · obtain ⟨bytes, decoded, long⟩ := exists_decode_of_ok empty result
    refine .inr ⟨bytes, decoded, long, fun decrypts => ?_⟩
    obtain ⟨clearText, decrypted⟩ := Option.isSome_iff_exists.mp decrypts
    rw [decryptString_of_decode empty decoded long, decrypted, Option.elim_some,
      Except.ok.injEq] at result
    by_contra foreign
    exact newString_ne_text decoded long decrypted (result.trans (unchanged foreign))

theorem restores_of_genuine {text : JString} (genuine : manager.Genuine text) :
    manager.Restores text := by
  by_cases encrypted : ∃ clear, WellFormed clear ∧ manager.Encrypts clear text
  · obtain ⟨clear, wellFormed, encrypts⟩ := encrypted
    have decrypted := decryptString_of_encrypts wellFormed encrypts
    refine ⟨clear, decrypted, fun other otherWellFormed otherEncrypts => ?_, ?_⟩
    · have otherDecrypted := decryptString_of_encrypts otherWellFormed otherEncrypts
      exact Except.ok.inj (decrypted.symm.trans otherDecrypted)
    · exact fun foreign => absurd ⟨clear, wellFormed, encrypts⟩ foreign
  · refine ⟨text, ?_, fun clear wellFormed encrypts =>
      absurd ⟨clear, wellFormed, encrypts⟩ encrypted, fun _ => rfl⟩
    rcases genuine with rfl | ⟨bytes, decoded, long, only⟩
    · exact decryptString_nil
    · by_cases empty : text = []
      · rw [empty, decryptString_nil]
      · have refused : manager.cipher.decrypt (bytes.take ivLength) (bytes.drop ivLength) = none :=
          Option.not_isSome_iff_eq_none.mp fun decrypts => encrypted (only decrypts)
        rw [decryptString_of_decode empty decoded long, refused, Option.elim_none]

/-- `decryptString` does what it should for the genuine texts and for no others. -/
theorem decryptString_restores_iff (manager : SecurityManager) (text : JString) :
    manager.Restores text ↔ manager.Genuine text :=
  ⟨genuine_of_restores, restores_of_genuine⟩

end SecurityManager

/-- A cipher that refuses every IV of this length. -/
def refusingCipher : AesGcm where
  encrypt _ _ := none
  decrypt _ _ := none
  decrypt_eq_some_iff _ _ _ := iff_of_false (fun same => Option.some_ne_none _ same.symm)
    fun same => Option.some_ne_none _ same.symm
  length_le _ _ _ same := absurd same.symm (Option.some_ne_none _)

def refusingDevice : SecurityManager where
  cipher := refusingCipher
  malformed _ := 0

/-- There the fallback has stored a token of fourteen characters, the Base64 form of ten bytes. -/
theorem SecurityManager.fallback_throws : ¬refusingDevice.Restores (lit "a1b2c3d4e5f6a7") := by
  rintro ⟨output, result, -⟩
  have thrown : refusingDevice.decryptString (lit "a1b2c3d4e5f6a7") = .error
      (.illegalArgumentException
        (lit "IV buffer too short for given offset/length combination")) := by
    decide +kernel
  rw [thrown] at result
  cases result

end Openpyn.Preferences
