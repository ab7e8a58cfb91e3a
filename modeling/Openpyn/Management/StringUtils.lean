import Openpyn.Java.Text

/-!
# Blank texts and the escaping of credentials

`escapeOpenVPN` prepares a credential for the command line of the management
interface: it escapes double quotes and backslashes, and quotes the result when
it escaped something or when one of sixteen listed characters occurs.
-/

namespace Openpyn.Management.StringUtils

open Java

/-- `Character.isWhitespace(char)`. -/
def isWhitespace (ch : JChar) : Bool :=
  (0x0009 ≤ ch && ch ≤ 0x000D) || (0x001C ≤ ch && ch ≤ 0x0020) || ch = 0x1680 ||
    (0x2000 ≤ ch && ch ≤ 0x2006) || (0x2008 ≤ ch && ch ≤ 0x200A) || ch = 0x2028 ||
    ch = 0x2029 || ch = 0x205F || ch = 0x3000

/-- `Character.isHighSurrogate(char)`. -/
def isHighSurrogate (ch : JChar) : Bool := 0xD800 ≤ ch && ch ≤ 0xDBFF

/-- `isBlank` on a text that is not null. -/
def isBlank (cs : JString) : Bool := cs.all isWhitespace

/-- The inner loop of `containsAny`: a high surrogate only counts together with
the unit after it, unless it is the last one searched for. -/
def matchesAny (ch : JChar) (next : Option JChar) : List JChar → Bool
  | [] => false
  | search :: rest =>
      if search = ch then
        if isHighSurrogate ch then
          match rest with
          | [] => true
          | low :: _ => if next = some low then true else matchesAny ch next rest
        else true
      else matchesAny ch next rest

/-- `containsAny`: some searched character occurs. -/
def containsAny : JString → List JChar → Bool
  | [], _ => false
  | ch :: rest, searchChars =>
      matchesAny ch rest.head? searchChars || containsAny rest searchChars

/-- The escaping of one character. -/
def escapeChar (ch : JChar) : JString :=
  if ch = chr '\\' then [chr '\\', chr '\\']
  else if ch = chr '"' then [chr '\\', chr '"']
  else [ch]

/-- `escapeOpenVPNStyleString`. -/
def escapeOpenVPNStyleString (cs : JString) : JString := cs.flatMap escapeChar

/-- The characters that make `escapeOpenVPN` quote its result. -/
def searchChars : List JChar :=
  ['|', '&', ';', '<', '>', '(', ')', '$', '`', '*', '?', '[', '#', '~', '=', '%'].map chr

/-- `escapeOpenVPN` on a text that is not null. -/
def escapeOpenVPN (cs : JString) : JString :=
  if cs = [] then []
  else if escapeOpenVPNStyleString cs = cs ∧
      containsAny (escapeOpenVPNStyleString cs) searchChars = false then cs
  else chr '"' :: escapeOpenVPNStyleString cs ++ [chr '"']

/-- Without surrogates to search for, `containsAny` asks for a common character. -/
theorem containsAny_eq_any {search : List JChar}
    (plain : ∀ ch ∈ search, isHighSurrogate ch = false) (cs : JString) :
    containsAny cs search = cs.any fun ch => decide (ch ∈ search) := by
  have inner : ∀ (ch : JChar) (next : Option JChar) (rest : List JChar),
      (∀ other ∈ rest, isHighSurrogate other = false) →
        matchesAny ch next rest = decide (ch ∈ rest) := by
    intro ch next rest restPlain
    induction rest with
    | nil => simp [matchesAny]
    | cons first rest inductionHypothesis =>
        have tail := inductionHypothesis fun other member =>
          restPlain other (List.mem_cons_of_mem first member)
        by_cases same : first = ch
        · subst same
          simp [matchesAny, restPlain first List.mem_cons_self]
        · have different : ch ≠ first := fun equal => same equal.symm
          simp [matchesAny, same, tail, different]
  induction cs with
  | nil => rfl
  | cons ch rest inductionHypothesis =>
      rw [containsAny, inner ch rest.head? search plain, inductionHypothesis, List.any_cons]

/-- Escaping leaves a text alone exactly when there was nothing to escape. -/
theorem escapeOpenVPNStyleString_eq_self_iff (cs : JString) :
    escapeOpenVPNStyleString cs = cs ↔ chr '\\' ∉ cs ∧ chr '"' ∉ cs := by
  have length_le : ∀ text : JString, text.length ≤ (escapeOpenVPNStyleString text).length := by
    intro text
    induction text with
    | nil => simp
    | cons ch rest inductionHypothesis =>
        have grows : 1 ≤ (escapeChar ch).length := by
          unfold escapeChar
          split_ifs <;> simp
        simp only [escapeOpenVPNStyleString, List.flatMap_cons, List.length_append,
          List.length_cons] at inductionHypothesis ⊢
        omega
  induction cs with
  | nil => simp [escapeOpenVPNStyleString]
  | cons ch rest inductionHypothesis =>
      have unfolded : escapeOpenVPNStyleString (ch :: rest) =
          escapeChar ch ++ escapeOpenVPNStyleString rest := by
        simp [escapeOpenVPNStyleString]
      have restGrows := length_le rest
      rw [unfolded]
      by_cases backslash : ch = chr '\\'
      · have longer : (escapeChar ch).length = 2 := by rw [backslash]; decide
        constructor
        · intro same
          have lengths := congrArg List.length same
          simp only [List.length_append, longer, List.length_cons] at lengths
          omega
        · rintro ⟨absent, -⟩
          exact absurd (backslash ▸ List.mem_cons_self) absent
      · by_cases quote : ch = chr '"'
        · have longer : (escapeChar ch).length = 2 := by rw [quote]; decide
          constructor
          · intro same
            have lengths := congrArg List.length same
            simp only [List.length_append, longer, List.length_cons] at lengths
            omega
          · rintro ⟨-, absent⟩
            exact absurd (quote ▸ List.mem_cons_self) absent
        · have kept : escapeChar ch = [ch] := by simp [escapeChar, backslash, quote]
          have notBackslash : chr '\\' ≠ ch := fun equal => backslash equal.symm
          have notQuote : chr '"' ≠ ch := fun equal => quote equal.symm
          simp [kept, inductionHypothesis, notBackslash, notQuote]

/-- A credential is quoted when it holds a backslash, a double quote or a
listed character. -/
def NeedsQuotes (cs : JString) : Prop :=
  chr '\\' ∈ cs ∨ chr '"' ∈ cs ∨ ∃ ch ∈ cs, ch ∈ searchChars

/-- The two shapes of an escaped credential. -/
theorem escapeOpenVPN_cases {cs : JString} (nonempty : cs ≠ []) :
    (NeedsQuotes cs ∧ escapeOpenVPN cs = chr '"' :: escapeOpenVPNStyleString cs ++ [chr '"']) ∨
      (¬NeedsQuotes cs ∧ escapeOpenVPN cs = cs) := by
  have searched : containsAny cs searchChars = cs.any fun ch => decide (ch ∈ searchChars) :=
    containsAny_eq_any (by decide) cs
  by_cases unchanged : escapeOpenVPNStyleString cs = cs
  · have plain := (escapeOpenVPNStyleString_eq_self_iff cs).mp unchanged
    by_cases listed : ∃ ch ∈ cs, ch ∈ searchChars
    · left
      refine ⟨.inr (.inr listed), ?_⟩
      have found : containsAny cs searchChars = true := by simpa [searched] using listed
      rw [escapeOpenVPN, if_neg nonempty, if_neg]
      rw [unchanged]
      rintro ⟨-, missing⟩
      rw [found] at missing
      cases missing
    · right
      have missing : containsAny cs searchChars = false := by
        rw [searched, List.any_eq_false]
        intro ch member
        simpa using fun special => listed ⟨ch, member, special⟩
      constructor
      · rintro (backslash | quote | special)
        · exact plain.1 backslash
        · exact plain.2 quote
        · exact listed special
      · rw [escapeOpenVPN, if_neg nonempty, if_pos]
        rw [unchanged]
        exact ⟨rfl, missing⟩
  · left
    constructor
    · by_contra plain
      apply unchanged
      rw [escapeOpenVPNStyleString_eq_self_iff]
      exact ⟨fun backslash => plain (.inl backslash), fun quote => plain (.inr (.inl quote))⟩
    · rw [escapeOpenVPN, if_neg nonempty, if_neg]
      rintro ⟨same, -⟩
      exact unchanged same

end Openpyn.Management.StringUtils
