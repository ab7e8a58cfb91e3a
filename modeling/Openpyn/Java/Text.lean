import Mathlib.Data.List.Infix
import Openpyn.Foundation.Fields

/-!
# Java text

A Java `char` is a UTF-16 code unit, so a `String` is a list of them: lone
surrogates are ordinary values and no index needs translating. The separators
given to `String.split` in the modelled code are single literal characters,
which is why `split` takes a code unit and not a regular expression.
-/

namespace Openpyn.Java

open Foundation

/-- A Java `char`. -/
abbrev JChar := UInt16

/-- A Java `String`. -/
abbrev JString := List JChar

/-- A property of all characters of a text is decided over the text, not over the type. -/
instance (priority := 2000) decidableForallMem (text : JString) (property : JChar → Prop)
    [DecidablePred property] : Decidable (∀ ch ∈ text, property ch) :=
  List.decidableBAll property text

/-- A character literal; those of the modelled code are all below U+10000. -/
def chr (literal : Char) : JChar := literal.toNat.toUInt16

/-- A string literal. -/
def lit (literal : String) : JString := literal.toList.map chr

/-- `System.lineSeparator()`, which Android fixes to a line feed. -/
def lineSeparator : JString := lit "\n"

/-- The terminator of a line on the wire. -/
def lineFeed : JChar := chr '\n'

/-- `String.indexOf(int, int)`: the first occurrence at or after `start`, else -1. -/
def indexOfFrom (text : JString) (ch : JChar) (start : Int) : Int :=
  match (text.drop start.toNat).findIdx? (· == ch) with
  | some found => start.toNat + found
  | none => -1

/-- `String.indexOf(int)`. -/
def indexOf (text : JString) (ch : JChar) : Int := indexOfFrom text ch 0

/-- `String.startsWith(String)`. -/
def startsWith (text start : JString) : Bool := start.isPrefixOf text

/-- `String.contains(CharSequence)`. -/
def contains (text part : JString) : Bool := text.tails.any fun tail => part.isPrefixOf tail

/-- `StringBuilder.indexOf(String)`: where the first occurrence begins, else -1. -/
def indexOfText (text part : JString) : Int :=
  match text.tails.findIdx? fun tail => part.isPrefixOf tail with
  | some found => found
  | none => -1

/-- `String.hashCode()`. -/
def hashCode (text : JString) : UInt32 :=
  text.foldl (fun hash ch => 31 * hash + ch.toUInt32) 0

/-- `String.split(String, int)` for a literal one-character pattern: a negative
limit cuts everywhere, zero also forgets trailing empty strings, and a positive
one bounds the number of pieces. -/
def split (text : JString) (separator : JChar) (limit : Int) : List JString :=
  if limit < 0 then text.splitOn separator
  else if limit = 0 then splitTrimmed separator text
  else splitAtMost separator (limit.toNat - 1) text

/-- The unlimited cut makes a piece for every separator. -/
theorem length_split_all (text : JString) (separator : JChar) :
    (split text separator (-1)).length = text.count separator + 1 := by
  simp [split, length_splitOn]

/-- A positive limit bounds the number of pieces. -/
theorem length_split_limit (text : JString) (separator : JChar) (cuts : Nat) :
    (split text separator (cuts + 1)).length = min cuts (text.count separator) + 1 := by
  have positive : ¬((cuts : Int) + 1 < 0) := by omega
  have nonzero : ¬((cuts : Int) + 1 = 0) := by omega
  have bound : ((cuts : Int) + 1).toNat - 1 = cuts := by omega
  rw [split, if_neg positive, if_neg nonzero, bound, length_splitAtMost]

/-- Separator-free columns are read back from a row whose last column is not
empty. -/
theorem split_row {separator : JChar} {columns : List JString} (nonempty : columns ≠ [])
    (free : ∀ column ∈ columns, separator ∉ column) (last : columns.getLast nonempty ≠ []) :
    split ([separator].intercalate columns) separator 0 = columns := by
  simp [split, splitTrimmed_intercalate nonempty free last]

/-- The position of a character after a prefix without it. -/
theorem indexOfFrom_append {field : JString} {ch : JChar} (absent : ch ∉ field)
    (skipped rest : JString) :
    indexOfFrom (skipped ++ field ++ ch :: rest) ch skipped.length =
      skipped.length + field.length := by
  have found : (field ++ ch :: rest).findIdx? (· == ch) = some field.length := by
    rw [List.findIdx?_append, List.findIdx?_eq_none_iff.mpr]
    · simp [List.findIdx?_cons]
    · intro other member
      simpa using ne_of_mem_of_not_mem member absent
  have dropped : (skipped ++ field ++ ch :: rest).drop skipped.length = field ++ ch :: rest := by
    simp
  simp only [indexOfFrom, Int.toNat_natCast, dropped, found]

/-- A character that does not occur again is reported as -1. -/
theorem indexOfFrom_absent {rest : JString} {ch : JChar} (absent : ch ∉ rest) (skipped : JString) :
    indexOfFrom (skipped ++ rest) ch skipped.length = -1 := by
  have missing : rest.findIdx? (· == ch) = none := by
    rw [List.findIdx?_eq_none_iff]
    intro other member
    simpa using ne_of_mem_of_not_mem member absent
  have dropped : (skipped ++ rest).drop skipped.length = rest := by simp
  simp only [indexOfFrom, Int.toNat_natCast, dropped, missing]

/-- The first occurrence of a character. -/
theorem indexOf_append {field : JString} {ch : JChar} (absent : ch ∉ field) (rest : JString) :
    indexOf (field ++ ch :: rest) ch = field.length := by
  have found := indexOfFrom_append absent [] rest
  simpa [indexOf] using found

theorem indexOf_absent {text : JString} {ch : JChar} (absent : ch ∉ text) :
    indexOf text ch = -1 := by
  have missing := indexOfFrom_absent absent []
  simpa [indexOf] using missing

theorem indexOfText_absent {text part : JString} (absent : ¬part <:+: text) :
    indexOfText text part = -1 := by
  have missing : (text.tails.findIdx? fun tail => part.isPrefixOf tail) = none := by
    rw [List.findIdx?_eq_none_iff]
    intro tail member
    rw [Bool.eq_false_iff, Ne, List.isPrefixOf_iff_prefix]
    exact fun starts => absent (starts.isInfix.trans ((List.mem_tails _ _).mp member).isInfix)
  rw [indexOfText, missing]

/-- The first occurrence of a text. -/
theorem indexOfText_append {before part after : JString}
    (earliest : ∀ tail, tail <:+ before → tail ≠ [] → ¬part <+: tail ++ (part ++ after)) :
    indexOfText (before ++ part ++ after) part = before.length := by
  have found : ((before ++ part ++ after).tails.findIdx? fun tail => part.isPrefixOf tail) =
      some before.length := by
    induction before with
    | nil =>
        have starts : part.isPrefixOf (part ++ after) = true :=
          List.isPrefixOf_iff_prefix.mpr (List.prefix_append part after)
        rw [List.nil_append]
        cases whole : part ++ after with
        | nil =>
            rw [whole] at starts
            simp [starts]
        | cons ch rest =>
            rw [whole] at starts
            rw [List.tails, List.findIdx?_cons, starts]
            rfl
    | cons ch before inductionHypothesis =>
        have later := inductionHypothesis fun tail suffix =>
          earliest tail (suffix.trans (List.suffix_cons ch before))
        have notHere := earliest (ch :: before) (List.suffix_refl _) (List.cons_ne_nil _ _)
        rw [← List.append_assoc, ← List.isPrefixOf_iff_prefix, Bool.not_eq_true] at notHere
        rw [List.cons_append, List.cons_append] at notHere ⊢
        rw [List.tails, List.findIdx?_cons, notHere, later]
        rfl
  rw [indexOfText, found]

theorem startsWith_iff (text start : JString) :
    startsWith text start = true ↔ ∃ rest, text = start ++ rest := by
  rw [startsWith, List.isPrefixOf_iff_prefix]
  constructor
  · rintro ⟨rest, rfl⟩
    exact ⟨rest, rfl⟩
  · rintro ⟨rest, rfl⟩
    exact ⟨rest, rfl⟩

/-- A one-character text is contained wherever the character occurs. -/
theorem contains_singleton (text : JString) (ch : JChar) :
    contains text [ch] = true ↔ ch ∈ text := by
  simp only [contains, List.any_eq_true, List.mem_tails, List.isPrefixOf_iff_prefix]
  constructor
  · rintro ⟨_, suffix, rest, rfl⟩
    exact suffix.subset List.mem_cons_self
  · intro member
    obtain ⟨before, after, rfl⟩ := List.append_of_mem member
    exact ⟨ch :: after, ⟨before, rfl⟩, after, rfl⟩

end Openpyn.Java
