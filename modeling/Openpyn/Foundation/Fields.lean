import Mathlib.Data.List.DropRight

/-!
# Separated fields and terminated lines

Texts over any alphabet are cut in two ways: fields lie between occurrences of a
separator, lines end with a terminator. Core's `List.splitOn` is the unlimited
cut; this module adds the cut with a limit, the cut that forgets trailing empty
fields, and the reading of a stream as complete lines.
-/

namespace Openpyn.Foundation

universe u
variable {α : Type u}

/-- A stream of terminated lines. -/
def terminate (terminator : α) (lines : List (List α)) : List α :=
  lines.flatMap fun line => line ++ [terminator]

@[simp] theorem terminate_nil (terminator : α) : terminate terminator [] = [] := rfl

@[simp] theorem terminate_cons (terminator : α) (line : List α) (rest : List (List α)) :
    terminate terminator (line :: rest) = line ++ terminator :: terminate terminator rest := by
  simp [terminate]

@[simp] theorem terminate_append (terminator : α) (first second : List (List α)) :
    terminate terminator (first ++ second) =
      terminate terminator first ++ terminate terminator second := by
  simp [terminate]

variable [DecidableEq α]

/-- A text has one field more than it has separators. -/
theorem length_splitOn (sep : α) (text : List α) :
    (text.splitOn sep).length = text.count sep + 1 := by
  induction text with
  | nil => simp
  | cons ch rest inductionHypothesis =>
      rw [List.splitOn_cons_eq_if_modifyHead, List.count_cons]
      by_cases same : (ch == sep) = true
      · simp [same, inductionHypothesis]
      · simp [same, inductionHypothesis]

/-- No field contains the separator. -/
theorem notMem_of_mem_splitOn {sep : α} {text field : List α} (member : field ∈ text.splitOn sep) :
    sep ∉ field := by
  induction text generalizing field with
  | nil =>
      rw [List.splitOn_nil, List.mem_singleton] at member
      simp [member]
  | cons ch rest inductionHypothesis =>
      rw [List.splitOn_cons_eq_if_modifyHead] at member
      split_ifs at member with same
      · rcases List.mem_cons.mp member with rfl | later
        · simp
        · exact inductionHypothesis later
      · -- the character joins the first field of the rest
        cases fields : rest.splitOn sep with
        | nil => simp [fields] at member
        | cons first others =>
            rw [fields, List.modifyHead_cons, List.mem_cons] at member
            rw [fields] at inductionHypothesis
            rcases member with rfl | later
            · rw [List.mem_cons, not_or]
              exact ⟨fun equal => same (by simp [equal]),
                inductionHypothesis List.mem_cons_self⟩
            · exact inductionHypothesis (List.mem_cons_of_mem first later)

/-- Cut at the first separators, at most `cuts` times; the last field keeps the
rest of the text uncut. -/
def splitAtMost (sep : α) : Nat → List α → List (List α)
  | 0, text => [text]
  | cuts + 1, text =>
      match text.dropWhile (· ≠ sep) with
      | [] => [text]
      | _ :: rest => text.takeWhile (· ≠ sep) :: splitAtMost sep cuts rest

/-- A text without the separator is one field. -/
theorem splitAtMost_of_notMem {sep : α} {text : List α} (absent : sep ∉ text) (cuts : Nat) :
    splitAtMost sep cuts text = [text] := by
  cases cuts with
  | zero => rfl
  | succ cuts =>
      have dropped : text.dropWhile (· ≠ sep) = [] := by
        rw [List.dropWhile_eq_nil_iff]
        intro ch member
        simpa using ne_of_mem_of_not_mem member absent
      simp only [splitAtMost, dropped]

/-- The first separator ends the first field. -/
theorem splitAtMost_append_cons {sep : α} {field : List α} (absent : sep ∉ field)
    (cuts : Nat) (rest : List α) :
    splitAtMost sep (cuts + 1) (field ++ sep :: rest) =
      field :: splitAtMost sep cuts rest := by
  have kept : ∀ ch ∈ field, decide (ch ≠ sep) = true := by
    intro ch member
    simpa using ne_of_mem_of_not_mem member absent
  have dropped : (field ++ sep :: rest).dropWhile (· ≠ sep) = sep :: rest := by
    rw [List.dropWhile_append_of_pos kept]
    simp
  have taken : (field ++ sep :: rest).takeWhile (· ≠ sep) = field := by
    rw [List.takeWhile_append_of_pos kept]
    simp
  simp only [splitAtMost, dropped, taken]

/-- Every text either lacks the separator or has a first one. -/
theorem first_separator (sep : α) (text : List α) :
    sep ∉ text ∨ ∃ field rest, text = field ++ sep :: rest ∧ sep ∉ field := by
  by_cases member : sep ∈ text
  · obtain ⟨field, rest, rfl, absent⟩ := List.eq_append_cons_of_mem member
    exact .inr ⟨field, rest, rfl, absent⟩
  · exact .inl member

/-- A limited cut makes a field for each separator it was allowed to use. -/
theorem length_splitAtMost (sep : α) (cuts : Nat) (text : List α) :
    (splitAtMost sep cuts text).length = min cuts (text.count sep) + 1 := by
  induction cuts generalizing text with
  | zero => simp [splitAtMost]
  | succ cuts inductionHypothesis =>
      rcases first_separator sep text with absent | ⟨field, rest, rfl, absent⟩
      · simp [splitAtMost_of_notMem absent, List.count_eq_zero_of_not_mem absent]
      · rw [splitAtMost_append_cons absent, List.length_cons, inductionHypothesis,
          List.count_append, List.count_eq_zero_of_not_mem absent, List.count_cons_self]
        omega

/-- The cut that forgets trailing empty fields; a text without the separator is
kept whole, even when it is empty. -/
def splitTrimmed (sep : α) (text : List α) : List (List α) :=
  if sep ∈ text then (text.splitOn sep).rdropWhile List.isEmpty else [text]

/-- Fields without the separator are read back from their join when the last of
them is not empty. -/
theorem splitTrimmed_intercalate {sep : α} {fields : List (List α)} (nonempty : fields ≠ [])
    (free : ∀ field ∈ fields, sep ∉ field) (last : fields.getLast nonempty ≠ []) :
    splitTrimmed sep ([sep].intercalate fields) = fields := by
  have cut : ([sep].intercalate fields).splitOn sep = fields :=
    List.splitOn_intercalate sep free nonempty
  by_cases member : sep ∈ [sep].intercalate fields
  · rw [splitTrimmed, if_pos member, cut, List.rdropWhile_eq_self_iff]
    intro _
    simpa using last
  · rw [splitTrimmed, if_neg member]
    rw [List.splitOn_eq_singleton member] at cut
    exact cut

/-- The complete lines a reader finds in a stream; an unfinished last line is
not one of them. -/
def completeLines (terminator : α) (stream : List α) : List (List α) :=
  (stream.splitOn terminator).dropLast

/-- Lines free of the terminator are read back exactly. -/
theorem completeLines_terminate {terminator : α} {lines : List (List α)}
    (free : ∀ line ∈ lines, terminator ∉ line) :
    completeLines terminator (terminate terminator lines) = lines := by
  induction lines with
  | nil => simp [completeLines]
  | cons line rest inductionHypothesis =>
      have restRead := inductionHypothesis fun other member =>
        free other (List.mem_cons_of_mem line member)
      rw [completeLines] at restRead
      rw [completeLines, terminate_cons,
        List.splitOn_append_cons_self_of_not_mem (free line List.mem_cons_self),
        List.dropLast_cons_of_ne_nil (List.splitOn_ne_nil _ _), restRead]

/-- A reader finds one line per terminator. -/
theorem length_completeLines (terminator : α) (stream : List α) :
    (completeLines terminator stream).length = stream.count terminator := by
  rw [completeLines, List.length_dropLast, length_splitOn]
  omega

/-- The reader counts as many lines as were sent only if none of them contained
the terminator. -/
theorem length_completeLines_terminate_iff (terminator : α) (lines : List (List α)) :
    (completeLines terminator (terminate terminator lines)).length = lines.length ↔
      ∀ line ∈ lines, terminator ∉ line := by
  constructor
  · intro counted
    have total : (terminate terminator lines).count terminator =
        lines.length + (lines.map (List.count terminator)).sum := by
      clear counted
      induction lines with
      | nil => simp
      | cons line rest inductionHypothesis =>
          simp only [terminate_cons, List.count_append, List.count_cons_self,
            inductionHypothesis, List.length_cons, List.map_cons, List.sum_cons]
          omega
    rw [length_completeLines, total] at counted
    have none_left : (lines.map (List.count terminator)).sum = 0 := by omega
    intro line member
    have zero : line.count terminator = 0 :=
      List.sum_eq_zero_iff_forall_eq_nat.mp none_left _ (List.mem_map_of_mem member)
    exact List.count_eq_zero.mp zero
  · intro free
    rw [completeLines_terminate free]

end Openpyn.Foundation
