import Openpyn.Java.Text

/-!
# The server's command parsing

The management server cuts a command line into arguments by the rules its manual
calls Command Parsing. They are stated here as one scanner over the characters
of a line: arguments are separated by white space, double quotes allow escapes,
single quotes are literal, and outside single quotes a backslash makes a
backslash, a double quote or white space literal. A line that ends inside a
quotation, or that escapes another character, is rejected as a whole.
-/

namespace Openpyn.Management.CommandParsing

open Java

/-- White space of the server: `isspace` of the C locale. -/
def isSpace (ch : JChar) : Bool :=
  ch = chr ' ' || (0x0009 ≤ ch && ch ≤ 0x000D)

/-- The characters a backslash may stand before. -/
def isEscapable (ch : JChar) : Bool :=
  ch = chr '\\' || ch = chr '"' || isSpace ch

/-- Where the scanner stands; the escaped states follow a backslash. -/
inductive LexState where
  | initial
  | initialEscaped
  | unquoted
  | unquotedEscaped
  | quoted
  | quotedEscaped
  | squoted
deriving DecidableEq

/-- What the scanner does with one character. -/
inductive Action where
  | move (next : LexState)
  | store (next : LexState)
  | finish
  | comment
  | reject
deriving DecidableEq

/-- The reaction to a character. -/
def react : LexState → JChar → Action
  | .initial, ch =>
      if isSpace ch then .move .initial
      else if ch = chr '#' ∨ ch = chr ';' then .comment
      else if ch = chr '\\' then .move .initialEscaped
      else if ch = chr '"' then .move .quoted
      else if ch = chr '\'' then .move .squoted
      else .store .unquoted
  | .initialEscaped, ch => if isEscapable ch then .store .unquoted else .reject
  | .unquoted, ch =>
      if isSpace ch then .finish
      else if ch = chr '\\' then .move .unquotedEscaped
      else .store .unquoted
  | .unquotedEscaped, ch => if isEscapable ch then .store .unquoted else .reject
  | .quoted, ch =>
      if ch = chr '"' then .finish
      else if ch = chr '\\' then .move .quotedEscaped
      else .store .quoted
  | .quotedEscaped, ch => if isEscapable ch then .store .quoted else .reject
  | .squoted, ch => if ch = chr '\'' then .finish else .store .squoted

/-- The arguments of the rest of a line, `parm` being the part of the current
argument already read. -/
def scan (state : LexState) (parm : JString) : JString → Option (List JString)
  | [] =>
      match state with
      | .initial => some []
      | .unquoted => some [parm]
      | _ => none
  | ch :: rest =>
      match react state ch with
      | .move next => scan next parm rest
      | .store next => scan next (parm ++ [ch]) rest
      | .finish => (scan .initial [] rest).map (parm :: ·)
      | .comment => some []
      | .reject => none

/-- The arguments of a command line. -/
def commandParse (line : JString) : Option (List JString) := scan .initial [] line

/-- The characters of the arguments, counted together. -/
def size (arguments : List JString) : Nat := arguments.flatten.length

/-- Scanning invents no character: every one in the arguments was read. -/
theorem size_le_of_scan {state : LexState} {parm text : JString} {arguments : List JString}
    (parsed : scan state parm text = some arguments) :
    size arguments ≤ parm.length + text.length := by
  induction text generalizing state parm arguments with
  | nil =>
      cases state <;> simp [scan] at parsed
      all_goals
        subst parsed
        simp [size]
  | cons ch rest inductionHypothesis =>
      rw [scan] at parsed
      rw [List.length_cons]
      cases reaction : react state ch with
      | move next =>
          simp only [reaction] at parsed
          have bound := inductionHypothesis parsed
          omega
      | store next =>
          simp only [reaction] at parsed
          have bound := inductionHypothesis parsed
          rw [List.length_append, List.length_singleton] at bound
          omega
      | finish =>
          simp only [reaction, Option.map_eq_some_iff] at parsed
          obtain ⟨others, found, rfl⟩ := parsed
          have bound := inductionHypothesis found
          simp only [size, List.flatten_cons, List.length_append, List.length_nil] at bound ⊢
          omega
      | comment =>
          simp only [reaction, Option.some.injEq] at parsed
          subst parsed
          simp [size]
      | reject => simp [reaction] at parsed

/-- A character the scanner keeps wherever it stands outside quotes. -/
def IsPlain (ch : JChar) : Prop := isSpace ch = false ∧ ch ≠ chr '\\'

theorem react_unquoted_of_isPlain {ch : JChar} (plain : IsPlain ch) :
    react .unquoted ch = .store .unquoted := by
  simp [react, plain.1, plain.2]

/-- An unquoted argument runs through plain characters. -/
theorem scan_unquoted_append {word : JString} (plain : ∀ ch ∈ word, IsPlain ch)
    (parm rest : JString) :
    scan .unquoted parm (word ++ rest) = scan .unquoted (parm ++ word) rest := by
  induction word generalizing parm with
  | nil => simp
  | cons ch tail inductionHypothesis =>
      have here := react_unquoted_of_isPlain (plain ch List.mem_cons_self)
      have later := inductionHypothesis
        (fun other member => plain other (List.mem_cons_of_mem ch member)) (parm ++ [ch])
      rw [List.cons_append, scan, here]
      simpa using later

/-- White space ends an unquoted argument. -/
theorem scan_unquoted_space {ch : JChar} (space : isSpace ch = true) (parm rest : JString) :
    scan .unquoted parm (ch :: rest) = (scan .initial [] rest).map (parm :: ·) := by
  have finishes : react .unquoted ch = .finish := by simp [react, space]
  rw [scan, finishes]

/-- White space before an argument is skipped. -/
theorem scan_initial_space {ch : JChar} (space : isSpace ch = true) (rest : JString) :
    scan .initial [] (ch :: rest) = scan .initial [] rest := by
  have skips : react .initial ch = .move .initial := by simp [react, space]
  rw [scan, skips]

/-- A single-quoted argument is literal. -/
theorem scan_squoted {word : JString} (literal : chr '\'' ∉ word) (parm rest : JString) :
    scan .squoted parm (word ++ chr '\'' :: rest) =
      (scan .initial [] rest).map ((parm ++ word) :: ·) := by
  induction word generalizing parm with
  | nil =>
      have finishes : react .squoted (chr '\'') = .finish := by decide
      rw [List.nil_append, scan, finishes, List.append_nil]
  | cons ch tail inductionHypothesis =>
      have different : ch ≠ chr '\'' := fun same => literal (same ▸ List.mem_cons_self)
      have stores : react .squoted ch = .store .squoted := by simp [react, different]
      have later := inductionHypothesis
        (fun member => literal (List.mem_cons_of_mem ch member)) (parm ++ [ch])
      rw [List.cons_append, scan, stores]
      simpa using later

/-- A character that opens an unquoted argument. -/
def IsOrdinary (ch : JChar) : Prop :=
  IsPlain ch ∧ ch ≠ chr '#' ∧ ch ≠ chr ';' ∧ ch ≠ chr '"' ∧ ch ≠ chr '\''

instance (ch : JChar) : Decidable (IsPlain ch) := inferInstanceAs (Decidable (_ ∧ _))
instance (ch : JChar) : Decidable (IsOrdinary ch) := inferInstanceAs (Decidable (_ ∧ _))

theorem scan_initial_ordinary {ch : JChar} (ordinary : IsOrdinary ch) (rest : JString) :
    scan .initial [] (ch :: rest) = scan .unquoted [ch] rest := by
  obtain ⟨plain, notHash, notSemicolon, notQuote, notApostrophe⟩ := ordinary
  have stores : react .initial ch = .store .unquoted := by
    simp [react, plain.1, plain.2, notHash, notSemicolon, notQuote, notApostrophe]
  rw [scan, stores, List.nil_append]

/-- A command word and a single-quoted argument, each followed by a blank, are
the first two arguments of the line. -/
theorem commandParse_prompt (first : JChar) (word : JString) {type : JString}
    (ordinary : IsOrdinary first) (plain : ∀ ch ∈ word, IsPlain ch) (literal : chr '\'' ∉ type)
    (rest : JString) :
    commandParse ((first :: word) ++ chr ' ' :: chr '\'' :: (type ++ chr '\'' :: chr ' ' :: rest)) =
      (commandParse rest).map fun others => (first :: word) :: type :: others := by
  have space : isSpace (chr ' ') = true := by decide
  have opens : react .initial (chr '\'') = .move .squoted := by decide
  calc
    commandParse ((first :: word) ++ chr ' ' :: chr '\'' :: (type ++ chr '\'' :: chr ' ' :: rest))
        = scan .unquoted (first :: word)
            (chr ' ' :: chr '\'' :: (type ++ chr '\'' :: chr ' ' :: rest)) := by
          rw [commandParse, List.cons_append, scan_initial_ordinary ordinary,
            scan_unquoted_append plain, List.singleton_append]
    _ = (scan .initial [] (chr '\'' :: (type ++ chr '\'' :: chr ' ' :: rest))).map
          ((first :: word) :: ·) := scan_unquoted_space space _ _
    _ = (scan .squoted [] (type ++ chr '\'' :: chr ' ' :: rest)).map ((first :: word) :: ·) := by
          rw [scan, opens]
    _ = (commandParse rest).map fun others => (first :: word) :: type :: others := by
          rw [scan_squoted literal, scan_initial_space space, Option.map_map, List.nil_append]
          rfl

end Openpyn.Management.CommandParsing
