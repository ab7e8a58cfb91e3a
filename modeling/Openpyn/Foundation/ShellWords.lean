import Mathlib.Data.List.Forall2
import Openpyn.Foundation.Machine

/-!
# Words of a command line

A shell cuts a command line into words and operators before it runs anything. The cutting
is a machine over the characters: outside quotes blanks end a word, single quotes are
literal, and a backslash or double quotes take the meaning of most characters away. A word
is fixed if no expansion can change it afterwards. What is appended to a line adds words
if it begins with a blank and is quoted where it has to be.
-/

namespace Openpyn.Foundation

universe u

/-- What a character means to a shell where it is not quoted. -/
inductive Meaning where
  | plain
  | blank
  | operator
  | backslash
  | singleQuote
  | doubleQuote
  | comment
  | expansion
deriving DecidableEq

/-- The characters of a shell and its operators. `escapable` are the characters that keep
a meaning within double quotes, unless a backslash takes it away. -/
structure ShellSyntax (α : Type u) where
  meaning : α → Meaning
  operators : List (List α)
  newline : α
  escapable : α → Bool

/-- A word without its quotes. -/
structure ShellWord (α : Type u) where
  text : List α
  fixed : Bool
deriving DecidableEq

/-- A token of a command line. -/
inductive ShellToken (α : Type u) where
  | word (word : ShellWord α)
  | operator (text : List α)
deriving DecidableEq

/-- How the next character is quoted. -/
inductive Quoting (α : Type u) where
  | unquoted
  | escaped
  | single
  | double
  | doubleEscaped (backslash : α)
deriving DecidableEq

/-- Where the machine stands: in a word or between words, in an operator or in a comment. -/
inductive LexMode (α : Type u) where
  | lexing (quoting : Quoting α) (current : Option (ShellWord α))
  | operator (text : List α)
  | comment
deriving DecidableEq

namespace ShellWord

variable {α : Type u}

/-- A word that is its text and nothing else. -/
def literal (text : List α) : ShellWord α := ⟨text, true⟩

/-- A quotation opens a word if there is none. -/
def opened (current : Option (ShellWord α)) : ShellWord α := current.getD (literal [])

/-- One more character. -/
def add (current : Option (ShellWord α)) (ch : α) : ShellWord α :=
  { opened current with text := (opened current).text ++ [ch] }

/-- The token of a word that ends here, if there is a word. -/
def ended (current : Option (ShellWord α)) : List (ShellToken α) :=
  current.toList.map ShellToken.word

end ShellWord

namespace ShellSyntax

open ShellWord

variable {α : Type u} [DecidableEq α] (shell : ShellSyntax α)

/-- An operator goes on as long as it is the beginning of one. -/
def continues (text : List α) (ch : α) : Bool :=
  shell.operators.any fun operator => (text ++ [ch]).isPrefixOf operator

/-- The reaction to a character that is not quoted. -/
def react (current : Option (ShellWord α)) (ch : α) : LexMode α × List (ShellToken α) :=
  match shell.meaning ch with
  | .plain => (.lexing .unquoted (some (add current ch)), [])
  | .blank => (.lexing .unquoted none, ended current)
  | .operator => (.operator [ch], ended current)
  | .backslash => (.lexing .escaped current, [])
  | .singleQuote => (.lexing .single (some (opened current)), [])
  | .doubleQuote => (.lexing .double (some (opened current)), [])
  | .comment =>
      -- within a word it is a character like any other
      if current.isSome then (.lexing .unquoted (some (add current ch)), []) else (.comment, [])
  | .expansion => (.lexing .unquoted (some { add current ch with fixed := false }), [])

/-- The reaction to a character within double quotes. -/
def reactDouble (current : Option (ShellWord α)) (ch : α) : LexMode α :=
  match shell.meaning ch with
  | .doubleQuote => .lexing .unquoted current
  | .backslash => .lexing (.doubleEscaped ch) current
  | .expansion =>
      let fixed := !shell.escapable ch && (opened current).fixed
      .lexing .double (some { add current ch with fixed := fixed })
  | _ => .lexing .double (some (add current ch))

/-- The reaction to any character. A backslash before the end of a line goes with it. -/
def lex : LexMode α → α → LexMode α × List (ShellToken α)
  | .lexing .unquoted current, ch => shell.react current ch
  | .lexing .escaped current, ch =>
      if ch = shell.newline then (.lexing .unquoted current, [])
      else (.lexing .unquoted (some (add current ch)), [])
  | .lexing .single current, ch =>
      if shell.meaning ch = .singleQuote then (.lexing .unquoted current, [])
      else (.lexing .single (some (add current ch)), [])
  | .lexing .double current, ch => (shell.reactDouble current ch, [])
  | .lexing (.doubleEscaped backslash) current, ch =>
      if ch = shell.newline then (.lexing .double current, [])
      else if shell.escapable ch then (.lexing .double (some (add current ch)), [])
      else (.lexing .double (some (add (some (add current backslash)) ch)), [])
  | .operator text, ch =>
      if shell.meaning ch = .operator ∧ shell.continues text ch then (.operator (text ++ [ch]), [])
      else
        let (mode, found) := shell.react none ch
        (mode, .operator text :: found)
  | .comment, ch => if ch = shell.newline then shell.react none ch else (.comment, [])

/-- The cutting of a command line. -/
def lexer : Machine (LexMode α) α (List (ShellToken α)) where
  step := shell.lex

/-- The modes in which a blank ends what was begun, with what it ends. -/
def open? : LexMode α → Option (List (ShellToken α))
  | .lexing .unquoted current => some (ended current)
  | .operator text => some [.operator text]
  | _ => none

/-- The end of the line ends a comment too, but no quotation. -/
def finish : LexMode α → Option (List (ShellToken α))
  | .comment => some []
  | mode => open? mode

/-- Between words. -/
def between : LexMode α := .lexing .unquoted none

/-- The tokens of a command line; `none` if a quotation is not closed. -/
def tokens (text : List α) : Option (List (ShellToken α)) :=
  (finish (shell.lexer.after between text)).map
    ((shell.lexer.outputs between text).flatten ++ ·)

/-! ## Appending words -/

/-- Appended to a line, the text adds these words. -/
def Adds (text : List α) (words : List (List α)) : Prop :=
  ∀ mode begun, open? mode = some begun → ∃ rest,
    open? (shell.lexer.after mode text) = some rest ∧
      (shell.lexer.outputs mode text).flatten ++ rest =
        begun ++ words.map fun word => .word (literal word)

/-- A word that needs no quotes. -/
def IsPlain (word : List α) : Prop := word ≠ [] ∧ ∀ ch ∈ word, shell.meaning ch = .plain

instance (word : List α) : Decidable (shell.IsPlain word) := inferInstanceAs (Decidable (_ ∧ _))

variable {shell}

theorem Adds.nil : shell.Adds [] [] := by
  intro mode begun opened
  exact ⟨begun, opened, by simp⟩

theorem Adds.append {first second : List α} {words others : List (List α)}
    (here : shell.Adds first words) (there : shell.Adds second others) :
    shell.Adds (first ++ second) (words ++ others) := by
  intro mode begun opened
  obtain ⟨middle, reached, found⟩ := here mode begun opened
  obtain ⟨rest, final, more⟩ := there _ middle reached
  refine ⟨rest, by rw [Machine.after_append, final], ?_⟩
  calc
    (shell.lexer.outputs mode (first ++ second)).flatten ++ rest
        = (shell.lexer.outputs mode first).flatten ++
            ((shell.lexer.outputs (shell.lexer.after mode first) second).flatten ++ rest) := by
          rw [Machine.outputs_append, List.flatten_append, List.append_assoc]
    _ = (shell.lexer.outputs mode first).flatten ++ middle ++
          others.map fun word => .word (literal word) := by
          rw [more, List.append_assoc]
    _ = begun ++ (words ++ others).map fun word => .word (literal word) := by
          rw [found, List.map_append, List.append_assoc]

/-- Texts appended one after another. -/
theorem Adds.flatten {texts : List (List α)} {words : List (List (List α))}
    (adds : List.Forall₂ shell.Adds texts words) : shell.Adds texts.flatten words.flatten := by
  induction adds with
  | nil => exact .nil
  | cons here _ inductionHypothesis => exact here.append inductionHypothesis

/-- A blank ends what was begun. -/
theorem lex_blank {blank : α} (separates : shell.meaning blank = .blank) {mode : LexMode α}
    {begun : List (ShellToken α)} (opened : open? mode = some begun) :
    shell.lex mode blank = (between, begun) := by
  cases mode with
  | lexing quoting current =>
      cases quoting with
      | unquoted =>
          obtain rfl := Option.some.inj opened
          rw [lex, react, separates]
          rfl
      | escaped => cases opened
      | single => cases opened
      | double => cases opened
      | doubleEscaped backslash => cases opened
  | operator text =>
      obtain rfl := Option.some.inj opened
      have ends : ¬(shell.meaning blank = .operator ∧ shell.continues text blank) := by
        rw [separates]
        rintro ⟨⟨⟩, _⟩
      rw [lex, if_neg ends, react, separates]
      rfl
  | comment => cases opened

/-- What follows a blank adds one word if it lexes to one. -/
theorem Adds.of_word {blank : α} (separates : shell.meaning blank = .blank) {text word : List α}
    (after : shell.lexer.after between text = .lexing .unquoted (some (literal word)))
    (outputs : (shell.lexer.outputs between text).flatten = []) :
    shell.Adds (blank :: text) [word] := by
  intro mode begun opened
  have step : shell.lexer.step mode blank = (between, begun) := lex_blank separates opened
  refine ⟨[.word (literal word)], ?_, ?_⟩
  · rw [Machine.after_cons, step, after]
    rfl
  · rw [Machine.outputs_cons, step, List.flatten_cons, outputs, List.append_nil]
    rfl

/-- Plain characters go to the word. -/
theorem run_plain {text : List α} (plain : ∀ ch ∈ text, shell.meaning ch = .plain)
    (word : ShellWord α) :
    shell.lexer.after (.lexing .unquoted (some word)) text =
        .lexing .unquoted (some { word with text := word.text ++ text }) ∧
      (shell.lexer.outputs (.lexing .unquoted (some word)) text).flatten = [] := by
  induction text generalizing word with
  | nil => simp
  | cons ch text inductionHypothesis =>
      have here := plain ch List.mem_cons_self
      have step : shell.lexer.step (.lexing .unquoted (some word)) ch =
          (.lexing .unquoted (some { word with text := word.text ++ [ch] }), []) := by
        change shell.react (some word) ch = _
        rw [react, here]
        rfl
      have later := inductionHypothesis
        (fun other member => plain other (List.mem_cons_of_mem ch member))
        { word with text := word.text ++ [ch] }
      rw [Machine.after_cons, Machine.outputs_cons, step]
      simpa using later

/-- A plain word after a blank. -/
theorem Adds.plain {blank : α} (separates : shell.meaning blank = .blank) {word : List α}
    (plain : shell.IsPlain word) : shell.Adds (blank :: word) [word] := by
  obtain ⟨nonempty, characters⟩ := plain
  obtain ⟨ch, text, rfl⟩ := List.exists_cons_of_ne_nil nonempty
  have here := characters ch List.mem_cons_self
  have step : shell.lexer.step between ch = (.lexing .unquoted (some (literal [ch])), []) := by
    change shell.react none ch = _
    rw [react, here]
    rfl
  obtain ⟨after, outputs⟩ := run_plain
    (fun other member => characters other (List.mem_cons_of_mem ch member)) (literal [ch])
  apply Adds.of_word separates
  · rw [Machine.after_cons, step, after]
    rfl
  · rw [Machine.outputs_cons, step, List.flatten_cons, outputs, List.append_nil]

/-- Within single quotes everything but the quote goes to the word. -/
theorem run_single {text : List α} (free : ∀ ch ∈ text, shell.meaning ch ≠ .singleQuote)
    (word : ShellWord α) :
    shell.lexer.after (.lexing .single (some word)) text =
        .lexing .single (some { word with text := word.text ++ text }) ∧
      (shell.lexer.outputs (.lexing .single (some word)) text).flatten = [] := by
  induction text generalizing word with
  | nil => simp
  | cons ch text inductionHypothesis =>
      have here := free ch List.mem_cons_self
      have step : shell.lexer.step (.lexing .single (some word)) ch =
          (.lexing .single (some { word with text := word.text ++ [ch] }), []) := if_neg here
      have later := inductionHypothesis
        (fun other member => free other (List.mem_cons_of_mem ch member))
        { word with text := word.text ++ [ch] }
      rw [Machine.after_cons, Machine.outputs_cons, step]
      simpa using later

/-- A word in single quotes after a blank, whatever else is in it. -/
theorem Adds.quoted {blank quote : α} (separates : shell.meaning blank = .blank)
    (quotes : shell.meaning quote = .singleQuote) {word : List α}
    (free : ∀ ch ∈ word, shell.meaning ch ≠ .singleQuote) :
    shell.Adds (blank :: quote :: (word ++ [quote])) [word] := by
  have start : shell.lexer.step between quote = (.lexing .single (some (literal [])), []) := by
    change shell.react none quote = _
    rw [react, quotes]
    rfl
  obtain ⟨after, outputs⟩ := run_single free (literal [])
  have stop : shell.lexer.step (.lexing .single (some (literal word))) quote =
      (.lexing .unquoted (some (literal word)), []) := if_pos quotes
  have inside : shell.lexer.after (.lexing .single (some (literal []))) word =
      .lexing .single (some (literal word)) := after
  apply Adds.of_word separates
  · rw [Machine.after_cons, start, Machine.after_append, inside, Machine.after_cons, stop]
    rfl
  · rw [Machine.outputs_cons, start, Machine.outputs_append, inside, Machine.outputs_cons, stop,
      List.flatten_cons, List.flatten_append, outputs]
    rfl

/-- The tokens of a line to which words are added. -/
theorem tokens_append {line text : List α} {words : List (List α)}
    {found : List (ShellToken α)} (opened : (open? (shell.lexer.after between line)).isSome)
    (before : shell.tokens line = some found) (adds : shell.Adds text words) :
    shell.tokens (line ++ text) = some (found ++ words.map fun word => .word (literal word)) := by
  obtain ⟨begun, reached⟩ := Option.isSome_iff_exists.mp opened
  obtain ⟨rest, final, more⟩ := adds _ begun reached
  have finishes : ∀ {mode : LexMode α} {last}, open? mode = some last →
      finish mode = some last := by
    intro mode last opened
    cases mode with
    | lexing quoting current => exact opened
    | operator text => exact opened
    | comment => cases opened
  rw [tokens, finishes reached, Option.map_some] at before
  obtain rfl := Option.some.inj before
  rw [tokens, Machine.after_append, finishes final, Option.map_some, Machine.outputs_append,
    List.flatten_append, List.append_assoc, more, List.append_assoc]

end ShellSyntax
end Openpyn.Foundation
