import Openpyn.Management.Reading

/-!
# Replies to commands

A reply of the management protocol is one status line or a block that ends with
`END`. `executeCommand` recognizes neither shape: it reads until it meets an
`END` after which nothing is buffered, or until the stream ends. The module says
for which replies, and for which answers of `ready`, that is the reply.
-/

namespace Openpyn.Management

open Foundation Java

variable {L : Type}

/-- The line that ends a block. -/
def endMark : JString := lit "END"

/-- Lines as `executeCommand` puts them together. -/
def joined (lines : List JString) : JString := lines.flatMap fun line => line ++ lineSeparator

@[simp] theorem joined_nil : joined [] = [] := rfl

@[simp] theorem joined_cons (line : JString) (rest : List JString) :
    joined (line :: rest) = line ++ lineSeparator ++ joined rest := rfl

@[simp] theorem joined_append (first second : List JString) :
    joined (first ++ second) = joined first ++ joined second := by
  simp [joined]

/-- A reply in one of the two shapes of the protocol. -/
inductive Reply where
  | status (text : JString)
      (reports : startsWith text Strings.successPrefix = true ∨
        startsWith text Strings.errorPrefix = true)
  | block (lines : List JString) (inside : endMark ∉ lines)

/-- The lines of a reply on the wire. -/
def Reply.lines : Reply → List JString
  | .status text _ => [text]
  | .block lines _ => lines ++ [endMark]

/-- What a reply says: its lines without the end mark. -/
def Reply.text : Reply → JString
  | .status text _ => joined [text]
  | .block lines _ => joined lines

/-- What the reader of the socket finds: lines, the answers of `ready` to the
coming calls, and whether the stream ends after the lines or stays silent. -/
structure Incoming where
  lines : List JString
  ready : Nat → Bool
  ended : Bool

/-- How the reading loop of `executeCommand` comes to rest. -/
inductive Outcome where
  | returned (text : JString) (unread : List JString)
  | waiting (text : JString)
deriving DecidableEq

/-- The reading loop, `sb` being the text collected so far. -/
def readReply (ready : Nat → Bool) (ended : Bool) (sb : JString) : List JString → Outcome
  | [] => if ended then .returned sb [] else .waiting sb
  | line :: rest =>
      if ready 0 = false ∧ line = endMark then .returned sb rest
      else readReply (fun call => ready (call + 1)) ended (sb ++ line ++ lineSeparator) rest

/-- `executeCommand`; the outcome is missing when the command was not sent. -/
def ManagementConnection.executeCommand (c : ManagementConnection L) (command : JString)
    (incoming : Incoming) : ManagementConnection.Result L × Option Outcome :=
  match (c.sendCommand command).thrown with
  | none => (c.sendCommand command,
      some (readReply incoming.ready incoming.ended [] incoming.lines))
  | some _ => (c.sendCommand command, none)

/-! ## The reading loop -/

/-- Other lines than the end mark are collected. -/
theorem readReply_append {lines : List JString} (inside : endMark ∉ lines) (ready : Nat → Bool)
    (ended : Bool) (sb : JString) (rest : List JString) :
    readReply ready ended sb (lines ++ rest) =
      readReply (fun call => ready (call + lines.length)) ended (sb ++ joined lines) rest := by
  induction lines generalizing ready sb with
  | nil => simp
  | cons line tail inductionHypothesis =>
      have unmarked : ¬(ready 0 = false ∧ line = endMark) := by
        rintro ⟨-, rfl⟩
        exact inside List.mem_cons_self
      have later := inductionHypothesis (fun member => inside (List.mem_cons_of_mem line member))
        (fun call => ready (call + 1)) (sb ++ line ++ lineSeparator)
      rw [List.cons_append, readReply, if_neg unmarked, later]
      simp [← Nat.add_assoc]

/-- The loop only adds to its text, and what it leaves unread was there before. -/
theorem readReply_returned {ready : Nat → Bool} {ended : Bool} {sb text : JString}
    {input unread : List JString}
    (returned : readReply ready ended sb input = .returned text unread) :
    sb.length ≤ text.length ∧ unread.length ≤ input.length := by
  induction input generalizing ready sb with
  | nil =>
      rw [readReply] at returned
      split_ifs at returned
      obtain ⟨rfl, rfl⟩ := Outcome.returned.inj returned
      exact ⟨le_rfl, le_rfl⟩
  | cons line rest inductionHypothesis =>
      rw [readReply] at returned
      split_ifs at returned with marked
      · obtain ⟨rfl, rfl⟩ := Outcome.returned.inj returned
        exact ⟨le_rfl, Nat.le_succ _⟩
      · obtain ⟨grows, shrinks⟩ := inductionHypothesis returned
        simp only [List.length_append, List.length_cons] at grows ⊢
        omega

/-- The circumstances in which the loop stops where the reply ends: after a block
nothing may be buffered, and a status line must be the last one ever. -/
def Reply.StopsLoop (reply : Reply) (ready : Nat → Bool) (ended : Bool)
    (further : List JString) : Prop :=
  match reply with
  | .status _ _ => further = [] ∧ ended = true
  | .block lines _ => ready lines.length = false

/-- A status line is not the end mark. -/
private theorem status_ne_endMark {text : JString}
    (reports : startsWith text Strings.successPrefix = true ∨
      startsWith text Strings.errorPrefix = true) : endMark ≠ text := by
  rintro rfl
  rcases reports with success | error
  · exact absurd success (by decide)
  · exact absurd error (by decide)

/-- The loop reads exactly a block when nothing is buffered after its end. -/
theorem readReply_block_iff {lines : List JString} (inside : endMark ∉ lines)
    (ready : Nat → Bool) (ended : Bool) (further : List JString) :
    readReply ready ended [] (lines ++ endMark :: further) = .returned (joined lines) further ↔
      ready lines.length = false := by
  rw [readReply_append inside, List.nil_append, readReply, Nat.zero_add]
  constructor
  · intro returned
    by_contra buffered
    rw [if_neg fun marked => buffered marked.1] at returned
    have grows := (readReply_returned returned).1
    have separated : lineSeparator.length = 1 := by decide
    simp only [List.length_append] at grows
    omega
  · intro quiet
    exact if_pos ⟨quiet, rfl⟩

/-- The loop reads exactly a status line when nothing comes after it. -/
theorem readReply_status_iff {text : JString}
    (reports : startsWith text Strings.successPrefix = true ∨
      startsWith text Strings.errorPrefix = true)
    (ready : Nat → Bool) (ended : Bool) (further : List JString) :
    readReply ready ended [] (text :: further) = .returned (joined [text]) further ↔
      further = [] ∧ ended = true := by
  have inside : endMark ∉ [text] := by simpa using status_ne_endMark reports
  have first := readReply_append inside ready ended [] further
  rw [List.singleton_append, List.nil_append] at first
  rw [first]
  cases further with
  | nil =>
      cases ended with
      | true => exact ⟨fun _ => ⟨rfl, rfl⟩, fun _ => rfl⟩
      | false =>
          constructor
          · intro returned
            cases returned
          · rintro ⟨-, ends⟩
            cases ends
  | cons line rest =>
      constructor
      · intro returned
        rw [readReply] at returned
        split_ifs at returned with marked
        · have shorter := congrArg List.length (Outcome.returned.inj returned).2
          simp only [List.length_cons] at shorter
          omega
        · have shrinks := (readReply_returned returned).2
          simp only [List.length_cons] at shrinks
          omega
      · rintro ⟨none, -⟩
        cases none

namespace ManagementConnection

/-- On an established connection `executeCommand` sends its line and reads. -/
theorem executeCommand_established {c : ManagementConnection L} (established : c.Established)
    (command : JString) (incoming : Incoming) :
    c.executeCommand command incoming =
      (.emit c [.write command, .write lineSeparator],
        some (readReply incoming.ready incoming.ended [] incoming.lines)) := by
  rw [executeCommand, sendCommand_established established]
  rfl

/-- `executeCommand` reads exactly the reply in those circumstances only. -/
theorem executeCommand_exact_iff {c : ManagementConnection L} (established : c.Established)
    (command : JString) (reply : Reply) (further : List JString) (ready : Nat → Bool)
    (ended : Bool) :
    (c.executeCommand command ⟨reply.lines ++ further, ready, ended⟩).2 =
        some (.returned reply.text further) ↔
      reply.StopsLoop ready ended further := by
  rw [executeCommand_established established, Option.some_inj]
  cases reply with
  | status text reports => exact readReply_status_iff reports ready ended further
  | block lines inside =>
      have wire : (Reply.block lines inside).lines ++ further = lines ++ endMark :: further := by
        simp [Reply.lines]
      rw [wire]
      exact readReply_block_iff inside ready ended further

/-- A block that is followed by silence is read exactly. -/
theorem executeCommand_exact_block :
    ((opened (lit "localhost") 7505 : ManagementConnection Unit).executeCommand (lit "version")
        ⟨[lit "OpenVPN Version: 2", lit "END"], fun _ => false, false⟩).2 =
      some (.returned (lit "OpenVPN Version: 2\n") []) :=
  (executeCommand_exact_iff (opened_established (lit "localhost") 7505) (lit "version")
    (.block [lit "OpenVPN Version: 2"] (by decide)) [] (fun _ => false) false).mpr rfl

/-- A notification that is already buffered when `END` is read is swallowed, and
the call does not return. -/
theorem executeCommand_swallows :
    let reply : Reply := .block [lit "1,CONNECTED,SUCCESS,,,"] (by decide)
    let further := [lit ">BYTECOUNT:1,2"]
    ((opened (lit "localhost") 7505 : ManagementConnection Unit).executeCommand (lit "state ")
        ⟨reply.lines ++ further, fun call => decide (call < 2), false⟩).2 ≠
      some (.returned reply.text further) := by
  decide

end ManagementConnection
end Openpyn.Management
