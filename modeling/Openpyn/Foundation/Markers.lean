import Mathlib.Data.List.Infix

/-!
# Messages ended by markers

A stream carries messages, each a text and the marker that ends it. A marker is a
lead character and a name; no name contains the lead character, and none begins
another. Markers therefore occur in a stream only where they were put, and one
that is cut off is not a marker yet.
-/

namespace Openpyn.Foundation

universe u v

/-- The names of the markers that one lead character introduces. -/
structure Markers (α : Type u) (κ : Type v) where
  lead : α
  name : κ → List α
  leadFree : ∀ kind, lead ∉ name kind
  prefixFree : ∀ kind other, name kind <+: name other → kind = other

variable {α : Type u} {κ : Type v}

namespace Markers

variable (markers : Markers α κ)

/-- The marker of a kind. -/
def marker (kind : κ) : List α := markers.lead :: markers.name kind

/-- No marker occurs in the text. -/
def Clear (text : List α) : Prop := ∀ kind, ¬markers.marker kind <:+: text

variable {markers}

/-- A marker at the start of a text that goes on with a lead character lies within
the text. -/
theorem prefix_of_prefix_append {kind : κ} {text rest : List α} (nonempty : text ≠ [])
    (starts : markers.marker kind <+: text ++ markers.lead :: rest) :
    markers.marker kind <+: text := by
  rcases List.prefix_or_prefix_of_prefix starts (List.prefix_append text _) with
    within | ⟨more, whole⟩
  · exact within
  · obtain ⟨first, tail, rfl⟩ := List.exists_cons_of_ne_nil nonempty
    cases more with
    | nil =>
        rw [List.append_nil] at whole
        rw [whole]
    | cons next more =>
        -- the marker would contain a lead character besides its first one
        rw [← whole, List.prefix_append_right_inj] at starts
        obtain ⟨same, -⟩ := List.cons_prefix_cons.mp starts
        obtain ⟨-, name⟩ := List.cons.inj whole
        refine absurd ?_ (markers.leadFree kind)
        rw [← name, same]
        simp

/-- A marker in two texts with a lead character between them is in one of them or
begins at that character. -/
theorem infix_append_iff {kind : κ} {text rest : List α} :
    markers.marker kind <:+: text ++ markers.lead :: rest ↔
      markers.marker kind <:+: text ∨ markers.name kind <+: rest ∨
        markers.marker kind <:+: rest := by
  induction text with
  | nil =>
      rw [List.nil_append, List.infix_cons_iff, marker, List.cons_prefix_cons]
      simp
  | cons first tail inductionHypothesis =>
      rw [List.cons_append, List.infix_cons_iff, inductionHypothesis, List.infix_cons_iff,
        ← List.cons_append]
      constructor
      · rintro (starts | later)
        · exact .inl (.inl (prefix_of_prefix_append (List.cons_ne_nil _ _) starts))
        · exact later.imp_left .inr
      · rintro ((starts | inside) | later)
        · exact .inl (starts.trans (List.prefix_append _ _))
        · exact .inr (.inl inside)
        · exact .inr (.inr later)

theorem Clear.of_infix {text part : List α} (clear : markers.Clear text) (inside : part <:+: text) :
    markers.Clear part :=
  fun kind occurs => clear kind (occurs.trans inside)

/-- A text without the lead character is clear. -/
theorem clear_of_not_mem {text : List α} (free : markers.lead ∉ text) : markers.Clear text :=
  fun _ occurs => free (occurs.subset List.mem_cons_self)

/-- Characters before a clear text that are no lead characters leave it clear. -/
theorem Clear.append_left {text : List α} (clear : markers.Clear text) {before : List α}
    (free : markers.lead ∉ before) : markers.Clear (before ++ text) := by
  induction before with
  | nil => exact clear
  | cons first before inductionHypothesis =>
      obtain ⟨different, absent⟩ := not_or.mp (mt List.mem_cons.mpr free)
      intro kind occurs
      rcases List.infix_cons_iff.mp occurs with starts | later
      · exact different (List.cons_prefix_cons.mp starts).1
      · exact inductionHypothesis absent kind later

/-- In a clear text, a marker and what follows, no other marker occurs before the
rest, and only the rest can hold one. -/
theorem infix_message_iff {text rest : List α} (clear : markers.Clear text)
    (restClear : markers.Clear rest) (kind own : κ) :
    markers.marker kind <:+: text ++ markers.marker own ++ rest ↔ kind = own := by
  have opened : text ++ markers.marker own ++ rest =
      text ++ markers.lead :: (markers.name own ++ rest) := by
    rw [List.append_assoc]
    rfl
  rw [opened, infix_append_iff]
  have tailClear : markers.Clear (markers.name own ++ rest) :=
    restClear.append_left (markers.leadFree own)
  constructor
  · rintro (inText | atEnd | later)
    · exact absurd inText (clear kind)
    · rcases List.prefix_or_prefix_of_prefix atEnd (List.prefix_append _ rest) with short | long
      · exact markers.prefixFree kind own short
      · exact (markers.prefixFree own kind long).symm
    · exact absurd later (tailClear kind)
  · rintro rfl
    exact .inr (.inl (List.prefix_append _ _))

/-- A marker that is cut off leaves the text clear. -/
theorem Clear.append_partial {text part : List α} (clear : markers.Clear text) {own : κ}
    (starts : part <+: markers.marker own) (cut : part.length < (markers.marker own).length) :
    markers.Clear (text ++ part) := by
  cases part with
  | nil => rwa [List.append_nil]
  | cons first part =>
      obtain ⟨rfl, startsName⟩ := List.cons_prefix_cons.mp starts
      intro kind occurs
      rcases infix_append_iff.mp occurs with inText | atEnd | later
      · exact clear kind inText
      · obtain rfl := markers.prefixFree kind own (atEnd.trans startsName)
        have longer := atEnd.length_le
        simp only [marker, List.length_cons] at cut
        omega
      · have free : markers.lead ∉ part := fun member =>
          markers.leadFree own (startsName.subset member)
        exact clear_of_not_mem free kind later

/-- A message: a clear text and the kind of the marker that ends it. -/
structure Message (markers : Markers α κ) where
  kind : κ
  text : List α
  clear : markers.Clear text

/-- A message in the stream. -/
def Message.encode (message : markers.Message) : List α :=
  message.text ++ markers.marker message.kind

/-- The stream of the messages. -/
def stream (messages : List markers.Message) : List α := messages.flatMap Message.encode

/-- How many messages lie within the first `count` characters of their stream. -/
def completed : List markers.Message → Nat → Nat
  | [], _ => 0
  | message :: rest, count =>
      if message.encode.length ≤ count then completed rest (count - message.encode.length) + 1
      else 0

theorem stream_cons (message : markers.Message) (rest : List markers.Message) :
    stream (message :: rest) = message.encode ++ stream rest := List.flatMap_cons

theorem completed_add (message : markers.Message) (rest : List markers.Message) (count : Nat) :
    completed (message :: rest) (message.encode.length + count) = completed rest count + 1 := by
  rw [completed, if_pos (Nat.le_add_right _ _), Nat.add_sub_cancel_left]

theorem completed_eq_zero_iff {message : markers.Message} {rest : List markers.Message}
    {count : Nat} : completed (message :: rest) count = 0 ↔ count < message.encode.length := by
  rw [completed]
  split_ifs with complete
  · simp [complete]
  · simpa using complete

/-- The whole stream completes all its messages. -/
theorem completed_stream (messages : List markers.Message) :
    completed messages (stream messages).length = messages.length := by
  induction messages with
  | nil => rfl
  | cons message rest inductionHypothesis =>
      rw [stream_cons, List.length_append, completed_add, inductionHypothesis, List.length_cons]

/-- The beginning of a stream that completes no message is clear. -/
theorem clear_of_unfinished {messages : List markers.Message} {buffer : List α}
    (starts : buffer <+: stream messages) (unfinished : completed messages buffer.length = 0) :
    markers.Clear buffer := by
  cases messages with
  | nil =>
      obtain rfl := List.prefix_nil.mp starts
      exact clear_of_not_mem List.not_mem_nil
  | cons message rest =>
      rw [completed_eq_zero_iff] at unfinished
      rw [stream_cons] at starts
      have within : buffer <+: message.text ++ markers.marker message.kind :=
        List.prefix_of_prefix_length_le starts (List.prefix_append _ _) (Nat.le_of_lt unfinished)
      rcases List.prefix_or_prefix_of_prefix within (List.prefix_append message.text _) with
        inText | ⟨part, rfl⟩
      · exact message.clear.of_infix inText.isInfix
      · rw [Message.encode, List.length_append, List.length_append] at unfinished
        exact message.clear.append_partial ((List.prefix_append_right_inj _).mp within)
          (by omega)

/-- A piece of the stream that completes at most one message leaves the buffer
unfinished, or it completes the message that is due and leaves the rest of itself. -/
theorem next_piece {messages : List markers.Message} {buffer piece : List α}
    (starts : buffer ++ piece <+: stream messages)
    (single : completed messages (buffer ++ piece).length ≤ 1) :
    completed messages (buffer ++ piece).length = 0 ∨
      ∃ message rest remainder, messages = message :: rest ∧
        buffer ++ piece = message.encode ++ remainder ∧ remainder <+: stream rest ∧
          completed rest remainder.length = 0 := by
  cases messages with
  | nil => exact .inl rfl
  | cons message rest =>
      rcases Nat.lt_or_ge (buffer ++ piece).length message.encode.length with short | long
      · exact .inl (completed_eq_zero_iff.mpr short)
      · right
        rw [stream_cons] at starts
        obtain ⟨remainder, whole⟩ :=
          List.prefix_of_prefix_length_le (List.prefix_append _ _) starts long
        rw [← whole, List.prefix_append_right_inj] at starts
        rw [← whole, List.length_append, completed_add] at single
        exact ⟨message, rest, remainder, rfl, whole.symm, starts, by omega⟩

end Markers

end Openpyn.Foundation
