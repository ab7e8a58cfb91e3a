import Openpyn.Foundation.Completion
import Openpyn.Foundation.Markers
import Openpyn.Foundation.Since
import Openpyn.Java.CaseMapping
import Openpyn.Java.Number
import Mathlib.Data.List.Induction

/-!
# Output of the remote script

The script logs messages that end in a colon and the name of a level. Its output
arrives in lines that are cut anywhere, so `onOutputLine` collects them in a
buffer and looks for each of the nine markers. The other calls it makes and the
methods that start and stop the script are left out, except for the two phrases
that announce a connection.
-/

namespace Openpyn.Connection

open Foundation Java

/-- The level names, in the order in which `onOutputLine` looks for them. -/
inductive LoggingLevel where
  | spam
  | debug
  | verbose
  | info
  | notice
  | warning
  | success
  | error
  | critical
deriving DecidableEq

namespace LoggingLevel

/-- The name in the output. -/
def name : LoggingLevel → JString
  | .spam => lit "SPAM"
  | .debug => lit "DEBUG"
  | .verbose => lit "VERBOSE"
  | .info => lit "INFO"
  | .notice => lit "NOTICE"
  | .warning => lit "WARNING"
  | .success => lit "SUCCESS"
  | .error => lit "ERROR"
  | .critical => lit "CRITICAL"

/-- The number that is compared with the preference. -/
def number : LoggingLevel → Int
  | .spam => 5
  | .debug => 10
  | .verbose => 15
  | .info => 20
  | .notice => 25
  | .warning => 30
  | .success => 35
  | .error => 40
  | .critical => 50

/-- `logging`. -/
def logging : List LoggingLevel :=
  [.spam, .debug, .verbose, .info, .notice, .warning, .success, .error, .critical]

theorem mem_logging (level : LoggingLevel) : level ∈ logging := by
  cases level <;> decide

theorem nodup_logging : logging.Nodup := by
  decide

/-- A name with its colon is a marker. -/
def markers : Markers JChar LoggingLevel where
  lead := chr ':'
  name := name
  leadFree level := by cases level <;> decide
  prefixFree level other starts := by
    revert starts
    cases level <;> cases other <;> decide

end LoggingLevel

/-- The calls of `onOutputLine`, each with the listener that is called. -/
inductive OutputCall (L : Type) where
  | onDisconnect (listener : L)
  | onConnect (listener : L)
  | onOutputLine (listener : L) (line : JString)
  | log (listener : L) (level : LoggingLevel) (message : JString)
deriving DecidableEq

/-- The message handed to the output listener. -/
def OutputCall.logged {L : Type} : OutputCall L → Option (L × LoggingLevel × JString)
  | .log listener level message => some (listener, level, message)
  | _ => none

/-- The fields of `OpenpynController` that `onOutputLine` reads. -/
structure OpenpynController (L : Type) where
  buffer : JString
  mActivitySessionExecuteListener : Option L
  mActivityExecuteCommandListener : Option L
  mActivityOnOutputLineListener : Option L
deriving DecidableEq

namespace OpenpynController

variable {L : Type}

/-- The completion of a method of `OpenpynController`. -/
abbrev Result (L : Type) := Completion Throwable (OutputCall L) (OpenpynController L)

/-- Call a listener that may be null. -/
def notify (c : OpenpynController L) (listener : Option L) (call : L → OutputCall L) : Result L :=
  match listener with
  | some listener => .emit c [call listener]
  | none => .done c

/-- The body of the loop over the level names. `preference` is the text of
`pref_log_level`, of which `"25"` is the default. -/
def extract (preference : Option JString) (c : OpenpynController L) (level : LoggingLevel) :
    Result L :=
  let str := chr ':' :: level.name
  let last := indexOfText c.buffer str
  if last > -1 then
    let message := c.buffer.take last.toNat
    let c := { c with buffer := c.buffer.drop (last.toNat + str.length) }
    .withValue c (parseInt (preference.getD (lit "25"))) fun preferred =>
      if level.number ≥ preferred then
        c.notify c.mActivityOnOutputLineListener fun listener => .log listener level message
      else .done c
  else .done c

/-- `onOutputLine`. -/
def onOutputLine (mapping : CaseMapping) (preference : Option JString) (c : OpenpynController L)
    (line : JString) : Result L :=
  let announced :=
    if mapping.startsWithIgnoreCase line (lit "Killing the running openvpn") then
      c.notify c.mActivityExecuteCommandListener .onDisconnect
    else if mapping.startsWithIgnoreCase line (lit "CONNECTING TO SERVER") then
      c.notify c.mActivityExecuteCommandListener .onConnect
    else .done c
  announced.andThen fun c =>
    (c.notify c.mActivitySessionExecuteListener fun listener =>
      .onOutputLine listener line).andThen fun c =>
        Completion.forEach (extract preference) { c with buffer := c.buffer ++ line }
          LoggingLevel.logging

/-- A new controller. -/
def create (session command output : Option L) : OpenpynController L :=
  ⟨[], session, command, output⟩

/-! ## One line -/

theorem notify_eq (c : OpenpynController L) (listener : Option L) (call : L → OutputCall L) :
    c.notify listener call = .emit c (listener.toList.map call) := by
  cases listener <;> rfl

/-- A level whose marker is not in the buffer is passed over. -/
theorem extract_absent (preference : Option JString) {c : OpenpynController L}
    {level : LoggingLevel} (absent : ¬LoggingLevel.markers.marker level <:+: c.buffer) :
    c.extract preference level = .done c := by
  have missing : indexOfText c.buffer (chr ':' :: level.name) = -1 := indexOfText_absent absent
  simp only [extract, missing]
  rfl

/-- The calls a message leads to. -/
def due (output : Option L) (preferred : Int) (message : LoggingLevel.markers.Message) :
    List (OutputCall L) :=
  if message.kind.number ≥ preferred then
    output.toList.map fun listener => .log listener message.kind message.text
  else []

/-- A message at the start of the buffer is taken out and delivered. -/
theorem extract_message {preference : Option JString} {preferred : Int}
    (numeric : parseInt (preference.getD (lit "25")) = .ok preferred) {c : OpenpynController L}
    {message : LoggingLevel.markers.Message} {rest : JString}
    (whole : c.buffer = message.encode ++ rest) :
    c.extract preference message.kind =
      .emit { c with buffer := rest }
        (due c.mActivityOnOutputLineListener preferred message) := by
  have found : indexOfText c.buffer (chr ':' :: message.kind.name) = message.text.length := by
    rw [whole]
    refine indexOfText_append fun tail suffix nonempty starts => ?_
    have within := Markers.prefix_of_prefix_append nonempty starts
    exact message.clear message.kind (within.isInfix.trans suffix.isInfix)
  have text : c.buffer.take message.text.length = message.text := by
    rw [whole, Markers.Message.encode, List.append_assoc, List.take_left]
  have after : c.buffer.drop (message.text.length + (chr ':' :: message.kind.name).length) =
      rest := by
    have size : message.encode.length =
        message.text.length + (chr ':' :: message.kind.name).length := by
      rw [Markers.Message.encode, List.length_append]
      rfl
    rw [whole, ← size, List.drop_left]
  have positive : (message.text.length : Int) > -1 := by omega
  simp only [extract, found, if_pos positive, Int.toNat_natCast, text, after, numeric,
    Completion.withValue_ok, notify_eq, due]
  split_ifs <;> rfl

/-- A clear buffer is left alone by the whole loop. -/
theorem extractAll_clear (preference : Option JString) {c : OpenpynController L}
    (clear : LoggingLevel.markers.Clear c.buffer) (levels : List LoggingLevel) :
    Completion.forEach (extract preference) c levels = .done c :=
  Completion.forEach_eq_done fun level _ => extract_absent preference (clear level)

/-- Of a buffer with one message the loop takes out that message, whatever comes
before and after its level in the order. -/
theorem extractAll_message {preference : Option JString} {preferred : Int}
    (numeric : parseInt (preference.getD (lit "25")) = .ok preferred) {c : OpenpynController L}
    {message : LoggingLevel.markers.Message} {rest : JString}
    (whole : c.buffer = message.encode ++ rest) (clear : LoggingLevel.markers.Clear rest) :
    Completion.forEach (extract preference) c LoggingLevel.logging =
      .emit { c with buffer := rest }
        (due c.mActivityOnOutputLineListener preferred message) := by
  obtain ⟨before, after, order⟩ := List.append_of_mem (LoggingLevel.mem_logging message.kind)
  have elsewhere : message.kind ∉ before := by
    have distinct := LoggingLevel.nodup_logging
    rw [order, List.nodup_append] at distinct
    exact fun member => distinct.2.2 _ member _ List.mem_cons_self rfl
  have skipped : Completion.forEach (extract preference) c before = .done c := by
    refine Completion.forEach_eq_done fun level member => extract_absent preference ?_
    rw [whole, Markers.Message.encode, Markers.infix_message_iff message.clear clear]
    exact ne_of_mem_of_not_mem member elsewhere
  rw [order, Completion.forEach_append, skipped, Completion.done_andThen, Completion.forEach_cons,
    extract_message numeric whole, Completion.emit_andThen,
    extractAll_clear preference (c := { c with buffer := rest }) clear]
  simp [Completion.emit]

/-- Apart from the loop, a line only makes calls that deliver no message. -/
theorem onOutputLine_eq (mapping : CaseMapping) (preference : Option JString)
    (c : OpenpynController L) (line : JString) :
    ∃ calls, calls.filterMap OutputCall.logged = [] ∧
      c.onOutputLine mapping preference line =
        (Completion.emit { c with buffer := c.buffer ++ line } calls).andThen fun c =>
          Completion.forEach (extract preference) c LoggingLevel.logging := by
  have silent : ∀ (listener : Option L) (call : L → OutputCall L),
      (∀ listener, (call listener).logged = none) →
        (listener.toList.map call).filterMap OutputCall.logged = [] := by
    intro listener call unlogged
    cases listener <;> simp [unlogged]
  have session := silent c.mActivitySessionExecuteListener (fun listener =>
    .onOutputLine listener line) fun _ => rfl
  unfold onOutputLine
  simp only [notify_eq]
  split_ifs with killing connecting
  · refine ⟨c.mActivityExecuteCommandListener.toList.map .onDisconnect ++
      c.mActivitySessionExecuteListener.toList.map fun listener => .onOutputLine listener line,
      ?_, by simp only [Completion.emit_andThen, List.append_assoc]⟩
    rw [List.filterMap_append, session, silent _ _ fun _ => rfl, List.append_nil]
  · refine ⟨c.mActivityExecuteCommandListener.toList.map .onConnect ++
      c.mActivitySessionExecuteListener.toList.map fun listener => .onOutputLine listener line,
      ?_, by simp only [Completion.emit_andThen, List.append_assoc]⟩
    rw [List.filterMap_append, session, silent _ _ fun _ => rfl, List.append_nil]
  · exact ⟨c.mActivitySessionExecuteListener.toList.map fun listener => .onOutputLine listener line,
      session, by simp only [Completion.done_andThen, Completion.emit_andThen]⟩

/-! ## All lines -/

/-- What a run over the lines owes: it returns, and it has delivered the messages
of sufficient level, each once and in order, and kept nothing. -/
structure Delivers (output : L) (preferred : Int) (messages : List LoggingLevel.markers.Message)
    (run : Result L) : Prop where
  returned : run.thrown = none
  delivered : run.emitted.filterMap OutputCall.logged =
    (messages.filter fun message => message.kind.number ≥ preferred).map fun message =>
      (output, message.kind, message.text)
  emptied : run.state.buffer = []

/-- A run delivers what its first part and its rest deliver. -/
theorem Delivers.cons {output : L} {preferred : Int}
    (first : List LoggingLevel.markers.Message) {messages : List LoggingLevel.markers.Message}
    {c : OpenpynController L}
    {calls : List (OutputCall L)} {next : OpenpynController L → Result L}
    (here : calls.filterMap OutputCall.logged =
      (first.filter fun message => message.kind.number ≥ preferred).map fun message =>
        (output, message.kind, message.text))
    (later : Delivers output preferred messages (next c)) :
    Delivers output preferred (first ++ messages) ((Completion.emit c calls).andThen next) where
  returned := later.returned
  delivered := by
    rw [Completion.emit_andThen, List.filterMap_append, here, later.delivered, List.filter_append,
      List.map_append]
  emptied := later.emptied

/-- The calls a message leads to deliver it when its level is sufficient. -/
theorem logged_due (output : L) (preferred : Int) (message : LoggingLevel.markers.Message) :
    (due (some output) preferred message).filterMap OutputCall.logged =
      ([message].filter fun message => message.kind.number ≥ preferred).map fun message =>
        (output, message.kind, message.text) := by
  unfold due
  split_ifs with sufficient <;> simp [sufficient, OutputCall.logged]

/-- Where a message ends in a line, the lines after it complete at most one of the other
messages each: lengths are counted from the end of that message. -/
theorem single_after_message {message : LoggingLevel.markers.Message}
    {pending : List LoggingLevel.markers.Message} {buffer line remainder : JString}
    (whole : buffer ++ line = message.encode ++ remainder) {rest : List JString}
    (single : Always (fun before piece =>
      Markers.completed (message :: pending) (buffer ++ (line :: before).flatten ++ piece).length ≤
        Markers.completed (message :: pending) (buffer ++ (line :: before).flatten).length + 1)
      rest) :
    Always (fun before piece =>
      Markers.completed pending (remainder ++ before.flatten ++ piece).length ≤
        Markers.completed pending (remainder ++ before.flatten).length + 1) rest := by
  have shift : ∀ tail : JString,
      Markers.completed (message :: pending) (buffer ++ line ++ tail).length =
        Markers.completed pending (remainder ++ tail).length + 1 := by
    intro tail
    rw [whole, List.append_assoc, List.length_append, Markers.completed_add]
  intro before piece after split
  have bound := single before piece after split
  simp only [List.flatten_cons, ← List.append_assoc] at bound
  rw [List.append_assoc _ before.flatten, shift, shift] at bound
  simpa using bound

/-- From an unfinished buffer, the lines deliver the messages that are due. The
induction is on the lines; each of them completes at most the first message. -/
theorem delivers_from (mapping : CaseMapping) {preference : Option JString} {preferred : Int}
    (numeric : parseInt (preference.getD (lit "25")) = .ok preferred) {output : L}
    {lines : List JString} {c : OpenpynController L}
    (listening : c.mActivityOnOutputLineListener = some output)
    {messages : List LoggingLevel.markers.Message}
    (cut : c.buffer ++ lines.flatten = Markers.stream messages)
    (unfinished : Markers.completed messages c.buffer.length = 0)
    (single : Always (fun before line =>
      Markers.completed messages (c.buffer ++ before.flatten ++ line).length ≤
        Markers.completed messages (c.buffer ++ before.flatten).length + 1) lines) :
    Delivers output preferred messages
      (Completion.forEach (fun c => c.onOutputLine mapping preference) c lines) := by
  induction lines generalizing c messages with
  | nil =>
      rw [List.flatten_nil, List.append_nil] at cut
      rw [cut, Markers.completed_stream, List.length_eq_zero_iff] at unfinished
      subst unfinished
      exact ⟨rfl, rfl, cut⟩
  | cons line rest inductionHypothesis =>
      obtain ⟨calls, silent, reads⟩ := onOutputLine_eq mapping preference c line
      obtain ⟨here, later⟩ := always_cons.mp single
      simp only [List.flatten_nil, List.append_nil, unfinished, Nat.zero_add] at here
      rw [List.flatten_cons, ← List.append_assoc] at cut
      have starts : c.buffer ++ line <+: Markers.stream messages := ⟨rest.flatten, cut⟩
      rw [Completion.forEach_cons, reads]
      rcases Markers.next_piece starts here with
        still | ⟨message, pending, remainder, rfl, whole, startsNext, unfinishedNext⟩
      · have clear := Markers.clear_of_unfinished starts still
        rw [Completion.emit_andThen,
          extractAll_clear preference (c := { c with buffer := c.buffer ++ line }) clear]
        refine Delivers.cons [] (by simpa using silent)
          (inductionHypothesis (c := { c with buffer := c.buffer ++ line }) listening cut still ?_)
        intro before piece after split
        simpa [List.append_assoc] using later before piece after split
      · have clear := Markers.clear_of_unfinished startsNext unfinishedNext
        rw [Completion.emit_andThen, extractAll_message numeric
          (c := { c with buffer := c.buffer ++ line }) whole clear]
        refine Delivers.cons [message] ?_
          (inductionHypothesis (c := { c with buffer := remainder }) listening ?_ unfinishedNext
            ?_)
        · rw [Completion.emit_emitted, List.filterMap_append, silent, listening, logged_due,
            List.nil_append]
        · rw [whole, Markers.stream_cons, List.append_assoc] at cut
          exact List.append_cancel_left cut
        · exact single_after_message whole later

/-- Cut anywhere into lines that complete at most one message each, the output of
the script delivers exactly the messages of sufficient level. -/
theorem onOutputLine_delivers (mapping : CaseMapping) (session command : Option L) (output : L)
    {preference : Option JString} {preferred : Int}
    (numeric : parseInt (preference.getD (lit "25")) = .ok preferred)
    {messages : List LoggingLevel.markers.Message} {lines : List JString}
    (cut : lines.flatten = Markers.stream messages)
    (single : Always (fun before line =>
      Markers.completed messages (before.flatten ++ line).length ≤
        Markers.completed messages before.flatten.length + 1) lines) :
    Delivers output preferred messages
      (Completion.forEach (fun c => c.onOutputLine mapping preference)
        (create session command (some output)) lines) := by
  refine delivers_from mapping numeric rfl cut ?_ single
  cases messages with
  | nil => rfl
  | cons message rest =>
      rw [Markers.completed_eq_zero_iff, Markers.Message.encode, List.length_append]
      exact Nat.lt_add_left _ (Nat.succ_pos _)

/-- An information and an error. -/
def twoMessages : List LoggingLevel.markers.Message :=
  [⟨.info, lit "Connecting", by intro level; cases level <;> decide⟩,
   ⟨.error, lit "No: timeout", by intro level; cases level <;> decide⟩]

/-- Both markers are cut, and the third line carries the end of one message and
the beginning of the next. -/
def fourLines : List JString :=
  [lit "Connec", lit "ting:IN", lit "FONo: time", lit "out:ERROR"]

theorem onOutputLine_delivers_error :
    Delivers 0 25 twoMessages
      (Completion.forEach (fun c => c.onOutputLine .ascii none)
        (create (some 1) (some 2) (some 0)) fourLines) := by
  refine onOutputLine_delivers .ascii (some 1) (some 2) 0 (by decide) (by decide) ?_
  simp only [fourLines, always_cons, always_nil]
  decide

end OpenpynController
end Openpyn.Connection
