import Openpyn.Management.Replies
import Openpyn.Management.Session

/-!
# Two threads at one reader

`OpenVPNService.onConnected` starts the thread of `run` before `connect` asks for
the state, so both threads take lines from one `BufferedReader`. Nothing says
which line is whose. A schedule decides; it loses no line exactly when it hands
every line to the thread that can use it.
-/

namespace Openpyn.Management

open Foundation Java

variable {L : Type}

/-- A line of the server while both threads read: a notification, an answer to a
start-up command, a line of the state reply, or its end mark. -/
inductive ServerLine where
  | notification (rest : JString)
  | success (rest : JString)
  | state (text : JString) (inside : text ≠ endMark)
  | stateEnd
deriving DecidableEq

namespace ServerLine

/-- The line as it is read. -/
def text : ServerLine → JString
  | .notification rest => chr '>' :: rest
  | .success rest => Strings.successPrefix ++ rest
  | .state text _ => text
  | .stateEnd => endMark

def isNotification : ServerLine → Bool
  | .notification _ => true
  | _ => false

/-- A line of the state reply, its end mark included. -/
def isReply : ServerLine → Bool
  | .state _ _ => true
  | .stateEnd => true
  | _ => false

end ServerLine

/-- Who takes the next line: the thread inside `executeCommand`, together with the
answer `ready` gives it afterwards, or the thread inside `run`. -/
inductive Turn where
  | executing (ready : Bool)
  | running
deriving DecidableEq

/-- A line and the turn that took it. -/
structure Taken where
  turn : Turn
  line : ServerLine
deriving DecidableEq

/-- The server's output, the instance with the loop of `run`, and the text of
`executeCommand`, which has returned or still reads. -/
structure Shared (L : Type) where
  queue : List ServerLine
  session : Session L
  sb : JString
  executing : Bool

namespace Shared

/-- The line the turn takes: its thread must still read, and the socket must be
open. -/
def takes (s : Shared L) (turn : Turn) : Option ServerLine :=
  match turn with
  | .executing _ => if s.executing ∧ s.session.conn.isConnected then s.queue.head? else none
  | .running => if s.session.looping ∧ s.session.conn.isConnected then s.queue.head? else none

/-- What the thread does with its line. -/
def use (s : Shared L) (line : ServerLine) : Turn → Shared L
  | .executing ready =>
      if ready = false ∧ line.text = endMark then
        { s with queue := s.queue.tail, executing := false }
      else { s with queue := s.queue.tail, sb := s.sb ++ line.text ++ lineSeparator }
  | .running =>
      { s with queue := s.queue.tail, session := (s.session.readLine line.text).state }

/-- One turn; without a line to take it changes nothing. -/
def turn (s : Shared L) (turn : Turn) : Shared L × Option Taken :=
  match s.takes turn with
  | some line => (s.use line turn, some ⟨turn, line⟩)
  | none => (s, none)

/-- The two threads as a machine. -/
def machine : Machine (Shared L) Turn (Option Taken) where
  step := turn

/-- Both threads begin to read, on an open connection. -/
structure Begins (s : Shared L) : Prop where
  executes : s.executing = true
  empty : s.sb = []
  loops : s.session.looping = true
  established : s.session.conn.Established

/-- The loop of `run` can still take a line. -/
def RunReads (s : Shared L) : Prop :=
  s.session.looping = true ∧ s.session.conn.isConnected = true

/-- The loop of `executeCommand` can still take a line. -/
def CommandReads (s : Shared L) : Prop :=
  s.executing = true ∧ s.session.conn.isConnected = true

/-! ## Who got what -/

/-- The lines taken so far, in order. -/
def taken (log : List (Option Taken)) : List ServerLine :=
  log.filterMap fun entry => entry.map Taken.line

/-- The lines passed to `parseInput`. -/
def parsed (log : List (Option Taken)) : List ServerLine :=
  (log.filterMap id).filterMap fun entry =>
    if entry.turn = .running then some entry.line else none

/-- The lines `executeCommand` took. -/
def executed (log : List (Option Taken)) : List ServerLine :=
  (log.filterMap id).filterMap fun entry =>
    if entry.turn = .running then none else some entry.line

/-- Some of the lines are notifications. -/
def Notifies (lines : List ServerLine) : Prop := ∃ line ∈ lines, line.isNotification = true

/-- Some of the lines belong to the state reply. -/
def Replies (lines : List ServerLine) : Prop := ∃ line ∈ lines, line.isReply = true

/-- No line went astray: every notification was parsed once, no line of the reply
was, and `executeCommand` collected the reply and returned at its end. A line that
is still in the queue can still be taken by the thread it is for. -/
structure Delivered (queue : List ServerLine) (log : List (Option Taken)) (s : Shared L) :
    Prop where
  complete : taken log ++ s.queue = queue
  waiting : Notifies s.queue → s.RunReads
  awaited : Replies s.queue → s.CommandReads
  notified : (parsed log).filter ServerLine.isNotification =
    (taken log).filter ServerLine.isNotification
  unparsed : (parsed log).filter ServerLine.isReply = []
  collected : s.sb = joined ((executed log).filter (· ≠ .stateEnd) |>.map ServerLine.text)
  replied : (executed log).filter ServerLine.isReply = (taken log).filter ServerLine.isReply
  returned : .stateEnd ∈ taken log → s.executing = false

/-- The line ends the loop of `run`: its exception escapes, or is caught and then
the socket is closed. -/
def EndsLoop (s : Shared L) (line : ServerLine) : Prop :=
  ManagementConnection.Escapes line.text ∨
    ManagementConnection.Stops s.session.conn.mLastLevel line.text

/-- The line makes `run` close the socket. -/
def ClosesSocket (s : Shared L) (line : ServerLine) : Prop :=
  ¬ManagementConnection.Escapes line.text ∧
    ManagementConnection.Stops s.session.conn.mLastLevel line.text

/-- The turn hands its line to the thread that can use it, nothing is buffered
when that is the end mark, and no thread ends while a line for it waits. -/
def Proper (s : Shared L) (turn : Turn) : Prop :=
  ∀ line, s.takes turn = some line →
    match turn with
    | .executing ready =>
        line.isNotification = false ∧
          (line = .stateEnd → ready = false ∧ ¬Replies s.queue.tail)
    | .running =>
        line.isReply = false ∧ (s.EndsLoop line → ¬Notifies s.queue.tail) ∧
          (s.ClosesSocket line → ¬Replies s.queue.tail)

/-! ## One turn -/

@[simp] theorem taken_concat (log : List (Option Taken)) (entry : Option Taken) :
    taken (log ++ [entry]) = taken log ++ (entry.map Taken.line).toList := by
  cases entry <;> simp [taken]

@[simp] theorem parsed_concat_none (log : List (Option Taken)) :
    parsed (log ++ [none]) = parsed log := by
  simp [parsed]

@[simp] theorem executed_concat_none (log : List (Option Taken)) :
    executed (log ++ [none]) = executed log := by
  simp [executed]

@[simp] theorem parsed_concat_running (log : List (Option Taken)) (line : ServerLine) :
    parsed (log ++ [some ⟨.running, line⟩]) = parsed log ++ [line] := by
  simp [parsed]

@[simp] theorem parsed_concat_executing (log : List (Option Taken)) (ready : Bool)
    (line : ServerLine) : parsed (log ++ [some ⟨.executing ready, line⟩]) = parsed log := by
  simp [parsed]

@[simp] theorem executed_concat_running (log : List (Option Taken)) (line : ServerLine) :
    executed (log ++ [some ⟨.running, line⟩]) = executed log := by
  simp [executed]

@[simp] theorem executed_concat_executing (log : List (Option Taken)) (ready : Bool)
    (line : ServerLine) :
    executed (log ++ [some ⟨.executing ready, line⟩]) = executed log ++ [line] := by
  simp [executed]

/-- A line is taken from the head of the queue by a thread that still reads. -/
theorem takes_some {s : Shared L} {turn : Turn} {line : ServerLine}
    (takes : s.takes turn = some line) :
    s.queue = line :: s.queue.tail ∧ (turn ≠ .running → s.CommandReads) ∧
      (turn = .running → s.RunReads) := by
  have head : s.queue.head? = some line := by
    unfold Shared.takes at takes
    split at takes <;> split_ifs at takes <;> exact takes
  refine ⟨?_, ?_, ?_⟩
  · cases queue : s.queue with
    | nil => simp [queue] at head
    | cons first rest => simpa [queue] using head
  · intro executes
    cases turn with
    | running => exact absurd rfl executes
    | executing ready =>
        have guarded : (if s.executing ∧ s.session.conn.isConnected then s.queue.head? else none) =
            some line := takes
        split_ifs at guarded with reads
        exact reads
  · rintro rfl
    have guarded : (if s.session.looping ∧ s.session.conn.isConnected then s.queue.head?
        else none) = some line := takes
    split_ifs at guarded with reads
    exact reads

/-- Only the end mark of the reply reads like one. -/
theorem text_eq_endMark_iff (line : ServerLine) : line.text = endMark ↔ line = .stateEnd := by
  cases line with
  | notification rest => simp [ServerLine.text, endMark, lit, chr]
  | success rest => simp [ServerLine.text, endMark, lit, chr, Strings.successPrefix]
  | state text inside => simp [ServerLine.text, inside]
  | stateEnd => simp [ServerLine.text]

/-- `executeCommand` returns at the end mark when nothing is buffered. -/
theorem use_stateEnd (s : Shared L) :
    s.use .stateEnd (.executing false) =
      { s with queue := s.queue.tail, executing := false } := by
  simp [use, ServerLine.text]

/-- Everything else it collects. -/
theorem use_executing (s : Shared L) {line : ServerLine} {ready : Bool}
    (goesOn : line = .stateEnd → ready = true) :
    s.use line (.executing ready) =
      { s with queue := s.queue.tail, sb := s.sb ++ line.text ++ lineSeparator } := by
  apply if_neg
  rintro ⟨quiet, marked⟩
  rw [goesOn ((text_eq_endMark_iff line).mp marked)] at quiet
  cases quiet

theorem use_running (s : Shared L) (line : ServerLine) :
    s.use line .running =
      { s with queue := s.queue.tail, session := (s.session.readLine line.text).state } := rfl

/-- What still waits behind a line waited before. -/
theorem Notifies.of_tail {s : Shared L} {line : ServerLine} (head : s.queue = line :: s.queue.tail)
    (later : Notifies s.queue.tail) : Notifies s.queue := by
  obtain ⟨notice, member, kind⟩ := later
  rw [head]
  exact ⟨notice, List.mem_cons_of_mem line member, kind⟩

theorem Replies.of_tail {s : Shared L} {line : ServerLine} (head : s.queue = line :: s.queue.tail)
    (later : Replies s.queue.tail) : Replies s.queue := by
  obtain ⟨reply, member, kind⟩ := later
  rw [head]
  exact ⟨reply, List.mem_cons_of_mem line member, kind⟩

/-- An open socket has both its streams. -/
def Usable (s : Shared L) : Prop :=
  s.session.conn.isConnected = true → s.session.conn.Established

/-- A line ends the loop of `run`, or closes the socket, as its text says. -/
theorem use_running_reads {s : Shared L} (usable : s.Usable) {line : ServerLine}
    (takes : s.takes .running = some line) :
    (s.use line .running).Usable ∧ ((s.use line .running).RunReads ↔ ¬s.EndsLoop line) ∧
      ((s.use line .running).CommandReads ↔ s.executing = true ∧ ¬s.ClosesSocket line) := by
  obtain ⟨loops, connected⟩ := (takes_some takes).2.2 rfl
  rw [use_running]
  unfold Usable RunReads CommandReads EndsLoop ClosesSocket
  rcases Session.readLine_ending loops (usable connected) line.text with
    ⟨escapes, ended, still⟩ | ⟨stays, stops, ended, closed⟩ | ⟨stays, goesOn, going, still⟩
  · simp [escapes, ended, still]
  · simp [stays, stops, ended, closed]
  · simp [stays, goesOn, going, still]

/-- Every turn keeps the streams of an open socket. -/
theorem turn_usable {s : Shared L} (usable : s.Usable) (turn : Turn) :
    (s.turn turn).1.Usable := by
  unfold Shared.turn
  cases takes : s.takes turn with
  | none => exact usable
  | some line =>
      cases turn with
      | running => exact (use_running_reads usable takes).1
      | executing ready =>
          dsimp only [use]
          split_ifs <;> exact usable

/-- A proper turn of the connecting thread keeps the promise. -/
private theorem delivered_executing {queue : List ServerLine} {log : List (Option Taken)}
    {s : Shared L} (delivered : Delivered queue log s) {ready : Bool} {line : ServerLine}
    (takes : s.takes (.executing ready) = some line) (useful : line.isNotification = false)
    (quiet : line = .stateEnd → ready = false ∧ ¬Replies s.queue.tail) :
    Delivered queue (log ++ [some ⟨.executing ready, line⟩]) (s.use line (.executing ready)) := by
  obtain ⟨head, executes, -⟩ := takes_some takes
  have kept : s.CommandReads := executes (by simp)
  have first : .stateEnd ∉ taken log := by
    intro member
    have reads := kept.1
    rw [delivered.returned member] at reads
    cases reads
  have complete : taken log ++ line :: s.queue.tail = queue := head ▸ delivered.complete
  have waiting : Notifies s.queue.tail → s.RunReads := fun later =>
    delivered.waiting (later.of_tail head)
  by_cases marked : line = .stateEnd
  · subst marked
    obtain ⟨rfl, last⟩ := quiet rfl
    rw [use_stateEnd]
    refine ⟨?_, waiting, fun later => absurd later last, ?_, ?_, ?_, ?_, fun _ => rfl⟩
    · simpa using complete
    · simpa [useful] using delivered.notified
    · simpa using delivered.unparsed
    · simpa using delivered.collected
    · simpa using delivered.replied
  · rw [use_executing s fun same => absurd same marked]
    refine ⟨?_, waiting, fun _ => kept, ?_, ?_, ?_, ?_, ?_⟩
    · simpa using complete
    · simpa [useful] using delivered.notified
    · simpa using delivered.unparsed
    · simp [marked, delivered.collected]
    · simpa using delivered.replied
    · intro member
      rw [taken_concat, List.mem_append] at member
      exact absurd (by simpa [eq_comm] using member.resolve_left first) marked

/-- A proper turn of the thread of `run` keeps the promise. -/
private theorem delivered_running {queue : List ServerLine} {log : List (Option Taken)}
    {s : Shared L} (usable : s.Usable) (delivered : Delivered queue log s) {line : ServerLine}
    (takes : s.takes .running = some line) (useful : line.isReply = false)
    (goesOn : s.EndsLoop line → ¬Notifies s.queue.tail)
    (staysOpen : s.ClosesSocket line → ¬Replies s.queue.tail) :
    Delivered queue (log ++ [some ⟨.running, line⟩]) (s.use line .running) := by
  obtain ⟨head, -, -⟩ := takes_some takes
  obtain ⟨-, runReads, commandReads⟩ := use_running_reads usable takes
  have unmarked : line ≠ .stateEnd := by
    rintro rfl
    cases useful
  have complete : taken log ++ line :: s.queue.tail = queue := head ▸ delivered.complete
  refine ⟨?_, ?_, ?_, ?_, ?_, ?_, ?_, ?_⟩
  · simpa [use_running] using complete
  · exact fun later => runReads.mpr fun ends => goesOn ends later
  · intro later
    obtain ⟨reads, -⟩ := delivered.awaited (later.of_tail head)
    exact commandReads.mpr ⟨reads, fun closes => staysOpen closes later⟩
  · simp [delivered.notified]
  · simp [delivered.unparsed, useful]
  · simpa [use_running] using delivered.collected
  · simpa [useful] using delivered.replied
  · intro member
    rw [taken_concat, List.mem_append] at member
    apply delivered.returned
    refine member.resolve_right fun last => unmarked ?_
    simpa [eq_comm] using last

/-- A turn of the connecting thread that keeps the promise was proper. -/
private theorem proper_of_executing {queue : List ServerLine} {log : List (Option Taken)}
    {s : Shared L} (delivered : Delivered queue log s) {ready : Bool} {line : ServerLine}
    (takes : s.takes (.executing ready) = some line)
    (next : Delivered queue (log ++ [some ⟨.executing ready, line⟩])
      (s.use line (.executing ready))) :
    line.isNotification = false ∧ (line = .stateEnd → ready = false ∧ ¬Replies s.queue.tail) := by
  constructor
  · by_contra swallowed
    have notified := next.notified
    simp [swallowed, delivered.notified] at notified
  · rintro rfl
    have member : .stateEnd ∈ taken (log ++ [some ⟨.executing ready, .stateEnd⟩]) := by simp
    have returned := next.returned member
    have quiet : ready = false := by
      by_contra buffered
      have stillReads : s.executing = false := by
        have ready := (Bool.not_eq_false ready).mp buffered
        simpa [use_executing s fun _ => ready] using returned
      have reads := ((takes_some takes).2.1 (by simp)).1
      rw [reads] at stillReads
      cases stillReads
    subst quiet
    refine ⟨rfl, fun later => ?_⟩
    rw [use_stateEnd] at next
    obtain ⟨reads, -⟩ := next.awaited later
    cases reads

/-- A turn of the thread of `run` that keeps the promise was proper. -/
private theorem proper_of_running {queue : List ServerLine} {log : List (Option Taken)}
    {s : Shared L} (usable : s.Usable) {line : ServerLine}
    (takes : s.takes .running = some line)
    (next : Delivered queue (log ++ [some ⟨.running, line⟩]) (s.use line .running)) :
    line.isReply = false ∧ (s.EndsLoop line → ¬Notifies s.queue.tail) ∧
      (s.ClosesSocket line → ¬Replies s.queue.tail) := by
  obtain ⟨-, runReads, commandReads⟩ := use_running_reads usable takes
  refine ⟨?_, fun ends later => ?_, fun closes later => ?_⟩
  · by_contra misled
    have unparsed := next.unparsed
    simp [misled] at unparsed
  · exact runReads.mp (next.waiting later) ends
  · exact (commandReads.mp (next.awaited later)).2 closes

/-- One turn keeps the promise exactly when it is proper. -/
theorem turn_delivered_iff {queue : List ServerLine} {log : List (Option Taken)} {s : Shared L}
    (usable : s.Usable) (delivered : Delivered queue log s) (turn : Turn) :
    Delivered queue (log ++ [(s.turn turn).2]) (s.turn turn).1 ↔ Proper s turn := by
  unfold Shared.turn Proper
  cases takes : s.takes turn with
  | none =>
      refine ⟨fun _ line takes => (by cases takes), fun _ => ?_⟩
      refine ⟨?_, delivered.waiting, delivered.awaited, ?_, ?_, ?_, ?_, ?_⟩
      · simpa using delivered.complete
      · simpa using delivered.notified
      · simpa using delivered.unparsed
      · simpa using delivered.collected
      · simpa using delivered.replied
      · simpa using delivered.returned
  | some line =>
      constructor
      · intro next other same
        obtain rfl := Option.some.inj same
        cases turn with
        | executing ready => exact proper_of_executing delivered takes next
        | running => exact proper_of_running usable takes next
      · intro proper
        cases turn with
        | executing ready =>
            obtain ⟨useful, quiet⟩ := proper line rfl
            exact delivered_executing delivered takes useful quiet
        | running =>
            obtain ⟨useful, goesOn, staysOpen⟩ := proper line rfl
            exact delivered_running usable delivered takes useful goesOn staysOpen

/-! ## Whole schedules -/

/-- At the beginning nothing is lost. -/
theorem delivered_start {s : Shared L} (begins : Begins s) : Delivered s.queue [] s where
  complete := rfl
  waiting _ := ⟨begins.loops, begins.established.isConnected⟩
  awaited _ := ⟨begins.executes, begins.established.isConnected⟩
  notified := rfl
  unparsed := rfl
  collected := begins.empty
  replied := rfl
  returned member := by cases member

/-- The streams of an open socket are there all the time. -/
theorem usable_after {s : Shared L} (begins : Begins s) (turns : List Turn) :
    (machine.after s turns).Usable :=
  Machine.invariant Usable (fun _ turn usable => turn_usable usable turn)
    (fun _ => begins.established) turns

/-- One more turn of a schedule. -/
theorem delivered_concat_iff {s : Shared L} (begins : Begins s) {past : List Turn}
    (delivered : Delivered s.queue (machine.outputs s past) (machine.after s past))
    (turn : Turn) :
    Delivered s.queue (machine.outputs s (past ++ [turn])) (machine.after s (past ++ [turn])) ↔
      Proper (machine.after s past) turn := by
  rw [Machine.outputs_append, Machine.after_append]
  exact turn_delivered_iff (usable_after begins past) delivered turn

/-- Proper turns lose nothing, at any time. -/
theorem schedule_delivered {s : Shared L} (begins : Begins s) {turns : List Turn}
    (proper : ∀ past turn, past ++ [turn] <+: turns → Proper (machine.after s past) turn)
    (past : List Turn) (inside : past <+: turns) :
    Delivered s.queue (machine.outputs s past) (machine.after s past) := by
  induction past using List.reverseRecOn with
  | nil => exact delivered_start begins
  | append_singleton past turn inductionHypothesis =>
      have before : past <+: turns := (List.prefix_append past [turn]).trans inside
      exact (delivered_concat_iff begins (inductionHypothesis before) turn).mpr
        (proper past turn inside)

/-- No line goes astray at any time of a schedule exactly when all its turns are
proper. -/
theorem schedule_delivered_iff {s : Shared L} (begins : Begins s) (turns : List Turn) :
    (∀ past, past <+: turns →
        Delivered s.queue (machine.outputs s past) (machine.after s past)) ↔
      ∀ past turn, past ++ [turn] <+: turns → Proper (machine.after s past) turn := by
  constructor
  · intro always past turn inside
    have before : past <+: turns := (List.prefix_append past [turn]).trans inside
    exact (delivered_concat_iff begins (always past before) turn).mp (always _ inside)
  · exact schedule_delivered begins

/-- Once neither thread takes a line any more, a proper schedule had every
notification parsed and the whole reply collected, both in the order of the
server. -/
theorem schedule_complete {s : Shared L} (begins : Begins s) {turns : List Turn}
    (proper : ∀ past turn, past ++ [turn] <+: turns → Proper (machine.after s past) turn)
    (atRest : ∀ turn, (machine.after s turns).takes turn = none) :
    (parsed (machine.outputs s turns)).filter ServerLine.isNotification =
        s.queue.filter ServerLine.isNotification ∧
      (executed (machine.outputs s turns)).filter ServerLine.isReply =
        s.queue.filter ServerLine.isReply := by
  have delivered := schedule_delivered begins proper turns List.prefix_rfl
  have unnotified : ¬Notifies (machine.after s turns).queue := by
    intro waits
    obtain ⟨loops, connected⟩ := delivered.waiting waits
    have rest := atRest .running
    rw [takes, if_pos ⟨loops, connected⟩, List.head?_eq_none_iff] at rest
    obtain ⟨line, member, -⟩ := waits
    rw [rest] at member
    cases member
  have unreplied : ¬Replies (machine.after s turns).queue := by
    intro waits
    obtain ⟨executes, connected⟩ := delivered.awaited waits
    have rest := atRest (.executing false)
    rw [takes, if_pos ⟨executes, connected⟩, List.head?_eq_none_iff] at rest
    obtain ⟨line, member, -⟩ := waits
    rw [rest] at member
    cases member
  have noNotice : (machine.after s turns).queue.filter ServerLine.isNotification = [] :=
    List.filter_eq_nil_iff.mpr fun line member kind => unnotified ⟨line, member, kind⟩
  have noReply : (machine.after s turns).queue.filter ServerLine.isReply = [] :=
    List.filter_eq_nil_iff.mpr fun line member kind => unreplied ⟨line, member, kind⟩
  rw [delivered.notified, delivered.replied, ← delivered.complete, List.filter_append,
    List.filter_append, noNotice, noReply, List.append_nil, List.append_nil]
  exact ⟨rfl, rfl⟩

/-- A connection on which both threads begin to read these lines. -/
def contended (queue : List ServerLine) : Shared Unit where
  queue := queue
  session := ⟨.opened (lit "localhost") 7505, true⟩
  sb := []
  executing := true

theorem contended_begins (queue : List ServerLine) : Begins (contended queue) :=
  ⟨rfl, rfl, rfl, ManagementConnection.opened_established _ _⟩

/-- A notification and the state reply. -/
def answered : List ServerLine :=
  [.notification (lit "INFO:ready"), .state (lit "1,WAIT,,,,") (by decide), .stateEnd]

/-- The thread of `run` takes the notification, the other one its reply. -/
private theorem answered_proper (past : List Turn) (turn : Turn)
    (inside : past ++ [turn] <+: [.running, .executing true, .executing false]) :
    Proper (machine.after (contended answered) past) turn := by
  have keepsReading : ¬(contended answered).EndsLoop (.notification (lit "INFO:ready")) := by
    have decoded : notification (ServerLine.text (.notification (lit "INFO:ready"))) =
        some (lit "INFO", lit "ready") := by decide
    have ignored : kindOf (lit "INFO") = .ignored := by decide
    rintro (⟨cmd, argument, found, ends⟩ | ⟨cmd, argument, found, ends⟩) <;>
    · rw [decoded] at found
      obtain ⟨rfl, rfl⟩ := Prod.mk.inj (Option.some.inj found)
      rw [ignored] at ends
      exact ends
  rcases past with _ | ⟨first, _ | ⟨second, _ | ⟨third, more⟩⟩⟩
  · obtain ⟨rfl, -⟩ := List.cons_prefix_cons.mp inside
    intro line takes
    obtain rfl := Option.some.inj takes
    exact ⟨rfl, fun ends => absurd ends keepsReading,
      fun closes => absurd (.inr closes.2) keepsReading⟩
  · simp only [List.cons_append, List.nil_append, List.cons_prefix_cons] at inside
    obtain ⟨rfl, rfl, -⟩ := inside
    intro line takes
    obtain rfl := Option.some.inj takes
    exact ⟨rfl, fun marked => by cases marked⟩
  · simp only [List.cons_append, List.nil_append, List.cons_prefix_cons] at inside
    obtain ⟨rfl, rfl, rfl, -⟩ := inside
    intro line takes
    obtain rfl := Option.some.inj takes
    refine ⟨rfl, fun _ => ⟨rfl, ?_⟩⟩
    rintro ⟨reply, member, -⟩
    cases member
  · have size := inside.length_le
    simp only [List.length_append, List.length_cons, List.length_nil] at size
    omega

/-- Nothing is lost when each thread takes what is for it: the notification is
parsed and the reply collected. -/
theorem schedule_delivered_notification :
    Delivered answered
        (machine.outputs (contended answered) [.running, .executing true, .executing false])
        (machine.after (contended answered) [.running, .executing true, .executing false]) ∧
      parsed (machine.outputs (contended answered)
        [.running, .executing true, .executing false]) = [.notification (lit "INFO:ready")] :=
  ⟨(schedule_delivered_iff (contended_begins answered) _).mpr answered_proper _ List.prefix_rfl,
    by decide⟩

/-- Two messages, the first of which lacks its fields. -/
def abandoned : List ServerLine :=
  [.notification (lit "LOG:x"), .notification (lit "BYTECOUNT:1,2")]

/-- If the connecting thread reads first, the notification never reaches
`parseInput`; and if `run` reads a message that ends its loop, the one behind it
does not. -/
theorem schedule_swallows :
    (Begins (contended answered) ∧
      ¬Delivered answered (machine.outputs (contended answered) [.executing true])
        (machine.after (contended answered) [.executing true])) ∧
    (Begins (contended abandoned) ∧
      ¬Delivered abandoned (machine.outputs (contended abandoned) [.running])
        (machine.after (contended abandoned) [.running])) := by
  refine ⟨⟨contended_begins answered, fun delivered => ?_⟩,
    ⟨contended_begins abandoned, fun delivered => ?_⟩⟩
  · exact absurd delivered.notified (by decide)
  · have reads := delivered.waiting ⟨_, List.mem_singleton.mpr rfl, rfl⟩
    exact absurd reads.1 (by decide)

end Shared
end Openpyn.Management
