import Openpyn.Foundation.Machine
import Openpyn.Foundation.Since
import Openpyn.Management.Replies

/-!
# Connecting and disconnecting

`connect` opens a socket unless one is open, and asks for the state whether or
not that succeeded. A run is a sequence of such calls and of `disconnect`. The
private `connect` publishes the socket before it has the streams made from it and
does not close it when a later step fails; `LateFailure` is such an attempt, and
a run without one keeps every open socket together with its own streams.
-/

namespace Openpyn.Management

open Foundation Java

variable {L : Type}

namespace ManagementConnection

/-- `connect(String, Integer)`: a reply that never ends keeps the call waiting. -/
def connect (c : ManagementConnection L) (host : Option JString) (port : Option Int)
    (attempt : Attempt) (incoming : Incoming) : Result L :=
  (c.ensureConnected host port attempt).andThen fun c =>
    let executed := c.executeCommand (Commands.stateCommand []) incoming
    match executed.2 with
    | some (.returned result _) => executed.1.andThen fun c => c.processReply result
    | _ => executed.1

/-- A call that may change the socket. -/
inductive SocketCall where
  | connect (host : Option JString) (port : Option Int) (attempt : Attempt) (incoming : Incoming)
  | disconnect

/-- One call. -/
def perform (c : ManagementConnection L) : SocketCall → Result L
  | .connect host port attempt incoming => c.connect host port attempt incoming
  | .disconnect => c.disconnect

/-- The calls as a machine. -/
def socketMachine : Machine (ManagementConnection L) SocketCall (Option Throwable) :=
  ⟨fun c call => ((c.perform call).state, (c.perform call).thrown)⟩

end ManagementConnection

namespace AbstractConnection

/-- A stream that is there and was made from the socket held now. -/
def IsCurrent (stream : Option Stream) : Prop := stream.any Stream.ofSocket = true

instance (stream : Option Stream) : Decidable (IsCurrent stream) :=
  inferInstanceAs (Decidable (_ = _))

/-- An open socket comes with its own reader and writer. -/
def OwnsStreams (c : AbstractConnection) : Prop :=
  c.isConnected = true → IsCurrent c.mBufferedReader ∧ IsCurrent c.mBufferedWriter

instance (c : AbstractConnection) : Decidable c.OwnsStreams :=
  inferInstanceAs (Decidable (_ → _))

end AbstractConnection

/-- The attempts in which a step after the constructor of the socket fails. -/
def Attempt.IsLate : Attempt → Prop
  | .inputStreamFails _ => True
  | .outputStreamFails _ => True
  | .socketOptionFails _ => True
  | _ => False

namespace ManagementConnection

/-- A `connect` whose call of the superclass raises leaves no socket open. While
a socket is open the superclass is not called. -/
def RaisesDisconnected (c : ManagementConnection L) : SocketCall → Prop
  | .connect host port attempt _ =>
      let result : Completion Throwable (Event L) AbstractConnection :=
        c.toAbstractConnection.connect host port attempt
      c.isConnected = false → result.thrown ≠ none → result.state.isConnected = false
  | .disconnect => True

/-- A `connect` that gets as far as the socket and fails after it. -/
def LateFailure (c : ManagementConnection L) : SocketCall → Prop
  | .connect host port attempt _ =>
      c.isConnected = false ∧ host ≠ none ∧ port ≠ none ∧ attempt.IsLate
  | .disconnect => False

/-- The socket and its streams are these. -/
def HasSuper (super : AbstractConnection) (c : ManagementConnection L) : Prop :=
  c.toAbstractConnection = super

end ManagementConnection

/-! ## One call -/

namespace AbstractConnection

variable {ω : Type} {c : AbstractConnection}

/-- Without an open socket the superclass's `connect` fails late and leaves one
open, or it opens a socket and both streams, or it leaves all three alone. -/
theorem connect_cases (disconnected : c.isConnected = false) (host : Option JString)
    (port : Option Int) (attempt : Attempt) :
    let result : Completion Throwable ω AbstractConnection := c.connect host port attempt
    ((host ≠ none ∧ port ≠ none ∧ attempt.IsLate) ∧
        result.thrown ≠ none ∧ result.state.isConnected = true) ∨
      (¬(host ≠ none ∧ port ≠ none ∧ attempt.IsLate) ∧ result.state.OwnsStreams ∧
        (result.thrown ≠ none → result.state.isConnected = false)) := by
  have vacuous : c.OwnsStreams := by
    intro connected
    rw [disconnected] at connected
    cases connected
  intro result
  simp only [result, connect, disconnected, Bool.false_eq_true, if_false]
  split_ifs with noHost noPort
  · exact .inr ⟨fun late => late.1 noHost, vacuous, fun _ => disconnected⟩
  · exact .inr ⟨fun late => late.2.1 noPort, vacuous, fun _ => disconnected⟩
  · cases attempt with
    | opens => exact .inr ⟨fun late => late.2.2, fun _ => ⟨rfl, rfl⟩, fun threw => absurd rfl threw⟩
    | socketFails exception =>
        exact .inr ⟨fun late => late.2.2, vacuous, fun _ => disconnected⟩
    | inputStreamFails message => exact .inl ⟨⟨noHost, noPort, trivial⟩, by simp [openSocket], rfl⟩
    | outputStreamFails message =>
        exact .inl ⟨⟨noHost, noPort, trivial⟩, by simp [openSocket], rfl⟩
    | socketOptionFails message =>
        exact .inl ⟨⟨noHost, noPort, trivial⟩, by simp [openSocket], rfl⟩

/-- What closing changes: it opens nothing, and every stream stays with its socket. -/
structure Closing (before after : AbstractConnection) : Prop where
  reader : after.mBufferedReader.map Stream.ofSocket = before.mBufferedReader.map Stream.ofSocket
  writer : after.mBufferedWriter.map Stream.ofSocket = before.mBufferedWriter.map Stream.ofSocket
  opensNothing : after.isConnected = true → before.isConnected = true

namespace Closing

variable {first second third : AbstractConnection}

theorem refl (c : AbstractConnection) : Closing c c := ⟨rfl, rfl, id⟩

theorem trans (one : Closing first second) (two : Closing second third) :
    Closing first third where
  reader := two.reader.trans one.reader
  writer := two.writer.trans one.writer
  opensNothing connected := one.opensNothing (two.opensNothing connected)

/-- A stream is current as far as its socket is concerned. -/
private theorem isCurrent_congr {stream other : Option Stream}
    (same : other.map Stream.ofSocket = stream.map Stream.ofSocket) :
    IsCurrent other ↔ IsCurrent stream := by
  unfold IsCurrent
  cases stream <;> cases other <;> simp_all

theorem ownsStreams (closing : Closing first second) (owns : first.OwnsStreams) :
    second.OwnsStreams := by
  intro connected
  obtain ⟨reader, writer⟩ := owns (closing.opensNothing connected)
  exact ⟨(isCurrent_congr closing.reader).mpr reader, (isCurrent_congr closing.writer).mpr writer⟩

end Closing

/-- A closed socket is not connected. -/
private theorem isConnected_closed (socket : Option Socket) (reader writer : Option Stream)
    (host : Option JString) (port : Option Int) :
    isConnected ⟨reader, writer, host, port,
      socket.map fun s => { s with closed := true }⟩ = false := by
  cases socket <;> simp [isConnected]

theorem closing_closeReader (c : AbstractConnection) :
    Closing c (c.closeReader : Completion Throwable ω AbstractConnection).state := by
  unfold closeReader
  split
  · exact .refl c
  · rename_i reader present
    split_ifs with closed
    · exact .refl c
    · unfold closeSocketOf
      split_ifs with own
      · refine ⟨by simp [present, own], rfl, fun connected => ?_⟩
        rw [Completion.done_state, isConnected_closed] at connected
        cases connected
      · exact ⟨by simp [present, own], rfl, id⟩

theorem closing_closeWriter (c : AbstractConnection) :
    Closing c (c.closeWriter : Completion Throwable ω AbstractConnection).state := by
  unfold closeWriter
  split
  · exact .refl c
  · rename_i writer present
    split_ifs with closed
    · exact .refl c
    · unfold closeSocketOf
      split_ifs with own
      · refine ⟨rfl, by simp [present, own], fun connected => ?_⟩
        rw [Completion.done_state, isConnected_closed] at connected
        cases connected
      · exact ⟨rfl, by simp [present, own], id⟩

theorem closing_closeSocket (c : AbstractConnection) :
    Closing c (c.closeSocket : Completion Throwable ω AbstractConnection).state := by
  refine ⟨rfl, rfl, fun connected => ?_⟩
  rw [closeSocket, Completion.done_state, isConnected_closed] at connected
  cases connected

theorem closing_closeQuietly (c : AbstractConnection) :
    Closing c (c.closeQuietly : Completion Throwable ω AbstractConnection).state := by
  rw [closeQuietly, Completion.catching_state, close]
  refine Completion.andThen_invariant (Closing c) (closing_closeReader c) fun next closing => ?_
  refine Completion.andThen_invariant (Closing c) (closing.trans (closing_closeWriter next)) ?_
  exact fun last closing => closing.trans (closing_closeSocket last)

end AbstractConnection

namespace ManagementConnection

theorem notifyConnection_state (c : ManagementConnection L) (event : L → Event L) :
    (c.notifyConnection event).state = c := by
  unfold notifyConnection
  split <;> rfl

/-- After the first block of `connect` the socket is what the superclass made it. -/
theorem ensureConnected_super (c : ManagementConnection L) (host : Option JString)
    (port : Option Int) (attempt : Attempt) :
    (c.ensureConnected host port attempt).state.toAbstractConnection =
      if c.isConnected then c.toAbstractConnection
      else (c.toAbstractConnection.connect host port attempt :
        Completion Throwable (Event L) AbstractConnection).state := by
  unfold ensureConnected
  split_ifs with connected
  · rfl
  · generalize (c.toAbstractConnection.connect host port attempt :
      Completion Throwable (Event L) AbstractConnection) = result
    have notified : ∀ event next, HasSuper result.state next →
        HasSuper result.state (next.notifyConnection event : Result L).state := by
      intro event next same
      rw [notifyConnection_state]
      exact same
    dsimp only
    split
    · exact Completion.andThen_invariant (HasSuper result.state) rfl (notified _)
    · exact Completion.andThen_invariant (HasSuper result.state) rfl (notified _)

/-- Handling a reply concerns the level only. -/
theorem processReply_super (c : ManagementConnection L) (result : JString) :
    (c.processReply result).state.toAbstractConnection = c.toAbstractConnection := by
  refine Completion.withValue_invariant (HasSuper c.toAbstractConnection) rfl _ ?_
  intro argument
  split_ifs
  · rfl
  · rw [processState_eq]
    cases readState argument with
    | error exception => rfl
    | ok state =>
        dsimp only
        split_ifs <;> rfl

/-- The second block of `connect` leaves the socket alone. -/
theorem connect_super (c : ManagementConnection L) (host : Option JString) (port : Option Int)
    (attempt : Attempt) (incoming : Incoming) :
    (c.connect host port attempt incoming).state.toAbstractConnection =
      (c.ensureConnected host port attempt).state.toAbstractConnection := by
  have executed : ∀ next : ManagementConnection L,
      (next.executeCommand (Commands.stateCommand []) incoming).1.state = next := by
    intro next
    unfold executeCommand
    split <;> exact sendCommand_state next _
  refine Completion.andThen_invariant (HasSuper _) rfl fun next same => ?_
  dsimp only
  split
  · refine Completion.andThen_invariant (HasSuper _) ?_ fun last kept => ?_
    · rw [executed]
      exact same
    · exact (processReply_super last _).trans kept
  · rw [executed]
    exact same

/-- What `disconnect` does to the socket. -/
theorem disconnect_closing (c : ManagementConnection L) :
    AbstractConnection.Closing c.toAbstractConnection
      c.disconnect.state.toAbstractConnection := by
  have closed : c.disconnect.state.toAbstractConnection =
      (c.toAbstractConnection.closeQuietly : Completion Throwable (Event L) _).state := by
    rw [disconnect, Completion.emit_andThen]
    refine Completion.andThen_invariant (HasSuper _) rfl fun next same => ?_
    rw [notifyConnection_state]
    exact same
  rw [closed]
  exact AbstractConnection.closing_closeQuietly _

/-- A call fails late and leaves a socket open, or it keeps every open socket
together with its streams. -/
theorem perform_cases {c : ManagementConnection L} (owns : c.OwnsStreams) (call : SocketCall) :
    (c.LateFailure call ∧ ¬c.RaisesDisconnected call) ∨
      (¬c.LateFailure call ∧ c.RaisesDisconnected call ∧ (c.perform call).state.OwnsStreams) := by
  cases call with
  | connect host port attempt incoming =>
      rw [perform, connect_super, ensureConnected_super]
      cases connected : c.isConnected with
      | true =>
          refine .inr ⟨fun late => ?_, fun disconnected => ?_, owns⟩
          · cases connected.symm.trans late.1
          · cases connected.symm.trans disconnected
      | false =>
          rcases AbstractConnection.connect_cases (ω := Event L) connected host port attempt with
            ⟨late, threw, stillOpen⟩ | ⟨early, keeps, closed⟩
          · refine .inl ⟨⟨connected, late⟩, fun clean => ?_⟩
            cases stillOpen.symm.trans (clean connected threw)
          · exact .inr ⟨fun late => early late.2, fun _ => closed, keeps⟩
  | disconnect => exact .inr ⟨id, trivial, (disconnect_closing c).ownsStreams owns⟩

/-! ## Runs -/

/-- The instance after a run from its creation. -/
def afterCalls (L : Type) (calls : List SocketCall) : ManagementConnection L :=
  socketMachine.after fresh calls

/-- In every state a run goes through an open socket comes with its own streams,
and every `connect` of the superclass that raised left no socket open. -/
def KeepsStreams (L : Type) (calls : List SocketCall) : Prop :=
  Throughout (fun past => (afterCalls L past).OwnsStreams) calls ∧
    Always (fun past call => (afterCalls L past).RaisesDisconnected call) calls

/-- No attempt of a run fails late. -/
def NeverLate (L : Type) (calls : List SocketCall) : Prop :=
  Always (fun past call => ¬(afterCalls L past).LateFailure call) calls

theorem afterCalls_concat (past : List SocketCall) (call : SocketCall) :
    afterCalls L (past ++ [call]) = ((afterCalls L past).perform call).state := by
  simp [afterCalls, socketMachine]

/-- The runs that keep every open socket with its streams are those in which no
attempt fails late. -/
theorem keepsStreams_iff (L : Type) (calls : List SocketCall) :
    KeepsStreams L calls ↔ NeverLate L calls := by
  unfold KeepsStreams NeverLate
  induction calls using List.reverseRecOn with
  | nil =>
      have start : (afterCalls L []).OwnsStreams := fun connected => by cases connected
      simpa [throughout_nil] using start
  | append_singleton past call inductionHypothesis =>
      rw [throughout_concat, always_concat, always_concat, ← inductionHypothesis,
        afterCalls_concat]
      constructor
      · rintro ⟨⟨throughout, -⟩, always, clean⟩
        refine ⟨⟨throughout, always⟩, fun late => ?_⟩
        rcases perform_cases throughout.last call with ⟨-, unclean⟩ | ⟨early, -, -⟩
        · exact unclean clean
        · exact early late
      · rintro ⟨⟨throughout, always⟩, early⟩
        rcases perform_cases throughout.last call with ⟨late, -⟩ | ⟨-, clean, keeps⟩
        · exact absurd late early
        · exact ⟨⟨throughout, keeps⟩, always, clean⟩

/-- A server that sends nothing. -/
def silence : Incoming := ⟨[], fun _ => false, true⟩

/-- A session that ends, and an attempt whose input stream fails. -/
def lateRun : List SocketCall :=
  [.connect (some (lit "127.0.0.1")) (some 23) .opens silence, .disconnect,
   .connect (some (lit "127.0.0.1")) (some 23) (.inputStreamFails (lit "Socket is closed")) silence]

/-- The second socket is left open with the streams of the first, and `disconnect`
does not close it: the old writer raises before the socket is reached. -/
theorem lateRun_misses :
    ¬KeepsStreams Nat lateRun ∧
      (afterCalls Nat lateRun).isConnected = true ∧
      (afterCalls Nat (lateRun ++ [.disconnect])).isConnected = true := by
  refine ⟨fun keeps => ?_, by decide, by decide⟩
  exact absurd keeps.1.last (by decide)

end ManagementConnection
end Openpyn.Management
