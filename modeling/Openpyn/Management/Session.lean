import Openpyn.Foundation.Machine
import Openpyn.Management.Run

/-!
# Sessions of the single instance

All sessions share one `ManagementConnection`. The connecting thread and the
thread of `run` take turns, so a session is a sequence of steps of either. What
an earlier session leaves behind is related to what another one left; the
relation keeps only what the code still asks about, and it is exactly the
condition under which no later session can tell the two apart.
-/

namespace Openpyn.Management

open Foundation Java

variable {L : Type}

/-- The instance, and whether the thread of `run` is in its reading loop. -/
structure Session (L : Type) where
  conn : ManagementConnection L
  looping : Bool

/-- One step of a session: a step of `connect` on the connecting thread, of `run`
on its own thread, or a call from outside. -/
inductive Step where
  | setUsernamePasswordHandler (handler : Option UsernamePasswordHandler)
  | connect (host : Option JString) (port : Option Int) (attempt : Attempt)
  | requestState
  | reply (result : JString)
  | startRun
  | line (line : JString)
  | endOfStream
  | disconnect

/-- What a session shows in one step: the states it delivered, the texts it wrote,
whether a hold closed it, and the answer of `isOpenVPNActive` afterwards. -/
structure Observation (L : Type) where
  delivered : List (L × State)
  written : List JString
  closedByHold : Bool
  active : Bool
deriving DecidableEq

/-- `processHold` ends the session at this line. -/
def closesOnHold (c : ManagementConnection L) (line : JString) : Bool :=
  match notification line with
  | some (cmd, argument) => kindOf cmd = .hold && (c.processHold argument).thrown ≠ none
  | none => false

namespace Session

/-- A step that only concerns the instance. -/
def onConn (s : Session L) (result : ManagementConnection.Result L) :
    Completion Throwable (Event L) (Session L) :=
  ⟨{ s with conn := result.state }, result.emitted, result.thrown⟩

/-- A completion of `run` as one of the session, whose loop has ended. -/
def ended (result : ManagementConnection.Result L) : Completion Throwable (Event L) (Session L) :=
  ⟨⟨result.state, false⟩, result.emitted, result.thrown⟩

/-- The reading loop ends: the rest of `run` follows. -/
def leaveLoop (tried : ManagementConnection.Result L) :
    Completion Throwable (Event L) (Session L) :=
  ended (ManagementConnection.finishRun tried)

/-- The reading loop goes on unless its body threw. -/
def continueLoop (tried : ManagementConnection.Result L) :
    Completion Throwable (Event L) (Session L) :=
  match tried.thrown with
  | none => .emit ⟨tried.state, true⟩ tried.emitted
  | some _ => leaveLoop tried

/-- The thread of `run` issues the start-up commands. -/
def startRun (s : Session L) : Completion Throwable (Event L) (Session L) :=
  if s.looping then .done s
  else if s.conn.isConnected then
    continueLoop (Completion.forEach ManagementConnection.managementCommand
      { s.conn with isRunning := true } Commands.startCommands)
  else .throw s (.runtimeException (.ioException Strings.socketIsNotConnected))

/-- The thread of `run` reads a line, which it can while the socket is open. -/
def readLine (s : Session L) (line : JString) : Completion Throwable (Event L) (Session L) :=
  if s.looping ∧ s.conn.isConnected then continueLoop (s.conn.readInput line) else .done s

/-- The thread of `run` reads no further line. -/
def endOfStream (s : Session L) : Completion Throwable (Event L) (Session L) :=
  if s.looping then leaveLoop (.done s.conn) else .done s

/-- One step. -/
def perform (s : Session L) : Step → Completion Throwable (Event L) (Session L)
  | .setUsernamePasswordHandler handler =>
      .done { s with conn := { s.conn with mUsernamePasswordHandler := handler } }
  | .connect host port attempt => s.onConn (s.conn.ensureConnected host port attempt)
  | .requestState => s.onConn (s.conn.sendCommand (Commands.stateCommand []))
  | .reply result => s.onConn (s.conn.processReply result)
  | .startRun => s.startRun
  | .line line => s.readLine line
  | .endOfStream => s.endOfStream
  | .disconnect => s.onConn s.conn.disconnect

/-- Whether a hold closes the session in this step. -/
def closedByHold (s : Session L) : Step → Bool
  | .line line => s.looping && s.conn.isConnected && closesOnHold s.conn line
  | _ => false

/-- What one step shows. -/
def observe (s : Session L) (step : Step) : Observation L :=
  let result := s.perform step
  { delivered := result.emitted.filterMap Event.stateDelivery
    written := result.emitted.filterMap Event.written
    closedByHold := s.closedByHold step
    active := result.state.conn.isOpenVPNActive }

/-- The sessions as a machine. -/
def machine : Machine (Session L) Step (Observation L) where
  step s step := ((s.perform step).state, s.observe step)

theorem machine_step (s : Session L) (step : Step) :
    machine.step s step = ((s.perform step).state, s.observe step) := rfl

/-- No session is under way. -/
structure Idle (s : Session L) : Prop where
  disconnected : s.conn.isConnected = false
  stopped : s.looping = false

/-- A new session: a handler is installed, the socket opens, and the given steps
follow. -/
def session (handler : Option UsernamePasswordHandler) (host : JString) (port : Int)
    (steps : List Step) : List Step :=
  .setUsernamePasswordHandler handler :: .connect (some host) (some port) .opens :: steps

/-! ## Steps and the methods -/

/-- Once the loop has ended, nothing more is read. -/
private theorem forEach_ended (c : ManagementConnection L) (lines : List JString) :
    Completion.forEach perform ⟨c, false⟩ (lines.map Step.line ++ [.endOfStream]) =
      .done ⟨c, false⟩ := by
  induction lines with
  | nil => rfl
  | cons line rest inductionHypothesis =>
      have skipped : perform ⟨c, false⟩ (.line line) = .done ⟨c, false⟩ := by
        simp [perform, readLine]
      rw [List.map_cons, List.cons_append, Completion.forEach_cons, skipped,
        Completion.done_andThen, inductionHypothesis]

/-- What a body does before it throws is kept by the rest of `run`. -/
private theorem finishRun_andThen {first : ManagementConnection.Result L}
    (returned : first.thrown = none)
    (next : ManagementConnection L → ManagementConnection.Result L) :
    ManagementConnection.finishRun (first.andThen next) =
      first.andThen fun c => ManagementConnection.finishRun (next c) := by
  rw [ManagementConnection.finishRun, Completion.catching_andThen_of_returned returned,
    Completion.andThen_assoc]
  rfl

/-- The steps of the reading loop, from an open socket, are the loop of `run`. -/
theorem forEach_loop {c : ManagementConnection L} (established : c.Established)
    (lines : List JString) :
    Completion.forEach perform ⟨c, true⟩ (lines.map Step.line ++ [.endOfStream]) =
      ended (ManagementConnection.finishRun
        (Completion.forEach ManagementConnection.readInput c lines)) := by
  induction lines generalizing c with
  | nil =>
      have leaves : perform ⟨c, true⟩ .endOfStream = leaveLoop (.done c) := by
        simp [perform, Session.endOfStream]
      rw [List.map_nil, List.nil_append, Completion.forEach_cons, leaves, Completion.forEach_nil]
      exact Completion.andThen_done _
  | cons line rest inductionHypothesis =>
      have reads : perform ⟨c, true⟩ (.line line) = continueLoop (c.readInput line) :=
        if_pos ⟨rfl, established.isConnected⟩
      obtain ⟨frame, -, -⟩ := ManagementConnection.readInput_effect c line
      have still : (c.readInput line).state.Established := by
        rw [frame.super]
        exact established
      rw [List.map_cons, List.cons_append, Completion.forEach_cons, reads,
        Completion.forEach_cons, continueLoop]
      cases threw : (c.readInput line).thrown with
      | none =>
          dsimp only
          rw [finishRun_andThen threw, Completion.emit_andThen, inductionHypothesis still,
            Completion.andThen_of_returned threw]
          rfl
      | some exception =>
          rw [Completion.andThen_of_thrown threw]
          have left : leaveLoop (c.readInput line) =
              ended (ManagementConnection.finishRun (c.readInput line)) := rfl
          dsimp only
          rw [left]
          cases finished : (ended (ManagementConnection.finishRun (c.readInput line))).thrown with
          | none =>
              rw [Completion.andThen_of_returned finished]
              dsimp only [ended] at finished ⊢
              rw [forEach_ended]
              simp [finished]
          | some _ => exact Completion.andThen_of_thrown finished _

/-- One call of `run` on an established connection is its steps in a row. -/
theorem forEach_run {c : ManagementConnection L} (established : c.Established)
    (lines : List JString) :
    Completion.forEach perform ⟨c, false⟩
        (.startRun :: (lines.map Step.line ++ [.endOfStream])) = ended (c.run lines) := by
  let running : ManagementConnection L := { c with isRunning := true }
  have runningEstablished : running.Established := established
  obtain ⟨same, returned⟩ :=
    ManagementConnection.startCommands_established runningEstablished Commands.startCommands
  have starts : perform ⟨c, false⟩ .startRun =
      continueLoop (Completion.forEach ManagementConnection.managementCommand running
        Commands.startCommands) := by
    rw [perform, startRun, if_neg Bool.false_ne_true, if_pos established.isConnected]
  have whole : c.run lines =
      (Completion.forEach ManagementConnection.managementCommand running
        Commands.startCommands).andThen fun c => ManagementConnection.finishRun
          (Completion.forEach ManagementConnection.readInput c lines) := by
    rw [ManagementConnection.run, if_pos established.isConnected, ← finishRun_andThen returned]
    rfl
  rw [Completion.forEach_cons, starts, continueLoop, returned]
  dsimp only
  rw [Completion.emit_andThen, whole, Completion.andThen_of_returned returned, same,
    forEach_loop runningEstablished]
  rfl

/-- What a line does to the loop of `run`: an exception that escapes ends it, one
that is caught also closes the socket, and every other line lets it go on. -/
theorem readLine_ending {s : Session L} (loops : s.looping = true)
    (established : s.conn.Established) (line : JString) :
    (ManagementConnection.Escapes line ∧ (s.readLine line).state.looping = false ∧
        (s.readLine line).state.conn.Established) ∨
      (¬ManagementConnection.Escapes line ∧ ManagementConnection.Stops s.conn.mLastLevel line ∧
        (s.readLine line).state.looping = false ∧
        (s.readLine line).state.conn.isConnected = false) ∨
      (¬ManagementConnection.Escapes line ∧ ¬ManagementConnection.Stops s.conn.mLastLevel line ∧
        (s.readLine line).state.looping = true ∧ (s.readLine line).state.conn.Established) := by
  have reads : s.readLine line = continueLoop (s.conn.readInput line) :=
    if_pos ⟨loops, established.isConnected⟩
  obtain ⟨frame, -, -⟩ := ManagementConnection.readInput_effect s.conn line
  have still : (s.conn.readInput line).state.Established := by
    rw [frame.super]
    exact established
  rw [reads, continueLoop]
  rcases ManagementConnection.readInput_ending established line with
    ⟨escapes, exception, threw, uncaught⟩ | ⟨stays, stops, exception, threw, caught⟩ |
      ⟨stays, goesOn, returned⟩
  · have through : ((s.conn.readInput line).catching
        ManagementConnection.caughtByRun).thrown = some exception := by
      simp [Completion.catching, threw, uncaught]
    rw [threw]
    dsimp only [leaveLoop, ended]
    rw [ManagementConnection.finishRun, Completion.andThen_of_thrown through]
    exact .inl ⟨escapes, rfl, still⟩
  · have handled : ((s.conn.readInput line).catching
        ManagementConnection.caughtByRun).thrown = none := by
      simp [Completion.catching, threw, caught]
    rw [threw]
    dsimp only [leaveLoop, ended]
    rw [ManagementConnection.finishRun, Completion.andThen_of_returned handled,
      Completion.catching_state, ManagementConnection.disconnect_established still]
    exact .inr (.inl ⟨stays, stops, rfl, rfl⟩)
  · rw [returned]
    exact .inr (.inr ⟨stays, goesOn, rfl, still⟩)

end Session
end Openpyn.Management
