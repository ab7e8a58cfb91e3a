import Openpyn.Management.History
import Openpyn.Management.Session

/-!
# What a session owes to earlier ones

`disconnect` closes the socket and keeps `mLastLevel`. The next session starts
from the level the last one ended with, and every method treats two instances
alike whose levels agree on three questions: whether the connection is down,
whether the authentication failed, and, if anybody listens, whether it is up.
-/

namespace Openpyn.Management

open Foundation Java

variable {L : Type}

/-- Two levels that answer the questions of a session alike. -/
structure LevelsAgree (listening : Prop) (left right : ConnectionStatus) : Prop where
  down : left = .levelNotConnected ↔ right = .levelNotConnected
  failed : left = .levelAuthFailed ↔ right = .levelAuthFailed
  up : listening → (left = .levelConnected ↔ right = .levelConnected)

theorem LevelsAgree.refl (listening : Prop) (level : ConnectionStatus) :
    LevelsAgree listening level level :=
  ⟨Iff.rfl, Iff.rfl, fun _ => Iff.rfl⟩

theorem LevelsAgree.symm {listening : Prop} {left right : ConnectionStatus}
    (agree : LevelsAgree listening left right) : LevelsAgree listening right left :=
  ⟨agree.down.symm, agree.failed.symm, fun heard => (agree.up heard).symm⟩

namespace ManagementConnection

/-- Two instances that differ in the level and the running flag only, and whose
levels agree. -/
def Alike (c d : ManagementConnection L) : Prop :=
  ∃ level running, d = { c with mLastLevel := level, isRunning := running } ∧
    LevelsAgree (c.mStateManager.toList ≠ []) c.mLastLevel level

/-- Levels that agree answer `isOpenVPNActive` alike. -/
theorem active_of_agree {c d : ManagementConnection L} {listening : Prop}
    (agree : LevelsAgree listening c.mLastLevel d.mLastLevel) :
    c.isOpenVPNActive = d.isOpenVPNActive := by
  simp only [isOpenVPNActive, ne_eq, agree.down, agree.failed]

namespace Alike

variable {c d : ManagementConnection L}

theorem active (alike : Alike c d) : c.isOpenVPNActive = d.isOpenVPNActive := by
  obtain ⟨level, running, rfl, agree⟩ := alike
  exact active_of_agree agree

/-! ## Methods on instances that are alike -/

theorem write (alike : Alike c d) (text : JString) :
    Completion.Agree Alike (c.write text) (d.write text) := by
  have related := alike
  obtain ⟨level, running, rfl, -⟩ := alike
  unfold ManagementConnection.write
  dsimp only
  split
  · exact .throw related _
  · split_ifs
    · exact .throw related _
    · exact .emit related _

theorem sendCommand (alike : Alike c d) (command : JString) :
    Completion.Agree Alike (c.sendCommand command) (d.sendCommand command) := by
  have related := alike
  obtain ⟨level, running, rfl, -⟩ := alike
  unfold ManagementConnection.sendCommand
  dsimp only
  split_ifs
  · exact (related.write command).andThen fun _ _ next => next.write lineSeparator
  · exact .throw related _

theorem managementCommand (alike : Alike c d) (command : JString) :
    Completion.Agree Alike (c.managementCommand command) (d.managementCommand command) :=
  (Completion.Agree.emit alike _).andThen fun _ _ next => next.sendCommand command

theorem onSuper (alike : Alike c d) (result : Completion Throwable (Event L) AbstractConnection) :
    Completion.Agree Alike (c.onSuper result) (d.onSuper result) := by
  obtain ⟨level, running, rfl, agree⟩ := alike
  exact ⟨⟨level, running, rfl, agree⟩, rfl, rfl⟩

theorem notifyConnection (alike : Alike c d) (event : L → Event L) :
    Completion.Agree Alike (c.notifyConnection event) (d.notifyConnection event) := by
  have related := alike
  obtain ⟨level, running, rfl, -⟩ := alike
  unfold ManagementConnection.notifyConnection
  dsimp only
  split
  · exact .emit related _
  · exact .done related

theorem super (alike : Alike c d) : d.toAbstractConnection = c.toAbstractConnection := by
  obtain ⟨level, running, rfl, -⟩ := alike
  rfl

theorem disconnect (alike : Alike c d) : Completion.Agree Alike c.disconnect d.disconnect := by
  refine (Completion.Agree.emit alike _).andThen fun left right next => ?_
  rw [next.super]
  exact (next.onSuper _).andThen fun _ _ closed => closed.notifyConnection _

theorem ensureConnected (alike : Alike c d) (host : Option JString) (port : Option Int)
    (attempt : Attempt) :
    Completion.Agree Alike (c.ensureConnected host port attempt)
      (d.ensureConnected host port attempt) := by
  have tried : Completion.Agree Alike
      (c.onSuper (c.toAbstractConnection.connect host port attempt))
      (d.onSuper (d.toAbstractConnection.connect host port attempt)) := by
    rw [alike.super]
    exact alike.onSuper _
  unfold ManagementConnection.ensureConnected
  rw [show d.isConnected = c.isConnected by rw [alike.super]]
  dsimp only
  rw [← tried.thrown]
  split_ifs
  · exact .done alike
  · split
    · exact tried.andThen fun _ _ next => next.notifyConnection _
    · exact (tried.catching _).andThen fun _ _ next => next.notifyConnection _

theorem setLog (alike : Alike c d) (log : Log) :
    Completion.Agree Alike (c.setLog log) (d.setLog log) := by
  have related := alike
  obtain ⟨level, running, rfl, -⟩ := alike
  exact .emit related _

theorem processByteCount (alike : Alike c d) (argument : JString) :
    Completion.Agree Alike (c.processByteCount argument) (d.processByteCount argument) := by
  refine .withValue alike _ fun text => ?_
  refine .withValue alike _ fun received => ?_
  refine .withValue alike _ fun text => ?_
  exact .withValue alike _ fun sent => .emit alike _

theorem processHold (alike : Alike c d) (argument : JString) :
    Completion.Agree Alike (c.processHold argument) (d.processHold argument) := by
  have related := alike
  obtain ⟨level, running, rfl, agree⟩ := alike
  unfold ManagementConnection.processHold
  simp only [agree.failed]
  split_ifs
  · exact .throw related _
  · exact .done related

theorem processLog (alike : Alike c d) (argument : JString) :
    Completion.Agree Alike (c.processLog argument) (d.processLog argument) := by
  refine .withValue alike _ fun date => ?_
  refine .withValue alike _ fun level => ?_
  refine .withValue alike _ fun message => ?_
  unfold logMessage
  split_ifs
  · exact alike.setLog _
  · exact .withValue alike _ fun message => alike.setLog _
  · exact .withValue alike _ fun message => alike.setLog _
  · exact alike.setLog _

theorem answerPrompt (alike : Alike c d) (type : JString) :
    Completion.Agree Alike (c.answerPrompt type) (d.answerPrompt type) := by
  have asked : d.askCredentials.1 = c.askCredentials.1 ∧
      Alike c.askCredentials.2 d.askCredentials.2 := by
    obtain ⟨level, running, rfl, agree⟩ := alike
    unfold askCredentials
    dsimp only
    split <;> exact ⟨rfl, level, running, rfl, agree⟩
  unfold ManagementConnection.answerPrompt
  dsimp only
  rw [asked.1]
  split_ifs
  · exact (asked.2.managementCommand _).andThen fun _ _ next => next.managementCommand _
  · exact asked.2.managementCommand _
  · exact .throw asked.2 _

theorem processPassword (alike : Alike c d) (argument : JString) :
    Completion.Agree Alike (c.processPassword argument) (d.processPassword argument) := by
  unfold ManagementConnection.processPassword
  split_ifs
  · exact .done alike
  · exact .done alike
  · exact .withValue alike _ fun type => alike.answerPrompt type
  · exact .done alike

/-- A state ignored by one of two levels that agree is heard by nobody, and it
leaves both connections active. -/
private theorem ignored_once {level other : ConnectionStatus} {listeners : List L}
    (agree : LevelsAgree (listeners ≠ []) level other) {state : State}
    (ignored : isIgnored level state) (accepted : ¬isIgnored other state) :
    listeners = [] ∧ LevelsAgree (listeners ≠ []) level state.level := by
  have silent : listeners = [] := by
    by_contra heard
    exact accepted ⟨(agree.up heard).mp ignored.1, ignored.2⟩
  refine ⟨silent, ?_⟩
  obtain ⟨rfl, names⟩ := ignored
  have answers : state.level ≠ .levelNotConnected ∧ state.level ≠ .levelAuthFailed := by
    rw [State.level, ne_eq, ne_eq, VpnStatus.getLevel_eq_notConnected_iff,
      VpnStatus.getLevel_eq_authFailed_iff]
    rcases names with name | name <;> rw [name] <;>
      exact ⟨by decide, fun failed => absurd failed.1 (by decide)⟩
  refine ⟨?_, ?_, fun heard => absurd silent heard⟩
  · simp [answers.1]
  · simp [answers.2]

theorem processState (alike : Alike c d) (argument : JString) :
    Completion.Agree Alike (c.processState argument) (d.processState argument) := by
  have related := alike
  obtain ⟨level, running, rfl, agree⟩ := alike
  rw [processState_eq, processState_eq]
  cases readState argument with
  | error exception => exact .throw related exception
  | ok state =>
      dsimp only
      by_cases left : isIgnored c.mLastLevel state
      · by_cases right : isIgnored level state
        · rw [if_pos left, if_pos right]
          exact .done related
        · obtain ⟨silent, kept⟩ := ignored_once agree left right
          rw [if_pos left, if_neg right, silent]
          exact ⟨⟨state.level, running, rfl, kept⟩, rfl, rfl⟩
      · by_cases right : isIgnored level state
        · obtain ⟨silent, kept⟩ := ignored_once agree.symm right left
          rw [if_neg left, if_pos right, silent]
          exact ⟨⟨level, running, rfl, kept.symm⟩, rfl, rfl⟩
        · rw [if_neg left, if_neg right]
          exact ⟨⟨state.level, running, rfl, .refl _ _⟩, rfl, rfl⟩

theorem processReply (alike : Alike c d) (result : JString) :
    Completion.Agree Alike (c.processReply result) (d.processReply result) := by
  refine .withValue alike _ fun argument => ?_
  split_ifs
  · exact .done alike
  · exact alike.processState argument

theorem dispatch (alike : Alike c d) (kind : Kind) (argument : JString) :
    Completion.Agree Alike (c.dispatch kind argument) (d.dispatch kind argument) := by
  cases kind with
  | byteCount => exact alike.processByteCount argument
  | hold => exact alike.processHold argument
  | log => exact alike.processLog argument
  | password => exact alike.processPassword argument
  | state => exact alike.processState argument
  | unsupported => exact .throw alike _
  | ignored => exact .done alike

theorem readInput (alike : Alike c d) (line : JString) :
    Completion.Agree Alike (c.readInput line) (d.readInput line) := by
  unfold ManagementConnection.readInput
  rcases line_cases line with rfl | ⟨nonempty, other⟩ | ⟨cmd, argument, decoded⟩
  · exact .done alike
  · rw [if_neg nonempty, if_neg nonempty, parseInput_other c nonempty other,
      parseInput_other d nonempty other]
    exact .done alike
  · split_ifs
    · exact .done alike
    · rw [parseInput_notification c decoded, parseInput_notification d decoded]
      exact alike.dispatch (kindOf cmd) argument

theorem finishRun {left right : Result L} (agree : Completion.Agree Alike left right) :
    Completion.Agree Alike (ManagementConnection.finishRun left)
      (ManagementConnection.finishRun right) := by
  refine (agree.catching caughtByRun).andThen fun _ _ caught => ?_
  refine caught.disconnect.andThen fun _ _ closed => ?_
  obtain ⟨level, running, rfl, kept⟩ := closed
  exact .done ⟨level, false, rfl, kept⟩

end Alike

/-! ## Listeners -/

/-- The same listeners are registered. -/
structure SameListeners (c d : ManagementConnection L) : Prop where
  connectionListener : d.mConnectionListener = c.mConnectionListener
  logManager : d.mLogManager = c.mLogManager
  stateManager : d.mStateManager = c.mStateManager

namespace SameListeners

variable {c d : ManagementConnection L}

theorem trans {e : ManagementConnection L} (one : SameListeners c d) (two : SameListeners d e) :
    SameListeners c e where
  connectionListener := two.connectionListener.trans one.connectionListener
  logManager := two.logManager.trans one.logManager
  stateManager := two.stateManager.trans one.stateManager

theorem refl (c : ManagementConnection L) : SameListeners c c := ⟨rfl, rfl, rfl⟩

theorem of_frame (frame : Frame c d) : SameListeners c d :=
  ⟨frame.connectionListener, frame.logManager, frame.stateManager⟩

theorem notifyConnection (c : ManagementConnection L) (event : L → Event L) :
    SameListeners c (c.notifyConnection event).state := by
  unfold ManagementConnection.notifyConnection
  split <;> exact refl c

theorem disconnect (c : ManagementConnection L) : SameListeners c c.disconnect.state := by
  refine Completion.andThen_invariant (SameListeners c) (refl c) fun _ kept => ?_
  refine Completion.andThen_invariant (SameListeners c) ?_ fun next keeps =>
    keeps.trans (notifyConnection next _)
  exact kept.trans ⟨rfl, rfl, rfl⟩

theorem ensureConnected (c : ManagementConnection L) (host : Option JString) (port : Option Int)
    (attempt : Attempt) : SameListeners c (c.ensureConnected host port attempt).state := by
  unfold ManagementConnection.ensureConnected
  dsimp only
  split_ifs
  · exact refl c
  · split
    · exact Completion.andThen_invariant (SameListeners c) ⟨rfl, rfl, rfl⟩ fun next keeps =>
        keeps.trans (notifyConnection next _)
    · exact Completion.andThen_invariant (SameListeners c) ⟨rfl, rfl, rfl⟩ fun next keeps =>
        keeps.trans (notifyConnection next _)

theorem processReply (c : ManagementConnection L) (result : JString) :
    SameListeners c (c.processReply result).state := by
  unfold ManagementConnection.processReply Completion.withValue
  dsimp only
  split
  · split_ifs
    · exact refl c
    · rw [processState_eq]
      split
      · exact refl c
      · split_ifs <;> exact ⟨rfl, rfl, rfl⟩
  · exact refl c

theorem finishRun {tried : Result L} (kept : SameListeners c tried.state) :
    SameListeners c (ManagementConnection.finishRun tried).state := by
  refine Completion.andThen_invariant (SameListeners c) kept fun caught keeps => ?_
  exact Completion.andThen_invariant (SameListeners c) (keeps.trans (disconnect caught))
    fun _ closed => closed.trans ⟨rfl, rfl, rfl⟩

end SameListeners
end ManagementConnection

namespace Session

open ManagementConnection

/-! ## Steps -/

/-- Two sessions that stand at the same place over instances that are alike. -/
def Alike (s t : Session L) : Prop := s.looping = t.looping ∧ s.conn.Alike t.conn

theorem onConn_alike {s t : Session L} (alike : Alike s t) {left right : Result L}
    (agree : Completion.Agree ManagementConnection.Alike left right) :
    Completion.Agree Alike (s.onConn left) (t.onConn right) :=
  ⟨⟨alike.1, agree.state⟩, agree.emitted, agree.thrown⟩

theorem ended_alike {left right : Result L}
    (agree : Completion.Agree ManagementConnection.Alike left right) :
    Completion.Agree Alike (ended left) (ended right) :=
  ⟨⟨rfl, agree.state⟩, agree.emitted, agree.thrown⟩

theorem leaveLoop_alike {left right : Result L}
    (agree : Completion.Agree ManagementConnection.Alike left right) :
    Completion.Agree Alike (leaveLoop left) (leaveLoop right) :=
  ended_alike (ManagementConnection.Alike.finishRun agree)

theorem continueLoop_alike {left right : Result L}
    (agree : Completion.Agree ManagementConnection.Alike left right) :
    Completion.Agree Alike (continueLoop left) (continueLoop right) := by
  unfold continueLoop
  rw [← agree.thrown, ← agree.emitted]
  split
  · exact .emit ⟨rfl, agree.state⟩ _
  · exact leaveLoop_alike agree

/-- Every step treats sessions that are alike in the same way. -/
theorem perform_alike {s t : Session L} (alike : Alike s t) (step : Step) :
    Completion.Agree Alike (s.perform step) (t.perform step) := by
  have connected : t.conn.isConnected = s.conn.isConnected := by rw [alike.2.super]
  cases step with
  | setUsernamePasswordHandler handler =>
      obtain ⟨looping, level, running, conn, agree⟩ := alike
      refine .done ⟨looping, level, running, ?_, agree⟩
      rw [conn]
  | connect host port attempt =>
      exact onConn_alike alike (alike.2.ensureConnected host port attempt)
  | requestState => exact onConn_alike alike (alike.2.sendCommand _)
  | reply result => exact onConn_alike alike (alike.2.processReply result)
  | startRun =>
      have running : ManagementConnection.Alike { s.conn with isRunning := true }
          { t.conn with isRunning := true } := by
        obtain ⟨-, level, running, conn, agree⟩ := alike
        exact ⟨level, true, by rw [conn], agree⟩
      change Completion.Agree Alike s.startRun t.startRun
      unfold startRun
      rw [connected, ← alike.1]
      split_ifs
      · exact .done alike
      · exact continueLoop_alike (.forEach (fun _ _ command next =>
          next.managementCommand command) running _)
      · exact .throw alike _
  | line line =>
      change Completion.Agree Alike (s.readLine line) (t.readLine line)
      unfold readLine
      rw [connected, ← alike.1]
      split_ifs
      · exact continueLoop_alike (alike.2.readInput line)
      · exact .done alike
  | endOfStream =>
      change Completion.Agree Alike s.endOfStream t.endOfStream
      unfold endOfStream
      rw [← alike.1]
      split_ifs
      · exact leaveLoop_alike (.done alike.2)
      · exact .done alike
  | disconnect => exact onConn_alike alike alike.2.disconnect

/-- They also show the same. -/
theorem observe_alike {s t : Session L} (alike : Alike s t) (step : Step) :
    s.observe step = t.observe step := by
  have agree := perform_alike alike step
  have hold : s.closedByHold step = t.closedByHold step := by
    cases step with
    | line line =>
        have connected : t.conn.isConnected = s.conn.isConnected := by rw [alike.2.super]
        have closes : closesOnHold s.conn line = closesOnHold t.conn line := by
          unfold closesOnHold
          split
          · rw [(alike.2.processHold _).thrown]
          · rfl
        rw [closedByHold, closedByHold, alike.1, connected, closes]
    | _ => rfl
  unfold observe
  dsimp only
  rw [agree.emitted, hold, agree.state.2.active]

/-- No step registers or removes a listener. -/
theorem perform_listeners (s : Session L) (step : Step) :
    SameListeners s.conn (s.perform step).state.conn := by
  have leaves : ∀ tried : Result L, SameListeners s.conn tried.state →
      SameListeners s.conn (continueLoop tried).state.conn := by
    intro tried kept
    unfold continueLoop
    split
    · exact kept
    · exact .finishRun kept
  cases step with
  | setUsernamePasswordHandler handler => exact ⟨rfl, rfl, rfl⟩
  | connect host port attempt => exact .ensureConnected s.conn host port attempt
  | requestState =>
      have same := sendCommand_state s.conn (Commands.stateCommand [])
      simp only [perform, onConn, same]
      exact .refl _
  | reply result => exact .processReply s.conn result
  | startRun =>
      change SameListeners s.conn s.startRun.state.conn
      unfold startRun
      split_ifs
      · exact .refl _
      · have marked : SameListeners s.conn { s.conn with isRunning := true } := ⟨rfl, rfl, rfl⟩
        refine leaves _ (Completion.forEach_invariant (SameListeners s.conn) ?_ marked _)
        intro current command kept
        rw [managementCommand_state]
        exact kept
      · exact .refl _
  | line line =>
      change SameListeners s.conn (s.readLine line).state.conn
      unfold readLine
      split_ifs
      · exact leaves _ (.of_frame (readInput_effect s.conn line).1)
      · exact .refl _
  | endOfStream =>
      change SameListeners s.conn s.endOfStream.state.conn
      unfold endOfStream
      split_ifs
      · exact .finishRun (.refl _)
      · exact .refl _
  | disconnect => exact .disconnect s.conn

/-! ## New sessions -/

/-- Opening a socket forgets everything about the last one. -/
theorem ensureConnected_opens {c : ManagementConnection L} (disconnected : c.isConnected = false)
    (host : JString) (port : Int) :
    c.ensureConnected (some host) (some port) .opens =
      .emit { c with toAbstractConnection := .openedTo host port }
        (c.mConnectionListener.toList.map .onConnected) := by
  have opens : c.onSuper (c.toAbstractConnection.connect (some host) (some port) .opens) =
      .done { c with toAbstractConnection := .openedTo host port } := by
    rw [onSuper, AbstractConnection.connect_opens disconnected]
    rfl
  have stillClosed : ¬c.isConnected = true := by simp [disconnected]
  unfold ManagementConnection.ensureConnected
  rw [if_neg stillClosed, opens]
  dsimp only [Completion.done_thrown]
  rw [Completion.done_andThen, notifyConnection]
  dsimp only
  cases c.mConnectionListener <;> rfl

/-- The state in which a new session finds the instance after the socket opened. -/
def opening (s : Session L) (handler : Option UsernamePasswordHandler) (host : JString)
    (port : Int) : Session L where
  conn := { s.conn with
    toAbstractConnection := .openedTo host port
    mUsernamePasswordHandler := handler }
  looping := false

/-- The first two steps of a new session, and what they show. -/
theorem session_opens {s : Session L} (idle : Idle s) (handler : Option UsernamePasswordHandler)
    (host : JString) (port : Int) :
    machine.after s (session handler host port []) = s.opening handler host port ∧
      machine.outputs s (session handler host port []) =
        [⟨[], [], false, s.conn.isOpenVPNActive⟩, ⟨[], [], false, s.conn.isOpenVPNActive⟩] := by
  obtain ⟨conn, looping⟩ := s
  obtain ⟨disconnected, stopped⟩ := idle
  obtain rfl : looping = false := stopped
  let handled : ManagementConnection L := { conn with mUsernamePasswordHandler := handler }
  have stillClosed : handled.isConnected = false := disconnected
  have connects : perform ⟨handled, false⟩ (.connect (some host) (some port) .opens) =
      .emit (opening ⟨conn, false⟩ handler host port)
        (conn.mConnectionListener.toList.map .onConnected) := by
    rw [perform, ensureConnected_opens stillClosed host port]
    rfl
  have shows : observe ⟨handled, false⟩ (.connect (some host) (some port) .opens) =
      ⟨[], [], false, conn.isOpenVPNActive⟩ := by
    unfold observe
    rw [connects]
    cases conn.mConnectionListener <;> rfl
  constructor
  · change (perform ⟨handled, false⟩ (.connect (some host) (some port) .opens)).state = _
    rw [connects]
    rfl
  · change [_, observe ⟨handled, false⟩ (.connect (some host) (some port) .opens)] = _
    rw [shows]
    rfl

/-- Over what an idle session left, two new sessions are alike if the levels
agree. -/
theorem opening_alike {s t : Session L} (listeners : SameListeners s.conn t.conn)
    (agree : LevelsAgree (s.conn.mStateManager.toList ≠ []) s.conn.mLastLevel t.conn.mLastLevel)
    (handler : Option UsernamePasswordHandler) (host : JString) (port : Int) :
    Alike (s.opening handler host port) (t.opening handler host port) := by
  refine ⟨rfl, t.conn.mLastLevel, t.conn.isRunning, ?_, agree⟩
  unfold opening
  dsimp only
  rw [listeners.connectionListener, listeners.logManager, listeners.stateManager]

/-- The thread of `run` has issued its commands in a new session. -/
theorem opening_starts (s : Session L) (handler : Option UsernamePasswordHandler) (host : JString)
    (port : Int) :
    ((s.opening handler host port).perform .startRun).state =
      ⟨{ (s.opening handler host port).conn with isRunning := true }, true⟩ := by
  let running : ManagementConnection L :=
    { (s.opening handler host port).conn with isRunning := true }
  have established : running.Established := AbstractConnection.openedTo_established host port
  obtain ⟨same, returned⟩ := startCommands_established established Commands.startCommands
  have starts : (s.opening handler host port).perform .startRun =
      continueLoop (Completion.forEach managementCommand running Commands.startCommands) := by
    have connected : (s.opening handler host port).conn.isConnected = true :=
      (AbstractConnection.openedTo_established host port).isConnected
    rw [perform, startRun, if_neg (by simp [opening]), if_pos connected]
  rw [starts, continueLoop, returned]
  dsimp only [Completion.emit_state]
  rw [same]

/-- What a line read at once shows in a new session. -/
theorem session_line {s t : Session L} (leftIdle : Idle s) (rightIdle : Idle t)
    (same : ∀ handler host port steps,
      machine.outputs s (session handler host port steps) =
        machine.outputs t (session handler host port steps)) (line : JString) :
    observe ⟨{ (s.opening none [] 0).conn with isRunning := true }, true⟩ (.line line) =
      observe ⟨{ (t.opening none [] 0).conn with isRunning := true }, true⟩ (.line line) := by
  have shown : ∀ {s : Session L}, Idle s →
      (machine.outputs s (session none [] 0 [.startRun, .line line])).getLast? =
        some (observe ⟨{ (s.opening none [] 0).conn with isRunning := true }, true⟩
          (.line line)) := by
    intro s idle
    have steps : session none [] 0 [.startRun, .line line] =
        (session none [] 0 [] ++ [.startRun]) ++ [.line line] := rfl
    rw [steps, Machine.outputs_append, Machine.after_append, (session_opens idle none [] 0).1,
      Machine.after_cons, Machine.after_nil]
    rw [Machine.outputs_cons, Machine.outputs_nil, List.getLast?_append, List.getLast?_singleton,
      Option.some_or, machine_step, machine_step, opening_starts]
  have lasts := congrArg List.getLast? (same none [] 0 [.startRun, .line line])
  rw [shown leftIdle, shown rightIdle] at lasts
  exact Option.some.inj lasts

/-- A hold that is waited for shows whether the authentication failed. -/
theorem observe_hold {s : Session L} (established : s.conn.Established)
    (looping : s.looping = true) :
    (s.observe (.line (lit ">HOLD:Waiting for hold release:0"))).closedByHold = true ↔
      s.conn.mLastLevel = .levelAuthFailed := by
  have decoded : notification (lit ">HOLD:Waiting for hold release:0") =
      some (lit "HOLD", lit "Waiting for hold release:0") := by decide
  have kind : kindOf (lit "HOLD") = .hold := by decide
  have waiting : startsWith (lit "Waiting for hold release:0")
      Strings.waitingForHoldReleasePrefix = true := by decide
  have connected : s.conn.isConnected = true := established.isConnected
  change s.closedByHold (.line (lit ">HOLD:Waiting for hold release:0")) = true ↔ _
  rw [closedByHold, looping, connected, closesOnHold, decoded]
  dsimp only
  rw [kind, processHold]
  by_cases failed : s.conn.mLastLevel = .levelAuthFailed
  · simp [waiting, failed]
  · simp [waiting, failed]

/-- With somebody listening, a `WAIT` shows whether the connection is up. -/
theorem observe_wait {s : Session L} (established : s.conn.Established)
    (looping : s.looping = true) (listening : s.conn.mStateManager.toList ≠ []) :
    (s.observe (.line (lit ">STATE:0,WAIT,,,,"))).delivered = [] ↔
      s.conn.mLastLevel = .levelConnected := by
  have decoded : notification (lit ">STATE:0,WAIT,,,,") =
      some (lit "STATE", lit "0,WAIT,,,,") := by decide
  have kind : kindOf (lit "STATE") = .state := by decide
  have report : readState (lit "0,WAIT,,,,") =
      .ok ⟨lit "0", VpnStatus.wait, [], [], [], []⟩ := by rfl
  have reads : s.perform (.line (lit ">STATE:0,WAIT,,,,")) =
      continueLoop (s.conn.processState (lit "0,WAIT,,,,")) := by
    have nonempty : lit ">STATE:0,WAIT,,,," ≠ [] := by decide
    rw [perform, readLine, if_pos ⟨looping, established.isConnected⟩, readInput, if_neg nonempty,
      parseInput_notification s.conn decoded, kind, dispatch]
  have waits : ∀ level : ConnectionStatus,
      isIgnored level ⟨lit "0", VpnStatus.wait, [], [], [], []⟩ ↔ level = .levelConnected := by
    intro level
    simp [isIgnored]
  change (s.perform (.line (lit ">STATE:0,WAIT,,,,"))).emitted.filterMap
    Event.stateDelivery = [] ↔ _
  rw [reads, processState_eq, report]
  dsimp only
  by_cases up : s.conn.mLastLevel = .levelConnected
  · rw [if_pos ((waits _).mpr up)]
    exact ⟨fun _ => up, fun _ => rfl⟩
  · rw [if_neg (mt (waits _).mp up)]
    constructor
    · intro silent
      obtain ⟨listener, rest, registered⟩ := List.exists_cons_of_ne_nil listening
      rw [registered] at silent
      cases silent
    · exact fun connected => absurd connected up

/-- The state an idle session left is what its new session starts with. -/
private theorem levels_of_same {s t : Session L} (leftIdle : Idle s) (rightIdle : Idle t)
    (listeners : SameListeners s.conn t.conn)
    (same : ∀ handler host port steps,
      machine.outputs s (session handler host port steps) =
        machine.outputs t (session handler host port steps)) :
    LevelsAgree (s.conn.mStateManager.toList ≠ []) s.conn.mLastLevel t.conn.mLastLevel := by
  have established : ∀ s : Session L,
      ({ (s.opening none [] 0).conn with isRunning := true } :
        ManagementConnection L).Established :=
    fun s => AbstractConnection.openedTo_established [] 0
  have active : s.conn.isOpenVPNActive = t.conn.isOpenVPNActive := by
    have opened := same none [] 0 []
    rw [(session_opens leftIdle none [] 0).2, (session_opens rightIdle none [] 0).2] at opened
    exact congrArg Observation.active (List.cons.inj opened).1
  have failed : s.conn.mLastLevel = .levelAuthFailed ↔ t.conn.mLastLevel = .levelAuthFailed := by
    have held := session_line leftIdle rightIdle same (lit ">HOLD:Waiting for hold release:0")
    have left := observe_hold (s := ⟨_, true⟩) (established s) rfl
    have right := observe_hold (s := ⟨_, true⟩) (established t) rfl
    rw [held] at left
    exact left.symm.trans right
  have down : s.conn.mLastLevel = .levelNotConnected ↔
      t.conn.mLastLevel = .levelNotConnected := by
    have activity : ∀ c : ManagementConnection L, c.mLastLevel = .levelNotConnected ↔
        c.isOpenVPNActive = false ∧ c.mLastLevel ≠ .levelAuthFailed := by
      intro c
      cases level : c.mLastLevel <;> simp [isOpenVPNActive, level]
    rw [activity, activity, active, ne_eq, ne_eq, failed]
  refine ⟨down, failed, fun listening => ?_⟩
  have waited := session_line leftIdle rightIdle same (lit ">STATE:0,WAIT,,,,")
  have left := observe_wait (s := ⟨_, true⟩) (established s) rfl listening
  have right := observe_wait (s := ⟨_, true⟩) (established t) rfl
    (listeners.stateManager ▸ listening)
  rw [waited] at left
  exact left.symm.trans right

/-- Two histories that end with no session under way make no difference to any
later session exactly when the levels they left agree. -/
theorem sessions_independent_iff {start : Session L} {earlier other : List Step}
    (earlierEnded : Idle (machine.after start earlier))
    (otherEnded : Idle (machine.after start other)) :
    (∀ handler host port steps,
        machine.outputs (machine.after start earlier) (session handler host port steps) =
          machine.outputs (machine.after start other) (session handler host port steps)) ↔
      LevelsAgree (start.conn.mStateManager.toList ≠ [])
        (machine.after start earlier).conn.mLastLevel
        (machine.after start other).conn.mLastLevel := by
  have kept : ∀ steps, SameListeners start.conn (machine.after start steps).conn := fun steps =>
    Machine.invariant (fun s : Session L => SameListeners start.conn s.conn)
      (fun s step keeps => keeps.trans (perform_listeners s step)) (.refl start.conn) steps
  have before := kept earlier
  have after := kept other
  have listeners : SameListeners (machine.after start earlier).conn
      (machine.after start other).conn :=
    ⟨after.connectionListener.trans before.connectionListener.symm,
      after.logManager.trans before.logManager.symm,
      after.stateManager.trans before.stateManager.symm⟩
  rw [← before.stateManager]
  constructor
  · exact levels_of_same earlierEnded otherEnded listeners
  · intro agree handler host port steps
    have parts : session handler host port steps = session handler host port [] ++ steps := rfl
    obtain ⟨leftAfter, leftShown⟩ := session_opens earlierEnded handler host port
    obtain ⟨rightAfter, rightShown⟩ := session_opens otherEnded handler host port
    rw [parts, Machine.outputs_append, Machine.outputs_append, leftAfter, leftShown, rightAfter,
      rightShown, active_of_agree agree]
    congr 1
    exact Machine.outputs_eq Alike (fun s t step alike =>
      ⟨observe_alike alike step, (perform_alike alike step).state⟩)
      (opening_alike listeners agree handler host port) steps

/-- The fresh instance with one state listener. -/
def heard : Session Unit :=
  ⟨{ ManagementConnection.fresh with mStateManager := ⟨[()], by decide⟩ }, false⟩

/-- A session whose thread of `run` reads these lines and then the end of the
stream. -/
def reading (lines : List JString) : List Step :=
  session none (lit "localhost") 7505 (.startRun :: (lines.map Step.line ++ [.endOfStream]))

/-- A session that ended with `EXITING` leaves nothing behind. -/
theorem sessions_independent_exiting :
    let exited := reading [lit ">STATE:1,EXITING,,,,"]
    Idle (machine.after heard (reading [])) ∧ Idle (machine.after heard exited) ∧
      ∀ handler host port steps,
        machine.outputs (machine.after heard (reading [])) (session handler host port steps) =
          machine.outputs (machine.after heard exited) (session handler host port steps) := by
  intro exited
  have quiet : Idle (machine.after heard (reading [])) := ⟨by decide, by decide⟩
  have ended : Idle (machine.after heard exited) := ⟨by decide, by decide⟩
  refine ⟨quiet, ended, ?_⟩
  exact (sessions_independent_iff quiet ended).mpr ⟨by decide, by decide, by decide⟩

/-- A session closed after a failed authentication makes the next one close on
its first hold. -/
theorem sessions_dependent :
    let failed := reading
      [lit ">STATE:1,RECONNECTING,auth-failure,,,", lit ">HOLD:Waiting for hold release:0"]
    let next := session none (lit "localhost") 7505
      [.startRun, .line (lit ">HOLD:Waiting for hold release:0")]
    Idle (machine.after heard (reading [])) ∧ Idle (machine.after heard failed) ∧
      machine.outputs (machine.after heard (reading [])) next ≠
        machine.outputs (machine.after heard failed) next := by
  refine ⟨⟨by decide, by decide⟩, ⟨by decide, by decide⟩, ?_⟩
  decide

end Session
end Openpyn.Management
