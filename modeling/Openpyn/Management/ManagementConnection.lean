import Openpyn.Java.Number
import Openpyn.Management.AbstractConnection
import Openpyn.Management.Protocol
import Openpyn.Management.VpnStatus

/-!
# The management connection

The singleton's fields and the methods that handle one line. Every method is a
`Completion`: calls of listeners, of the byte-count manager and of the socket
writer are events in the order they are made, so a law can speak of all of them
and of the exception that ended the call. Listeners and the credential handler
return; log output is left out.
-/

namespace Openpyn.Management

open Foundation Java StringUtils

/-- `LogLevel`. -/
inductive LogLevel where
  | error
  | warning
  | info
  | debug
  | verbose
deriving DecidableEq

/-- `ByteCountManager.ByteCount`. -/
structure ByteCount where
  mIn : Int
  mOut : Int
deriving DecidableEq

/-- `LogManager.Log`. -/
structure Log where
  date : JString
  level : LogLevel
  message : JString
deriving DecidableEq

/-- `StateManager.State`. -/
structure State where
  date : JString
  name : JString
  message : JString
  localAddress : JString
  remoteAddress : JString
  remotePort : JString
deriving DecidableEq

/-- The level a state is reduced to. -/
def State.level (state : State) : ConnectionStatus := VpnStatus.getLevel state.name state.message

/-- The listeners of `LogManager` and of `StateManager`, in order of registration. -/
structure Listeners (L : Type) where
  toList : List L
  nodup : toList.Nodup

namespace Listeners

variable {L : Type} [DecidableEq L]

/-- `addListener`: a registered listener is not added again. -/
def addListener (listeners : Listeners L) (listener : L) : Listeners L :=
  if present : listener ∈ listeners.toList then listeners
  else ⟨listeners.toList ++ [listener], by
    rw [List.nodup_append]
    refine ⟨listeners.nodup, by simp, ?_⟩
    intro other member last lastMember
    rw [List.mem_singleton] at lastMember
    subst lastMember
    exact ne_of_mem_of_not_mem member present⟩

/-- `removeListener`. -/
def removeListener (listeners : Listeners L) (listener : L) : Listeners L :=
  ⟨listeners.toList.erase listener, listeners.nodup.erase listener⟩

@[simp] theorem mem_addListener {listeners : Listeners L} {added listener : L} :
    listener ∈ (listeners.addListener added).toList ↔
      listener = added ∨ listener ∈ listeners.toList := by
  unfold addListener
  split
  · rename_i present
    exact ⟨.inr, fun member => member.elim (fun same => same ▸ present) id⟩
  · simp [or_comm]

@[simp] theorem mem_removeListener {listeners : Listeners L} {removed listener : L} :
    listener ∈ (listeners.removeListener removed).toList ↔
      listener ≠ removed ∧ listener ∈ listeners.toList :=
  listeners.nodup.mem_erase_iff

end Listeners

/-- `UsernamePasswordHandler`: its answers to the coming prompts, a user name
and a password each, either of which may be null. -/
structure UsernamePasswordHandler where
  answers : Nat → Option JString × Option JString

/-- The handler after it has answered one prompt. -/
def UsernamePasswordHandler.next (handler : UsernamePasswordHandler) : UsernamePasswordHandler :=
  ⟨fun prompt => handler.answers (prompt + 1)⟩

/-- A handler that always gives the same answer. -/
def UsernamePasswordHandler.always (username password : Option JString) :
    UsernamePasswordHandler :=
  ⟨fun _ => (username, password)⟩

/-- The calls a method makes outside the connection. `managementCommand` marks
the call of that method, `disconnect` the call of `disconnect`. -/
inductive Event (L : Type) where
  | managementCommand (command : JString)
  | write (text : JString)
  | setByteCount (byteCount : ByteCount)
  | onLog (listener : L) (log : Log)
  | onStateChanged (listener : L) (state : State)
  | onConnected (listener : L)
  | onConnectError (listener : L) (cause : Throwable)
  | disconnect
  | onDisconnected (listener : L)
deriving DecidableEq

/-- The fields of `ManagementConnection`. -/
structure ManagementConnection (L : Type) extends AbstractConnection where
  isRunning : Bool
  mConnectionListener : Option L
  mLastLevel : ConnectionStatus
  mLogManager : Listeners L
  mStateManager : Listeners L
  mUsernamePasswordHandler : Option UsernamePasswordHandler

namespace ManagementConnection

variable {L : Type}

/-- The completion of a method of `ManagementConnection`. -/
abbrev Result (L : Type) := Completion Throwable (Event L) (ManagementConnection L)

/-- The instance `getInstance` creates. -/
def fresh : ManagementConnection L where
  toAbstractConnection := .fresh
  isRunning := false
  mConnectionListener := none
  mLastLevel := .levelNotConnected
  mLogManager := ⟨[], List.nodup_nil⟩
  mStateManager := ⟨[], List.nodup_nil⟩
  mUsernamePasswordHandler := none

/-- A fresh instance whose socket has just been opened. -/
def opened (host : JString) (port : Int) : ManagementConnection L :=
  { fresh with toAbstractConnection := .openedTo host port }

/-- `isOpenVPNActive`. -/
def isOpenVPNActive (c : ManagementConnection L) : Bool :=
  c.mLastLevel ≠ .levelNotConnected && c.mLastLevel ≠ .levelAuthFailed

/-- Run a method of the superclass. -/
def onSuper (c : ManagementConnection L)
    (result : Completion Throwable (Event L) AbstractConnection) : Result L :=
  ⟨{ c with toAbstractConnection := result.state }, result.emitted, result.thrown⟩

/-- Call the connection listener, if there is one. -/
def notifyConnection (c : ManagementConnection L) (event : L → Event L) : Result L :=
  match c.mConnectionListener with
  | some listener => .emit c [event listener]
  | none => .done c

/-- `disconnect`. -/
def disconnect (c : ManagementConnection L) : Result L :=
  (Completion.emit c [.disconnect]).andThen fun c =>
    (c.onSuper c.closeQuietly).andThen fun c => c.notifyConnection .onDisconnected

/-- `out.write(text)` on the buffered writer. -/
def write (c : ManagementConnection L) (text : JString) : Result L :=
  match c.mBufferedWriter with
  | none => .throw c .nullPointerException
  | some writer =>
      if writer.closed then .throw c (.ioException streamClosed) else .emit c [.write text]

/-- Write one line, as `managementCommand` and `executeCommand` both do. -/
def sendCommand (c : ManagementConnection L) (command : JString) : Result L :=
  if c.isConnected then
    (c.write command).andThen fun c => c.write lineSeparator
  else .throw c (.ioException Strings.socketIsNotConnected)

/-- `managementCommand`. -/
def managementCommand (c : ManagementConnection L) (command : JString) : Result L :=
  (Completion.emit c [.managementCommand command]).andThen fun c => c.sendCommand command

/-- `processByteCount`. -/
def processByteCount (c : ManagementConnection L) (argument : JString) : Result L :=
  let comma := indexOf argument (chr ',')
  .withValue c (substring argument 0 comma) fun text =>
    .withValue c (parseLong text) fun received =>
      .withValue c (substringFrom argument (comma + 1)) fun text =>
        .withValue c (parseLong text) fun sent =>
          .emit c [.setByteCount ⟨received, sent⟩]

/-- `processHold`. -/
def processHold (c : ManagementConnection L) (argument : JString) : Result L :=
  if startsWith argument Strings.waitingForHoldReleasePrefix ∧ c.mLastLevel = .levelAuthFailed then
    .throw c (.ioException streamClosed)
  else .done c

/-- The level of a message flag. -/
def levelOfFlag (level : JString) : LogLevel :=
  if level = lit "I" then .info
  else if level = lit "F" ∨ level = lit "N" then .error
  else if level = lit "W" then .warning
  else if level = lit "D" then .debug
  else .verbose

/-- `mLogManager.setLog`. -/
def setLog (c : ManagementConnection L) (log : Log) : Result L :=
  .emit c (c.mLogManager.toList.map fun listener => .onLog listener log)

/-- The log record of a message: `WARNING:` and `NOTE:` are cut off together
with the character after them. -/
def logMessage (c : ManagementConnection L) (date level message : JString) : Result L :=
  if startsWith message Strings.managementCmdPrefix then
    c.setLog ⟨date, .verbose, message⟩
  else if startsWith message Strings.warningPrefix then
    .withValue c (substringFrom message (Strings.warningPrefix.length + 1)) fun message =>
      c.setLog ⟨date, .warning, message⟩
  else if startsWith message Strings.notePrefix then
    .withValue c (substringFrom message (Strings.notePrefix.length + 1)) fun message =>
      c.setLog ⟨date, levelOfFlag level, message⟩
  else c.setLog ⟨date, levelOfFlag level, message⟩

/-- `processLog`. -/
def processLog (c : ManagementConnection L) (argument : JString) : Result L :=
  let args := split argument (chr ',') 3
  .withValue c (arrayGet args 0) fun date =>
    .withValue c (arrayGet args 1) fun level =>
      .withValue c (arrayGet args 2) fun message =>
        c.logMessage date level message

/-- The text written for a credential the handler gave. -/
def escapedCredential : Option JString → JString
  | none => lit "..."
  | some credential => if isBlank credential then lit "..." else escapeOpenVPN credential

/-- Ask the credential handler; without one both credentials are null. -/
def askCredentials (c : ManagementConnection L) :
    (Option JString × Option JString) × ManagementConnection L :=
  match c.mUsernamePasswordHandler with
  | some handler => (handler.answers 0, { c with mUsernamePasswordHandler := some handler.next })
  | none => ((none, none), c)

/-- The answer to a prompt of the given type. -/
def answerPrompt (c : ManagementConnection L) (type : JString) : Result L :=
  let asked := c.askCredentials
  let username := escapedCredential asked.1.1
  let password := escapedCredential asked.1.2
  if type = lit "Auth" then
    (asked.2.managementCommand (Commands.usernameCommand type username)).andThen fun c =>
      c.managementCommand (Commands.passwordCommand type password)
  else if type = lit "Private Key" then
    asked.2.managementCommand (Commands.passwordCommand type password)
  else .throw asked.2 (.unsupportedOperationException Strings.notSupportedYet)

/-- `processPassword`. -/
def processPassword (c : ManagementConnection L) (argument : JString) : Result L :=
  if startsWith argument Strings.authTokenPrefix then .done c
  else if startsWith argument Strings.verificationFailedPrefix then .done c
  else if startsWith argument Strings.needPrefix then
    let p1 := indexOf argument (chr '\'')
    let p2 := indexOfFrom argument (chr '\'') (p1 + 1)
    .withValue c (substring argument (p1 + 1) p2) c.answerPrompt
  else .done c

/-- `mStateManager.setState`. -/
def setState (c : ManagementConnection L) (state : State) : Result L :=
  .emit c (c.mStateManager.toList.map fun listener => .onStateChanged listener state)

/-- The state of a report, whose first six fields are read. -/
def readState (argument : JString) : Except Throwable State := do
  let args := split argument (chr ',') (-1)
  return ⟨← arrayGet args 0, ← arrayGet args 1, ← arrayGet args 2, ← arrayGet args 3,
    ← arrayGet args 4, ← arrayGet args 5⟩

/-- OpenVPN goes through these states again while it is connected. -/
def isIgnored (level : ConnectionStatus) (state : State) : Prop :=
  level = .levelConnected ∧ (state.name = VpnStatus.wait ∨ state.name = VpnStatus.auth)

instance (level : ConnectionStatus) (state : State) : Decidable (isIgnored level state) :=
  inferInstanceAs (Decidable (_ ∧ _))

/-- `processState`. -/
def processState (c : ManagementConnection L) (argument : JString) : Result L :=
  .withValue c (readState argument) fun state =>
    if isIgnored c.mLastLevel state then .done c
    else (c.setState state).andThen fun c => .done { c with mLastLevel := state.level }

/-- The exceptions that `connect` reports to its listener instead of raising. -/
def isConnectError (exception : Throwable) : Bool :=
  exception.isIllegalArgumentException || exception.isIOException

/-- The first block of `connect`: open a socket unless one is open. -/
def ensureConnected (c : ManagementConnection L) (host : Option JString) (port : Option Int)
    (attempt : Attempt) : Result L :=
  if c.isConnected then .done c
  else
    let tried := c.onSuper (c.toAbstractConnection.connect host port attempt)
    match tried.thrown with
    | none => tried.andThen fun c => c.notifyConnection .onConnected
    | some exception =>
        (tried.catching isConnectError).andThen fun c =>
          c.notifyConnection fun listener => .onConnectError listener exception

/-- The second block of `connect`, once `executeCommand` has returned: the last
line of the reply is a state, unless it reports a failed authentication. -/
def processReply (c : ManagementConnection L) (result : JString) : Result L :=
  let lines := split result lineFeed 0
  .withValue c (arrayGet lines (lines.length - 1)) fun argument =>
    if contains argument VpnStatus.authFailure then .done c else c.processState argument

/-- The branch of the dispatcher for one kind of message. -/
def dispatch (c : ManagementConnection L) (kind : Kind) (argument : JString) : Result L :=
  match kind with
  | .byteCount => c.processByteCount argument
  | .hold => c.processHold argument
  | .log => c.processLog argument
  | .password => c.processPassword argument
  | .state => c.processState argument
  | .unsupported => .throw c (.unsupportedOperationException Strings.notSupportedYet)
  | .ignored => .done c

/-- `parseInput`. Lines that are no real-time message are only logged. -/
def parseInput (c : ManagementConnection L) (line : JString) : Result L :=
  match line with
  | [] => .throw c .stringIndexOutOfBoundsException
  | first :: _ =>
      if first = chr '>' ∧ contains line (lit ":") then
        let parts := split line (chr ':') 2
        .withValue c (arrayGet parts 0) fun head =>
          .withValue c (substringFrom head 1) fun cmd =>
            .withValue c (arrayGet parts 1) fun argument =>
              c.dispatch (kindOf cmd) argument
      else .done c

/-- `stopOpenVPN`. -/
def stopOpenVPN (c : ManagementConnection L) : Result L :=
  (c.managementCommand (Commands.signalCommand (lit "SIGTERM"))).andThen fun c =>
    if c.isRunning then .done c else c.disconnect

end ManagementConnection
end Openpyn.Management
