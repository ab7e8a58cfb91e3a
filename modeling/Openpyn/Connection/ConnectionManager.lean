import Openpyn.Foundation.Machine
import Openpyn.Java.Text

/-!
# The connection manager

The user toggles between connecting and disconnecting. Both requests are carried
out by threads of their own, a disconnect after five seconds of sleep, while the
callbacks of the client report how sessions start and end.
-/

namespace Openpyn.Connection

open Foundation Java

/-- `JUICESSH_REQUEST_CODE`. -/
def juiceSshRequestCode : Int := 345

/-- What a thread does: the bodies of `connect` and `disconnect`. -/
inductive Task where
  | connect (uuid : BitVec 128)
  | disconnect
deriving DecidableEq

/-- The calls a method makes outside the manager. Threads are numbered as they are
started; a call of the client names the thread that makes it. -/
inductive Call where
  | activitySessionStarted (sessionId : Int) (sessionKey : JString)
  | activitySessionFinished
  | activitySessionCancelled
  | addSessionFinishedListener (sessionId : Int) (sessionKey : JString)
  | controllerStart (sessionId : Int) (sessionKey : JString)
  | controllerStop
  | controllerKill (sessionId : Int) (sessionKey : JString)
  | startThread (thread : Nat) (task : Task)
  | connect (thread : Nat) (uuid : BitVec 128) (requestCode : Int)
  | disconnect (thread : Nat) (sessionId : Int) (sessionKey : JString)
  | toast (thread : Nat)
deriving DecidableEq

/-- The fields of `ConnectionManager` that its methods write. -/
structure ConnectionManager where
  mSessionKey : JString
  mSessionId : Int
  mSessionRunning : Bool
deriving DecidableEq

namespace ConnectionManager

def fresh : ConnectionManager := ⟨lit "", 0, false⟩

def onSessionStarted (_manager : ConnectionManager) (sessionId : Int) (sessionKey : JString) :
    ConnectionManager × List Call :=
  (⟨sessionKey, sessionId, false⟩,
    [.activitySessionStarted sessionId sessionKey,
      .addSessionFinishedListener sessionId sessionKey, .controllerStart sessionId sessionKey])

def onSessionFinished (_manager : ConnectionManager) : ConnectionManager × List Call :=
  (⟨lit "", 0, false⟩, [.activitySessionFinished, .controllerStop])

def onSessionCancelled (manager : ConnectionManager) : ConnectionManager × List Call :=
  ({ manager with mSessionRunning := false }, [.activitySessionCancelled])

def isConnected (manager : ConnectionManager) : Bool := 0 < manager.mSessionId

def isConnectingOrDisconnecting (manager : ConnectionManager) : Bool := manager.mSessionRunning

/-- `disconnect`, which starts the thread of the given number. -/
def disconnect (manager : ConnectionManager) (thread : Nat) : List Call :=
  [.controllerKill manager.mSessionId manager.mSessionKey, .startThread thread .disconnect]

/-- `connect`, which starts the thread of the given number. -/
def connect (uuid : BitVec 128) (thread : Nat) : List Call := [.startThread thread (.connect uuid)]

/-- `toggleConnection`. -/
def toggleConnection (manager : ConnectionManager) (uuid : BitVec 128) (thread : Nat) :
    ConnectionManager × List Call :=
  if manager.isConnectingOrDisconnecting then (manager, [])
  else
    let manager := { manager with mSessionRunning := true }
    (manager, if manager.isConnected then manager.disconnect thread else connect uuid thread)

/-- A toggle of an idle manager starts one thread, as its last call. -/
theorem toggleConnection_idle {manager : ConnectionManager}
    (idle : manager.mSessionRunning = false) (uuid : BitVec 128) (thread : Nat) :
    ∃ calls task, manager.toggleConnection uuid thread =
        ({ manager with mSessionRunning := true }, calls ++ [.startThread thread task]) ∧
      ∀ call ∈ calls, ∃ sessionId sessionKey, call = .controllerKill sessionId sessionKey := by
  unfold toggleConnection isConnectingOrDisconnecting
  rw [idle, if_neg Bool.false_ne_true]
  dsimp only
  split
  · exact ⟨[_], .disconnect, rfl, by simp⟩
  · exact ⟨[], .connect uuid, rfl, by simp⟩

/-- What a thread calls when it is awake. -/
def clientCall (manager : ConnectionManager) (thread : Nat) : Task → Call
  | .connect uuid => .connect thread uuid juiceSshRequestCode
  | .disconnect => .disconnect thread manager.mSessionId manager.mSessionKey

/-- The body of a thread. The client throws a `ServiceNotConnectedException` while its
service is not connected, which is caught and shown. -/
def runTask (manager : ConnectionManager) (thread : Nat) (serviceConnected : Bool) (task : Task) :
    List Call :=
  if serviceConnected then [manager.clientCall thread task]
  else [manager.clientCall thread task, .toast thread]

end ConnectionManager

/-- What happens to a manager. A thread wakes at any time after it was started. -/
inductive Input where
  | toggleConnection (uuid : BitVec 128)
  | onSessionStarted (sessionId : Int) (sessionKey : JString)
  | onSessionFinished
  | onSessionCancelled
  | threadWakes (thread : Nat) (serviceConnected : Bool)
deriving DecidableEq

/-- A manager, how many threads it has started, and those that are not yet awake. -/
structure System where
  manager : ConnectionManager
  started : Nat
  threads : List (Nat × Task)
deriving DecidableEq

namespace System

def fresh : System := ⟨.fresh, 0, []⟩

/-- The thread a call starts. -/
def startedThread : Call → Option (Nat × Task)
  | .startThread thread task => some (thread, task)
  | _ => none

theorem startedThread_eq_some_iff {call : Call} {thread : Nat} {task : Task} :
    startedThread call = some (thread, task) ↔ call = .startThread thread task := by
  cases call <;> simp [startedThread]

/-- The system after a method of the manager. -/
def afterMethod (system : System) (result : ConnectionManager × List Call) :
    System × List Call :=
  let threads := result.2.filterMap startedThread
  (⟨result.1, system.started + threads.length, system.threads ++ threads⟩, result.2)

/-- A thread wakes and ends. -/
def wake (system : System) (thread : Nat) (serviceConnected : Bool) : System × List Call :=
  match system.threads.lookup thread with
  | none => (system, [])
  | some task =>
      ({ system with threads := system.threads.filter (·.1 ≠ thread) },
        system.manager.runTask thread serviceConnected task)

/-- One event after another. -/
def machine : Machine System Input (List Call) where
  step system
    | .toggleConnection uuid =>
        system.afterMethod (system.manager.toggleConnection uuid system.started)
    | .onSessionStarted sessionId sessionKey =>
        system.afterMethod (system.manager.onSessionStarted sessionId sessionKey)
    | .onSessionFinished => system.afterMethod system.manager.onSessionFinished
    | .onSessionCancelled => system.afterMethod system.manager.onSessionCancelled
    | .threadWakes thread serviceConnected => system.wake thread serviceConnected

end System

/-- What happens to the manager and what it calls, in order. -/
abbrev Entry := Input ⊕ Call

/-- The journal of a run of a new manager. -/
def journal (inputs : List Input) : List Entry := System.machine.journal .fresh inputs

end Openpyn.Connection
