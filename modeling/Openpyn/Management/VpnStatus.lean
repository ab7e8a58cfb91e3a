import Openpyn.Java.Text

/-!
# Connection levels

OpenVPN reports its state by name; the client reduces a name and its message to
one of six levels. Only three levels steer later decisions, and each of them is
characterized here by the reports it stands for.
-/

namespace Openpyn.Management

open Java

/-- `ConnectionStatus`. -/
inductive ConnectionStatus where
  | levelConnected
  | levelConnectingServerReplied
  | levelConnectingNoServerReplyYet
  | levelNotConnected
  | levelAuthFailed
  | unknownLevel
deriving DecidableEq

namespace VpnStatus

def addRoutes : JString := lit "ADD_ROUTES"
def assignIp : JString := lit "ASSIGN_IP"
def auth : JString := lit "AUTH"
def authFailed : JString := lit "AUTH_FAILED"
def authPending : JString := lit "AUTH_PENDING"
def connected : JString := lit "CONNECTED"
def connecting : JString := lit "CONNECTING"
def disconnected : JString := lit "DISCONNECTED"
def exiting : JString := lit "EXITING"
def getConfig : JString := lit "GET_CONFIG"
def reconnecting : JString := lit "RECONNECTING"
def resolve : JString := lit "RESOLVE"
def tcpConnect : JString := lit "TCP_CONNECT"
def wait : JString := lit "WAIT"

def authFailure : JString := lit "auth-failure"

def mConnected : List JString := [connected]
def mNoReply : List JString := [connecting, wait, reconnecting, resolve, tcpConnect]
def mNotConnected : List JString := [disconnected, exiting]
def mReply : List JString := [auth, getConfig, assignIp, addRoutes, authPending]

/-- The level of a reported state. A failed authentication is reported as a
reconnection, so it is asked for before the tables. -/
def getLevel (name message : JString) : ConnectionStatus :=
  if name = reconnecting ∧ message = authFailure then .levelAuthFailed
  else if name ∈ mNoReply then .levelConnectingNoServerReplyYet
  else if name ∈ mReply then .levelConnectingServerReplied
  else if name ∈ mConnected then .levelConnected
  else if name ∈ mNotConnected then .levelNotConnected
  else .unknownLevel

theorem getLevel_eq_authFailed_iff (name message : JString) :
    getLevel name message = .levelAuthFailed ↔ name = reconnecting ∧ message = authFailure := by
  unfold getLevel
  split_ifs with failed <;> simp [failed]

theorem getLevel_eq_connected_iff (name message : JString) :
    getLevel name message = .levelConnected ↔ name = connected := by
  constructor
  · intro level
    unfold getLevel at level
    split_ifs at level with failed noReply reply inTable
    simpa [mConnected] using inTable
  · rintro rfl
    have notFailed : ¬(connected = reconnecting ∧ message = authFailure) := by
      rintro ⟨same, -⟩
      exact absurd same (by decide)
    rw [getLevel, if_neg notFailed]
    decide

theorem getLevel_eq_notConnected_iff (name message : JString) :
    getLevel name message = .levelNotConnected ↔ name = disconnected ∨ name = exiting := by
  constructor
  · intro level
    unfold getLevel at level
    split_ifs at level with failed noReply reply inConnected inTable
    simpa [mNotConnected] using inTable
  · intro names
    have notFailed : ¬(name = reconnecting ∧ message = authFailure) := by
      rintro ⟨rfl, -⟩
      exact absurd names (by decide)
    rw [getLevel, if_neg notFailed]
    rcases names with rfl | rfl <;> decide

end VpnStatus
end Openpyn.Management
