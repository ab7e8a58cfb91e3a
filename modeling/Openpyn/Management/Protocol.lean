import Openpyn.Java.Throwable
import Openpyn.Management.StringUtils

/-!
# The management protocol on the client's side

The texts of `Commands` and `Strings`, the kinds of real-time messages, and the
shape of a message line. A command is built from one word and its arguments, so
the text after the word is all an argument can influence.
-/

namespace Openpyn.Management

open Java StringUtils

namespace Strings

def authTokenPrefix : JString := lit "Auth-Token:"
def errorPrefix : JString := lit "ERROR:"
def managementCmdPrefix : JString := lit "MANAGEMENT: CMD"
def needPrefix : JString := lit "Need"
def notePrefix : JString := lit "NOTE:"
def successPrefix : JString := lit "SUCCESS:"
def verificationFailedPrefix : JString := lit "Verification Failed"
def waitingForHoldReleasePrefix : JString := lit "Waiting for hold release"
def warningPrefix : JString := lit "WARNING:"

def notSupportedYet : JString := lit "Not supported yet"
def socketIsNotConnected : JString := lit "Socket is not connected"

end Strings

namespace Commands

/-- `"auth-retry %s"`. -/
def authCommand (argument : JString) : JString := lit "auth-retry " ++ argument

/-- `"bytecount %d"`. -/
def bytecountCommand (interval : JString) : JString := lit "bytecount " ++ interval

/-- `"hold %s"`. -/
def holdCommand (argument : JString) : JString := lit "hold " ++ argument

/-- `"log %s"`. -/
def logCommand (argument : JString) : JString := lit "log " ++ argument

/-- `"state %s"`. -/
def stateCommand (argument : JString) : JString := lit "state " ++ argument

/-- `"signal %s"`. -/
def signalCommand (argument : JString) : JString := lit "signal " ++ argument

/-- `"username '%s' %s"`. -/
def usernameCommand (type username : JString) : JString :=
  lit "username '" ++ type ++ lit "' " ++ username

/-- `"password '%s' %s"`. -/
def passwordCommand (type password : JString) : JString :=
  lit "password '" ++ type ++ lit "' " ++ password

/-- The commands `run` issues before it reads. -/
def startCommands : List JString :=
  [authCommand (lit "interact"), bytecountCommand (lit "2"), stateCommand (lit "on"),
   logCommand (lit "on"), holdCommand (lit "release")]

end Commands

/-- The branches of the dispatcher. -/
inductive Kind where
  | byteCount
  | hold
  | log
  | password
  | state
  | unsupported
  | ignored
deriving DecidableEq

/-- The message names the dispatcher knows, in its order; `FATAL` and unknown
names are logged like the ignored ones and change nothing. -/
def kinds : List (JString × Kind) :=
  [(lit "BYTECOUNT", .byteCount), (lit "FATAL", .ignored), (lit "HOLD", .hold),
   (lit "INFO", .ignored), (lit "INFOMSG", .ignored), (lit "LOG", .log),
   (lit "PASSWORD", .password), (lit "STATE", .state), (lit "UPDOWN", .ignored),
   (lit "CLIENT", .unsupported), (lit "ECHO", .unsupported), (lit "NEED-OK", .unsupported),
   (lit "NEED-STR", .unsupported), (lit "PK_SIGN", .unsupported), (lit "PROXY", .unsupported),
   (lit "RSA_SIGN", .unsupported)]

/-- The branch taken for a message name. -/
def kindOf (cmd : JString) : Kind := (kinds.lookup cmd).getD .ignored

/-- Only `STATE` names a state message. -/
theorem kindOf_eq_state_iff (cmd : JString) : kindOf cmd = .state ↔ cmd = lit "STATE" := by
  constructor
  · intro state
    have found : kinds.lookup cmd = some .state := by
      cases entry : kinds.lookup cmd with
      | none => simp [kindOf, entry] at state
      | some kind => simpa [kindOf, entry] using state
    obtain ⟨before, after, table, -⟩ := List.lookup_eq_some_iff.mp found
    have member : (cmd, Kind.state) ∈ kinds := by
      rw [table]
      simp
    simpa [kinds] using member
  · rintro rfl
    decide

/-- The name and the argument of a real-time message line. -/
def notification : JString → Option (JString × JString)
  | [] => none
  | first :: rest =>
      if first = chr '>' ∧ chr ':' ∈ rest then
        some (rest.takeWhile (· ≠ chr ':'), (rest.dropWhile (· ≠ chr ':')).drop 1)
      else none

/-- A message line is `>`, a name without a colon, a colon and the argument. -/
theorem notification_eq_some_iff (line cmd argument : JString) :
    notification line = some (cmd, argument) ↔
      line = chr '>' :: cmd ++ chr ':' :: argument ∧ chr ':' ∉ cmd := by
  have kept : ∀ cmd : JString, chr ':' ∉ cmd → ∀ ch ∈ cmd, decide (ch ≠ chr ':') = true := by
    intro cmd absent ch member
    simpa using ne_of_mem_of_not_mem member absent
  have decode : ∀ cmd argument : JString, chr ':' ∉ cmd →
      notification (chr '>' :: cmd ++ chr ':' :: argument) = some (cmd, argument) := by
    intro cmd argument absent
    have present : chr ':' ∈ cmd ++ chr ':' :: argument := by simp
    rw [List.cons_append, notification, if_pos ⟨rfl, present⟩,
      List.takeWhile_append_of_pos (kept cmd absent),
      List.dropWhile_append_of_pos (kept cmd absent)]
    simp
  constructor
  · intro decoded
    cases line with
    | nil => simp [notification] at decoded
    | cons first rest =>
        by_cases shape : first = chr '>' ∧ chr ':' ∈ rest
        · obtain ⟨rfl, member⟩ := shape
          obtain ⟨name, tail, rfl, absent⟩ := List.eq_append_cons_of_mem member
          have expected := decode name tail absent
          rw [List.cons_append] at expected
          rw [expected] at decoded
          obtain ⟨rfl, rfl⟩ := Prod.mk.inj (Option.some.inj decoded)
          exact ⟨rfl, absent⟩
        · rw [notification, if_neg shape] at decoded
          cases decoded
  · rintro ⟨rfl, absent⟩
    exact decode cmd argument absent

end Openpyn.Management
