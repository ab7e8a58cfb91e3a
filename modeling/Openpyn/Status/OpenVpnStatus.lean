import Openpyn.Foundation.Cursor
import Openpyn.Status.Rows

/-!
# The status parser

`setCommandOutput` walks one index over the lines. A header moves it past the
lines of its section, and most of these moves read `lines[i]` without asking
whether there is such a line. A refused row or date is logged and skipped. The
status is filled while the lines are read, so what was stored before an exception
stays.
-/

namespace Openpyn.Status

open Foundation Java
open Completion (done throw withValue withValue_invariant andThen_invariant)

variable {Address Date : Type} [DecidableEq Address]

/-- `OpenVpnRoute.equals(Object)` between routes. -/
def OpenVpnRoute.equals (self other : OpenVpnRoute Address Date) : Bool :=
  if self.virtualIpAddress ≠ other.virtualIpAddress then false
  else if self.commonName ≠ other.commonName then false
  else self.realIpAddress = other.realIpAddress

/-- Equal routes may differ in their last reference. -/
theorem OpenVpnRoute.equals_iff (self other : OpenVpnRoute Address Date) :
    self.equals other = true ↔
      self.virtualIpAddress = other.virtualIpAddress ∧ self.commonName = other.commonName ∧
        self.realIpAddress = other.realIpAddress := by
  unfold OpenVpnRoute.equals
  by_cases virtual : self.virtualIpAddress = other.virtualIpAddress
  · by_cases name : self.commonName = other.commonName
    · simp [virtual, name]
    · simp [virtual, name]
  · simp [virtual]

theorem OpenVpnRoute.equals_symm (first second : OpenVpnRoute Address Date)
    (equal : first.equals second = true) : second.equals first = true := by
  rw [OpenVpnRoute.equals_iff] at equal ⊢
  obtain ⟨virtual, name, real⟩ := equal
  exact ⟨virtual.symm, name.symm, real.symm⟩

theorem OpenVpnRoute.equals_trans (first second third : OpenVpnRoute Address Date)
    (left : first.equals second = true) (right : second.equals third = true) :
    first.equals third = true := by
  rw [OpenVpnRoute.equals_iff] at left right ⊢
  obtain ⟨virtual, name, real⟩ := left
  exact ⟨virtual.trans right.1, name.trans right.2.1, real.trans right.2.2⟩

/-- `InetSocketAddress.hashCode()` of a resolved address. -/
def InetSocketAddress.hashCode (platform : Platform Address Date)
    (socket : InetSocketAddress Address) : UInt32 :=
  platform.addressHash socket.address + UInt32.ofNat socket.port

/-- `OpenVpnRoute.hashCode()`, in wrapping `int` arithmetic. -/
def OpenVpnRoute.hashCode (platform : Platform Address Date)
    (route : OpenVpnRoute Address Date) : UInt32 :=
  let hash := 7
  let hash := 79 * hash + platform.addressHash route.virtualIpAddress
  let hash := 79 * hash + Java.hashCode route.commonName
  let hash := 79 * hash + route.realIpAddress.hashCode platform
  79 * hash + platform.dateHash route.lastRef

/-- What a hash set knows of routes. -/
def OpenVpnRoute.identity (platform : Platform Address Date) :
    Identity (OpenVpnRoute Address Date) where
  equals := OpenVpnRoute.equals
  hashCode := OpenVpnRoute.hashCode platform
  equals_self := by
    intro route
    simp [OpenVpnRoute.equals]

/-- The fields of `OpenVpnStatus`. -/
structure OpenVpnStatus (platform : Platform Address Date) where
  clientList : List (OpenVpnClient Address Date)
  routeSet : HashSet (OpenVpnRoute.identity platform)
  updatedAt : Option Date

namespace OpenVpnStatus

variable {platform : Platform Address Date}

/-- `new OpenVpnStatus()`. -/
def fresh (platform : Platform Address Date) : OpenVpnStatus platform := ⟨[], HashSet.empty, none⟩

def getClientList (status : OpenVpnStatus platform) : List (OpenVpnClient Address Date) :=
  status.clientList

/-- `getRoutes()`: the set has no order of its own. -/
def getRoutes [DecidableEq Date] (status : OpenVpnStatus platform) :
    Finset (OpenVpnRoute Address Date) :=
  status.routeSet.toFinset

/-- `getUpdateTime()` clones the calendar, which has to be there. -/
def getUpdateTime (status : OpenVpnStatus platform) : Except Throwable Date :=
  match status.updatedAt with
  | some date => .ok date
  | none => .error .nullPointerException

/-- What the parser leaves behind; it calls no listener. -/
abbrev Parsing (σ : Type) := Completion Throwable Empty σ

def statsHeader : JString := lit "OpenVPN STATISTICS"
def clientsHeader : JString := lit "OpenVPN CLIENT LIST"
def clientColumns : JString :=
  lit "Common Name,Real Address,Bytes Received,Bytes Sent,Connected Since"
def routesHeader : JString := lit "ROUTING TABLE"
def routesColumns : JString := lit "Virtual Address,Common Name,Real Address,Last Ref"
def globalStats : JString := lit "GLOBAL STATS"
def updatedStart : JString := lit "Updated,"

/-- The characters that `.` does not match. -/
def lineTerminators : List JChar := [0x000A, 0x000D, 0x0085, 0x2028, 0x2029]

/-- `updated.matcher(line).matches()`; every other pattern is a plain text. -/
def isUpdated (line : JString) : Bool :=
  startsWith line updatedStart &&
    (line.drop updatedStart.length).all fun ch => !lineTerminators.contains ch

def wrongSequence : Throwable :=
  .openVpnParseException (lit "Cannot parse OpenVPN status. Wrong lines sequence.")

/-- `parseUpdatedTime(String)`. -/
def parseUpdatedTime (platform : Platform Address Date) (updatedString : JString) :
    Except Throwable Date :=
  match split updatedString (chr ',') 0 with
  | [_, text] =>
      (parseDate platform text).mapError fun
        | .parseException => .openVpnParseException (lit "Cannot parse update time string")
        | other => other
  | _ => .error (.openVpnParseException
      (lit "Cannot parse update time string. There should be 2 components separated by comma"))

/-- The assignment to `updatedAt` with its `try` block. -/
def setUpdated (status : OpenVpnStatus platform) (line : JString) :
    Parsing (OpenVpnStatus platform) :=
  (withValue status (parseUpdatedTime platform line) fun date =>
    done { status with updatedAt := some date }).catching Throwable.isOpenVpnParseException

/-- `addClient(String)`. -/
def addClient (status : OpenVpnStatus platform) (clientString : JString) :
    Parsing (OpenVpnStatus platform) :=
  (withValue status (openVpnClient platform clientString) fun client =>
    done { status with clientList := status.clientList ++ [client] }).catching
      Throwable.isOpenVpnParseException

/-- `addRoute(String)`. -/
def addRoute (status : OpenVpnStatus platform) (routeString : JString) :
    Parsing (OpenVpnStatus platform) :=
  (withValue status (openVpnRoute platform routeString) fun route =>
    done { status with routeSet := status.routeSet.add route }).catching
      Throwable.isOpenVpnParseException

/-- The block both headers begin with: `lines[++i]` has to be the time of the
update. `lines[i++]` is evaluated before the call, so a refused time is passed too. -/
def readUpdated (lines : List JString) (cursor : Cursor (OpenVpnStatus platform)) :
    Parsing (Cursor (OpenVpnStatus platform)) :=
  let i := cursor.index + 1
  withValue { cursor with index := i } (arrayGet lines i) fun line =>
    if isUpdated line then
      (setUpdated cursor.state line).mapState fun status => ⟨status, i + 1, false⟩
    else throw { cursor with index := i } wrongSequence

/-- The statistics header of a client's output. -/
def readStatistics (lines : List JString) (cursor : Cursor (OpenVpnStatus platform)) :
    Parsing (Cursor (OpenVpnStatus platform)) :=
  withValue cursor (arrayGet lines cursor.index) fun line =>
    if line = statsHeader then readUpdated lines cursor else done cursor

/-- The client list; its loop ends at the header of the routing table. -/
def readClientList (lines : List JString) (cursor : Cursor (OpenVpnStatus platform)) :
    Parsing (Cursor (OpenVpnStatus platform)) :=
  withValue cursor (arrayGet lines cursor.index) fun line =>
    if line = clientsHeader then
      (readUpdated lines cursor).andThen fun cursor =>
        withValue cursor (arrayGet lines cursor.index) fun columns =>
          if columns = clientColumns then
            Cursor.advanceUntil .arrayIndexOutOfBoundsException (· = routesHeader) addClient lines
              cursor.state (cursor.index + 1)
          else throw { cursor with index := cursor.index + 1 } wrongSequence
    else done cursor

/-- The routing table, which ends the parsing. -/
def readRoutingTable (lines : List JString) (cursor : Cursor (OpenVpnStatus platform)) :
    Parsing (Cursor (OpenVpnStatus platform)) :=
  withValue cursor (arrayGet lines cursor.index) fun line =>
    if line = routesHeader then
      let i := cursor.index + 1
      withValue { cursor with index := i } (arrayGet lines i) fun columns =>
        if columns = routesColumns then
          (Cursor.advanceUntil .arrayIndexOutOfBoundsException (· = globalStats) addRoute lines
            cursor.state (i + 1)).andThen fun cursor => done { cursor with broke := true }
        else throw { cursor with index := i } wrongSequence
    else done cursor

/-- The body of the `for` loop. -/
def readSections (lines : List JString) (cursor : Cursor (OpenVpnStatus platform)) :
    Parsing (Cursor (OpenVpnStatus platform)) :=
  ((readStatistics lines cursor).andThen (readClientList lines)).andThen (readRoutingTable lines)

/-- No part of the loop body moves the index back, so the `for` loop ends. -/
theorem readUpdated_advances (lines : List JString) (cursor : Cursor (OpenVpnStatus platform)) :
    cursor.index ≤ (readUpdated lines cursor).state.index := by
  apply withValue_invariant fun next : Cursor _ => cursor.index ≤ next.index
  · exact Nat.le_succ cursor.index
  · intro line
    split
    · exact Nat.le_add_right cursor.index 2
    · exact Nat.le_succ cursor.index

theorem readStatistics_advances (lines : List JString)
    (cursor : Cursor (OpenVpnStatus platform)) :
    cursor.index ≤ (readStatistics lines cursor).state.index := by
  apply withValue_invariant fun next : Cursor _ => cursor.index ≤ next.index
  · exact Nat.le_refl cursor.index
  · intro line
    split
    · exact readUpdated_advances lines cursor
    · exact Nat.le_refl cursor.index

theorem readClientList_advances (lines : List JString)
    (cursor : Cursor (OpenVpnStatus platform)) :
    cursor.index ≤ (readClientList lines cursor).state.index := by
  apply withValue_invariant fun next : Cursor _ => cursor.index ≤ next.index
  · exact Nat.le_refl cursor.index
  · intro line
    split
    · apply andThen_invariant fun next : Cursor _ => cursor.index ≤ next.index
      · exact readUpdated_advances lines cursor
      · intro next further
        apply withValue_invariant fun last : Cursor _ => cursor.index ≤ last.index
        · exact further
        · intro columns
          split
          · apply Nat.le_trans (Nat.le_succ_of_le further)
            apply Cursor.advanceUntil_advances
          · exact Nat.le_succ_of_le further
    · exact Nat.le_refl cursor.index

theorem readRoutingTable_advances (lines : List JString)
    (cursor : Cursor (OpenVpnStatus platform)) :
    cursor.index ≤ (readRoutingTable lines cursor).state.index := by
  apply withValue_invariant fun next : Cursor _ => cursor.index ≤ next.index
  · exact Nat.le_refl cursor.index
  · intro line
    split
    · apply withValue_invariant fun last : Cursor _ => cursor.index ≤ last.index
      · exact Nat.le_succ cursor.index
      · intro columns
        split
        · apply andThen_invariant fun last : Cursor _ => cursor.index ≤ last.index
          · apply Nat.le_trans (Nat.le_add_right cursor.index 2)
            apply Cursor.advanceUntil_advances
          · intro next further
            exact further
        · exact Nat.le_succ cursor.index
    · exact Nat.le_refl cursor.index

theorem readSections_advances (lines : List JString) (cursor : Cursor (OpenVpnStatus platform)) :
    cursor.index ≤ (readSections lines cursor).state.index := by
  apply andThen_invariant fun next : Cursor _ => cursor.index ≤ next.index
  · apply andThen_invariant fun next : Cursor _ => cursor.index ≤ next.index
    · exact readStatistics_advances lines cursor
    · intro next further
      exact Nat.le_trans further (readClientList_advances lines next)
  · intro next further
    exact Nat.le_trans further (readRoutingTable_advances lines next)

/-- `setCommandOutput(String[])`. -/
def setCommandOutput (status : OpenVpnStatus platform) (lines : List JString) :
    Parsing (OpenVpnStatus platform) :=
  (Cursor.forIndex (readSections lines) (readSections_advances lines) lines.length
    ⟨status, 0, false⟩).mapState Cursor.state

/-- `setCommandOutput(String)`, the overload the connection calls. -/
def setCommandText (status : OpenVpnStatus platform) (output : JString) :
    Parsing (OpenVpnStatus platform) :=
  setCommandOutput status (split output lineFeed 0)

end OpenVpnStatus

end Openpyn.Status
