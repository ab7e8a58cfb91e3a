import Openpyn.Management.Reading
import Openpyn.Traffic.TrafficHistory

/-!
# Byte counts

A BYTECOUNT message carries the counters of the whole session. The byte count
manager adds them to the traffic history and tells every registered listener the
counters and what they grew by.
-/

namespace Openpyn.Traffic

open Foundation Java Management

/-- A call of `onByteCountChanged(in, out, diffIn, diffOut)`. -/
structure OnByteCountChanged (L : Type) where
  listener : L
  countIn : Int
  countOut : Int
  diffIn : Int
  diffOut : Int
deriving DecidableEq

/-- The fields of `ByteCountManager`. `mByteCount` is null until the first
`setByteCount`, which sets it before it is read. -/
structure ByteCountManager (L : Type) where
  mByteCountListeners : Listeners L
  trafficHistory : TrafficHistory
  mByteCount : ByteCount

namespace ByteCountManager

variable {L : Type}

/-- `new ByteCountManager()`. -/
def fresh : ByteCountManager L := ⟨⟨[], List.nodup_nil⟩, .fresh, ⟨0, 0⟩⟩

/-- `addListener`. -/
def addListener [DecidableEq L] (manager : ByteCountManager L) (listener : L) :
    ByteCountManager L :=
  { manager with mByteCountListeners := manager.mByteCountListeners.addListener listener }

/-- `removeListener`. -/
def removeListener [DecidableEq L] (manager : ByteCountManager L) (listener : L) :
    ByteCountManager L :=
  { manager with mByteCountListeners := manager.mByteCountListeners.removeListener listener }

/-- `notifyListeners` when the clock shows `now`. -/
def notifyListeners (manager : ByteCountManager L) (now : Int) :
    ByteCountManager L × List (OnByteCountChanged L) :=
  let countIn := manager.mByteCount.mIn
  let countOut := manager.mByteCount.mOut
  let (history, diff) := manager.trafficHistory.add ⟨countIn, countOut, now⟩
  ({ manager with trafficHistory := history },
    manager.mByteCountListeners.toList.map fun listener =>
      ⟨listener, countIn, countOut, diff.getDiffIn, diff.getDiffOut⟩)

/-- `setByteCount`. -/
def setByteCount (manager : ByteCountManager L) (byteCount : ByteCount) (now : Int) :
    ByteCountManager L × List (OnByteCountChanged L) :=
  notifyListeners { manager with mByteCount := byteCount } now

/-- Every listener is told the counters and the difference from the end of the
history. -/
theorem setByteCount_calls (manager : ByteCountManager L) (byteCount : ByteCount) (now : Int) :
    let lastTdp := manager.trafficHistory.seconds.getLastD ⟨0, 0, now⟩
    (manager.setByteCount byteCount now).2 =
      manager.mByteCountListeners.toList.map fun listener =>
        ⟨listener, byteCount.mIn, byteCount.mOut, max 0 (wrapLong (byteCount.mIn - lastTdp.mIn)),
          max 0 (wrapLong (byteCount.mOut - lastTdp.mOut))⟩ := rfl

/-- The byte counts among the calls of the connection reach its manager. -/
def receive (manager : ByteCountManager L) (now : Int) :
    List (Event L) → ByteCountManager L × List (OnByteCountChanged L)
  | [] => (manager, [])
  | .setByteCount byteCount :: rest =>
      let (next, calls) := manager.setByteCount byteCount now
      let (final, later) := receive next now rest
      (final, calls ++ later)
  | _ :: rest => receive manager now rest

end ByteCountManager

/-- The argument of a BYTECOUNT message and the counters it stands for. -/
structure ByteCountMessage where
  argument : JString
  byteCount : ByteCount
  decimal : ManagementConnection.IsByteCount argument byteCount
  received : 0 ≤ byteCount.mIn ∧ byteCount.mIn ≤ 2 ^ 63 - 1
  sent : 0 ≤ byteCount.mOut ∧ byteCount.mOut ≤ 2 ^ 63 - 1

namespace ByteCountMessage

/-- The message as the server writes it. -/
def write (byteCount : ByteCount)
    (received : 0 ≤ byteCount.mIn ∧ byteCount.mIn ≤ 2 ^ 63 - 1)
    (sent : 0 ≤ byteCount.mOut ∧ byteCount.mOut ≤ 2 ^ 63 - 1) : ByteCountMessage where
  argument := toText byteCount.mIn ++ chr ',' :: toText byteCount.mOut
  byteCount := byteCount
  decimal := by
    refine ⟨_, _, rfl, ?_, parseNumber_toText ⟨by omega, received.2⟩,
      parseNumber_toText ⟨by omega, sent.2⟩⟩
    intro comma
    rcases mem_toText comma with sign | digit
    · exact absurd sign (by decide)
    · exact absurd digit (by decide)
  received := received
  sent := sent

/-- The line of the message. -/
def line (message : ByteCountMessage) : JString :=
  chr '>' :: lit "BYTECOUNT" ++ chr ':' :: message.argument

example : (write ⟨1024, 37⟩ (by decide) (by decide)).line = lit ">BYTECOUNT:1024,37" := by decide

/-- Reading the message only sets the byte count. -/
theorem parseInput_line {L : Type} (message : ByteCountMessage) (c : ManagementConnection L) :
    c.parseInput message.line = .emit c [.setByteCount message.byteCount] := by
  have decoded : notification message.line = some (lit "BYTECOUNT", message.argument) :=
    (notification_eq_some_iff _ _ _).mpr ⟨rfl, by decide⟩
  have kind : kindOf (lit "BYTECOUNT") = .byteCount := by decide
  rw [ManagementConnection.parseInput_notification c decoded, kind]
  exact ManagementConnection.processByteCount_counts c message.decimal

end ByteCountMessage

end Openpyn.Traffic
