import Openpyn.Foundation.Machine
import Openpyn.Foundation.Since
import Openpyn.Traffic.ByteCountManager

/-!
# What byte count listeners are told

Each notification is measured against the one before it, whatever the clock shows:
the newest sample is never removed from the end of the history, and no other sample
is added to it.
-/

namespace Openpyn.Traffic

open Foundation Java Management

/-- What reaches the byte count manager through the connection. -/
inductive Notice (L : Type) where
  | addByteCountListener (listener : L)
  | removeByteCountListener (listener : L)
  | notification (message : ByteCountMessage) (now : Int)

variable {L : Type}

/-- The connection and its byte count manager. -/
structure Reporter (L : Type) where
  connection : ManagementConnection L
  mByteCountManager : ByteCountManager L

/-- A connection with a new byte count manager. -/
def Reporter.fresh (connection : ManagementConnection L) : Reporter L := ⟨connection, .fresh⟩

/-- The latest notice about the listener is its registration. -/
def Registered (past : List (Notice L)) (listener : L) : Prop :=
  Since (· = .addByteCountListener listener) (· = .removeByteCountListener listener) past

/-- The sample of a message. -/
def Notice.sample : Notice L → Option TrafficDataPoint
  | .addByteCountListener _ => none
  | .removeByteCountListener _ => none
  | .notification message now => some ⟨message.byteCount.mIn, message.byteCount.mOut, now⟩

/-- The samples of a past. -/
def samples (past : List (Notice L)) : List TrafficDataPoint := past.filterMap Notice.sample

/-- The latest sample of a past, or a point of no traffic. -/
def lastSample (past : List (Notice L)) : TrafficDataPoint := (samples past).getLastD .zero

theorem samples_concat (past : List (Notice L)) (notice : Notice L) :
    samples (past ++ [notice]) = samples past ++ notice.sample.toList := by
  rw [samples, List.filterMap_append]
  cases notice with
  | addByteCountListener listener => rfl
  | removeByteCountListener listener => rfl
  | notification message now => rfl

/-- Every registered listener is called once, with the counters and what they grew
by since the latest sample of the past. -/
structure Reports (past : List (Notice L)) (byteCount : ByteCount)
    (calls : List (OnByteCountChanged L)) : Prop where
  once : (calls.map OnByteCountChanged.listener).Nodup
  registered : ∀ listener,
    listener ∈ calls.map OnByteCountChanged.listener ↔ Registered past listener
  counters : ∀ call ∈ calls, call.countIn = byteCount.mIn ∧ call.countOut = byteCount.mOut
  differences : ∀ call ∈ calls,
    call.diffIn = max 0 (byteCount.mIn - (lastSample past).mIn) ∧
      call.diffOut = max 0 (byteCount.mOut - (lastSample past).mOut)

/-- What a reporter owes to its past: its listeners and the end of its history. -/
structure Follows (past : List (Notice L)) (state : Reporter L) : Prop where
  registered : ∀ listener,
    listener ∈ state.mByteCountManager.mByteCountListeners.toList ↔ Registered past listener
  newest : state.mByteCountManager.trafficHistory.seconds.getLast? = (samples past).getLast?

theorem follows_fresh (connection : ManagementConnection L) :
    Follows [] (Reporter.fresh connection) := by
  refine ⟨?_, rfl⟩
  intro listener
  simp [Reporter.fresh, ByteCountManager.fresh, Registered]

/-- The counters of every sample are in range, and so are those of no traffic. -/
theorem lastSample_inRange (past : List (Notice L)) :
    (0 ≤ (lastSample past).mIn ∧ (lastSample past).mIn ≤ 2 ^ 63 - 1) ∧
      0 ≤ (lastSample past).mOut ∧ (lastSample past).mOut ≤ 2 ^ 63 - 1 := by
  rcases List.mem_cons.mp (List.getLastD_mem_cons (l := samples past) (a := .zero)) with
    none | member
  · rw [lastSample, none]
    decide
  · obtain ⟨notice, -, taken⟩ := List.mem_filterMap.mp member
    cases notice with
    | addByteCountListener listener => cases taken
    | removeByteCountListener listener => cases taken
    | notification message now =>
        rw [lastSample, ← Option.some_inj.mp taken]
        exact ⟨message.received, message.sent⟩

/-- The difference is taken against the latest sample. -/
theorem Follows.baseline {past : List (Notice L)} {state : Reporter L}
    (follows : Follows past state) (now : Int) :
    let lastTdp := state.mByteCountManager.trafficHistory.seconds.getLastD ⟨0, 0, now⟩
    lastTdp.mIn = (lastSample past).mIn ∧ lastTdp.mOut = (lastSample past).mOut := by
  intro lastTdp
  have newest := follows.newest
  simp only [lastTdp, lastSample, List.getLastD_eq_getLast?, newest]
  cases (samples past).getLast? with
  | none => exact ⟨rfl, rfl⟩
  | some tdp => exact ⟨rfl, rfl⟩

variable [DecidableEq L]

/-- One notice after another; the answers are the calls of listeners. -/
def reporter : Machine (Reporter L) (Notice L) (List (OnByteCountChanged L)) where
  step
    | ⟨connection, manager⟩, .addByteCountListener listener =>
        (⟨connection, manager.addListener listener⟩, [])
    | ⟨connection, manager⟩, .removeByteCountListener listener =>
        (⟨connection, manager.removeListener listener⟩, [])
    | ⟨connection, manager⟩, .notification message now =>
        let result := connection.parseInput message.line
        let (next, calls) := manager.receive now result.emitted
        (⟨result.state, next⟩, calls)

/-- The answer to a notification is the answer of `setByteCount`. -/
theorem reporter_notification (state : Reporter L) (message : ByteCountMessage) (now : Int) :
    reporter.step state (.notification message now) =
      let (manager, calls) := state.mByteCountManager.setByteCount message.byteCount now
      (⟨state.connection, manager⟩, calls) := by
  simp [reporter, message.parseInput_line, ByteCountManager.receive]

/-- Any notice, with the clock showing any time. -/
theorem follows_step {past : List (Notice L)} {state : Reporter L} (follows : Follows past state)
    (notice : Notice L) : Follows (past ++ [notice]) (reporter.step state notice).1 := by
  obtain ⟨registered, newest⟩ := follows
  cases notice with
  | addByteCountListener added =>
      refine ⟨?_, ?_⟩
      · intro listener
        simp [reporter, ByteCountManager.addListener, Registered, registered, eq_comm]
      · rw [samples_concat, Notice.sample, Option.toList_none, List.append_nil]
        exact newest
  | removeByteCountListener removed =>
      refine ⟨?_, ?_⟩
      · intro listener
        simp [reporter, ByteCountManager.removeListener, Registered, registered, eq_comm, and_comm]
      · rw [samples_concat, Notice.sample, Option.toList_none, List.append_nil]
        exact newest
  | notification message now =>
      rw [reporter_notification]
      refine ⟨?_, ?_⟩
      · intro listener
        rw [Registered, since_concat]
        simp [ByteCountManager.setByteCount, ByteCountManager.notifyListeners, registered,
          Registered]
      · rw [samples_concat, Notice.sample, Option.toList_some, List.getLast?_concat]
        exact TrafficHistory.getLast?_seconds_add _ _

/-- Every run. -/
theorem follows_after (connection : ManagementConnection L) (past : List (Notice L)) :
    Follows past (reporter.after (.fresh connection) past) :=
  Machine.history (fun past _ state => Follows past state) (follows_fresh connection)
    (fun _ _ _ notice follows => follows_step follows notice) past

/-- For any sequence of notices and any clock, a notification tells every registered
listener once what the counters are and what they grew by since the notification
before, and leaves its own sample at the end of the history. -/
theorem reporter_reports (connection : ManagementConnection L) (past : List (Notice L))
    (message : ByteCountMessage) (now : Int) :
    let answer := reporter.step (reporter.after (.fresh connection) past)
      (.notification message now)
    Reports past message.byteCount answer.2 ∧
      answer.1.mByteCountManager.trafficHistory.seconds.getLast? =
        some ⟨message.byteCount.mIn, message.byteCount.mOut, now⟩ := by
  have follows := follows_after connection past
  have received := message.received
  have sent := message.sent
  obtain ⟨lastIn, lastOut⟩ := lastSample_inRange past
  obtain ⟨sameIn, sameOut⟩ := follows.baseline now
  generalize reporter.after (.fresh connection) past = state at follows sameIn sameOut
  intro answer
  have told : answer = _ := reporter_notification state message now
  have calls := state.mByteCountManager.setByteCount_calls message.byteCount now
  dsimp only at calls
  rw [sameIn, sameOut, wrapLong_of_range (by omega) (by omega),
    wrapLong_of_range (by omega) (by omega)] at calls
  have listeners : answer.2.map OnByteCountChanged.listener =
      state.mByteCountManager.mByteCountListeners.toList := by
    rw [told, calls, List.map_map]
    exact List.map_id _
  rw [told]
  refine ⟨⟨?_, ?_, ?_, ?_⟩, TrafficHistory.getLast?_seconds_add _ _⟩
  · rw [← told, listeners]
    exact state.mByteCountManager.mByteCountListeners.nodup
  · intro listener
    rw [← told, listeners]
    exact follows.registered listener
  · intro call member
    rw [calls] at member
    obtain ⟨listener, -, rfl⟩ := List.mem_map.mp member
    exact ⟨rfl, rfl⟩
  · intro call member
    rw [calls] at member
    obtain ⟨listener, -, rfl⟩ := List.mem_map.mp member
    exact ⟨rfl, rfl⟩

end Openpyn.Traffic
