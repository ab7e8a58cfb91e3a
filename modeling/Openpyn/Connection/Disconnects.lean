import Openpyn.Connection.ConnectionManager
import Openpyn.Foundation.Since

/-!
# Which session a disconnect ends

A disconnect is requested in one session and carried out five seconds later with
the fields of that moment. The two agree exactly when the callbacks in between have
left the session as it was.
-/

namespace Openpyn.Connection

open Foundation Java

/-- The session a callback leaves behind. -/
def sessionOf : Entry → Option (Int × JString)
  | .inl (.onSessionStarted sessionId sessionKey) => some (sessionId, sessionKey)
  | .inl .onSessionFinished => some (0, lit "")
  | _ => none

/-- The session the latest of these callbacks has left behind, at first none. -/
def currentSession (journal : List Entry) : Int × JString :=
  (journal.filterMap sessionOf).getLast?.getD (0, lit "")

/-- The disconnect of this thread is requested after `before`. -/
def RequestedAfter (thread : Nat) (earlier before between : List Entry) : Prop :=
  earlier = before ++ .inr (.startThread thread .disconnect) :: between

/-- A disconnect carries the session that was current when it was requested. -/
def CarriesRequested (earlier : List Entry) (entry : Entry) : Prop :=
  ∀ thread sessionId sessionKey, entry = .inr (.disconnect thread sessionId sessionKey) →
    (∃ before between, RequestedAfter thread earlier before between) ∧
      ∀ before between, RequestedAfter thread earlier before between →
        (sessionId, sessionKey) = currentSession before

/-- Between the request of a disconnect and its call, no session starts or finishes,
or the latest callback starts the same session again. -/
def Undisturbed (earlier : List Entry) (entry : Entry) : Prop :=
  ∀ thread sessionId sessionKey, entry = .inr (.disconnect thread sessionId sessionKey) →
    ∀ before between, RequestedAfter thread earlier before between →
      ∀ session ∈ (between.filterMap sessionOf).getLast?, session = currentSession before

theorem currentSession_append (earlier later : List Entry) :
    currentSession (earlier ++ later) =
      (later.filterMap sessionOf).getLast?.getD (currentSession earlier) := by
  rw [currentSession, List.filterMap_append, List.getLast?_append, Option.getD_or]
  rfl

/-- Calls leave the session as it is. -/
theorem currentSession_calls (journal : List Entry) (input : Input) (calls : List Call) :
    currentSession (journal ++ .inl input :: calls.map .inr) =
      (sessionOf (.inl input)).getD (currentSession journal) := by
  have silent : (calls.map Sum.inr).filterMap sessionOf = [] := by
    simp [sessionOf]
  rw [currentSession_append, List.filterMap_cons, silent]
  cases sessionOf (.inl input) with
  | none => rfl
  | some session => rfl

/-- The session after a request is the one before it unless callbacks came. -/
theorem RequestedAfter.currentSession {thread : Nat} {earlier before between : List Entry}
    (requested : RequestedAfter thread earlier before between) :
    currentSession earlier =
      (between.filterMap sessionOf).getLast?.getD (Connection.currentSession before) := by
  rw [requested, currentSession_append]
  rfl

/-- A disconnect is called for a thread that was started, with the current session. -/
def Answers (earlier : List Entry) (entry : Entry) : Prop :=
  ∀ thread sessionId sessionKey, entry = .inr (.disconnect thread sessionId sessionKey) →
    (sessionId, sessionKey) = currentSession earlier ∧
      ∃ before between, RequestedAfter thread earlier before between

/-- What the system owes to its journal. -/
structure Tracks (journal : List Entry) (system : System) : Prop where
  session : (system.manager.mSessionId, system.manager.mSessionKey) = currentSession journal
  threads : ∀ thread task, (thread, task) ∈ system.threads →
    .inr (.startThread thread task) ∈ journal
  answers : Always Answers journal

theorem tracks_fresh : Tracks [] .fresh := ⟨rfl, by simp [System.fresh], always_nil⟩

/-- A method that calls no disconnect keeps the journal true if its fields do. -/
theorem Tracks.afterMethod {journal : List Entry} {system : System}
    (tracks : Tracks journal system) {input : Input} {result : ConnectionManager × List Call}
    (session : (result.1.mSessionId, result.1.mSessionKey) =
      (sessionOf (.inl input)).getD (currentSession journal))
    (silent : ∀ thread sessionId sessionKey,
      Call.disconnect thread sessionId sessionKey ∉ result.2) :
    Tracks (journal ++ .inl input :: result.2.map .inr) (system.afterMethod result).1 := by
  refine ⟨?_, ?_, ?_⟩
  · rw [currentSession_calls]
    exact session
  · intro thread task member
    rcases List.mem_append.mp member with old | new
    · exact List.mem_append_left _ (tracks.threads thread task old)
    · obtain ⟨call, called, started⟩ := List.mem_filterMap.mp new
      simp [← System.startedThread_eq_some_iff.mp started, called]
  · rw [always_append]
    refine ⟨tracks.answers, always_of_forall ?_⟩
    rintro entry member before thread sessionId sessionKey rfl
    exact absurd (by simpa using member) (silent thread sessionId sessionKey)

/-- A thread that wakes calls with the session of that moment. -/
theorem Tracks.wake {journal : List Entry} {system : System} (tracks : Tracks journal system)
    (thread : Nat) (serviceConnected : Bool) :
    Tracks (journal ++ .inl (.threadWakes thread serviceConnected) ::
        (system.wake thread serviceConnected).2.map .inr)
      (system.wake thread serviceConnected).1 := by
  have session : (system.manager.mSessionId, system.manager.mSessionKey) =
      currentSession (journal ++ [.inl (.threadWakes thread serviceConnected)]) := by
    rw [tracks.session]
    exact (currentSession_calls journal (.threadWakes thread serviceConnected) []).symm
  unfold System.wake
  cases awake : system.threads.lookup thread with
  | none =>
      refine ⟨session, fun other task member => ?_, ?_⟩
      · exact List.mem_append_left _ (tracks.threads other task member)
      · exact always_concat.mpr ⟨tracks.answers, by rintro _ _ _ ⟨⟩⟩
  | some task =>
      obtain ⟨before, after, table, -⟩ := List.lookup_eq_some_iff.mp awake
      have started : .inr (.startThread thread task) ∈ journal :=
        tracks.threads thread task (by simp [table])
      refine ⟨?_, fun other task member => ?_, ?_⟩
      · rw [currentSession_calls]
        exact tracks.session
      · exact List.mem_append_left _ (tracks.threads other task (List.mem_of_mem_filter member))
      · cases task with
        | connect uuid =>
            cases serviceConnected <;>
              simp [always_append, tracks.answers, ConnectionManager.runTask,
                ConnectionManager.clientCall, Answers]
        | disconnect =>
            obtain ⟨earlier, later, split⟩ := List.append_of_mem started
            have requested : ∃ before between, RequestedAfter thread
                (journal ++ [.inl (.threadWakes thread serviceConnected)]) before between :=
              ⟨earlier, later ++ [.inl (.threadWakes thread serviceConnected)], by
                simp [RequestedAfter, split]⟩
            cases serviceConnected <;>
              simp [always_append, tracks.answers, ConnectionManager.runTask,
                ConnectionManager.clientCall, Answers, session, requested]

/-- Toggling leaves the session fields alone and calls no disconnect itself. -/
theorem toggleConnection_frame (manager : ConnectionManager) (uuid : BitVec 128) (thread : Nat) :
    ((manager.toggleConnection uuid thread).1.mSessionId,
        (manager.toggleConnection uuid thread).1.mSessionKey) =
      (manager.mSessionId, manager.mSessionKey) ∧
    ∀ other sessionId sessionKey, Call.disconnect other sessionId sessionKey ∉
      (manager.toggleConnection uuid thread).2 := by
  unfold ConnectionManager.toggleConnection
  split
  · simp
  · dsimp only
    split
    · simp [ConnectionManager.disconnect]
    · simp [ConnectionManager.connect]

/-- Every run. -/
theorem tracks_journal (inputs : List Input) :
    Tracks (journal inputs) (System.machine.after .fresh inputs) := by
  apply Machine.journal_history Tracks tracks_fresh
  intro journal system input tracks
  cases input with
  | toggleConnection uuid =>
      obtain ⟨session, silent⟩ := toggleConnection_frame system.manager uuid system.started
      exact tracks.afterMethod (session.trans tracks.session) silent
  | onSessionStarted sessionId sessionKey =>
      exact tracks.afterMethod rfl (by simp [ConnectionManager.onSessionStarted])
  | onSessionFinished =>
      exact tracks.afterMethod rfl (by simp [ConnectionManager.onSessionFinished])
  | onSessionCancelled =>
      exact tracks.afterMethod tracks.session (by simp [ConnectionManager.onSessionCancelled])
  | threadWakes thread serviceConnected => exact tracks.wake thread serviceConnected

/-- In every run, each disconnect carries the session it was requested in exactly
when no callback has put another session in its place by then. -/
theorem disconnects_carryRequested_iff (inputs : List Input) :
    Always CarriesRequested (journal inputs) ↔ Always Undisturbed (journal inputs) := by
  apply always_congr (tracks_journal inputs).answers
  intro earlier entry answers
  constructor
  · intro carries thread sessionId sessionKey call before between requested session latest
    obtain ⟨current, -⟩ := answers thread sessionId sessionKey call
    have same := (carries thread sessionId sessionKey call).2 before between requested
    rw [requested.currentSession, Option.mem_def.mp latest, Option.getD_some] at current
    rw [← current, same]
  · intro undisturbed thread sessionId sessionKey call
    obtain ⟨current, request⟩ := answers thread sessionId sessionKey call
    refine ⟨request, fun before between requested => ?_⟩
    rw [current, requested.currentSession]
    cases latest : (between.filterMap sessionOf).getLast? with
    | none => rfl
    | some session =>
        exact undisturbed thread sessionId sessionKey call before between requested session latest

/-- The thread of a disconnect asked for in one session wakes in the next one. -/
theorem disconnect_endsLaterSession :
    ¬∀ inputs, Always CarriesRequested (journal inputs) := by
  intro always
  let inputs : List Input :=
    [.onSessionStarted 1 (lit "a"), .toggleConnection 7, .onSessionFinished, .toggleConnection 7,
      .onSessionStarted 2 (lit "b"), .threadWakes 0 true]
  have made : journal inputs = (journal inputs).dropLast ++
      .inr (.disconnect 0 2 (lit "b")) :: [] := by decide
  have requested : RequestedAfter 0 (journal inputs).dropLast ((journal inputs).take 6)
      ((journal inputs).drop 7).dropLast := by
    unfold RequestedAfter
    decide
  have carries := (always inputs _ _ _ made 0 2 (lit "b") rfl).2 _ _ requested
  have other : currentSession ((journal inputs).take 6) = (1, lit "a") := by decide
  rw [other] at carries
  exact absurd carries (by decide)

end Openpyn.Connection
