import Openpyn.Connection.ConnectionManager
import Openpyn.Foundation.Since

/-!
# When the manager is busy

A toggle is ignored while the manager is connecting or disconnecting. Only the
callbacks of the client end that, so a request that fails first leaves the manager
busy with nothing.
-/

namespace Openpyn.Connection

open Foundation Java

/-- A session has started or finished, or its start was cancelled. -/
def IsCallback (entry : Entry) : Prop :=
  (∃ sessionId sessionKey, entry = .inl (.onSessionStarted sessionId sessionKey)) ∨
    entry = .inl .onSessionFinished ∨ entry = .inl .onSessionCancelled

/-- The thread is started for a request. -/
def Issues (thread : Nat) (entry : Entry) : Prop :=
  ∃ task, entry = .inr (.startThread thread task)

@[simp] theorem not_isCallback_inr (call : Call) : ¬IsCallback (.inr call) := by
  simp [IsCallback]

/-- The request of the thread has been issued, and no callback has come since. -/
def Unanswered (thread : Nat) (journal : List Entry) : Prop :=
  Since (Issues thread) IsCallback journal

/-- The thread wakes, once, to a service that is not connected: its request fails. -/
def Fails (thread : Nat) (entry : Entry) : Prop := entry = .inl (.threadWakes thread false)

/-- A callback has come, or the request of the thread has failed. -/
def Settles (thread : Nat) (entry : Entry) : Prop := IsCallback entry ∨ Fails thread entry

/-- The request of the thread has been issued, has not failed, and no callback has
come since. -/
def Outstanding (thread : Nat) (journal : List Entry) : Prop :=
  Since (Issues thread) (Settles thread) journal

theorem Outstanding.unanswered {thread : Nat} {journal : List Entry}
    (outstanding : Outstanding thread journal) : Unanswered thread journal :=
  Since.mono (fun _ => .inl) outstanding

/-- A request fails only after a callback has come. -/
def FailsAnswered (earlier : List Entry) (entry : Entry) : Prop :=
  ∀ thread, Fails thread entry → ¬Outstanding thread earlier

/-- A manager that is busy has an outstanding request. -/
def BusyWithRequest (past : List Input) : Prop :=
  (System.machine.after .fresh past).manager.isConnectingOrDisconnecting = true →
    ∃ thread, Outstanding thread (journal past)

/-- The manager is busy with the one request that is not answered. -/
structure Explains (journal : List Entry) (system : System) : Prop where
  busy : system.manager.mSessionRunning = true ↔ ∃ thread, Unanswered thread journal
  unique : ∀ thread other, Unanswered thread journal → Unanswered other journal → thread = other

/-- The call starts no thread. -/
def Quiet (call : Call) : Prop := ∀ thread task, call ≠ .startThread thread task

/-- The input neither answers nor fails a request. -/
def IsNeutral (input : Input) : Prop := ∀ thread, ¬Settles thread (.inl input)

theorem IsNeutral.not_isCallback {input : Input} (neutral : IsNeutral input) :
    ¬IsCallback (.inl input) :=
  fun callback => neutral 0 (.inl callback)

/-- What a step does, as far as requests are concerned. -/
inductive Effect (system : System) (input : Input) : System × List Call → Prop
  | answered {next : System} {calls : List Call} (callback : IsCallback (.inl input))
      (idle : next.manager.mSessionRunning = false) (quiet : ∀ call ∈ calls, Quiet call) :
      Effect system input (next, calls)
  | issued {next : System} {calls : List Call} {thread : Nat} {task : Task}
      (neutral : IsNeutral input) (idle : system.manager.mSessionRunning = false)
      (busy : next.manager.mSessionRunning = true) (quiet : ∀ call ∈ calls, Quiet call) :
      Effect system input (next, calls ++ [.startThread thread task])
  | failed {next : System} {calls : List Call} {thread : Nat} (fails : Fails thread (.inl input))
      (same : next.manager.mSessionRunning = system.manager.mSessionRunning)
      (quiet : ∀ call ∈ calls, Quiet call) : Effect system input (next, calls)
  | unchanged {next : System} {calls : List Call} (neutral : IsNeutral input)
      (same : next.manager.mSessionRunning = system.manager.mSessionRunning)
      (quiet : ∀ call ∈ calls, Quiet call) : Effect system input (next, calls)

theorem effect_toggleConnection (system : System) (uuid : BitVec 128) :
    Effect system (.toggleConnection uuid)
      (System.machine.step system (.toggleConnection uuid)) := by
  have neutral : IsNeutral (.toggleConnection uuid) := by
    simp [IsNeutral, Settles, IsCallback, Fails]
  have method : System.machine.step system (.toggleConnection uuid) =
    system.afterMethod (system.manager.toggleConnection uuid system.started) := rfl
  rw [method]
  cases busy : system.manager.mSessionRunning with
  | true =>
      have ignored : system.manager.toggleConnection uuid system.started = (system.manager, []) :=
        if_pos busy
      rw [ignored]
      exact .unchanged neutral rfl (by simp)
  | false =>
      obtain ⟨calls, task, same, kills⟩ :=
        ConnectionManager.toggleConnection_idle busy uuid system.started
      rw [same]
      refine .issued neutral busy rfl fun call member => ?_
      obtain ⟨sessionId, sessionKey, rfl⟩ := kills call member
      simp [Quiet]

/-- A thread that wakes starts no other. -/
theorem wake_quiet (system : System) (thread : Nat) (serviceConnected : Bool) :
    (system.wake thread serviceConnected).1.manager = system.manager ∧
      ∀ call ∈ (system.wake thread serviceConnected).2, Quiet call := by
  rw [System.wake]
  cases system.threads.lookup thread with
  | none => exact ⟨rfl, by simp⟩
  | some task =>
      refine ⟨rfl, fun call member => ?_⟩
      have made : call = system.manager.clientCall thread task ∨ call = .toast thread := by
        dsimp only [ConnectionManager.runTask] at member
        split_ifs at member
        · exact .inl (List.mem_singleton.mp member)
        · simpa using member
      rcases made with rfl | rfl
      · cases task <;> simp [Quiet, ConnectionManager.clientCall]
      · simp [Quiet]

theorem effect_threadWakes (system : System) (thread : Nat) (serviceConnected : Bool) :
    Effect system (.threadWakes thread serviceConnected)
      (System.machine.step system (.threadWakes thread serviceConnected)) := by
  obtain ⟨same, quiet⟩ := wake_quiet system thread serviceConnected
  have running : (system.wake thread serviceConnected).1.manager.mSessionRunning =
      system.manager.mSessionRunning := congrArg ConnectionManager.mSessionRunning same
  cases serviceConnected with
  | true =>
      have neutral : IsNeutral (.threadWakes thread true) := by
        simp [IsNeutral, Settles, IsCallback, Fails]
      exact .unchanged neutral running quiet
  | false =>
      have fails : Fails thread (.inl (.threadWakes thread false)) := rfl
      exact .failed fails running quiet

/-- Every step has one of the four effects. -/
theorem effect_step (system : System) (input : Input) :
    Effect system input (System.machine.step system input) := by
  cases input with
  | toggleConnection uuid => exact effect_toggleConnection system uuid
  | onSessionStarted sessionId sessionKey =>
      refine .answered (.inl ⟨_, _, rfl⟩) rfl ?_
      simp [ConnectionManager.onSessionStarted, Quiet]
  | onSessionFinished =>
      refine .answered (.inr (.inl rfl)) rfl ?_
      simp [ConnectionManager.onSessionFinished, Quiet]
  | onSessionCancelled =>
      refine .answered (.inr (.inr rfl)) rfl ?_
      simp [ConnectionManager.onSessionCancelled, Quiet]
  | threadWakes thread serviceConnected =>
      exact effect_threadWakes system thread serviceConnected

section Steps

variable {journal : List Entry} {input : Input} {calls : List Call} {thread other : Nat}

/-- A call settles no request. -/
@[simp] theorem not_settles_inr (thread : Nat) (call : Call) : ¬Settles thread (.inr call) := by
  simp [Settles, Fails]

/-- Quiet calls change no condition on requests. -/
theorem since_quiet {closes : Entry → Prop} (calling : ∀ call ∈ calls, ¬closes (.inr call))
    (quiet : ∀ call ∈ calls, Quiet call) :
    Since (Issues thread) closes (journal ++ .inl input :: calls.map .inr) ↔
      Since (Issues thread) closes journal ∧ ¬closes (.inl input) := by
  have whole : journal ++ .inl input :: calls.map .inr =
      (journal ++ [.inl input]) ++ calls.map .inr := by simp
  rw [whole, since_append_of_neutral, since_concat]
  · simp [Issues]
  · intro entry member
    obtain ⟨call, here, rfl⟩ := List.mem_map.mp member
    refine ⟨?_, calling call here⟩
    rintro ⟨task, same⟩
    exact quiet call here thread task (Sum.inr.inj same)

theorem unanswered_quiet (user : ¬IsCallback (.inl input)) (quiet : ∀ call ∈ calls, Quiet call) :
    Unanswered thread (journal ++ .inl input :: calls.map .inr) ↔ Unanswered thread journal :=
  (since_quiet (fun call _ => not_isCallback_inr call) quiet).trans (and_iff_left user)

theorem outstanding_quiet (quiet : ∀ call ∈ calls, Quiet call) :
    Outstanding thread (journal ++ .inl input :: calls.map .inr) ↔
      Outstanding thread journal ∧ ¬Settles thread (.inl input) :=
  since_quiet (fun call _ => not_settles_inr thread call) quiet

/-- One more call after those of a step. -/
theorem journal_last (last : Call) :
    journal ++ .inl input :: (calls ++ [last]).map .inr =
      (journal ++ .inl input :: calls.map .inr) ++ [.inr last] := by
  rw [Machine.entries_concat, List.append_assoc]

theorem unanswered_issued {task : Task} (user : ¬IsCallback (.inl input))
    (quiet : ∀ call ∈ calls, Quiet call) :
    Unanswered other (journal ++ .inl input :: (calls ++ [Call.startThread thread task]).map .inr) ↔
      thread = other ∨ Unanswered other journal := by
  rw [journal_last, Unanswered, since_concat, ← Unanswered, unanswered_quiet user quiet]
  simp [Issues]

theorem outstanding_issued {task : Task} :
    Outstanding thread
      (journal ++ .inl input :: (calls ++ [Call.startThread thread task]).map .inr) := by
  rw [journal_last, Outstanding, since_concat]
  exact .inl ⟨task, rfl⟩

/-- A failure settles the request of its thread and no other. -/
theorem outstanding_failed (fails : Fails thread (.inl input))
    (quiet : ∀ call ∈ calls, Quiet call) :
    Outstanding other (journal ++ .inl input :: calls.map .inr) ↔
      Outstanding other journal ∧ thread ≠ other := by
  obtain rfl := Sum.inl.inj fails
  rw [outstanding_quiet quiet]
  simp [Settles, Fails, IsCallback]

theorem not_unanswered_of_callback (callback : IsCallback (.inl input))
    (quiet : ∀ call ∈ calls, Quiet call) :
    ¬Unanswered thread (journal ++ .inl input :: calls.map .inr) := by
  rw [Unanswered, since_quiet (fun call _ => not_isCallback_inr call) quiet]
  exact fun unanswered => unanswered.2 callback

end Steps

/-- A failure is no callback. -/
theorem Fails.not_isCallback {thread : Nat} {entry : Entry} (fails : Fails thread entry) :
    ¬IsCallback entry := by
  rw [fails]
  simp [IsCallback]

/-- One more step. -/
theorem Explains.step {journal : List Entry} {system : System} (explains : Explains journal system)
    {input : Input} {answer : System × List Call} (effect : Effect system input answer) :
    Explains (journal ++ .inl input :: answer.2.map .inr) answer.1 := by
  obtain ⟨busy, unique⟩ := explains
  cases effect with
  | answered callback idle quiet =>
      refine ⟨?_, fun thread other unanswered => ?_⟩
      · simp [idle, not_unanswered_of_callback callback quiet]
      · exact absurd unanswered (not_unanswered_of_callback callback quiet)
  | issued neutral idle now quiet =>
      have only : ∀ thread, ¬Unanswered thread journal := by
        simpa [idle] using busy
      have user := neutral.not_isCallback
      refine ⟨?_, ?_⟩
      · exact iff_of_true now ⟨_, (unanswered_issued user quiet).mpr (.inl rfl)⟩
      · simp only [unanswered_issued user quiet, only, or_false]
        rintro thread other rfl rfl
        rfl
  | failed fails same quiet =>
      refine ⟨?_, ?_⟩
      · simpa only [unanswered_quiet fails.not_isCallback quiet, same] using busy
      · simpa only [unanswered_quiet fails.not_isCallback quiet] using unique
  | unchanged neutral same quiet =>
      refine ⟨?_, ?_⟩
      · simpa only [unanswered_quiet neutral.not_isCallback quiet, same] using busy
      · simpa only [unanswered_quiet neutral.not_isCallback quiet] using unique

/-- Every run. -/
theorem explains_journal (inputs : List Input) :
    Explains (journal inputs) (System.machine.after .fresh inputs) := by
  refine Machine.journal_history Explains ⟨?_, ?_⟩ ?_ inputs
  · simp [System.fresh, ConnectionManager.fresh, Unanswered]
  · simp [Unanswered]
  · exact fun _ system input explains => explains.step (effect_step system input)

theorem journal_concat (past : List Input) (input : Input) :
    journal (past ++ [input]) = journal past ++ .inl input ::
      (System.machine.step (System.machine.after .fresh past) input).2.map .inr :=
  Machine.journal_concat System.machine .fresh past input

/-- In a step only the input can fail a request. -/
theorem always_failsAnswered_iff (journal : List Entry) (input : Input) (calls : List Call) :
    Always (fun before => FailsAnswered (journal ++ before)) (.inl input :: calls.map .inr) ↔
      FailsAnswered journal (.inl input) := by
  have silent : Always (fun before => FailsAnswered (journal ++ .inl input :: before))
      (calls.map .inr) := by
    apply always_of_forall
    rintro entry member before thread rfl
    simp at member
  rw [always_cons]
  simpa using fun _ => silent

/-- Only a failure can end a step with a busy manager and nothing outstanding. -/
theorem Explains.stuck_iff {journal : List Entry} {system : System}
    (explains : Explains journal system)
    (never : system.manager.mSessionRunning = true → ∃ thread, Outstanding thread journal)
    {input : Input} {answer : System × List Call} (effect : Effect system input answer) :
    (answer.1.manager.mSessionRunning = true →
        ∃ thread, Outstanding thread (journal ++ .inl input :: answer.2.map .inr)) ↔
      Always (fun before => FailsAnswered (journal ++ before))
        (.inl input :: answer.2.map .inr) := by
  rw [always_failsAnswered_iff]
  cases effect with
  | answered callback idle quiet =>
      refine iff_of_true (fun busy => ?_) fun thread fails => absurd callback fails.not_isCallback
      exact absurd (idle.symm.trans busy) Bool.false_ne_true
  | issued neutral idle now quiet =>
      exact iff_of_true (fun _ => ⟨_, outstanding_issued⟩)
        fun thread fails => absurd (.inr fails) (neutral thread)
  | unchanged neutral same quiet =>
      refine iff_of_true (fun busy => ?_) fun thread fails => absurd (.inr fails) (neutral thread)
      obtain ⟨thread, outstanding⟩ := never (same.symm.trans busy)
      exact ⟨thread, (outstanding_quiet quiet).mpr ⟨outstanding, neutral thread⟩⟩
  | @failed next calls failing fails same quiet =>
      have only : FailsAnswered journal (.inl input) ↔ ¬Outstanding failing journal := by
        obtain rfl := Sum.inl.inj fails
        constructor
        · exact fun answered => answered failing rfl
        · rintro answered thread again
          obtain ⟨rfl, -⟩ := Input.threadWakes.inj (Sum.inl.inj again)
          exact answered
      simp only [outstanding_failed fails quiet]
      rw [same, only]
      constructor
      · intro another outstanding
        have busy := explains.busy.mpr ⟨failing, outstanding.unanswered⟩
        obtain ⟨thread, open_, different⟩ := another busy
        exact different (explains.unique _ _ outstanding.unanswered open_.unanswered)
      · intro answered busy
        obtain ⟨thread, outstanding⟩ := never busy
        exact ⟨thread, outstanding, fun same => answered (same ▸ outstanding)⟩

/-- In every run, the manager is never busy without an outstanding request exactly
when no request fails before a callback has come. -/
theorem busyWithRequest_iff (inputs : List Input) :
    Throughout BusyWithRequest inputs ↔ Always FailsAnswered (journal inputs) := by
  induction inputs using List.reverseRecOn with
  | nil => exact iff_of_true (throughout_nil.mpr fun busy => by cases busy) always_nil
  | append_singleton past input inductionHypothesis =>
      have explains := explains_journal past
      have effect := effect_step (System.machine.after .fresh past) input
      rw [throughout_concat, journal_concat, always_append, ← inductionHypothesis,
        BusyWithRequest, Machine.after_append, journal_concat]
      apply and_congr_right
      intro never
      exact explains.stuck_iff never.last effect

/-- A connect that fails leaves the manager busy. -/
theorem connect_failure_stays_busy : ¬∀ inputs, Throughout BusyWithRequest inputs := by
  intro always
  let inputs : List Input := [.toggleConnection 7, .threadWakes 0 false]
  have made : journal inputs = [.inl (.toggleConnection 7), .inr (.startThread 0 (.connect 7)),
      .inl (.threadWakes 0 false), .inr (.connect 0 7 345), .inr (.toast 0)] := by decide
  obtain ⟨thread, outstanding⟩ := (always inputs).last (by decide)
  rw [made] at outstanding
  obtain ⟨same, -, other⟩ : 0 = thread ∧ _ ∧ ¬0 = thread := by
    simpa [Outstanding, Issues, Settles, Fails] using outstanding
  exact other same

end Openpyn.Connection
