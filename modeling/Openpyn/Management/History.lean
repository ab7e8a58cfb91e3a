import Mathlib.Data.List.Nodup
import Openpyn.Foundation.Machine
import Openpyn.Management.Reading

/-!
# The history behind the level

The purpose of `mLastLevel` is to remember the states OpenVPN went through. The
history of accepted states says what it stands for: `WAIT` and `AUTH` are
rejected while the last accepted state is `CONNECTED`, and every other state is
accepted. The reader keeps one level in place of that history, and the level
still decides every question as the history would.
-/

namespace Openpyn.Management

open Foundation Java

variable {L : Type}

/-! ## The history -/

/-- The fields of a report, by position. -/
def State.fields (state : State) : List JString :=
  [state.date, state.name, state.message, state.localAddress, state.remoteAddress,
    state.remotePort]

/-- A state line: `>STATE:` and fields between commas, the first six of which
are the state's; a later version may send more. -/
def Reports (line : JString) (state : State) : Prop :=
  ∃ more : List JString, line = lit ">STATE:" ++ [chr ','].intercalate (state.fields ++ more) ∧
    ∀ field ∈ state.fields ++ more, chr ',' ∉ field

/-- A state that does not enter the history. -/
def Rejected (accepted : List State) (state : State) : Prop :=
  (state.name = lit "WAIT" ∨ state.name = lit "AUTH") ∧
    ∃ last ∈ accepted.getLast?, last.name = lit "CONNECTED"

instance (accepted : List State) (state : State) : Decidable (Rejected accepted state) := by
  unfold Rejected
  infer_instance

/-- The states that were accepted while the lines arrived, in order. -/
inductive History : List JString → List State → Prop where
  | start : History [] []
  | accepts {lines : List JString} {accepted : List State} {line : JString} {state : State}
      (before : History lines accepted) (report : Reports line state)
      (good : ¬Rejected accepted state) : History (lines ++ [line]) (accepted ++ [state])
  | rejects {lines : List JString} {accepted : List State} {line : JString} {state : State}
      (before : History lines accepted) (report : Reports line state)
      (bad : Rejected accepted state) : History (lines ++ [line]) accepted
  | silent {lines : List JString} {accepted : List State} {line : JString}
      (before : History lines accepted) (other : ∀ state, ¬Reports line state) :
      History (lines ++ [line]) accepted

/-- The last accepted state is one of a connection that works or comes up. -/
def ShowsActivity (accepted : List State) : Prop :=
  ∃ last ∈ accepted.getLast?,
    last.name ≠ lit "DISCONNECTED" ∧ last.name ≠ lit "EXITING" ∧
      ¬(last.name = lit "RECONNECTING" ∧ last.message = lit "auth-failure")

/-- The last accepted state is a failed authentication. -/
def ShowsAuthFailure (accepted : List State) : Prop :=
  ∃ last ∈ accepted.getLast?,
    last.name = lit "RECONNECTING" ∧ last.message = lit "auth-failure"

/-! ## The history, computed -/

/-- A report is read exactly as the fields it is made of. -/
theorem ManagementConnection.readState_eq_ok_iff (argument : JString) (state : State) :
    readState argument = .ok state ↔
      ∃ more : List JString, argument = [chr ','].intercalate (state.fields ++ more) ∧
        ∀ field ∈ state.fields ++ more, chr ',' ∉ field := by
  constructor
  · intro read
    have joined : [chr ','].intercalate (argument.splitOn (chr ',')) = argument :=
      List.intercalate_splitOn (chr ',')
    have free : ∀ field ∈ argument.splitOn (chr ','), chr ',' ∉ field :=
      fun _ member => notMem_of_mem_splitOn member
    rcases readState_cases argument with ⟨enough, -⟩ | ⟨-, short⟩
    · have size := length_splitOn (chr ',') argument
      rcases cut : argument.splitOn (chr ',') with _ | ⟨date, _ | ⟨name, _ | ⟨message,
        _ | ⟨localAddress, _ | ⟨remoteAddress, _ | ⟨remotePort, more⟩⟩⟩⟩⟩⟩
      -- six fields are there
      iterate 6
        · rw [cut] at size
          simp only [List.length_nil, List.length_cons] at size
          omega
      rw [cut] at joined free
      have fields := readState_fields (List.cons_ne_nil _ _) free rfl
      rw [joined, read] at fields
      obtain rfl := Except.ok.inj fields
      exact ⟨more, joined.symm, free⟩
    · rw [read] at short
      cases short
  · rintro ⟨more, rfl, free⟩
    exact readState_fields (List.cons_ne_nil _ _) free rfl

/-- The state a line is read as is the state it reports. -/
theorem stateReport_eq_some_iff (line : JString) (state : State) :
    stateReport line = some state ↔ Reports line state := by
  have decoded : ∀ argument, notification (lit ">STATE:" ++ argument) =
      some (lit "STATE", argument) := by
    intro argument
    exact (notification_eq_some_iff _ _ _).mpr ⟨rfl, by decide⟩
  have read : ∀ argument, stateReport (lit ">STATE:" ++ argument) =
      (ManagementConnection.readState argument).toOption := by
    intro argument
    exact ManagementConnection.stateReport_of_state (decoded argument)
      ((kindOf_eq_state_iff _).mpr rfl)
  have value : ∀ argument,
      (ManagementConnection.readState argument).toOption = some state ↔
        ManagementConnection.readState argument = .ok state := by
    intro argument
    cases ManagementConnection.readState argument <;> simp [Except.toOption]
  constructor
  · intro report
    cases message : notification line with
    | none => simp [stateReport, message] at report
    | some decoding =>
        by_cases kind : kindOf decoding.1 = .state
        · obtain ⟨shape, -⟩ := (notification_eq_some_iff line decoding.1 decoding.2).mp message
          rw [(kindOf_eq_state_iff _).mp kind] at shape
          have spelled : line = lit ">STATE:" ++ decoding.2 := shape
          rw [spelled, read, value, ManagementConnection.readState_eq_ok_iff] at report
          obtain ⟨more, fields, free⟩ := report
          exact ⟨more, by rw [spelled, fields], free⟩
        · rw [ManagementConnection.stateReport_of_ne message kind] at report
          cases report
  · rintro ⟨more, rfl, free⟩
    rw [read, value, ManagementConnection.readState_eq_ok_iff]
    exact ⟨more, rfl, free⟩

/-- One more reported state. -/
def accept (accepted : List State) (state : State) : List State :=
  if Rejected accepted state then accepted else accepted ++ [state]

/-- The accepted states of the lines, in order. -/
def acceptedStates (lines : List JString) : List State :=
  (lines.filterMap stateReport).foldl accept []

theorem acceptedStates_append_report (lines : List JString) {line : JString} {state : State}
    (report : stateReport line = some state) :
    acceptedStates (lines ++ [line]) = accept (acceptedStates lines) state := by
  simp [acceptedStates, report]

theorem acceptedStates_append_silent (lines : List JString) {line : JString}
    (silent : stateReport line = none) :
    acceptedStates (lines ++ [line]) = acceptedStates lines := by
  simp [acceptedStates, silent]

/-- The computed states are a history. -/
theorem history_acceptedStates (lines : List JString) :
    History lines (acceptedStates lines) := by
  induction lines using List.reverseRecOn with
  | nil => exact .start
  | append_singleton lines line inductionHypothesis =>
      cases report : stateReport line with
      | none =>
          rw [acceptedStates_append_silent lines report]
          refine .silent inductionHypothesis fun state reports => ?_
          rw [(stateReport_eq_some_iff line state).mpr reports] at report
          cases report
      | some state =>
          have reports := (stateReport_eq_some_iff line state).mp report
          rw [acceptedStates_append_report lines report, accept]
          split_ifs with bad
          · exact .rejects inductionHypothesis reports bad
          · exact .accepts inductionHypothesis reports bad

/-- Lines have no other history. -/
theorem History.eq_acceptedStates {lines : List JString} {accepted : List State}
    (history : History lines accepted) : accepted = acceptedStates lines := by
  induction history with
  | start => rfl
  | accepts before report good inductionHypothesis =>
      rw [acceptedStates_append_report _ ((stateReport_eq_some_iff _ _).mpr report), accept,
        ← inductionHypothesis, if_neg good]
  | rejects before report bad inductionHypothesis =>
      rw [acceptedStates_append_report _ ((stateReport_eq_some_iff _ _).mpr report), accept,
        ← inductionHypothesis, if_pos bad]
  | @silent lines accepted line before other inductionHypothesis =>
      have unread : stateReport line = none := by
        rw [Option.eq_none_iff_forall_ne_some]
        exact fun state read => other state ((stateReport_eq_some_iff line state).mp read)
      rw [acceptedStates_append_silent _ unread, inductionHypothesis]

/-- The level the history stands for. -/
def levelOf (accepted : List State) : ConnectionStatus :=
  (accepted.getLast?.map State.level).getD .levelNotConnected

/-! ## The level decides like the history -/

@[simp] theorem levelOf_concat (accepted : List State) (state : State) :
    levelOf (accepted ++ [state]) = state.level := by
  simp [levelOf]

/-- Every question about the level is a question about the last accepted state. -/
private theorem levelOf_eq_iff (accepted : List State) {level : ConnectionStatus}
    (active : level ≠ .levelNotConnected) :
    levelOf accepted = level ↔ ∃ last ∈ accepted.getLast?, last.level = level := by
  cases last : accepted.getLast? with
  | none => simp [levelOf, last, active.symm]
  | some state => simp [levelOf, last]

/-- The level rejects what the history rejects. -/
theorem isIgnored_levelOf_iff (accepted : List State) (state : State) :
    ManagementConnection.isIgnored (levelOf accepted) state ↔ Rejected accepted state := by
  unfold ManagementConnection.isIgnored
  rw [levelOf_eq_iff accepted (by decide), and_comm]
  simp only [State.level, VpnStatus.getLevel_eq_connected_iff]
  rfl

theorem levelOf_eq_authFailed_iff (accepted : List State) :
    levelOf accepted = .levelAuthFailed ↔ ShowsAuthFailure accepted := by
  rw [levelOf_eq_iff accepted (by decide)]
  simp only [State.level, VpnStatus.getLevel_eq_authFailed_iff]
  rfl

theorem levelOf_eq_notConnected_iff (accepted : List State) :
    levelOf accepted = .levelNotConnected ↔
      ∀ last ∈ accepted.getLast?,
        last.name = VpnStatus.disconnected ∨ last.name = VpnStatus.exiting := by
  cases last : accepted.getLast? with
  | none => simp [levelOf, last]
  | some state => simp [levelOf, last, State.level, VpnStatus.getLevel_eq_notConnected_iff]

/-- The level is active exactly when the history shows activity. -/
theorem active_levelOf_iff (accepted : List State) :
    levelOf accepted ≠ .levelNotConnected ∧ levelOf accepted ≠ .levelAuthFailed ↔
      ShowsActivity accepted := by
  rw [ne_eq, ne_eq, levelOf_eq_notConnected_iff, levelOf_eq_authFailed_iff, ShowsActivity,
    ShowsAuthFailure]
  cases accepted.getLast? with
  | none => simp
  | some state =>
      simp only [Option.mem_some, forall_eq', exists_eq_left', not_or, and_assoc]
      rfl

/-- The history stands for the level after each line. -/
theorem levelAfter_levelOf (lines : List JString) (line : JString) :
    levelAfter (levelOf (acceptedStates lines)) line =
      levelOf (acceptedStates (lines ++ [line])) := by
  cases report : stateReport line with
  | none => rw [acceptedStates_append_silent lines report,
        ManagementConnection.levelAfter_of_none report]
  | some state =>
      rw [acceptedStates_append_report lines report, levelAfter, report, accept]
      by_cases rejected : Rejected (acceptedStates lines) state
      · rw [if_pos rejected]
        exact if_pos ((isIgnored_levelOf_iff _ _).mpr rejected)
      · rw [if_neg rejected, levelOf_concat]
        exact if_neg (mt (isIgnored_levelOf_iff _ _).mp rejected)

namespace ManagementConnection

/-! ## Reading lines -/

/-- Lines are handed to `parseInput` one after another. -/
def reader : Machine (ManagementConnection L) JString (Result L) where
  step c line := ((c.parseInput line).state, c.parseInput line)

/-- The state deliveries among the calls of several completions. -/
def deliveries (results : List (Result L)) : List (L × State) :=
  results.flatMap fun result => result.emitted.filterMap Event.stateDelivery

/-- The states one listener received. -/
def received [DecidableEq L] (listener : L) (delivered : List (L × State)) : List State :=
  (delivered.filter fun delivery => delivery.1 = listener).map Prod.snd

/-- A delivery round gives every listener the state once. -/
theorem received_round [DecidableEq L] {listeners : Listeners L} {listener : L}
    (registered : listener ∈ listeners.toList) (states : List State) :
    received listener (states.flatMap fun state =>
      listeners.toList.map fun listener => (listener, state)) = states := by
  have once : ∀ state : State,
      ((listeners.toList.map fun other => (other, state)).filter
        fun delivery => delivery.1 = listener) = [(listener, state)] := by
    intro state
    rw [List.filter_map]
    have only : listeners.toList.filter (fun other => decide (other = listener)) = [listener] := by
      rw [List.filter_eq, List.count_eq_one_of_mem listeners.nodup registered]
      rfl
    exact congrArg (List.map fun other => (other, state)) only
  induction states with
  | nil => rfl
  | cons state rest inductionHypothesis =>
      simp only [received, List.flatMap_cons, List.filter_append, once, List.map_cons,
        List.singleton_append] at inductionHypothesis ⊢
      rw [inductionHypothesis]

/-- What the reader owes to the lines it has read. -/
structure Remembers (start : ManagementConnection L) (lines : List JString)
    (results : List (Result L)) (c : ManagementConnection L) : Prop where
  level : c.mLastLevel = levelOf (acceptedStates lines)
  listeners : c.mStateManager = start.mStateManager
  delivered : deliveries results = (acceptedStates lines).flatMap fun state =>
    start.mStateManager.toList.map fun listener => (listener, state)

/-- Every run of the reader remembers its history in the level. -/
theorem reader_remembers {start : ManagementConnection L}
    (begins : start.mLastLevel = .levelNotConnected) (lines : List JString) :
    Remembers start lines (reader.outputs start lines) (reader.after start lines) := by
  refine Machine.history (Remembers start) ⟨begins, rfl, rfl⟩ ?_ lines
  intro past results c line remembers
  obtain ⟨frame, level, calls⟩ := parseInput_effect c line
  refine ⟨?_, frame.stateManager.trans remembers.listeners, ?_⟩
  · calc
      (c.parseInput line).state.mLastLevel = levelAfter c.mLastLevel line := level
      _ = levelOf (acceptedStates (past ++ [line])) := by
          rw [remembers.level, levelAfter_levelOf]
  · have appended : deliveries (results ++ [c.parseInput line]) =
        deliveries results ++ (c.parseInput line).emitted.filterMap Event.stateDelivery := by
      simp [deliveries]
    refine appended.trans ?_
    rw [calls, remembers.delivered]
    cases report : stateReport line with
    | none => rw [acceptedStates_append_silent past report, List.append_nil]
    | some state =>
        rw [acceptedStates_append_report past report, remembers.level, remembers.listeners, accept]
        by_cases rejected : Rejected (acceptedStates past) state
        · simp [if_pos rejected, if_pos ((isIgnored_levelOf_iff _ _).mpr rejected)]
        · simp [if_neg rejected, if_neg (mt (isIgnored_levelOf_iff _ _).mp rejected)]

/-- The reader behaves as the history of accepted states says: in what its
listeners received, in whether it is active, and in whether a hold ends it. No
other line matters. -/
structure FollowsHistory [DecidableEq L] (start : ManagementConnection L) (lines : List JString)
    (accepted : List State) : Prop where
  delivers : ∀ listener ∈ start.mStateManager.toList,
    received listener (deliveries (reader.outputs start lines)) = accepted
  active : (reader.after start lines).isOpenVPNActive = true ↔ ShowsActivity accepted
  hold : ∀ line, lit ">HOLD:Waiting for hold release" <+: line →
    (ShowsAuthFailure accepted →
        ((reader.after start lines).parseInput line).thrown = some (.ioException streamClosed)) ∧
      (¬ShowsAuthFailure accepted →
        ((reader.after start lines).parseInput line).thrown = none)
  others : ∀ line, ¬lit ">STATE:" <+: line →
    History (lines ++ [line]) accepted ∧
      deliveries [(reader.after start lines).parseInput line] = [] ∧
      ((reader.after start lines).parseInput line).state.mLastLevel =
        (reader.after start lines).mLastLevel

/-- A line with another start reports nothing. -/
theorem stateReport_of_other_start {line : JString} (other : ¬lit ">STATE:" <+: line) :
    stateReport line = none := by
  rw [Option.eq_none_iff_forall_ne_some]
  intro state read
  obtain ⟨more, rfl, -⟩ := (stateReport_eq_some_iff line state).mp read
  exact other ⟨_, rfl⟩

/-- From a fresh level on, the reader follows the history of its lines, whatever
they are. -/
theorem reader_followsHistory [DecidableEq L] {start : ManagementConnection L}
    (begins : start.mLastLevel = .levelNotConnected) (lines : List JString) :
    (∃ accepted, History lines accepted) ∧
      ∀ accepted, History lines accepted → FollowsHistory start lines accepted := by
  refine ⟨⟨_, history_acceptedStates lines⟩, fun accepted history => ?_⟩
  obtain rfl := history.eq_acceptedStates
  have remembers := reader_remembers begins lines
  refine ⟨fun listener registered => ?_, ?_, ?_, fun line other => ?_⟩
  · rw [remembers.delivered]
    exact received_round registered (acceptedStates lines)
  · rw [isOpenVPNActive, remembers.level, Bool.and_eq_true, decide_eq_true_iff,
      decide_eq_true_iff]
    exact active_levelOf_iff (acceptedStates lines)
  · rintro _ ⟨more, rfl⟩
    have closing := levelOf_eq_authFailed_iff (acceptedStates lines)
    rw [← remembers.level] at closing
    have decoded : notification (lit ">HOLD:Waiting for hold release" ++ more) =
        some (lit "HOLD", Strings.waitingForHoldReleasePrefix ++ more) :=
      (notification_eq_some_iff _ _ _).mpr ⟨rfl, by decide⟩
    have branch : kindOf (lit "HOLD") = .hold := by decide
    have waiting : startsWith (Strings.waitingForHoldReleasePrefix ++ more)
        Strings.waitingForHoldReleasePrefix = true := (startsWith_iff _ _).mpr ⟨more, rfl⟩
    rw [parseInput_notification _ decoded, branch, dispatch, processHold]
    constructor
    · intro failed
      rw [if_pos ⟨waiting, closing.mpr failed⟩]
      rfl
    · intro working
      rw [if_neg fun guard => working (closing.mp guard.2)]
      rfl
  · have silent := stateReport_of_other_start other
    obtain ⟨-, level, calls⟩ := parseInput_effect (reader.after start lines) line
    refine ⟨?_, ?_, ?_⟩
    · rw [← acceptedStates_append_silent lines silent]
      exact history_acceptedStates (lines ++ [line])
    · rw [silent] at calls
      simpa [deliveries] using calls
    · rw [level, levelAfter_of_none silent]

/-- A connection with one state listener. -/
def listened : ManagementConnection Unit :=
  { opened (lit "localhost") 7505 with mStateManager := ⟨[()], List.nodup_singleton ()⟩ }

/-- A connection that comes up and later fails to authenticate again. -/
def failureReports : List JString :=
  [lit ">STATE:1,CONNECTED,SUCCESS,,,", lit ">STATE:2,WAIT,,,,",
    lit ">STATE:3,RECONNECTING,auth-failure,,,"]

/-- The listener receives two of the three states: while the connection is up a
wait is dropped. After the failed authentication a hold ends the reading. -/
theorem reader_followsHistory_failure :
    received () (deliveries (reader.outputs listened failureReports)) =
        [⟨lit "1", lit "CONNECTED", lit "SUCCESS", [], [], []⟩,
          ⟨lit "3", lit "RECONNECTING", lit "auth-failure", [], [], []⟩] ∧
      (reader.after listened failureReports).isOpenVPNActive = false ∧
      ((reader.after listened failureReports).parseInput
        (lit ">HOLD:Waiting for hold release")).thrown = some (.ioException streamClosed) := by
  let up : State := ⟨lit "1", lit "CONNECTED", lit "SUCCESS", [], [], []⟩
  let waiting : State := ⟨lit "2", lit "WAIT", [], [], [], []⟩
  let failure : State := ⟨lit "3", lit "RECONNECTING", lit "auth-failure", [], [], []⟩
  have connected : History [lit ">STATE:1,CONNECTED,SUCCESS,,,"] [up] :=
    .accepts .start ⟨[], by decide, by decide⟩ (by decide)
  have dropped : Reports (lit ">STATE:2,WAIT,,,,") waiting := ⟨[], by decide, by decide⟩
  have failed : History failureReports [up, failure] :=
    .accepts (.rejects connected dropped (by decide)) ⟨[], by decide, by decide⟩ (by decide)
  have follows : FollowsHistory listened failureReports [up, failure] :=
    (reader_followsHistory rfl failureReports).2 _ failed
  refine ⟨follows.delivers () (List.mem_singleton.mpr rfl), ?_,
    (follows.hold _ List.prefix_rfl).1 ?_⟩
  · rw [← Bool.not_eq_true, follows.active]
    rintro ⟨last, final, -, -, working⟩
    obtain rfl := Option.some.inj final
    exact working ⟨rfl, rfl⟩
  · exact ⟨failure, rfl, rfl, rfl⟩

end ManagementConnection

end Openpyn.Management
