import Openpyn.Management.Reading

/-!
# One call of `run`

`run` issues its start-up commands, hands every nonempty line to `parseInput` and
disconnects at the end of the stream. Its `try` statement names three exception
types; any other one leaves `run` before the clean-up. A line therefore does one
of three things: it lets the loop go on, it ends the session, or it escapes.
-/

namespace Openpyn.Management

open Foundation Java StringUtils

variable {L : Type}

/-- The calls of `disconnect` among the events of a run. -/
def Event.isDisconnect : Event L → Bool
  | .disconnect => true
  | _ => false

/-- The listener told of a disconnection. -/
def Event.disconnected : Event L → Option L
  | .onDisconnected listener => some listener
  | _ => none

namespace ManagementConnection

/-! ## The method -/

/-- The exceptions the `try` statement of `run` catches. -/
def caughtByRun (exception : Throwable) : Bool :=
  exception.isIOException || exception = .numberFormatException ||
    exception = .stringIndexOutOfBoundsException

/-- The body of the reading loop. -/
def readInput (c : ManagementConnection L) (line : JString) : Result L :=
  if line = [] then .done c else c.parseInput line

/-- The body of the `try` statement, when the server sends these lines and then
ends the stream. -/
def runBody (c : ManagementConnection L) (lines : List JString) : Result L :=
  (Completion.forEach managementCommand c Commands.startCommands).andThen fun c =>
    Completion.forEach readInput c lines

/-- The rest of `run` after the body of its `try` statement. -/
def finishRun (tried : Result L) : Result L :=
  (tried.catching caughtByRun).andThen fun c =>
    c.disconnect.andThen fun c => .done { c with isRunning := false }

/-- `run`. -/
def run (c : ManagementConnection L) (lines : List JString) : Result L :=
  if c.isConnected then finishRun (runBody { c with isRunning := true } lines)
  else .throw c (.runtimeException (.ioException Strings.socketIsNotConnected))

/-! ## What a line does to the loop -/

/-- The messages whose handling raises an exception that `run` does not catch. -/
def EscapesAs : Kind → JString → Prop
  | .unsupported, _ => True
  | .log, argument => argument.count (chr ',') < 2
  | .state, argument => argument.count (chr ',') < 5
  | .password, argument =>
      ∃ type, IsPrompt argument type ∧ type ≠ lit "Auth" ∧ type ≠ lit "Private Key"
  | _, _ => False

/-- The messages whose handling raises an exception that `run` catches, given
the level they meet. -/
def StopsAs (level : ConnectionStatus) : Kind → JString → Prop
  | .byteCount, argument => ∀ byteCount, ¬IsByteCount argument byteCount
  | .hold, argument =>
      startsWith argument Strings.waitingForHoldReleasePrefix = true ∧ level = .levelAuthFailed
  | .log, argument => ∃ date flag message,
      argument = date ++ chr ',' :: (flag ++ chr ',' :: message) ∧
        chr ',' ∉ date ∧ chr ',' ∉ flag ∧ IsBarePrefix message
  | .password, argument => IsBrokenPrompt argument
  | _, _ => False

/-- A line that leaves `run` at once. -/
def Escapes (line : JString) : Prop :=
  ∃ cmd argument, notification line = some (cmd, argument) ∧ EscapesAs (kindOf cmd) argument

/-- A line that ends the session. -/
def Stops (level : ConnectionStatus) (line : JString) : Prop :=
  ∃ cmd argument, notification line = some (cmd, argument) ∧ StopsAs level (kindOf cmd) argument

/-- No line escapes before one ends the session. -/
def Graceful : ConnectionStatus → List JString → Prop
  | _, [] => True
  | level, line :: rest =>
      ¬Escapes line ∧ (Stops level line ∨ Graceful (levelAfter level line) rest)

/-- The call threw, and `run` catches the exception or does not. -/
def Leaves (result : Result L) (caught : Bool) : Prop :=
  ∃ exception, result.thrown = some exception ∧ caughtByRun exception = caught

/-- The fields of a log message are determined by its commas. -/
private theorem stopsAs_log_iff {date flag message : JString} (dateFree : chr ',' ∉ date)
    (flagFree : chr ',' ∉ flag) (level : ConnectionStatus) :
    StopsAs level .log (date ++ chr ',' :: (flag ++ chr ',' :: message)) ↔
      IsBarePrefix message := by
  constructor
  · rintro ⟨date', flag', message', same, dateFree', flagFree', bare⟩
    have cut := splitAtMost_append_cons dateFree 1 (flag ++ chr ',' :: message)
    rw [same, splitAtMost_append_cons dateFree', splitAtMost_append_cons flagFree',
      splitAtMost_append_cons flagFree] at cut
    obtain ⟨-, -, rfl, -⟩ : date' = date ∧ flag' = flag ∧ message' = message ∧ True := by
      simpa [splitAtMost] using cut
    exact bare
  · exact fun bare => ⟨date, flag, message, rfl, dateFree, flagFree, bare⟩

/-- An established connection answers the two prompts it knows. -/
theorem answerPrompt_thrown {c : ManagementConnection L} (established : c.Established)
    (type : JString) :
    (c.answerPrompt type).thrown =
      if type = lit "Auth" ∨ type = lit "Private Key" then none
      else some (.unsupportedOperationException Strings.notSupportedYet) := by
  have asked : c.askCredentials.2.Established := by
    rw [(askCredentials_frame c).super]
    exact established
  unfold answerPrompt
  dsimp only
  by_cases auth : type = lit "Auth"
  · rw [if_pos auth, if_pos (.inl auth), managementCommand_established asked,
      Completion.emit_andThen, managementCommand_established asked]
    rfl
  · by_cases key : type = lit "Private Key"
    · rw [if_neg auth, if_pos key, if_pos (.inr key), managementCommand_established asked]
      rfl
    · rw [if_neg auth, if_neg key, if_neg (by rintro (same | same) <;> contradiction)]
      rfl

/-- A message escapes, ends the session or lets the loop go on. -/
def Ending (c : ManagementConnection L) (kind : Kind) (argument : JString) : Prop :=
  (EscapesAs kind argument ∧ Leaves (c.dispatch kind argument) false) ∨
    (¬EscapesAs kind argument ∧ StopsAs c.mLastLevel kind argument ∧
      Leaves (c.dispatch kind argument) true) ∨
    (¬EscapesAs kind argument ∧ ¬StopsAs c.mLastLevel kind argument ∧
      (c.dispatch kind argument).thrown = none)

theorem ending_byteCount (c : ManagementConnection L) (argument : JString) :
    Ending c .byteCount argument := by
  by_cases counts : ∃ byteCount, IsByteCount argument byteCount
  · obtain ⟨byteCount, counts⟩ := counts
    refine .inr (.inr ⟨id, fun malformed => malformed byteCount counts, ?_⟩)
    rw [dispatch, processByteCount_counts c counts]
    rfl
  · have malformed := not_exists.mp counts
    refine .inr (.inl ⟨id, malformed, ?_⟩)
    rcases processByteCount_malformed c malformed with bounds | number
    · exact ⟨_, congrArg Completion.thrown bounds, rfl⟩
    · exact ⟨_, congrArg Completion.thrown number, rfl⟩

theorem ending_hold (c : ManagementConnection L) (argument : JString) :
    Ending c .hold argument := by
  by_cases closing : startsWith argument Strings.waitingForHoldReleasePrefix = true ∧
      c.mLastLevel = .levelAuthFailed
  · refine .inr (.inl ⟨id, closing, .ioException streamClosed, ?_, rfl⟩)
    rw [dispatch, processHold, if_pos closing]
    rfl
  · refine .inr (.inr ⟨id, closing, ?_⟩)
    rw [dispatch, processHold, if_neg closing]
    rfl

theorem ending_log (c : ManagementConnection L) (argument : JString) :
    Ending c .log argument := by
  rcases Nat.lt_or_ge (argument.count (chr ',')) 2 with few | enough
  · exact .inl ⟨few, _, congrArg Completion.thrown (processLog_short c few), rfl⟩
  · have complete : ¬EscapesAs .log argument := Nat.not_lt.mpr enough
    obtain ⟨date, flag, message, rfl, dateFree, flagFree⟩ := log_fields enough
    rw [Ending, stopsAs_log_iff dateFree flagFree, dispatch,
      processLog_fields c dateFree flagFree]
    rcases logMessage_cases c date flag message with ⟨bare, failed⟩ | ⟨delivers, log, logged⟩
    · exact .inr (.inl ⟨complete, bare, _, congrArg Completion.thrown failed, rfl⟩)
    · exact .inr (.inr ⟨complete, delivers, congrArg Completion.thrown logged⟩)

/-- A prompt of a known type is answered, another one is not supported. -/
theorem ending_prompt {c : ManagementConnection L} (established : c.Established)
    {argument type : JString} (prompt : IsPrompt argument type) :
    Ending c .password argument := by
  have answer := answerPrompt_thrown established type
  rw [Ending, dispatch, processPassword_prompt c prompt]
  by_cases known : type = lit "Auth" ∨ type = lit "Private Key"
  · rw [if_pos known] at answer
    refine .inr (.inr ⟨fun escapes => ?_, not_isBrokenPrompt prompt, answer⟩)
    obtain ⟨other, otherPrompt, notAuth, notKey⟩ := escapes
    rw [← isPrompt_unique prompt otherPrompt] at notAuth notKey
    exact known.elim notAuth notKey
  · rw [if_neg known] at answer
    exact .inl ⟨⟨type, prompt, not_or.mp known⟩, _, answer, rfl⟩

theorem ending_password {c : ManagementConnection L} (established : c.Established)
    (argument : JString) : Ending c .password argument := by
  cases need : startsWith argument Strings.needPrefix with
  | false =>
      have noPrompt : ¬startsWith argument Strings.needPrefix = true := by simp [need]
      refine .inr (.inr ⟨fun escapes => ?_, fun broken => noPrompt broken.1, ?_⟩)
      · obtain ⟨type, prompt, -⟩ := escapes
        exact noPrompt prompt.1
      · rw [dispatch, processPassword_other c need]
        rfl
  | true =>
      rcases prompt_cases need with ⟨type, prompt⟩ | broken
      · exact ending_prompt established prompt
      · refine .inr (.inl ⟨fun escapes => ?_, broken, _,
          congrArg Completion.thrown (processPassword_broken c broken), rfl⟩)
        obtain ⟨type, prompt, -⟩ := escapes
        exact not_isBrokenPrompt prompt broken

theorem ending_state (c : ManagementConnection L) (argument : JString) :
    Ending c .state argument := by
  rw [Ending, dispatch, processState_eq]
  rcases readState_cases argument with ⟨enough, state, report⟩ | ⟨few, short⟩
  · refine .inr (.inr ⟨Nat.not_lt.mpr enough, id, ?_⟩)
    rw [report]
    dsimp only
    split_ifs <;> rfl
  · rw [short]
    exact .inl ⟨few, _, rfl, rfl⟩

/-- Every message has one of the three endings. -/
theorem dispatch_ending {c : ManagementConnection L} (established : c.Established) (kind : Kind)
    (argument : JString) : Ending c kind argument := by
  cases kind with
  | byteCount => exact ending_byteCount c argument
  | hold => exact ending_hold c argument
  | log => exact ending_log c argument
  | password => exact ending_password established argument
  | state => exact ending_state c argument
  | unsupported => exact .inl ⟨trivial, _, rfl, rfl⟩
  | ignored => exact .inr (.inr ⟨id, id, rfl⟩)

/-- The same for a line of the reading loop, which skips empty lines. -/
theorem readInput_ending {c : ManagementConnection L} (established : c.Established)
    (line : JString) :
    (Escapes line ∧ Leaves (c.readInput line) false) ∨
      (¬Escapes line ∧ Stops c.mLastLevel line ∧ Leaves (c.readInput line) true) ∨
      (¬Escapes line ∧ ¬Stops c.mLastLevel line ∧ (c.readInput line).thrown = none) := by
  have silent : notification line = none → ¬Escapes line ∧ ¬Stops c.mLastLevel line := by
    intro other
    constructor <;> rintro ⟨cmd, argument, decoded, -⟩ <;> rw [other] at decoded <;> cases decoded
  rcases line_cases line with rfl | ⟨nonempty, other⟩ | ⟨cmd, argument, decoded⟩
  · exact .inr (.inr ⟨(silent rfl).1, (silent rfl).2, rfl⟩)
  · refine .inr (.inr ⟨(silent other).1, (silent other).2, ?_⟩)
    rw [readInput, if_neg nonempty, parseInput_other c nonempty other]
    rfl
  · have nonempty : line ≠ [] := by
      rintro rfl
      cases decoded
    have escapes : Escapes line ↔ EscapesAs (kindOf cmd) argument := by
      simp [Escapes, decoded]
    have stops : Stops c.mLastLevel line ↔ StopsAs c.mLastLevel (kindOf cmd) argument := by
      simp [Stops, decoded]
    rw [escapes, stops, readInput, if_neg nonempty, parseInput_notification c decoded]
    exact dispatch_ending established (kindOf cmd) argument

/-! ## The loop -/

/-- What `parseInput` keeps, the reading loop's body keeps. -/
theorem readInput_effect (c : ManagementConnection L) (line : JString) :
    Frame c (c.readInput line).state ∧
      (c.readInput line).state.mLastLevel = levelAfter c.mLastLevel line ∧
      ∀ event ∈ (c.readInput line).emitted, event.IsReaction := by
  by_cases empty : line = []
  · subst empty
    exact ⟨Frame.refl c, rfl, by simp [readInput]⟩
  · rw [readInput, if_neg empty]
    obtain ⟨frame, level, -⟩ := parseInput_effect c line
    exact ⟨frame, level, parseInput_emitted c line⟩

/-- The start-up commands of an established connection are all written. -/
theorem startCommands_established {c : ManagementConnection L} (established : c.Established)
    (commands : List JString) :
    (Completion.forEach managementCommand c commands).state = c ∧
      (Completion.forEach managementCommand c commands).thrown = none := by
  induction commands with
  | nil => exact ⟨rfl, rfl⟩
  | cons command rest inductionHypothesis =>
      rw [Completion.forEach_cons, managementCommand_established established,
        Completion.emit_andThen]
      exact inductionHypothesis

/-- The body of `run` keeps the socket and calls neither `disconnect` nor the
connection listener. -/
theorem runBody_effect (c : ManagementConnection L) (lines : List JString) :
    Frame c (c.runBody lines).state ∧ ∀ event ∈ (c.runBody lines).emitted, event.IsReaction := by
  constructor
  · refine Completion.andThen_invariant (Frame c) ?_ ?_
    · refine Completion.forEach_invariant (Frame c) ?_ (Frame.refl c) _
      intro current command frame
      rw [managementCommand_state]
      exact frame
    · intro current frame
      refine Completion.forEach_invariant (Frame c) ?_ frame lines
      exact fun next line kept => kept.trans (readInput_effect next line).1
  · refine Completion.andThen_emitted ?_ ?_
    · refine Completion.forEach_emitted ?_ c _
      intro current command event member
      rcases managementCommand_emitted current command event member with rfl | ⟨text, rfl⟩ <;>
        exact ⟨.password, trivial⟩
    · intro current
      exact Completion.forEach_emitted (fun next line => (readInput_effect next line).2.2)
        current lines

/-- The reading loop of an established connection is caught when no line escapes
before one ends the session. -/
theorem readLoop_caught_iff {c : ManagementConnection L} (established : c.Established)
    (lines : List JString) :
    ((Completion.forEach readInput c lines).catching caughtByRun).thrown = none ↔
      Graceful c.mLastLevel lines := by
  rw [Completion.catching_returned_iff]
  induction lines generalizing c with
  | nil => simp [Graceful]
  | cons line rest inductionHypothesis =>
      obtain ⟨frame, level, -⟩ := readInput_effect c line
      rw [Completion.forEach_cons, Graceful]
      rcases readInput_ending established line with
        ⟨escapes, exception, threw, uncaught⟩ | ⟨stays, stops, exception, threw, caught⟩ |
          ⟨stays, goesOn, returned⟩
      · rw [Completion.andThen_of_thrown threw]
        constructor
        · intro handled
          rw [handled exception threw] at uncaught
          cases uncaught
        · exact fun graceful => absurd escapes graceful.1
      · rw [Completion.andThen_of_thrown threw]
        constructor
        · exact fun _ => ⟨stays, .inl stops⟩
        · intro _ other otherThrew
          rw [threw] at otherThrew
          exact Option.some.inj otherThrew ▸ caught
      · have kept : (c.readInput line).state.Established := by
          rw [frame.super]
          exact established
        have later := inductionHypothesis kept
        rw [level] at later
        rw [Completion.andThen_of_returned returned, later]
        constructor
        · exact fun graceful => ⟨stays, .inr graceful⟩
        · rintro ⟨-, stops | graceful⟩
          · exact absurd stops goesOn
          · exact graceful

/-- The same for the whole `try` statement. -/
theorem runBody_caught_iff {c : ManagementConnection L} (established : c.Established)
    (lines : List JString) :
    ((c.runBody lines).catching caughtByRun).thrown = none ↔ Graceful c.mLastLevel lines := by
  obtain ⟨same, returned⟩ := startCommands_established established Commands.startCommands
  rw [← readLoop_caught_iff established, runBody, Completion.andThen_of_returned returned, same,
    Completion.catching_returned_iff, Completion.catching_returned_iff]

/-! ## The clean-up -/

/-- The closed connection that `disconnect` leaves. -/
def closed (c : ManagementConnection L) : ManagementConnection L :=
  { c with
    mBufferedReader := some ⟨true, true⟩
    mBufferedWriter := some ⟨true, true⟩
    mSocket := some ⟨true, true⟩ }

/-- Disconnecting closes the socket and tells the connection listener. -/
theorem disconnect_established {c : ManagementConnection L} (established : c.Established) :
    c.disconnect =
      .emit c.closed (.disconnect :: c.mConnectionListener.toList.map .onDisconnected) := by
  have closes : c.onSuper c.closeQuietly = .done c.closed := by
    rw [onSuper, established.closeQuietly]
    rfl
  have notifies : c.closed.notifyConnection .onDisconnected =
      .emit c.closed (c.mConnectionListener.toList.map .onDisconnected) := by
    cases listening : c.mConnectionListener with
    | none => simp [notifyConnection, closed, listening, Completion.emit, Completion.done]
    | some listener => simp [notifyConnection, closed, listening]
  rw [disconnect, Completion.emit_andThen, closes, Completion.done_andThen, notifies]
  rfl

/-- What `run` promises at the end of the stream: it returns after exactly one
call of `disconnect`, which has closed the socket and told the listener. -/
structure EndsGracefully (c : ManagementConnection L) (result : Result L) : Prop where
  returns : result.thrown = none
  disconnects : (result.emitted.filter Event.isDisconnect).length = 1
  notifies : result.emitted.filterMap Event.disconnected = c.mConnectionListener.toList
  closes : result.state.isConnected = false
  stops : result.state.isRunning = false

/-- How `run` fails when a line escapes: the socket stays open, the listener is
told nothing and the instance still counts as running. -/
structure EndsAbruptly (c : ManagementConnection L) (result : Result L) : Prop where
  throws : Leaves result false
  keepsConnection : result.emitted.filter Event.isDisconnect = []
  tellsNobody : result.emitted.filterMap Event.disconnected = []
  staysOpen : result.state.toAbstractConnection = c.toAbstractConnection
  staysRunning : result.state.isRunning = true

/-- A disconnection is one call and one notice. -/
private theorem disconnect_events (listener : Option L) :
    (((.disconnect :: listener.toList.map .onDisconnected : List (Event L)).filter
        Event.isDisconnect).length = 1) ∧
      (.disconnect :: listener.toList.map .onDisconnected : List (Event L)).filterMap
        Event.disconnected = listener.toList := by
  cases listener <;> exact ⟨rfl, rfl⟩

/-- The body of `run` disconnects nothing. -/
private theorem reactions_silent {events : List (Event L)}
    (reactions : ∀ event ∈ events, event.IsReaction) :
    events.filter Event.isDisconnect = [] ∧ events.filterMap Event.disconnected = [] := by
  constructor
  · rw [List.filter_eq_nil_iff]
    intro event member
    obtain ⟨kind, own⟩ := reactions event member
    cases event with
    | disconnect => cases kind <;> cases own
    | _ => exact Bool.false_ne_true
  · rw [List.filterMap_eq_nil_iff]
    intro event member
    obtain ⟨kind, own⟩ := reactions event member
    cases event with
    | onDisconnected listener => cases kind <;> cases own
    | _ => rfl

/-- `run` on an established connection, by the lines it reads. -/
theorem run_cases {c : ManagementConnection L} (established : c.Established)
    (lines : List JString) :
    (Graceful c.mLastLevel lines ∧ EndsGracefully c (c.run lines)) ∨
      (¬Graceful c.mLastLevel lines ∧ EndsAbruptly c (c.run lines)) := by
  let running : ManagementConnection L := { c with isRunning := true }
  have caught : ((running.runBody lines).catching caughtByRun).thrown = none ↔
      Graceful c.mLastLevel lines := runBody_caught_iff (c := running) established lines
  obtain ⟨frame, reactions⟩ := runBody_effect running lines
  obtain ⟨noDisconnect, noNotice⟩ := reactions_silent reactions
  have unfolded : c.run lines = finishRun (running.runBody lines) := by
    rw [run, if_pos established.isConnected]
  by_cases graceful : Graceful c.mLastLevel lines
  · left
    have still : (running.runBody lines).state.Established := by
      rw [frame.super]
      exact established
    have ended := disconnect_established still
    rw [frame.connectionListener] at ended
    rw [unfolded, finishRun, Completion.andThen_of_returned (caught.mpr graceful)]
    dsimp only [Completion.catching_state, Completion.catching_emitted]
    rw [ended, Completion.emit_andThen]
    obtain ⟨once, notice⟩ := disconnect_events c.mConnectionListener
    refine ⟨graceful, rfl, ?_, ?_, rfl, rfl⟩
    · dsimp only [Completion.done_emitted]
      rw [List.append_nil, List.filter_append, noDisconnect]
      exact once
    · dsimp only [Completion.done_emitted]
      rw [List.append_nil, List.filterMap_append, noNotice]
      exact notice
  · right
    have uncaught := mt caught.mp graceful
    obtain ⟨exception, threw⟩ := Option.ne_none_iff_exists'.mp uncaught
    rw [unfolded, finishRun, Completion.andThen_of_thrown threw]
    refine ⟨graceful, ⟨exception, threw, ?_⟩, noDisconnect, noNotice, frame.super, frame.running⟩
    have kept := (Option.filter_eq_some_iff.mp threw).2
    simpa using kept

/-- `run` ends as it should exactly when no line escapes before the session
ends. -/
theorem run_endsGracefully_iff {c : ManagementConnection L} (established : c.Established)
    (lines : List JString) :
    EndsGracefully c (c.run lines) ↔ Graceful c.mLastLevel lines := by
  rcases run_cases established lines with ⟨graceful, ended⟩ | ⟨escapes, abrupt⟩
  · exact ⟨fun _ => graceful, fun _ => ended⟩
  · constructor
    · intro ended
      obtain ⟨exception, threw, -⟩ := abrupt.throws
      rw [ended.returns] at threw
      cases threw
    · exact fun graceful => absurd graceful escapes

/-- A start-up followed by one state report is graceful. -/
theorem run_endsGracefully_report :
    EndsGracefully (opened (lit "localhost") 7505 : ManagementConnection Unit)
        ((opened (lit "localhost") 7505).run [lit ">STATE:1,WAIT,,,,"]) ↔
      Graceful .levelNotConnected [lit ">STATE:1,WAIT,,,,"] :=
  run_endsGracefully_iff (opened_established (lit "localhost") 7505) [lit ">STATE:1,WAIT,,,,"]

/-- A log message without its two commas leaves `run` with an exception. -/
theorem run_shortLog :
    (opened (lit "localhost") 7505 : ManagementConnection Unit).Established ∧
      ¬EndsGracefully (opened (lit "localhost") 7505 : ManagementConnection Unit)
        ((opened (lit "localhost") 7505).run [lit ">LOG:x"]) := by
  refine ⟨opened_established (lit "localhost") 7505, fun ended => ?_⟩
  have threw : ((opened (lit "localhost") 7505 : ManagementConnection Unit).run
      [lit ">LOG:x"]).thrown = some .arrayIndexOutOfBoundsException := by decide
  rw [ended.returns] at threw
  cases threw

end ManagementConnection
end Openpyn.Management
