import Openpyn.Management.ManagementConnection

/-!
# Reading one line

What one line does to the connection, method by method: which part of the state
it can touch, which states it reports, which calls it makes and how it ends. The
laws about sessions are assembled from these facts and unfold no method again.
-/

namespace Openpyn.Management

open Foundation Java StringUtils

variable {L : Type}

/-- The state a line reports, if it is a `STATE` message with enough fields. -/
def stateReport (line : JString) : Option State :=
  match notification line with
  | some (cmd, argument) =>
      if kindOf cmd = .state then (ManagementConnection.readState argument).toOption else none
  | none => none

/-- The level after a line. -/
def levelAfter (level : ConnectionStatus) (line : JString) : ConnectionStatus :=
  match stateReport line with
  | some state => if ManagementConnection.isIgnored level state then level else state.level
  | none => level

/-- The delivery of a state to a listener. -/
def Event.stateDelivery : Event L → Option (L × State)
  | .onStateChanged listener state => some (listener, state)
  | _ => none

/-- The command of a call of `managementCommand`. -/
def Event.issued : Event L → Option JString
  | .managementCommand command => some command
  | _ => none

/-- The text a call puts on the wire. -/
def Event.written : Event L → Option JString
  | .write text => some text
  | _ => none

/-- The calls that a message of one kind can lead to. -/
def Event.OfKind : Kind → Event L → Prop
  | .byteCount, .setByteCount _ => True
  | .log, .onLog _ _ => True
  | .password, .managementCommand _ => True
  | .password, .write _ => True
  | .state, .onStateChanged _ _ => True
  | _, _ => False

theorem Event.OfKind.stateDelivery {kind : Kind} {event : Event L} (own : event.OfKind kind)
    (other : kind ≠ .state) : event.stateDelivery = none := by
  cases event with
  | onStateChanged listener state => cases kind <;> first | exact absurd rfl other | cases own
  | _ => rfl

/-- Only a prompt leads to commands. -/
theorem Event.OfKind.silent {kind : Kind} {event : Event L} (own : event.OfKind kind)
    (other : kind ≠ .password) : event.issued = none ∧ event.written = none := by
  cases event with
  | managementCommand command => cases kind <;> first | exact absurd rfl other | cases own
  | write text => cases kind <;> first | exact absurd rfl other | cases own
  | _ => exact ⟨rfl, rfl⟩

/-- The calls that handling a line can make. -/
def Event.IsReaction (event : Event L) : Prop := ∃ kind, event.OfKind kind

namespace ManagementConnection

/-- Handling a line leaves the socket, the listeners and the running flag alone. -/
structure Frame (before after : ManagementConnection L) : Prop where
  super : after.toAbstractConnection = before.toAbstractConnection
  running : after.isRunning = before.isRunning
  connectionListener : after.mConnectionListener = before.mConnectionListener
  logManager : after.mLogManager = before.mLogManager
  stateManager : after.mStateManager = before.mStateManager

namespace Frame

variable {c first second third : ManagementConnection L}

theorem refl (c : ManagementConnection L) : Frame c c := ⟨rfl, rfl, rfl, rfl, rfl⟩

theorem trans (one : Frame first second) (two : Frame second third) : Frame first third where
  super := two.super.trans one.super
  running := two.running.trans one.running
  connectionListener := two.connectionListener.trans one.connectionListener
  logManager := two.logManager.trans one.logManager
  stateManager := two.stateManager.trans one.stateManager

end Frame

/-! ## Decoding -/

/-- A real-time message goes to the branch of its name. -/
theorem parseInput_notification (c : ManagementConnection L) {line cmd argument : JString}
    (decoded : notification line = some (cmd, argument)) :
    c.parseInput line = c.dispatch (kindOf cmd) argument := by
  obtain ⟨rfl, absent⟩ := (notification_eq_some_iff line cmd argument).mp decoded
  have unmarked : chr ':' ∉ chr '>' :: cmd := by
    rw [List.mem_cons, not_or]
    exact ⟨by decide, absent⟩
  have colon : lit ":" = [chr ':'] := by decide
  have present : contains (chr '>' :: cmd ++ chr ':' :: argument) (lit ":") = true := by
    rw [colon, contains_singleton]
    simp
  have parts : split (chr '>' :: cmd ++ chr ':' :: argument) (chr ':') 2 =
      [chr '>' :: cmd, argument] := by
    have cut := splitAtMost_append_cons unmarked 0 argument
    simpa [split, splitAtMost] using cut
  have name : substringFrom (chr '>' :: cmd) 1 = .ok cmd := substringFrom_append [chr '>'] cmd
  have head : arrayGet [chr '>' :: cmd, argument] 0 = .ok (chr '>' :: cmd) := rfl
  have tail : arrayGet [chr '>' :: cmd, argument] 1 = .ok argument := rfl
  rw [List.cons_append] at present parts ⊢
  simp only [parseInput, present, and_self, if_true, parts, head, tail, name,
    Completion.withValue_ok]

/-- A line that is no real-time message changes nothing. -/
theorem parseInput_other (c : ManagementConnection L) {line : JString} (nonempty : line ≠ [])
    (other : notification line = none) : c.parseInput line = .done c := by
  cases line with
  | nil => exact absurd rfl nonempty
  | cons first rest =>
      have unmarked : ¬(first = chr '>' ∧ contains (first :: rest) (lit ":") = true) := by
        rintro ⟨rfl, present⟩
        have colon : lit ":" = [chr ':'] := by decide
        rw [colon, contains_singleton] at present
        have member : chr ':' ∈ rest := by
          rcases List.mem_cons.mp present with same | member
          · exact absurd same (by decide)
          · exact member
        rw [notification, if_pos ⟨rfl, member⟩] at other
        cases other
      rw [parseInput, if_neg unmarked]

/-! ## Single methods -/

theorem opened_established (host : JString) (port : Int) :
    (opened host port : ManagementConnection L).Established :=
  AbstractConnection.openedTo_established host port

theorem sendCommand_state (c : ManagementConnection L) (command : JString) :
    (c.sendCommand command).state = c := by
  have written : ∀ (c : ManagementConnection L) (text : JString), (c.write text).state = c := by
    intro c text
    unfold write
    split
    · rfl
    · split_ifs <;> rfl
  unfold sendCommand
  split_ifs with connected
  · refine Completion.andThen_invariant (fun state => state = c) (written c command) ?_
    rintro state rfl
    exact written state lineSeparator
  · rfl

@[simp] theorem managementCommand_state (c : ManagementConnection L) (command : JString) :
    (c.managementCommand command).state = c :=
  sendCommand_state c command

/-- A command makes no other calls than writes. -/
theorem managementCommand_emitted (c : ManagementConnection L) (command : JString) :
    ∀ event ∈ (c.managementCommand command).emitted,
      event = .managementCommand command ∨ ∃ text, event = .write text := by
  have written : ∀ (c : ManagementConnection L) (text : JString),
      ∀ event ∈ (c.write text).emitted,
        event = .managementCommand command ∨ ∃ text, event = .write text := by
    intro c text event member
    unfold write at member
    split at member
    · cases member
    · split_ifs at member
      · cases member
      · exact .inr ⟨text, List.mem_singleton.mp member⟩
  refine Completion.andThen_emitted ?_ ?_
  · intro event member
    exact .inl (List.mem_singleton.mp member)
  · intro state
    unfold sendCommand
    split_ifs
    · apply Completion.andThen_emitted
      · exact written state command
      · exact fun next => written next lineSeparator
    · simp

/-- On an established connection a line is written and ended. -/
theorem sendCommand_established {c : ManagementConnection L} (established : c.Established)
    (command : JString) :
    c.sendCommand command = .emit c [.write command, .write lineSeparator] := by
  have writes : ∀ text : JString, c.write text = .emit c [.write text] := by
    intro text
    simp [write, established.writer]
  have connected : c.isConnected = true := established.isConnected
  rw [sendCommand, if_pos connected, writes, Completion.emit_andThen, writes]
  rfl

theorem managementCommand_established {c : ManagementConnection L}
    (established : c.Established) (command : JString) :
    c.managementCommand command =
      .emit c [.managementCommand command, .write command, .write lineSeparator] := by
  rw [managementCommand, Completion.emit_andThen, sendCommand_established established]
  rfl

/-- The type a credential prompt asks for: what stands between the first two
single quotes. -/
def IsPrompt (argument type : JString) : Prop :=
  startsWith argument Strings.needPrefix = true ∧
    ∃ before after, argument = before ++ chr '\'' :: (type ++ chr '\'' :: after) ∧
      chr '\'' ∉ before ∧ chr '\'' ∉ type

/-- A prompt that lacks its two quotes. -/
def IsBrokenPrompt (argument : JString) : Prop :=
  startsWith argument Strings.needPrefix = true ∧ argument.count (chr '\'') < 2

/-- A prompt is neither of the two other password messages. -/
private theorem startsWith_need {argument : JString}
    (need : startsWith argument Strings.needPrefix = true) :
    startsWith argument Strings.authTokenPrefix = false ∧
      startsWith argument Strings.verificationFailedPrefix = false := by
  obtain ⟨rest, rfl⟩ := (startsWith_iff _ _).mp need
  exact ⟨rfl, rfl⟩

/-- A prompt is answered by its type. -/
theorem processPassword_prompt (c : ManagementConnection L) {argument type : JString}
    (prompt : IsPrompt argument type) : c.processPassword argument = c.answerPrompt type := by
  obtain ⟨need, before, after, rfl, beforeFree, typeFree⟩ := prompt
  obtain ⟨notToken, notFailed⟩ := startsWith_need need
  have first : indexOf (before ++ chr '\'' :: (type ++ chr '\'' :: after)) (chr '\'') =
      before.length := indexOf_append beforeFree _
  have second : indexOfFrom (before ++ chr '\'' :: (type ++ chr '\'' :: after)) (chr '\'')
      (before.length + 1) = before.length + 1 + type.length := by
    have found := indexOfFrom_append typeFree (before ++ [chr '\'']) after
    simpa using found
  have cut : substring (before ++ chr '\'' :: (type ++ chr '\'' :: after)) (before.length + 1)
      (before.length + 1 + type.length) = .ok type := by
    have piece := substring_append (before ++ [chr '\'']) type (chr '\'' :: after)
    simpa using piece
  rw [processPassword, notToken, notFailed, need]
  simp only [Bool.false_eq_true, if_false, if_true, first, second, cut, Completion.withValue_ok]

/-- A prompt without two quotes has no type to cut out. -/
theorem processPassword_broken (c : ManagementConnection L) {argument : JString}
    (broken : IsBrokenPrompt argument) :
    c.processPassword argument = .throw c .stringIndexOutOfBoundsException := by
  obtain ⟨need, few⟩ := broken
  obtain ⟨notToken, notFailed⟩ := startsWith_need need
  have noSecond : indexOfFrom argument (chr '\'') (indexOf argument (chr '\'') + 1) = -1 := by
    rcases first_separator (chr '\'') argument with absent | ⟨before, rest, rfl, absent⟩
    · have first : indexOf argument (chr '\'') = -1 := indexOf_absent absent
      have again := indexOfFrom_absent absent []
      simpa [first] using again
    · have first : indexOf (before ++ chr '\'' :: rest) (chr '\'') = before.length :=
        indexOf_append absent rest
      have restFree : chr '\'' ∉ rest := by
        rw [List.count_append, List.count_cons_self, List.count_eq_zero_of_not_mem absent] at few
        exact List.count_eq_zero.mp (by omega)
      have found := indexOfFrom_absent restFree (before ++ [chr '\''])
      simpa [first] using found
  rw [processPassword, notToken, notFailed, need]
  simp only [Bool.false_eq_true, if_false, if_true, noSecond,
    substring_of_negative argument _ (by decide : (-1 : Int) < 0), Completion.withValue_error]

/-- Every other password message is ignored. -/
theorem processPassword_other (c : ManagementConnection L) {argument : JString}
    (other : startsWith argument Strings.needPrefix = false) :
    c.processPassword argument = .done c := by
  simp only [processPassword, other, Bool.false_eq_true, if_false]
  split_ifs <;> rfl

/-- A prompt has a type or is broken. -/
theorem prompt_cases {argument : JString} (need : startsWith argument Strings.needPrefix = true) :
    (∃ type, IsPrompt argument type) ∨ IsBrokenPrompt argument := by
  rcases first_separator (chr '\'') argument with absent | ⟨before, rest, rfl, beforeFree⟩
  · right
    refine ⟨need, ?_⟩
    rw [List.count_eq_zero_of_not_mem absent]
    omega
  · rcases first_separator (chr '\'') rest with absent | ⟨type, after, rfl, typeFree⟩
    · right
      refine ⟨need, ?_⟩
      rw [List.count_append, List.count_cons_self, List.count_eq_zero_of_not_mem beforeFree,
        List.count_eq_zero_of_not_mem absent]
      omega
    · exact .inl ⟨type, need, before, after, rfl, beforeFree, typeFree⟩

/-- A prompt has one type. -/
theorem isPrompt_unique {argument type type' : JString} (prompt : IsPrompt argument type)
    (prompt' : IsPrompt argument type') : type = type' := by
  obtain ⟨-, before, after, rfl, beforeFree, typeFree⟩ := prompt
  obtain ⟨-, before', after', same, beforeFree', typeFree'⟩ := prompt'
  have cut := splitAtMost_append_cons beforeFree 1 (type ++ chr '\'' :: after)
  rw [same, splitAtMost_append_cons beforeFree', splitAtMost_append_cons typeFree',
    splitAtMost_append_cons typeFree] at cut
  obtain ⟨-, sameType, -⟩ := by simpa [splitAtMost] using cut
  exact sameType.symm

/-- A prompt is not a broken one. -/
theorem not_isBrokenPrompt {argument type : JString} (prompt : IsPrompt argument type) :
    ¬IsBrokenPrompt argument := by
  obtain ⟨-, before, after, rfl, -, -⟩ := prompt
  rintro ⟨-, few⟩
  rw [List.count_append, List.count_cons_self, List.count_append, List.count_cons_self] at few
  omega

/-- A byte count: two `long` numbers around the first comma. -/
def IsByteCount (argument : JString) (byteCount : ByteCount) : Prop :=
  ∃ received sent, argument = received ++ chr ',' :: sent ∧ chr ',' ∉ received ∧
    parseLong received = .ok byteCount.mIn ∧ parseLong sent = .ok byteCount.mOut

/-- The steps of `processByteCount` around the first comma. -/
private theorem processByteCount_comma (c : ManagementConnection L) {received : JString}
    (free : chr ',' ∉ received) (sent : JString) :
    c.processByteCount (received ++ chr ',' :: sent) =
      .withValue c (parseLong received) fun mIn =>
        .withValue c (parseLong sent) fun mOut => .emit c [.setByteCount ⟨mIn, mOut⟩] := by
  have comma : indexOf (received ++ chr ',' :: sent) (chr ',') = received.length :=
    indexOf_append free sent
  have left : substring (received ++ chr ',' :: sent) 0 received.length = .ok received := by
    have piece := substring_append [] received (chr ',' :: sent)
    simpa using piece
  have right : substringFrom (received ++ chr ',' :: sent) (received.length + 1) = .ok sent := by
    have piece := substringFrom_append (received ++ [chr ',']) sent
    simpa using piece
  simp only [processByteCount, comma, left, right, Completion.withValue_ok]

theorem processByteCount_counts (c : ManagementConnection L) {argument : JString}
    {byteCount : ByteCount} (counts : IsByteCount argument byteCount) :
    c.processByteCount argument = .emit c [.setByteCount byteCount] := by
  obtain ⟨received, sent, rfl, free, mIn, mOut⟩ := counts
  rw [processByteCount_comma c free, mIn, mOut]
  rfl

/-- Every other argument ends with one of two exceptions. -/
theorem processByteCount_malformed (c : ManagementConnection L) {argument : JString}
    (malformed : ∀ byteCount, ¬IsByteCount argument byteCount) :
    c.processByteCount argument = .throw c .stringIndexOutOfBoundsException ∨
      c.processByteCount argument = .throw c .numberFormatException := by
  rcases first_separator (chr ',') argument with absent | ⟨received, sent, rfl, free⟩
  · left
    have comma : indexOf argument (chr ',') = -1 := indexOf_absent absent
    have outside := substring_of_negative argument 0 (by decide : (-1 : Int) < 0)
    simp only [processByteCount, comma, outside, Completion.withValue_error]
  · right
    rw [processByteCount_comma c free]
    cases mIn : parseLong received with
    | error exception =>
        rw [parseLong_error mIn]
        rfl
    | ok received' =>
        cases mOut : parseLong sent with
        | error exception =>
            rw [parseLong_error mOut]
            rfl
        | ok sent' =>
            exact absurd ⟨received, sent, rfl, free, mIn, mOut⟩ (malformed ⟨received', sent'⟩)

/-- A log argument has a date and flags before two commas; the message is the
rest, commas included. -/
theorem processLog_fields (c : ManagementConnection L) {date level : JString}
    (dateFree : chr ',' ∉ date) (levelFree : chr ',' ∉ level) (message : JString) :
    c.processLog (date ++ chr ',' :: (level ++ chr ',' :: message)) =
      c.logMessage date level message := by
  have args : split (date ++ chr ',' :: (level ++ chr ',' :: message)) (chr ',') 3 =
      [date, level, message] := by
    have cut := splitAtMost_append_cons dateFree 1 (level ++ chr ',' :: message)
    rw [splitAtMost_append_cons levelFree 0 message] at cut
    simpa [split, splitAtMost] using cut
  simp only [processLog, args]
  rfl

/-- With fewer than two commas an array access fails. -/
theorem processLog_short (c : ManagementConnection L) {argument : JString}
    (few : argument.count (chr ',') < 2) :
    c.processLog argument = .throw c .arrayIndexOutOfBoundsException := by
  have size : (split argument (chr ',') 3).length = min 2 (argument.count (chr ',')) + 1 :=
    length_split_limit argument (chr ',') 2
  simp only [processLog]
  match args : split argument (chr ',') 3, size with
  | [], _ => rfl
  | [_], _ => rfl
  | [_, _], _ => rfl
  | _ :: _ :: _ :: _, size =>
      simp only [List.length_cons] at size
      omega

/-- A log argument with two commas has its fields. -/
theorem log_fields {argument : JString} (enough : 2 ≤ argument.count (chr ',')) :
    ∃ date level message, argument = date ++ chr ',' :: (level ++ chr ',' :: message) ∧
      chr ',' ∉ date ∧ chr ',' ∉ level := by
  rcases first_separator (chr ',') argument with absent | ⟨date, rest, rfl, dateFree⟩
  · rw [List.count_eq_zero_of_not_mem absent] at enough
    omega
  · rcases first_separator (chr ',') rest with absent | ⟨level, message, rfl, levelFree⟩
    · rw [List.count_append, List.count_cons_self, List.count_eq_zero_of_not_mem dateFree,
        List.count_eq_zero_of_not_mem absent] at enough
      omega
    · exact ⟨date, level, message, rfl, dateFree, levelFree⟩

/-- The message is cut after a prefix only if something stands there. -/
theorem substringFrom_past (start rest : JString) :
    substringFrom (start ++ rest) (start.length + 1) =
      match rest with
      | [] => .error .stringIndexOutOfBoundsException
      | _ :: tail => .ok tail := by
  cases rest with
  | nil =>
      have outside : ¬((0 : Int) ≤ start.length + 1 ∧
          (start.length + 1 : Int) ≤ (start ++ []).length ∧
          ((start ++ []).length : Int) ≤ (start ++ []).length) := by
        simp only [List.append_nil]
        omega
      rw [substringFrom, substring, if_neg outside]
  | cons separator tail =>
      have piece := substringFrom_append (start ++ [separator]) tail
      simpa using piece

/-- A message that is nothing but a prefix. -/
def IsBarePrefix (message : JString) : Prop :=
  message = Strings.warningPrefix ∨ message = Strings.notePrefix

instance (message : JString) : Decidable (IsBarePrefix message) :=
  inferInstanceAs (Decidable (_ ∨ _))

/-- A log record is delivered unless the message is a bare prefix. -/
theorem logMessage_cases (c : ManagementConnection L) (date level message : JString) :
    (IsBarePrefix message ∧
        c.logMessage date level message = .throw c .stringIndexOutOfBoundsException) ∨
      (¬IsBarePrefix message ∧ ∃ log, c.logMessage date level message = c.setLog log) := by
  by_cases bare : IsBarePrefix message
  · left
    refine ⟨bare, ?_⟩
    rcases bare with rfl | rfl <;> rfl
  · right
    refine ⟨bare, ?_⟩
    unfold logMessage
    split_ifs with cmd warning note
    · exact ⟨_, rfl⟩
    · obtain ⟨rest, rfl⟩ := (startsWith_iff _ _).mp warning
      cases rest with
      | nil => exact absurd (.inl (List.append_nil _)) bare
      | cons separator tail =>
          rw [substringFrom_past]
          exact ⟨_, rfl⟩
    · obtain ⟨rest, rfl⟩ := (startsWith_iff _ _).mp note
      cases rest with
      | nil => exact absurd (.inr (List.append_nil _)) bare
      | cons separator tail =>
          rw [substringFrom_past]
          exact ⟨_, rfl⟩
    · exact ⟨_, rfl⟩

/-- A report is read when it has six fields. -/
theorem readState_cases (argument : JString) :
    (5 ≤ argument.count (chr ',') ∧ ∃ state, readState argument = .ok state) ∨
      (argument.count (chr ',') < 5 ∧
        readState argument = .error .arrayIndexOutOfBoundsException) := by
  have size := length_split_all argument (chr ',')
  unfold readState
  match args : split argument (chr ',') (-1), size with
  | [], size => simp at size
  | [_], size => exact .inr ⟨by simp at size; omega, rfl⟩
  | [_, _], size => exact .inr ⟨by simp at size; omega, rfl⟩
  | [_, _, _], size => exact .inr ⟨by simp at size; omega, rfl⟩
  | [_, _, _, _], size => exact .inr ⟨by simp at size; omega, rfl⟩
  | [_, _, _, _, _], size => exact .inr ⟨by simp at size; omega, rfl⟩
  | _ :: _ :: _ :: _ :: _ :: _ :: _, size =>
      exact .inl ⟨by simp only [List.length_cons] at size; omega, _, rfl⟩

/-- The state of a report is made of its first six fields. -/
theorem readState_fields {fields : List JString} (nonempty : fields ≠ [])
    (free : ∀ field ∈ fields, chr ',' ∉ field)
    {date name message localAddress remoteAddress remotePort : JString} {rest : List JString}
    (six : fields =
      date :: name :: message :: localAddress :: remoteAddress :: remotePort :: rest) :
    readState ([chr ','].intercalate fields) =
      .ok ⟨date, name, message, localAddress, remoteAddress, remotePort⟩ := by
  have cut : split ([chr ','].intercalate fields) (chr ',') (-1) = fields := by
    simpa [split] using List.splitOn_intercalate (chr ',') free nonempty
  unfold readState
  rw [cut, six]
  rfl

/-- A report reaches every listener and sets the level, unless it is ignored. -/
theorem processState_eq (c : ManagementConnection L) (argument : JString) :
    c.processState argument =
      match readState argument with
      | .error exception => .throw c exception
      | .ok state =>
          if isIgnored c.mLastLevel state then .done c
          else ⟨{ c with mLastLevel := state.level },
            c.mStateManager.toList.map fun listener => .onStateChanged listener state, none⟩ := by
  unfold processState
  cases readState argument with
  | error exception => rfl
  | ok state =>
      dsimp only [Completion.withValue_ok]
      by_cases ignored : isIgnored c.mLastLevel state
      · rw [if_pos ignored, if_pos ignored]
      · rw [if_neg ignored, if_neg ignored, setState, Completion.emit_andThen]
        simp

/-- A prompt only changes the handler. -/
theorem answerPrompt_state (c : ManagementConnection L) (type : JString) :
    (c.answerPrompt type).state = c.askCredentials.2 := by
  unfold answerPrompt
  dsimp only
  split_ifs
  · refine Completion.andThen_invariant (fun state => state = c.askCredentials.2) (by simp) ?_
    rintro state rfl
    simp
  · simp
  · rfl

/-! ## The dispatcher -/

/-- Byte counts go to their manager and change nothing here. -/
theorem processByteCount_effect (c : ManagementConnection L) (argument : JString) :
    (c.processByteCount argument).state = c ∧
      ∀ event ∈ (c.processByteCount argument).emitted, event.OfKind .byteCount := by
  by_cases counts : ∃ byteCount, IsByteCount argument byteCount
  · obtain ⟨byteCount, counts⟩ := counts
    rw [processByteCount_counts c counts]
    refine ⟨rfl, fun event member => ?_⟩
    obtain rfl := List.mem_singleton.mp member
    trivial
  · rcases processByteCount_malformed c (not_exists.mp counts) with bounds | number
    · rw [bounds]
      exact ⟨rfl, by simp⟩
    · rw [number]
      exact ⟨rfl, by simp⟩

theorem processHold_effect (c : ManagementConnection L) (argument : JString) :
    (c.processHold argument).state = c ∧ (c.processHold argument).emitted = [] := by
  unfold processHold
  split_ifs <;> exact ⟨rfl, rfl⟩

/-- Log records go to the log listeners and change nothing here. -/
theorem processLog_effect (c : ManagementConnection L) (argument : JString) :
    (c.processLog argument).state = c ∧
      ∀ event ∈ (c.processLog argument).emitted, event.OfKind .log := by
  rcases Nat.lt_or_ge (argument.count (chr ',')) 2 with few | enough
  · rw [processLog_short c few]
    exact ⟨rfl, by simp⟩
  · obtain ⟨date, level, message, rfl, dateFree, levelFree⟩ := log_fields enough
    rw [processLog_fields c dateFree levelFree]
    rcases logMessage_cases c date level message with ⟨-, bare⟩ | ⟨-, log, logged⟩
    · rw [bare]
      exact ⟨rfl, by simp⟩
    · rw [logged]
      refine ⟨rfl, fun event member => ?_⟩
      obtain ⟨listener, -, rfl⟩ := List.mem_map.mp member
      trivial

/-- Only a prompt asks the handler, and only its answer is written. -/
theorem processPassword_effect (c : ManagementConnection L) (argument : JString) :
    ((∃ type, IsPrompt argument type) ∧
        (c.processPassword argument).state = c.askCredentials.2 ∨
      (∀ type, ¬IsPrompt argument type) ∧ (c.processPassword argument).state = c ∧
        (c.processPassword argument).emitted = []) ∧
      ∀ event ∈ (c.processPassword argument).emitted, event.OfKind .password := by
  have commanded : ∀ (c : ManagementConnection L) (command : JString),
      ∀ event ∈ (c.managementCommand command).emitted, event.OfKind .password := by
    intro c command event member
    rcases managementCommand_emitted c command event member with rfl | ⟨text, rfl⟩ <;> trivial
  cases need : startsWith argument Strings.needPrefix with
  | false =>
      have unprompted : ∀ type, ¬IsPrompt argument type := by
        rintro type ⟨needed, -⟩
        rw [need] at needed
        cases needed
      rw [processPassword_other c need]
      exact ⟨.inr ⟨unprompted, rfl, rfl⟩, by simp⟩
  | true =>
      rcases prompt_cases need with ⟨type, prompt⟩ | broken
      · rw [processPassword_prompt c prompt]
        refine ⟨.inl ⟨⟨type, prompt⟩, answerPrompt_state c type⟩, ?_⟩
        unfold answerPrompt
        dsimp only
        split_ifs
        · exact Completion.andThen_emitted (commanded _ _) fun state => commanded state _
        · exact commanded _ _
        · simp
      · have unprompted : ∀ type, ¬IsPrompt argument type := fun type prompt =>
          not_isBrokenPrompt prompt broken
        rw [processPassword_broken c broken]
        exact ⟨.inr ⟨unprompted, rfl, rfl⟩, by simp⟩

/-- State messages and prompts are the only ones that change the connection. -/
theorem dispatch_state_of_ne (c : ManagementConnection L) {kind : Kind} (noState : kind ≠ .state)
    (noPassword : kind ≠ .password) (argument : JString) :
    (c.dispatch kind argument).state = c := by
  cases kind with
  | byteCount => exact (processByteCount_effect c argument).1
  | hold => exact (processHold_effect c argument).1
  | log => exact (processLog_effect c argument).1
  | password => exact absurd rfl noPassword
  | state => exact absurd rfl noState
  | unsupported => rfl
  | ignored => rfl

/-- Each kind of message leads to its own calls. -/
theorem dispatch_emitted (c : ManagementConnection L) (kind : Kind) (argument : JString) :
    ∀ event ∈ (c.dispatch kind argument).emitted, event.OfKind kind := by
  cases kind with
  | byteCount => exact (processByteCount_effect c argument).2
  | hold => simp [dispatch, (processHold_effect c argument).2]
  | log => exact (processLog_effect c argument).2
  | password => exact (processPassword_effect c argument).2
  | state =>
      rw [dispatch, processState_eq]
      cases readState argument with
      | error exception => simp
      | ok state =>
          dsimp only
          split_ifs
          · simp
          · intro event member
            obtain ⟨listener, -, rfl⟩ := List.mem_map.mp member
            trivial
  | unsupported => simp [dispatch]
  | ignored => simp [dispatch]

theorem askCredentials_frame (c : ManagementConnection L) : Frame c c.askCredentials.2 := by
  unfold askCredentials
  split <;> exact ⟨rfl, rfl, rfl, rfl, rfl⟩

theorem askCredentials_level (c : ManagementConnection L) :
    c.askCredentials.2.mLastLevel = c.mLastLevel := by
  unfold askCredentials
  split <;> rfl

/-- Without a state message the frame and the level stay. -/
theorem dispatch_frame_of_ne (c : ManagementConnection L) {kind : Kind} (noState : kind ≠ .state)
    (argument : JString) :
    Frame c (c.dispatch kind argument).state ∧
      (c.dispatch kind argument).state.mLastLevel = c.mLastLevel := by
  by_cases password : kind = .password
  · subst password
    rcases (processPassword_effect c argument).1 with ⟨-, asked⟩ | ⟨-, same, -⟩
    · rw [dispatch, asked]
      exact ⟨askCredentials_frame c, askCredentials_level c⟩
    · rw [dispatch, same]
      exact ⟨Frame.refl c, rfl⟩
  · rw [dispatch_state_of_ne c noState password]
    exact ⟨Frame.refl c, rfl⟩

/-! ## Lines -/

/-- The four shapes of a line. -/
theorem line_cases (line : JString) :
    line = [] ∨ (line ≠ [] ∧ notification line = none) ∨
      ∃ cmd argument, notification line = some (cmd, argument) := by
  cases decoded : notification line with
  | some message => exact .inr (.inr ⟨message.1, message.2, rfl⟩)
  | none =>
      by_cases empty : line = []
      · exact .inl empty
      · exact .inr (.inl ⟨empty, rfl⟩)

theorem stateReport_of_state {line cmd argument : JString}
    (decoded : notification line = some (cmd, argument)) (kind : kindOf cmd = .state) :
    stateReport line = (readState argument).toOption := by
  simp [stateReport, decoded, kind]

theorem stateReport_of_ne {line cmd argument : JString}
    (decoded : notification line = some (cmd, argument)) (kind : kindOf cmd ≠ .state) :
    stateReport line = none := by
  simp [stateReport, decoded, kind]

theorem stateReport_of_other {line : JString} (other : notification line = none) :
    stateReport line = none := by
  simp [stateReport, other]

theorem levelAfter_of_none {line : JString} (silent : stateReport line = none)
    (level : ConnectionStatus) : levelAfter level line = level := by
  simp [levelAfter, silent]

theorem parseInput_nil (c : ManagementConnection L) :
    c.parseInput [] = .throw c .stringIndexOutOfBoundsException := rfl

/-- What a line does to the state and to the state listeners: it is framed, its
report decides the level, and only an accepted report is delivered. -/
theorem parseInput_effect (c : ManagementConnection L) (line : JString) :
    Frame c (c.parseInput line).state ∧
      (c.parseInput line).state.mLastLevel = levelAfter c.mLastLevel line ∧
      (c.parseInput line).emitted.filterMap Event.stateDelivery =
        (match stateReport line with
        | some state =>
            if isIgnored c.mLastLevel state then []
            else c.mStateManager.toList.map fun listener => (listener, state)
        | none => []) := by
  rcases line_cases line with rfl | ⟨nonempty, other⟩ | ⟨cmd, argument, decoded⟩
  · exact ⟨Frame.refl c, rfl, rfl⟩
  · rw [parseInput_other c nonempty other, stateReport_of_other other,
      levelAfter_of_none (stateReport_of_other other)]
    exact ⟨Frame.refl c, rfl, rfl⟩
  · rw [parseInput_notification c decoded]
    by_cases kind : kindOf cmd = .state
    · rw [kind, dispatch, processState_eq, levelAfter, stateReport_of_state decoded kind]
      cases report : readState argument with
      | error exception => exact ⟨Frame.refl c, rfl, rfl⟩
      | ok state =>
          dsimp only [Except.toOption]
          by_cases ignored : isIgnored c.mLastLevel state
          · simp only [if_pos ignored]
            exact ⟨Frame.refl c, rfl, rfl⟩
          · simp only [if_neg ignored]
            refine ⟨⟨rfl, rfl, rfl, rfl, rfl⟩, trivial, ?_⟩
            rw [List.filterMap_map]
            exact congrFun (List.filterMap_eq_map (f := fun listener => (listener, state))) _
    · have silent := stateReport_of_ne decoded kind
      rw [silent, levelAfter_of_none silent]
      obtain ⟨frame, level⟩ := dispatch_frame_of_ne c kind argument
      refine ⟨frame, level, ?_⟩
      rw [List.filterMap_eq_nil_iff]
      intro event member
      exact (dispatch_emitted c (kindOf cmd) argument event member).stateDelivery kind

/-- Handling a line only makes calls of listeners, of the writer and of the
byte-count manager. -/
theorem parseInput_emitted (c : ManagementConnection L) (line : JString) :
    ∀ event ∈ (c.parseInput line).emitted, event.IsReaction := by
  rcases line_cases line with rfl | ⟨nonempty, other⟩ | ⟨cmd, argument, decoded⟩
  · simp [parseInput_nil]
  · simp [parseInput_other c nonempty other]
  · rw [parseInput_notification c decoded]
    exact fun event member => ⟨kindOf cmd, dispatch_emitted c (kindOf cmd) argument event member⟩

end ManagementConnection
end Openpyn.Management
