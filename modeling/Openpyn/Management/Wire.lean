import Openpyn.Management.Credentials
import Openpyn.Management.Run

/-!
# The commands on the wire

`managementCommand` writes its command and a line separator; the server cuts what
it reads at line feeds. A command is one line for the server when it contains no
line feed. All of a command but its credential is fixed, and escaping keeps every
character of a credential, so a line feed in a credential reaches the wire.
-/

namespace Openpyn.Management

open Foundation Java StringUtils

variable {L : Type}

/-! ## What the server reads -/

/-- The text on the wire. -/
def wire (events : List (Event L)) : JString := (events.filterMap Event.written).flatten

/-- The commands issued, in order. -/
def issued (events : List (Event L)) : List JString := events.filterMap Event.issued

/-- The first word of a line. -/
def firstWord (line : JString) : JString := line.takeWhile (· ≠ chr ' ')

/-- The command names the client chooses from. -/
def commandNames : List JString :=
  ["auth-retry", "bytecount", "state", "log", "hold", "username", "password", "signal"].map lit

/-- Every issued command is one line for the server, with the name the client
chose. -/
structure OneLineEach (events : List (Event L)) : Prop where
  count : (completeLines lineFeed (wire events)).length = (issued events).length
  names : (completeLines lineFeed (wire events)).map firstWord = (issued events).map firstWord
  known : ∀ line ∈ completeLines lineFeed (wire events), firstWord line ∈ commandNames

/-- What is on the wire are the issued commands, each ended by a line feed. -/
def Framed (events : List (Event L)) : Prop :=
  wire events = terminate lineFeed (issued events)

@[simp] theorem wire_append (first second : List (Event L)) :
    wire (first ++ second) = wire first ++ wire second := by
  simp [wire]

@[simp] theorem issued_append (first second : List (Event L)) :
    issued (first ++ second) = issued first ++ issued second := by
  simp [issued]

theorem Framed.append {first second : List (Event L)} (one : Framed first) (two : Framed second) :
    Framed (first ++ second) := by
  rw [Framed, wire_append, issued_append, terminate_append, one, two]

/-- Events that neither issue nor write anything. -/
theorem framed_of_silent {events : List (Event L)}
    (silent : ∀ event ∈ events, event.issued = none ∧ event.written = none) :
    wire events = [] ∧ issued events = [] := by
  have noIssue : events.filterMap Event.issued = [] :=
    List.filterMap_eq_nil_iff.mpr fun event member => (silent event member).1
  have noWrite : events.filterMap Event.written = [] :=
    List.filterMap_eq_nil_iff.mpr fun event member => (silent event member).2
  simp [wire, issued, noIssue, noWrite]

/-- Framed commands with known names are one line each exactly when none of them
contains a line feed. -/
theorem oneLineEach_iff {events : List (Event L)} (framed : Framed events)
    (known : ∀ command ∈ issued events, firstWord command ∈ commandNames) :
    OneLineEach events ↔ ∀ command ∈ issued events, lineFeed ∉ command := by
  constructor
  · intro each
    have count := each.count
    rw [framed] at count
    exact (length_completeLines_terminate_iff lineFeed (issued events)).mp count
  · intro free
    have lines : completeLines lineFeed (wire events) = issued events := by
      rw [framed, completeLines_terminate free]
    exact ⟨by rw [lines], by rw [lines], by rw [lines]; exact known⟩

/-! ## Credentials in commands -/

/-- Escaping neither adds nor removes a line feed. -/
theorem lineFeed_mem_escapeOpenVPN_iff {cs : JString} (nonempty : cs ≠ []) :
    lineFeed ∈ escapeOpenVPN cs ↔ lineFeed ∈ cs := by
  have escaped : lineFeed ∈ escapeOpenVPNStyleString cs ↔ lineFeed ∈ cs := by
    simp only [escapeOpenVPNStyleString, List.mem_flatMap]
    constructor
    · rintro ⟨ch, member, inside⟩
      unfold escapeChar at inside
      split_ifs at inside
      · exact absurd inside (by decide)
      · exact absurd inside (by decide)
      · obtain rfl := List.mem_singleton.mp inside
        exact member
    · intro member
      exact ⟨lineFeed, member, by decide⟩
  have quote : lineFeed ≠ chr '"' := by decide
  rcases escapeOpenVPN_cases nonempty with ⟨-, shape⟩ | ⟨-, shape⟩
  · rw [shape]
    simp [escaped, quote]
  · rw [shape]

/-- A credential that breaks its command: written as it is, with a line feed. -/
def BreaksLine (credential : Option JString) : Prop :=
  ∃ text, credential = some text ∧ isBlank text = false ∧ lineFeed ∈ text

theorem lineFeed_mem_escapedCredential_iff (credential : Option JString) :
    lineFeed ∈ ManagementConnection.escapedCredential credential ↔ BreaksLine credential := by
  have dots : lineFeed ∉ lit "..." := by decide
  cases credential with
  | none => simp [ManagementConnection.escapedCredential, dots, BreaksLine]
  | some text =>
      cases blank : isBlank text with
      | true => simp [ManagementConnection.escapedCredential, blank, dots, BreaksLine]
      | false =>
          have nonempty : text ≠ [] := by
            rintro rfl
            cases blank
          simp [ManagementConnection.escapedCredential, blank, BreaksLine,
            lineFeed_mem_escapeOpenVPN_iff nonempty]

/-! ## Prompts -/

/-- The type a password message asks for. -/
def promptType (argument : JString) : Option JString :=
  if startsWith argument Strings.needPrefix then
    match splitAtMost (chr '\'') 2 argument with
    | [_, type, _] => some type
    | _ => none
  else none

theorem promptType_of_isPrompt {argument type : JString}
    (prompt : ManagementConnection.IsPrompt argument type) : promptType argument = some type := by
  obtain ⟨need, before, after, rfl, beforeFree, typeFree⟩ := prompt
  have cut := splitAtMost_append_cons beforeFree 1 (type ++ chr '\'' :: after)
  rw [splitAtMost_append_cons typeFree] at cut
  rw [promptType, if_pos need, cut]
  rfl

theorem promptType_of_not_isPrompt {argument : JString}
    (unprompted : ∀ type, ¬ManagementConnection.IsPrompt argument type) :
    promptType argument = none := by
  unfold promptType
  split_ifs with need
  · rcases ManagementConnection.prompt_cases need with ⟨type, prompt⟩ | ⟨-, few⟩
    · exact absurd prompt (unprompted type)
    · have size := length_splitAtMost (chr '\'') 2 argument
      split
      · rename_i shape
        rw [shape] at size
        simp only [List.length_cons, List.length_nil] at size
        omega
      · rfl
  · rfl

/-- The type a line asks for, if it is a prompt. -/
def promptOf (line : JString) : Option JString :=
  match notification line with
  | some (cmd, argument) => if kindOf cmd = .password then promptType argument else none
  | none => none

/-- What the handler answers to the next prompt; without one both credentials
are null. -/
def nextAnswer (handler : Option UsernamePasswordHandler) : Option JString × Option JString :=
  match handler with
  | some handler => handler.answers 0
  | none => (none, none)

/-- The credentials an answer writes for a type. -/
def credentialsFor (answer : Option JString × Option JString) (type : JString) :
    List (Option JString) :=
  if type = lit "Auth" then [answer.1, answer.2]
  else if type = lit "Private Key" then [answer.2]
  else []

/-- The commands it issues. -/
def commandsFor (answer : Option JString × Option JString) (type : JString) : List JString :=
  let username := ManagementConnection.escapedCredential answer.1
  let password := ManagementConnection.escapedCredential answer.2
  if type = lit "Auth" then
    [Commands.usernameCommand type username, Commands.passwordCommand type password]
  else if type = lit "Private Key" then [Commands.passwordCommand type password]
  else []

/-- The commands of an answer are one line each when its credentials are. -/
theorem commandsFor_free_iff (answer : Option JString × Option JString) (type : JString) :
    (∀ command ∈ commandsFor answer type, lineFeed ∉ command) ↔
      ∀ credential ∈ credentialsFor answer type, ¬BreaksLine credential := by
  have username : ∀ (type : JString) (credential : Option JString), lineFeed ∉ type →
      (lineFeed ∈ Commands.usernameCommand type
          (ManagementConnection.escapedCredential credential) ↔ BreaksLine credential) := by
    intro type credential free
    have start : lineFeed ∉ lit "username '" := by decide
    have middle : lineFeed ∉ lit "' " := by decide
    simp [Commands.usernameCommand, start, middle, free, lineFeed_mem_escapedCredential_iff]
  have password : ∀ (type : JString) (credential : Option JString), lineFeed ∉ type →
      (lineFeed ∈ Commands.passwordCommand type
          (ManagementConnection.escapedCredential credential) ↔ BreaksLine credential) := by
    intro type credential free
    have start : lineFeed ∉ lit "password '" := by decide
    have middle : lineFeed ∉ lit "' " := by decide
    simp [Commands.passwordCommand, start, middle, free, lineFeed_mem_escapedCredential_iff]
  unfold commandsFor credentialsFor
  dsimp only
  split_ifs with auth key
  · have free : lineFeed ∉ type := by rw [auth]; decide
    simp [username type answer.1 free, password type answer.2 free]
  · have free : lineFeed ∉ type := by rw [key]; decide
    simp [password type answer.2 free]
  · simp

/-- Their first words are the client's. -/
theorem commandsFor_known (answer : Option JString × Option JString) (type : JString) :
    ∀ command ∈ commandsFor answer type, firstWord command ∈ commandNames := by
  have username : ∀ argument : JString,
      firstWord (Commands.usernameCommand type argument) = lit "username" := fun _ => rfl
  have password : ∀ argument : JString,
      firstWord (Commands.passwordCommand type argument) = lit "password" := fun _ => rfl
  have names : lit "username" ∈ commandNames ∧ lit "password" ∈ commandNames := by decide
  unfold commandsFor
  dsimp only
  split_ifs
  · simp [username, password, names]
  · simp [password, names]
  · simp

/-- The handler after a line. -/
def handlerAfter (handler : Option UsernamePasswordHandler) (line : JString) :
    Option UsernamePasswordHandler :=
  match promptOf line with
  | some _ => handler.map UsernamePasswordHandler.next
  | none => handler

/-- The credentials written because of a line. -/
def credentialsAt (handler : Option UsernamePasswordHandler) (line : JString) :
    List (Option JString) :=
  match promptOf line with
  | some type => credentialsFor (nextAnswer handler) type
  | none => []

/-- The commands issued because of a line. -/
def commandsAt (handler : Option UsernamePasswordHandler) (line : JString) : List JString :=
  match promptOf line with
  | some type => commandsFor (nextAnswer handler) type
  | none => []

namespace ManagementConnection

/-- The events of one command. -/
theorem framed_command (command : JString) :
    Framed ([.managementCommand command, .write command, .write lineSeparator] : List (Event L)) ∧
      issued ([.managementCommand command, .write command, .write lineSeparator] :
        List (Event L)) = [command] := by
  refine ⟨?_, rfl⟩
  change command ++ (lineSeparator ++ []) = terminate lineFeed [command]
  rw [terminate_cons, terminate_nil]
  rfl

theorem answerPrompt_written {c : ManagementConnection L} (established : c.Established)
    (type : JString) :
    Framed (c.answerPrompt type).emitted ∧
      issued (c.answerPrompt type).emitted =
        commandsFor (nextAnswer c.mUsernamePasswordHandler) type := by
  have asked : c.askCredentials.1 = nextAnswer c.mUsernamePasswordHandler := by
    unfold askCredentials nextAnswer
    cases c.mUsernamePasswordHandler <;> rfl
  have still : c.askCredentials.2.Established := by
    rw [(askCredentials_frame c).super]
    exact established
  unfold answerPrompt commandsFor
  dsimp only
  rw [asked]
  split_ifs
  · rw [managementCommand_established still, Completion.emit_andThen,
      managementCommand_established still]
    dsimp only [Completion.emit_emitted]
    rw [issued_append, (framed_command _).2, (framed_command _).2]
    exact ⟨(framed_command _).1.append (framed_command _).1, rfl⟩
  · rw [managementCommand_established still]
    exact framed_command _
  · exact ⟨rfl, rfl⟩

/-- A line that prompts for nothing and calls nothing of the wire. -/
theorem written_of_quiet {c : ManagementConnection L} {line : JString}
    (unprompted : promptOf line = none)
    (handler : (c.readInput line).state.mUsernamePasswordHandler = c.mUsernamePasswordHandler)
    (silent : ∀ event ∈ (c.readInput line).emitted, event.issued = none ∧ event.written = none) :
    Framed (c.readInput line).emitted ∧
      issued (c.readInput line).emitted = commandsAt c.mUsernamePasswordHandler line ∧
      (c.readInput line).state.mUsernamePasswordHandler =
        handlerAfter c.mUsernamePasswordHandler line := by
  obtain ⟨noWire, noCommand⟩ := framed_of_silent silent
  rw [Framed, noWire, noCommand, commandsAt, handlerAfter, unprompted]
  exact ⟨rfl, rfl, handler⟩

/-- A message about a password writes what its prompt asks for, if it is one. -/
theorem written_of_password {c : ManagementConnection L} (established : c.Established)
    {line argument : JString} (reads : c.readInput line = c.dispatch .password argument)
    (prompts : promptOf line = promptType argument) :
    Framed (c.readInput line).emitted ∧
      issued (c.readInput line).emitted = commandsAt c.mUsernamePasswordHandler line ∧
      (c.readInput line).state.mUsernamePasswordHandler =
        handlerAfter c.mUsernamePasswordHandler line := by
  rcases (processPassword_effect c argument).1 with ⟨⟨type, prompt⟩, asked⟩ |
    ⟨unprompted, same, silent⟩
  · rw [reads, dispatch, asked, commandsAt, handlerAfter, prompts,
      promptType_of_isPrompt prompt, processPassword_prompt c prompt]
    obtain ⟨framed, commands⟩ := answerPrompt_written established type
    refine ⟨framed, commands, ?_⟩
    unfold askCredentials
    cases handler : c.mUsernamePasswordHandler <;> simp [handler]
  · refine written_of_quiet (prompts.trans (promptType_of_not_isPrompt unprompted)) ?_ ?_
    · rw [reads, dispatch, same]
    · simp [reads, dispatch, silent]

/-- What a line puts on the wire, and the handler after it. -/
theorem readInput_written {c : ManagementConnection L} (established : c.Established)
    (line : JString) :
    Framed (c.readInput line).emitted ∧
      issued (c.readInput line).emitted = commandsAt c.mUsernamePasswordHandler line ∧
      (c.readInput line).state.mUsernamePasswordHandler =
        handlerAfter c.mUsernamePasswordHandler line := by
  rcases line_cases line with rfl | ⟨nonempty, other⟩ | ⟨cmd, argument, decoded⟩
  · exact written_of_quiet rfl rfl (by simp [readInput])
  · have reads : c.readInput line = .done c := by
      rw [readInput, if_neg nonempty, parseInput_other c nonempty other]
    exact written_of_quiet (by simp [promptOf, other]) (by rw [reads]; rfl) (by simp [reads])
  · have reads : c.readInput line = c.dispatch (kindOf cmd) argument := by
      have nonempty : line ≠ [] := by
        rintro rfl
        cases decoded
      rw [readInput, if_neg nonempty, parseInput_notification c decoded]
    by_cases password : kindOf cmd = .password
    · have prompts : promptOf line = promptType argument := by
        simp [promptOf, decoded, password]
      exact written_of_password established (password ▸ reads) prompts
    · refine written_of_quiet (by simp [promptOf, decoded, password]) ?_ ?_
      · by_cases state : kindOf cmd = .state
        · rw [reads, state, dispatch, processState_eq]
          split
          · rfl
          · split_ifs <;> rfl
        · rw [reads, dispatch_state_of_ne c state password]
      · rw [reads]
        intro event member
        exact (dispatch_emitted c (kindOf cmd) argument event member).silent password

/-! ## Runs with calls of `stopOpenVPN` -/

end ManagementConnection

/-- What can happen while the reading loop runs: a line arrives, or another
thread calls `stopOpenVPN`. -/
inductive Input where
  | line (line : JString)
  | stop

/-- The credentials of the handler keep every answer on one line: as long as the
session goes on, no credential it writes contains a line feed. -/
def OneLineAnswers : Option UsernamePasswordHandler → ConnectionStatus → List Input → Prop
  | _, _, [] => True
  | handler, level, .stop :: rest => OneLineAnswers handler level rest
  | handler, level, .line line :: rest =>
      (∀ credential ∈ credentialsAt handler line, ¬BreaksLine credential) ∧
        (ManagementConnection.Escapes line ∨ ManagementConnection.Stops level line ∨
          OneLineAnswers (handlerAfter handler line) (levelAfter level line) rest)

namespace ManagementConnection

/-- One input of the loop. -/
def handleInput (c : ManagementConnection L) : Input → Result L
  | .line line => c.readInput line
  | .stop => c.stopOpenVPN

/-- `run`, with calls of `stopOpenVPN` between the lines. -/
def runWith (c : ManagementConnection L) (inputs : List Input) : Result L :=
  if c.isConnected then
    finishRun ((Completion.forEach managementCommand { c with isRunning := true }
      Commands.startCommands).andThen fun c => Completion.forEach handleInput c inputs)
  else .throw c (.runtimeException (.ioException Strings.socketIsNotConnected))

/-- Without such calls it is `run`. -/
theorem runWith_lines (c : ManagementConnection L) (lines : List JString) :
    c.runWith (lines.map Input.line) = c.run lines := by
  unfold runWith run runBody
  simp only [Completion.forEach_map]
  rfl

/-- A stop during a run writes its command and leaves the loop to end the run. -/
theorem stopOpenVPN_running {c : ManagementConnection L} (established : c.Established)
    (running : c.isRunning = true) :
    c.stopOpenVPN =
      .emit c [.managementCommand (Commands.signalCommand (lit "SIGTERM")),
        .write (Commands.signalCommand (lit "SIGTERM")), .write lineSeparator] := by
  rw [stopOpenVPN, managementCommand_established established, Completion.emit_andThen,
    if_pos running]
  rfl

/-- The commands of a line are known and one line each if its credentials are. -/
private theorem commandsAt_lines (handler : Option UsernamePasswordHandler) (line : JString) :
    ((∀ command ∈ commandsAt handler line, lineFeed ∉ command) ↔
        ∀ credential ∈ credentialsAt handler line, ¬BreaksLine credential) ∧
      ∀ command ∈ commandsAt handler line, firstWord command ∈ commandNames := by
  unfold commandsAt credentialsAt
  split
  · exact ⟨commandsFor_free_iff _ _, commandsFor_known _ _⟩
  · simp

/-- The loop frames every command it issues, and they are one line each exactly
when the answers are. -/
theorem loop_written {c : ManagementConnection L} (established : c.Established)
    (running : c.isRunning = true) (inputs : List Input) :
    Framed (Completion.forEach handleInput c inputs).emitted ∧
      (∀ command ∈ issued (Completion.forEach handleInput c inputs).emitted,
        firstWord command ∈ commandNames) ∧
      ((∀ command ∈ issued (Completion.forEach handleInput c inputs).emitted,
          lineFeed ∉ command) ↔
        OneLineAnswers c.mUsernamePasswordHandler c.mLastLevel inputs) := by
  induction inputs generalizing c with
  | nil => exact ⟨rfl, by simp [issued], by simp [issued, OneLineAnswers]⟩
  | cons input rest inductionHypothesis =>
      rw [Completion.forEach_cons]
      cases input with
      | stop =>
          obtain ⟨framed, known, free⟩ := inductionHypothesis established running
          have stops : c.handleInput .stop = _ := stopOpenVPN_running established running
          obtain ⟨signalFramed, signal⟩ :=
            framed_command (L := L) (Commands.signalCommand (lit "SIGTERM"))
          have signalKnown : firstWord (Commands.signalCommand (lit "SIGTERM")) ∈ commandNames := by
            decide
          have signalFree : lineFeed ∉ Commands.signalCommand (lit "SIGTERM") := by decide
          rw [stops, Completion.emit_andThen]
          dsimp only
          rw [issued_append, signal, OneLineAnswers, ← free]
          refine ⟨signalFramed.append framed, ?_, ?_⟩
          · simpa [signalKnown] using known
          · simp [signalFree]
      | line line =>
          obtain ⟨framed, commands, handler⟩ := readInput_written established line
          obtain ⟨free, known⟩ := commandsAt_lines c.mUsernamePasswordHandler line
          obtain ⟨frame, level, -⟩ := readInput_effect c line
          have reads : c.handleInput (.line line) = c.readInput line := rfl
          rw [reads, OneLineAnswers]
          rcases readInput_ending established line with
            ⟨escapes, exception, threw, -⟩ | ⟨-, stops, exception, threw, -⟩ |
              ⟨stays, goesOn, returned⟩
          · rw [Completion.andThen_of_thrown threw, commands]
            exact ⟨framed, known, by rw [free]; simp [escapes]⟩
          · rw [Completion.andThen_of_thrown threw, commands]
            exact ⟨framed, known, by rw [free]; simp [stops]⟩
          · have still : (c.readInput line).state.Established := by
              rw [frame.super]
              exact established
            obtain ⟨restFramed, restKnown, restFree⟩ :=
              inductionHypothesis still (frame.running.trans running)
            rw [handler, level] at restFree
            rw [Completion.andThen_of_returned returned]
            dsimp only
            rw [issued_append, commands, ← free, ← restFree]
            refine ⟨framed.append restFramed, ?_, ?_⟩
            · intro command member
              exact (List.mem_append.mp member).elim (known command) (restKnown command)
            · simp [stays, goesOn, or_imp, forall_and]

/-- The start-up commands are framed, known and one line each. -/
theorem startCommands_written {c : ManagementConnection L} (established : c.Established)
    (commands : List JString) :
    Framed (Completion.forEach managementCommand c commands).emitted ∧
      issued (Completion.forEach managementCommand c commands).emitted = commands := by
  induction commands with
  | nil => exact ⟨rfl, rfl⟩
  | cons command rest inductionHypothesis =>
      obtain ⟨framed, commands⟩ := inductionHypothesis
      obtain ⟨first, one⟩ := framed_command (L := L) command
      rw [Completion.forEach_cons, managementCommand_established established,
        Completion.emit_andThen]
      dsimp only
      rw [issued_append, one, commands]
      exact ⟨first.append framed, rfl⟩

/-- The loop keeps the connection established. -/
theorem loop_established {c : ManagementConnection L} (established : c.Established)
    (running : c.isRunning = true) (inputs : List Input) :
    (Completion.forEach handleInput c inputs).state.Established := by
  refine (Completion.forEach_invariant
    (fun c : ManagementConnection L => c.Established ∧ c.isRunning = true) ?_
    ⟨established, running⟩ inputs).1
  rintro current input ⟨open_, runs⟩
  cases input with
  | stop =>
      have stops : current.handleInput .stop = _ := stopOpenVPN_running open_ runs
      rw [stops]
      exact ⟨open_, runs⟩
  | line line =>
      obtain ⟨frame, -, -⟩ := readInput_effect current line
      refine ⟨?_, frame.running.trans runs⟩
      have super : (current.handleInput (.line line)).state.toAbstractConnection =
        current.toAbstractConnection := frame.super
      rw [super]
      exact open_

/-- The rest of `run` writes nothing. -/
theorem finishRun_written (tried : Result L) (established : tried.state.Established) :
    wire (finishRun tried).emitted = wire tried.emitted ∧
      issued (finishRun tried).emitted = issued tried.emitted := by
  unfold finishRun
  cases caught : (tried.catching caughtByRun).thrown with
  | some exception =>
      rw [Completion.andThen_of_thrown caught]
      exact ⟨rfl, rfl⟩
  | none =>
      have silent : ∀ listener : Option L,
          ∀ event ∈ (.disconnect :: listener.toList.map .onDisconnected : List (Event L)),
            event.issued = none ∧ event.written = none := by
        intro listener
        cases listener <;> simp [Event.issued, Event.written]
      obtain ⟨noWire, noCommand⟩ := framed_of_silent (silent tried.state.mConnectionListener)
      rw [Completion.andThen_of_returned caught]
      dsimp only [Completion.catching_state, Completion.catching_emitted]
      rw [disconnect_established established, Completion.emit_andThen, Completion.done_emitted,
        List.append_nil, wire_append, issued_append, noWire, noCommand]
      simp

/-- During a run every command is one line for the server, with the name the
client chose, exactly when the answers of the handler are one line each. -/
theorem runWith_oneLineEach_iff {c : ManagementConnection L} (established : c.Established)
    (inputs : List Input) :
    OneLineEach (c.runWith inputs).emitted ↔
      OneLineAnswers c.mUsernamePasswordHandler c.mLastLevel inputs := by
  let running : ManagementConnection L := { c with isRunning := true }
  have runningEstablished : running.Established := established
  obtain ⟨same, returned⟩ := startCommands_established runningEstablished Commands.startCommands
  obtain ⟨startFramed, startIssued⟩ :=
    startCommands_written runningEstablished Commands.startCommands
  obtain ⟨framed, known, free⟩ := loop_written runningEstablished rfl inputs
  have still := loop_established runningEstablished rfl inputs
  have startKnown : ∀ command ∈ Commands.startCommands, firstWord command ∈ commandNames := by
    decide
  have startFree : ∀ command ∈ Commands.startCommands, lineFeed ∉ command := by decide
  let looped := Completion.forEach handleInput running inputs
  let tried : Result L := ⟨looped.state,
    (Completion.forEach managementCommand running Commands.startCommands).emitted ++
      looped.emitted, looped.thrown⟩
  have runs : c.runWith inputs = finishRun tried := by
    rw [runWith, if_pos established.isConnected, Completion.andThen_of_returned returned, same]
  obtain ⟨sameWire, sameCommands⟩ := finishRun_written tried still
  have written : wire tried.emitted = terminate lineFeed (issued tried.emitted) :=
    startFramed.append framed
  have commands : issued tried.emitted = Commands.startCommands ++ issued looped.emitted := by
    rw [← startIssued]
    exact issued_append _ _
  rw [runs]
  refine (oneLineEach_iff ?_ ?_).trans ?_
  · rw [Framed, sameWire, sameCommands, written]
  · rw [sameCommands, commands]
    intro command member
    exact (List.mem_append.mp member).elim (startKnown command) (known command)
  · rw [sameCommands, commands, ← free]
    constructor
    · exact fun all command member => all command (List.mem_append_right _ member)
    · intro later command member
      exact (List.mem_append.mp member).elim (startFree command) (later command)

/-- A password without a line feed, at a prompt with a stop behind it. -/
theorem runWith_oneLineEach_password :
    OneLineEach ((asking (lit "me") (lit "a;b") : ManagementConnection Unit).runWith
        [.line (lit ">PASSWORD:Need 'Private Key' password"), .stop]).emitted ↔
      OneLineAnswers (some (.always (some (lit "me")) (some (lit "a;b")))) .levelNotConnected
        [.line (lit ">PASSWORD:Need 'Private Key' password"), .stop] :=
  runWith_oneLineEach_iff (asking_established (lit "me") (lit "a;b")) _

/-- A password with a line feed puts a command of its own on the wire. -/
theorem runWith_injection :
    (asking (lit "me") (lit "x\nsignal SIGTERM") : ManagementConnection Unit).Established ∧
      ¬OneLineEach
        ((asking (lit "me") (lit "x\nsignal SIGTERM") : ManagementConnection Unit).runWith
          [.line (lit ">PASSWORD:Need 'Private Key' password")]).emitted := by
  refine ⟨asking_established _ _, fun each => ?_⟩
  exact absurd each.count (by decide)

end ManagementConnection

end Openpyn.Management
