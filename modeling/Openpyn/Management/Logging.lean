import Openpyn.Management.Reading

/-!
# Log messages

A `LOG` message carries a date, zero or more flags in a single string and a text.
`record` is the record such a message stands for when every flag counts. The
method reads the flags as one letter and cuts a prefix off together with one
character, which need not be there or be the space after the prefix, so it
delivers that record for some messages only; `parseInput_logLine_iff` says for
which.
-/

namespace Openpyn.Management

open Foundation Java

variable {L : Type}

/-- The line of a `LOG` message. -/
def logLine (date flags text : JString) : JString :=
  chr '>' :: lit "LOG" ++ chr ':' :: (date ++ chr ',' :: (flags ++ chr ',' :: text))

/-- The message flags of the management interface. -/
def messageFlags : List JChar := [chr 'I', chr 'F', chr 'N', chr 'W', chr 'D']

/-- The flags of one message. -/
def AreFlags (flags : JString) : Prop := ∀ flag ∈ flags, flag ∈ messageFlags

instance (flags : JString) : Decidable (AreFlags flags) :=
  inferInstanceAs (Decidable (∀ flag ∈ flags, flag ∈ messageFlags))

/-- The gravest level among the flags. -/
def levelOfFlags (flags : JString) : LogLevel :=
  if chr 'F' ∈ flags ∨ chr 'N' ∈ flags then .error
  else if chr 'W' ∈ flags then .warning
  else if chr 'I' ∈ flags then .info
  else if chr 'D' ∈ flags then .debug
  else .verbose

/-- The level of a message; two kinds of text decide it without the flags. -/
def recordedLevel (flags text : JString) : LogLevel :=
  if startsWith text (lit "MANAGEMENT: CMD") then .verbose
  else if startsWith text (lit "WARNING:") then .warning
  else levelOfFlags flags

/-- A text without the space it begins with, if it begins with one. -/
def withoutSeparator : JString → JString
  | [] => []
  | first :: rest => if first = chr ' ' then rest else first :: rest

/-- The text without `WARNING:` or `NOTE:` and the separator after it. -/
def withoutPrefix (text : JString) : JString :=
  if startsWith text (lit "WARNING:") then withoutSeparator (text.drop (lit "WARNING:").length)
  else if startsWith text (lit "NOTE:") then withoutSeparator (text.drop (lit "NOTE:").length)
  else text

/-- The record of a message. -/
def record (date flags text : JString) : Log :=
  ⟨date, recordedLevel flags text, withoutPrefix text⟩

/-- The texts whose level the flags do not decide. -/
def IsLevelled (text : JString) : Prop :=
  startsWith text (lit "MANAGEMENT: CMD") = true ∨ startsWith text (lit "WARNING:") = true

/-- The texts whose prefix, if they have one, is followed by the separator. -/
def IsSeparated (text : JString) : Prop :=
  (lit "WARNING:" <+: text → lit "WARNING: " <+: text) ∧
    (lit "NOTE:" <+: text → lit "NOTE: " <+: text)

instance (text : JString) : Decidable (IsSeparated text) :=
  inferInstanceAs (Decidable (_ ∧ _))

instance (text : JString) : Decidable (IsLevelled text) :=
  inferInstanceAs (Decidable (_ ∨ _))

/-! ## Flags -/

/-- There are five flags. -/
theorem messageFlag_cases {flag : JChar} (letter : flag ∈ messageFlags) :
    flag = chr 'I' ∨ flag = chr 'F' ∨ flag = chr 'N' ∨ flag = chr 'W' ∨ flag = chr 'D' := by
  simpa [messageFlags] using letter

/-- At most one flag is read as it is meant. -/
theorem levelOfFlag_of_single {flags : JString} (flagged : AreFlags flags)
    (single : flags.length ≤ 1) : ManagementConnection.levelOfFlag flags = levelOfFlags flags := by
  match flags, single with
  | [], _ => rfl
  | [flag], _ =>
      rcases messageFlag_cases (flagged flag List.mem_cons_self) with rfl | rfl | rfl | rfl | rfl
        <;> decide

/-- Of several flags none is read. -/
theorem levelOfFlag_of_several {flags : JString} (several : 1 < flags.length) :
    ManagementConnection.levelOfFlag flags = .verbose := by
  have other : ∀ letter : JString, letter.length = 1 → flags ≠ letter := by
    rintro letter size rfl
    omega
  simp only [ManagementConnection.levelOfFlag, other _ (rfl : (lit "I").length = 1),
    other _ (rfl : (lit "F").length = 1), other _ (rfl : (lit "N").length = 1),
    other _ (rfl : (lit "W").length = 1), other _ (rfl : (lit "D").length = 1), or_self, if_false]

/-- A message with a flag is not verbose. -/
theorem levelOfFlags_ne_verbose {flags : JString} (flagged : AreFlags flags) (some : flags ≠ []) :
    levelOfFlags flags ≠ .verbose := by
  obtain ⟨flag, rest, rfl⟩ := List.exists_cons_of_ne_nil some
  unfold levelOfFlags
  rcases messageFlag_cases (flagged flag List.mem_cons_self) with rfl | rfl | rfl | rfl | rfl <;>
    split_ifs <;> simp_all

/-- The code reads the flags as they are meant exactly when there is at most one. -/
theorem levelOfFlag_eq_iff {flags : JString} (flagged : AreFlags flags) :
    ManagementConnection.levelOfFlag flags = levelOfFlags flags ↔ flags.length ≤ 1 := by
  constructor
  · intro same
    by_contra several
    have several : 1 < flags.length := Nat.lt_of_not_le several
    have nonempty : flags ≠ [] := List.ne_nil_of_length_pos (by omega)
    rw [levelOfFlag_of_several several] at same
    exact levelOfFlags_ne_verbose flagged nonempty same.symm
  · exact levelOfFlag_of_single flagged

/-! ## Messages -/

namespace ManagementConnection

/-- The text that is delivered: a prefix and one more character are cut off. -/
def cutMessage (text : JString) : JString :=
  if startsWith text Strings.warningPrefix then text.drop (Strings.warningPrefix.length + 1)
  else if startsWith text Strings.notePrefix then text.drop (Strings.notePrefix.length + 1)
  else text

/-- The level that is delivered. -/
def readLevel (level text : JString) : LogLevel :=
  if startsWith text Strings.managementCmdPrefix then .verbose
  else if startsWith text Strings.warningPrefix then .warning
  else levelOfFlag level

/-- The record that is delivered when the text is more than a prefix. -/
theorem logMessage_delivers (c : ManagementConnection L) (date level : JString) {text : JString}
    (delivers : ¬IsBarePrefix text) :
    c.logMessage date level text =
      c.setLog ⟨date, readLevel level text, cutMessage text⟩ := by
  unfold logMessage readLevel cutMessage
  split_ifs with cmd warning note warning note
  · obtain ⟨rest, rfl⟩ := (startsWith_iff _ _).mp cmd
    cases warning
  · obtain ⟨rest, rfl⟩ := (startsWith_iff _ _).mp cmd
    cases note
  · rfl
  · obtain ⟨rest, rfl⟩ := (startsWith_iff _ _).mp warning
    cases rest with
    | nil => exact absurd (.inl (List.append_nil _)) delivers
    | cons separator tail =>
        rw [substringFrom_past]
        rfl
  · obtain ⟨rest, rfl⟩ := (startsWith_iff _ _).mp note
    cases rest with
    | nil => exact absurd (.inr (List.append_nil _)) delivers
    | cons separator tail =>
        rw [substringFrom_past]
        rfl
  · rfl

/-- The level is delivered as it is meant exactly when the text decides it or there
is at most one flag. -/
theorem readLevel_eq_iff {flags : JString} (flagged : AreFlags flags) (text : JString) :
    readLevel flags text = recordedLevel flags text ↔ IsLevelled text ∨ flags.length ≤ 1 := by
  have meant : recordedLevel flags text =
      if startsWith text Strings.managementCmdPrefix then .verbose
      else if startsWith text Strings.warningPrefix then .warning
      else levelOfFlags flags := rfl
  have levelled : IsLevelled text ↔ startsWith text Strings.managementCmdPrefix = true ∨
      startsWith text Strings.warningPrefix = true := Iff.rfl
  rw [← levelOfFlag_eq_iff flagged, meant, levelled, readLevel]
  split_ifs with cmd warning
  · simp [cmd]
  · simp [warning]
  · simp [cmd, warning]

/-- Of a text that goes on, the first character is cut off rightly when it is the
separator. -/
theorem withoutSeparator_eq_tail_iff (first : JChar) (rest : JString) :
    rest = withoutSeparator (first :: rest) ↔ first = chr ' ' := by
  rw [withoutSeparator]
  split_ifs with space
  · simp [space]
  · simp [space]

/-- The text is delivered as it is meant exactly when a separator follows its
prefix. -/
theorem cutMessage_eq_iff {text : JString} (delivers : ¬IsBarePrefix text) :
    cutMessage text = withoutPrefix text ↔ IsSeparated text := by
  have spaced : ∀ (start : JString) (first : JChar) (rest : JString),
      start ++ [chr ' '] <+: start ++ first :: rest ↔ first = chr ' ' := by
    intro start first rest
    rw [List.prefix_append_right_inj, List.cons_prefix_cons]
    simp [eq_comm]
  by_cases warning : lit "WARNING:" <+: text
  · obtain ⟨rest, rfl⟩ := warning
    cases rest with
    | nil => exact absurd (.inl (List.append_nil _)) delivers
    | cons first rest =>
        have cut : cutMessage (lit "WARNING:" ++ first :: rest) = rest := rfl
        have meant : withoutPrefix (lit "WARNING:" ++ first :: rest) =
            withoutSeparator (first :: rest) := rfl
        have noNote : ¬lit "NOTE:" <+: lit "WARNING:" ++ first :: rest := by
          rintro ⟨more, same⟩
          cases same
        rw [cut, meant, withoutSeparator_eq_tail_iff, ← spaced (lit "WARNING:") first rest]
        exact ⟨fun space => ⟨fun _ => space, fun note => absurd note noNote⟩,
          fun separated => separated.1 (List.prefix_append _ _)⟩
  · by_cases note : lit "NOTE:" <+: text
    · obtain ⟨rest, rfl⟩ := note
      cases rest with
      | nil => exact absurd (.inr (List.append_nil _)) delivers
      | cons first rest =>
          have cut : cutMessage (lit "NOTE:" ++ first :: rest) = rest := rfl
          have meant : withoutPrefix (lit "NOTE:" ++ first :: rest) =
              withoutSeparator (first :: rest) := rfl
          rw [cut, meant, withoutSeparator_eq_tail_iff, ← spaced (lit "NOTE:") first rest]
          exact ⟨fun space => ⟨fun warned => absurd warned warning, fun _ => space⟩,
            fun separated => separated.2 (List.prefix_append _ _)⟩
    · have unwarned : startsWith text (lit "WARNING:") = false := by
        rw [startsWith, Bool.eq_false_iff, ne_eq, List.isPrefixOf_iff_prefix]
        exact warning
      have unnoted : startsWith text (lit "NOTE:") = false := by
        rw [startsWith, Bool.eq_false_iff, ne_eq, List.isPrefixOf_iff_prefix]
        exact note
      have cut : cutMessage text = text := by
        change (if startsWith text (lit "WARNING:") then _ else
          if startsWith text (lit "NOTE:") then _ else text) = text
        rw [unwarned, unnoted]
        rfl
      have meant : withoutPrefix text = text := by
        rw [withoutPrefix, unwarned, unnoted]
        rfl
      rw [cut, meant]
      exact iff_of_true rfl ⟨fun warned => absurd warned warning, fun noted => absurd noted note⟩

/-- A `LOG` line goes to `processLog`. -/
theorem parseInput_logLine (c : ManagementConnection L) {date flags : JString}
    (dateFree : chr ',' ∉ date) (flagged : AreFlags flags) (text : JString) :
    c.parseInput (logLine date flags text) = c.logMessage date flags text := by
  have flagsFree : chr ',' ∉ flags := fun member =>
    absurd (flagged (chr ',') member) (by decide)
  have decoded : notification (logLine date flags text) =
      some (lit "LOG", date ++ chr ',' :: (flags ++ chr ',' :: text)) :=
    (notification_eq_some_iff _ _ _).mpr ⟨rfl, by decide⟩
  have kind : kindOf (lit "LOG") = .log := by decide
  rw [parseInput_notification c decoded, kind, dispatch, processLog_fields c dateFree flagsFree]

/-- Listeners tell two records apart. -/
theorem setLog_eq_iff (c : ManagementConnection L) (log log' : Log) :
    c.setLog log = c.setLog log' ↔ c.mLogManager.toList = [] ∨ log = log' := by
  constructor
  · intro same
    cases listeners : c.mLogManager.toList with
    | nil => exact .inl rfl
    | cons listener rest =>
        have calls := congrArg Completion.emitted same
        simp only [setLog, Completion.emit_emitted, listeners, List.map_cons, List.cons.injEq,
          Event.onLog.injEq, true_and] at calls
        exact .inr calls.1
  · rintro (none | rfl)
    · simp [setLog, none]
    · rfl

/-- A connection with one log listener. -/
def watched : ManagementConnection Nat :=
  { opened (lit "127.0.0.1") 23 with mLogManager := ⟨[0], List.pairwise_singleton _ 0⟩ }

/-- A `LOG` message reaches every listener as the record it stands for, and the
call returns, exactly when its text is more than a prefix, a separator follows the
prefix, and the level is decided by the text or by at most one flag. -/
theorem parseInput_logLine_iff (c : ManagementConnection L) {date flags : JString}
    (dateFree : chr ',' ∉ date) (flagged : AreFlags flags) (text : JString) :
    c.parseInput (logLine date flags text) = c.setLog (record date flags text) ↔
      ¬IsBarePrefix text ∧
        (c.mLogManager.toList = [] ∨
          IsSeparated text ∧ (IsLevelled text ∨ flags.length ≤ 1)) := by
  rw [parseInput_logLine c dateFree flagged]
  by_cases bare : IsBarePrefix text
  · rcases logMessage_cases c date flags text with ⟨-, failed⟩ | ⟨delivers, -⟩
    · rw [failed]
      constructor
      · intro same
        cases congrArg Completion.thrown same
      · exact fun condition => absurd bare condition.1
    · exact absurd bare delivers
  · rw [logMessage_delivers c date flags bare, setLog_eq_iff]
    refine (or_congr_right ?_).trans (and_iff_right bare).symm
    rw [← readLevel_eq_iff flagged, ← cutMessage_eq_iff bare, record, Log.mk.injEq]
    exact (and_iff_right rfl).trans and_comm

/-- A message with one flag and a separated prefix reaches its listener. -/
theorem parseInput_logLine_nonfatal :
    watched.parseInput (logLine (lit "1577836800") (lit "N") (lit "NOTE: event_wait")) =
      watched.setLog ⟨lit "1577836800", .error, lit "event_wait"⟩ :=
  (parseInput_logLine_iff watched (by decide) (by decide) _).mpr
    ⟨by decide, .inr ⟨by decide, .inr (by decide)⟩⟩

/-- A nonfatal error that also carries the warning flag arrives as a verbose
message, a text that is only a prefix raises an exception, and a prefix without a
separator takes the first letter of the text with it. -/
theorem watched_misses :
    watched.parseInput (logLine (lit "1577836800") (lit "NW") (lit "write failed")) ≠
        watched.setLog (record (lit "1577836800") (lit "NW") (lit "write failed")) ∧
      (record (lit "1577836800") (lit "NW") (lit "write failed")).level = .error ∧
      watched.parseInput (logLine (lit "1577836800") (lit "W") (lit "WARNING:")) ≠
        watched.setLog (record (lit "1577836800") (lit "W") (lit "WARNING:")) ∧
      (watched.parseInput (logLine (lit "1577836800") (lit "W") (lit "WARNING:"))).thrown =
        some .stringIndexOutOfBoundsException ∧
      watched.parseInput (logLine (lit "1577836800") (lit "W") (lit "WARNING:disk full")) =
        watched.setLog ⟨lit "1577836800", .warning, lit "isk full"⟩ ∧
      record (lit "1577836800") (lit "W") (lit "WARNING:disk full") =
        ⟨lit "1577836800", .warning, lit "disk full"⟩ := by
  refine ⟨fun same => ?_, by decide, fun same => ?_, by decide, rfl, by decide⟩
  · exact absurd (congrArg Completion.emitted same) (by decide)
  · exact absurd (congrArg Completion.thrown same) (by decide)

end ManagementConnection
end Openpyn.Management
