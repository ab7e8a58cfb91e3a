import Openpyn.Management.CommandParsing
import Openpyn.Management.Reading

/-!
# Credentials on the command line

A prompt is answered with command lines that carry the prompt's type and an
escaped credential. The server reads a quoted credential back exactly. Without
quotes it does so only when the credential has no white space and does not start
with a single quote, neither of which makes `escapeOpenVPN` quote it.
-/

namespace Openpyn.Management

open Foundation Java StringUtils CommandParsing

/-- A text the user can enter: not blank, on one line and free of NUL. -/
structure Credential where
  text : JString
  notBlank : isBlank text = false
  oneLine : ∀ ch ∈ text, ch ≠ chr '\n' ∧ ch ≠ chr '\r' ∧ ch ≠ 0

namespace Credential

/-- A credential has a first character. -/
theorem nonempty (credential : Credential) : credential.text ≠ [] := by
  intro empty
  have blank := credential.notBlank
  rw [empty] at blank
  cases blank

/-- The text written for a credential is its escaped form. -/
theorem escapedCredential_eq (credential : Credential) :
    ManagementConnection.escapedCredential (some credential.text) =
      escapeOpenVPN credential.text := by
  simp [ManagementConnection.escapedCredential, credential.notBlank]

end Credential

/-- The server reads the text back: it is quoted, or nothing in it separates or
quotes. -/
def Readable (cs : JString) : Prop :=
  NeedsQuotes cs ∨ (∀ ch ∈ cs, isSpace ch = false) ∧ cs.head? ≠ some (chr '\'')

/-! ## Reading one argument back -/

/-- Inside double quotes an escaped text is read as the text. -/
theorem scan_quoted_escape (cs parm rest : JString) :
    scan .quoted parm (escapeOpenVPNStyleString cs ++ rest) =
      scan .quoted (parm ++ cs) rest := by
  induction cs generalizing parm with
  | nil => simp [escapeOpenVPNStyleString]
  | cons ch tail inductionHypothesis =>
      have later := inductionHypothesis (parm ++ [ch])
      rw [List.append_assoc, List.singleton_append] at later
      rw [← later, escapeOpenVPNStyleString, List.flatMap_cons, List.append_assoc,
        ← escapeOpenVPNStyleString]
      have backslash : react .quoted (chr '\\') = .move .quotedEscaped := by decide
      by_cases isBackslash : ch = chr '\\'
      · subst isBackslash
        have stores : react .quotedEscaped (chr '\\') = .store .quoted := by decide
        have escaped : escapeChar (chr '\\') = [chr '\\', chr '\\'] := by decide
        simp only [escaped, List.cons_append, List.nil_append, scan, backslash, stores]
      · by_cases isQuote : ch = chr '"'
        · subst isQuote
          have stores : react .quotedEscaped (chr '"') = .store .quoted := by decide
          have escaped : escapeChar (chr '"') = [chr '\\', chr '"'] := by decide
          simp only [escaped, List.cons_append, List.nil_append, scan, backslash, stores]
        · have stores : react .quoted ch = .store .quoted := by
            simp [react, isBackslash, isQuote]
          have kept : escapeChar ch = [ch] := by simp [escapeChar, isBackslash, isQuote]
          simp only [kept, List.cons_append, List.nil_append, scan, stores]

/-- A quoted text is one argument. -/
theorem commandParse_quoted (cs : JString) :
    commandParse (chr '"' :: escapeOpenVPNStyleString cs ++ [chr '"']) = some [cs] := by
  have opens : react .initial (chr '"') = .move .quoted := by decide
  have closes : react .quoted (chr '"') = .finish := by decide
  rw [commandParse, List.cons_append, scan, opens]
  dsimp only
  rw [scan_quoted_escape, List.nil_append, scan, closes]
  rfl

/-- A first character that is not kept leaves too few characters. -/
theorem commandParse_ne_of_skip {first : JChar} {rest : JString} {state : LexState}
    (skips : scan .initial [] (first :: rest) = scan state [] rest) :
    commandParse (first :: rest) ≠ some [first :: rest] := by
  intro parsed
  have bound : size [first :: rest] ≤ 0 + rest.length := size_le_of_scan (skips.symm.trans parsed)
  rw [size, List.flatten_singleton, List.length_cons] at bound
  omega

/-- After an ordinary character, the first white space ends the argument. -/
theorem commandParse_ordinary_iff {first : JChar} {rest : JString} (ordinary : IsOrdinary first)
    (noBackslash : ∀ ch ∈ rest, ch ≠ chr '\\') :
    commandParse (first :: rest) = some [first :: rest] ↔ ∀ ch ∈ rest, isSpace ch = false := by
  rw [commandParse, scan_initial_ordinary ordinary]
  constructor
  · intro parsed
    cases found : rest.find? isSpace with
    | none => simpa using List.find?_eq_none.mp found
    | some blank =>
        obtain ⟨separates, word, tail, rfl, spaceless⟩ := List.find?_eq_some_iff_append.mp found
        have words : ∀ ch ∈ word, IsPlain ch := fun ch member =>
          ⟨by simpa using spaceless ch member, noBackslash ch (List.mem_append_left _ member)⟩
        rw [scan_unquoted_append words, scan_unquoted_space separates,
          Option.map_eq_some_iff] at parsed
        obtain ⟨others, -, same⟩ := parsed
        have lengths := congrArg (fun arguments => (arguments.head?.map List.length)) same
        simp at lengths
  · intro spaceless
    have words : ∀ ch ∈ rest, IsPlain ch := fun ch member =>
      ⟨spaceless ch member, noBackslash ch member⟩
    have whole := scan_unquoted_append words [first] []
    rw [List.append_nil] at whole
    rw [whole]
    rfl

/-- A text without escapable or listed characters is one argument exactly when
it has no white space and opens no quotation. -/
theorem commandParse_plain_iff {cs : JString} (nonempty : cs ≠ []) (plain : ¬NeedsQuotes cs) :
    commandParse cs = some [cs] ↔
      (∀ ch ∈ cs, isSpace ch = false) ∧ cs.head? ≠ some (chr '\'') := by
  obtain ⟨first, rest, rfl⟩ := List.exists_cons_of_ne_nil nonempty
  have noBackslash : ∀ ch ∈ first :: rest, ch ≠ chr '\\' := by
    rintro ch member rfl
    exact plain (.inl member)
  by_cases space : isSpace first = true
  · have unread := commandParse_ne_of_skip (scan_initial_space space rest)
    constructor
    · exact fun parsed => absurd parsed unread
    · rintro ⟨spaceless, -⟩
      rw [spaceless first List.mem_cons_self] at space
      cases space
  · by_cases quotes : first = chr '\''
    · subst quotes
      have opens : react .initial (chr '\'') = .move .squoted := by decide
      have skips : scan .initial [] (chr '\'' :: rest) = scan .squoted [] rest := by
        rw [scan, opens]
      have unread := commandParse_ne_of_skip skips
      constructor
      · exact fun parsed => absurd parsed unread
      · exact fun readable => absurd rfl readable.2
    · have ordinary : IsOrdinary first := by
        have unlisted : first ∉ searchChars := fun listed =>
          plain (.inr (.inr ⟨first, List.mem_cons_self, listed⟩))
        refine ⟨⟨by simpa using space, noBackslash first List.mem_cons_self⟩, ?_, ?_, ?_, quotes⟩
        · rintro rfl
          exact unlisted (by decide)
        · rintro rfl
          exact unlisted (by decide)
        · rintro rfl
          exact plain (.inr (.inl List.mem_cons_self))
      rw [commandParse_ordinary_iff ordinary (List.forall_mem_cons.mp noBackslash).2]
      simp [space, quotes]

/-- An escaped credential is read back exactly when it is readable. -/
theorem commandParse_escapeOpenVPN_iff (credential : Credential) :
    commandParse (escapeOpenVPN credential.text) = some [credential.text] ↔
      Readable credential.text := by
  rcases escapeOpenVPN_cases credential.nonempty with ⟨quoted, escaped⟩ | ⟨plain, escaped⟩
  · rw [escaped]
    exact ⟨fun _ => .inl quoted, fun _ => commandParse_quoted credential.text⟩
  · rw [escaped, commandParse_plain_iff credential.nonempty plain, Readable,
      or_iff_right plain]

/-! ## Answering a prompt -/

/-- The arguments of a credential command are its name, the type and whatever the
server makes of the credential. -/
theorem commandParse_usernameCommand {type : JString} (literal : chr '\'' ∉ type)
    (escaped : JString) :
    commandParse (Commands.usernameCommand type escaped) =
      (commandParse escaped).map fun others => lit "username" :: type :: others := by
  have line := commandParse_prompt (chr 'u') (lit "sername") (by decide) (by decide) literal escaped
  rw [← show lit "username" = chr 'u' :: lit "sername" from rfl] at line
  rw [← line, Commands.usernameCommand]
  congr 1
  simp [lit, chr]

theorem commandParse_passwordCommand {type : JString} (literal : chr '\'' ∉ type)
    (escaped : JString) :
    commandParse (Commands.passwordCommand type escaped) =
      (commandParse escaped).map fun others => lit "password" :: type :: others := by
  have line := commandParse_prompt (chr 'p') (lit "assword") (by decide) (by decide) literal escaped
  rw [← show lit "password" = chr 'p' :: lit "assword" from rfl] at line
  rw [← line, Commands.passwordCommand]
  congr 1
  simp [lit, chr]

/-- What the answer to a prompt should tell the server: under which command it
should find which credential. -/
def answers (type : JString) (username password : Credential) : List (JString × Credential) :=
  if type = lit "Auth" then [(lit "username", username), (lit "password", password)]
  else [(lit "password", password)]

namespace ManagementConnection

variable {L : Type}

/-- The commands issued at a prompt the client knows. -/
theorem processPassword_issued {c : ManagementConnection L} (established : c.Established)
    {argument type : JString} (prompt : IsPrompt argument type)
    (known : type = lit "Auth" ∨ type = lit "Private Key") {handler : UsernamePasswordHandler}
    (installed : c.mUsernamePasswordHandler = some handler) (username password : Credential)
    (given : handler.answers 0 = (some username.text, some password.text)) :
    (c.processPassword argument).emitted.filterMap Event.issued =
      if type = lit "Auth" then
        [Commands.usernameCommand type (escapeOpenVPN username.text),
          Commands.passwordCommand type (escapeOpenVPN password.text)]
      else [Commands.passwordCommand type (escapeOpenVPN password.text)] := by
  have asked : c.askCredentials.1 = (some username.text, some password.text) := by
    simp [askCredentials, installed, given]
  have still : c.askCredentials.2.Established := by
    rw [(askCredentials_frame c).super]
    exact established
  rw [processPassword_prompt c prompt, answerPrompt, asked, Credential.escapedCredential_eq,
    Credential.escapedCredential_eq]
  by_cases auth : type = lit "Auth"
  · rw [if_pos auth, if_pos auth, managementCommand_established still, Completion.emit_andThen,
      managementCommand_established still]
    rfl
  · rw [if_neg auth, if_neg auth, if_pos (known.resolve_left auth),
      managementCommand_established still]
    rfl

/-- The server finds every credential of an answer under its command and type
exactly when all of them are readable. -/
theorem processPassword_tokens_iff {c : ManagementConnection L} (established : c.Established)
    {argument type : JString} (prompt : IsPrompt argument type)
    (known : type = lit "Auth" ∨ type = lit "Private Key") {handler : UsernamePasswordHandler}
    (installed : c.mUsernamePasswordHandler = some handler) (username password : Credential)
    (given : handler.answers 0 = (some username.text, some password.text)) :
    ((c.processPassword argument).emitted.filterMap Event.issued).map commandParse =
        (answers type username password).map (fun answer =>
          some [answer.1, type, answer.2.text]) ↔
      ∀ answer ∈ answers type username password, Readable answer.2.text := by
  have literal : chr '\'' ∉ type := by
    rcases known with rfl | rfl <;> decide
  have named : ∀ (name : JString) (credential : Credential),
      (commandParse (escapeOpenVPN credential.text)).map (fun others => name :: type :: others) =
          some [name, type, credential.text] ↔ Readable credential.text := by
    intro name credential
    rw [← commandParse_escapeOpenVPN_iff, Option.map_eq_some_iff]
    simp
  rw [processPassword_issued established prompt known installed username password given, answers]
  by_cases auth : type = lit "Auth"
  · simp only [if_pos auth, List.map_cons, List.map_nil, commandParse_usernameCommand literal,
      commandParse_passwordCommand literal, List.cons.injEq, named, and_true,
      List.forall_mem_cons, List.not_mem_nil, false_implies, implies_true]
  · simp only [if_neg auth, List.map_cons, List.map_nil, commandParse_passwordCommand literal,
      List.cons.injEq, named, and_true, List.forall_mem_cons, List.not_mem_nil, false_implies,
      implies_true]

/-- An opened connection whose handler always gives this answer. -/
def asking (username password : JString) : ManagementConnection L :=
  { opened (lit "localhost") 7505 with
    mUsernamePasswordHandler := some (.always (some username) (some password)) }

theorem asking_established (username password : JString) :
    (asking username password : ManagementConnection L).Established :=
  opened_established (L := L) (lit "localhost") 7505

/-- A credential with a listed character is quoted, and so it is read back. -/
theorem processPassword_tokens_quoted :
    (((asking (lit "me") (lit "a b&c") : ManagementConnection Unit).processPassword
        (lit "Need 'Private Key' password")).emitted.filterMap Event.issued).map commandParse =
      [some [lit "password", lit "Private Key", lit "a b&c"]] := by
  have established :
      (asking (lit "me") (lit "a b&c") : ManagementConnection Unit).Established :=
    asking_established (lit "me") (lit "a b&c")
  have prompt : IsPrompt (lit "Need 'Private Key' password") (lit "Private Key") :=
    ⟨by decide, lit "Need ", lit " password", by decide, by decide, by decide⟩
  refine (processPassword_tokens_iff established prompt (.inr rfl) rfl
    ⟨lit "me", by decide, by decide⟩ ⟨lit "a b&c", by decide, by decide⟩ rfl).mpr ?_
  intro answer member
  obtain rfl := List.mem_singleton.mp member
  exact .inl (.inr (.inr ⟨chr '&', by decide, by decide⟩))

/-- A password with a blank and no listed character is cut in two. -/
theorem processPassword_tokens_blank :
    let password : Credential := ⟨lit "my pass", by decide, by decide⟩
    IsPrompt (lit "Need 'Private Key' password") (lit "Private Key") ∧
      (((asking (lit "me") password.text : ManagementConnection Unit).processPassword
          (lit "Need 'Private Key' password")).emitted.filterMap Event.issued).map commandParse ≠
        [some [lit "password", lit "Private Key", password.text]] := by
  refine ⟨⟨by decide, lit "Need ", lit " password", by decide, by decide, by decide⟩, ?_⟩
  decide

end ManagementConnection

end Openpyn.Management
