import Openpyn.Foundation.ShellWords
import Openpyn.Java.DoubleText
import Openpyn.Map.SelectedMarker
import Openpyn.Preferences.SettingsScreen

/-!
# The command that starts openpyn

`start` glues a command line together from the selected marker and the preferences. The shell
that runs it cuts it into words again. Every word is where it was meant to be: what the
settings screens can store is plain to the shell, and so is the text of a coordinate.
-/

namespace Openpyn.Connection

open Foundation Java Map Preferences

/-! ## The shell -/

/-- The characters with a meaning to a POSIX shell wherever they stand in a word. The brace
is of the shells that expand it. -/
def specialCharacters : List (JChar × Meaning) :=
  [(lit " \t", Meaning.blank), (lit "|&;<>()\n", .operator), (lit "\\", .backslash),
    (lit "'", .singleQuote), (lit "\"", .doubleQuote), (lit "#", .comment),
    (lit "$`*?[~\x7b", .expansion)].flatMap fun entry => entry.1.map fun ch => (ch, entry.2)

/-- The syntax of a POSIX shell. -/
def posix : ShellSyntax JChar where
  meaning ch := (specialCharacters.lookup ch).getD .plain
  operators :=
    ["&&", "||", ";;", "<<", ">>", "<&", ">&", "<>", "<<-", ">|", "&", "|", ";", "<", ">", "(",
      ")", "\n"].map lit
  newline := chr '\n'
  escapable ch := (lit "$`\"\\").contains ch

/-! ## The command -/

/-- `code`. -/
def code (iso : JString) : JString := if iso = lit "gb" then lit "uk" else iso

section Start

variable {adapter : JsonAdapter (LazyMarker LatLng)}

/-- What is appended if there is a location. -/
def locationText : Option Coordinate → JString
  | some location =>
      lit " --location " ++ location.latitude.toString ++ lit " " ++ location.longitude.toString
  | none => []

/-- What `start` appends to `openpyn`, in order. -/
def appended (pair : Option Coordinate × JString) (preferences : SharedPreferences) :
    List JString :=
  let location := pair.1
  let flag := pair.2
  let server := preferences.getString (lit "pref_server") []
  let country := preferences.getString (lit "pref_country") []
  let tcp := preferences.getBoolean (lit "pref_tcp") false
  let load := preferences.getString (lit "pref_max_load") []
  let top := preferences.getString (lit "pref_top_servers") []
  let pings := preferences.getString (lit "pref_pings") []
  let rules := preferences.getBoolean (lit "pref_force_fw") false
  let p2p := preferences.getBoolean (lit "pref_p2p") false
  let dedicated := preferences.getBoolean (lit "pref_dedicated") false
  let double := preferences.getBoolean (lit "pref_double") false
  let onion := preferences.getBoolean (lit "pref_tor") false
  let obfuscated := preferences.getBoolean (lit "pref_anti_ddos") false
  let netflix := preferences.getBoolean (lit "pref_netflix") false
  let test := preferences.getBoolean (lit "pref_test") false
  let patch := preferences.getBoolean (lit "pref_skip_dns_patch") false
  let silent := preferences.getBoolean (lit "pref_silent") false
  let nvram := preferences.getBoolean (lit "pref_nvram") false
  let openvpn := lit "--syslog openpyn"
  [if flag ≠ [] then lit " " ++ code flag
    else if server ≠ [] then lit " --server " ++ server
    else if country ≠ [] then lit " " ++ code country
    else [],
    if tcp then lit " --tcp" else [],
    if load ≠ [] then lit " --max-load " ++ load else [],
    if top ≠ [] then lit " --top-servers " ++ top else [],
    if pings ≠ [] then lit " --pings " ++ pings else [],
    if rules then lit " --force-fw-rules" else [],
    if p2p then lit " --p2p" else [],
    if dedicated then lit " --dedicated" else [],
    if double then lit " --double" else [],
    if onion then lit " --tor" else [],
    if obfuscated then lit " --anti-ddos" else [],
    if netflix then lit " --netflix" else [],
    if test then lit " --test" else [],
    if patch then lit " --skip-dns-patch" else [],
    if silent then lit " --silent" else [],
    if nvram then lit " --nvram " ++ preferences.getString (lit "pref_nvram_client") (lit "5")
      else [],
    if openvpn ≠ [] then lit " --openvpn-options '" ++ openvpn ++ lit "'" else [],
    locationText location]

/-- `pair` in `start`. The tower is the listener that knows the selected marker. -/
def selectedPair (mActivityExecuteCommandListener : Option (MapControlTower LatLng adapter)) :
    Option Coordinate × JString :=
  match mActivityExecuteCommandListener with
  | some tower => tower.positionAndFlagForSelectedMarker
  | none => (none, [])

/-- The file is only loaded for a login shell, and this is a non-interactive shell. -/
def profile : JString := lit "[ -f /opt/etc/profile ] && . /opt/etc/profile ; "

/-- The fields of the controller that `start` writes. -/
structure StartFields where
  test : Bool
  nvram : Bool
  isRunning : Bool
  startCommand : JString

/-- `start`: the fields, the command that is executed, and the result. A plugin that is not
connected raises `ServiceNotConnectedException`. -/
def start (mActivityExecuteCommandListener : Option (MapControlTower LatLng adapter))
    (preferences : SharedPreferences) (connected : Bool) :
    StartFields × Option JString × Bool :=
  let pair := selectedPair mActivityExecuteCommandListener
  let openpyn := lit "openpyn" ++ (appended pair preferences).flatten
  let startCommand := profile ++ openpyn
  let fields : StartFields :=
    { test := preferences.getBoolean (lit "pref_test") false
      nvram := preferences.getBoolean (lit "pref_nvram") false
      isRunning := true
      startCommand := startCommand }
  if startCommand ≠ [] ∧ connected then (fields, some startCommand, true)
  else (fields, none, false)

end Start

/-! ## What the command is to say -/

/-- The text that is set, which is not empty. -/
def setText? (preferences : SharedPreferences) (key : JString) : Option JString :=
  (preferences.strings key).filter fun text => !text.isEmpty

/-- An option whose switch is on. -/
def switchWords (preferences : SharedPreferences) (key option : JString) : List JString :=
  if preferences.booleans key = some true then [option] else []

/-- An option with the text that is set for it. -/
def textWords (preferences : SharedPreferences) (key option : JString) : List JString :=
  match setText? preferences key with
  | some text => [option, text]
  | none => []

/-- The option whose switch and value are different preferences. -/
def nvramWords (preferences : SharedPreferences) : List JString :=
  if preferences.booleans (lit "pref_nvram") = some true then
    [lit "--nvram", (preferences.strings (lit "pref_nvram_client")).getD (lit "5")]
  else []

/-- The target: a country with a selected marker, else the server that is set, else the
country that is set. -/
def targetWords (preferences : SharedPreferences) (flag : Option JString) : List JString :=
  match flag with
  | some flag => [code flag]
  | none =>
      match setText? preferences (lit "pref_server") with
      | some server => [lit "--server", server]
      | none => (setText? preferences (lit "pref_country")).toList.map code

section Words

variable {adapter : JsonAdapter (LazyMarker LatLng)}

/-- The selected marker with its position. -/
def selectedMarker (listener : Option (MapControlTower LatLng adapter)) :
    Option (LatLng × LazyMarker LatLng) :=
  listener.bind MapControlTower.firstSelected

/-- The position of the selected marker if there is another marker of its flag. -/
def locationWords (listener : Option (MapControlTower LatLng adapter)) : List JString :=
  match listener with
  | some tower =>
      match tower.firstSelected with
      | some (key, value) =>
          if tower.FlagShared key value.tag then
            [lit "--location", key.latitude.toString, key.longitude.toString]
          else []
      | none => []
  | none => []

/-- The words of the openpyn command. -/
def openpynWords (listener : Option (MapControlTower LatLng adapter))
    (preferences : SharedPreferences) : List JString :=
  lit "openpyn" ::
    [targetWords preferences ((selectedMarker listener).map fun entry => entry.2.tag),
      switchWords preferences (lit "pref_tcp") (lit "--tcp"),
      textWords preferences (lit "pref_max_load") (lit "--max-load"),
      textWords preferences (lit "pref_top_servers") (lit "--top-servers"),
      textWords preferences (lit "pref_pings") (lit "--pings"),
      switchWords preferences (lit "pref_force_fw") (lit "--force-fw-rules"),
      switchWords preferences (lit "pref_p2p") (lit "--p2p"),
      switchWords preferences (lit "pref_dedicated") (lit "--dedicated"),
      switchWords preferences (lit "pref_double") (lit "--double"),
      switchWords preferences (lit "pref_tor") (lit "--tor"),
      switchWords preferences (lit "pref_anti_ddos") (lit "--anti-ddos"),
      switchWords preferences (lit "pref_netflix") (lit "--netflix"),
      switchWords preferences (lit "pref_test") (lit "--test"),
      switchWords preferences (lit "pref_skip_dns_patch") (lit "--skip-dns-patch"),
      switchWords preferences (lit "pref_silent") (lit "--silent"),
      nvramWords preferences,
      [lit "--openvpn-options", lit "--syslog openpyn"],
      locationWords listener].flatten

end Words

/-- The tokens of `profile`, before the openpyn command. The first of them is a bracket, which is no
pattern on its own. -/
def profileTokens : List (ShellToken JChar) :=
  [.word ⟨lit "[", false⟩, .word (.literal (lit "-f")), .word (.literal (lit "/opt/etc/profile")),
    .word (.literal (lit "]")), .operator (lit "&&"), .word (.literal (lit ".")),
    .word (.literal (lit "/opt/etc/profile")), .operator (lit ";")]

/-! ## Plain words -/

theorem blank_space : posix.meaning (chr ' ') = .blank := by decide

/-- A character is plain if it has a property that no special character has. -/
theorem meaning_plain {property : JChar → Prop} {ch : JChar} (holds : property ch)
    (none : ∀ entry ∈ specialCharacters, ¬property entry.1) : posix.meaning ch = .plain := by
  have absent : specialCharacters.lookup ch = Option.none := by
    rw [List.lookup_eq_none_iff]
    intro entry member
    rw [bne_iff_ne]
    intro same
    exact none entry member (same ▸ holds)
  change (specialCharacters.lookup ch).getD .plain = .plain
  rw [absent]
  rfl

/-- A lower-case letter of ASCII. -/
def IsLetter (ch : JChar) : Prop := chr 'a' ≤ ch ∧ ch ≤ chr 'z'

instance (ch : JChar) : Decidable (IsLetter ch) := inferInstanceAs (Decidable (_ ∧ _))

theorem meaning_letter {ch : JChar} (letter : IsLetter ch) : posix.meaning ch = .plain :=
  meaning_plain letter (by decide)

theorem meaning_digit {ch : JChar} (digit : IsDigit ch) : posix.meaning ch = .plain :=
  meaning_plain digit (by decide)

theorem meaning_numeric {ch : JChar} (numeric : Double.IsNumeric ch) :
    posix.meaning ch = .plain := by
  have listed : ∀ other ∈ lit "-.ENaInfity", posix.meaning other = .plain := by decide
  rcases numeric with digit | other
  · exact meaning_digit digit
  · exact listed ch other

/-- A character beyond ASCII. -/
theorem meaning_other {ch : JChar} (other : 128 ≤ ch.toNat) : posix.meaning ch = .plain := by
  have ascii : ∀ entry ∈ specialCharacters, ¬128 ≤ entry.1.toNat := by decide
  exact @meaning_plain (fun ch => 128 ≤ ch.toNat) ch other ascii

theorem isPlain_toString (value : Double) : posix.IsPlain value.toString := by
  obtain ⟨nonempty, numeric⟩ := value.toString_spec
  exact ⟨nonempty, fun ch member => meaning_numeric (numeric ch member)⟩

/-- The texts of options and of the values of lists: letters, digits and hyphens. -/
def IsOptionText (text : JString) : Prop :=
  text ≠ [] ∧ ∀ ch ∈ text, IsLetter ch ∨ IsDigit ch ∨ ch = chr '-'

instance (text : JString) : Decidable (IsOptionText text) := inferInstanceAs (Decidable (_ ∧ _))

theorem IsOptionText.isPlain {text : JString} (option : IsOptionText text) :
    posix.IsPlain text := by
  refine ⟨option.1, fun ch member => ?_⟩
  rcases option.2 ch member with letter | digit | rfl
  · exact meaning_letter letter
  · exact meaning_digit digit
  · decide

theorem isPlain_code {iso : JString} (plain : posix.IsPlain iso) : posix.IsPlain (code iso) := by
  unfold code
  split
  · exact (by decide : IsOptionText (lit "uk")).isPlain
  · exact plain

theorem isLetter_of_isLower {ch : JChar} (ascii : ch.toNat < 128)
    (lower : (Char.ofNat ch.toNat).isLower = true) : IsLetter ch := by
  obtain ⟨first, last⟩ := Bool.and_eq_true_iff.mp lower
  have low : 97 ≤ (Char.ofNat ch.toNat).toNat :=
    UInt32.le_iff_toNat_le.mp (of_decide_eq_true first)
  have high : (Char.ofNat ch.toNat).toNat ≤ 122 :=
    UInt32.le_iff_toNat_le.mp (of_decide_eq_true last)
  rw [toNat_ofNat_of_ascii ascii] at low high
  exact ⟨UInt16.le_iff_toNat_le.mpr low, UInt16.le_iff_toNat_le.mpr high⟩

theorem isDigit_of_isDigit {ch : JChar} (ascii : ch.toNat < 128)
    (digit : (Char.ofNat ch.toNat).isDigit = true) : IsDigit ch := by
  obtain ⟨first, last⟩ := Bool.and_eq_true_iff.mp digit
  have low : 48 ≤ (Char.ofNat ch.toNat).toNat :=
    UInt32.le_iff_toNat_le.mp (of_decide_eq_true first)
  have high : (Char.ofNat ch.toNat).toNat ≤ 57 :=
    UInt32.le_iff_toNat_le.mp (of_decide_eq_true last)
  rw [toNat_ofNat_of_ascii ascii] at low high
  exact ⟨UInt16.le_iff_toNat_le.mpr low, UInt16.le_iff_toNat_le.mpr high⟩

/-- A valid server has letters and digits, of whatever script the digits are. -/
theorem isPlain_server {digits : DigitClass} {server : JString}
    (valid : validate digits server = true) : posix.IsPlain server := by
  have full : regexMatches digits server = true := by
    unfold validate at valid
    split at valid
    · assumption
    · cases valid
  unfold regexMatches at full
  split at full
  · rename_i first second number points
    simp only [Bool.and_eq_true, List.all_eq_true] at full
    obtain ⟨⟨⟨⟨lower, lower'⟩, _⟩, _⟩, numeric⟩ := full
    refine ⟨fun empty => ?_, fun ch member => ?_⟩
    · rw [empty, codePoints] at points
      cases points
    · by_cases ascii : ch.toNat < 128
      · have point := mem_codePoints member ascii
        rw [points] at point
        rcases List.mem_cons.mp point with same | later
        · exact meaning_letter (isLetter_of_isLower ascii (same ▸ lower))
        · rcases List.mem_cons.mp later with same | inNumber
          · exact meaning_letter (isLetter_of_isLower ascii (same ▸ lower'))
          · have digit := numeric _ inNumber
            rw [digits.ascii _ (by rwa [toNat_ofNat_of_ascii ascii])] at digit
            exact meaning_digit (isDigit_of_isDigit ascii digit)
      · exact meaning_other (Nat.le_of_not_lt ascii)
  · cases full

/-! ## The pieces -/

section Pieces

variable {digits : DigitClass} {preferences : SharedPreferences}

theorem adds_word {text word : JString} (begins : text = chr ' ' :: word)
    (plain : posix.IsPlain word) : posix.Adds text [word] :=
  begins ▸ .plain blank_space plain

theorem adds_pair {text option value : JString}
    (begins : text = chr ' ' :: option ++ chr ' ' :: value) (simple : IsOptionText option)
    (plain : posix.IsPlain value) : posix.Adds text [option, value] :=
  begins ▸ (ShellSyntax.Adds.plain blank_space simple.isPlain).append (.plain blank_space plain)

theorem adds_switch {key text option : JString} (begins : text = chr ' ' :: option)
    (simple : IsOptionText option) :
    posix.Adds (if preferences.getBoolean key false then text else [])
      (switchWords preferences key option) := by
  unfold switchWords SharedPreferences.getBoolean
  cases preferences.booleans key with
  | none => exact .nil
  | some checked =>
      cases checked with
      | false => exact .nil
      | true => exact adds_word begins simple.isPlain

/-- The values of a text preference are plain, if one is stored. -/
def PlainText (preferences : SharedPreferences) (key : JString) : Prop :=
  ∀ value, setText? preferences key = some value → posix.IsPlain value

theorem getString_eq (key : JString) :
    preferences.getString key [] = (setText? preferences key).getD [] := by
  unfold SharedPreferences.getString setText?
  cases preferences.strings key with
  | none => rfl
  | some value =>
      cases value with
      | nil => rfl
      | cons ch rest => rfl

theorem setText?_ne_nil {key value : JString} (set : setText? preferences key = some value) :
    value ≠ [] := by
  simpa using (Option.filter_eq_some_iff.mp set).2

theorem adds_text {key text option : JString} (begins : text = chr ' ' :: option ++ [chr ' '])
    (simple : IsOptionText option) (values : PlainText preferences key) :
    posix.Adds (if preferences.getString key [] ≠ [] then text ++ preferences.getString key []
      else []) (textWords preferences key option) := by
  rw [getString_eq]
  unfold textWords
  cases set : setText? preferences key with
  | none => exact .nil
  | some value =>
      rw [Option.getD_some, if_pos (setText?_ne_nil set)]
      exact adds_pair (by simp [begins]) simple (values value set)

theorem adds_target (flag : Option JString)
    (country : ∀ text, flag = some text → posix.IsPlain text)
    (server : PlainText preferences (lit "pref_server"))
    (fallback : PlainText preferences (lit "pref_country")) :
    posix.Adds
      (if flag.getD [] ≠ [] then lit " " ++ code (flag.getD [])
        else if preferences.getString (lit "pref_server") [] ≠ [] then
          lit " --server " ++ preferences.getString (lit "pref_server") []
        else if preferences.getString (lit "pref_country") [] ≠ [] then
          lit " " ++ code (preferences.getString (lit "pref_country") [])
        else [])
      (targetWords preferences flag) := by
  rw [getString_eq, getString_eq]
  cases flag with
  | some flag =>
      have plain := country flag rfl
      rw [Option.getD_some, if_pos plain.1]
      exact adds_word rfl (isPlain_code plain)
  | none =>
      rw [Option.getD_none, if_neg (not_not.mpr rfl), targetWords]
      cases set : setText? preferences (lit "pref_server") with
      | some value =>
          rw [Option.getD_some, if_pos (setText?_ne_nil set)]
          exact adds_pair rfl (by decide) (server value set)
      | none =>
          rw [Option.getD_none, if_neg (not_not.mpr rfl)]
          cases set : setText? preferences (lit "pref_country") with
          | some value =>
              rw [Option.getD_some, if_pos (setText?_ne_nil set)]
              exact adds_word rfl (isPlain_code (fallback value set))
          | none => exact .nil

theorem adds_nvram (values : ∀ value, preferences.strings (lit "pref_nvram_client") = some value →
      posix.IsPlain value) :
    posix.Adds
      (if preferences.getBoolean (lit "pref_nvram") false then
          lit " --nvram " ++ preferences.getString (lit "pref_nvram_client") (lit "5")
        else [])
      (nvramWords preferences) := by
  have plain : posix.IsPlain (preferences.getString (lit "pref_nvram_client") (lit "5")) := by
    unfold SharedPreferences.getString
    cases stored : preferences.strings (lit "pref_nvram_client") with
    | none => exact (by decide : IsOptionText (lit "5")).isPlain
    | some value => exact values value stored
  unfold nvramWords SharedPreferences.getBoolean
  cases preferences.booleans (lit "pref_nvram") with
  | none => exact .nil
  | some checked =>
      cases checked with
      | false => exact .nil
      | true => exact adds_pair rfl (by decide) plain

end Pieces

/-! ## What is stored -/

section Stored

variable {digits : DigitClass} {preferences : SharedPreferences}

/-- The values of a list preference are those of its array. -/
theorem plain_of_list (storable : Storable digits preferences) {key defaultValue : JString}
    {entryValues : List JString}
    (shown : ⟨key, .listPreference entryValues defaultValue⟩ ∈ prefSettings)
    (simple : ∀ value ∈ entryValues, IsOptionText value) (value : JString)
    (stored : preferences.strings key = some value) : posix.IsPlain value :=
  (simple value (storable _ (List.mem_append_left _ shown) value stored)).isPlain

theorem setText?_stored {key value : JString} (set : setText? preferences key = some value) :
    preferences.strings key = some value :=
  (Option.filter_eq_some_iff.mp set).1

theorem plainText_of_list (storable : Storable digits preferences) {key defaultValue : JString}
    {entryValues : List JString}
    (shown : ⟨key, .listPreference entryValues defaultValue⟩ ∈ prefSettings)
    (simple : ∀ value ∈ entryValues, IsOptionText value) : PlainText preferences key :=
  fun value set => plain_of_list storable shown simple value (setText?_stored set)

theorem plainText_server (storable : Storable digits preferences) :
    PlainText preferences (lit "pref_server") := by
  intro value set
  have shown : ⟨lit "pref_server", .editTextPreference⟩ ∈ prefSettings ++ prefConnect :=
    List.mem_cons_self
  rcases storable _ shown value (setText?_stored set) with empty | valid
  · exact absurd empty (setText?_ne_nil set)
  · exact isPlain_server valid

end Stored

/-! ## The whole command -/

section Whole

variable {adapter : JsonAdapter (LazyMarker LatLng)} {digits : DigitClass}
  {preferences : SharedPreferences}

/-- The flag of the selected marker, if there is one, is a word as every country code is. It
is the flag of a server of the list, see `MapControlTower.flags_after`. -/
def PlainFlag (listener : Option (MapControlTower LatLng adapter)) : Prop :=
  ∀ entry, selectedMarker listener = some entry → posix.IsPlain entry.2.tag

theorem selectedPair_flag (listener : Option (MapControlTower LatLng adapter)) :
    (selectedPair listener).2 =
      ((selectedMarker listener).map fun entry => entry.2.tag).getD [] := by
  cases listener with
  | none => rfl
  | some tower =>
      unfold selectedPair selectedMarker
      rw [Option.bind_some]
      cases selected : tower.firstSelected with
      | none =>
          dsimp only
          rw [MapControlTower.positionAndFlag_of_none selected]
          rfl
      | some entry =>
          dsimp only
          rw [MapControlTower.positionAndFlag_of_selected selected]
          rfl

theorem adds_location (listener : Option (MapControlTower LatLng adapter)) :
    posix.Adds (locationText (selectedPair listener).1) (locationWords listener) := by
  cases listener with
  | none => exact .nil
  | some tower =>
      unfold selectedPair locationWords
      dsimp only
      cases selected : tower.firstSelected with
      | none =>
          rw [MapControlTower.positionAndFlag_of_none selected]
          exact .nil
      | some entry =>
          rw [MapControlTower.positionAndFlag_of_selected selected]
          dsimp only
          split
          · have latitude : posix.Adds (lit " --location " ++ entry.1.latitude.toString)
                [lit "--location", entry.1.latitude.toString] :=
              adds_pair rfl (by decide) (isPlain_toString _)
            have longitude : posix.Adds (lit " " ++ entry.1.longitude.toString)
                [entry.1.longitude.toString] :=
              adds_word rfl (isPlain_toString _)
            have whole := latitude.append longitude
            rw [← List.append_assoc] at whole
            exact whole
          · exact .nil

/-- The quotes make one word of what is passed on to OpenVPN. -/
theorem adds_openvpn :
    posix.Adds (lit " --openvpn-options '" ++ lit "--syslog openpyn" ++ lit "'")
      [lit "--openvpn-options", lit "--syslog openpyn"] := by
  have option : posix.Adds (lit " --openvpn-options") [lit "--openvpn-options"] :=
    adds_word rfl (by decide : IsOptionText _).isPlain
  have quoted : posix.Adds (chr ' ' :: chr '\'' :: (lit "--syslog openpyn" ++ [chr '\'']))
      [lit "--syslog openpyn"] :=
    .quoted blank_space (by decide) (by decide)
  exact option.append quoted

theorem adds_appended (storable : Storable digits preferences)
    (listener : Option (MapControlTower LatLng adapter)) (plainFlag : PlainFlag listener) :
    posix.Adds (appended (selectedPair listener) preferences).flatten
      (openpynWords listener preferences).tail := by
  have shown : ⟨lit "pref_country", .listPreference prefCountryValues (lit "gb")⟩ ∈
      prefSettings := by
    simp [prefSettings]
  have country := plainText_of_list storable shown (by decide +kernel)
  have shown : ⟨lit "pref_max_load", .listPreference prefMaxLoadValues (lit "70")⟩ ∈
      prefSettings := by
    simp [prefSettings]
  have load := plainText_of_list storable shown (by decide)
  have shown : ⟨lit "pref_top_servers", .listPreference prefTopServersValues (lit "10")⟩ ∈
      prefSettings := by
    simp [prefSettings]
  have top := plainText_of_list storable shown (by decide)
  have shown : ⟨lit "pref_pings", .listPreference prefPingsValues (lit "3")⟩ ∈ prefSettings := by
    simp [prefSettings]
  have pings := plainText_of_list storable shown (by decide)
  have shown : ⟨lit "pref_nvram_client", .listPreference prefNvramClientValues (lit "5")⟩ ∈
      prefSettings := by
    simp [prefSettings]
  have client := plain_of_list storable shown (by decide)
  have flag : ∀ text, (selectedMarker listener).map (fun entry => entry.2.tag) = some text →
      posix.IsPlain text := by
    intro text found
    obtain ⟨entry, selected, rfl⟩ := Option.map_eq_some_iff.mp found
    exact plainFlag entry selected
  rw [openpynWords, List.tail_cons, appended, selectedPair_flag]
  apply ShellSyntax.Adds.flatten
  simp only [List.forall₂_cons]
  exact ⟨adds_target _ flag (plainText_server storable) country, adds_switch rfl (by decide),
    adds_text rfl (by decide) load, adds_text rfl (by decide) top,
    adds_text rfl (by decide) pings, adds_switch rfl (by decide), adds_switch rfl (by decide),
    adds_switch rfl (by decide), adds_switch rfl (by decide), adds_switch rfl (by decide),
    adds_switch rfl (by decide), adds_switch rfl (by decide), adds_switch rfl (by decide),
    adds_switch rfl (by decide), adds_switch rfl (by decide), adds_nvram client, adds_openvpn,
    adds_location listener, .nil⟩

theorem tokens_line {text : JString} {words : List JString} (adds : posix.Adds text words) :
    posix.tokens (profile ++ (lit "openpyn" ++ text)) =
      some (profileTokens ++ (lit "openpyn" :: words).map fun word => .word (.literal word)) := by
  have before : posix.tokens (profile ++ lit "openpyn") =
      some (profileTokens ++ [.word (.literal (lit "openpyn"))]) := by decide +kernel
  have whole := ShellSyntax.tokens_append (by decide +kernel) before adds
  rw [List.append_assoc, List.append_assoc] at whole
  exact whole

theorem start_startCommand (listener : Option (MapControlTower LatLng adapter))
    (preferences : SharedPreferences) (connected : Bool) :
    (start listener preferences connected).1.startCommand =
      profile ++ (lit "openpyn" ++ (appended (selectedPair listener) preferences).flatten) := by
  unfold start
  dsimp only
  split
  · rfl
  · rfl

/-- Whatever the settings screens have stored and whichever marker is selected, the shell
finds the words of the openpyn command and no others. -/
theorem startCommand_words (storable : Storable digits preferences)
    (listener : Option (MapControlTower LatLng adapter)) (plainFlag : PlainFlag listener)
    (connected : Bool) :
    posix.tokens (start listener preferences connected).1.startCommand =
      some (profileTokens ++
        (openpynWords listener preferences).map fun word => .word (.literal word)) := by
  rw [start_startCommand]
  exact tokens_line (adds_appended storable listener plainFlag)

/-- One of two British markers is selected, and a few settings are made. -/
theorem startCommand_words_britain :
    let servers : List (Server LatLng) :=
      [⟨lit "gb", ⟨0x4049C00000000000⟩, ⟨0xBFC0000000000000⟩⟩,
        ⟨lit "gb", ⟨0x404AC00000000000⟩, ⟨0xC002000000000000⟩⟩]
    let tower := (towerMachine (MapControlTower.fieldAdapter LatLng)).after
      ⟨(createMarkers servers []).2, {lit "gb"}, [], none⟩
      [.cameraIdle fun _ => true, .markerClick ⟨⟨0x4049C00000000000⟩, ⟨0xBFC0000000000000⟩⟩]
    let preferences := ((SharedPreferences.empty.putString (lit "pref_server")
      (lit "uk1000")).putString (lit "pref_max_load") (lit "70")).putBoolean (lit "pref_tcp") true
    posix.tokens (start (some tower) preferences true).1.startCommand =
      some (profileTokens ++
        (["openpyn", "uk", "--tcp", "--max-load", "70", "--openvpn-options", "--syslog openpyn",
          "--location", "51.5", "-0.125"].map lit).map fun word => .word (.literal word)) := by
  intro servers tower preferences
  have entered : ⟨lit "pref_server", .editTextPreference⟩ ∈ prefSettings ++ prefConnect :=
    List.mem_cons_self
  have valid : validate .basic (lit "uk1000") = true := by decide +kernel
  have server : Storable .basic (SharedPreferences.empty.putString (lit "pref_server")
      (lit "uk1000")) :=
    storable_empty.putString entered rfl (Or.inr valid)
  have shown : ⟨lit "pref_max_load", .listPreference prefMaxLoadValues (lit "70")⟩ ∈
      prefSettings ++ prefConnect := by
    simp [prefSettings]
  have load : prefMaxLoadValues.getLast? = some (lit "70") := rfl
  have storable : Storable .basic preferences :=
    server.putString shown rfl (List.mem_of_getLast? load)
  have selected : (selectedMarker (some tower)).map (fun entry => entry.2.tag) =
      some (lit "gb") := by decide +kernel
  have words : openpynWords (some tower) preferences =
      ["openpyn", "uk", "--tcp", "--max-load", "70", "--openvpn-options", "--syslog openpyn",
        "--location", "51.5", "-0.125"].map lit := by decide +kernel
  have plainFlag : PlainFlag (some tower) := by
    intro entry found
    rw [found, Option.map_some, Option.some_inj] at selected
    rw [selected]
    exact (by decide : IsOptionText (lit "gb")).isPlain
  rw [← words]
  exact startCommand_words storable (some tower) plainFlag true

/-- What the map and the settings screens can come to, from servers whose flags are words:
after any events of either the command is cut as it was meant to be. -/
theorem tokens_after {mapping : CaseMapping}
    (distinguishes : mapping.sameIgnoringCase (chr 's') (chr 'a') = false)
    (changes : List SettingsEvent) {jsonArray : List (Server LatLng)}
    (servers : ∀ res ∈ jsonArray, posix.IsPlain res.flag) {favorites : Option adapter.Text}
    {markers : HashMap LatLng (LazyMarker LatLng)}
    (created : markers.entries.Perm
      (createMarkers jsonArray (MyStorage.loadFavorites adapter favorites)).2.entries)
    (flags : Finset JString) (mCountries : List MultiSelectable) (finish : Option LatLng)
    (events : List (TowerEvent LatLng)) (connected : Bool) :
    let tower := (towerMachine adapter).after
      (MapControlTower.started ⟨markers, flags, mCountries, favorites⟩ finish) events
    let preferences := (settingsMachine mapping digits).after .empty changes
    posix.tokens (start (some tower) preferences connected).1.startCommand =
      some (profileTokens ++
        (openpynWords (some tower) preferences).map fun word => .word (.literal word)) := by
  intro tower preferences
  have plainFlags : MapControlTower.Flags posix.IsPlain tower :=
    MapControlTower.flags_after servers created flags mCountries favorites finish events
  have plainFlag : PlainFlag (some tower) := fun entry selected =>
    plainFlags entry (MapControlTower.firstSelected_spec selected).1
  rw [start_startCommand]
  exact tokens_line (adds_appended (storable_after distinguishes changes) _ plainFlag)

/-- A text that the settings screen stores, one that it refuses, and a marker that is selected. -/
theorem tokens_after_britain :
    let britain : LatLng := ⟨⟨0x4049C00000000000⟩, ⟨0xBFC0000000000000⟩⟩
    let markers := (createMarkers [⟨lit "gb", britain⟩] []).2
    let tower := (towerMachine (MapControlTower.fieldAdapter LatLng)).after
      (MapControlTower.started ⟨markers, {lit "gb"}, [], none⟩ none)
      [.cameraIdle fun _ => true, .markerClick britain]
    let server : ScreenPreference := ⟨⟨lit "pref_server", .editTextPreference⟩, List.mem_cons_self⟩
    let preferences := (settingsMachine .ascii .basic).after .empty
      [.setText server (lit "uk1000"), .setText server (lit "; reboot")]
    posix.tokens (start (some tower) preferences true).1.startCommand =
      some (profileTokens ++ (["openpyn", "uk", "--openvpn-options", "--syslog openpyn"].map
        lit).map fun word => .word (.literal word)) := by
  intro britain markers tower server preferences
  have words : openpynWords (some tower) preferences =
      ["openpyn", "uk", "--openvpn-options", "--syslog openpyn"].map lit := by decide +kernel
  have plain : ∀ res ∈ [(⟨lit "gb", britain⟩ : Server LatLng)], posix.IsPlain res.flag := by
    intro res member
    rw [List.mem_singleton.mp member]
    exact (by decide : IsOptionText (lit "gb")).isPlain
  have distinguishes : CaseMapping.ascii.sameIgnoringCase (chr 's') (chr 'a') = false := by decide
  have created : markers.entries.Perm (createMarkers [⟨lit "gb", britain⟩]
      (MyStorage.loadFavorites (MapControlTower.fieldAdapter LatLng) none)).2.entries := .refl _
  rw [← words]
  exact tokens_after distinguishes
    [.setText server (lit "uk1000"), .setText server (lit "; reboot")] plain created {lit "gb"} []
    none [.cameraIdle fun _ => true, .markerClick britain] true

end Whole

end Openpyn.Connection
