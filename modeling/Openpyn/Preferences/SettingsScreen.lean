import Mathlib.Data.List.Nodup
import Openpyn.Foundation.Machine
import Openpyn.Java.CaseMapping
import Openpyn.Java.Utf8

/-!
# The settings screens

A screen stores a text or a switch under the key of a preference, and before that the
default. `sBindPreferenceSummaryToValueListener` may refuse a text. What can be stored is an
invariant of all runs of the two screens whose preferences make the command line; summaries
are left out.
-/

namespace Openpyn.Preferences

open Foundation Java

/-- `SharedPreferences`. -/
structure SharedPreferences where
  strings : JString → Option JString
  booleans : JString → Option Bool

namespace SharedPreferences

/-- Nothing is stored. -/
def empty : SharedPreferences := ⟨fun _ => none, fun _ => none⟩

def getString (preferences : SharedPreferences) (key defValue : JString) : JString :=
  (preferences.strings key).getD defValue

def getBoolean (preferences : SharedPreferences) (key : JString) (defValue : Bool) : Bool :=
  (preferences.booleans key).getD defValue

def putString (preferences : SharedPreferences) (key value : JString) : SharedPreferences :=
  { preferences with
    strings := fun other => if other = key then some value else preferences.strings other }

def putBoolean (preferences : SharedPreferences) (key : JString) (value : Bool) :
    SharedPreferences :=
  { preferences with
    booleans := fun other => if other = key then some value else preferences.booleans other }

end SharedPreferences

/-! ## The arrays of values -/

/-- `R.array.pref_country_values`. -/
def prefCountryValues : List JString :=
  ["al", "ar", "au", "at", "be", "ba", "br", "bg", "ca", "cl", "cr", "hr", "cy", "cz", "dk",
    "ee", "fi", "fr", "ge", "de", "gr", "hk", "hu", "is", "in", "id", "ie", "il", "it", "jp",
    "lv", "lu", "my", "mx", "md", "nl", "nz", "mk", "no", "pl", "pt", "ro", "rs", "sg", "sk",
    "si", "za", "kr", "es", "se", "ch", "tw", "th", "tr", "ua", "ae", "gb", "us", "vn"].map lit

/-- `R.array.pref_max_load_values`. -/
def prefMaxLoadValues : List JString := ["10", "20", "30", "40", "50", "60", "70"].map lit

/-- `R.array.pref_top_servers_values`. -/
def prefTopServersValues : List JString :=
  ["1", "2", "3", "4", "5", "6", "7", "8", "9", "10"].map lit

/-- `R.array.pref_pings_values`. -/
def prefPingsValues : List JString := ["2", "3", "4", "5"].map lit

/-- `R.array.pref_log_level_values`. -/
def prefLogLevelValues : List JString :=
  ["5", "10", "15", "20", "25", "30", "35", "40", "50"].map lit

/-- `R.array.pref_nvram_client_values`. -/
def prefNvramClientValues : List JString := ["1", "2", "3", "4", "5"].map lit

/-! ## Validation -/

/-- What `\d` matches: on Android the decimal digits of all scripts, elsewhere those of ASCII. -/
structure DigitClass where
  isDigit : Char → Bool
  ascii : ∀ ch, ch.toNat < 128 → isDigit ch = ch.isDigit

/-- The digits of ASCII. -/
def DigitClass.basic : DigitClass := ⟨Char.isDigit, fun _ _ => rfl⟩

section Validate

variable (digits : DigitClass)

/-- `^[a-z]{2}\d{1,4}$` matches the whole text. -/
def regexMatches (str : JString) : Bool :=
  match codePoints str with
  | first :: second :: number =>
      first.isLower && second.isLower && 1 ≤ number.length && number.length ≤ 4 &&
        number.all digits.isDigit
  | _ => false

/-- `validate`. -/
def validate (str : JString) : Bool :=
  if regexMatches digits str then
    let set := lit "uk" :: prefCountryValues
    set.contains (str.take 2)
  else false

end Validate

/-! ## The screens -/

/-- The classes of the preferences. A check box is a two-state preference like a switch. -/
inductive PreferenceKind where
  | editTextPreference
  | listPreference (entryValues : List JString) (defaultValue : JString)
  | twoStatePreference (defaultValue : Bool)

/-- A preference of a screen. -/
structure Preference where
  key : JString
  kind : PreferenceKind

/-- `R.xml.pref_settings`. -/
def prefSettings : List Preference :=
  [⟨lit "pref_server", .editTextPreference⟩,
    ⟨lit "pref_country", .listPreference prefCountryValues (lit "gb")⟩,
    ⟨lit "pref_tcp", .twoStatePreference false⟩,
    ⟨lit "pref_max_load", .listPreference prefMaxLoadValues (lit "70")⟩,
    ⟨lit "pref_top_servers", .listPreference prefTopServersValues (lit "10")⟩,
    ⟨lit "pref_pings", .listPreference prefPingsValues (lit "3")⟩,
    ⟨lit "pref_log_level", .listPreference prefLogLevelValues (lit "25")⟩,
    ⟨lit "pref_test", .twoStatePreference false⟩,
    ⟨lit "pref_silent", .twoStatePreference false⟩,
    ⟨lit "pref_skip_dns_patch", .twoStatePreference false⟩,
    ⟨lit "pref_force_fw", .twoStatePreference false⟩,
    ⟨lit "pref_nvram", .twoStatePreference false⟩,
    ⟨lit "pref_nvram_client", .listPreference prefNvramClientValues (lit "5")⟩]

/-- `R.xml.pref_connect`. -/
def prefConnect : List Preference :=
  [⟨lit "pref_dedicated", .twoStatePreference false⟩,
    ⟨lit "pref_double", .twoStatePreference false⟩,
    ⟨lit "pref_anti_ddos", .twoStatePreference false⟩,
    ⟨lit "pref_tor", .twoStatePreference false⟩,
    ⟨lit "pref_p2p", .twoStatePreference false⟩,
    ⟨lit "pref_test", .twoStatePreference false⟩,
    ⟨lit "pref_silent", .twoStatePreference false⟩,
    ⟨lit "pref_skip_dns_patch", .twoStatePreference false⟩,
    ⟨lit "pref_force_fw", .twoStatePreference false⟩,
    ⟨lit "pref_nvram", .twoStatePreference false⟩]

/-- A preference of one of the screens. -/
abbrev ScreenPreference := {preference : Preference // preference ∈ prefSettings ++ prefConnect}

/-- `sBindPreferenceSummaryToValueListener`: the new value is accepted. -/
def sBindPreferenceSummaryToValueListener (mapping : CaseMapping) (digits : DigitClass)
    (preference : Preference) (stringValue : JString) : Bool :=
  match preference.kind with
  | .listPreference _ _ => true
  | _ =>
      if stringValue.isEmpty then true
      else if mapping.equalsIgnoreCase preference.key (lit "pref_api_ipdata") then true
      else if mapping.equalsIgnoreCase preference.key (lit "pref_api_ipinfo") then true
      else if mapping.startsWithIgnoreCase preference.key (lit "pref_api") then true
      else if mapping.equalsIgnoreCase preference.key (lit "pref_server") &&
          !validate digits stringValue then false
      else true

/-- What happens to a preference: the screen is shown, or the user enters a text, chooses
an entry or turns a switch. -/
inductive SettingsEvent where
  | setInitialValue (preference : ScreenPreference)
  | setText (preference : ScreenPreference) (text : JString)
  | setValueIndex (preference : ScreenPreference) (index : Nat)
  | setChecked (preference : ScreenPreference) (checked : Bool)

/-- The default is stored unless a value is. -/
def setInitialValue (preferences : SharedPreferences) (preference : Preference) :
    SharedPreferences :=
  match preference.kind with
  | .editTextPreference => preferences
  | .listPreference _ defaultValue =>
      if (preferences.strings preference.key).isSome then preferences
      else preferences.putString preference.key defaultValue
  | .twoStatePreference defaultValue =>
      if (preferences.booleans preference.key).isSome then preferences
      else preferences.putBoolean preference.key defaultValue

/-- A value that the listener accepts is stored. -/
def setString (mapping : CaseMapping) (digits : DigitClass) (preferences : SharedPreferences)
    (preference : Preference) (value : JString) : SharedPreferences :=
  if sBindPreferenceSummaryToValueListener mapping digits preference value then
    preferences.putString preference.key value
  else preferences

/-- The stored values under one event after another. -/
def settingsMachine (mapping : CaseMapping) (digits : DigitClass) :
    Machine SharedPreferences SettingsEvent Unit where
  step preferences event :=
    match event with
    | .setInitialValue preference => (setInitialValue preferences preference.1, ())
    | .setText preference text =>
        match preference.1.kind with
        | .editTextPreference => (setString mapping digits preferences preference.1 text, ())
        | _ => (preferences, ())
    | .setValueIndex preference index =>
        match preference.1.kind with
        | .listPreference entryValues _ =>
            match entryValues[index]? with
            | some value => (setString mapping digits preferences preference.1 value, ())
            | none => (preferences, ())
        | _ => (preferences, ())
    | .setChecked preference checked =>
        match preference.1.kind with
        | .twoStatePreference _ => (preferences.putBoolean preference.1.key checked, ())
        | _ => (preferences, ())

/-! ## What the screens can store -/

/-- A text that may be stored for a preference: empty or valid for the server, and one of
the values for a list. -/
def Preference.Admits (digits : DigitClass) (preference : Preference) (value : JString) : Prop :=
  match preference.kind with
  | .editTextPreference => value = [] ∨ validate digits value = true
  | .listPreference entryValues _ => value ∈ entryValues
  | .twoStatePreference _ => True

/-- Every stored text may be stored. -/
def Storable (digits : DigitClass) (preferences : SharedPreferences) : Prop :=
  ∀ preference ∈ prefSettings ++ prefConnect, ∀ value,
    preferences.strings preference.key = some value → preference.Admits digits value

/-- A text is stored for the preference. -/
def Preference.isText (preference : Preference) : Bool :=
  match preference.kind with
  | .twoStatePreference _ => false
  | _ => true

/-- No two texts are stored under one key. -/
theorem nodup_textKeys :
    (((prefSettings ++ prefConnect).filter Preference.isText).map Preference.key).Nodup := by
  decide +kernel

section Runs

variable {mapping : CaseMapping} {digits : DigitClass} {preferences : SharedPreferences}

theorem storable_empty : Storable digits .empty := by
  intro preference _ value stored
  cases stored

/-- A switch may have any text, since none is stored for it. -/
theorem Preference.admits_of_not_isText {preference : Preference}
    (switch : preference.isText = false) (value : JString) : preference.Admits digits value := by
  obtain ⟨key, kind⟩ := preference
  cases kind with
  | editTextPreference => cases switch
  | listPreference entryValues defaultValue => cases switch
  | twoStatePreference defaultValue => trivial

theorem Storable.putString (storable : Storable digits preferences)
    {preference : Preference} (shown : preference ∈ prefSettings ++ prefConnect)
    (text : preference.isText = true) {value : JString}
    (admitted : preference.Admits digits value) :
    Storable digits (preferences.putString preference.key value) := by
  intro other shown' stored found
  cases kind : other.isText with
  | false => exact other.admits_of_not_isText kind stored
  | true =>
      by_cases same : other.key = preference.key
      · obtain rfl : other = preference := List.inj_on_of_nodup_map nodup_textKeys
          (List.mem_filter.mpr ⟨shown', kind⟩) (List.mem_filter.mpr ⟨shown, text⟩) same
        obtain rfl : value = stored := Option.some.inj ((if_pos rfl).symm.trans found)
        exact admitted
      · exact storable other shown' stored ((if_neg same).symm.trans found)

theorem Storable.putBoolean (storable : Storable digits preferences) (key : JString)
    (value : Bool) : Storable digits (preferences.putBoolean key value) := storable

/-- Every default is one of the values. -/
theorem admits_default : ∀ preference ∈ prefSettings ++ prefConnect, ∀ entryValues defaultValue,
    preference.kind = .listPreference entryValues defaultValue → defaultValue ∈ entryValues := by
  have country : lit "gb" ∈ prefCountryValues := by decide
  have load : lit "70" ∈ prefMaxLoadValues := by decide
  have top : lit "10" ∈ prefTopServersValues := by decide
  have pings : lit "3" ∈ prefPingsValues := by decide
  have level : lit "25" ∈ prefLogLevelValues := by decide
  have client : lit "5" ∈ prefNvramClientValues := by decide
  simp [prefSettings, prefConnect, country, load, top, pings, level, client]

theorem Storable.setInitialValue (storable : Storable digits preferences)
    (preference : ScreenPreference) :
    Storable digits (setInitialValue preferences preference.1) := by
  obtain ⟨⟨key, kind⟩, shown⟩ := preference
  cases kind with
  | editTextPreference => exact storable
  | listPreference entryValues defaultValue =>
      unfold Preferences.setInitialValue
      dsimp only
      split
      · exact storable
      · exact storable.putString shown rfl (admits_default _ shown _ _ rfl)
  | twoStatePreference defaultValue =>
      unfold Preferences.setInitialValue
      dsimp only
      split
      · exact storable
      · exact storable.putBoolean key defaultValue

/-- The only text that is entered is the server. -/
theorem key_of_editTextPreference : ∀ preference ∈ prefSettings ++ prefConnect,
    preference.kind = .editTextPreference → preference.key = lit "pref_server" := by
  simp [prefSettings, prefConnect]

/-- The listener accepts no server but an empty or a valid one, if case is the only thing
that the comparison of keys ignores. -/
theorem accepted_server (distinguishes : mapping.sameIgnoringCase (chr 's') (chr 'a') = false)
    {text : JString}
    (accepted : sBindPreferenceSummaryToValueListener mapping digits
      ⟨lit "pref_server", .editTextPreference⟩ text = true) :
    text = [] ∨ validate digits text = true := by
  have longer : ∀ other : JString, other.length = 15 →
      mapping.equalsIgnoreCase (lit "pref_server") other = false := by
    intro other length
    rw [Bool.eq_false_iff]
    intro same
    have lengths : 11 = other.length := CaseMapping.length_of_equalsIgnoreCase same
    omega
  have elsewhere : mapping.startsWithIgnoreCase (lit "pref_server") (lit "pref_api") = false := by
    have first : (lit "pref_server").take (lit "pref_api").length =
        [chr 'p', chr 'r', chr 'e', chr 'f', chr '_', chr 's', chr 'e', chr 'r'] := rfl
    have second : lit "pref_api" =
        [chr 'p', chr 'r', chr 'e', chr 'f', chr '_', chr 'a', chr 'p', chr 'i'] := rfl
    rw [CaseMapping.startsWithIgnoreCase, first, second]
    simp [CaseMapping.equalsIgnoreCase, distinguishes]
  by_cases empty : text = []
  · exact .inl empty
  · right
    simpa [sBindPreferenceSummaryToValueListener, empty, longer (lit "pref_api_ipdata") rfl,
      longer (lit "pref_api_ipinfo") rfl, elsewhere] using accepted

theorem Storable.setString (distinguishes : mapping.sameIgnoringCase (chr 's') (chr 'a') = false)
    (storable : Storable digits preferences) (preference : ScreenPreference)
    (text : preference.1.isText = true) {value : JString}
    (offered : ∀ entryValues defaultValue,
      preference.1.kind = .listPreference entryValues defaultValue → value ∈ entryValues) :
    Storable digits (setString mapping digits preferences preference.1 value) := by
  unfold Preferences.setString
  split
  · rename_i accepted
    refine storable.putString preference.2 text ?_
    obtain ⟨⟨key, kind⟩, shown⟩ := preference
    cases kind with
    | editTextPreference =>
        obtain rfl : key = lit "pref_server" := key_of_editTextPreference _ shown rfl
        exact accepted_server distinguishes accepted
    | listPreference entryValues defaultValue => exact offered entryValues defaultValue rfl
    | twoStatePreference defaultValue => cases text
  · exact storable

/-- Every event. -/
theorem Storable.step (distinguishes : mapping.sameIgnoringCase (chr 's') (chr 'a') = false)
    (storable : Storable digits preferences) (event : SettingsEvent) :
    Storable digits ((settingsMachine mapping digits).step preferences event).1 := by
  cases event with
  | setInitialValue preference => exact storable.setInitialValue preference
  | setText preference text =>
      dsimp only [settingsMachine]
      cases kind : preference.1.kind with
      | editTextPreference =>
          apply storable.setString distinguishes preference
          · rw [Preference.isText, kind]
          · rw [kind]
            rintro _ _ ⟨⟩
      | listPreference entryValues defaultValue => exact storable
      | twoStatePreference defaultValue => exact storable
  | setValueIndex preference index =>
      dsimp only [settingsMachine]
      cases kind : preference.1.kind with
      | editTextPreference => exact storable
      | listPreference entryValues defaultValue =>
          dsimp only
          split
          · rename_i value found
            apply storable.setString distinguishes preference
            · rw [Preference.isText, kind]
            · rw [kind]
              rintro _ _ ⟨⟩
              exact List.mem_of_getElem? found
          · exact storable
      | twoStatePreference defaultValue => exact storable
  | setChecked preference checked =>
      dsimp only [settingsMachine]
      cases kind : preference.1.kind with
      | editTextPreference => exact storable
      | listPreference entryValues defaultValue => exact storable
      | twoStatePreference defaultValue => exact storable.putBoolean preference.1.key checked

/-- What is stored after any run of the screens. -/
theorem storable_after (distinguishes : mapping.sameIgnoringCase (chr 's') (chr 'a') = false)
    (events : List SettingsEvent) :
    Storable digits ((settingsMachine mapping digits).after .empty events) :=
  Machine.invariant (Storable digits) (fun _ event storable => storable.step distinguishes event)
    storable_empty events

end Runs

end Openpyn.Preferences
