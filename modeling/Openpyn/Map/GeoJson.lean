import Openpyn.Java.CaseMapping
import Openpyn.Java.Double
import Openpyn.Java.HashMap
import Openpyn.Java.Throwable

/-!
# The answer of a location service

`createJson2` makes one kind of record of the answers of four services. Most fields are
read by accessors that fall back to a default value. Only ipinfo has both coordinates in
one text, and there the text is cut and converted by hand.
-/

namespace Openpyn.Map

open Java

/-- A value in a `JSONObject`. A number is kept as its `doubleValue()`, which is finite as
`put` takes no other, and its text. An object in the object is passed on as it is. The
other values are booleans, arrays and `NULL`. A text is what `toString()` returns. -/
inductive JsonValue (Nested : Type) where
  | string (text : JString)
  | number (doubleValue : {value : Double // value.isFinite = true}) (text : JString)
  | object (nested : Nested) (text : Option JString)
  | other (text : Option JString)

/-- `JSONObject`. -/
abbrev JSONObject (Nested : Type) := HashMap JString (JsonValue Nested)

namespace JSONObject

variable {Nested : Type}

/-- `optString(String)`: any value is turned into a text. -/
def optString (content : JSONObject Nested) (name : JString) : JString :=
  match content.get? name with
  | some (.string text) => text
  | some (.number _ text) => text
  | some (.object _ text) => text.getD []
  | some (.other text) => text.getD []
  | none => []

/-- `optDouble(String, double)`: a text is converted if it can be. -/
def optDouble (content : JSONObject Nested) (name : JString) (fallback : Double) : Double :=
  match content.get? name with
  | some (.string text) => (Double.valueOf text).getD fallback
  | some (.number doubleValue _) => doubleValue.val
  | _ => fallback

/-- `optJSONObject(String)`. -/
def optJSONObject (content : JSONObject Nested) (name : JString) : Option Nested :=
  match content.get? name with
  | some (.object nested _) => some nested
  | _ => none

end JSONObject

/-- `get` of a list. -/
def listGet {α : Type} (list : List α) (index : Nat) : Except Throwable α :=
  orThrow list[index]? .indexOutOfBoundsException

/-- `Double.valueOf(String)` where its exception is not caught. -/
def toDouble (text : JString) : Except Throwable Double :=
  orThrow (Double.valueOf text) .numberFormatException

/-- `JSON.checkDouble`, called by `put(String, double)`. -/
def checkDouble (value : Double) : Except Throwable Double :=
  if value.isFinite then .ok value else .error .jsonException

/-- The local variables of `createJson2`. -/
structure GeoFields (Nested : Type) where
  flag : JString
  country : JString
  city : JString
  lat : Double
  lon : Double
  ip : JString
  threat : Option Nested

/-- The record that `createJson2` returns. -/
structure GeoJson (Nested : Type) where
  flag : JString
  country : JString
  city : JString
  lat : Double
  long : Double
  ip : JString
  threat : Option Nested

/-- The keys under which a service answers. -/
structure Keys where
  flag : JString
  country : JString
  city : JString
  lat : JString
  lon : JString
  ip : JString

/-- The keys of the branch `"ipapi"`. -/
def ipapi : Keys where
  flag := lit "countryCode"
  country := lit "country"
  city := lit "city"
  lat := lit "lat"
  lon := lit "lon"
  ip := lit "query"

/-- The keys of the branches `"ipdata"` and `"ipstack"`. -/
def ipdata : Keys where
  flag := lit "country_code"
  country := lit "country_name"
  city := lit "city"
  lat := lit "latitude"
  lon := lit "longitude"
  ip := lit "ip"

section CreateJson2

variable {Nested : Type}

/-- The branches that read every field with an accessor. -/
def optFields (content : JSONObject Nested) (keys : Keys) (threat : Option Nested) :
    GeoFields Nested where
  flag := content.optString keys.flag
  country := content.optString keys.country
  city := content.optString keys.city
  lat := content.optDouble keys.lat .zero
  lon := content.optDouble keys.lon .zero
  ip := content.optString keys.ip
  threat := threat

/-- The fields of the branch `"ipinfo"`, with its coordinates. -/
def infoFields (content : JSONObject Nested) (lat lon : Double) : GeoFields Nested where
  flag := content.optString (lit "country")
  country := []
  city := content.optString (lit "city")
  lat := lat
  lon := lon
  ip := content.optString (lit "ip")
  threat := none

/-- `content.optString("loc").split(",")`. -/
def locParts (content : JSONObject Nested) : List JString :=
  split (content.optString (lit "loc")) (chr ',') (-1)

/-- The branch `"ipinfo"`. -/
def readInfo (content : JSONObject Nested) : Except Throwable (GeoFields Nested) :=
  (listGet (locParts content) 0).bind fun first =>
  (toDouble first).bind fun lat =>
  (listGet (locParts content) 1).bind fun second =>
  (toDouble second).bind fun lon =>
  .ok (infoFields content lat lon)

/-- The `when` of `createJson2`; the variables keep their initial values for another type. -/
def readFields (type : JString) (content : JSONObject Nested) :
    Except Throwable (GeoFields Nested) :=
  if type = lit "ipapi" then .ok (optFields content ipapi none)
  else if type = lit "ipdata" then
    .ok (optFields content ipdata (content.optJSONObject (lit "threat")))
  else if type = lit "ipinfo" then readInfo content
  else if type = lit "ipstack" then .ok (optFields content ipdata none)
  else .ok ⟨[], [], [], .zero, .zero, [], none⟩

/-- The condition under which `createJson2` makes a record. -/
def GeoFields.isComplete (fields : GeoFields Nested) : Bool :=
  !fields.flag.isEmpty && !fields.city.isEmpty && !fields.lat.isZero && !fields.lon.isZero &&
    !fields.ip.isEmpty

/-- The rest of `createJson2`. -/
def GeoFields.toGeoJson (fields : GeoFields Nested) (mapping : CaseMapping) :
    Except Throwable (Option (GeoJson Nested)) :=
  if fields.isComplete then
    (checkDouble fields.lat).bind fun lat =>
    (checkDouble fields.lon).bind fun long =>
    .ok (some
      { flag := mapping.lowerCase fields.flag
        country := fields.country
        city := fields.city
        lat := lat
        long := long
        ip := fields.ip
        threat := fields.threat })
  else .ok none

/-- `createJson2`. -/
def createJson2 (mapping : CaseMapping) (type : JString) (content : JSONObject Nested) :
    Except Throwable (Option (GeoJson Nested)) :=
  (readFields type content).bind fun fields => fields.toGeoJson mapping

end CreateJson2

/-! ## What the answer should be -/

section Specification

variable {Nested : Type}

/-- A record in order. -/
structure GeoJson.InOrder (mapping : CaseMapping) (record : GeoJson Nested) : Prop where
  flag : record.flag ≠ []
  lower : mapping.lowerCase record.flag = record.flag
  city : record.city ≠ []
  ip : record.ip ≠ []
  lat : record.lat.isFinite = true ∧ record.lat.isZero = false
  long : record.long.isFinite = true ∧ record.long.isZero = false

/-- Nothing is thrown, and a record is in order. -/
def Answers (mapping : CaseMapping) (result : Except Throwable (Option (GeoJson Nested))) :
    Prop :=
  ∃ answer, result = .ok answer ∧ ∀ record ∈ answer, record.InOrder mapping

/-- The value is a text that converts to NaN or to an infinity. -/
def NonFiniteText (content : JSONObject Nested) (name : JString) : Prop :=
  ∃ text value, content.get? name = some (.string text) ∧ Double.valueOf text = some value ∧
    value.isFinite = false

/-- Complete fields have no coordinate that is such a text. -/
def ReadableBy (keys : Keys) (content : JSONObject Nested) : Prop :=
  (optFields content keys none).isComplete = true →
    ¬NonFiniteText content keys.lat ∧ ¬NonFiniteText content keys.lon

/-- The first two parts of `loc` convert, and to finite numbers if the fields are complete. -/
def ReadableInfo (content : JSONObject Nested) : Prop :=
  ∃ first second rest lat lon, locParts content = first :: second :: rest ∧
    Double.valueOf first = some lat ∧ Double.valueOf second = some lon ∧
      ((infoFields content lat lon).isComplete = true →
        lat.isFinite = true ∧ lon.isFinite = true)

/-- The answer is one that `createJson2` can read; it ignores those of other services. -/
def Readable (type : JString) (content : JSONObject Nested) : Prop :=
  if type = lit "ipapi" then ReadableBy ipapi content
  else if type = lit "ipdata" then ReadableBy ipdata content
  else if type = lit "ipinfo" then ReadableInfo content
  else if type = lit "ipstack" then ReadableBy ipdata content
  else True

end Specification

/-! ## Records -/

section Records

variable {Nested : Type} {mapping : CaseMapping}

theorem checkDouble_of_isFinite {value : Double} (finite : value.isFinite = true) :
    checkDouble value = .ok value := by
  simp [checkDouble, finite]

/-- `put` refuses NaN and the infinities. -/
theorem checkDouble_of_not_isFinite {value : Double} (infinite : value.isFinite = false) :
    checkDouble value = .error .jsonException := by
  simp [checkDouble, infinite]

@[simp] theorem not_answers_error (exception : Throwable) :
    ¬Answers mapping (.error exception : Except Throwable (Option (GeoJson Nested))) := by
  rintro ⟨answer, thrown, -⟩
  cases thrown

theorem GeoFields.isComplete_iff {fields : GeoFields Nested} :
    fields.isComplete = true ↔ fields.flag ≠ [] ∧ fields.city ≠ [] ∧ fields.lat.isZero = false ∧
      fields.lon.isZero = false ∧ fields.ip ≠ [] := by
  simp [isComplete, and_assoc]

/-- Complete fields with finite coordinates make a record in order. -/
theorem answers_of_isFinite {fields : GeoFields Nested} (complete : fields.isComplete = true)
    (lat : fields.lat.isFinite = true) (lon : fields.lon.isFinite = true) :
    Answers mapping (fields.toGeoJson mapping) := by
  obtain ⟨flag, city, latNonzero, lonNonzero, ip⟩ := GeoFields.isComplete_iff.mp complete
  rw [GeoFields.toGeoJson, if_pos complete, checkDouble_of_isFinite lat,
    checkDouble_of_isFinite lon]
  refine ⟨_, rfl, ?_⟩
  rintro record ⟨⟩
  exact {
    flag := mapping.lowerCase_ne_nil _ flag
    lower := mapping.lowerCase_lowerCase _
    city := city
    ip := ip
    lat := ⟨lat, latNonzero⟩
    long := ⟨lon, lonNonzero⟩ }

/-- Complete fields must have finite coordinates, and incomplete fields make no record. -/
theorem answers_toGeoJson_iff {fields : GeoFields Nested} :
    Answers mapping (fields.toGeoJson mapping) ↔
      (fields.isComplete = true → fields.lat.isFinite = true ∧ fields.lon.isFinite = true) := by
  cases complete : fields.isComplete with
  | false =>
      have nothing : fields.toGeoJson mapping = .ok none := by
        simp [GeoFields.toGeoJson, complete]
      rw [nothing]
      exact ⟨fun _ impossible => Bool.noConfusion impossible, fun _ => ⟨none, rfl, by simp⟩⟩
  | true =>
      constructor
      · intro answers _
        rw [GeoFields.toGeoJson, if_pos complete] at answers
        cases lat : fields.lat.isFinite with
        | false =>
            rw [checkDouble_of_not_isFinite lat] at answers
            exact absurd answers (not_answers_error _)
        | true =>
            rw [checkDouble_of_isFinite lat] at answers
            cases lon : fields.lon.isFinite with
            | false =>
                rw [checkDouble_of_not_isFinite lon] at answers
                exact absurd answers (not_answers_error _)
            | true => exact ⟨rfl, rfl⟩
      · intro finite
        obtain ⟨lat, lon⟩ := finite rfl
        exact answers_of_isFinite complete lat lon

end Records

/-! ## Services -/

section Services

variable {Nested : Type} {mapping : CaseMapping} {content : JSONObject Nested}

/-- The accessor returns a number that is not finite for a text alone. -/
theorem isFinite_optDouble_iff {name : JString} :
    (content.optDouble name .zero).isFinite = true ↔ ¬NonFiniteText content name := by
  unfold JSONObject.optDouble NonFiniteText
  cases found : content.get? name with
  | none => simp
  | some value =>
      cases value with
      | string text =>
          cases converted : Double.valueOf text with
          | none => simp [converted]
          | some value => simp [converted]
      | number doubleValue text => simpa using doubleValue.property
      | object nested text => simp
      | other text => simp

theorem answers_optFields_iff {keys : Keys} {threat : Option Nested} :
    Answers mapping ((optFields content keys threat).toGeoJson mapping) ↔
      ReadableBy keys content := by
  rw [answers_toGeoJson_iff, ReadableBy]
  exact imp_congr Iff.rfl (and_congr isFinite_optDouble_iff isFinite_optDouble_iff)

/-- The branch of ipinfo throws unless `loc` has two parts that convert. -/
theorem readInfo_eq_ok_iff {fields : GeoFields Nested} :
    readInfo content = .ok fields ↔ ∃ first second rest lat lon,
      locParts content = first :: second :: rest ∧ Double.valueOf first = some lat ∧
        Double.valueOf second = some lon ∧ fields = infoFields content lat lon := by
  simp only [readInfo, bind_eq_ok_iff, listGet, toDouble, orThrow_eq_ok_iff, Except.ok.injEq]
  constructor
  · rintro ⟨first, here, lat, converted, second, next, lon, secondConverted, same⟩
    cases parts : locParts content with
    | nil => simp [parts] at here
    | cons head tail =>
        cases tail with
        | nil => simp [parts] at next
        | cons other rest =>
            simp only [parts, List.getElem?_cons_zero, List.getElem?_cons_succ,
              Option.some.injEq] at here next
            subst here next
            exact ⟨head, other, rest, lat, lon, rfl, converted, secondConverted, same.symm⟩
  · rintro ⟨first, second, rest, lat, lon, parts, converted, secondConverted, rfl⟩
    rw [parts]
    exact ⟨first, rfl, lat, converted, second, rfl, lon, secondConverted, rfl⟩

theorem answers_bind_iff {α : Type} {first : Except Throwable α}
    {second : α → Except Throwable (Option (GeoJson Nested))} :
    Answers mapping (first.bind second) ↔
      ∃ value, first = .ok value ∧ Answers mapping (second value) := by
  cases first <;> simp [Except.bind]

theorem answers_readInfo_iff :
    Answers mapping ((readInfo content).bind fun fields => fields.toGeoJson mapping) ↔
      ReadableInfo content := by
  simp only [answers_bind_iff, readInfo_eq_ok_iff, answers_toGeoJson_iff]
  constructor
  · rintro ⟨_, ⟨first, second, rest, lat, lon, parts, converted, secondConverted, rfl⟩, finite⟩
    exact ⟨first, second, rest, lat, lon, parts, converted, secondConverted, finite⟩
  · rintro ⟨first, second, rest, lat, lon, parts, converted, secondConverted, finite⟩
    exact ⟨_, ⟨first, second, rest, lat, lon, parts, converted, secondConverted, rfl⟩, finite⟩

/-- Another type than the four reads nothing and makes no record. -/
theorem answers_unset :
    Answers mapping
      (GeoFields.toGeoJson (⟨[], [], [], .zero, .zero, [], none⟩ : GeoFields Nested) mapping) :=
  answers_toGeoJson_iff.mpr fun complete => by simp [GeoFields.isComplete_iff] at complete

end Services

/-- `createJson2` throws nothing and returns no record out of order exactly if the answer is
readable. -/
theorem createJson2_answers_iff {Nested : Type} (mapping : CaseMapping) (type : JString)
    (content : JSONObject Nested) :
    Answers mapping (createJson2 mapping type content) ↔ Readable type content := by
  unfold createJson2 readFields Readable
  split_ifs
  · exact answers_optFields_iff
  · exact answers_optFields_iff
  · exact answers_readInfo_iff
  · exact answers_optFields_iff
  · exact iff_true_intro answers_unset

/-- The answer about an address that has no location. -/
def bogon : JSONObject Empty :=
  (HashMap.empty.put (lit "ip") (.string (lit "192.168.0.1"))).put (lit "bogon")
    (.other (some (lit "true")))

/-- Without `loc` the first part is the empty text, which is no number. -/
theorem bogon_throws :
    ¬Answers CaseMapping.ascii (createJson2 CaseMapping.ascii (lit "ipinfo") bogon) := by
  have thrown : createJson2 CaseMapping.ascii (lit "ipinfo") bogon =
      .error .numberFormatException := by rfl
  rw [thrown]
  exact not_answers_error _

end Openpyn.Map
