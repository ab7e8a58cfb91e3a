import Openpyn.Java.CaseMapping
import Openpyn.Java.Grouping
import Openpyn.Servers.ServerList

/-!
# The servers of a location

`createJson` reads the servers into one object for each location, which it finds again by
the text of the location, and changes the categories of that object in place. A second
pass lists the categories that were found. A location is an object of the JSON library,
of which only the text counts. The logs are left out.
-/

namespace Openpyn.Servers

open Java

/-- The known categories. -/
inductive Category where
  | dedicated
  | double
  | obfuscated
  | onion
  | p2p
  | standard
deriving DecidableEq

/-- The names in the order in which both passes try them. -/
def Category.all : List Category := [.dedicated, .double, .obfuscated, .onion, .p2p, .standard]

def Category.name : Category → JString
  | .dedicated => lit "Dedicated IP"
  | .double => lit "Double VPN"
  | .obfuscated => lit "Obfuscated Servers"
  | .onion => lit "Onion Over VPN"
  | .p2p => lit "P2P"
  | .standard => lit "Standard VPN servers"

/-- The fields of a JSON object about a server or a location. -/
structure JsonObject (Location Categories : Type) where
  flag : JString
  country : JString
  location : Location
  categories : Categories
deriving DecidableEq

/-- A server of the answer, or an entry of the result: the categories are an array of
objects with a name. -/
abbrev ServerObject (Location : Type) := JsonObject Location (List JString)

/-- The object with a boolean for each known category. -/
abbrev Features := Category → Bool

section CreateJson

variable {Location : Type} (mapping : CaseMapping) (toString : Location → JString)

/-- The branch of the `when` in `populateFeatures`, if it is not the last one. -/
def categoryOf (name : JString) : Option Category :=
  Category.all.find? fun category => mapping.equalsIgnoreCase name category.name

/-- `populateFeatures`. -/
def populateFeatures (categories : List JString) (features : Features) : Features :=
  categories.foldl (fun features name =>
    match categoryOf mapping name with
    | some category => Function.update features category true
    | none => features) features

/-- The object that the first server of a location makes. -/
def newJson (res : ServerObject Location) : JsonObject Location Features where
  flag := mapping.lowerCase res.flag
  country := res.country
  location := res.location
  categories := populateFeatures mapping res.categories fun _ => false

/-- What a later server of the location does to the object. -/
def addFeatures (res : ServerObject Location) (json : JsonObject Location Features) :
    JsonObject Location Features :=
  { json with categories := populateFeatures mapping res.categories json.categories }

/-- The first pass: `jsonObj` after the loop. -/
def collect (content : List (ServerObject Location)) :
    HashMap JString (JsonObject Location Features) :=
  HashMap.group (fun res => toString res.location) (newJson mapping) (addFeatures mapping) content

/-- The body of the second loop. -/
def listCategories (value : JsonObject Location Features) : ServerObject Location where
  flag := value.flag
  country := value.country
  location := value.location
  categories := (Category.all.filter value.categories).map Category.name

/-- `jsonArray`, which is returned if its length is positive. -/
def nonempty {α : Type} : List α → Option (ServerArray α)
  | [] => none
  | first :: rest => some ⟨first :: rest, List.cons_ne_nil first rest⟩

/-- `createJson`, given the array of the answer or `none` for a `Result.Failure`. -/
def createJson (result : Option (List (ServerObject Location))) :
    Option (ServerArray (ServerObject Location)) :=
  result.bind fun content =>
    nonempty ((collect mapping toString content).entries.map fun entry => listCategories entry.2)

end CreateJson

/-! ## What the result should say -/

/-- The server has a category of this name. -/
def JsonObject.isIn {Location : Type} (server : ServerObject Location) (mapping : CaseMapping)
    (known : JString) : Bool :=
  server.categories.any fun name => mapping.equalsIgnoreCase name known

/-- The categories an entry may have, in their order. -/
def knownCategories : List JString :=
  [lit "Dedicated IP", lit "Double VPN", lit "Obfuscated Servers", lit "Onion Over VPN",
    lit "P2P", lit "Standard VPN servers"]

section Specification

variable {Location : Type} (mapping : CaseMapping) (toString : Location → JString)

/-- The first server with the location of the entry gives it its fields, and all servers
with that location give it their categories. -/
structure Summarizes (servers : List (ServerObject Location)) (entry : ServerObject Location) :
    Prop where
  first : ∃ server, (servers.find? fun server =>
      toString server.location = toString entry.location) = some server ∧
    entry.location = server.location ∧ entry.flag = mapping.lowerCase server.flag ∧
    entry.country = server.country
  categories : entry.categories = knownCategories.filter fun known =>
    servers.any fun server =>
      toString server.location = toString entry.location && server.isIn mapping known

/-- One entry for each text of a location, in the order of first occurrence. -/
structure Aggregates (servers jsonArray : List (ServerObject Location)) : Prop where
  locations : (jsonArray.map fun entry => toString entry.location) =
    (servers.map fun server => toString server.location).eraseDups
  entries : ∀ entry ∈ jsonArray, Summarizes mapping toString servers entry

/-- Servers at one location have one flag and one country. -/
def AgreeByLocation (servers : List (ServerObject Location)) : Prop :=
  ∀ server ∈ servers, ∀ other ∈ servers, toString server.location = toString other.location →
    server.flag = other.flag ∧ server.country = other.country

/-- An entry with the text of its location. -/
def printed (entry : ServerObject Location) : ServerObject JString :=
  { entry with location := toString entry.location }

/-- The same entries in any order. -/
def SameEntries (jsonArray other : ServerArray (ServerObject Location)) : Prop :=
  (jsonArray.val.map (printed toString)).Perm (other.val.map (printed toString))

end Specification

/-! ## Categories -/

section Categories

variable {mapping : CaseMapping}

theorem Category.mem_all (category : Category) : category ∈ Category.all := by
  cases category <;> decide

/-- The names differ in length, so no text is equal to two of them. -/
theorem Category.eq_of_length_eq {category other : Category}
    (same : category.name.length = other.name.length) : category = other := by
  have different : (Category.all.map fun category => category.name.length).Nodup := by decide
  exact List.inj_on_of_nodup_map different category.mem_all other.mem_all same

theorem categoryOf_eq_some_iff {name : JString} {category : Category} :
    categoryOf mapping name = some category ↔
      mapping.equalsIgnoreCase name category.name = true := by
  constructor
  · intro found
    simpa using List.find?_some found
  · intro same
    cases found : categoryOf mapping name with
    | none =>
        rw [categoryOf, List.find?_eq_none] at found
        exact absurd same (found category category.mem_all)
    | some other =>
        have otherSame : mapping.equalsIgnoreCase name other.name = true := by
          simpa using List.find?_some found
        have lengths := (CaseMapping.length_of_equalsIgnoreCase otherSame).symm.trans
          (CaseMapping.length_of_equalsIgnoreCase same)
        rw [Category.eq_of_length_eq lengths]

/-- A category is set once a name is equal to its own. -/
theorem populateFeatures_apply (categories : List JString) (features : Features)
    (category : Category) :
    populateFeatures mapping categories features category =
      (features category ||
        categories.any fun name => mapping.equalsIgnoreCase name category.name) := by
  induction categories generalizing features with
  | nil => simp [populateFeatures]
  | cons name categories inductionHypothesis =>
      rw [populateFeatures, List.foldl_cons, ← populateFeatures, inductionHypothesis,
        List.any_cons]
      cases found : categoryOf mapping name with
      | none =>
          have different : mapping.equalsIgnoreCase name category.name = false := by
            rw [Bool.eq_false_iff, Ne, ← categoryOf_eq_some_iff, found]
            exact Option.some_ne_none category ∘ Eq.symm
          simp [different]
      | some other =>
          by_cases same : category = other
          · subst same
            simp [categoryOf_eq_some_iff.mp found]
          · have different : mapping.equalsIgnoreCase name category.name = false := by
              rw [Bool.eq_false_iff, Ne, ← categoryOf_eq_some_iff, found, Option.some.injEq]
              exact Ne.symm same
            simp [different, same]

end Categories

/-! ## Entries -/

section Entries

theorem nonempty_eq_none_iff {α : Type} {list : List α} : nonempty list = none ↔ list = [] := by
  cases list <;> simp [nonempty]

theorem val_of_nonempty {α : Type} {list : List α} {jsonArray : ServerArray α}
    (result : nonempty list = some jsonArray) : jsonArray.val = list := by
  cases list with
  | nil => cases result
  | cons first rest =>
      rw [← Option.some.inj result]

variable {Location : Type} {mapping : CaseMapping} {toString : Location → JString}

/-- Later servers of a location add their categories and nothing else. -/
theorem foldl_addFeatures (servers : List (ServerObject Location))
    (json : JsonObject Location Features) :
    servers.foldl (fun json res => addFeatures mapping res json) json =
      { json with categories := fun category =>
          json.categories category ||
            servers.any fun server => server.isIn mapping category.name } := by
  induction servers generalizing json with
  | nil => simp
  | cons server servers inductionHypothesis =>
      rw [List.foldl_cons, inductionHypothesis]
      simp only [addFeatures, populateFeatures_apply, List.any_cons, Bool.or_assoc]
      rfl

/-- What the first pass leaves of the servers with one location. -/
theorem mem_collect {servers : List (ServerObject Location)} {text : JString}
    {value : JsonObject Location Features}
    (member : (text, value) ∈ (collect mapping toString servers).entries) :
    ∃ server, (servers.find? fun server => toString server.location = text) = some server ∧
      value = ⟨mapping.lowerCase server.flag, server.country, server.location,
        fun category => servers.any fun server =>
          toString server.location = text && server.isIn mapping category.name⟩ := by
  obtain ⟨first, rest, here, made⟩ := HashMap.mem_group _ _ _ member
  refine ⟨first, ?_, ?_⟩
  · rw [← List.head?_filter, here]
    rfl
  · rw [made, foldl_addFeatures, newJson]
    congr 1
    funext category
    rw [← List.any_filter, here, List.any_cons]
    exact congrArg (· || _) (populateFeatures_apply first.categories _ category)

/-- The second pass keeps the fields and lists the categories in their order. -/
theorem summarizes_listCategories {servers : List (ServerObject Location)} {text : JString}
    {value : JsonObject Location Features}
    (member : (text, value) ∈ (collect mapping toString servers).entries) :
    toString (listCategories value).location = text ∧
      Summarizes mapping toString servers (listCategories value) := by
  obtain ⟨server, found, rfl⟩ := mem_collect member
  have here : toString server.location = text := by simpa using List.find?_some found
  subst here
  have known : knownCategories = Category.all.map Category.name := rfl
  refine ⟨rfl, ⟨server, found, rfl, rfl, rfl⟩, ?_⟩
  rw [known, List.filter_map]
  rfl

/-- The invariant of the first pass gives the entries of the second. -/
theorem aggregates_collect (servers : List (ServerObject Location)) :
    Aggregates mapping toString servers
      ((collect mapping toString servers).entries.map fun entry => listCategories entry.2) where
  locations := by
    have keys := HashMap.keys_group (fun server => toString server.location) (newJson mapping)
      (addFeatures mapping) servers
    rw [← keys, List.map_map]
    refine List.map_congr_left ?_
    rintro ⟨text, value⟩ member
    exact (summarizes_listCategories member).1
  entries := by
    intro entry member
    obtain ⟨⟨text, value⟩, stored, rfl⟩ := List.mem_map.mp member
    exact (summarizes_listCategories stored).2

/-- There is a result exactly if there is a server. -/
theorem createJson_eq_none_iff (servers : List (ServerObject Location)) :
    createJson mapping toString (some servers) = none ↔ servers = [] := by
  have locations := (@aggregates_collect _ mapping toString servers).locations
  rw [createJson, Option.bind_some, nonempty_eq_none_iff]
  constructor
  · intro empty
    rw [empty] at locations
    cases servers with
    | nil => rfl
    | cons server servers => simp [List.eraseDups_cons] at locations
  · rintro rfl
    rfl

theorem aggregates_createJson {servers : List (ServerObject Location)}
    {jsonArray : ServerArray (ServerObject Location)}
    (result : createJson mapping toString (some servers) = some jsonArray) :
    Aggregates mapping toString servers jsonArray.val := by
  rw [createJson, Option.bind_some] at result
  rw [val_of_nonempty result]
  exact aggregates_collect servers

end Entries

/-! ## Order -/

section Order

variable {Location : Type} {mapping : CaseMapping} {toString : Location → JString}
  {servers permuted : List (ServerObject Location)}

theorem AgreeByLocation.perm (agree : AgreeByLocation toString servers)
    (order : servers.Perm permuted) : AgreeByLocation toString permuted :=
  fun server member other otherMember =>
    agree server (order.symm.subset member) other (order.symm.subset otherMember)

/-- What an entry says of its location does not depend on the order of the servers. -/
theorem printed_eq_of_perm (agree : AgreeByLocation toString servers)
    (order : servers.Perm permuted) {entry other : ServerObject Location}
    (summary : Summarizes mapping toString servers entry)
    (otherSummary : Summarizes mapping toString permuted other)
    (same : toString other.location = toString entry.location) :
    printed toString other = printed toString entry := by
  obtain ⟨server, found, -, flag, country⟩ := summary.first
  obtain ⟨otherServer, otherFound, -, otherFlag, otherCountry⟩ := otherSummary.first
  have here : toString server.location = toString entry.location := by
    simpa using List.find?_some found
  have otherHere : toString otherServer.location = toString other.location := by
    simpa using List.find?_some otherFound
  obtain ⟨flags, countries⟩ := agree server (List.mem_of_find?_eq_some found) otherServer
    (order.symm.subset (List.mem_of_find?_eq_some otherFound))
    (here.trans (same.symm.trans otherHere.symm))
  have categories : other.categories = entry.categories := by
    rw [otherSummary.categories, summary.categories, same]
    simp only [order.any_eq]
  rw [printed, printed, same, otherFlag, otherCountry, flag, country, flags, countries, categories]

theorem Aggregates.subset (agree : AgreeByLocation toString servers)
    (order : servers.Perm permuted) {jsonArray other : List (ServerObject Location)}
    (aggregates : Aggregates mapping toString servers jsonArray)
    (otherAggregates : Aggregates mapping toString permuted other) :
    jsonArray.map (printed toString) ⊆ other.map (printed toString) := by
  intro text member
  obtain ⟨entry, entryMember, rfl⟩ := List.mem_map.mp member
  have listed : toString entry.location ∈ other.map fun entry => toString entry.location := by
    rw [otherAggregates.locations, List.mem_eraseDups]
    refine (order.map _).subset ?_
    rw [← List.mem_eraseDups, ← aggregates.locations]
    exact List.mem_map_of_mem entryMember
  obtain ⟨otherEntry, otherMember, same⟩ := List.mem_map.mp listed
  rw [← printed_eq_of_perm agree order (aggregates.entries entry entryMember)
    (otherAggregates.entries otherEntry otherMember) same]
  exact List.mem_map_of_mem otherMember

/-- No two entries print alike, since their locations do not. -/
theorem Aggregates.nodup {jsonArray : List (ServerObject Location)}
    (aggregates : Aggregates mapping toString servers jsonArray) :
    (jsonArray.map (printed toString)).Nodup := by
  have texts : ((jsonArray.map (printed toString)).map JsonObject.location).Nodup := by
    rw [List.map_map]
    exact aggregates.locations ▸ HashMap.nodup_eraseDups _
  exact texts.of_map

theorem Aggregates.perm (agree : AgreeByLocation toString servers)
    (order : servers.Perm permuted) {jsonArray other : List (ServerObject Location)}
    (aggregates : Aggregates mapping toString servers jsonArray)
    (otherAggregates : Aggregates mapping toString permuted other) :
    (jsonArray.map (printed toString)).Perm (other.map (printed toString)) := by
  refine (List.perm_ext_iff_of_nodup aggregates.nodup otherAggregates.nodup).mpr fun text => ?_
  constructor
  · exact fun member => aggregates.subset agree order otherAggregates member
  · exact fun member =>
      otherAggregates.subset (agree.perm order) order.symm aggregates member

end Order

/-- The result has an entry for each location, which says what its servers say, and
reordering servers that agree on their locations at most reorders the entries. -/
theorem createJson_aggregates {Location : Type} (mapping : CaseMapping)
    (toString : Location → JString) (servers : List (ServerObject Location)) :
    (createJson mapping toString (some servers) = none ↔ servers = []) ∧
      (∀ jsonArray, createJson mapping toString (some servers) = some jsonArray →
        Aggregates mapping toString servers jsonArray.val) ∧
      (AgreeByLocation toString servers → ∀ permuted, servers.Perm permuted →
        Option.Rel (SameEntries toString) (createJson mapping toString (some servers))
          (createJson mapping toString (some permuted))) := by
  refine ⟨createJson_eq_none_iff servers, fun jsonArray => aggregates_createJson, ?_⟩
  intro agree permuted order
  cases result : createJson mapping toString (some servers) with
  | none =>
      have empty := (createJson_eq_none_iff servers).mp result
      subst empty
      rw [(createJson_eq_none_iff permuted).mpr order.nil_eq.symm]
      exact .none
  | some jsonArray =>
      cases otherResult : createJson mapping toString (some permuted) with
      | none =>
          have empty := (createJson_eq_none_iff permuted).mp otherResult
          subst empty
          rw [(createJson_eq_none_iff servers).mpr order.eq_nil] at result
          cases result
      | some other =>
          exact .some (Aggregates.perm agree order (aggregates_createJson result)
            (aggregates_createJson otherResult))

/-- Two servers at one location: the first names the flag and the country, and the
second adds a category. -/
def sweden : List (ServerObject JString) :=
  [⟨lit "SE", lit "Sweden", lit "59.3", [lit "p2p"]⟩,
    ⟨lit "se", lit "Sverige", lit "59.3", [lit "DOUBLE VPN", lit "Unknown"]⟩]

theorem createJson_aggregates_sweden :
    (createJson CaseMapping.ascii id (some sweden)).map Subtype.val =
        some [⟨lit "se", lit "Sweden", lit "59.3", [lit "Double VPN", lit "P2P"]⟩] ∧
      Aggregates CaseMapping.ascii id sweden
        [⟨lit "se", lit "Sweden", lit "59.3", [lit "Double VPN", lit "P2P"]⟩] := by
  have result : createJson CaseMapping.ascii id (some sweden) =
      some ⟨[⟨lit "se", lit "Sweden", lit "59.3", [lit "Double VPN", lit "P2P"]⟩],
        List.cons_ne_nil _ _⟩ := by decide
  exact ⟨congrArg (Option.map Subtype.val) result,
    (createJson_aggregates CaseMapping.ascii id sweden).2.1 _ result⟩

end Openpyn.Servers
