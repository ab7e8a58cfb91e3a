import Openpyn.Foundation.FirstMin
import Openpyn.Java.CaseMapping
import Openpyn.Map.Selection

/-!
# The current position

The camera starts at a server of the country the user is in: at the position of the
geolocation record if there is a server, else at the nearest one. The position is
looked up among the markers later, so it has to be one of their keys. Distances are
compared only; the log messages are left out.
-/

namespace Openpyn.Map

open Foundation Java

/-- What `getCurrentPosition` reads of a geolocation record: `LatLng(lat, lon)` and the
flag. A last known location has no flag. -/
structure GeoRecord (LatLng : Type) where
  flag : JString
  latLng : LatLng

/-- The platform's part: `Location.distanceBetween`, the position of
`getDefaultLatLng`, and the ids of `CountryBoundaries.getIds`, if they could be loaded. -/
structure Geography (LatLng δ : Type) where
  distanceBetween : LatLng → LatLng → δ
  defaultLatLng : LatLng
  countryBoundaries : Option (LatLng → List JString)

variable {LatLng δ : Type} [DecidableEq LatLng] [LinearOrder δ]

/-- The loop of `getLatLng`: the value of `match` and the list at its end. -/
def searchLoop (flag : JString) (latLng : LatLng) (isMatch : Bool) (latLngList : List LatLng) :
    List (Server LatLng) → Bool × List LatLng
  | [] => (isMatch, latLngList)
  | res :: rest =>
      if flag = res.flag then
        if res.latLng = latLng then (true, latLngList)
        else searchLoop flag latLng false (latLngList ++ [res.latLng]) rest
      else searchLoop flag latLng isMatch latLngList rest

namespace Geography

variable (geography : Geography LatLng δ)

/-- `getLatLng`. The index of the smallest distance is one of the list. -/
def getLatLng (flag : JString) (latLng : LatLng) (jsonArr : List (Server LatLng)) : LatLng :=
  let (isMatch, latLngList) := searchLoop flag latLng false [] jsonArr
  if latLngList ≠ [] ∧ isMatch = false then
    (firstMin (geography.distanceBetween latLng) latLngList).getD latLng
  else latLng

/-- `latLng`. -/
def latLng (jsonArr : Option (List (Server LatLng))) (flags : Finset JString) (flag : JString)
    (latLng : LatLng) : LatLng :=
  match jsonArr with
  | some jsonArr => if flag ∈ flags then geography.getLatLng flag latLng jsonArr else latLng
  | none => latLng

/-- `getFLag`. -/
def getFlag (mapping : CaseMapping) (latLng : LatLng) : JString :=
  match geography.countryBoundaries.map fun getIds => getIds latLng with
  | some (id :: _) => mapping.lowerCase id
  | _ => []

/-- `getCurrentPosition`. -/
def getCurrentPosition (mapping : CaseMapping) (lastLocation : Option LatLng)
    (flags : Finset JString) (jsonObj : Option (GeoRecord LatLng))
    (jsonArr : Option (List (Server LatLng))) : LatLng :=
  match jsonObj, jsonArr, lastLocation with
  | some record, _, _ => geography.latLng jsonArr flags record.flag record.latLng
  | none, some _, some location =>
      geography.latLng jsonArr flags (geography.getFlag mapping location) location
  | _, _, _ => geography.defaultLatLng

end Geography

/-- The locations of the servers with a flag, in the order of the array. -/
def candidates (jsonArray : List (Server LatLng)) (flag : JString) : List LatLng :=
  (jsonArray.filter fun res => flag = res.flag).map Server.latLng

omit [DecidableEq LatLng] in
theorem mem_candidates {jsonArray : List (Server LatLng)} {flag : JString} {position : LatLng} :
    position ∈ candidates jsonArray flag ↔
      ∃ res ∈ jsonArray, res.flag = flag ∧ res.latLng = position := by
  simp only [candidates, List.mem_map, List.mem_filter, decide_eq_true_eq, and_assoc]
  simp only [eq_comm]

/-! ## The search -/

omit [DecidableEq LatLng] in
theorem candidates_cons (res : Server LatLng) (rest : List (Server LatLng)) (flag : JString) :
    candidates (res :: rest) flag =
      if flag = res.flag then res.latLng :: candidates rest flag else candidates rest flag := by
  unfold candidates
  rw [List.filter_cons]
  by_cases same : flag = res.flag <;> simp [same]

/-- Without a server at the position, the loop collects all locations of the flag. -/
theorem searchLoop_missing {flag : JString} {latLng : LatLng} {jsonArr : List (Server LatLng)}
    (missing : latLng ∉ candidates jsonArr flag) (latLngList : List LatLng) :
    searchLoop flag latLng false latLngList jsonArr =
      (false, latLngList ++ candidates jsonArr flag) := by
  induction jsonArr generalizing latLngList with
  | nil => simp [searchLoop, candidates]
  | cons res rest inductionHypothesis =>
      rw [candidates_cons] at missing ⊢
      rw [searchLoop]
      by_cases same : flag = res.flag
      · rw [if_pos same] at missing ⊢
        obtain ⟨different, absent⟩ := not_or.mp (mt List.mem_cons.mpr missing)
        rw [if_pos same, if_neg (Ne.symm different), inductionHypothesis absent,
          List.append_assoc, List.singleton_append]
      · rw [if_neg same] at missing ⊢
        rw [if_neg same, inductionHypothesis missing]

/-- With one, the loop stops at it, whatever it has seen before. -/
theorem searchLoop_found {flag : JString} {latLng : LatLng} {jsonArr : List (Server LatLng)}
    (found : latLng ∈ candidates jsonArr flag) (isMatch : Bool) (latLngList : List LatLng) :
    (searchLoop flag latLng isMatch latLngList jsonArr).1 = true := by
  induction jsonArr generalizing isMatch latLngList with
  | nil => simp [candidates] at found
  | cons res rest inductionHypothesis =>
      rw [candidates_cons] at found
      rw [searchLoop]
      by_cases same : flag = res.flag
      · rw [if_pos same] at found ⊢
        by_cases here : res.latLng = latLng
        · rw [if_pos here]
        · rw [if_neg here]
          exact inductionHypothesis ((List.mem_cons.mp found).resolve_left (Ne.symm here)) _ _
      · rw [if_neg same] at found ⊢
        exact inductionHypothesis found _ _

/-- The position of a flag: the own one if a server stands there, else the first of the
nearest. -/
theorem Geography.getLatLng_eq (geography : Geography LatLng δ) (flag : JString) (latLng : LatLng)
    (jsonArr : List (Server LatLng)) :
    geography.getLatLng flag latLng jsonArr =
      if latLng ∈ candidates jsonArr flag then latLng
      else ((candidates jsonArr flag).argmin (geography.distanceBetween latLng)).getD latLng := by
  unfold getLatLng
  by_cases found : latLng ∈ candidates jsonArr flag
  · have stops := searchLoop_found found false []
    simp [found, stops]
  · rw [searchLoop_missing found, List.nil_append, if_neg found]
    dsimp only
    rw [firstMin_eq_argmin]
    split_ifs with collected
    · rfl
    · have none : candidates jsonArr flag = [] := by simpa using collected
      rw [none]
      rfl

/-! ## The marker -/

theorem createMarker_tag (favorites : List (LazyMarker LatLng)) (res : Server LatLng) :
    (createMarker favorites res).tag = res.flag := by
  unfold createMarker
  dsimp only
  split
  · simp [LazyMarker.setLevel, LazyMarker.create]
  · rfl

/-- At distinct locations every server keeps its marker. -/
theorem mem_createMarkers_of_mem {jsonArray : List (Server LatLng)}
    (distinct : (jsonArray.map Server.latLng).Nodup) (favorites : List (LazyMarker LatLng))
    {res : Server LatLng} (member : res ∈ jsonArray) :
    (res.latLng, createMarker favorites res) ∈ (createMarkers jsonArray favorites).2.entries := by
  have kept : ∀ (others : List (Server LatLng)) (markers : HashMap LatLng (LazyMarker LatLng)),
      (∀ other ∈ others, res.latLng ≠ other.latLng) →
        (res.latLng, createMarker favorites res) ∈ markers.entries →
          (res.latLng, createMarker favorites res) ∈ (others.foldl (fun markers res =>
            markers.put res.latLng (createMarker favorites res)) markers).entries := by
    intro others
    induction others with
    | nil => exact fun markers _ present => present
    | cons other rest inductionHypothesis =>
        intro markers elsewhere present
        obtain ⟨here, later⟩ := List.forall_mem_cons.mp elsewhere
        exact inductionHypothesis _ later (HashMap.mem_put_of_ne here present _)
  obtain ⟨before, after, rfl⟩ := List.append_of_mem member
  rw [createMarkers]
  dsimp only
  rw [List.foldl_append, List.foldl_cons]
  refine kept after _ ?_ (HashMap.mem_put_self _ _ _)
  rw [List.map_append, List.map_cons, List.nodup_append] at distinct
  have apart := (List.nodup_cons.mp distinct.2.1).1
  exact fun other later same => apart (List.mem_map.mpr ⟨other, later, same.symm⟩)

/-- What the start owes to the user: the camera moves to a server of the record's
flag, the one at the record's position or else the first of the nearest, and when the
animation finishes it finds the marker there and selects it. -/
structure StartsAt {adapter : JsonAdapter (LazyMarker LatLng)}
    (distanceBetween : LatLng → LatLng → δ) (jsonArray : List (Server LatLng))
    (record : GeoRecord LatLng) (tower : MapControlTower LatLng adapter) (position : LatLng) :
    Prop where
  server : position ∈ candidates jsonArray record.flag
  own : record.latLng ∈ candidates jsonArray record.flag → position = record.latLng
  nearest : record.latLng ∉ candidates jsonArray record.flag →
    (candidates jsonArray record.flag).argmin (distanceBetween record.latLng) = some position
  marker : ∃ value, tower.markers.get? position = some value ∧ value.tag = record.flag
  selected : ∃ value, (tower.onClosestAnimationFinish position).1.markers.get? position =
    some value ∧ value.isVisible = true ∧ MapControlTower.isSelected value = true

/-- The end of the animation selects a marker whose flag is on offer. -/
theorem onClosestAnimationFinish_selects {adapter : JsonAdapter (LazyMarker LatLng)}
    {tower : MapControlTower LatLng adapter} {target : LatLng} {value : LazyMarker LatLng}
    (found : tower.markers.get? target = some value) (offered : value.tag ∈ tower.flags) :
    (tower.onClosestAnimationFinish target).1.markers.get? target =
      some (value.onLevelChange 10).makeVisible := by
  simp only [MapControlTower.onClosestAnimationFinish, found, if_pos offered]
  refine HashMap.get?_of_mem (HashMap.mem_change.mpr ⟨value, HashMap.mem_of_get? found, ?_⟩)
  rw [if_pos rfl]

/-- The camera starts at a server of the record's flag whose marker is found, whenever
that flag is on offer. -/
theorem getCurrentPosition_startsAt {adapter : JsonAdapter (LazyMarker LatLng)}
    (geography : Geography LatLng δ) (mapping : CaseMapping) (lastLocation : Option LatLng)
    {jsonArray : List (Server LatLng)} (distinct : (jsonArray.map Server.latLng).Nodup)
    (favorites : List (LazyMarker LatLng)) (tower : MapControlTower LatLng adapter)
    (created : tower.markers.entries.Perm (createMarkers jsonArray favorites).2.entries)
    (offered : tower.flags ⊆ (createMarkers jsonArray favorites).1) {record : GeoRecord LatLng}
    (known : record.flag ∈ tower.flags) :
    StartsAt geography.distanceBetween jsonArray record tower
      (geography.getCurrentPosition mapping lastLocation tower.flags (some record)
        (some jsonArray)) := by
  have position : geography.getCurrentPosition mapping lastLocation tower.flags (some record)
      (some jsonArray) = geography.getLatLng record.flag record.latLng jsonArray :=
    if_pos known
  have nonempty : candidates jsonArray record.flag ≠ [] := by
    obtain ⟨res, member, flag⟩ := List.mem_map.mp (List.mem_toFinset.mp (offered known))
    exact List.ne_nil_of_mem (mem_candidates.mpr ⟨res, member, flag, rfl⟩)
  obtain ⟨nearest, smallest⟩ : ∃ nearest, (candidates jsonArray record.flag).argmin
      (geography.distanceBetween record.latLng) = some nearest :=
    Option.ne_none_iff_exists'.mp (mt List.argmin_eq_none.mp nonempty)
  rw [position, geography.getLatLng_eq, smallest, Option.getD_some]
  -- the marker of any server with the flag
  have marked : ∀ place, place ∈ candidates jsonArray record.flag →
      ∃ value, tower.markers.get? place = some value ∧ value.tag = record.flag := by
    intro place member
    obtain ⟨res, present, flag, rfl⟩ := mem_candidates.mp member
    have stored := mem_createMarkers_of_mem distinct favorites present
    exact ⟨createMarker favorites res, HashMap.get?_of_mem (created.mem_iff.mpr stored),
      (createMarker_tag favorites res).trans flag⟩
  have server : (if record.latLng ∈ candidates jsonArray record.flag then record.latLng
      else nearest) ∈ candidates jsonArray record.flag := by
    split_ifs with here
    · exact here
    · exact List.argmin_mem smallest
  obtain ⟨value, found, tag⟩ := marked _ server
  refine ⟨server, fun here => if_pos here, fun missing => ?_, ⟨value, found, tag⟩, ?_⟩
  · rw [if_neg missing, smallest]
  · refine ⟨_, onClosestAnimationFinish_selects found (tag ▸ known), by simp, ?_⟩
    simp [MapControlTower.isSelected]

/-- Of two servers at the same distance from the user the first one is chosen. -/
theorem getCurrentPosition_startsAt_tie :
    let geography : Geography (Int × Int) Int :=
      ⟨fun here there => |here.1 - there.1| + |here.2 - there.2|, (51, 0), none⟩
    let jsonArray : List (Server (Int × Int)) :=
      [⟨lit "de", (52, 4)⟩, ⟨lit "nl", (52, 5)⟩, ⟨lit "nl", (51, 4)⟩]
    let tower : MapControlTower (Int × Int) (MapControlTower.fieldAdapter (Int × Int)) :=
      ⟨(createMarkers jsonArray []).2, {lit "nl"}, [], none⟩
    StartsAt geography.distanceBetween jsonArray ⟨lit "nl", (52, 4)⟩ tower
        (geography.getCurrentPosition .ascii none tower.flags (some ⟨lit "nl", (52, 4)⟩)
          (some jsonArray)) ∧
      geography.getCurrentPosition .ascii none tower.flags (some ⟨lit "nl", (52, 4)⟩)
        (some jsonArray) = (52, 5) := by
  intro geography jsonArray tower
  refine ⟨getCurrentPosition_startsAt geography .ascii none (by decide) [] tower (List.Perm.refl _)
    ?_ (Finset.mem_singleton_self _), by decide⟩
  rw [Finset.singleton_subset_iff]
  decide

end Openpyn.Map
