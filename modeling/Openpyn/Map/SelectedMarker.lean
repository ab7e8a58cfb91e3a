import Openpyn.Java.Double
import Openpyn.Map.CurrentPosition

/-!
# The selected marker

What the control tower says of the selected marker: its flag, and its position if the flag
alone does not tell which marker it is. No event changes the flag of a marker, so all flags
are those of the server list.
-/

namespace Openpyn.Map

open Foundation Java

/-- `LatLng`. -/
structure LatLng where
  latitude : Double
  longitude : Double
deriving DecidableEq

/-- `Coordinate`. -/
structure Coordinate where
  latitude : Double
  longitude : Double
deriving DecidableEq

namespace MapControlTower

section

variable {adapter : JsonAdapter (LazyMarker LatLng)}

/-- `positionAndFlagForSelectedMarker`. -/
def positionAndFlagForSelectedMarker (tower : MapControlTower LatLng adapter) :
    Option Coordinate × JString :=
  match tower.firstSelected with
  | some (latLng, value) =>
      let tag := value.tag
      if (tower.markers.entries.countP fun entry => entry.2.tag = tag) = 1 then (none, tag)
      else (some ⟨latLng.latitude, latLng.longitude⟩, tag)
  | none => (none, [])

end

section

variable {LatLng : Type} {adapter : JsonAdapter (LazyMarker LatLng)}
  {tower : MapControlTower LatLng adapter}

/-- Another marker has the same flag. -/
def FlagShared (tower : MapControlTower LatLng adapter) (key : LatLng) (tag : JString) : Prop :=
  ∃ entry ∈ tower.markers.entries, entry.1 ≠ key ∧ entry.2.tag = tag

instance [DecidableEq LatLng] (tower : MapControlTower LatLng adapter) (key : LatLng)
    (tag : JString) : Decidable (FlagShared tower key tag) :=
  inferInstanceAs (Decidable (∃ entry ∈ _, _))

/-- With one marker selected at most, the first one is the only one. -/
theorem Consistent.firstSelected_eq_some_iff (consistent : Consistent tower) {key : LatLng}
    {value : LazyMarker LatLng} :
    tower.firstSelected = some (key, value) ↔
      (key, value) ∈ tower.markers.entries ∧ value.zIndex = 1 := by
  constructor
  · exact firstSelected_spec
  · rintro ⟨member, selected⟩
    cases found : tower.firstSelected with
    | none => exact absurd selected (noneSelected_of_firstSelected found key value member)
    | some entry =>
        obtain ⟨first, both⟩ := firstSelected_spec found
        have same := consistent.single entry.1 entry.2 key value first member both selected
        obtain ⟨other, stored⟩ := entry
        obtain rfl : other = key := same
        exact congrArg some (Prod.ext rfl (HashMap.value_unique first member))

/-- In every state of a run the marker that is found first is the one that is selected. -/
theorem firstSelected_after [DecidableEq LatLng] (preserves : adapter.Preserves LazyMarker.location)
    {favorites : Option adapter.Text}
    (levels : ∀ favorite ∈ MyStorage.loadFavorites adapter favorites, favorite.level = 1)
    (once : (storedLocations adapter favorites).Nodup) {jsonArray : List (Server LatLng)}
    {markers : HashMap LatLng (LazyMarker LatLng)}
    (created : markers.entries.Perm
      (createMarkers jsonArray (MyStorage.loadFavorites adapter favorites)).2.entries)
    (flags : Finset JString) (mCountries : List MultiSelectable) (finish : Option LatLng)
    (events : List (TowerEvent LatLng)) {key : LatLng} {value : LazyMarker LatLng} :
    let tower := (towerMachine adapter).after
      (started ⟨markers, flags, mCountries, favorites⟩ finish) events
    tower.firstSelected = some (key, value) ↔
      (key, value) ∈ tower.markers.entries ∧ value.zIndex = 1 := by
  have consistent := Machine.invariant Consistent
    (fun _ event consistent => consistent.step preserves event)
    (consistent_started levels once created flags mCountries finish) events
  exact consistent.firstSelected_eq_some_iff

/-- All flags have a property. -/
def Flags (property : JString → Prop) (tower : MapControlTower LatLng adapter) : Prop :=
  ∀ entry ∈ tower.markers.entries, property entry.2.tag

variable {property : JString → Prop}

/-- A change that keeps the flags keeps their property. -/
theorem Flags.change (flags : Flags property tower)
    {update : LatLng → LazyMarker LatLng → LazyMarker LatLng}
    (keeps : ∀ key value, (update key value).tag = value.tag)
    {after : MapControlTower LatLng adapter}
    (changed : after.markers = tower.markers.change update) : Flags property after := by
  rintro ⟨key, value⟩ member
  rw [changed] at member
  obtain ⟨old, before, rfl⟩ := HashMap.mem_change.mp member
  rw [keeps]
  exact flags (key, old) before

theorem visit_tag (bounds : LatLng → Bool) (flags : Finset JString) (key : LatLng)
    (value : LazyMarker LatLng) : (visit bounds flags key value).1.tag = value.tag := by
  unfold visit
  split
  · exact LazyMarker.makeVisible_tag value
  · dsimp only
    split
    · exact resetLevel_tag.trans (LazyMarker.makeInvisible_tag value)
    · exact LazyMarker.makeInvisible_tag value

variable [DecidableEq LatLng]

theorem Flags.changeMarker (flags : Flags property tower) (key : LatLng)
    {update : LazyMarker LatLng → LazyMarker LatLng}
    (keeps : ∀ value, (update value).tag = value.tag)
    {after : MapControlTower LatLng adapter}
    (changed : after.markers = (tower.changeMarker key update).markers) :
    Flags property after := by
  have kept : ∀ other value, (if other = key then update value else value).tag = value.tag := by
    intro other value
    split
    · exact keeps value
    · rfl
  exact flags.change kept changed

theorem Flags.deselect (flags : Flags property tower) : Flags property tower.deselect := by
  unfold MapControlTower.deselect
  split
  · exact flags.changeMarker _ (fun _ => resetLevel_tag) rfl
  · exact flags

theorem Flags.onMarkerClick (flags : Flags property tower) (zIndex : Rat) (position : LatLng) :
    Flags property (tower.onMarkerClick zIndex position).1 := by
  unfold MapControlTower.onMarkerClick
  split
  · exact flags
  · dsimp only
    split
    · exact flags.deselect.changeMarker position (fun value => value.onLevelChange_tag 10) rfl
    · exact flags.deselect

theorem Flags.toggleFavoriteMarker (flags : Flags property tower) :
    Flags property tower.toggleFavoriteMarker.1 := by
  unfold MapControlTower.toggleFavoriteMarker
  split
  · exact flags
  · rename_i key value _
    split
    · exact flags.changeMarker key (fun value => value.setLevel_none_tag 1) rfl
    · split
      · exact flags.changeMarker key (fun value => value.setLevel_none_tag 0) rfl
      · exact flags

theorem Flags.onClosestAnimationFinish (flags : Flags property tower) (target : LatLng) :
    Flags property (tower.onClosestAnimationFinish target).1 := by
  unfold MapControlTower.onClosestAnimationFinish
  split
  · split
    · exact flags.changeMarker target
        (fun value => (LazyMarker.makeVisible_tag _).trans (value.onLevelChange_tag 10)) rfl
    · exact flags
  · exact flags

/-- Every event. -/
theorem Flags.step (flags : Flags property tower) (event : TowerEvent LatLng) :
    Flags property ((towerMachine adapter).step tower event).1 := by
  cases event with
  | cameraIdle bounds => exact flags.change (visit_tag bounds tower.flags) rfl
  | mapClick => exact flags.deselect
  | markerClick position =>
      cases found : tower.markers.get? position with
      | none => simpa [towerMachine, found] using flags
      | some value =>
          simp only [towerMachine, found]
          split
          · exact flags.onMarkerClick value.zIndex position
          · exact flags
  | selected selectedIds bounds =>
      exact flags.change (visit_tag bounds (getCurrentFlags tower.mCountries selectedIds)) rfl
  | toggleFavorite => exact flags.toggleFavoriteMarker

/-- After every run the flags are those of the server list. -/
theorem flags_after {jsonArray : List (Server LatLng)}
    (servers : ∀ res ∈ jsonArray, property res.flag)
    {favorites : List (LazyMarker LatLng)} {markers : HashMap LatLng (LazyMarker LatLng)}
    (created : markers.entries.Perm (createMarkers jsonArray favorites).2.entries)
    (flags : Finset JString) (mCountries : List MultiSelectable)
    (stored : Option adapter.Text) (finish : Option LatLng) (events : List (TowerEvent LatLng)) :
    Flags property ((towerMachine adapter).after
      (started ⟨markers, flags, mCountries, stored⟩ finish) events) := by
  have start : Flags property
      (⟨markers, flags, mCountries, stored⟩ : MapControlTower LatLng adapter) := by
    rintro ⟨key, value⟩ member
    obtain ⟨res, present, rfl, rfl⟩ := mem_createMarkers (created.mem_iff.mp member)
    rw [createMarker_tag]
    exact servers res present
  have begun : Flags property (started ⟨markers, flags, mCountries, stored⟩ finish) := by
    cases finish with
    | none => exact start
    | some target => exact start.onClosestAnimationFinish target
  exact Machine.invariant (Flags property) (fun _ event flags => flags.step event) begun events

end

section

variable {adapter : JsonAdapter (LazyMarker LatLng)} {tower : MapControlTower LatLng adapter}

/-- The flag of the selected marker, and its position if another marker has the same flag. -/
theorem positionAndFlag_of_selected {key : LatLng} {value : LazyMarker LatLng}
    (selected : tower.firstSelected = some (key, value)) :
    tower.positionAndFlagForSelectedMarker =
      (if FlagShared tower key value.tag then some ⟨key.latitude, key.longitude⟩ else none,
        value.tag) := by
  have single : (tower.markers.entries.countP fun entry => entry.2.tag = value.tag) = 1 ↔
      ¬FlagShared tower key value.tag := by
    rw [HashMap.countP_eq_one_iff (firstSelected_spec selected).1 (decide_eq_true rfl)]
    simp only [FlagShared, decide_eq_true_eq, not_exists, not_and]
    exact forall₂_congr fun entry _ => not_imp_not.symm
  rw [positionAndFlagForSelectedMarker, selected]
  dsimp only
  by_cases shared : FlagShared tower key value.tag
  · rw [if_neg (fun one => single.mp one shared), if_pos shared]
  · rw [if_pos (single.mpr shared), if_neg shared]

theorem positionAndFlag_of_none (absent : tower.firstSelected = none) :
    tower.positionAndFlagForSelectedMarker = (none, []) := by
  rw [positionAndFlagForSelectedMarker, absent]

end

end MapControlTower
end Openpyn.Map
