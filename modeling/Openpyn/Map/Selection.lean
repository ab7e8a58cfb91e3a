import Mathlib.Tactic.NormNum
import Openpyn.Map.MapControlTower

/-!
# Selection, visibility, filter and favourites

The handlers look for the first selected marker, and the selection shares the z-index
with the level. What keeps the two apart is an invariant over all markers: at most one
is selected, it is visible, and every other one carries a tenth of its level.
-/

namespace Openpyn.Map

open Foundation Java

namespace LazyMarker

variable {LatLng : Type} (value : LazyMarker LatLng)

@[simp] theorem setLevel_none_level (level : Int) : (value.setLevel level none).level = level := rfl

@[simp] theorem setLevel_none_location (level : Int) :
    (value.setLevel level none).location = value.location := rfl

@[simp] theorem setLevel_none_tag (level : Int) :
    (value.setLevel level none).tag = value.tag := rfl

@[simp] theorem setLevel_none_isVisible (level : Int) :
    (value.setLevel level none).isVisible = value.isVisible := rfl

@[simp] theorem setLevel_none_zIndex (level : Int) :
    (value.setLevel level none).zIndex = value.zIndex := rfl

end LazyMarker

namespace MapControlTower

section Values

variable {LatLng : Type} {value : LazyMarker LatLng}

@[simp] theorem isSelected_iff : isSelected value = true ↔ value.zIndex = 1 := decide_eq_true_iff

@[simp] theorem resetLevel_level : (resetLevel value).level = value.level :=
  LazyMarker.onLevelChange_level _ _

@[simp] theorem resetLevel_location : (resetLevel value).location = value.location :=
  LazyMarker.onLevelChange_location _ _

@[simp] theorem resetLevel_tag : (resetLevel value).tag = value.tag :=
  LazyMarker.onLevelChange_tag _ _

@[simp] theorem resetLevel_isVisible : (resetLevel value).isVisible = value.isVisible :=
  LazyMarker.onLevelChange_isVisible _ _

theorem resetLevel_zIndex (binary : value.level = 0 ∨ value.level = 1) :
    (resetLevel value).zIndex = value.level / 10 :=
  LazyMarker.onLevelChange_zIndex _ binary

/-- A tenth of a level is not the z-index of the selection. -/
theorem tenth_ne_one {level : Int} (binary : level = 0 ∨ level = 1) : (level / 10 : Rat) ≠ 1 := by
  rcases binary with rfl | rfl
  · norm_num
  · norm_num

end Values

variable {LatLng : Type} {adapter : JsonAdapter (LazyMarker LatLng)}

/-- The locations of the stored favourites. -/
def storedLocations (adapter : JsonAdapter (LazyMarker LatLng)) (favorites : Option adapter.Text) :
    List LatLng :=
  (MyStorage.loadFavorites adapter favorites).map LazyMarker.location

/-- A marker lies at its key, and its level says whether it is a favourite. -/
structure Placed (locations : List LatLng) (key : LatLng) (value : LazyMarker LatLng) : Prop where
  location : value.location = key
  level : value.level = 0 ∨ value.level = 1
  favorite : value.level = 1 ↔ value.location ∈ locations

/-- What holds of one marker. -/
structure Settled (flags : Finset JString) (locations : List LatLng) (key : LatLng)
    (value : LazyMarker LatLng) : Prop extends Placed locations key value where
  selected_visible : value.zIndex = 1 → value.isVisible = true
  visible_offered : value.isVisible = true → value.tag ∈ flags
  unselected_zIndex : value.zIndex ≠ 1 → value.zIndex = value.level / 10

/-- What holds of all markers together. -/
structure Consistent (tower : MapControlTower LatLng adapter) : Prop where
  each : ∀ key value, (key, value) ∈ tower.markers.entries →
    Settled tower.flags (storedLocations adapter tower.favorites) key value
  single : ∀ key value other value', (key, value) ∈ tower.markers.entries →
    (other, value') ∈ tower.markers.entries → value.zIndex = 1 → value'.zIndex = 1 → key = other
  stored : (storedLocations adapter tower.favorites).Nodup

/-- No marker is selected. -/
def NoneSelected (tower : MapControlTower LatLng adapter) : Prop :=
  ∀ key value, (key, value) ∈ tower.markers.entries → value.zIndex ≠ 1

/-! ## One marker -/

section Markers

variable {flags former : Finset JString} {locations : List LatLng} {key : LatLng}
  {value : LazyMarker LatLng}

/-- A marker keeps its place while its location and its level stay. -/
theorem Placed.of_same {changed : LazyMarker LatLng} (placed : Placed locations key value)
    (location : changed.location = value.location) (level : changed.level = value.level) :
    Placed locations key changed where
  location := location.trans placed.location
  level := by simpa only [level] using placed.level
  favorite := by simpa only [level, location] using placed.favorite

/-- A marker goes back to the z-index of its level. -/
theorem Placed.resetLevel (placed : Placed locations key value)
    (offered : value.isVisible = true → value.tag ∈ flags) :
    Settled flags locations key (resetLevel value) ∧
      (MapControlTower.resetLevel value).zIndex ≠ 1 := by
  have tenth := resetLevel_zIndex placed.level
  have unselected : (MapControlTower.resetLevel value).zIndex ≠ 1 := by
    rw [tenth]
    exact tenth_ne_one placed.level
  refine ⟨⟨placed.of_same resetLevel_location resetLevel_level, ?_, ?_, ?_⟩, unselected⟩
  · exact fun selected => absurd selected unselected
  · simpa using offered
  · exact fun _ => by simpa using tenth

/-- A visible marker is selected. -/
theorem Settled.select (settled : Settled flags locations key value)
    (visible : value.isVisible = true) :
    Settled flags locations key (value.onLevelChange 10) := by
  refine ⟨settled.of_same (by simp) (by simp), ?_, ?_, ?_⟩
  · exact fun _ => by simpa using visible
  · simpa using settled.visible_offered
  · exact fun unselected => absurd (LazyMarker.onLevelChange_ten value) unselected

/-- The camera shows a marker or hides it, and a marker it hides is not selected any
more. The flags may have changed before. -/
theorem Settled.visit (settled : Settled former locations key value) (bounds : LatLng → Bool) :
    Settled flags locations key (visit bounds flags key value).1 ∧
      ((MapControlTower.visit bounds flags key value).1.zIndex = 1 → value.zIndex = 1) := by
  unfold MapControlTower.visit
  split
  · rename_i inside
    refine ⟨⟨settled.of_same (by simp) (by simp), ?_, ?_, ?_⟩, by simp⟩
    · simp
    · simpa using inside.2
    · simpa using settled.unselected_zIndex
  · have hidden : Placed locations key value.makeInvisible := settled.of_same (by simp) (by simp)
    dsimp only
    split
    · have reset : Settled flags locations key (MapControlTower.resetLevel value.makeInvisible) ∧
          (MapControlTower.resetLevel value.makeInvisible).zIndex ≠ 1 :=
        hidden.resetLevel (by simp)
      exact ⟨reset.1, fun selected => absurd selected reset.2⟩
    · rename_i unselected
      have other : value.zIndex ≠ 1 := by simpa using unselected
      refine ⟨⟨hidden, ?_, by simp, ?_⟩, by simp⟩
      · exact fun selected => absurd (by simpa using selected) other
      · simpa using settled.unselected_zIndex

end Markers

/-! ## The handlers -/

variable {tower : MapControlTower LatLng adapter}

/-- The camera moves after the flags have changed. -/
theorem Consistent.onCameraIdle (consistent : Consistent tower) (flags : Finset JString)
    (bounds : LatLng → Bool) :
    Consistent (onCameraIdle { tower with flags := flags } bounds).1 := by
  have visited : ∀ key value,
      (key, value) ∈
          (MapControlTower.onCameraIdle { tower with flags := flags } bounds).1.markers.entries →
        ∃ old, (key, old) ∈ tower.markers.entries ∧ value = (visit bounds flags key old).1 :=
    fun key value => HashMap.mem_change.mp
  refine ⟨?_, ?_, consistent.stored⟩
  · intro key value member
    obtain ⟨old, before, rfl⟩ := visited key value member
    exact ((consistent.each key old before).visit bounds).1
  · intro key value other value' member member' selected selected'
    obtain ⟨old, before, rfl⟩ := visited key value member
    obtain ⟨old', before', rfl⟩ := visited other value' member'
    exact consistent.single key old other old' before before'
      (((consistent.each key old before).visit bounds).2 selected)
      (((consistent.each other old' before').visit bounds).2 selected')

/-- The marker that `firstSelected` finds. -/
theorem firstSelected_spec {key : LatLng} {value : LazyMarker LatLng}
    (found : tower.firstSelected = some (key, value)) :
    (key, value) ∈ tower.markers.entries ∧ value.zIndex = 1 := by
  refine ⟨List.mem_of_find?_eq_some found, ?_⟩
  simpa using List.find?_some found

theorem noneSelected_of_firstSelected (absent : tower.firstSelected = none) :
    NoneSelected tower := by
  intro key value member selected
  have unselected := List.find?_eq_none.mp absent (key, value) member
  exact unselected (isSelected_iff.mpr selected)

variable [DecidableEq LatLng]

theorem mem_changeMarker {key other : LatLng} {update : LazyMarker LatLng → LazyMarker LatLng}
    {value : LazyMarker LatLng} :
    (other, value) ∈ (tower.changeMarker key update).markers.entries ↔
      ∃ old, (other, old) ∈ tower.markers.entries ∧
        value = if other = key then update old else old :=
  HashMap.mem_change

/-- With nothing selected, one marker may change to anything that is settled. -/
theorem Consistent.changeMarker (consistent : Consistent tower) (none : NoneSelected tower)
    {key : LatLng} {update : LazyMarker LatLng → LazyMarker LatLng}
    (settled : ∀ value, (key, value) ∈ tower.markers.entries →
      Settled tower.flags (storedLocations adapter tower.favorites) key (update value)) :
    Consistent (tower.changeMarker key update) := by
  refine ⟨?_, ?_, consistent.stored⟩
  · intro other value member
    obtain ⟨old, before, rfl⟩ := mem_changeMarker.mp member
    by_cases same : other = key
    · subst same
      rw [if_pos rfl]
      exact settled old before
    · rw [if_neg same]
      exact consistent.each other old before
  · have only : ∀ other value, (other, value) ∈ (tower.changeMarker key update).markers.entries →
        value.zIndex = 1 → other = key := by
      intro other value member selected
      obtain ⟨old, before, rfl⟩ := mem_changeMarker.mp member
      by_contra different
      rw [if_neg different] at selected
      exact none other old before selected
    intro first value other value' member member' selected selected'
    rw [only first value member selected, only other value' member' selected']

/-- After `deselect` nothing is selected, and every marker is as visible as before. -/
theorem Consistent.deselect (consistent : Consistent tower) :
    Consistent tower.deselect ∧ NoneSelected tower.deselect := by
  unfold MapControlTower.deselect
  split
  · rename_i key value found
    obtain ⟨first, selected⟩ := firstSelected_spec found
    have reset : ∀ other value,
        (other, value) ∈ (tower.changeMarker key resetLevel).markers.entries →
        Settled tower.flags (storedLocations adapter tower.favorites) other value ∧
          value.zIndex ≠ 1 := by
      intro other changed member
      obtain ⟨old, before, rfl⟩ := mem_changeMarker.mp member
      have settled := consistent.each other old before
      by_cases same : other = key
      · rw [if_pos same]
        exact settled.toPlaced.resetLevel settled.visible_offered
      · rw [if_neg same]
        exact ⟨settled, fun both =>
          same (consistent.single other old key value before first both selected)⟩
    refine ⟨⟨?_, ?_, consistent.stored⟩, fun other changed member => (reset other changed member).2⟩
    · exact fun other changed member => (reset other changed member).1
    · exact fun other changed _ _ member _ both _ => absurd both (reset other changed member).2
  · rename_i absent
    exact ⟨consistent, noneSelected_of_firstSelected absent⟩

/-- Deselecting leaves every marker as visible as it was. -/
theorem mem_deselect {key : LatLng} {value : LazyMarker LatLng}
    (member : (key, value) ∈ tower.deselect.markers.entries) :
    ∃ old, (key, old) ∈ tower.markers.entries ∧ value.isVisible = old.isVisible := by
  unfold MapControlTower.deselect at member
  split at member
  · obtain ⟨old, before, rfl⟩ := mem_changeMarker.mp member
    refine ⟨old, before, ?_⟩
    split
    · exact resetLevel_isVisible
    · rfl
  · exact ⟨value, member, rfl⟩

/-- A click on a visible marker. -/
theorem Consistent.onMarkerClick (consistent : Consistent tower) {position : LatLng}
    {value : LazyMarker LatLng} (member : (position, value) ∈ tower.markers.entries)
    (visible : value.isVisible = true) :
    Consistent (tower.onMarkerClick value.zIndex position).1 := by
  obtain ⟨left, none⟩ := consistent.deselect
  unfold MapControlTower.onMarkerClick
  split
  · exact consistent
  · dsimp only
    split
    · apply left.changeMarker none
      intro value' member'
      obtain ⟨old, before, same⟩ := mem_deselect member'
      have shown : value'.isVisible = true := by
        rw [same, HashMap.value_unique before member]
        exact visible
      exact (left.each position value' member').select shown
    · exact left

/-- The level of the selected marker changes along with the stored favourites. -/
theorem Consistent.changeLevel (consistent : Consistent tower) {key : LatLng}
    {value : LazyMarker LatLng} (member : (key, value) ∈ tower.markers.entries)
    (selected : value.zIndex = 1) {level : Int} (binary : level = 0 ∨ level = 1)
    {favorites : Option adapter.Text} (nodup : (storedLocations adapter favorites).Nodup)
    (itself : level = 1 ↔ key ∈ storedLocations adapter favorites)
    (others : ∀ other, other ≠ key →
      (other ∈ storedLocations adapter tower.favorites ↔
        other ∈ storedLocations adapter favorites)) :
    Consistent { tower.changeMarker key fun value => value.setLevel level none with
      favorites := favorites } := by
  refine ⟨?_, ?_, nodup⟩
  · intro other changed present
    obtain ⟨old, before, rfl⟩ := mem_changeMarker.mp present
    have settled := consistent.each other old before
    by_cases same : other = key
    · subst same
      rw [if_pos rfl]
      have known : old = value := HashMap.value_unique before member
      refine ⟨⟨settled.location, binary, ?_⟩, settled.selected_visible, settled.visible_offered, ?_⟩
      · simpa [settled.location] using itself
      · exact fun unselected => absurd (known ▸ selected) unselected
    · rw [if_neg same]
      refine ⟨⟨settled.location, settled.level, ?_⟩, settled.selected_visible,
        settled.visible_offered, settled.unselected_zIndex⟩
      rw [settled.favorite, settled.location]
      exact others other same
  · have before : ∀ other changed,
        (other, changed) ∈ (tower.changeMarker key fun value =>
          value.setLevel level none).markers.entries →
        changed.zIndex = 1 → ∃ old, (other, old) ∈ tower.markers.entries ∧ old.zIndex = 1 := by
      intro other changed present both
      obtain ⟨old, before, rfl⟩ := mem_changeMarker.mp present
      refine ⟨old, before, ?_⟩
      split at both
      · exact both
      · exact both
    intro first changed other changed' present present' both both'
    obtain ⟨old, here, was⟩ := before first changed present both
    obtain ⟨old', here', was'⟩ := before other changed' present' both'
    exact consistent.single first old other old' here here' was was'

/-- The level and the stored favourites change together. -/
theorem Consistent.toggleFavoriteMarker (consistent : Consistent tower)
    (preserves : adapter.Preserves LazyMarker.location) :
    Consistent tower.toggleFavoriteMarker.1 := by
  unfold MapControlTower.toggleFavoriteMarker
  split
  · exact consistent
  · rename_i key value found
    obtain ⟨member, selected⟩ := firstSelected_spec found
    have settled := consistent.each key value member
    have compares : ∀ value other : LazyMarker LatLng,
        (value == other) = true ↔ value.location = other.location := fun _ _ => LazyMarker.beq_iff
    split
    · rename_i zero
      have absent : key ∉ storedLocations adapter tower.favorites := by
        rw [← settled.location, ← settled.favorite, zero]
        decide
      have added : storedLocations adapter
          (MyStorage.addFavorite adapter tower.favorites (value.setLevel 1 none)) =
          storedLocations adapter tower.favorites ++ [key] := by
        have whole := MyStorage.map_addFavorite compares preserves tower.favorites
          (value.setLevel 1 none)
        rw [LazyMarker.setLevel_none_location, settled.location] at whole
        exact whole.trans (if_neg absent)
      apply consistent.changeLevel member selected (.inr rfl)
      · rw [added]
        exact consistent.stored.append (List.nodup_singleton key) (by simpa using absent)
      · simp [added]
      · intro other different
        simp [added, different]
    · split
      · rename_i one
        have removed : storedLocations adapter
            (MyStorage.removeFavorite adapter tower.favorites (value.setLevel 0 none)) =
            (storedLocations adapter tower.favorites).erase key := by
          have whole := MyStorage.map_removeFavorite compares preserves tower.favorites
            (value.setLevel 0 none)
          rw [LazyMarker.setLevel_none_location, settled.location] at whole
          exact whole
        apply consistent.changeLevel member selected (.inl rfl)
        · rw [removed]
          exact consistent.stored.erase key
        · simp [removed, consistent.stored.mem_erase_iff]
        · intro other different
          simp [removed, consistent.stored.mem_erase_iff, different]
      · exact consistent

/-! ## The start -/

/-- A created marker is invisible and has the level of its favourite, if there is one. -/
theorem settled_createMarker {favorites : List (LazyMarker LatLng)}
    (levels : ∀ favorite ∈ favorites, favorite.level = 1) (flags : Finset JString)
    (res : Server LatLng) :
    Settled flags (favorites.map LazyMarker.location) res.latLng (createMarker favorites res) ∧
      (createMarker favorites res).zIndex ≠ 1 := by
  unfold createMarker
  dsimp only
  split
  · rename_i favorite found
    have member := List.mem_of_find?_eq_some found
    have location : res.latLng = favorite.location :=
      LazyMarker.beq_iff.mp (by simpa using List.find?_some found)
    rw [levels favorite member]
    -- The new level, before the callback sets the z-index.
    let marker : LazyMarker LatLng :=
      { LazyMarker.create res.latLng .map1 res.flag with level := 1 }
    have placed : Placed (favorites.map LazyMarker.location) res.latLng marker := by
      refine ⟨rfl, .inr rfl, iff_of_true rfl ?_⟩
      exact List.mem_map.mpr ⟨favorite, member, location.symm⟩
    exact placed.resetLevel (fun visible => absurd visible Bool.false_ne_true)
  · rename_i absent
    have unknown : res.latLng ∉ favorites.map LazyMarker.location := by
      intro known
      obtain ⟨favorite, member, same⟩ := List.mem_map.mp known
      exact List.find?_eq_none.mp absent favorite member (LazyMarker.beq_iff.mpr same.symm)
    have unselected : (0 : Rat) ≠ 1 := by norm_num
    refine ⟨⟨⟨rfl, .inl rfl, ?_⟩, ?_, ?_, ?_⟩, unselected⟩
    · exact iff_of_false (by simp [LazyMarker.create]) unknown
    · exact fun selected => absurd selected unselected
    · exact fun visible => absurd visible Bool.false_ne_true
    · exact fun _ => by simp [LazyMarker.create, LazyMarker.zIndex]

/-- Every entry of the map was put there for a server. -/
theorem mem_createMarkers {jsonArray : List (Server LatLng)} {favorites : List (LazyMarker LatLng)}
    {key : LatLng} {value : LazyMarker LatLng}
    (member : (key, value) ∈ (createMarkers jsonArray favorites).2.entries) :
    ∃ res ∈ jsonArray, key = res.latLng ∧ value = createMarker favorites res := by
  suffices extended : ∀ markers : HashMap LatLng (LazyMarker LatLng),
      (key, value) ∈ (jsonArray.foldl (fun markers res =>
        markers.put res.latLng (createMarker favorites res)) markers).entries →
      (key, value) ∈ markers.entries ∨
        ∃ res ∈ jsonArray, key = res.latLng ∧ value = createMarker favorites res by
    exact (extended .empty member).resolve_left (List.not_mem_nil)
  clear member
  induction jsonArray with
  | nil => exact fun markers member => .inl member
  | cons res rest inductionHypothesis =>
      intro markers member
      rcases inductionHypothesis _ member with before | ⟨other, later, same⟩
      · rcases HashMap.mem_put before with new | old
        · obtain ⟨rfl, rfl⟩ := Prod.mk.inj new
          exact .inr ⟨res, List.mem_cons_self, rfl, rfl⟩
        · exact .inl old
      · exact .inr ⟨other, List.mem_cons_of_mem _ later, same⟩

/-- The first animation selects the marker at its target if that is on offer. -/
theorem Consistent.onClosestAnimationFinish (consistent : Consistent tower)
    (none : NoneSelected tower) (target : LatLng) :
    Consistent (tower.onClosestAnimationFinish target).1 := by
  unfold MapControlTower.onClosestAnimationFinish
  split
  · rename_i value found
    split
    · rename_i offered
      apply consistent.changeMarker none
      intro value' member'
      have settled := consistent.each target value' member'
      rw [HashMap.value_unique (HashMap.mem_of_get? found) member'] at offered
      refine ⟨settled.of_same (by simp) (by simp), ?_, ?_, ?_⟩
      · exact fun _ => by simp
      · exact fun _ => by simpa using offered
      · exact fun unselected => absurd (by simp) unselected
    · exact consistent
  · exact consistent

/-- Every event. -/
theorem Consistent.step (consistent : Consistent tower)
    (preserves : adapter.Preserves LazyMarker.location) (event : TowerEvent LatLng) :
    Consistent ((towerMachine adapter).step tower event).1 := by
  cases event with
  | cameraIdle bounds => exact consistent.onCameraIdle tower.flags bounds
  | mapClick => exact consistent.deselect.1
  | markerClick position =>
      cases found : tower.markers.get? position with
      | none =>
          have ignored : (towerMachine adapter).step tower (.markerClick position) =
              (tower, []) := by
            simp [towerMachine, found]
          rw [ignored]
          exact consistent
      | some value =>
          have clicked : (towerMachine adapter).step tower (.markerClick position) =
              if value.isVisible then tower.onMarkerClick value.zIndex position
              else (tower, []) := by
            simp [towerMachine, found]
          rw [clicked]
          split
          · exact consistent.onMarkerClick (HashMap.mem_of_get? found) ‹_›
          · exact consistent
  | selected selectedIds bounds =>
      exact consistent.onCameraIdle (getCurrentFlags tower.mCountries selectedIds) bounds
  | toggleFavorite => exact consistent.toggleFavoriteMarker preserves

/-- The tower after `showData`, and after its animation if that has finished. -/
def started (tower : MapControlTower LatLng adapter) (finish : Option LatLng) :
    MapControlTower LatLng adapter :=
  match finish with
  | some target => (tower.onClosestAnimationFinish target).1
  | none => tower

theorem consistent_started {favorites : Option adapter.Text}
    (levels : ∀ favorite ∈ MyStorage.loadFavorites adapter favorites, favorite.level = 1)
    (once : (storedLocations adapter favorites).Nodup) {jsonArray : List (Server LatLng)}
    {markers : HashMap LatLng (LazyMarker LatLng)}
    (created : markers.entries.Perm
      (createMarkers jsonArray (MyStorage.loadFavorites adapter favorites)).2.entries)
    (flags : Finset JString) (mCountries : List MultiSelectable) (finish : Option LatLng) :
    Consistent (started ⟨markers, flags, mCountries, favorites⟩ finish) := by
  have settled : ∀ key value, (key, value) ∈ markers.entries →
      Settled flags (storedLocations adapter favorites) key value ∧ value.zIndex ≠ 1 := by
    intro key value member
    obtain ⟨res, -, rfl, rfl⟩ := mem_createMarkers (created.mem_iff.mp member)
    exact settled_createMarker levels flags res
  have consistent : Consistent
      (⟨markers, flags, mCountries, favorites⟩ : MapControlTower LatLng adapter) := by
    refine ⟨fun key value member => (settled key value member).1, ?_, once⟩
    exact fun key value _ _ member _ selected _ => absurd selected (settled key value member).2
  cases finish with
  | none => exact consistent
  | some target =>
      exact consistent.onClosestAnimationFinish
        (fun key value member => (settled key value member).2) target

/-- From the markers of the start, every sequence of events keeps selection, visibility,
filter, levels and stored favourites consistent. -/
theorem tower_consistent (preserves : adapter.Preserves LazyMarker.location)
    {favorites : Option adapter.Text}
    (levels : ∀ favorite ∈ MyStorage.loadFavorites adapter favorites, favorite.level = 1)
    (once : (storedLocations adapter favorites).Nodup) {jsonArray : List (Server LatLng)}
    {markers : HashMap LatLng (LazyMarker LatLng)}
    (created : markers.entries.Perm
      (createMarkers jsonArray (MyStorage.loadFavorites adapter favorites)).2.entries)
    (flags : Finset JString) (mCountries : List MultiSelectable) (finish : Option LatLng)
    (events : List (TowerEvent LatLng)) :
    Consistent ((towerMachine adapter).after
      (started ⟨markers, flags, mCountries, favorites⟩ finish) events) :=
  Machine.invariant Consistent (fun _ event consistent => consistent.step preserves event)
    (consistent_started levels once created flags mCountries finish) events

/-- The value that is read back from the fields that are written. -/
def writtenFields {LatLng : Type} (value : LazyMarker LatLng) : LazyMarker LatLng :=
  { LazyMarker.create value.location .map1 value.tag with level := value.level }

/-- An adapter that writes the fields that are not transient. -/
def fieldAdapter (LatLng : Type) : JsonAdapter (LazyMarker LatLng) where
  Text := List (LazyMarker LatLng)
  toJson values := values.map writtenFields
  fromJson := some

theorem fieldAdapter_preserves (LatLng : Type) :
    (fieldAdapter LatLng).Preserves LazyMarker.location := by
  intro values
  refine ⟨values.map writtenFields, rfl, ?_⟩
  rw [List.map_map]
  rfl

/-- A favourite and another server, which is selected, made a favourite and filtered out. -/
theorem tower_consistent_filtered :
    let favorites : Option (fieldAdapter (Int × Int)).Text := 
      some [{ LazyMarker.create (52, 5) .map1 (lit "nl") with level := 1 }]
    let jsonArray : List (Server (Int × Int)) := [⟨lit "nl", (52, 5)⟩, ⟨lit "de", (50, 9)⟩]
    let markers := (createMarkers jsonArray (MyStorage.loadFavorites _ favorites)).2
    Consistent ((towerMachine (fieldAdapter (Int × Int))).after
      (started ⟨markers, {lit "de", lit "nl"}, [.multiSelectModelExtra 150 (lit "nl")], favorites⟩
        none)
      [.cameraIdle fun _ => true, .markerClick (50, 9), .toggleFavorite,
        .selected [150] fun _ => true]) := by
  intro favorites jsonArray markers
  apply tower_consistent (fieldAdapter_preserves _) _ _ (List.Perm.refl _)
  · intro favorite member
    obtain rfl := List.mem_singleton.mp member
    rfl
  · exact List.nodup_singleton _

end MapControlTower
end Openpyn.Map
