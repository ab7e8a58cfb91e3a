import Mathlib.Data.Rat.Defs
import Openpyn.Java.Text

/-!
# Lazy markers

A marker is put on the map when it is first shown. Until then its properties are kept
in its options. Selection is a z-index: 1 for the selected marker, a tenth of the
level for every other one. The map, the titles and the info windows are left out.
-/

namespace Openpyn.Map

open Java

/-- The bitmap of a marker. -/
inductive Icon where
  | map0
  | map1
  | map2
deriving DecidableEq

/-- The properties of a marker that the handlers read or write. -/
structure MarkerOptions where
  visible : Bool
  zIndex : Rat
  icon : Icon
deriving DecidableEq

/-- The fields of `LazyMarker`. `marker` is null before the marker is created. -/
structure LazyMarker (LatLng : Type) where
  level : Int
  location : LatLng
  tag : JString
  marker : Option MarkerOptions
  markerOptions : MarkerOptions

namespace LazyMarker

variable {LatLng : Type}

/-- `new LazyMarker(googleMap, options, aTag)` for options that are not visible. -/
def create (position : LatLng) (icon : Icon) (aTag : JString) : LazyMarker LatLng :=
  ⟨0, position, aTag, none, ⟨false, 0, icon⟩⟩

/-- `equals`, which compares the locations. -/
instance [DecidableEq LatLng] : BEq (LazyMarker LatLng) :=
  ⟨fun value other => value.location = other.location⟩

/-- `isVisible`. -/
def isVisible (value : LazyMarker LatLng) : Bool :=
  match value.marker with
  | some marker => marker.visible
  | none => false

/-- `getZIndex`. -/
def zIndex (value : LazyMarker LatLng) : Rat :=
  match value.marker with
  | some marker => marker.zIndex
  | none => value.markerOptions.zIndex

/-- `setVisible`; `createMarker` adds a marker with the options. -/
def setVisible (value : LazyMarker LatLng) (visible : Bool) : LazyMarker LatLng :=
  match value.marker with
  | some marker => { value with marker := some { marker with visible := visible } }
  | none =>
      if visible then
        let options := { value.markerOptions with visible := true }
        { value with markerOptions := options, marker := some options }
      else value

/-- `if (!value.isVisible) value.isVisible = true`. -/
def makeVisible (value : LazyMarker LatLng) : LazyMarker LatLng :=
  if value.isVisible then value else value.setVisible true

/-- `if (value.isVisible) value.isVisible = false`. -/
def makeInvisible (value : LazyMarker LatLng) : LazyMarker LatLng :=
  if value.isVisible then value.setVisible false else value

/-- `setZIndex`. -/
def setZIndex (value : LazyMarker LatLng) (zIndex : Rat) : LazyMarker LatLng :=
  match value.marker with
  | some marker => { value with marker := some { marker with zIndex := zIndex } }
  | none => { value with markerOptions := { value.markerOptions with zIndex := zIndex } }

/-- `setIcon`. -/
def setIcon (value : LazyMarker LatLng) (icon : Icon) : LazyMarker LatLng :=
  match value.marker with
  | some marker => { value with marker := some { marker with icon := icon } }
  | none => { value with markerOptions := { value.markerOptions with icon := icon } }

/-- `OnLevelChangeCallback`, as the change of the marker. -/
abbrev OnLevelChangeCallback (LatLng : Type) := LazyMarker LatLng → Int → LazyMarker LatLng

/-- `setLevel`; the callback may be null. -/
def setLevel (value : LazyMarker LatLng) (aLevel : Int)
    (callback : Option (OnLevelChangeCallback LatLng)) : LazyMarker LatLng :=
  let value := { value with level := aLevel }
  match callback with
  | some onLevelChange => onLevelChange value aLevel
  | none => value

/-- `onLevelChangeCallback` of the control tower. -/
def onLevelChange (marker : LazyMarker LatLng) (level : Int) : LazyMarker LatLng :=
  if level = 0 then (marker.setZIndex 0).setIcon .map1
  else if level = 1 then (marker.setZIndex (level / 10)).setIcon .map2
  else if level = 10 then (marker.setZIndex 1).setIcon .map0
  else marker

section Lemmas

variable (value : LazyMarker LatLng)

theorem beq_iff [DecidableEq LatLng] {value other : LazyMarker LatLng} :
    (value == other) = true ↔ value.location = other.location := decide_eq_true_iff

@[simp] theorem makeVisible_level : value.makeVisible.level = value.level := by
  grind [makeVisible, setVisible]

@[simp] theorem makeVisible_location : value.makeVisible.location = value.location := by
  grind [makeVisible, setVisible]

@[simp] theorem makeVisible_tag : value.makeVisible.tag = value.tag := by
  grind [makeVisible, setVisible]

@[simp] theorem makeVisible_zIndex : value.makeVisible.zIndex = value.zIndex := by
  grind [makeVisible, setVisible, zIndex]

@[simp] theorem makeVisible_isVisible : value.makeVisible.isVisible = true := by
  grind [makeVisible, setVisible, isVisible]

@[simp] theorem makeInvisible_level : value.makeInvisible.level = value.level := by
  grind [makeInvisible, setVisible]

@[simp] theorem makeInvisible_location : value.makeInvisible.location = value.location := by
  grind [makeInvisible, setVisible]

@[simp] theorem makeInvisible_tag : value.makeInvisible.tag = value.tag := by
  grind [makeInvisible, setVisible]

@[simp] theorem makeInvisible_zIndex : value.makeInvisible.zIndex = value.zIndex := by
  grind [makeInvisible, setVisible, zIndex]

@[simp] theorem makeInvisible_isVisible : value.makeInvisible.isVisible = false := by
  grind [makeInvisible, setVisible, isVisible]

@[simp] theorem onLevelChange_level (level : Int) :
    (value.onLevelChange level).level = value.level := by
  grind [onLevelChange, setZIndex, setIcon]

@[simp] theorem onLevelChange_location (level : Int) :
    (value.onLevelChange level).location = value.location := by
  grind [onLevelChange, setZIndex, setIcon]

@[simp] theorem onLevelChange_tag (level : Int) : (value.onLevelChange level).tag = value.tag := by
  grind [onLevelChange, setZIndex, setIcon]

@[simp] theorem onLevelChange_isVisible (level : Int) :
    (value.onLevelChange level).isVisible = value.isVisible := by
  grind [onLevelChange, setZIndex, setIcon, isVisible]

/-- A level of markers that are not selected sets its own z-index. -/
theorem onLevelChange_zIndex {level : Int} (binary : level = 0 ∨ level = 1) :
    (value.onLevelChange level).zIndex = level / 10 := by
  rcases binary with rfl | rfl
  · grind [onLevelChange, setZIndex, setIcon, zIndex]
  · grind [onLevelChange, setZIndex, setIcon, zIndex]

@[simp] theorem onLevelChange_ten : (value.onLevelChange 10).zIndex = 1 := by
  grind [onLevelChange, setZIndex, setIcon, zIndex]

end Lemmas

end LazyMarker
end Openpyn.Map
