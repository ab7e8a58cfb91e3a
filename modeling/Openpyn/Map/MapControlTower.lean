import Openpyn.Foundation.Machine
import Openpyn.Java.HashMap
import Openpyn.Map.CountryFilter
import Openpyn.Map.LazyMarker
import Openpyn.Map.MyStorage

/-!
# The control tower of the map

Markers are shown, selected and made favourites by the events of the map and of the
buttons. The selected marker is the one with z-index 1. Positions are compared only;
the camera, the messages and the info windows are left out.
-/

namespace Openpyn.Map

open Foundation Java

/-- The calls of `views` that the handlers make. -/
inductive ViewCall where
  | hideFavoriteButton
  | callConnectFabOnClick
  | toggleFavoriteButton (checked : Bool)
  | fakeLayoutButtons
  | showAllButtons
deriving DecidableEq

/-- A server of the list, as far as `createMarkers` reads it. -/
structure Server (LatLng : Type) where
  flag : JString
  latLng : LatLng

variable {LatLng : Type} [DecidableEq LatLng]

/-- A marker of `createMarkers`, with the level of the stored favourite that equals it. -/
def createMarker (favorites : List (LazyMarker LatLng)) (res : Server LatLng) :
    LazyMarker LatLng :=
  let marker := LazyMarker.create res.latLng .map1 res.flag
  match favorites.find? (marker == ·) with
  | some favorite => marker.setLevel favorite.level (some .onLevelChange)
  | none => marker

/-- `createMarkers`. The order in which the map lists its entries is not fixed by it. -/
def createMarkers (jsonArray : List (Server LatLng)) (favorites : List (LazyMarker LatLng)) :
    Finset JString × HashMap LatLng (LazyMarker LatLng) :=
  ((jsonArray.map Server.flag).toFinset,
    jsonArray.foldl (fun markers res => markers.put res.latLng (createMarker favorites res)) .empty)

/-- The fields of `MapControlTower` that the handlers read or write, and the
preference of the favourites. -/
structure MapControlTower (LatLng : Type) (adapter : JsonAdapter (LazyMarker LatLng)) where
  markers : HashMap LatLng (LazyMarker LatLng)
  flags : Finset JString
  mCountries : List MultiSelectable
  favorites : Option adapter.Text

namespace MapControlTower

variable {adapter : JsonAdapter (LazyMarker LatLng)}

/-- The value is selected. -/
def isSelected (value : LazyMarker LatLng) : Bool := value.zIndex = 1

/-- `markers.entries.firstOrNull { it.value.zIndex == 1.0f }`. -/
def firstSelected (tower : MapControlTower LatLng adapter) :
    Option (LatLng × LazyMarker LatLng) :=
  tower.markers.entries.find? fun entry => isSelected entry.2

/-- The tower after the marker of a key was changed. -/
def changeMarker (tower : MapControlTower LatLng adapter) (key : LatLng)
    (update : LazyMarker LatLng → LazyMarker LatLng) : MapControlTower LatLng adapter :=
  { tower with markers := tower.markers.changeAt key update }

/-- `it.setLevel(it.level, onLevelChangeCallback)`. -/
def resetLevel (value : LazyMarker LatLng) : LazyMarker LatLng :=
  value.setLevel value.level (some .onLevelChange)

/-- What `onCameraIdle` does with one entry. -/
def visit (bounds : LatLng → Bool) (flags : Finset JString) (key : LatLng)
    (value : LazyMarker LatLng) : LazyMarker LatLng × List ViewCall :=
  if bounds key ∧ value.tag ∈ flags then
    (value.makeVisible, [])
  else
    let value := value.makeInvisible
    if isSelected value then (resetLevel value, [.hideFavoriteButton]) else (value, [])

/-- `onCameraIdle`, the visible region being `bounds`. -/
def onCameraIdle (tower : MapControlTower LatLng adapter) (bounds : LatLng → Bool) :
    MapControlTower LatLng adapter × List ViewCall :=
  ({ tower with markers := tower.markers.change fun key value =>
      (visit bounds tower.flags key value).1 },
    tower.markers.entries.flatMap fun entry => (visit bounds tower.flags entry.1 entry.2).2)

/-- The first selected marker is not selected any more. -/
def deselect (tower : MapControlTower LatLng adapter) : MapControlTower LatLng adapter :=
  match tower.firstSelected with
  | some (key, _) => tower.changeMarker key resetLevel
  | none => tower

/-- `onMapClick`. -/
def onMapClick (tower : MapControlTower LatLng adapter) :
    MapControlTower LatLng adapter × List ViewCall :=
  (tower.deselect, if tower.firstSelected.isSome then [.hideFavoriteButton] else [])

/-- `onMarkerClick`; the marker of the map has the z-index and the position of its
lazy marker. -/
def onMarkerClick (tower : MapControlTower LatLng adapter) (zIndex : Rat) (position : LatLng) :
    MapControlTower LatLng adapter × List ViewCall :=
  if zIndex = 1 then (tower, [.callConnectFabOnClick])
  else
    let tower := tower.deselect
    match tower.markers.get? position with
    | some value => (tower.changeMarker position fun value => value.onLevelChange 10,
        [.toggleFavoriteButton (value.level = 1)])
    | none => (tower, [])

/-- `onSelected`. -/
def onSelected (tower : MapControlTower LatLng adapter) (selectedIds : List Int32)
    (bounds : LatLng → Bool) : MapControlTower LatLng adapter × List ViewCall :=
  onCameraIdle { tower with flags := getCurrentFlags tower.mCountries selectedIds } bounds

/-- `toggleFavoriteMarker`. -/
def toggleFavoriteMarker (tower : MapControlTower LatLng adapter) :
    MapControlTower LatLng adapter × List ViewCall :=
  match tower.firstSelected with
  | none => (tower, [])
  | some (key, value) =>
      if value.level = 0 then
        let value := value.setLevel 1 none
        ({ tower.changeMarker key fun value => value.setLevel 1 none with
            favorites := MyStorage.addFavorite adapter tower.favorites value },
          [.toggleFavoriteButton (value.level = 1)])
      else if value.level = 1 then
        let value := value.setLevel 0 none
        ({ tower.changeMarker key fun value => value.setLevel 0 none with
            favorites := MyStorage.removeFavorite adapter tower.favorites value },
          [.toggleFavoriteButton (value.level = 1)])
      else (tower, [.toggleFavoriteButton (value.level = 1)])

/-- `onAnimationFinish` of the closest animation. -/
def onClosestAnimationFinish (tower : MapControlTower LatLng adapter) (target : LatLng) :
    MapControlTower LatLng adapter × List ViewCall :=
  match tower.markers.get? target with
  | some value =>
      if value.tag ∈ tower.flags then
        (tower.changeMarker target fun value => (value.onLevelChange 10).makeVisible,
          [.fakeLayoutButtons, .toggleFavoriteButton (value.level = 1), .showAllButtons])
      else (tower, [.fakeLayoutButtons, .showAllButtons])
  | none => (tower, [.fakeLayoutButtons, .showAllButtons])

end MapControlTower

/-- The events that reach the tower after the start. -/
inductive TowerEvent (LatLng : Type) where
  | cameraIdle (bounds : LatLng → Bool)
  | mapClick
  | markerClick (position : LatLng)
  | selected (selectedIds : List Int32) (bounds : LatLng → Bool)
  | toggleFavorite

open MapControlTower in
/-- One event after another. Only a visible marker can be clicked. -/
def towerMachine (adapter : JsonAdapter (LazyMarker LatLng)) :
    Machine (MapControlTower LatLng adapter) (TowerEvent LatLng) (List ViewCall) where
  step tower
    | .cameraIdle bounds => tower.onCameraIdle bounds
    | .mapClick => tower.onMapClick
    | .markerClick position =>
        match tower.markers.get? position with
        | some value =>
            if value.isVisible then tower.onMarkerClick value.zIndex position else (tower, [])
        | none => (tower, [])
    | .selected selectedIds bounds => tower.onSelected selectedIds bounds
    | .toggleFavorite => tower.toggleFavoriteMarker

end Openpyn.Map
