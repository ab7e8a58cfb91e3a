import Mathlib.Data.List.Basic

/-!
# The camera animator

Camera updates are queued and executed one after another, each when the camera has
come to rest. While they run, the gestures of the map are switched off; their settings
are saved before and restored after.
-/

namespace Openpyn.Map

/-- The settings of the map that the animator and the session handlers write. -/
structure UiSettings where
  rotateGesturesEnabled : Bool
  scrollGesturesEnabled : Bool
  tiltGesturesEnabled : Bool
  zoomControlsEnabled : Bool
  zoomGesturesEnabled : Bool
deriving DecidableEq

/-- `Animation`, as far as the animator reads it. -/
structure Animation where
  mAnimate : Bool
  mCallback : Bool
  mDelay : Int
deriving DecidableEq

/-- Who is told when the camera is idle. -/
inductive OnCameraIdleListener where
  | mapControlTower
  | cameraUpdateAnimator
deriving DecidableEq

/-- The map, as far as the animator and the session handlers change it. Clicks are
those on the map, on markers and on info windows. -/
structure GoogleMap where
  uiSettings : UiSettings
  onCameraIdleListener : Option OnCameraIdleListener
  clicksHandled : Bool
deriving DecidableEq

/-- The calls of the animator and of the session handlers. A camera update starts at
once or after its delay. -/
inductive MapCall where
  | onCameraIdle
  | onAnimationStart
  | onAnimationEnd
  | startAnimation (animation : Animation)
  | toggleConnectButton (connected : Bool)
  | showListAndLocationButton
  | hideListAndLocationButton
deriving DecidableEq

/-- The fields of `CameraUpdateAnimator`, the saved settings as one. Its listener is
set, and its map is passed along. -/
structure CameraUpdateAnimator where
  mCameraUpdates : List Animation
  savedUiSettings : UiSettings
  mAnimating : Bool
deriving DecidableEq

namespace CameraUpdateAnimator

/-- `new CameraUpdateAnimator(...)`. -/
def create (cameraUpdates : List Animation) : CameraUpdateAnimator :=
  ⟨cameraUpdates, ⟨false, false, false, false, false⟩, false⟩

def add (animator : CameraUpdateAnimator) (animation : Animation) : CameraUpdateAnimator :=
  { animator with mCameraUpdates := animator.mCameraUpdates ++ [animation] }

/-- `setUiSettings`: the settings are saved. -/
def setUiSettings (animator : CameraUpdateAnimator) (map : GoogleMap) : CameraUpdateAnimator :=
  { animator with savedUiSettings := map.uiSettings }

/-- `onAnimationStart`. -/
def onAnimationStart (animator : CameraUpdateAnimator) (map : GoogleMap) :
    CameraUpdateAnimator × GoogleMap × List MapCall :=
  ({ animator with mAnimating := true },
    { map with
      uiSettings := ⟨false, false, false, false, false⟩
      onCameraIdleListener := some .cameraUpdateAnimator },
    [.onAnimationStart])

/-- `onAnimationEnd`. -/
def onAnimationEnd (animator : CameraUpdateAnimator) (map : GoogleMap) :
    CameraUpdateAnimator × GoogleMap × List MapCall :=
  ({ animator with mAnimating := false },
    { map with
      uiSettings := animator.savedUiSettings
      onCameraIdleListener := some .mapControlTower },
    [.onCameraIdle, .onAnimationEnd])

/-- `executeNext`. -/
def executeNext (animator : CameraUpdateAnimator) (map : GoogleMap) :
    CameraUpdateAnimator × GoogleMap × List MapCall :=
  match animator.mCameraUpdates with
  | [] => animator.onAnimationEnd map
  | animation :: rest =>
      ({ animator with mCameraUpdates := rest }, map, [.startAnimation animation])

/-- `execute`. -/
def execute (animator : CameraUpdateAnimator) (map : GoogleMap) :
    CameraUpdateAnimator × GoogleMap × List MapCall :=
  if animator.mCameraUpdates = [] then (animator, map, [])
  else
    let (animator, map, started) := (animator.setUiSettings map).onAnimationStart map
    let (animator, map, calls) := animator.executeNext map
    (animator, map, started ++ calls)

end CameraUpdateAnimator
end Openpyn.Map
