import Openpyn.Foundation.Machine
import Openpyn.Foundation.Since
import Openpyn.Map.CameraUpdateAnimator

/-!
# Gestures, sessions and animations

A session switches the gestures of the map off, and an animation restores what it
found at its start. A session that starts or finishes in between is undone by the
restore, so the gestures are right exactly when no animation sees such a change.
-/

namespace Openpyn.Map

open Foundation

/-- The animator of the control tower and its map. -/
structure Screen where
  mCameraUpdateAnimator : CameraUpdateAnimator
  mMap : GoogleMap
deriving DecidableEq

namespace Screen

/-- What `showData` leaves, with any animations queued for the start. -/
def showData (mAnimations : List Animation) (uiSettings : UiSettings) : Screen :=
  ⟨.create mAnimations,
    ⟨{ uiSettings with scrollGesturesEnabled := true, zoomGesturesEnabled := true }, none, true⟩⟩

/-- Scroll and zoom gestures are switched together. -/
def setGestures (map : GoogleMap) (enabled : Bool) : GoogleMap :=
  { map with
    uiSettings := { map.uiSettings with
      scrollGesturesEnabled := enabled
      zoomGesturesEnabled := enabled }
    clicksHandled := enabled }

/-- `onSessionStarted`. -/
def onSessionStarted (screen : Screen) : Screen × List MapCall :=
  ({ screen with mMap := setGestures screen.mMap false },
    [.toggleConnectButton true, .hideListAndLocationButton])

/-- `onSessionFinished`. -/
def onSessionFinished (screen : Screen) : Screen × List MapCall :=
  ({ screen with mMap := setGestures screen.mMap true },
    [.toggleConnectButton false, .showListAndLocationButton])

/-- `animateCamera` to the current position. -/
def animateCamera (screen : Screen) : Screen × List MapCall :=
  if screen.mCameraUpdateAnimator.mAnimating then (screen, [])
  else
    let (animator, map, calls) :=
      (screen.mCameraUpdateAnimator.add ⟨true, true, 0⟩).execute screen.mMap
    (⟨animator, map⟩, calls)

/-- The camera comes to rest. -/
def onCameraIdle (screen : Screen) : Screen × List MapCall :=
  match screen.mMap.onCameraIdleListener with
  | none => (screen, [])
  | some .mapControlTower => (screen, [.onCameraIdle])
  | some .cameraUpdateAnimator =>
      let (animator, map, calls) := screen.mCameraUpdateAnimator.executeNext screen.mMap
      (⟨animator, map⟩, calls)

end Screen

/-- What happens to the screen. -/
inductive ScreenEvent where
  | sessionStarted
  | sessionFinished
  | animateCamera
  | cameraIdle
deriving DecidableEq

/-- One event after another. -/
def screenMachine : Machine Screen ScreenEvent (List MapCall) where
  step screen
    | .sessionStarted => screen.onSessionStarted
    | .sessionFinished => screen.onSessionFinished
    | .animateCamera => screen.animateCamera
    | .cameraIdle => screen.onCameraIdle

/-- What happens and what it calls, in order. -/
abbrev ScreenEntry := ScreenEvent ⊕ MapCall

/-- A session has started and none has finished since. -/
def SessionActive (journal : List ScreenEntry) : Prop :=
  Since (· = .inl .sessionStarted) (· = .inl .sessionFinished) journal

instance (journal : List ScreenEntry) : Decidable (SessionActive journal) :=
  inferInstanceAs (Decidable (Since _ _ journal))

/-- The gestures of the settings are enabled exactly when no session is active. -/
def GesturesFit (settings : UiSettings) (journal : List ScreenEntry) : Prop :=
  (settings.scrollGesturesEnabled = true ↔ ¬SessionActive journal) ∧
    (settings.zoomGesturesEnabled = true ↔ ¬SessionActive journal)

/-- An animation that ends finds the session as it was when the animation started. -/
def EndsAsStarted (earlier : List ScreenEntry) (entry : ScreenEntry) : Prop :=
  entry = .inr .onAnimationEnd →
    ∀ before ∈ beforeLatest (· = .inr .onAnimationStart) earlier,
      (SessionActive earlier ↔ SessionActive before)

/-- With no animation running, the gestures fit the session. -/
def GesturesFollow (start : Screen) (past : List ScreenEvent) : Prop :=
  (screenMachine.after start past).mCameraUpdateAnimator.mAnimating = false →
    GesturesFit (screenMachine.after start past).mMap.uiSettings (screenMachine.journal start past)

/-! ## What a step does -/

/-- The call neither starts nor ends an animation. -/
def InBetween (call : MapCall) : Prop := call ≠ .onAnimationStart ∧ call ≠ .onAnimationEnd

/-- What a step does, as far as gestures and animations are concerned. -/
inductive ScreenEffect (screen : Screen) : ScreenEvent → Screen × List MapCall → Prop
  | session {event : ScreenEvent} (enabled : Bool) {calls : List MapCall}
      (which : event = if enabled then .sessionFinished else .sessionStarted)
      (quiet : ∀ call ∈ calls, InBetween call) :
      ScreenEffect screen event
        ({ screen with mMap := Screen.setGestures screen.mMap enabled }, calls)
  | begins {next : Screen} {calls : List MapCall}
      (running : next.mCameraUpdateAnimator.mAnimating = true)
      (saved : next.mCameraUpdateAnimator.savedUiSettings = screen.mMap.uiSettings)
      (idle : screen.mCameraUpdateAnimator.mAnimating = false)
      (quiet : ∀ call ∈ calls, InBetween call) :
      ScreenEffect screen .animateCamera (next, .onAnimationStart :: calls)
  | ends {next : Screen} (calls : List MapCall)
      (running : screen.mCameraUpdateAnimator.mAnimating = true)
      (restored : next.mMap.uiSettings = screen.mCameraUpdateAnimator.savedUiSettings)
      (idle : next.mCameraUpdateAnimator.mAnimating = false)
      (quiet : ∀ call ∈ calls, InBetween call) :
      ScreenEffect screen .cameraIdle (next, calls ++ [.onAnimationEnd])
  | unchanged {event : ScreenEvent} {next : Screen} {calls : List MapCall}
      (which : event = .animateCamera ∨ event = .cameraIdle)
      (animating : next.mCameraUpdateAnimator.mAnimating =
        screen.mCameraUpdateAnimator.mAnimating)
      (saved : next.mCameraUpdateAnimator.savedUiSettings =
        screen.mCameraUpdateAnimator.savedUiSettings)
      (settings : next.mMap.uiSettings = screen.mMap.uiSettings)
      (quiet : ∀ call ∈ calls, InBetween call) : ScreenEffect screen event (next, calls)

/-- The animator listens to the camera only while it is animating. -/
def Screen.Attentive (screen : Screen) : Prop :=
  screen.mMap.onCameraIdleListener = some .cameraUpdateAnimator →
    screen.mCameraUpdateAnimator.mAnimating = true

/-- A camera update is queued, and the first one of the queue starts. -/
theorem animateCamera_idle {screen : Screen}
    (idle : screen.mCameraUpdateAnimator.mAnimating = false) :
    ∃ first rest, screen.animateCamera =
      (⟨⟨rest, screen.mMap.uiSettings, true⟩,
        ⟨⟨false, false, false, false, false⟩, some .cameraUpdateAnimator,
          screen.mMap.clicksHandled⟩⟩,
        [.onAnimationStart, .startAnimation first]) := by
  obtain ⟨first, rest, queued⟩ : ∃ first rest,
      (screen.mCameraUpdateAnimator.add ⟨true, true, 0⟩).mCameraUpdates = first :: rest :=
    List.exists_cons_of_ne_nil (List.append_ne_nil_of_right_ne_nil _ (List.cons_ne_nil _ _))
  refine ⟨first, rest, ?_⟩
  simp [Screen.animateCamera, idle, CameraUpdateAnimator.execute,
    CameraUpdateAnimator.setUiSettings, CameraUpdateAnimator.onAnimationStart,
    CameraUpdateAnimator.executeNext, queued]

theorem animateCamera_running {screen : Screen}
    (running : screen.mCameraUpdateAnimator.mAnimating = true) :
    screen.animateCamera = (screen, []) := if_pos running

theorem effect_animateCamera (screen : Screen) :
    ScreenEffect screen .animateCamera screen.animateCamera := by
  cases idle : screen.mCameraUpdateAnimator.mAnimating with
  | true =>
      rw [animateCamera_running idle]
      exact .unchanged (.inl rfl) rfl rfl rfl (by simp)
  | false =>
      obtain ⟨first, rest, started⟩ := animateCamera_idle idle
      rw [started]
      exact .begins rfl rfl idle (by simp [InBetween])

theorem effect_onCameraIdle {screen : Screen} (attentive : screen.Attentive) :
    ScreenEffect screen .cameraIdle screen.onCameraIdle := by
  unfold Screen.onCameraIdle
  split
  · exact .unchanged (.inr rfl) rfl rfl rfl (by simp)
  · exact .unchanged (.inr rfl) rfl rfl rfl (by simp [InBetween])
  · rename_i listening
    have running := attentive listening
    unfold CameraUpdateAnimator.executeNext
    cases screen.mCameraUpdateAnimator.mCameraUpdates with
    | nil => exact .ends [.onCameraIdle] running rfl rfl (by simp [InBetween])
    | cons animation rest => exact .unchanged (.inr rfl) rfl rfl rfl (by simp [InBetween])

/-- Every step has one of the effects. -/
theorem screenEffect_step {screen : Screen} (attentive : screen.Attentive) (event : ScreenEvent) :
    ScreenEffect screen event (screenMachine.step screen event) := by
  cases event with
  | sessionStarted => exact .session false rfl (by simp [InBetween])
  | sessionFinished => exact .session true rfl (by simp [InBetween])
  | animateCamera => exact effect_animateCamera screen
  | cameraIdle => exact effect_onCameraIdle attentive

theorem attentive_step {screen : Screen} (attentive : screen.Attentive) (event : ScreenEvent) :
    (screenMachine.step screen event).1.Attentive := by
  cases event with
  | sessionStarted => exact attentive
  | sessionFinished => exact attentive
  | animateCamera =>
      have method : screenMachine.step screen .animateCamera = screen.animateCamera := rfl
      rw [method]
      cases idle : screen.mCameraUpdateAnimator.mAnimating with
      | true =>
          rw [animateCamera_running idle]
          exact attentive
      | false =>
          obtain ⟨first, rest, started⟩ := animateCamera_idle idle
          rw [started]
          exact fun _ => rfl
  | cameraIdle =>
      have method : screenMachine.step screen .cameraIdle = screen.onCameraIdle := rfl
      rw [method]
      unfold Screen.onCameraIdle
      split
      · exact attentive
      · exact attentive
      · rename_i listening
        unfold CameraUpdateAnimator.executeNext
        cases screen.mCameraUpdateAnimator.mCameraUpdates with
        | nil => rintro ⟨⟩
        | cons animation rest => exact attentive

/-! ## Runs -/

section Entries

variable {journal : List ScreenEntry} {event : ScreenEvent} {calls : List MapCall}

/-- Only events change whether a session is active. -/
theorem sessionActive_step :
    SessionActive (journal ++ .inl event :: calls.map .inr) ↔
      event = .sessionStarted ∨ (SessionActive journal ∧ event ≠ .sessionFinished) := by
  have parts : journal ++ .inl event :: calls.map .inr =
      (journal ++ [.inl event]) ++ calls.map .inr := by simp
  rw [parts, SessionActive, since_append_of_neutral, since_concat]
  · simp [SessionActive]
  · intro entry member
    obtain ⟨call, -, rfl⟩ := List.mem_map.mp member
    simp

/-- An event of the camera or of the button changes no session. -/
theorem sessionActive_camera (which : event = .animateCamera ∨ event = .cameraIdle) :
    SessionActive (journal ++ .inl event :: calls.map .inr) ↔ SessionActive journal := by
  rw [sessionActive_step]
  rcases which with rfl | rfl
  · simp
  · simp

/-- A step without a start leaves the latest start as it is. -/
theorem beforeLatest_quiet (quiet : ∀ call ∈ calls, InBetween call) :
    beforeLatest (· = .inr .onAnimationStart) (journal ++ .inl event :: calls.map .inr) =
      beforeLatest (· = .inr .onAnimationStart) journal := by
  apply beforeLatest_append_of_forall_not
  intro entry member
  rcases List.mem_cons.mp member with rfl | called
  · simp
  · obtain ⟨call, here, rfl⟩ := List.mem_map.mp called
    simpa using (quiet call here).1

/-- The latest start is the one that a step begins with. -/
theorem beforeLatest_begins (quiet : ∀ call ∈ calls, InBetween call) :
    beforeLatest (· = .inr .onAnimationStart)
        (journal ++ .inl event :: (MapCall.onAnimationStart :: calls).map .inr) =
      some (journal ++ [.inl event]) := by
  have parts : journal ++ .inl event :: (MapCall.onAnimationStart :: calls).map .inr =
      ((journal ++ [.inl event]) ++ [.inr .onAnimationStart]) ++ calls.map .inr := by simp
  rw [parts, beforeLatest_append_of_forall_not, beforeLatest_concat, if_pos rfl]
  intro entry member
  obtain ⟨call, here, rfl⟩ := List.mem_map.mp member
  simpa using (quiet call here).1

/-- A step without an end ends no animation. -/
theorem always_endsAsStarted_of_quiet (journal : List ScreenEntry) (event : ScreenEvent)
    (quiet : ∀ call ∈ calls, call ≠ .onAnimationEnd) :
    Always (fun before => EndsAsStarted (journal ++ before)) (.inl event :: calls.map .inr) := by
  apply always_of_forall
  rintro entry member before rfl
  exact absurd rfl (quiet .onAnimationEnd (by simpa using member))

end Entries

/-- Settings that fit one journal fit another one if and only if the session is the same. -/
theorem GesturesFit.fit_iff {settings : UiSettings} {journal later : List ScreenEntry}
    (fit : GesturesFit settings journal) :
    GesturesFit settings later ↔ (SessionActive later ↔ SessionActive journal) := by
  obtain ⟨scroll, zoom⟩ := fit
  rw [GesturesFit, scroll, zoom, and_self, not_iff_not]
  exact Iff.comm

/-- The saved settings are those that fitted the session at the latest start. -/
def Saves (journal : List ScreenEntry) (screen : Screen) : Prop :=
  screen.mCameraUpdateAnimator.mAnimating = true →
    ∃ before, beforeLatest (· = .inr .onAnimationStart) journal = some before ∧
      GesturesFit screen.mCameraUpdateAnimator.savedUiSettings before

theorem saves_step {journal : List ScreenEntry} {screen : Screen} (saves : Saves journal screen)
    (fit : screen.mCameraUpdateAnimator.mAnimating = false →
      GesturesFit screen.mMap.uiSettings journal)
    {event : ScreenEvent} {answer : Screen × List MapCall}
    (effect : ScreenEffect screen event answer) :
    Saves (journal ++ .inl event :: answer.2.map .inr) answer.1 := by
  cases effect with
  | session enabled which quiet =>
      rw [Saves, beforeLatest_quiet quiet]
      exact saves
  | begins running saved idle quiet =>
      intro _
      refine ⟨journal ++ [.inl .animateCamera], ?_, ?_⟩
      · exact beforeLatest_begins quiet
      · rw [saved]
        apply (fit idle).fit_iff.mpr
        simp [SessionActive]
  | ends calls running restored idle quiet =>
      intro still
      exact absurd (idle.symm.trans still) Bool.false_ne_true
  | unchanged which animating saved settings quiet =>
      rw [Saves, beforeLatest_quiet quiet, animating, saved]
      exact saves

/-- An end restores the settings of the start, which fit if the session is the same. -/
theorem follow_step_iff {journal : List ScreenEntry} {screen : Screen}
    (saves : Saves journal screen)
    (fit : screen.mCameraUpdateAnimator.mAnimating = false →
      GesturesFit screen.mMap.uiSettings journal)
    {event : ScreenEvent} {answer : Screen × List MapCall}
    (effect : ScreenEffect screen event answer) :
    (answer.1.mCameraUpdateAnimator.mAnimating = false →
        GesturesFit answer.1.mMap.uiSettings (journal ++ .inl event :: answer.2.map .inr)) ↔
      Always (fun before => EndsAsStarted (journal ++ before))
        (.inl event :: answer.2.map .inr) := by
  cases effect with
  | session enabled which quiet =>
      refine iff_of_true (fun _ => ?_)
        (always_endsAsStarted_of_quiet _ _ fun call member => (quiet call member).2)
      rw [GesturesFit, sessionActive_step, which]
      cases enabled with
      | true => simp [Screen.setGestures]
      | false => simp [Screen.setGestures]
  | begins running saved idle quiet =>
      refine iff_of_true (fun still => ?_) (always_endsAsStarted_of_quiet _ _ ?_)
      · exact absurd (still.symm.trans running) Bool.false_ne_true
      · intro call member
        rcases List.mem_cons.mp member with rfl | later
        · decide
        · exact (quiet call later).2
  | ends calls running restored idle quiet =>
      obtain ⟨before, latest, fitted⟩ := saves running
      have still : ∀ calls : List MapCall,
          SessionActive (journal ++ .inl .cameraIdle :: calls.map .inr) ↔ SessionActive journal :=
        fun _ => sessionActive_camera (.inr rfl)
      have silent := always_endsAsStarted_of_quiet journal .cameraIdle
        fun call member => (quiet call member).2
      have ended : EndsAsStarted (journal ++ .inl .cameraIdle :: calls.map .inr)
          (.inr .onAnimationEnd) ↔ (SessionActive journal ↔ SessionActive before) := by
        simp [EndsAsStarted, beforeLatest_quiet quiet, latest, still]
      rw [restored, fitted.fit_iff, still, forall_prop_of_true idle, Machine.entries_concat,
        always_concat, and_iff_right silent, ended]
  | unchanged which animating saved settings quiet =>
      refine iff_of_true (fun still => ?_)
        (always_endsAsStarted_of_quiet _ _ fun call member => (quiet call member).2)
      rw [settings]
      exact (fit (animating.symm.trans still)).fit_iff.mpr (sessionActive_camera which)

theorem screen_attentive {start : Screen} (attentive : start.Attentive)
    (inputs : List ScreenEvent) : (screenMachine.after start inputs).Attentive :=
  Machine.invariant Screen.Attentive (fun _ event attentive => attentive_step attentive event)
    attentive inputs

/-- While the gestures follow the session, the saved settings are right. -/
theorem saves_journal {start : Screen} (attentive : start.Attentive)
    (idle : start.mCameraUpdateAnimator.mAnimating = false) {inputs : List ScreenEvent}
    (follow : Throughout (GesturesFollow start) inputs) :
    Saves (screenMachine.journal start inputs) (screenMachine.after start inputs) := by
  induction inputs using List.reverseRecOn with
  | nil =>
      intro running
      exact absurd (idle.symm.trans running) Bool.false_ne_true
  | append_singleton past event inductionHypothesis =>
      obtain ⟨earlier, -⟩ := throughout_concat.mp follow
      rw [Machine.journal_concat, Machine.after_append]
      exact saves_step (inductionHypothesis earlier) earlier.last
        (screenEffect_step (screen_attentive attentive past) event)

theorem follow_iff {start : Screen} (attentive : start.Attentive)
    (idle : start.mCameraUpdateAnimator.mAnimating = false)
    (fit : GesturesFit start.mMap.uiSettings []) (inputs : List ScreenEvent) :
    Throughout (GesturesFollow start) inputs ↔
      Always EndsAsStarted (screenMachine.journal start inputs) := by
  induction inputs using List.reverseRecOn with
  | nil => exact iff_of_true (throughout_nil.mpr fun _ => fit) always_nil
  | append_singleton past event inductionHypothesis =>
      rw [throughout_concat, Machine.journal_concat, always_append, ← inductionHypothesis,
        GesturesFollow, Machine.after_append, Machine.journal_concat]
      apply and_congr_right
      intro follow
      exact follow_step_iff (saves_journal attentive idle follow) follow.last
        (screenEffect_step (screen_attentive attentive past) event)

/-- In every run, the gestures follow the session exactly when every animation ends
with the session as it was at its start. -/
theorem gestures_follow_iff (mAnimations : List Animation) (uiSettings : UiSettings)
    (inputs : List ScreenEvent) :
    Throughout (GesturesFollow (.showData mAnimations uiSettings)) inputs ↔
      Always EndsAsStarted (screenMachine.journal (.showData mAnimations uiSettings) inputs) := by
  refine follow_iff ?_ rfl ?_ inputs
  · rintro ⟨⟩
  · simp [GesturesFit, SessionActive, Screen.showData]

/-- A session that starts during an animation is undone by its end. -/
theorem gestures_restored_in_session :
    ¬∀ mAnimations uiSettings inputs,
      Throughout (GesturesFollow (.showData mAnimations uiSettings)) inputs := by
  intro follow
  have last := (follow [] ⟨true, true, true, true, true⟩
    [.animateCamera, .sessionStarted, .cameraIdle]).last rfl
  exact absurd last.1 (by decide)

end Openpyn.Map
