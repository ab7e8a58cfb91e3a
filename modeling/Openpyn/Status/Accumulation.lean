import Openpyn.Foundation.Machine
import Openpyn.Status.Remaining

/-!
# One status for several outputs

`setCommandOutput` clears nothing: clients are appended, routes are added, and only the
time of the update is overwritten, in each case as far as the lines are read. A call on a
status that has been filled therefore does what it does on a new one, merged into what
was there.
-/

namespace Openpyn.Status

open Foundation Java
open Completion (Agree)

variable {Address Date : Type} [DecidableEq Address] {platform : Platform Address Date}

namespace OpenVpnStatus

/-- What another status holds, added to what is there. -/
def merge (status added : OpenVpnStatus platform) : OpenVpnStatus platform where
  clientList := status.clientList ++ added.clientList
  routeSet := status.routeSet.addAll added.routeSet.elements
  updatedAt := added.updatedAt.or status.updatedAt

theorem getClientList_merge (status added : OpenVpnStatus platform) :
    (status.merge added).getClientList = status.getClientList ++ added.getClientList := rfl

@[simp] theorem merge_fresh (status : OpenVpnStatus platform) :
    status.merge (fresh platform) = status := by
  simp [merge, fresh]

/-- One status is another one merged into `before`. -/
def Merged (before : OpenVpnStatus platform) (status alone : OpenVpnStatus platform) : Prop :=
  status = before.merge alone

section Steps

variable {before status alone : OpenVpnStatus platform}

theorem addClient_merged (merged : Merged before status alone) (clientString : JString) :
    Agree (Merged before) (addClient status clientString) (addClient alone clientString) := by
  subst merged
  apply Agree.catching
  apply Agree.withValue
  · exact rfl
  · intro client
    apply Agree.done
    simp [Merged, merge]

theorem addRoute_merged (merged : Merged before status alone) (routeString : JString) :
    Agree (Merged before) (addRoute status routeString) (addRoute alone routeString) := by
  subst merged
  apply Agree.catching
  apply Agree.withValue
  · exact rfl
  · intro route
    have grown : before.routeSet.addAll (alone.routeSet.add route).elements =
        (before.routeSet.addAll alone.routeSet.elements).add route :=
      HashSet.addAll_elements_add OpenVpnRoute.equals_trans _ _ _
    apply Agree.done
    simp [Merged, merge, grown]

theorem setUpdated_merged (merged : Merged before status alone) (line : JString) :
    Agree (Merged before) (setUpdated status line) (setUpdated alone line) := by
  subst merged
  apply Agree.catching
  apply Agree.withValue
  · exact rfl
  · intro date
    apply Agree.done
    simp [Merged, merge]

theorem scanRoutes_merged (merged : Merged before status alone) (lines : List JString) :
    Agree (Merged before) (scanRoutes status lines) (scanRoutes alone lines) := by
  cases lines with
  | nil => exact .throw merged noLine
  | cons columns rest =>
      rw [scanRoutes, scanRoutes]
      split
      · apply Cursor.eachUntil_agrees
        · intro status alone routeString merged
          exact addRoute_merged merged routeString
        · intro status alone rest merged
          exact .done merged
        · exact merged
      · exact .throw merged wrongSequence

theorem scanColumns_merged (merged : Merged before status alone) (lines : List JString) :
    Agree (Merged before) (scanColumns status lines) (scanColumns alone lines) := by
  cases lines with
  | nil => exact .throw merged noLine
  | cons columns rest =>
      rw [scanColumns, scanColumns]
      split
      · apply Cursor.eachUntil_agrees
        · intro status alone clientString merged
          exact addClient_merged merged clientString
        · intro status alone rest merged
          exact scanRoutes_merged merged rest
        · exact merged
      · exact .throw merged wrongSequence

theorem scanUpdated_merged
    {next : OpenVpnStatus platform → List JString → Parsing (OpenVpnStatus platform)}
    {lines : List JString}
    (later : ∀ status alone updated rest, lines = updated :: rest → Merged before status alone →
      Agree (Merged before) (next status rest) (next alone rest))
    (merged : Merged before status alone) :
    Agree (Merged before) (scanUpdated next status lines) (scanUpdated next alone lines) := by
  cases lines with
  | nil => exact .throw merged noLine
  | cons updated rest =>
      rw [scanUpdated, scanUpdated]
      split
      · exact (setUpdated_merged merged updated).andThen fun status alone merged =>
          later status alone updated rest rfl merged
      · exact .throw merged wrongSequence

theorem scanLine_merged {skipped skippedAlone : Parsing (OpenVpnStatus platform)}
    (skips : Agree (Merged before) skipped skippedAlone) (merged : Merged before status alone)
    (line : JString) (rest : List JString) :
    Agree (Merged before) (scanLine status line rest skipped)
      (scanLine alone line rest skippedAlone) := by
  rw [scanLine, scanLine]
  split
  · apply scanUpdated_merged
    · intro status alone updated rest _ merged
      exact scanColumns_merged merged rest
    · exact merged
  · split
    · exact scanRoutes_merged merged rest
    · exact skips

end Steps

/-- Every line does to a merged status what it does to the one that was merged in. -/
theorem scan_merged {before status alone : OpenVpnStatus platform}
    (merged : Merged before status alone) (lines : List JString) :
    Agree (Merged before) (scan status lines) (scan alone lines) := by
  induction lines using scanInduction generalizing status alone with
  | nil => exact .done merged
  | statistics rest inductionHypothesis =>
      rw [scan_statistics, scan_statistics]
      refine scanUpdated_merged ?_ merged
      intro status alone updated tail behind merged
      cases tail with
      | nil => exact .throw merged noLine
      | cons next tail =>
          rw [scanNext, scanNext]
          have skips := inductionHypothesis updated next tail behind merged
          exact scanLine_merged skips merged next tail
  | other line rest different inductionHypothesis =>
      rw [scan_of_ne different, scan_of_ne different]
      exact scanLine_merged (inductionHypothesis merged) merged line rest

/-- A call merges what it would have stored in a new status. -/
theorem setCommandOutput_merged (status : OpenVpnStatus platform) (lines : List JString) :
    Agree (Merged status) (setCommandOutput status lines)
      (setCommandOutput (fresh platform) lines) := by
  rw [setCommandOutput_eq_scan, setCommandOutput_eq_scan]
  exact scan_merged (merge_fresh status).symm lines

/-! ## Several outputs -/

/-- One output after another on the same object, each call with its exception. -/
def statusMachine (platform : Platform Address Date) :
    Machine (OpenVpnStatus platform) (List JString) (Option Throwable) where
  step status lines :=
    ((setCommandOutput status lines).state, (setCommandOutput status lines).thrown)

/-- The status after the outputs. -/
def afterOutputs (platform : Platform Address Date) (outputs : List (List JString)) :
    OpenVpnStatus platform :=
  (statusMachine platform).after (fresh platform) outputs

theorem afterOutputs_concat (platform : Platform Address Date) (outputs : List (List JString))
    (lines : List JString) :
    afterOutputs platform (outputs ++ [lines]) =
      (setCommandOutput (afterOutputs platform outputs) lines).state := by
  simp [afterOutputs, statusMachine]

/-- After any outputs, a call ends as on a new status, and whether it returns or throws,
the clients follow those that were there, the routes are added to those that were there,
and the time of the update is overwritten if one was read. -/
theorem setCommandOutput_accumulates (platform : Platform Address Date)
    (outputs : List (List JString)) (lines : List JString) :
    let before := afterOutputs platform outputs
    let call := setCommandOutput before lines
    let alone := setCommandOutput (fresh platform) lines
    call.thrown = alone.thrown ∧
      call.state.getClientList = before.getClientList ++ alone.state.getClientList ∧
      call.state.routeSet = before.routeSet.addAll alone.state.routeSet.elements ∧
      call.state.updatedAt = alone.state.updatedAt.or before.updatedAt := by
  intro before call alone
  obtain ⟨state, -, thrown⟩ := setCommandOutput_merged before lines
  refine ⟨thrown, ?_, ?_, ?_⟩
  · exact congrArg clientList state
  · exact congrArg routeSet state
  · exact congrArg updatedAt state

/-- A call that returns leaves what it would leave in a new status. -/
def ReplacesOnReturn [DecidableEq Date] (before : OpenVpnStatus platform)
    (lines : List JString) : Prop :=
  let call := setCommandOutput before lines
  let alone := setCommandOutput (fresh platform) lines
  call.thrown = none →
    call.state.getClientList = alone.state.getClientList ∧
      call.state.getRoutes = alone.state.getRoutes ∧ call.state.updatedAt = alone.state.updatedAt

/-- A call that throws its declared exception leaves what was there. -/
def RestoresOnThrow [DecidableEq Date] (before : OpenVpnStatus platform)
    (lines : List JString) : Prop :=
  let call := setCommandOutput before lines
  (∃ message, call.thrown = some (.openVpnParseException message)) →
    call.state.getClientList = before.getClientList ∧
      call.state.getRoutes = before.getRoutes ∧ call.state.updatedAt = before.updatedAt

/-- An output with one client. -/
def oneClient : List JString :=
  [lit "OpenVPN CLIENT LIST", lit "Updated,Wed Feb 11 00:07:24 2015",
    lit "Common Name,Real Address,Bytes Received,Bytes Sent,Connected Since",
    lit "cloud.msk.pp.ua,192.168.1.1:59113,19192,19924,Tue Feb 10 23:30:46 2015",
    lit "ROUTING TABLE", lit "Virtual Address,Common Name,Real Address,Last Ref",
    lit "GLOBAL STATS"]

/-- An output that is refused behind the time of its update. -/
def refusedColumns : List JString :=
  [lit "OpenVPN CLIENT LIST", lit "Updated,Wed Feb 11 00:07:24 2015", lit "Common Name"]

theorem scan_oneClient :
    (scan (fresh Platform.recorded) oneClient).thrown = none ∧
      (scan (fresh Platform.recorded) oneClient).state.getClientList.length = 1 := by
  decide +kernel

theorem scan_refusedColumns :
    (scan (fresh Platform.recorded) refusedColumns).thrown = some wrongSequence ∧
      (scan (fresh Platform.recorded) refusedColumns).state.updatedAt = some 1423613244000 := by
  decide +kernel

/-- The same output twice doubles its client, and a refused output keeps its time. -/
theorem setCommandOutput_keeps :
    (¬∀ outputs lines, ReplacesOnReturn (afterOutputs Platform.recorded outputs) lines) ∧
      ¬∀ outputs lines, RestoresOnThrow (afterOutputs Platform.recorded outputs) lines := by
  constructor
  · intro replaces
    obtain ⟨returned, one⟩ := scan_oneClient
    rw [← setCommandOutput_eq_scan] at returned one
    obtain ⟨state, -, thrown⟩ :=
      setCommandOutput_merged (afterOutputs Platform.recorded [oneClient]) oneClient
    have once : afterOutputs Platform.recorded [oneClient] =
        (setCommandOutput (fresh Platform.recorded) oneClient).state :=
      afterOutputs_concat Platform.recorded [] oneClient
    have clients := (replaces [oneClient] oneClient (thrown.trans returned)).1
    have lengths := congrArg List.length clients
    rw [state] at lengths
    rw [getClientList_merge, once, List.length_append, one] at lengths
    omega
  · intro restores
    obtain ⟨refused, time⟩ := scan_refusedColumns
    rw [← setCommandOutput_eq_scan] at refused time
    have kept := (restores [] refusedColumns ⟨_, refused⟩).2.2
    exact Option.some_ne_none _ (time.symm.trans kept)

end OpenVpnStatus

end Openpyn.Status
