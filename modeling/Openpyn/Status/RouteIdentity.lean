import Openpyn.Status.Accumulation
import Openpyn.Status.Parsing

/-!
# Routes of the same peer

`OpenVpnRoute.equals` leaves the last reference out and `hashCode` takes it in. Two
equal routes with different last references mostly have different hashes, and then the
set stores both. It stores equal routes once exactly when their dates have equal hashes.
-/

namespace Openpyn.Status

open Java
open OpenVpnStatus

variable {Address Date : Type} [DecidableEq Address] {platform : Platform Address Date}

namespace OpenVpnRoute

/-- Of equal routes only the last references can make the hashes differ. -/
theorem hashCode_eq_iff {first second : OpenVpnRoute Address Date}
    (equal : first.equals second = true) :
    first.hashCode platform = second.hashCode platform ↔
      platform.dateHash first.lastRef = platform.dateHash second.lastRef := by
  obtain ⟨virtual, name, real⟩ := (equals_iff first second).mp equal
  simp only [hashCode, virtual, name, real, UInt32.add_right_inj]

end OpenVpnRoute

/-- The status after the rows, each handed to `addRoute`. A row that leaves it with an
exception is followed by the rows of the next output. -/
def afterRows (platform : Platform Address Date) (rows : List JString) :
    OpenVpnStatus platform :=
  rows.foldl (fun status row => (addRoute status row).state) (fresh platform)

/-- `getRoutes()` has no two routes that are equal. -/
def RoutesUnique [DecidableEq Date] (status : OpenVpnStatus platform) : Prop :=
  ∀ first ∈ status.getRoutes, ∀ second ∈ status.getRoutes,
    first.equals second = true → first = second

/-- Rows that parse to equal routes have last references with equal hashes. -/
def DatesCollide (platform : Platform Address Date) (rows : List JString) : Prop :=
  ∀ row ∈ rows, ∀ other ∈ rows, ∀ first second,
    openVpnRoute platform row = .ok first → openVpnRoute platform other = .ok second →
      first.equals second = true →
        platform.dateHash first.lastRef = platform.dateHash second.lastRef

/-- The rows that parse are stored in order. -/
theorem routeSet_afterRows (rows : List JString) :
    (afterRows platform rows).routeSet =
      HashSet.empty.addAll (rows.filterMap (parsedRoute platform)) := by
  induction rows using List.reverseRecOn with
  | nil => rfl
  | append_singleton rows row inductionHypothesis =>
      rw [afterRows] at inductionHypothesis ⊢
      rw [List.foldl_concat, addRoute_state, inductionHypothesis, ← HashSet.addAll_append,
        List.filterMap_append]
      cases parsed : parsedRoute platform row with
      | none => simp [parsed]
      | some route => simp [parsed]

/-- Complete outputs hand their route rows to `addRoute`, one output after another. -/
theorem routeSet_afterOutputs (reports : List (Report platform))
    (clients : ∀ report ∈ reports, ∀ row ∈ report.clientRows, Settled (openVpnClient platform row))
    (routes : ∀ report ∈ reports, ∀ row ∈ report.routeRows, Settled (openVpnRoute platform row)) :
    (afterOutputs platform (reports.map Report.lines)).routeSet =
      (afterRows platform (reports.flatMap Report.routeRows)).routeSet := by
  induction reports using List.reverseRecOn with
  | nil => rfl
  | append_singleton reports report inductionHypothesis =>
      have earlier := inductionHypothesis (fun other member => clients other (by simp [member]))
        fun other member => routes other (by simp [member])
      rw [routeSet_afterRows] at earlier ⊢
      rw [List.map_append, List.map_singleton, afterOutputs_concat,
        report.setCommandOutput_state (clients report (by simp)) (routes report (by simp)), earlier,
        ← HashSet.addAll_append, ← List.filterMap_append]
      simp

section Unique

variable [DecidableEq Date]

theorem routesUnique_iff_hashes (rows : List JString) :
    RoutesUnique (afterRows platform rows) ↔
      ∀ first ∈ rows.filterMap (parsedRoute platform),
        ∀ second ∈ rows.filterMap (parsedRoute platform), first.equals second = true →
          first.hashCode platform = second.hashCode platform := by
  simp only [RoutesUnique, getRoutes, HashSet.toFinset, List.mem_toFinset, routeSet_afterRows]
  exact HashSet.elements_unique_iff OpenVpnRoute.equals_symm OpenVpnRoute.equals_trans _

/-- After any rows, no two routes are equal exactly when the dates of equal routes among
the rows have equal hashes. -/
theorem routesUnique_iff (rows : List JString) :
    RoutesUnique (afterRows platform rows) ↔ DatesCollide platform rows := by
  rw [routesUnique_iff_hashes]
  constructor
  · intro hashes row here other there first second firstParsed secondParsed equal
    rw [← OpenVpnRoute.hashCode_eq_iff equal]
    apply hashes first ?_ second ?_ equal
    · exact List.mem_filterMap.mpr ⟨row, here, parsedRoute_eq_some_iff.mpr firstParsed⟩
    · exact List.mem_filterMap.mpr ⟨other, there, parsedRoute_eq_some_iff.mpr secondParsed⟩
  · intro collide first firstMember second secondMember equal
    obtain ⟨row, here, firstParsed⟩ := List.mem_filterMap.mp firstMember
    obtain ⟨other, there, secondParsed⟩ := List.mem_filterMap.mp secondMember
    rw [OpenVpnRoute.hashCode_eq_iff equal]
    exact collide row here other there first second (parsedRoute_eq_some_iff.mp firstParsed)
      (parsedRoute_eq_some_iff.mp secondParsed) equal

end Unique

/-- Two rows of one peer, six seconds apart. -/
def repeatedRows : List JString :=
  [lit "10.8.0.6,cloud.msk.pp.ua,192.168.1.1:59113,Tue Feb 10 23:30:46 2015",
    lit "10.8.0.6,cloud.msk.pp.ua,192.168.1.1:59113,Tue Feb 10 23:30:52 2015"]

/-- Both rows are listed. -/
theorem getRoutes_repeats : ¬∀ rows, RoutesUnique (afterRows Platform.recorded rows) := by
  intro unique
  have hashes := (routesUnique_iff_hashes repeatedRows).mp (unique repeatedRows)
  revert hashes
  decide +kernel

end Openpyn.Status
