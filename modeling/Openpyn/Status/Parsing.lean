import Openpyn.Status.Remaining
import Openpyn.Status.Report

/-!
# Parsing a report

The parsing of a report is one loop over the client rows and one over the route
rows, so a refused row is skipped and the others are stored in order. Only a stray
port leaves the loop. A well-formed output is read back as its values.
-/

namespace Openpyn.Status

open Foundation Java
open OpenVpnStatus
open Completion (done throw withValue forEach)

variable {Address Date : Type} [DecidableEq Address] {platform : Platform Address Date}

namespace OpenVpnStatus

section

variable {σ α : Type}

/-- The `try` block of `addClient` and `addRoute` returns when the row settles. -/
theorem caught_returned_iff (state : σ) (result : Except Throwable α) (next : α → σ) :
    ((withValue state result fun value => (done (next value) : Parsing σ)).catching
      Throwable.isOpenVpnParseException).thrown = none ↔ Settled result := by
  rw [Completion.catching_returned_iff]
  cases result with
  | error exception =>
      constructor
      · rintro handled other ⟨⟩
        exact handled exception rfl
      · rintro settled other ⟨⟩
        exact settled exception rfl
  | ok value =>
      constructor
      · intro handled
        exact Settled.ok value
      · rintro settled other ⟨⟩

theorem caught_state (state : σ) (result : Except Throwable α) (next : α → σ) :
    ((withValue state result fun value => (done (next value) : Parsing σ)).catching
      Throwable.isOpenVpnParseException).state =
      match result.toOption with
      | some value => next value
      | none => state := by
  cases result with
  | error exception => rfl
  | ok value => rfl

end

theorem addClient_returned_iff (status : OpenVpnStatus platform) (row : JString) :
    (addClient status row).thrown = none ↔ Settled (openVpnClient platform row) := by
  apply caught_returned_iff

theorem addRoute_returned_iff (status : OpenVpnStatus platform) (row : JString) :
    (addRoute status row).thrown = none ↔ Settled (openVpnRoute platform row) := by
  apply caught_returned_iff

theorem addClient_state (status : OpenVpnStatus platform) (row : JString) :
    (addClient status row).state =
      { status with clientList := status.clientList ++ (parsedClient platform row).toList } := by
  rw [addClient, caught_state, parsedClient]
  cases (openVpnClient platform row).toOption with
  | none => simp
  | some client => rfl

theorem addRoute_state (status : OpenVpnStatus platform) (row : JString) :
    (addRoute status row).state =
      { status with
        routeSet := status.routeSet.addAll (parsedRoute platform row).toList } := by
  rw [addRoute, caught_state, parsedRoute]
  cases (openVpnRoute platform row).toOption with
  | none => rfl
  | some route => rfl

/-- Client rows that settle leave the clients of those that parse. -/
theorem forEach_addClient {rows : List JString}
    (settled : ∀ row ∈ rows, Settled (openVpnClient platform row))
    (status : OpenVpnStatus platform) :
    (forEach addClient status rows).state =
      { status with
        clientList := status.clientList ++ rows.filterMap (parsedClient platform) } := by
  have returned := (Completion.forEach_returned_iff addClient_returned_iff status rows).mpr settled
  rw [Completion.forEach_state_of_returned addClient_state returned]
  clear returned settled
  induction rows generalizing status with
  | nil => simp
  | cons row rest inductionHypothesis =>
      rw [List.foldl_cons, inductionHypothesis]
      cases parsed : parsedClient platform row with
      | none => simp [parsed]
      | some client => simp [parsed]

/-- Route rows that settle leave the routes of those that parse. -/
theorem forEach_addRoute {rows : List JString}
    (settled : ∀ row ∈ rows, Settled (openVpnRoute platform row))
    (status : OpenVpnStatus platform) :
    (forEach addRoute status rows).state =
      { status with
        routeSet := status.routeSet.addAll (rows.filterMap (parsedRoute platform)) } := by
  have returned := (Completion.forEach_returned_iff addRoute_returned_iff status rows).mpr settled
  rw [Completion.forEach_state_of_returned addRoute_state returned]
  clear returned settled
  induction rows generalizing status with
  | nil => rfl
  | cons row rest inductionHypothesis =>
      rw [List.foldl_cons, inductionHypothesis]
      cases parsed : parsedRoute platform row with
      | none => simp [parsed]
      | some route => simp [parsed]

/-- Lines that are no headers are passed over. -/
theorem scan_append {preamble : List JString}
    (plain : ∀ line ∈ preamble, line ≠ statsHeader ∧ line ≠ clientsHeader ∧ line ≠ routesHeader)
    (status : OpenVpnStatus platform) (rest : List JString) :
    scan status (preamble ++ rest) = scan status rest := by
  induction preamble with
  | nil => rfl
  | cons line lines inductionHypothesis =>
      obtain ⟨noStats, noClients, noRoutes⟩ := plain line List.mem_cons_self
      rw [List.cons_append, scan_of_ne noStats, scanLine, if_neg noClients, if_neg noRoutes]
      exact inductionHypothesis fun other member => plain other (List.mem_cons_of_mem line member)

end OpenVpnStatus

namespace Report

theorem setUpdated_updatedLine (report : Report platform) (status : OpenVpnStatus platform) :
    setUpdated status report.updatedLine =
      done { status with updatedAt := some report.updated.date } := by
  rw [setUpdated, report.parseUpdatedTime_updatedLine]
  rfl

/-- A report is parsed by one loop for each list of rows. -/
theorem setCommandOutput_lines (report : Report platform) (status : OpenVpnStatus platform) :
    setCommandOutput status report.lines =
      (forEach addClient { status with updatedAt := some report.updated.date }
        report.clientRows).andThen fun status => forEach addRoute status report.routeRows := by
  have clients : ∀ row ∈ report.clientRows, decide (row = routesHeader) = false := by
    rintro row member
    exact decide_eq_false fun same => report.clientRows_plain (same ▸ member)
  have routes : ∀ row ∈ report.routeRows, decide (row = globalStats) = false := by
    rintro row member
    exact decide_eq_false fun same => report.routeRows_plain (same ▸ member)
  have other : clientsHeader ≠ statsHeader := by decide
  rw [setCommandOutput_eq_scan, lines, scan_append report.preamble_plain, scan_of_ne other,
    scanLine, if_pos rfl, scanClients, scanUpdated, if_pos report.isUpdated_updatedLine,
    report.setUpdated_updatedLine, Completion.done_andThen, scanColumns, if_pos rfl,
    Cursor.eachUntil_found _ clients (decide_eq_true rfl)]
  congr 1
  funext status
  rw [scanRoutes, if_pos rfl, Cursor.eachUntil_found _ routes (decide_eq_true rfl)]
  exact Completion.andThen_done _

theorem setCommandOutput_returned_iff (report : Report platform)
    (status : OpenVpnStatus platform) :
    (setCommandOutput status report.lines).thrown = none ↔
      (∀ row ∈ report.clientRows, Settled (openVpnClient platform row)) ∧
        ∀ row ∈ report.routeRows, Settled (openVpnRoute platform row) := by
  rw [report.setCommandOutput_lines, Completion.andThen_returned_iff,
    Completion.forEach_returned_iff addClient_returned_iff,
    Completion.forEach_returned_iff addRoute_returned_iff]

/-- The status after a report whose rows settle. -/
theorem setCommandOutput_state (report : Report platform)
    (clients : ∀ row ∈ report.clientRows, Settled (openVpnClient platform row))
    (routes : ∀ row ∈ report.routeRows, Settled (openVpnRoute platform row))
    (status : OpenVpnStatus platform) :
    (setCommandOutput status report.lines).state =
      { clientList := status.clientList ++ report.clientRows.filterMap (parsedClient platform)
        routeSet := status.routeSet.addAll (report.routeRows.filterMap (parsedRoute platform))
        updatedAt := some report.updated.date } := by
  have returned := (Completion.forEach_returned_iff addClient_returned_iff
    { status with updatedAt := some report.updated.date } report.clientRows).mpr clients
  rw [report.setCommandOutput_lines, Completion.andThen_of_returned returned,
    forEach_addClient clients, forEach_addRoute routes]

variable [DecidableEq Date]

/-- Malformed rows are isolated: no constructor fails in another way, the parsing
returns, the clients are those of the rows that parse on their own, in order, and
the routes are those of the rows that parse, with equal routes stored once. -/
structure Isolated (report : Report platform) : Prop where
  clients_settle : ∀ row ∈ report.clientRows, Settled (openVpnClient platform row)
  routes_settle : ∀ row ∈ report.routeRows, Settled (openVpnRoute platform row)
  returned : (setCommandOutput (fresh platform) report.lines).thrown = none
  clients : (setCommandOutput (fresh platform) report.lines).state.getClientList =
    report.clientRows.filterMap (parsedClient platform)
  routes : (setCommandOutput (fresh platform) report.lines).state.routeSet =
    HashSet.empty.addAll (report.routeRows.filterMap (parsedRoute platform))
  routes_parsed : ∀ route ∈ (setCommandOutput (fresh platform) report.lines).state.getRoutes,
    ∃ row ∈ report.routeRows, openVpnRoute platform row = .ok route
  parsed_stored : ∀ row ∈ report.routeRows, ∀ route, openVpnRoute platform row = .ok route →
    ∃ stored ∈ (setCommandOutput (fresh platform) report.lines).state.getRoutes,
      route.equals stored = true

theorem isolated_of_settled (report : Report platform)
    (clients : ∀ row ∈ report.clientRows, Settled (openVpnClient platform row))
    (routes : ∀ row ∈ report.routeRows, Settled (openVpnRoute platform row)) :
    report.Isolated := by
  have state := report.setCommandOutput_state clients routes (fresh platform)
  refine ⟨clients, routes, ?_, ?_, ?_, ?_, ?_⟩
  · exact (report.setCommandOutput_returned_iff _).mpr ⟨clients, routes⟩
  · rw [state]
    rfl
  · rw [state]
    rfl
  · intro route member
    rw [state, getRoutes, HashSet.toFinset, List.mem_toFinset] at member
    rcases HashSet.mem_or_mem_of_mem_addAll member with old | added
    · cases old
    · obtain ⟨row, here, parsed⟩ := List.mem_filterMap.mp added
      exact ⟨row, here, parsedRoute_eq_some_iff.mp parsed⟩
  · intro row here route parsed
    have added : route ∈ report.routeRows.filterMap (parsedRoute platform) :=
      List.mem_filterMap.mpr ⟨row, here, parsedRoute_eq_some_iff.mpr parsed⟩
    rw [state]
    obtain ⟨stored, member, equal⟩ := HashSet.addAll_covers added
    exact ⟨stored, List.mem_toFinset.mpr member, equal⟩

/-- Malformed rows are isolated exactly when none of them has a stray port. -/
theorem isolated_iff (report : Report platform) :
    report.Isolated ↔
      (∀ row ∈ report.clientRows, strayClient platform row = false) ∧
        ∀ row ∈ report.routeRows, strayRoute platform row = false := by
  constructor
  · intro isolated
    constructor
    · intro row member
      exact (openVpnClient_settled_iff platform row).mp (isolated.clients_settle row member)
    · intro row member
      exact (openVpnRoute_settled_iff platform row).mp (isolated.routes_settle row member)
  · rintro ⟨clients, routes⟩
    apply isolated_of_settled
    · intro row member
      exact (openVpnClient_settled_iff platform row).mpr (clients row member)
    · intro row member
      exact (openVpnRoute_settled_iff platform row).mpr (routes row member)

/-- A client row whose port is 70000, in an output that is otherwise complete. -/
def strayReport : Report Platform.recorded where
  preamble := []
  updated := ⟨lit "Wed Feb 11 00:07:24 2015", 1423613244000, by decide, by decide⟩
  clientRows :=
    [lit "cloud.msk.pp.ua,192.168.1.1:70000,19192,19924,Tue Feb 10 23:30:46 2015"]
  routeRows := []
  trailing := []
  preamble_plain := by simp
  updated_line := by decide
  clientRows_plain := by decide
  routeRows_plain := by simp

/-- The stray port leaves the parser and no client is stored. -/
theorem strayReport_not_isolated : ¬strayReport.Isolated := by
  intro isolated
  have settled := isolated.clients_settle _ List.mem_cons_self
  rw [openVpnClient_settled_iff] at settled
  revert settled
  decide

end Report

namespace WellFormedOutput

/-- Routes with distinct triples are all kept by the hash set. -/
theorem elements_routes {output : WellFormedOutput platform}
    (distinct : output.routes.Pairwise fun first second => first.triple ≠ second.triple) :
    ((HashSet.empty : HashSet (OpenVpnRoute.identity platform)).addAll
      (output.routes.map RouteRow.route)).elements = output.routes.map RouteRow.route := by
  rw [HashSet.elements_addAll_of_unequal]
  · rfl
  · rw [HashSet.elements_empty, List.nil_append, List.pairwise_map]
    refine distinct.imp ?_
    intro first second differ
    rw [Bool.eq_false_iff]
    intro equal
    obtain ⟨virtual, name, real⟩ := (OpenVpnRoute.equals_iff _ _).mp equal
    apply differ
    simp only [RouteRow.triple, Prod.mk.injEq]
    exact ⟨virtual.symm, name.symm, real.symm⟩

variable [DecidableEq Date]

/-- A well-formed output is read back: the clients in order, the set of the routes
and the time of the update. -/
theorem setCommandOutput_wellFormed (output : WellFormedOutput platform)
    (distinct : output.routes.Pairwise fun first second => first.triple ≠ second.triple) :
    (setCommandOutput (fresh platform) output.report.lines).thrown = none ∧
    (setCommandOutput (fresh platform) output.report.lines).state.getClientList =
      output.clients.map ClientRow.client ∧
    (setCommandOutput (fresh platform) output.report.lines).state.getRoutes =
      (output.routes.map RouteRow.route).toFinset ∧
    (setCommandOutput (fresh platform) output.report.lines).state.getUpdateTime =
      .ok output.updated.date := by
  have state := output.report.setCommandOutput_state output.clients_settle output.routes_settle
    (fresh platform)
  rw [output.filterMap_clients, output.filterMap_routes] at state
  refine ⟨?_, ?_, ?_, ?_⟩
  · exact (output.report.setCommandOutput_returned_iff _).mpr
      ⟨output.clients_settle, output.routes_settle⟩
  · rw [state]
    rfl
  · rw [state]
    exact congrArg List.toFinset (elements_routes distinct)
  · rw [state]
    rfl

/-- A recorded output with one client and two routes. -/
def recorded : WellFormedOutput Platform.recorded where
  preamble :=
    [lit "INFO:OpenVPN Management Interface Version 1 -- type 'help' for more info", lit "status"]
  updated := ⟨lit "Wed Feb 11 00:07:24 2015", 1423613244000, by decide, by decide⟩
  clients :=
    [{ commonName := lit "cloud.msk.pp.ua"
       peer := ⟨lit "192.168.1.1", lit "59113", [192, 168, 1, 1], by decide, by decide, by decide,
        by decide, by decide⟩
       received := ⟨lit "19192", by decide, by decide⟩
       sent := ⟨lit "19924", by decide, by decide⟩
       since := ⟨lit "Tue Feb 10 23:30:46 2015", 1423611046000, by decide, by decide⟩
       commonName_noComma := by decide }]
  routes :=
    [{ virtual := lit "127.0.0.1"
       virtualAddress := [127, 0, 0, 1]
       commonName := lit "cloud.msk.pp.ua"
       peer := ⟨lit "192.168.1.1", lit "59113", [192, 168, 1, 1], by decide, by decide, by decide,
        by decide, by decide⟩
       last := ⟨lit "Tue Feb 10 23:30:52 2015", 1423611052000, by decide, by decide⟩
       virtual_noComma := by decide
       virtual_known := by decide
       commonName_noComma := by decide },
     { virtual := lit "10.8.0.6"
       virtualAddress := [10, 8, 0, 6]
       commonName := lit "cloud.msk.pp.ua"
       peer := ⟨lit "192.168.1.1", lit "59113", [192, 168, 1, 1], by decide, by decide, by decide,
        by decide, by decide⟩
       last := ⟨lit "Tue Feb 10 23:30:46 2015", 1423611046000, by decide, by decide⟩
       virtual_noComma := by decide
       virtual_known := by decide
       commonName_noComma := by decide }]
  trailing := [lit "Max bcast/mcast queue length,0", lit "END"]
  preamble_plain := by decide
  updated_line := by decide

/-- The recorded output is read back. -/
theorem setCommandOutput_recorded :
    (recorded.routes.Pairwise fun first second => first.triple ≠ second.triple) ∧
    (setCommandOutput (fresh Platform.recorded) recorded.report.lines).thrown = none ∧
    (setCommandOutput (fresh Platform.recorded) recorded.report.lines).state.getClientList =
      recorded.clients.map ClientRow.client ∧
    (setCommandOutput (fresh Platform.recorded) recorded.report.lines).state.getRoutes =
      (recorded.routes.map RouteRow.route).toFinset ∧
    (setCommandOutput (fresh Platform.recorded) recorded.report.lines).state.getUpdateTime =
      .ok recorded.updated.date :=
  ⟨by decide, setCommandOutput_wellFormed recorded (by decide)⟩

end WellFormedOutput

end Openpyn.Status
