import Openpyn.Status.OpenVpnStatus
import Openpyn.Status.WellFormed

/-!
# Reports

A report is a complete output of the server around arbitrary rows, and a
well-formed output is the report of well-formed rows. Both name what the parser is
compared with: the values of the rows that parse on their own.
-/

namespace Openpyn.Status

open Java
open OpenVpnStatus

variable {Address Date : Type} {platform : Platform Address Date}

/-- The client of a row that parses on its own. -/
def parsedClient (platform : Platform Address Date) (row : JString) :
    Option (OpenVpnClient Address Date) :=
  (openVpnClient platform row).toOption

/-- The route of a row that parses on its own. -/
def parsedRoute (platform : Platform Address Date) (row : JString) :
    Option (OpenVpnRoute Address Date) :=
  (openVpnRoute platform row).toOption

theorem parsedRoute_eq_some_iff {row : JString} {route : OpenVpnRoute Address Date} :
    parsedRoute platform row = some route ↔ openVpnRoute platform row = .ok route := by
  rw [parsedRoute]
  cases openVpnRoute platform row with
  | error exception => simp [Except.toOption]
  | ok parsed => simp [Except.toOption]

/-- A complete output with arbitrary rows. Rows and preamble are any lines that are
not taken for the header that ends them; the date is one line without a comma. -/
structure Report (platform : Platform Address Date) where
  preamble : List JString
  updated : Moment platform
  clientRows : List JString
  routeRows : List JString
  trailing : List JString
  preamble_plain : ∀ line ∈ preamble,
    line ≠ statsHeader ∧ line ≠ clientsHeader ∧ line ≠ routesHeader
  updated_line : ∀ ch ∈ updated.text, ch ∉ lineTerminators
  clientRows_plain : routesHeader ∉ clientRows
  routeRows_plain : globalStats ∉ routeRows

namespace Report

def updatedLine (report : Report platform) : JString := updatedStart ++ report.updated.text

/-- The lines of a report in the order of the server. -/
def lines (report : Report platform) : List JString :=
  report.preamble ++ clientsHeader :: report.updatedLine :: clientColumns ::
    (report.clientRows ++ routesHeader :: routesColumns ::
      (report.routeRows ++ globalStats :: report.trailing))

theorem isUpdated_updatedLine (report : Report platform) :
    isUpdated report.updatedLine = true := by
  have start : startsWith report.updatedLine updatedStart = true :=
    (startsWith_iff _ _).mpr ⟨report.updated.text, rfl⟩
  rw [isUpdated, start, Bool.true_and, updatedLine, List.drop_left, List.all_eq_true]
  intro ch member
  simpa using report.updated_line ch member

theorem parseUpdatedTime_updatedLine (report : Report platform) :
    parseUpdatedTime platform report.updatedLine = .ok report.updated.date := by
  have columns : split report.updatedLine (chr ',') 0 = [lit "Updated", report.updated.text] := by
    have joined : report.updatedLine =
        [chr ','].intercalate [lit "Updated", report.updated.text] := by
      simp [updatedLine, updatedStart, lit]
    rw [joined]
    apply split_row (List.cons_ne_nil _ _)
    · intro column member
      rcases List.mem_pair.mp member with rfl | rfl
      · decide
      · exact report.updated.noComma
    · exact report.updated.text_ne_nil
  simp only [parseUpdatedTime, columns, report.updated.parseDate_text]
  rfl

end Report

/-- A well-formed output: every row is well-formed. -/
structure WellFormedOutput (platform : Platform Address Date) where
  preamble : List JString
  updated : Moment platform
  clients : List (ClientRow platform)
  routes : List (RouteRow platform)
  trailing : List JString
  preamble_plain : ∀ line ∈ preamble,
    line ≠ statsHeader ∧ line ≠ clientsHeader ∧ line ≠ routesHeader
  updated_line : ∀ ch ∈ updated.text, ch ∉ lineTerminators

namespace WellFormedOutput

theorem clientRow_ne_routesHeader (row : ClientRow platform) : row.text ≠ routesHeader := by
  intro same
  have columns := row.split_text
  rw [same] at columns
  have one : split routesHeader (chr ',') 0 = [routesHeader] := by decide
  rw [one] at columns
  simp at columns

theorem routeRow_ne_globalStats (row : RouteRow platform) : row.text ≠ globalStats := by
  intro same
  have columns := row.split_text
  rw [same] at columns
  have one : split globalStats (chr ',') 0 = [globalStats] := by decide
  rw [one] at columns
  simp at columns

/-- The output as a report. -/
def report (output : WellFormedOutput platform) : Report platform where
  preamble := output.preamble
  updated := output.updated
  clientRows := output.clients.map ClientRow.text
  routeRows := output.routes.map RouteRow.text
  trailing := output.trailing
  preamble_plain := output.preamble_plain
  updated_line := output.updated_line
  clientRows_plain := by
    intro member
    obtain ⟨row, _, same⟩ := List.mem_map.mp member
    exact clientRow_ne_routesHeader row same
  routeRows_plain := by
    intro member
    obtain ⟨row, _, same⟩ := List.mem_map.mp member
    exact routeRow_ne_globalStats row same

theorem filterMap_clients (output : WellFormedOutput platform) :
    output.report.clientRows.filterMap (parsedClient platform) =
      output.clients.map ClientRow.client := by
  have parsed : ∀ row : ClientRow platform, parsedClient platform row.text = some row.client := by
    intro row
    rw [parsedClient, row.openVpnClient_text]
    rfl
  simp [report, List.filterMap_map, parsed]

theorem filterMap_routes (output : WellFormedOutput platform) :
    output.report.routeRows.filterMap (parsedRoute platform) =
      output.routes.map RouteRow.route := by
  have parsed : ∀ row : RouteRow platform, parsedRoute platform row.text = some row.route := by
    intro row
    rw [parsedRoute, row.openVpnRoute_text]
    rfl
  simp [report, List.filterMap_map, parsed]

theorem clients_settle (output : WellFormedOutput platform) :
    ∀ row ∈ output.report.clientRows, Settled (openVpnClient platform row) := by
  intro text member
  obtain ⟨row, _, rfl⟩ := List.mem_map.mp member
  rw [row.openVpnClient_text]
  exact Settled.ok row.client

theorem routes_settle (output : WellFormedOutput platform) :
    ∀ row ∈ output.report.routeRows, Settled (openVpnRoute platform row) := by
  intro text member
  obtain ⟨row, _, rfl⟩ := List.mem_map.mp member
  rw [row.openVpnRoute_text]
  exact Settled.ok row.route

end WellFormedOutput

end Openpyn.Status
