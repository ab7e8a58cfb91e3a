import Openpyn.Status.Parsing

/-!
# Outputs that break off

A connection may end anywhere, so the parser may be given any lines. It fails only
with its declared exception exactly when the sections it enters are complete: each
header is followed by the lines that are read without asking for them, each list
runs to the header that ends it, and no row on the way has a stray port.
-/

namespace Openpyn.Status

open Foundation Java
open OpenVpnStatus
open Completion (done throw withValue forEach)

/-! ## Complete sections -/

section

variable {Address Date : Type}

/-- Rows up to `header`, none of them stray, and then lines that `next` accepts. -/
def closes (header : JString) (stray : JString → Bool) (next : List JString → Bool) :
    List JString → Bool
  | [] => false
  | row :: rest => if row = header then next rest else !stray row && closes header stray next rest

/-- The lines behind the header of the routing table. Other columns are refused in
order, so they need nothing behind them. -/
def routesComplete (platform : Platform Address Date) : List JString → Bool
  | [] => false
  | columns :: rest =>
      columns ≠ routesColumns || closes globalStats (strayRoute platform) (fun _ => true) rest

/-- The lines from the columns of the client list on. -/
def columnsComplete (platform : Platform Address Date) : List JString → Bool
  | [] => false
  | columns :: rest =>
      columns ≠ clientColumns ||
        closes routesHeader (strayClient platform) (routesComplete platform) rest

/-- A line that is no time of update is refused; behind one, `next` decides. -/
def updatedComplete (next : List JString → Bool) : List JString → Bool
  | [] => false
  | updated :: rest => !isUpdated updated || next rest

/-- The lines behind one where a list may begin. -/
def lineComplete (platform : Platform Address Date) (line : JString) (rest : List JString)
    (skipped : Bool) : Bool :=
  if line = clientsHeader then updatedComplete (columnsComplete platform) rest
  else if line = routesHeader then routesComplete platform rest
  else skipped

/-- Every section that begins in the lines is complete. -/
def complete (platform : Platform Address Date) : List JString → Bool
  | [] => true
  | line :: rest =>
      if line = statsHeader then
        match rest with
        | [] => false
        | [updated] => !isUpdated updated
        | updated :: next :: rest =>
            !isUpdated updated || lineComplete platform next rest (complete platform rest)
      else lineComplete platform line rest (complete platform rest)

/-- What follows the time of update of the statistics. -/
def nextComplete (platform : Platform Address Date) : List JString → Bool
  | [] => false
  | next :: rest => lineComplete platform next rest (complete platform rest)

theorem complete_statistics (platform : Platform Address Date) (rest : List JString) :
    complete platform (statsHeader :: rest) = updatedComplete (nextComplete platform) rest := by
  rw [complete.eq_def]
  simp only [if_true]
  rcases rest with _ | ⟨updated, _ | ⟨next, rest⟩⟩
  · rfl
  · simp [updatedComplete, nextComplete]
  · rfl

theorem complete_of_ne {platform : Platform Address Date} {line : JString}
    (other : line ≠ statsHeader) (rest : List JString) :
    complete platform (line :: rest) =
      lineComplete platform line rest (complete platform rest) := by
  rw [complete.eq_def]
  simp only [if_neg other]

/-- Lines that are no headers need nothing behind them. -/
theorem complete_append {platform : Platform Address Date} {preamble : List JString}
    (plain : ∀ line ∈ preamble, line ≠ statsHeader ∧ line ≠ clientsHeader ∧ line ≠ routesHeader)
    (rest : List JString) : complete platform (preamble ++ rest) = complete platform rest := by
  induction preamble with
  | nil => rfl
  | cons line lines inductionHypothesis =>
      obtain ⟨noStats, noClients, noRoutes⟩ := plain line List.mem_cons_self
      rw [List.cons_append, complete_of_ne noStats, lineComplete, if_neg noClients,
        if_neg noRoutes]
      exact inductionHypothesis fun other member => plain other (List.mem_cons_of_mem line member)

/-- A list of rows that is cut off is closed when the cut is behind its end. -/
theorem closes_take {header : JString} {stray : JString → Bool} {rows : List JString}
    (plain : header ∉ rows) (settled : ∀ row ∈ rows, stray row = false)
    (next : List JString → Bool) (rest : List JString) (length : Nat) :
    closes header stray next ((rows ++ header :: rest).take length) = true ↔
      rows.length < length ∧ next (rest.take (length - (rows.length + 1))) = true := by
  induction rows generalizing length with
  | nil =>
      cases length with
      | zero => simp [closes]
      | succ length => simp [closes]
  | cons row rows inductionHypothesis =>
      cases length with
      | zero => simp [closes]
      | succ length =>
          have other : row ≠ header := fun same => plain (same ▸ List.mem_cons_self)
          have tail := inductionHypothesis (fun member => plain (List.mem_cons_of_mem row member))
            (fun other member => settled other (List.mem_cons_of_mem row member)) length
          rw [List.cons_append, List.take_succ_cons, closes, if_neg other,
            settled row List.mem_cons_self, Bool.not_false, Bool.true_and, tail]
          simp

/-- A report that breaks off has complete sections when it breaks off before they
begin or after they end. -/
theorem complete_take_iff {platform : Platform Address Date} (report : Report platform)
    (clients : ∀ row ∈ report.clientRows, strayClient platform row = false)
    (routes : ∀ row ∈ report.routeRows, strayRoute platform row = false) (length : Nat) :
    complete platform (report.lines.take length) = true ↔
      length ≤ report.preamble.length ∨
        report.preamble.length + report.clientRows.length + report.routeRows.length + 6 ≤
          length := by
  have plain : ∀ line ∈ report.preamble.take length,
      line ≠ statsHeader ∧ line ≠ clientsHeader ∧ line ≠ routesHeader :=
    fun line member => report.preamble_plain line (List.mem_of_mem_take member)
  have other : clientsHeader ≠ statsHeader := by decide
  rw [Report.lines, List.take_append, complete_append plain]
  rcases cut : length - report.preamble.length with _ | _ | _ | behind
  · simp only [List.take_zero, complete, true_iff]
    omega
  · simp only [List.take_succ_cons, List.take_zero, complete_of_ne other, lineComplete, if_true,
      updatedComplete, Bool.false_eq_true, false_iff]
    omega
  · simp only [List.take_succ_cons, List.take_zero, complete_of_ne other, lineComplete, if_true,
      updatedComplete, report.isUpdated_updatedLine, columnsComplete, Bool.not_true,
      Bool.false_or, Bool.false_eq_true, false_iff]
    omega
  · simp only [List.take_succ_cons, complete_of_ne other, lineComplete, if_true, updatedComplete,
      report.isUpdated_updatedLine, columnsComplete, Bool.not_true, Bool.false_or, ne_eq,
      not_true_eq_false, decide_false]
    rw [closes_take report.clientRows_plain clients]
    rcases later : behind - (report.clientRows.length + 1) with _ | last
    · simp only [List.take_zero, routesComplete, Bool.false_eq_true, and_false, false_iff]
      omega
    · simp only [List.take_succ_cons, routesComplete, ne_eq, not_true_eq_false, decide_false,
        Bool.false_or]
      rw [closes_take report.routeRows_plain routes]
      simp only [and_true]
      omega

end

/-! ## Graceful ends -/

variable {Address Date : Type} [DecidableEq Address] {platform : Platform Address Date}

/-- The call returns or throws `OpenVpnParseException`. -/
def Graceful {σ : Type} (call : Parsing σ) : Prop :=
  ∀ exception, call.thrown = some exception → exception.isOpenVpnParseException = true

namespace Graceful

variable {σ : Type}

theorem of_returned {call : Parsing σ} (returned : call.thrown = none) : Graceful call := by
  intro exception threw
  rw [returned] at threw
  cases threw

theorem throw_iff (state : σ) (exception : Throwable) :
    Graceful (throw state exception : Parsing σ) ↔ exception.isOpenVpnParseException = true := by
  constructor
  · intro graceful
    exact graceful exception rfl
  · rintro handled other ⟨⟩
    exact handled

/-- Running out of lines is not graceful. -/
theorem not_throw_noLine (state : σ) : ¬Graceful (throw state noLine : Parsing σ) := by
  rw [throw_iff]
  exact Bool.false_ne_true

theorem throw_wrongSequence (state : σ) : Graceful (throw state wrongSequence : Parsing σ) := by
  rw [throw_iff]
  rfl

/-- What follows a part that returned decides. -/
theorem andThen_iff_of_returned {first : Parsing σ} (returned : first.thrown = none)
    (next : σ → Parsing σ) : Graceful (first.andThen next) ↔ Graceful (next first.state) := by
  rw [Completion.andThen_of_returned returned]
  exact Iff.rfl

theorem andThen_iff_of_thrown {first : Parsing σ} {exception : Throwable}
    (threw : first.thrown = some exception) (next : σ → Parsing σ) :
    Graceful (first.andThen next) ↔ exception.isOpenVpnParseException = true := by
  rw [Completion.andThen_of_thrown threw]
  constructor
  · intro graceful
    exact graceful exception threw
  · intro handled other otherThrew
    rw [threw] at otherThrew
    cases otherThrew
    exact handled

end Graceful

/-- A list section is graceful when it is closed, if a row is refused by an uncaught
exception exactly when it is stray. -/
theorem eachUntil_graceful_iff {header : JString} (stray : JString → Bool)
    (closed : List JString → Bool)
    {add : OpenVpnStatus platform → JString → Parsing (OpenVpnStatus platform)}
    {next : OpenVpnStatus platform → List JString → Parsing (OpenVpnStatus platform)}
    (adds : ∀ status row, (add status row).thrown = none ↔ stray row = false)
    (escapes : ∀ status row exception, (add status row).thrown = some exception →
      exception.isOpenVpnParseException = false)
    (later : ∀ status rest, Graceful (next status rest) ↔ closed rest = true)
    (status : OpenVpnStatus platform) (lines : List JString) :
    Graceful (Cursor.eachUntil noLine (· = header) add next status lines) ↔
      closes header stray closed lines = true := by
  induction lines generalizing status with
  | nil => simp [Cursor.eachUntil, closes, Graceful.not_throw_noLine]
  | cons row rest inductionHypothesis =>
      rw [Cursor.eachUntil, closes]
      by_cases stops : row = header
      · rw [if_pos (decide_eq_true stops), if_pos stops]
        exact later status rest
      · rw [if_neg (by simpa using stops), if_neg stops]
        cases threw : (add status row).thrown with
        | none =>
            have plain := (adds status row).mp threw
            rw [Graceful.andThen_iff_of_returned threw, inductionHypothesis, plain]
            simp
        | some exception =>
            have uncaught := escapes status row exception threw
            have strays : stray row = true := by
              rw [← Bool.not_eq_false, ← adds status row, threw]
              simp
            rw [Graceful.andThen_iff_of_thrown threw, uncaught, strays]
            simp

theorem scanRoutes_graceful_iff (status : OpenVpnStatus platform) (lines : List JString) :
    Graceful (scanRoutes status lines) ↔ routesComplete platform lines = true := by
  cases lines with
  | nil => simp [scanRoutes, routesComplete, Graceful.not_throw_noLine]
  | cons columns rest =>
      rw [scanRoutes, routesComplete]
      by_cases same : columns = routesColumns
      · rw [if_pos same, eachUntil_graceful_iff (strayRoute platform) fun _ => true]
        · simp [same]
        · intro status row
          rw [addRoute_returned_iff, openVpnRoute_settled_iff]
        · intro status row exception threw
          exact Completion.unhandled_of_catching threw
        · intro status rest
          simpa using Graceful.of_returned rfl
      · rw [if_neg same]
        simp [same, Graceful.throw_wrongSequence]

theorem scanColumns_graceful_iff (status : OpenVpnStatus platform) (lines : List JString) :
    Graceful (scanColumns status lines) ↔ columnsComplete platform lines = true := by
  cases lines with
  | nil => simp [scanColumns, columnsComplete, Graceful.not_throw_noLine]
  | cons columns rest =>
      rw [scanColumns, columnsComplete]
      by_cases same : columns = clientColumns
      · rw [if_pos same, eachUntil_graceful_iff (strayClient platform) (routesComplete platform)]
        · simp [same]
        · intro status row
          rw [addClient_returned_iff, openVpnClient_settled_iff]
        · intro status row exception threw
          exact Completion.unhandled_of_catching threw
        · exact scanRoutes_graceful_iff
      · rw [if_neg same]
        simp [same, Graceful.throw_wrongSequence]

/-- A time of update is stored or skipped. -/
theorem setUpdated_returned (status : OpenVpnStatus platform) (line : JString) :
    (setUpdated status line).thrown = none := by
  rw [setUpdated, caught_returned_iff]
  unfold parseUpdatedTime
  split
  · rename_i start text columns
    rw [parseDate]
    cases platform.date text with
    | none => exact Settled.parse _
    | some date => exact Settled.ok date
  · exact Settled.parse _

theorem scanUpdated_graceful_iff
    {next : OpenVpnStatus platform → List JString → Parsing (OpenVpnStatus platform)}
    {closed : List JString → Bool} {lines : List JString}
    (later : ∀ status updated rest, lines = updated :: rest →
      (Graceful (next status rest) ↔ closed rest = true))
    (status : OpenVpnStatus platform) :
    Graceful (scanUpdated next status lines) ↔ updatedComplete closed lines = true := by
  cases lines with
  | nil => simp [scanUpdated, updatedComplete, Graceful.not_throw_noLine]
  | cons updated rest =>
      rw [scanUpdated, updatedComplete]
      by_cases time : isUpdated updated = true
      · rw [if_pos time, Graceful.andThen_iff_of_returned (setUpdated_returned status updated),
          later _ updated rest rfl, time]
        simp
      · rw [if_neg time]
        simp [time, Graceful.throw_wrongSequence]

theorem scanLine_graceful_iff (status : OpenVpnStatus platform) (line : JString)
    (rest : List JString) {skipped : Parsing (OpenVpnStatus platform)} {closed : Bool}
    (later : Graceful skipped ↔ closed = true) :
    Graceful (scanLine status line rest skipped) ↔
      lineComplete platform line rest closed = true := by
  rw [scanLine, lineComplete]
  by_cases clients : line = clientsHeader
  · rw [if_pos clients, if_pos clients]
    apply scanUpdated_graceful_iff
    intro status updated rest split
    exact scanColumns_graceful_iff status rest
  · rw [if_neg clients, if_neg clients]
    by_cases routes : line = routesHeader
    · rw [if_pos routes, if_pos routes]
      exact scanRoutes_graceful_iff status rest
    · rw [if_neg routes, if_neg routes]
      exact later

/-- Any number of lines can be skipped before a section, so the induction follows `scan`. -/
theorem scan_graceful_iff (status : OpenVpnStatus platform) (lines : List JString) :
    Graceful (scan status lines) ↔ complete platform lines = true := by
  induction lines using scanInduction generalizing status with
  | nil => simpa [scan, complete] using Graceful.of_returned rfl
  | statistics rest inductionHypothesis =>
      rw [scan_statistics, complete_statistics]
      apply scanUpdated_graceful_iff
      intro status updated tail behind
      cases tail with
      | nil => simp [scanNext, nextComplete, Graceful.not_throw_noLine]
      | cons next tail =>
          rw [scanNext, nextComplete]
          apply scanLine_graceful_iff
          exact inductionHypothesis updated next tail behind status
  | other line rest different inductionHypothesis =>
      rw [scan_of_ne different, complete_of_ne different]
      apply scanLine_graceful_iff
      exact inductionHypothesis status

/-- The parser returns or throws its declared exception exactly on complete sections. -/
theorem setCommandOutput_graceful_iff (status : OpenVpnStatus platform) (lines : List JString) :
    Graceful (setCommandOutput status lines) ↔ complete platform lines = true := by
  rw [setCommandOutput_eq_scan, scan_graceful_iff]

/-- A report that breaks off is handled in order unless it breaks off inside its
sections: between the header of the client list and the line `GLOBAL STATS`. -/
theorem setCommandOutput_take_graceful_iff (report : Report platform)
    (clients : ∀ row ∈ report.clientRows, strayClient platform row = false)
    (routes : ∀ row ∈ report.routeRows, strayRoute platform row = false)
    (status : OpenVpnStatus platform) (length : Nat) :
    Graceful (setCommandOutput status (report.lines.take length)) ↔
      length ≤ report.preamble.length ∨
        report.preamble.length + report.clientRows.length + report.routeRows.length + 6 ≤
          length := by
  rw [setCommandOutput_eq_scan, scan_graceful_iff]
  exact complete_take_iff report clients routes length

/-- An output that ends behind its first header. -/
theorem setCommandOutput_truncated :
    ¬∀ lines, Graceful (setCommandOutput (fresh Platform.recorded) lines) := by
  intro graceful
  have header := graceful [lit "OpenVPN CLIENT LIST"]
  rw [setCommandOutput_eq_scan, scan_graceful_iff] at header
  revert header
  decide

end Openpyn.Status
