import Openpyn.Status.OpenVpnStatus

/-!
# The lines still to be read

The same parser as a recursion over the lines that are still to be read. It has no
index: running out of lines is the end of the list, and each header decides what
the lines behind it are. `setCommandOutput_eq_scan` says that it is the indexed
parser; everything proved about the output of the server goes through it.
-/

namespace Openpyn.Status.OpenVpnStatus

open Foundation Java
open Completion (done throw withValue Agree)

variable {Address Date : Type} [DecidableEq Address] {platform : Platform Address Date}

/-- `lines[i]` behind the last line. -/
abbrev noLine : Throwable := .arrayIndexOutOfBoundsException

/-- The lines behind the header of the routing table. -/
def scanRoutes (status : OpenVpnStatus platform) : List JString → Parsing (OpenVpnStatus platform)
  | [] => throw status noLine
  | columns :: rest =>
      if columns = routesColumns then
        Cursor.eachUntil noLine (· = globalStats) addRoute (fun status _ => done status) status rest
      else throw status wrongSequence

/-- The lines behind either header that the time of the update follows. -/
def scanUpdated (next : OpenVpnStatus platform → List JString → Parsing (OpenVpnStatus platform))
    (status : OpenVpnStatus platform) : List JString → Parsing (OpenVpnStatus platform)
  | [] => throw status noLine
  | updated :: rest =>
      if isUpdated updated then
        (setUpdated status updated).andThen fun status => next status rest
      else throw status wrongSequence

/-- The lines behind the time of the update in a client list. -/
def scanColumns (status : OpenVpnStatus platform) :
    List JString → Parsing (OpenVpnStatus platform)
  | [] => throw status noLine
  | columns :: rest =>
      if columns = clientColumns then
        Cursor.eachUntil noLine (· = routesHeader) addClient scanRoutes status rest
      else throw status wrongSequence

/-- The lines behind the header of the client list. -/
def scanClients (status : OpenVpnStatus platform) (rest : List JString) :
    Parsing (OpenVpnStatus platform) :=
  scanUpdated scanColumns status rest

/-- A line where a list may begin, and the lines behind it. -/
def scanLine (status : OpenVpnStatus platform) (line : JString) (rest : List JString)
    (skipped : Parsing (OpenVpnStatus platform)) : Parsing (OpenVpnStatus platform) :=
  if line = clientsHeader then scanClients status rest
  else if line = routesHeader then scanRoutes status rest
  else skipped

/-- The lines where any section may begin. Behind a statistics header and its time
of update, the next line is not looked at as a statistics header. -/
def scan (status : OpenVpnStatus platform) : List JString → Parsing (OpenVpnStatus platform)
  | [] => done status
  | line :: rest =>
      if line = statsHeader then
        match rest with
        | [] => throw status noLine
        | [updated] =>
            if isUpdated updated then
              (setUpdated status updated).andThen fun status => throw status noLine
            else throw status wrongSequence
        | updated :: next :: rest =>
            if isUpdated updated then
              (setUpdated status updated).andThen fun status =>
                scanLine status next rest (scan status rest)
            else throw status wrongSequence
      else scanLine status line rest (scan status rest)

/-- Behind the time of the update in the statistics there has to be a line. -/
def scanNext (status : OpenVpnStatus platform) : List JString → Parsing (OpenVpnStatus platform)
  | [] => throw status noLine
  | next :: rest => scanLine status next rest (scan status rest)

theorem scan_statistics (status : OpenVpnStatus platform) (rest : List JString) :
    scan status (statsHeader :: rest) = scanUpdated scanNext status rest := by
  rw [scan.eq_def]
  simp only [if_true]
  rcases rest with _ | ⟨updated, _ | ⟨next, rest⟩⟩ <;> rfl

theorem scan_of_ne {line : JString} (other : line ≠ statsHeader)
    (status : OpenVpnStatus platform) (rest : List JString) :
    scan status (line :: rest) = scanLine status line rest (scan status rest) := by
  rw [scan.eq_def]
  simp only [if_neg other]

/-- The recursion of `scan`: behind a statistics header it goes on after two more lines,
and behind any other line at once. -/
theorem scanInduction {motive : List JString → Prop} (nil : motive [])
    (statistics : ∀ rest, (∀ updated next tail, rest = updated :: next :: tail → motive tail) →
      motive (statsHeader :: rest))
    (other : ∀ line rest, line ≠ statsHeader → motive rest → motive (line :: rest))
    (lines : List JString) : motive lines := by
  induction measured : lines.length using Nat.strong_induction_on generalizing lines with
  | _ size inductionHypothesis =>
    cases lines with
    | nil => exact nil
    | cons line rest =>
        by_cases same : line = statsHeader
        · subst same
          apply statistics
          rintro updated next tail rfl
          apply inductionHypothesis tail.length _ tail rfl
          simp only [← measured, List.length_cons]
          omega
        · apply other line rest same
          apply inductionHypothesis rest.length _ rest rfl
          simp only [← measured, List.length_cons]
          omega

theorem arrayGet_of_drop {lines : List JString} {index : Nat} {line : JString}
    {rest : List JString} (remaining : lines.drop index = line :: rest) :
    arrayGet lines (index : Int) = .ok line := by
  obtain ⟨inside, here⟩ := Cursor.getElem_of_drop remaining
  rw [arrayGet_of_lt inside, here]

theorem arrayGet_of_drop_nil {lines : List JString} {index : Nat}
    (remaining : lines.drop index = []) : arrayGet lines (index : Int) = .error noLine :=
  arrayGet_of_le (List.drop_eq_nil_iff.mp remaining)

section

variable {lines : List JString} {index : Nat} {line : JString} {rest : List JString}
variable {after : Cursor (OpenVpnStatus platform) → Parsing (Cursor (OpenVpnStatus platform))}

/-- The routing table ends the loop, so what follows it does nothing. -/
theorem readRoutingTable_agrees (ends : ∀ cursor, cursor.broke = true → after cursor = done cursor)
    (status : OpenVpnStatus platform) (remaining : lines.drop index = routesHeader :: rest) :
    Agree Cursor.Holds ((readRoutingTable lines ⟨status, index, false⟩).andThen after)
      (scanRoutes status rest) := by
  have behind := Cursor.drop_succ_of_drop remaining
  simp only [readRoutingTable, arrayGet_of_drop remaining, Completion.withValue_ok, if_true]
  cases rest with
  | nil =>
      rw [arrayGet_of_drop_nil behind, Completion.withValue_error, Completion.throw_andThen,
        scanRoutes]
      exact Cursor.agrees_throw ⟨status, index + 1, false⟩ noLine
  | cons columns rest =>
      rw [arrayGet_of_drop behind, Completion.withValue_ok, scanRoutes]
      split
      · rw [Completion.andThen_assoc]
        apply Cursor.advanceUntil_agrees
        · intro status index item rest remaining stops
          rw [Completion.done_andThen, ends _ rfl]
          exact Cursor.agrees_done ⟨status, index, true⟩
        · exact Cursor.drop_succ_of_drop behind
      · rw [Completion.throw_andThen]
        exact Cursor.agrees_throw ⟨status, index + 1, false⟩ wrongSequence

theorem readUpdated_agrees
    {next : OpenVpnStatus platform → List JString → Parsing (OpenVpnStatus platform)}
    (later : ∀ status rest, lines.drop (index + 2) = rest →
      Agree Cursor.Holds (after ⟨status, index + 2, false⟩) (next status rest))
    (status : OpenVpnStatus platform) (remaining : lines.drop index = line :: rest) :
    Agree Cursor.Holds ((readUpdated lines ⟨status, index, false⟩).andThen after)
      (scanUpdated next status rest) := by
  have behind := Cursor.drop_succ_of_drop remaining
  rw [readUpdated]
  cases rest with
  | nil =>
      rw [arrayGet_of_drop_nil behind, Completion.withValue_error, Completion.throw_andThen,
        scanUpdated]
      exact Cursor.agrees_throw ⟨status, index + 1, false⟩ noLine
  | cons updated rest =>
      rw [arrayGet_of_drop behind, Completion.withValue_ok, scanUpdated]
      split
      · rw [Completion.mapState_andThen]
        apply Agree.resume
        · intro status
          exact rfl
        · intro status
          exact later status rest (Cursor.drop_succ_of_drop behind)
      · rw [Completion.throw_andThen]
        exact Cursor.agrees_throw ⟨status, index + 1, false⟩ wrongSequence

theorem readClientList_agrees (ends : ∀ cursor, cursor.broke = true → after cursor = done cursor)
    (status : OpenVpnStatus platform) (remaining : lines.drop index = clientsHeader :: rest) :
    Agree Cursor.Holds
      ((readClientList lines ⟨status, index, false⟩).andThen fun cursor =>
        (readRoutingTable lines cursor).andThen after)
      (scanClients status rest) := by
  simp only [readClientList, arrayGet_of_drop remaining, Completion.withValue_ok, if_true,
    Completion.andThen_assoc]
  apply readUpdated_agrees
  · intro status rest behind
    cases rest with
    | nil =>
        rw [arrayGet_of_drop_nil behind, Completion.withValue_error, Completion.throw_andThen,
          scanColumns]
        exact Cursor.agrees_throw ⟨status, index + 2, false⟩ noLine
    | cons columns rest =>
        rw [arrayGet_of_drop behind, Completion.withValue_ok, scanColumns]
        split
        · apply Cursor.advanceUntil_agrees
          · intro status index item rest remaining stops
            rw [of_decide_eq_true stops] at remaining
            exact readRoutingTable_agrees ends status remaining
          · exact Cursor.drop_succ_of_drop behind
        · rw [Completion.throw_andThen]
          exact Cursor.agrees_throw ⟨status, index + 2 + 1, false⟩ wrongSequence
  · exact remaining

/-- Both lists, from a line where one may begin. -/
theorem readLine_agrees (ends : ∀ cursor, cursor.broke = true → after cursor = done cursor)
    {skipped : Parsing (OpenVpnStatus platform)} {status : OpenVpnStatus platform}
    (skips : Agree Cursor.Holds (after ⟨status, index, false⟩) skipped)
    (remaining : lines.drop index = line :: rest) :
    Agree Cursor.Holds
      ((readClientList lines ⟨status, index, false⟩).andThen fun cursor =>
        (readRoutingTable lines cursor).andThen after)
      (scanLine status line rest skipped) := by
  rw [scanLine]
  by_cases clients : line = clientsHeader
  · rw [if_pos clients]
    exact readClientList_agrees ends status (clients ▸ remaining)
  · have passed : readClientList lines ⟨status, index, false⟩ = done ⟨status, index, false⟩ := by
      simp only [readClientList, arrayGet_of_drop remaining, Completion.withValue_ok,
        if_neg clients]
    rw [if_neg clients, passed, Completion.done_andThen]
    by_cases routes : line = routesHeader
    · rw [if_pos routes]
      exact readRoutingTable_agrees ends status (routes ▸ remaining)
    · have passed : readRoutingTable lines ⟨status, index, false⟩ =
          done ⟨status, index, false⟩ := by
        simp only [readRoutingTable, arrayGet_of_drop remaining, Completion.withValue_ok,
          if_neg routes]
      rw [if_neg routes, passed, Completion.done_andThen]
      exact skips

end

/-- The loop from any index agrees with the recursion over the lines from there. -/
theorem forIndex_agrees (lines : List JString) (status : OpenVpnStatus platform) {index : Nat}
    {rest : List JString} (remaining : lines.drop index = rest) :
    Agree Cursor.Holds
      (Cursor.forIndex (readSections lines) (readSections_advances lines) lines.length
        ⟨status, index, false⟩)
      (scan status rest) := by
  induction measured : lines.length - index using Nat.strong_induction_on
    generalizing status index rest with
  | _ size inductionHypothesis =>
    cases rest with
    | nil =>
        rw [Cursor.forIndex_of_le _ _ (List.drop_eq_nil_iff.mp remaining), scan]
        exact Cursor.agrees_done ⟨status, index, false⟩
    | cons line rest =>
        obtain ⟨inside, _⟩ := Cursor.getElem_of_drop remaining
        rw [Cursor.forIndex_of_lt _ _ inside, readSections, Completion.andThen_assoc,
          Completion.andThen_assoc]
        have ends : ∀ cursor : Cursor (OpenVpnStatus platform), cursor.broke = true →
            (if cursor.broke then done cursor
              else Cursor.forIndex (readSections lines) (readSections_advances lines) lines.length
                { cursor with index := cursor.index + 1 }) = done cursor := by
          intro cursor broke
          rw [if_pos broke]
        by_cases statistics : line = statsHeader
        · have read : readStatistics lines ⟨status, index, false⟩ =
              readUpdated lines ⟨status, index, false⟩ := by
            simp only [readStatistics, arrayGet_of_drop remaining, Completion.withValue_ok,
              if_pos statistics]
          rw [read, statistics, scan_statistics]
          refine readUpdated_agrees ?_ status remaining
          · intro status rest behind
            cases rest with
            | nil =>
                rw [readClientList, arrayGet_of_drop_nil behind, Completion.withValue_error,
                  Completion.throw_andThen, scanNext]
                exact Cursor.agrees_throw ⟨status, index + 2, false⟩ noLine
            | cons next rest =>
                have smaller : lines.length - (index + 2 + 1) < size := by omega
                have tail := Cursor.drop_succ_of_drop behind
                apply readLine_agrees ends
                · exact inductionHypothesis _ smaller status tail rfl
                · exact behind
        · have passed : readStatistics lines ⟨status, index, false⟩ =
              done ⟨status, index, false⟩ := by
            simp only [readStatistics, arrayGet_of_drop remaining, Completion.withValue_ok,
              if_neg statistics]
          rw [passed, Completion.done_andThen, scan_of_ne statistics]
          have smaller : lines.length - (index + 1) < size := by omega
          have tail := Cursor.drop_succ_of_drop remaining
          apply readLine_agrees ends
          · exact inductionHypothesis _ smaller status tail rfl
          · exact remaining

/-- The indexed parser is the recursion over the lines still to be read. -/
theorem setCommandOutput_eq_scan (status : OpenVpnStatus platform) (lines : List JString) :
    setCommandOutput status lines = scan status lines := by
  obtain ⟨state, emitted, thrown⟩ := forIndex_agrees lines status List.drop_zero
  exact Completion.ext state emitted thrown

end Openpyn.Status.OpenVpnStatus
