import Mathlib.Data.Int.Interval
import Openpyn.Foundation.Leaders
import Openpyn.Foundation.Machine
import Openpyn.Traffic.TrafficHistory

/-!
# What the traffic history keeps

While the clock runs forward, the samples kept among the minutes are the leaders
of the minute numbers, and those among the hours the leaders of the hour numbers
of the former. The seconds and the minutes are these sequences without what was
old at the last roll-over, and the clock is less than one period past it.
-/

namespace Openpyn.Traffic

open Foundation Java

/-- The number of the period a sample falls into. -/
def periodOf (timePeriod : Int) (tdp : TrafficDataPoint) : Int := tdp.mTimestamp.tdiv timePeriod

/-- The samples that were rolled up into the minutes. -/
def minuteSamples (added : List TrafficDataPoint) : List TrafficDataPoint :=
  leaders (periodOf timePeriodMinutes) 0 added

/-- The samples that were rolled up into the hours. -/
def hourSamples (added : List TrafficDataPoint) : List TrafficDataPoint :=
  leaders (periodOf timePeriodHours) 0 (minuteSamples added)

/-- The clock started at a time that a `long` can hold and never went back. -/
structure Clocked (added : List TrafficDataPoint) : Prop where
  inRange : ∀ tdp ∈ added, 0 ≤ tdp.mTimestamp ∧ tdp.mTimestamp < 2 ^ 63
  forward : added.Pairwise fun earlier later => earlier.mTimestamp ≤ later.mTimestamp

theorem Clocked.of_concat {added : List TrafficDataPoint} {tdp : TrafficDataPoint}
    (clocked : Clocked (added ++ [tdp])) :
    Clocked added ∧ (0 ≤ tdp.mTimestamp ∧ tdp.mTimestamp < 2 ^ 63) ∧
      ∀ earlier ∈ added, earlier.mTimestamp ≤ tdp.mTimestamp := by
  obtain ⟨inRange, forward⟩ := clocked
  rw [List.pairwise_append] at forward
  refine ⟨⟨?_, forward.1⟩, inRange tdp (by simp), ?_⟩
  · exact fun earlier member => inRange earlier (List.mem_append_left [tdp] member)
  · exact fun earlier member => forward.2.2 earlier member tdp (by simp)

theorem Clocked.le_newest {added : List TrafficDataPoint} {tdp : TrafficDataPoint}
    (clocked : Clocked (added ++ [tdp])) :
    ∀ earlier ∈ added ++ [tdp], earlier.mTimestamp ≤ tdp.mTimestamp := by
  intro earlier member
  rcases List.mem_append.mp member with old | last
  · exact clocked.of_concat.2.2 earlier old
  · rw [List.mem_singleton.mp last]

namespace TrafficHistory

/-- Samples are added one after another. -/
def adder : Machine TrafficHistory TrafficDataPoint LastDiff where
  step := add

/-! ## Periods -/

theorem periodOf_le {timePeriod : Int} (positive : 0 < timePeriod)
    {earlier later : TrafficDataPoint} (nonnegative : 0 ≤ earlier.mTimestamp)
    (ordered : earlier.mTimestamp ≤ later.mTimestamp) :
    periodOf timePeriod earlier ≤ periodOf timePeriod later := by
  unfold periodOf
  rw [Int.tdiv_eq_ediv_of_nonneg nonnegative, Int.tdiv_eq_ediv_of_nonneg (by omega)]
  exact Int.ediv_le_ediv positive ordered

theorem periodOf_zero_le {timePeriod : Int} (positive : 0 < timePeriod)
    {tdp : TrafficDataPoint} (nonnegative : 0 ≤ tdp.mTimestamp) :
    periodOf timePeriod .zero ≤ periodOf timePeriod tdp :=
  periodOf_le positive le_rfl nonnegative

/-- An expired sample is as old as all the periods to keep. -/
theorem isExpired_iff {timePeriod : Int} (positive : 0 < timePeriod)
    {mark tdp : TrafficDataPoint} (marked : 0 ≤ mark.mTimestamp ∧ mark.mTimestamp < 2 ^ 63)
    (taken : 0 ≤ tdp.mTimestamp ∧ tdp.mTimestamp < 2 ^ 63) :
    isExpired timePeriod mark tdp ↔
      periodsToKeep * timePeriod ≤ mark.mTimestamp - tdp.mTimestamp := by
  rw [isExpired, wrapLong_of_range (by omega) (by omega)]
  exact le_tdiv_iff positive (by decide)

/-- What a later mark keeps an earlier one keeps too. -/
theorem isExpired_mono {timePeriod : Int} (positive : 0 < timePeriod)
    {earlier later tdp : TrafficDataPoint}
    (early : 0 ≤ earlier.mTimestamp) (ordered : earlier.mTimestamp ≤ later.mTimestamp)
    (late : later.mTimestamp < 2 ^ 63) (taken : 0 ≤ tdp.mTimestamp ∧ tdp.mTimestamp < 2 ^ 63)
    (expired : isExpired timePeriod earlier tdp) : isExpired timePeriod later tdp := by
  rw [isExpired_iff positive (by omega) taken] at expired ⊢
  omega

/-- Filtering again at a later mark leaves what is young at that mark. -/
theorem removeExpired_removeExpired {timePeriod : Int} (positive : 0 < timePeriod)
    {earlier later : TrafficDataPoint} (early : 0 ≤ earlier.mTimestamp)
    (ordered : earlier.mTimestamp ≤ later.mTimestamp) (late : later.mTimestamp < 2 ^ 63)
    {samples : List TrafficDataPoint}
    (taken : ∀ tdp ∈ samples, 0 ≤ tdp.mTimestamp ∧ tdp.mTimestamp < 2 ^ 63) :
    removeExpired timePeriod later (removeExpired timePeriod earlier samples) =
      removeExpired timePeriod later samples := by
  unfold removeExpired
  rw [List.filter_filter]
  apply List.filter_congr
  intro tdp member
  rw [Bool.eq_iff_iff]
  simp only [Bool.and_eq_true, decide_eq_true_eq, and_iff_left_iff_imp]
  exact mt (isExpired_mono positive early ordered late (taken tdp member))

/-- A sample that is not older than the mark is kept. -/
theorem removeExpired_concat {timePeriod : Int} (positive : 0 < timePeriod)
    {mark tdp : TrafficDataPoint} (marked : 0 ≤ mark.mTimestamp)
    (ordered : mark.mTimestamp ≤ tdp.mTimestamp) (late : tdp.mTimestamp < 2 ^ 63)
    (samples : List TrafficDataPoint) :
    removeExpired timePeriod mark (samples ++ [tdp]) =
      removeExpired timePeriod mark samples ++ [tdp] := by
  have kept : ¬isExpired timePeriod mark tdp := by
    rw [isExpired_iff positive (by omega) (by omega)]
    have window : 0 < periodsToKeep * timePeriod := Int.mul_pos (by decide) positive
    omega
  simp [removeExpired, kept]

/-! ## The invariant -/

/-- The lists are the sequences of leaders, without what was old at the last
roll-over. -/
structure Summarizes (added : List TrafficDataPoint) (history : TrafficHistory) : Prop where
  lastSecond : history.lastSecondUsedForMinute = (minuteSamples added).getLastD .zero
  lastMinute : history.lastMinuteUsedForHours = (hourSamples added).getLastD .zero
  seconds : history.seconds =
    removeExpired timePeriodMinutes history.lastSecondUsedForMinute added
  minutes : history.minutes =
    removeExpired timePeriodHours history.lastMinuteUsedForHours (minuteSamples added)
  hours : history.hours = hourSamples added

theorem summarizes_fresh : Summarizes [] fresh := ⟨rfl, rfl, rfl, rfl, rfl⟩

/-- The last of some samples, or the point of time 0, is not later than the newest. -/
theorem mark_bounds {added part : List TrafficDataPoint} {tdp : TrafficDataPoint}
    (clocked : Clocked (added ++ [tdp])) (sublist : part.Sublist (added ++ [tdp])) :
    0 ≤ (part.getLastD .zero).mTimestamp ∧
      (part.getLastD .zero).mTimestamp ≤ tdp.mTimestamp := by
  rcases List.mem_cons.mp (List.getLastD_mem_cons (l := part) (a := .zero)) with same | member
  · rw [same]
    exact ⟨le_rfl, (clocked.inRange tdp (by simp)).1⟩
  · have taken := sublist.subset member
    exact ⟨(clocked.inRange _ taken).1, clocked.le_newest _ taken⟩

theorem minuteSamples_sublist (added : List TrafficDataPoint) :
    (minuteSamples added).Sublist added := leaders_sublist 0 added

theorem hourSamples_sublist (added : List TrafficDataPoint) :
    (hourSamples added).Sublist (minuteSamples added) := leaders_sublist 0 (minuteSamples added)

/-- Whether the new sample rolls over is whether it leads. -/
theorem rollsOver_last_iff (timePeriod : Int) (samples : List TrafficDataPoint)
    (tdp : TrafficDataPoint) :
    rollsOver timePeriod tdp ((leaders (periodOf timePeriod) 0 samples).getLastD .zero) ↔
      peak (periodOf timePeriod) 0 samples < periodOf timePeriod tdp := by
  have starts : periodOf timePeriod .zero = 0 := Int.zero_tdiv timePeriod
  have last := key_last_leader (periodOf timePeriod) starts samples
  rw [← last]
  rfl

/-- A roll-over removes from the grown list what it would remove from all samples. -/
theorem removeExpired_grown {timePeriod : Int} (positive : 0 < timePeriod)
    {mark tdp : TrafficDataPoint} (marked : 0 ≤ mark.mTimestamp)
    (ordered : mark.mTimestamp ≤ tdp.mTimestamp) (late : tdp.mTimestamp < 2 ^ 63)
    {samples : List TrafficDataPoint}
    (taken : ∀ tdp ∈ samples, 0 ≤ tdp.mTimestamp ∧ tdp.mTimestamp < 2 ^ 63) :
    removeExpired timePeriod tdp (removeExpired timePeriod mark samples ++ [tdp]) =
      removeExpired timePeriod tdp (samples ++ [tdp]) := by
  have now : 0 ≤ tdp.mTimestamp := by omega
  rw [removeExpired_concat positive now le_rfl late, removeExpired_concat positive now le_rfl late,
    removeExpired_removeExpired positive marked ordered late taken]

/-- The hours and the minutes after a sample that was rolled up into the minutes. -/
theorem Summarizes.minutesRolled {added : List TrafficDataPoint} {tdp : TrafficDataPoint}
    {history : TrafficHistory} (clocked : Clocked (added ++ [tdp]))
    (summarizes : Summarizes added history)
    (rolled : minuteSamples (added ++ [tdp]) = minuteSamples added ++ [tdp])
    (seconds : List TrafficDataPoint) :
    let averaged := removeAndAverageMinutes
      { history with
        seconds := seconds
        minutes := history.minutes ++ [tdp]
        lastSecondUsedForMinute := tdp } tdp
    averaged.lastSecondUsedForMinute = tdp ∧ averaged.seconds = seconds ∧
      averaged.lastMinuteUsedForHours = (hourSamples (added ++ [tdp])).getLastD .zero ∧
      averaged.minutes = removeExpired timePeriodHours averaged.lastMinuteUsedForHours
        (minuteSamples (added ++ [tdp])) ∧
      averaged.hours = hourSamples (added ++ [tdp]) := by
  obtain ⟨⟨inRange, -⟩, now, -⟩ := clocked.of_concat
  have sublist := minuteSamples_sublist added
  obtain ⟨marked, ordered⟩ := mark_bounds clocked
    (((hourSamples_sublist added).trans sublist).trans (List.sublist_append_left added [tdp]))
  have leads := leaders_concat (periodOf timePeriodHours) 0 (minuteSamples added) tdp
  have decided := rollsOver_last_iff timePeriodHours (minuteSamples added) tdp
  have positive : (0 : Int) < timePeriodHours := by decide
  intro averaged
  by_cases hour : peak (periodOf timePeriodHours) 0 (minuteSamples added) <
      periodOf timePeriodHours tdp
  · have grown : hourSamples (added ++ [tdp]) = hourSamples added ++ [tdp] := by
      rw [hourSamples, rolled, leads, if_pos hour]
      rfl
    have rolls : averaged = _ := if_pos (by rw [summarizes.lastMinute]; exact decided.mpr hour)
    rw [rolls, grown, rolled]
    refine ⟨rfl, rfl, (List.getLastD_concat).symm, ?_, ?_⟩
    · dsimp only
      rw [summarizes.minutes, summarizes.lastMinute]
      exact removeExpired_grown positive marked ordered now.2
        fun earlier member => inRange earlier (sublist.subset member)
    · dsimp only
      rw [summarizes.hours]
  · have same : hourSamples (added ++ [tdp]) = hourSamples added := by
      rw [hourSamples, rolled, leads, if_neg hour]
      rfl
    have stays : averaged = _ := if_neg (by rw [summarizes.lastMinute]; exact mt decided.mp hour)
    rw [stays, same, rolled]
    refine ⟨rfl, rfl, summarizes.lastMinute, ?_, summarizes.hours⟩
    dsimp only
    rw [summarizes.minutes, summarizes.lastMinute]
    exact (removeExpired_concat positive marked ordered now.2 _).symm

/-- One more sample keeps the summary. -/
theorem summarizes_add {added : List TrafficDataPoint} {tdp : TrafficDataPoint}
    {history : TrafficHistory} (clocked : Clocked (added ++ [tdp]))
    (summarizes : Summarizes added history) :
    Summarizes (added ++ [tdp]) (history.add tdp).1 := by
  obtain ⟨⟨inRange, -⟩, now, -⟩ := clocked.of_concat
  obtain ⟨marked, ordered⟩ := mark_bounds clocked
    ((minuteSamples_sublist added).trans (List.sublist_append_left added [tdp]))
  have leads := leaders_concat (periodOf timePeriodMinutes) 0 added tdp
  have decided := rollsOver_last_iff timePeriodMinutes added tdp
  have positive : (0 : Int) < timePeriodMinutes := by decide
  by_cases minute : peak (periodOf timePeriodMinutes) 0 added < periodOf timePeriodMinutes tdp
  · have rolled : minuteSamples (added ++ [tdp]) = minuteSamples added ++ [tdp] := by
      rw [minuteSamples, leads, if_pos minute]
      rfl
    obtain ⟨lastSecond, kept, lastMinute, minutes, hours⟩ :=
      summarizes.minutesRolled clocked rolled (history.seconds ++ [tdp])
    have rolls : (history.add tdp).1 = _ :=
      if_pos (by rw [summarizes.lastSecond]; exact decided.mpr minute)
    rw [rolls]
    refine ⟨?_, lastMinute, ?_, minutes, hours⟩
    · rw [rolled, List.getLastD_concat]
      exact lastSecond
    · dsimp only
      rw [lastSecond, kept, summarizes.seconds, summarizes.lastSecond]
      exact removeExpired_grown positive marked ordered now.2 inRange
  · have same : minuteSamples (added ++ [tdp]) = minuteSamples added := by
      rw [minuteSamples, leads, if_neg minute]
      rfl
    have sameHours : hourSamples (added ++ [tdp]) = hourSamples added := by
      rw [hourSamples, same]
      rfl
    have stays : (history.add tdp).1 = { history with seconds := history.seconds ++ [tdp] } :=
      if_neg (by rw [summarizes.lastSecond]; exact mt decided.mp minute)
    rw [stays]
    refine ⟨?_, ?_, ?_, ?_, ?_⟩
    · rw [same]
      exact summarizes.lastSecond
    · rw [sameHours]
      exact summarizes.lastMinute
    · dsimp only
      rw [summarizes.seconds, summarizes.lastSecond]
      exact (removeExpired_concat positive marked ordered now.2 added).symm
    · rw [same]
      exact summarizes.minutes
    · rw [sameHours]
      exact summarizes.hours

/-- Along any run of a clock that does not go back, the lists are summaries. -/
theorem adder_summarizes {added : List TrafficDataPoint} (clocked : Clocked added) :
    Summarizes added (adder.after fresh added) := by
  induction added using List.reverseRecOn with
  | nil => exact summarizes_fresh
  | append_singleton added tdp inductionHypothesis =>
      rw [Machine.after_append]
      exact summarizes_add clocked (inductionHypothesis clocked.of_concat.1)

/-! ## The bounds -/

/-- Two samples of one period are less than a period apart. -/
theorem sub_lt_of_periodOf_eq {timePeriod : Int} (positive : 0 < timePeriod)
    {earlier later : TrafficDataPoint} (early : 0 ≤ earlier.mTimestamp)
    (late : 0 ≤ later.mTimestamp)
    (same : periodOf timePeriod earlier = periodOf timePeriod later) :
    later.mTimestamp - earlier.mTimestamp < timePeriod := by
  unfold periodOf at same
  rw [Int.tdiv_eq_ediv_of_nonneg early, Int.tdiv_eq_ediv_of_nonneg late] at same
  have lower := Int.ediv_mul_le earlier.mTimestamp positive.ne'
  have upper := Int.lt_ediv_add_one_mul_self later.mTimestamp positive
  rw [same] at lower
  rw [Int.add_mul, Int.one_mul] at upper
  omega

/-- A minute lies in one hour. -/
theorem periodOf_hours_eq {earlier later : TrafficDataPoint} (early : 0 ≤ earlier.mTimestamp)
    (late : 0 ≤ later.mTimestamp)
    (same : periodOf timePeriodMinutes earlier = periodOf timePeriodMinutes later) :
    periodOf timePeriodHours earlier = periodOf timePeriodHours later := by
  unfold periodOf timePeriodMinutes at same
  unfold periodOf timePeriodHours
  rw [Int.tdiv_eq_ediv_of_nonneg early, Int.tdiv_eq_ediv_of_nonneg late] at same ⊢
  omega

/-- The last roll-over into the minutes was in the minute of the newest sample. -/
theorem periodOf_lastSecond {added : List TrafficDataPoint} {tdp : TrafficDataPoint}
    (clocked : Clocked (added ++ [tdp])) :
    periodOf timePeriodMinutes ((minuteSamples (added ++ [tdp])).getLastD .zero) =
      periodOf timePeriodMinutes tdp := by
  obtain ⟨⟨inRange, -⟩, now, past⟩ := clocked.of_concat
  have starts : periodOf timePeriodMinutes .zero = 0 := by decide
  rw [minuteSamples, key_last_leader _ starts]
  apply peak_concat_of_le
  · exact periodOf_zero_le (by decide) now.1
  · exact fun earlier member => periodOf_le (by decide) (inRange earlier member).1
      (past earlier member)

/-- The last roll-over into the hours was in the hour of the newest sample. -/
theorem periodOf_lastMinute {added : List TrafficDataPoint} {tdp : TrafficDataPoint}
    (clocked : Clocked (added ++ [tdp])) :
    periodOf timePeriodHours ((hourSamples (added ++ [tdp])).getLastD .zero) =
      periodOf timePeriodHours tdp := by
  have minute := periodOf_lastSecond clocked
  have inRange := clocked.inRange
  have now := inRange tdp (by simp)
  have sublist := minuteSamples_sublist (added ++ [tdp])
  have starts : periodOf timePeriodHours .zero = 0 := by decide
  rw [hourSamples, key_last_leader _ starts]
  apply le_antisymm
  · apply peak_le
    · exact periodOf_zero_le (by decide) now.1
    · intro earlier member
      have taken := sublist.subset member
      exact periodOf_le (by decide) (inRange earlier taken).1 (clocked.le_newest earlier taken)
  · -- The last of the minutes lies in the hour of the newest sample.
    rcases List.mem_cons.mp (List.getLastD_mem_cons
      (l := minuteSamples (added ++ [tdp])) (a := .zero)) with same | member
    · rw [same] at minute
      rw [← periodOf_hours_eq (by decide) now.1 minute, starts]
      exact bound_le_peak _ _
    · rw [← periodOf_hours_eq (inRange _ (sublist.subset member)).1 now.1 minute]
      exact le_peak_of_mem member

/-- The clock is less than a period past the mark, so what is left is between
five and six periods of history. -/
theorem removeExpired_bounds {timePeriod now : Int} (positive : 0 < timePeriod)
    {mark : TrafficDataPoint} (marked : 0 ≤ mark.mTimestamp) (ordered : mark.mTimestamp ≤ now)
    (late : now < 2 ^ 63) (recent : now - mark.mTimestamp < timePeriod)
    {samples : List TrafficDataPoint}
    (taken : ∀ tdp ∈ samples, 0 ≤ tdp.mTimestamp ∧ tdp.mTimestamp < 2 ^ 63) :
    (samples.filter fun tdp => now - tdp.mTimestamp < 5 * timePeriod).Sublist
        (removeExpired timePeriod mark samples) ∧
      ∀ tdp ∈ removeExpired timePeriod mark samples,
        now - tdp.mTimestamp < 6 * timePeriod := by
  have kept : ∀ tdp ∈ samples, ¬isExpired timePeriod mark tdp ↔
      mark.mTimestamp - tdp.mTimestamp < 5 * timePeriod := by
    intro tdp member
    rw [isExpired_iff positive (by omega) (taken tdp member), periodsToKeep, not_le]
  constructor
  · have young : (samples.filter fun tdp => now - tdp.mTimestamp < 5 * timePeriod) =
        (removeExpired timePeriod mark samples).filter
          fun tdp => now - tdp.mTimestamp < 5 * timePeriod := by
      rw [removeExpired, List.filter_filter]
      apply List.filter_congr
      intro tdp member
      rw [Bool.eq_iff_iff]
      simp only [Bool.and_eq_true, decide_eq_true_eq, kept tdp member]
      omega
    rw [young]
    exact List.filter_sublist
  · intro tdp member
    obtain ⟨here, left⟩ := List.mem_filter.mp member
    have age := (kept tdp here).mp (of_decide_eq_true left)
    omega

/-- Strictly increasing numbers from an interval are not more than it holds. -/
theorem length_le_of_increase {key : TrafficDataPoint → Int} (low high : Int)
    {samples : List TrafficDataPoint}
    (increase : samples.Pairwise fun earlier later => key earlier < key later)
    (inside : ∀ tdp ∈ samples, low ≤ key tdp ∧ key tdp ≤ high) :
    samples.length ≤ (high + 1 - low).toNat := by
  have nodup : (samples.map key).Nodup := by
    rw [List.Nodup, List.pairwise_map]
    exact increase.imp fun before => before.ne
  have covered : (samples.map key).toFinset ⊆ Finset.Icc low high := by
    intro number member
    obtain ⟨tdp, here, rfl⟩ := List.mem_map.mp (List.mem_toFinset.mp member)
    exact Finset.mem_Icc.mpr (inside tdp here)
  calc
    samples.length = (samples.map key).toFinset.card := by
      rw [List.toFinset_card_of_nodup nodup, List.length_map]
    _ ≤ (Finset.Icc low high).card := Finset.card_le_card covered
    _ = (high + 1 - low).toNat := Int.card_Icc low high

/-- What the history holds after the samples were added, the last of them at the
time `now`. -/
structure Retains (added : List TrafficDataPoint) (now : Int) (history : TrafficHistory) :
    Prop where
  seconds_ordered : history.seconds.Pairwise fun earlier later =>
    earlier.mTimestamp ≤ later.mTimestamp
  seconds_young : (added.filter fun tdp =>
    now - tdp.mTimestamp < 5 * timePeriodMinutes).Sublist history.seconds
  seconds_recent : ∀ tdp ∈ history.seconds, now - tdp.mTimestamp < 6 * timePeriodMinutes
  minutes_increase : history.minutes.Pairwise fun earlier later =>
    periodOf timePeriodMinutes earlier < periodOf timePeriodMinutes later
  minutes_young : ((minuteSamples added).filter fun tdp =>
    now - tdp.mTimestamp < 5 * timePeriodHours).Sublist history.minutes
  minutes_recent : ∀ tdp ∈ history.minutes, now - tdp.mTimestamp < 6 * timePeriodHours
  minutes_few : history.minutes.length ≤ 361
  hours_increase : history.hours.Pairwise fun earlier later =>
    periodOf timePeriodHours earlier < periodOf timePeriodHours later
  seconds_sampled : history.seconds.Sublist added
  minutes_sampled : history.minutes.Sublist added
  hours_sampled : history.hours.Sublist added

/-- While the clock runs forward, every call of `add` leaves between five and six
minutes of seconds, between five and six hours of minutes, and all hours. -/
theorem adder_retains {past : List TrafficDataPoint} {tdp : TrafficDataPoint}
    (clocked : Clocked (past ++ [tdp])) :
    Retains (past ++ [tdp]) tdp.mTimestamp (adder.after fresh (past ++ [tdp])) := by
  have summary := adder_summarizes clocked
  have inRange := clocked.inRange
  have now := inRange tdp (by simp)
  have sublist := minuteSamples_sublist (past ++ [tdp])
  have coarser := hourSamples_sublist (past ++ [tdp])
  have ordered := clocked.le_newest
  obtain ⟨secondMarked, secondPast⟩ := mark_bounds clocked sublist
  obtain ⟨minuteMarked, minutePast⟩ := mark_bounds clocked (coarser.trans sublist)
  have seconds := removeExpired_bounds (by decide) secondMarked secondPast now.2
    (sub_lt_of_periodOf_eq (by decide) secondMarked now.1 (periodOf_lastSecond clocked)) inRange
  have minutes := removeExpired_bounds (by decide) minuteMarked minutePast now.2
    (sub_lt_of_periodOf_eq (by decide) minuteMarked now.1 (periodOf_lastMinute clocked))
    fun earlier member => inRange earlier (sublist.subset member)
  rw [← summary.lastSecond, ← summary.seconds] at seconds
  rw [← summary.lastMinute, ← summary.minutes] at minutes
  have secondsSampled : (adder.after fresh (past ++ [tdp])).seconds.Sublist (past ++ [tdp]) := by
    rw [summary.seconds]
    exact List.filter_sublist
  have minutesKept : (adder.after fresh (past ++ [tdp])).minutes.Sublist
      (minuteSamples (past ++ [tdp])) := by
    rw [summary.minutes]
    exact List.filter_sublist
  have increase := (leaders_increase (periodOf timePeriodMinutes) 0
    (past ++ [tdp])).sublist minutesKept
  refine ⟨clocked.forward.sublist secondsSampled, seconds.1, seconds.2, increase, minutes.1,
    minutes.2, ?_, ?_, secondsSampled, minutesKept.trans sublist, ?_⟩
  · refine (length_le_of_increase (periodOf timePeriodMinutes tdp - 360)
      (periodOf timePeriodMinutes tdp) increase ?_).trans ?_
    · intro earlier member
      have taken := sublist.subset (minutesKept.subset member)
      have early := (inRange earlier taken).1
      have age := minutes.2 earlier member
      refine ⟨?_, periodOf_le (by decide) early (ordered earlier taken)⟩
      unfold timePeriodHours at age
      unfold periodOf timePeriodMinutes
      rw [Int.tdiv_eq_ediv_of_nonneg early, Int.tdiv_eq_ediv_of_nonneg now.1]
      omega
    · omega
  · rw [summary.hours]
    exact leaders_increase _ 0 _
  · rw [summary.hours]
    exact coarser.trans sublist

/-- A sample, two more a minute and seven hours later. -/
theorem adder_retains_hours :
    let past : List TrafficDataPoint := [⟨10, 20, 3600000⟩, ⟨30, 40, 3660000⟩]
    let tdp : TrafficDataPoint := ⟨50, 60, 28860000⟩
    Clocked (past ++ [tdp]) ∧
      Retains (past ++ [tdp]) tdp.mTimestamp (adder.after fresh (past ++ [tdp])) := by
  intro past tdp
  have clocked : Clocked (past ++ [tdp]) := ⟨by decide, by decide⟩
  exact ⟨clocked, adder_retains clocked⟩

end TrafficHistory
end Openpyn.Traffic
