import Openpyn.Java.Integer

/-!
# The traffic history

Samples of the byte counters are kept in three lists. A sample that falls into a
new minute is also kept among the minutes, and one of these that falls into a new
hour among the hours. Only such a roll-over removes old samples, and only from the
list it rolls over from.
-/

namespace Openpyn.Traffic

open Java

/-- `PERIODS_TO_KEEP`. -/
def periodsToKeep : Int := 5

/-- `TIME_PERIOD_MINUTES`. -/
def timePeriodMinutes : Int := 60 * 1000

/-- `TIME_PERIOD_HOURS`. -/
def timePeriodHours : Int := 3600 * 1000

/-- `TrafficDataPoint`; its fields are of type `long`. -/
structure TrafficDataPoint where
  mIn : Int
  mOut : Int
  mTimestamp : Int
deriving DecidableEq

/-- `new TrafficDataPoint(0L, 0L, 0L)`. -/
def TrafficDataPoint.zero : TrafficDataPoint := ⟨0, 0, 0⟩

/-- `LastDiff`. -/
structure LastDiff where
  mLastTdp : TrafficDataPoint
  mTdp : TrafficDataPoint
deriving DecidableEq

namespace LastDiff

def getDiffOut (diff : LastDiff) : Int := max 0 (wrapLong (diff.mTdp.mOut - diff.mLastTdp.mOut))

def getDiffIn (diff : LastDiff) : Int := max 0 (wrapLong (diff.mTdp.mIn - diff.mLastTdp.mIn))

def getIn (diff : LastDiff) : Int := diff.mTdp.mIn

def getOut (diff : LastDiff) : Int := diff.mTdp.mOut

end LastDiff

/-- The fields of `TrafficHistory`. The last two are null until the first `add`,
which sets both to the point of time 0 before it reads them. -/
structure TrafficHistory where
  seconds : List TrafficDataPoint
  minutes : List TrafficDataPoint
  hours : List TrafficDataPoint
  lastSecondUsedForMinute : TrafficDataPoint
  lastMinuteUsedForHours : TrafficDataPoint
deriving DecidableEq

namespace TrafficHistory

/-- `new TrafficHistory()`. -/
def fresh : TrafficHistory := ⟨[], [], [], .zero, .zero⟩

/-- `getLastDiff`: the last sample stands for a missing point, and a point of no
traffic for a missing last sample. -/
def getLastDiff (history : TrafficHistory) (tdp : Option TrafficDataPoint) (now : Int) :
    LastDiff :=
  let lastTdp := history.seconds.getLastD ⟨0, 0, now⟩
  ⟨lastTdp, tdp.getD lastTdp⟩

/-- The new point falls into a later period than the last one used. -/
def rollsOver (timePeriod : Int) (newTdp lastTsPeriod : TrafficDataPoint) : Prop :=
  lastTsPeriod.mTimestamp.tdiv timePeriod < newTdp.mTimestamp.tdiv timePeriod

instance (timePeriod : Int) (newTdp lastTsPeriod : TrafficDataPoint) :
    Decidable (rollsOver timePeriod newTdp lastTsPeriod) :=
  inferInstanceAs (Decidable (_ < _))

/-- The point is put into `toRemove`. -/
def isExpired (timePeriod : Int) (newTdp tph : TrafficDataPoint) : Prop :=
  periodsToKeep ≤ (wrapLong (newTdp.mTimestamp - tph.mTimestamp)).tdiv timePeriod

instance (timePeriod : Int) (newTdp tph : TrafficDataPoint) :
    Decidable (isExpired timePeriod newTdp tph) :=
  inferInstanceAs (Decidable (_ ≤ _))

/-- `tpList.removeAll(toRemove)`. Points are compared by identity, and whether one
is in `toRemove` is decided by its own time. -/
def removeExpired (timePeriod : Int) (newTdp : TrafficDataPoint)
    (tpList : List TrafficDataPoint) : List TrafficDataPoint :=
  tpList.filter fun tph => ¬isExpired timePeriod newTdp tph

/-- `removeAndAverage(newTdp, false)`: from the minutes to the hours. -/
def removeAndAverageMinutes (history : TrafficHistory) (newTdp : TrafficDataPoint) :
    TrafficHistory :=
  if rollsOver timePeriodHours newTdp history.lastMinuteUsedForHours then
    { history with
      hours := history.hours ++ [newTdp]
      lastMinuteUsedForHours := newTdp
      minutes := removeExpired timePeriodHours newTdp history.minutes }
  else history

/-- `removeAndAverage(newTdp, true)`: from the seconds to the minutes. -/
def removeAndAverageSeconds (history : TrafficHistory) (newTdp : TrafficDataPoint) :
    TrafficHistory :=
  if rollsOver timePeriodMinutes newTdp history.lastSecondUsedForMinute then
    let averaged := removeAndAverageMinutes
      { history with
        minutes := history.minutes ++ [newTdp]
        lastSecondUsedForMinute := newTdp } newTdp
    { averaged with seconds := removeExpired timePeriodMinutes newTdp averaged.seconds }
  else history

/-- `add(in, out)` when the clock shows the time of the point. -/
def add (history : TrafficHistory) (tdp : TrafficDataPoint) : TrafficHistory × LastDiff :=
  (removeAndAverageSeconds { history with seconds := history.seconds ++ [tdp] } tdp,
    history.getLastDiff (some tdp) tdp.mTimestamp)

/-- The newest point is never removed: it has no age. -/
theorem not_isExpired_self (timePeriod : Int) (tdp : TrafficDataPoint) :
    ¬isExpired timePeriod tdp tdp := by
  have age : wrapLong (tdp.mTimestamp - tdp.mTimestamp) = 0 := by
    rw [Int.sub_self]
    exact wrapLong_of_range (by decide) (by decide)
  rw [isExpired, age, Int.zero_tdiv]
  decide

/-- Whatever the clock shows, the last of the seconds is the point just added. -/
theorem getLast?_seconds_add (history : TrafficHistory) (tdp : TrafficDataPoint) :
    (history.add tdp).1.seconds.getLast? = some tdp := by
  have kept : ¬isExpired timePeriodMinutes tdp tdp := not_isExpired_self _ tdp
  have averaged : ∀ history : TrafficHistory,
      (removeAndAverageMinutes history tdp).seconds = history.seconds := by
    intro history
    unfold removeAndAverageMinutes
    split
    · rfl
    · rfl
  unfold add removeAndAverageSeconds
  dsimp only
  split
  · simp [averaged, removeExpired, kept]
  · simp

/-- The difference is taken against the last of the seconds. -/
theorem add_getDiff (history : TrafficHistory) (tdp : TrafficDataPoint) :
    (history.add tdp).2 =
      ⟨history.seconds.getLastD ⟨0, 0, tdp.mTimestamp⟩, tdp⟩ := rfl

end TrafficHistory
end Openpyn.Traffic
