import TrialMeter.Clock.System

/-!
# Stopwatches

A `Stopwatch` keeps every lap since it was started, where an interval clock keeps one end. Starting
it again forgets the laps. The operations return the stopwatch that they leave, whether or not they
are refused; what is left after a refusal is up to the order in which they sample and change it.

## Main definitions

* `Stopwatch.start`, `Stopwatch.lap`, `Stopwatch.stop`: the samples that are kept.
* `Stopwatch.measure`: the time of one run of a unit of work.
* `Stopwatch.lapTimes`, `Stopwatch.elapsed`: the laps in milliseconds.
-/

namespace TrialMeter

/-- A clock that keeps its laps. -/
structure Stopwatch where
  clock : IntervalClock
  /-- The samples since the start, in order. -/
  laps : List Timestamp := []
deriving DecidableEq, Repr

namespace Stopwatch

/-- A stopwatch started now. -/
def create (source : Source) : Attempt Stopwatch := do
  return { clock := ← IntervalClock.create source }

/-- Starts again, without laps. The start is sampled before the laps are forgotten. -/
def start (w : Stopwatch) : Meter (Except Error Unit × Stopwatch) := do
  let (result, clock) ← w.clock.start
  let w := { w with clock }
  match result with
  | .ok _ => return (.ok (), { w with laps := [] })
  | .error e => return (.error e, w)

/-- Adds a lap. -/
def lap (w : Stopwatch) : Meter (Except Error Unit × Stopwatch) := do
  let (result, clock) ← w.clock.stop
  let w := { w with clock }
  match result with
  | .ok t => return (.ok (), { w with laps := w.laps ++ [t] })
  | .error e => return (.error e, w)

/-- Ends the stopwatch, which adds a last lap. -/
def stop (w : Stopwatch) : Meter (Except Error Unit × Stopwatch) := w.lap

/-- The time from the start to a sample, in milliseconds. -/
def timeAt (w : Stopwatch) (t : Timestamp) : Except Fault Float :=
  w.clock.elapsedTo t .milliseconds

/-- The times of the laps. -/
def lapTimes (w : Stopwatch) : Except Fault (List Float) := w.laps.mapM w.timeAt

/-- The time of the last lap, when there is one. -/
def elapsed (w : Stopwatch) : Except Fault (Option Float) := w.laps.getLast?.mapM w.timeAt

/-- The seconds that one run of `work` takes. The samples around it are not kept. -/
def measure (w : Stopwatch) (work : Workload) : Meter (Except Failure Float × Stopwatch) := do
  match ← w.clock.now.run with
  | .error e => return (.error (.error e), w)
  | .ok start =>
    Meter.work work
    match ← w.clock.now.run with
    | .error e => return (.error (.error e), w)
    | .ok stop => return ((Resolution.seconds.between start stop).mapError .fault, w)

end Stopwatch

end TrialMeter
