import TrialMeter.Attempt
import TrialMeter.Time.Resolution

/-!
# Interval clocks

An `IntervalClock` holds two samples of one source, where an interval starts and where it stops. It
takes its first sample when it is made, so that a broken source shows at once. The operations that
take a later sample return the clock that they leave, also when the sample is refused.

## Main definitions

* `Timestamp.now`: one sample of a source.
* `IntervalClock.create`, `IntervalClock.start`, `IntervalClock.stop`: the samples.
* `IntervalClock.elapsed`: the interval in a unit.

## Main results

* `IntervalClock.insist_start`, `IntervalClock.insist_stop`: a sample that has to be taken.
-/

namespace TrialMeter

/-- One sample of a source. -/
def Timestamp.now (source : Source) : Attempt Timestamp :=
  .ofReply (Meter.readClock source) (.clock source)

/-- Two samples of one source. -/
structure IntervalClock where
  source : Source
  startTime : Timestamp
  stopTime : Timestamp := {}
deriving DecidableEq, Repr

namespace IntervalClock

/-- A clock whose interval starts now, and which has not stopped yet. -/
def create (source : Source) : Attempt IntervalClock := do
  return { source, startTime := ← Timestamp.now source }

/-- Samples the start of the interval, and gives the sample. -/
def start (c : IntervalClock) : Meter (Except Error Timestamp × IntervalClock) := do
  match ← (Timestamp.now c.source).run with
  | .ok t => return (.ok t, { c with startTime := t })
  | .error e => return (.error e, c)

/-- Samples the end of the interval, and gives the sample. -/
def stop (c : IntervalClock) : Meter (Except Error Timestamp × IntervalClock) := do
  match ← (Timestamp.now c.source).run with
  | .ok t => return (.ok t, { c with stopTime := t })
  | .error e => return (.error e, c)

theorem insist_start (c : IntervalClock) :
    Attempt.insist c.start = do return { c with startTime := ← Timestamp.now c.source } := by
  refine ExceptT.ext ?_
  rw [ExceptT.run_bind, Attempt.insist, start, ExceptT.run_mk, bind_assoc]
  refine bind_congr fun r => ?_
  cases r with
  | ok t => rfl
  | error e => rfl

theorem insist_stop (c : IntervalClock) :
    Attempt.insist c.stop = do return { c with stopTime := ← Timestamp.now c.source } := by
  refine ExceptT.ext ?_
  rw [ExceptT.run_bind, Attempt.insist, stop, ExceptT.run_mk, bind_assoc]
  refine bind_congr fun r => ?_
  cases r with
  | ok t => rfl
  | error e => rfl

/-- One sample of the clock's source, which the clock does not keep. -/
def now (c : IntervalClock) : Attempt Timestamp := Timestamp.now c.source

/-- The distance from the start of the interval to `t`. -/
def elapsedTo (c : IntervalClock) (t : Timestamp) (r : Resolution) : Except Fault Float :=
  r.between c.startTime t

/-- The length of the interval. It may be zero or negative: coarse sources repeat a sample, and real
time can be set back. -/
def elapsed (c : IntervalClock) (r : Resolution) : Except Fault Float :=
  c.elapsedTo c.stopTime r

end IntervalClock

end TrialMeter
