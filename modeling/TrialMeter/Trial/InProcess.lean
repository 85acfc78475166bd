import TrialMeter.Trial.Basic

/-!
# Trials of work inside the program

The full battery of counters around one run of a unit of work. The counters are opened one by one,
or as a group; the two ways differ in what they log.

## Main definitions

* `Trial.benchmark`, `Trial.benchmarkBatch`: the full battery.
* `Trial.countOne`: one counter around one run.
-/

namespace TrialMeter.Trial

/-- Opens one counter of each kind for the calling thread, logging each refusal as it comes. -/
def openEach : List Kind → Meter (List Counter)
  | [] => return []
  | kind :: rest => do
    let (result, c) ← (Counter.quiet kind).openHere
    warnRefused (kind.text ++ " unavailable: ") result
    return c :: (← openEach rest)

/-- Runs `work` between the samples of `clock` and of the open members of `group`. -/
def sample (s : Settings) (clock : IntervalClock) (group : Group Counter) (work : Workload) :
    Trial Record := do
  let clock ← Attempt.insist clock.start
  startCounters group
  Meter.work work
  let clock ← Attempt.insist clock.stop
  stopCounters group
  report s s.name clock group

/-- Times `work` and samples the standard counters around it, each opened on its own. -/
def benchmark (s : Settings) (work : Workload) : Trial Record := do
  let clock ← IntervalClock.create s.source
  let counters ← openEach Kind.standard
  let group ← Group.ofCounters counters
  Meter.finally (sample s clock group work) group.release

/-- Times `work` and samples the standard counters around it, opened as a group. -/
def benchmarkBatch (s : Settings) (work : Workload) : Trial Record := do
  let clock ← IntervalClock.create s.source
  let group ← Group.quiet Kind.standard
  let (result, group) ← group.openHere
  warnPartial group "opened" result
  Meter.finally (sample s clock group work) group.release

/-- The count of one kind over one run of `work`, or zero when it cannot be had. -/
def countOne (kind : Kind) (work : Workload) : Meter UInt64 := do
  let (result, c) ← (Counter.quiet kind).openHere
  warnRefused (kind.text ++ " unavailable: ") result
  startCounter c
  Meter.work work
  stopCounter c
  let count ← c.retrieve
  let _ ← c.release
  return count

end TrialMeter.Trial
