import TrialMeter.Child.Basic
import TrialMeter.Clock.System
import TrialMeter.Trial.Basic

/-!
# Timing without counters

The wall time of units of work and of programs. Units of work that are timed one after another share
a clock, which each of them starts and stops anew.

## Main definitions

* `Trial.time`: one run of one unit of work.
* `Trial.timeAll`, `Trial.timeEach`: several units of work, on a clock that is there or on a new
  one.
* `Trial.timeFrom`, `Trial.timeRepeat`: one unit of work several times; `Trial.capacity`: how often
  at most.
* `Trial.timeProgram`: one run of a program, its start included.
-/

namespace TrialMeter.Trial

/-- The time of one run of `work`. -/
def time (s : Settings) (work : Workload) : Trial Float := do
  let clock ← IntervalClock.create s.source
  let clock ← Attempt.insist clock.start
  Meter.work work
  let clock ← Attempt.insist clock.stop
  clock.elapsed s.resolution

/-- The time of one run of `program`, its start included. -/
def timeProgram (s : Settings) (program : String) (args : List String) : Trial Float := do
  let clock ← IntervalClock.create s.source
  let clock ← Attempt.insist clock.start
  let _ ← Child.spawnAndWait program args
  let clock ← Attempt.insist clock.stop
  clock.elapsed s.resolution

/-- The times of units of work that run one after another on one clock. -/
def timeAll (clock : IntervalClock) (r : Resolution) : List Workload → Trial (List Float)
  | [] => return []
  | work :: rest => do
    let clock ← Attempt.insist clock.start
    Meter.work work
    let clock ← Attempt.insist clock.stop
    let t ← clock.elapsed r
    return t :: (← timeAll clock r rest)

/-- The time of each unit of work, in order. -/
def timeEach (s : Settings) (works : List Workload) : Trial (List Float) := do
  let clock ← IntervalClock.create s.source
  timeAll clock s.resolution works

/-- The greatest number of times that can be kept, each of 8 bytes in an address space of signed
64-bit words. -/
def capacity : Nat := 9223372036854775807 / 8

/-- The times of `n` runs on one clock when `i` runs are over; `work i` is what the next one does.
-/
def timeFrom (clock : IntervalClock) (r : Resolution) (work : Nat → Workload) :
    (i n : Nat) → Trial (List Float)
  | _, 0 => return []
  | i, n + 1 => do
    let clock ← Attempt.insist clock.start
    Meter.work (work i)
    let clock ← Attempt.insist clock.stop
    let t ← clock.elapsed r
    return t :: (← timeFrom clock r work (i + 1) n)

/-- The times of `n` runs, one after another; `work i` is what run `i` does. Room for the times is
made when the clock has been read, before the first run. -/
def timeRepeat (s : Settings) (n : Nat) (work : Nat → Workload) : Trial (List Float) := do
  let clock ← IntervalClock.create s.source
  if capacity < n then throw (.fault .capacityOverflow)
  else timeFrom clock s.resolution work 0 n

end TrialMeter.Trial
