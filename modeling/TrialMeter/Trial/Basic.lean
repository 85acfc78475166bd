import TrialMeter.Clock.System
import TrialMeter.Group.Counters
import TrialMeter.Record.Basic

/-!
# Trials

A trial times a unit of work and samples counters around it. Every trial keeps one order: the clock
starts, the counters start, the work runs, the clock stops, the counters stop. Counters that are
refused are logged and count zero; a clock that cannot be read ends the trial.

## Main definitions

* `Settings`: what all trials share.
* `Trial.startCounters`, `Trial.stopCounters`: driving a group as well as possible.
* `Trial.report`: the record of a stopped trial.
-/

namespace TrialMeter

/-- What all trials share. -/
structure Settings where
  /-- The name of the records of work inside the program. -/
  name : String := ""
  resolution : Resolution := default
  source : Source := default
deriving Repr, Inhabited

namespace Trial

/-- Logs a warning when a step was refused. -/
def warnRefused (what : String) : Except Error Unit → Meter Unit
  | .ok () => return ()
  | .error e => Meter.log .warn .trial (what ++ e.message)

/-- Logs a warning with the number of members that are open. -/
def warnPartial (group : Group Counter) (what : String) : Except Error Unit → Meter Unit :=
  warnRefused (toString group.opened ++ " of " ++ toString group.size ++ " counters " ++ what
    ++ ": ")

/-- Starts the open members of a group. -/
def startCounters (group : Group Counter) : Meter Unit := do
  warnRefused "starting counters: " (← group.start)

/-- Stops the open members of a group. -/
def stopCounters (group : Group Counter) : Meter Unit := do
  warnRefused "stopping counters: " (← group.stop)

/-- Starts a counter if it is open. -/
def startCounter (c : Counter) : Meter Unit := do
  if c.isOpen then warnRefused ("starting " ++ c.kind.text ++ ": ") (← c.start.run)

/-- Stops a counter if it is open. -/
def stopCounter (c : Counter) : Meter Unit := do
  if c.isOpen then warnRefused ("stopping " ++ c.kind.text ++ ": ") (← c.stop.run)

/-- The record of a stopped trial. The time is worked out before a counter is read. -/
def report (s : Settings) (name : String) (clock : IntervalClock) (group : Group Counter) :
    Trial Record := do
  let time ← clock.elapsed s.resolution
  (Record.ofGroup name time group : Meter Record)

end Trial

end TrialMeter
