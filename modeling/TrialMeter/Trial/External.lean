import TrialMeter.Child.Basic
import TrialMeter.Trial.Basic

/-!
# Trials of a program

The same trials on a child. The program is started first and the counters are moved to it
afterwards, so what it does at its very start is not counted. A child that was started is waited for
on every way out of the trial.

## Main definitions

* `Trial.benchmarkProgram`: the full battery.
* `Trial.countProgram`: one counter.
-/

namespace TrialMeter.Trial

/-- Moves a group to a child. -/
def attach (group : Group Counter) (pid : Pid) : Meter (Group Counter) := do
  let (result, group) ← group.reopen pid
  warnPartial group ("attached to pid " ++ toString pid) result
  return group

/-- Waits for a child whose trial has already failed with `e`, and fails with `e`. -/
def abandon {α : Type} (pid : Pid) (e : Error) : Attempt α := do
  try
    let _ ← Child.wait pid
  catch refusal =>
    Meter.log .warn .trial ("could not reap pid " ++ toString pid ++ ": " ++ refusal.message)
  throw e

/-- Waits for a child, and logs how it ended. -/
def reap (program : String) (pid : Pid) : Attempt Unit := do
  let status ← Child.wait pid
  if status.success then Meter.log .debug .trial (program ++ " finished")
  else Meter.log .warn .trial (program ++ " exited with " ++ status.text)

/-- Starts `clock` for a child, which is waited for if the clock cannot be read. -/
def startClock (clock : IntervalClock) (pid : Pid) : Attempt IntervalClock := do
  let (result, clock) ← clock.start
  match result with
  | .ok _ => return clock
  | .error e => abandon pid e

/-- Samples `clock` and the open members of `group` around the rest of a child's life. -/
def watch (s : Settings) (clock : IntervalClock) (group : Group Counter) (program : String)
    (args : List String) (pid : Pid) : Trial Record := do
  let clock ← startClock clock pid
  startCounters group
  reap program pid
  let clock ← Attempt.insist clock.stop
  stopCounters group
  report s (Child.invocation program args) clock group

/-- Runs `program` once and samples the standard counters on it. The record is named after the
program and its arguments. -/
def benchmarkProgram (s : Settings) (program : String) (args : List String) : Trial Record := do
  let clock ← IntervalClock.create s.source
  let group ← Group.quiet Kind.standard
  let pid ← Child.spawn program args
  let group ← attach group pid
  Meter.finally (watch s clock group program args pid) group.release

/-- The count of `c` over the rest of a child's life. -/
def countRest (c : Counter) (program : String) (pid : Pid) : Attempt UInt64 := do
  startCounter c
  reap program pid
  stopCounter c
  c.retrieve

/-- The count of one kind over one run of `program`, or zero when the counter cannot be had. -/
def countProgram (kind : Kind) (program : String) (args : List String) : Attempt UInt64 := do
  let pid ← Child.spawn program args
  let (result, c) ← (Counter.quiet kind).reopen pid
  warnRefused (kind.text ++ " unavailable for pid " ++ toString pid ++ ": ") result
  Meter.finally (countRest c program pid) (discard c.release)

end TrialMeter.Trial
