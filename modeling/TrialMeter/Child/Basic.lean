import TrialMeter.Attempt

/-!
# Children

A program is measured as a child of the measuring program. It is named by a path, gets the arguments
it is given and nothing else, and has to be waited for by whoever started it.

## Main definitions

* `Child.spawn`: starts a program. The arguments are checked before the kernel is asked.
* `Child.wait`: waits for a child and gives its status.
* `Child.spawnAndWait`: both, one after the other.
* `Child.invocation`: a program and its arguments on one line.
-/

namespace TrialMeter.Child

/-- Refuses an argument that holds the character by which arguments end. -/
def checkArgument (argument : String) : Except Error Unit :=
  if argument.toList.contains '\x00' then .error (.interiorNul argument) else .ok ()

/-- Refuses the first argument in a list that holds the character by which arguments end. -/
def checkArguments : List String → Except Error Unit
  | [] => .ok ()
  | argument :: rest => do
    checkArgument argument
    checkArguments rest

/-- Starts `program`, a path, with `args`, and returns at once. -/
def spawn (program : String) (args : List String) : Attempt Pid := do
  let argv := program :: args
  ExceptT.mk (pure (checkArguments argv))
  Attempt.ofReply Meter.initChild .childAttr
  let pid ← Attempt.ofReply (Meter.startChild program argv) (.spawning program)
  Meter.log .debug .child ("spawned " ++ program ++ " as pid " ++ toString pid)
  return pid

/-- Waits until the process `pid` ends. An interruption is no answer: the kernel is asked again. -/
def wait (pid : Pid) : Attempt WaitStatus := do
  let status ← Attempt.ofReply (Meter.wait pid) (.waiting pid)
  Meter.log .debug .child ("pid " ++ toString pid ++ " exited with " ++ status.text)
  return status

/-- Starts `program` and waits until it ends. -/
def spawnAndWait (program : String) (args : List String) : Attempt Pid := do
  let pid ← spawn program args
  let _ ← wait pid
  return pid

/-- A program and its arguments, joined by spaces. -/
def invocation (program : String) (args : List String) : String :=
  args.foldl (fun line argument => line ++ " " ++ argument) program

end TrialMeter.Child
