import TrialMeter.Command.Basic
import TrialMeter.Decimal.Text
import TrialMeter.Trial.Timing

/-!
# Timing one program

This command runs a program once and prints its wall time.
-/

namespace TrialMeter.Command.TimeOne

/-- The verdict on a time. -/
def verdict : Except Failure Float → Verdict
  | .ok time => .done (numberText time ++ "\n")
  | .error (.error e) => .failed ("perfbench-time: " ++ e.message)
  | .error (.fault f) => .broken f.message

/-- Times one run of a program. -/
def work (resolution : Resolution) (program : String) (args : List String) : Meter Verdict := do
  return verdict (← (Trial.timeProgram { resolution } program args).run)

/-- The command, which is asked for a unit of the time, a program and its arguments. -/
def run (read : List String → Request (Resolution × String × List String))
    (gateOf : String → Log.Gate) (filterText : Option String) (args : List String) (k : Kernel) :
    Ran Exit :=
  Command.run (fun (resolution, program, args) => work resolution program args) read gateOf
    filterText args k

end TrialMeter.Command.TimeOne
