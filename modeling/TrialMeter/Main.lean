import TrialMeter.Command.Compare
import TrialMeter.Command.TimeOne
import TrialMeter.Kernel.ScriptText

/-!
# The program

Runs one of the two commands on a kernel that answers from the script on the standard input. The
first word of the command line names the command, `run` or `time`; the variable `TRIAL_LOG` holds
the filter of the log.
-/

namespace TrialMeter

/-- The descriptors and identifiers of a scripted kernel. -/
def Script.kernel (script : Script) : Kernel where
  script
  descriptor n := 1000 + n
  newPid n := 5000 + (n : Int)

/-- How a command line ends. -/
def exitOf (script : Script) (filterText : Option String) : List String → Exit
  | "run" :: args => (Command.Compare.command.run filterText args script.kernel).value
  | "time" :: args => (Command.TimeOne.command.run filterText args script.kernel).value
  | _ => { code := 2, stderr := "expected a command: run or time\n" }

/-- The lines that are still to be read. -/
partial def readLines (input : IO.FS.Stream) (lines : List String) : IO (List String) := do
  let line ← input.getLine
  if line.isEmpty then return lines.reverse else readLines input (line :: lines)

end TrialMeter

open TrialMeter in
/-- Reads the script, runs the command, and prints what it printed. -/
def main (args : List String) : IO UInt32 := do
  let lines ← readLines (← IO.getStdin) []
  match Script.ofLines lines with
  | .error line =>
    IO.eprint ("not an answer: " ++ line)
    return 2
  | .ok script =>
    let exit := exitOf script (← IO.getEnv "TRIAL_LOG") args
    IO.print exit.stdout
    IO.eprint exit.stderr
    return UInt32.ofNat exit.code
