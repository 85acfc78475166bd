import TrialMeter.Command.TimeOne.Work
import TrialMeter.Command.Tool

/-!
# Timing one program, from a command line

The option of the command, its help text, and the command with its grammar.
-/

namespace TrialMeter.Command.TimeOne

/-- The option for the unit of the time. -/
def resolution : Named Resolution where
  short := 'r'
  long := "resolution"
  store text _ := (Resolution.parse text).toOption

/-- The option, and the program before its own arguments. -/
def grammar : Grammar Resolution where
  options := [resolution]
  own := some 1

/-- The help text. -/
def help : String := textOfLines [
  "Print the wall time of one program run",
  "",
  "Usage: perfbench-time [OPTIONS] <PROGRAM> [ARGS]...",
  "",
  "Arguments:",
  "  <PROGRAM>  Program to run",
  "  [ARGS]...  Arguments passed to the program",
  "",
  "Options:",
  "  -r, --resolution <RESOLUTION>  Unit of the reported time (s, ds, ms, us, ns) [default: us]",
  "  -h, --help                     Print help"]

/-- The command. -/
def command : Tool Resolution (Resolution × String × List String) where
  grammar
  defaults := .microseconds
  help
  ask
    | resolution, program :: args => some (resolution, program, args)
    | _, [] => none
  work | (resolution, program, args) => work resolution program args

end TrialMeter.Command.TimeOne
