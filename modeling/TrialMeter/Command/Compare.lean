import TrialMeter.Command.Compare.Work
import TrialMeter.Command.Tool
import TrialMeter.Text.Natural

/-!
# Comparing programs, from a command line

The options of a comparison, its help text, and the command with its grammar.
-/

namespace TrialMeter.Command.Compare

/-- The option for the number of trials. -/
def runs : Named Options where
  short := 'n'
  long := "runs"
  store text o := (Text.word64? text).map fun runs => { o with runs }

/-- The option for the unit of the times. -/
def resolution : Named Options where
  short := 'r'
  long := "resolution"
  store text o := (Resolution.parse text).toOption.map fun resolution => { o with resolution }

/-- The help text. -/
def help : String := textOfLines [
  "Run programs repeatedly and compare their averaged counters",
  "",
  "Usage: perfbench-run [OPTIONS] <PROGRAMS>...",
  "",
  "Arguments:",
  "  <PROGRAMS>...  Programs to benchmark; arguments may follow the path, separated by whitespace, "
    ++ "e.g. \"/bin/sleep 0.1\"",
  "",
  "Options:",
  "  -n, --runs <RUNS>              Number of runs per program [default: 1]",
  "  -r, --resolution <RESOLUTION>  Unit of the reported time (s, ds, ms, us, ns) [default: ms]",
  "  -h, --help                     Print help"]

/-- The command. -/
def command : Tool Options (Options × List String) where
  grammar := { options := [runs, resolution] }
  defaults := {}
  help
  ask o operands := some (o, operands)
  work | (o, operands) => work o operands

end TrialMeter.Command.Compare
