import TrialMeter.Command.Basic
import TrialMeter.Command.Options
import TrialMeter.Log.Filter

/-!
# Commands with a grammar

A `Tool` is a command together with the grammar of its command lines and its help text. It is run
with the reader that its grammar gives, and with the gate of the log that a filter text asks for. A
log line is stamped with a time of its own, which is none of the kernel's.

## Main definitions

* `Log.Filter.gateOf`: the gate of a filter text.
* `Tool`, `Tool.read`: a command with its grammar, and its reader.
* `Tool.run`: a whole run.
-/

namespace TrialMeter

/-- The time that log lines are stamped with. -/
def Log.time : String := "1970-01-01T00:00:00Z"

/-- The gate that a filter text asks for. -/
def Log.Filter.gateOf (text : String) : Log.Gate :=
  let (filter, warnings) := parse text
  { warnings := String.join warnings
    write line := if filter.passes line then some (line.text time) else none }

namespace Command

/-- A text of several lines. -/
def textOfLines (lines : List String) : String := String.join (lines.map (· ++ "\n"))

/-- A command whose options fill in settings of type `σ`, and which does its work on an `α`. -/
structure Tool (σ α : Type) where
  grammar : Grammar σ
  /-- The settings before an option is read. -/
  defaults : σ
  help : String
  /-- What settings and operands ask for, if there are enough operands. -/
  ask : σ → List String → Option α
  work : α → Meter Verdict

namespace Tool

variable {σ α : Type}

/-- The reader of command lines. A line that is refused is answered with the help text. -/
def read (t : Tool σ α) (args : List String) : Request α :=
  match t.grammar.read { settings := t.defaults } args with
  | .help => .help t.help
  | .refused => .refused t.help
  | .run settings operands =>
    match t.ask settings operands with
    | some asked => .run asked
    | none => .refused t.help

/-- Runs the command. -/
def run (t : Tool σ α) (filterText : Option String) (args : List String) (k : Kernel) : Ran Exit :=
  Command.run t.work t.read Log.Filter.gateOf filterText args k

end Tool

end Command

end TrialMeter
