import TrialMeter.Kernel.Meter

/-!
# Commands

A command does its work on a kernel and ends with a code. What it prints goes to the standard
output; the lines of its log that pass a gate, and the message with which it fails, go to the
standard error. How a command line is read, and which lines of the log pass the gate, is decided by
other programs: a run of a command takes the reader and the gate as it finds them.

## Main definitions

* `Request`: what a command line asks for.
* `Log.Gate`: what is written of a log.
* `Verdict`, `Exit`: how the work ends, and how the command does.
* `Command.run`: a whole run of a command.
-/

namespace TrialMeter

/-- What is written of a log. -/
structure Log.Gate where
  /-- What is written before any line. -/
  warnings : String := ""
  /-- What is written of a line, if it passes. -/
  write : Line → Option String

/-- How the work of a command ends. -/
inductive Verdict where
  /-- The work is done, and `text` is printed. -/
  | done (text : String)
  /-- The work failed, as `message` says. -/
  | failed (message : String)
  /-- The work broke off, for the reason `message`. -/
  | broken (message : String)
deriving DecidableEq, Repr

/-- How a command ends. -/
structure Exit where
  code : Nat
  stdout : String := ""
  stderr : String := ""
deriving DecidableEq, Repr

namespace Command

/-- What a command line asks for. -/
inductive Request (α : Type) where
  /-- A text about the command. -/
  | help (text : String)
  /-- Nothing that can be done, as `message` says. -/
  | refused (message : String)
  /-- The work of the command. -/
  | run (asked : α)
deriving DecidableEq, Repr

/-- The text that asks for a gate of the log where there is none. -/
def usualFilter : String := "warn"

/-- The written lines of a trace. -/
def logText (gate : Log.Gate) (trace : List Entry) : String :=
  String.join (trace.filterMap fun
    | .log line => gate.write line
    | _ => none)

/-- How a command ends after its work, when `log` was written to the standard error. -/
def exit (log : String) : Verdict → Exit
  | .done text => { code := 0, stdout := text, stderr := log }
  | .failed message => { code := 1, stderr := log ++ message ++ "\n" }
  | .broken message => { code := 101, stderr := log ++ message ++ "\n" }

/-- Runs the command that does `work`. The log is set up before the command line is read. Help and a
refused command line do not reach the kernel. -/
def run {α : Type} (work : α → Meter Verdict) (read : List String → Request α)
    (gateOf : String → Log.Gate) (filterText : Option String) (args : List String) (k : Kernel) :
    Ran Exit :=
  let gate := gateOf (filterText.getD usualFilter)
  match read args with
  | .help text => ⟨{ code := 0, stdout := text, stderr := gate.warnings }, k, []⟩
  | .refused message => ⟨{ code := 2, stderr := gate.warnings ++ message }, k, []⟩
  | .run asked =>
    let ran := work asked k
    ⟨exit (gate.warnings ++ logText gate ran.trace) ran.value, ran.kernel, ran.trace⟩

end Command

end TrialMeter
