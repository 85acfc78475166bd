/-!
# Log lines

A measurement reports what it does and what it has to do without in log lines. A line has a `Level`
of importance, the `Target` part of the program that speaks, and a message.
-/

namespace TrialMeter.Log

/-- The importance of a line, from the highest to the lowest. -/
inductive Level where
  | error
  | warn
  | info
  | debug
  | trace
deriving DecidableEq, Repr

namespace Level

/-- Every level, from the most important to the least. -/
def all : List Level := [error, warn, info, debug, trace]

/-- The place of a level in the order of importance, from one on. -/
def rank : Level → Nat
  | error => 1
  | warn => 2
  | info => 3
  | debug => 4
  | trace => 5

/-- The name of a level. -/
def name : Level → String
  | error => "ERROR"
  | warn => "WARN"
  | info => "INFO"
  | debug => "DEBUG"
  | trace => "TRACE"

end Level

/-- The part of the program that speaks. -/
inductive Target where
  | binding
  | counter
  | group
  | child
  | trial
  | compare
deriving DecidableEq, Repr

/-- The path under which a part is known to a log filter. -/
def Target.path : Target → String
  | binding => "perfbench::arch"
  | counter => "perfbench::counter"
  | group => "perfbench::group"
  | child => "perfbench::process"
  | trial => "perfbench::bench"
  | compare => "perfbench_run"

/-- A line of the log. -/
structure Line where
  level : Level
  target : Target
  message : String
deriving DecidableEq, Repr

end TrialMeter.Log
