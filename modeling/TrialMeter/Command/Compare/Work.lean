import TrialMeter.Command.Basic
import TrialMeter.Decimal.Text
import TrialMeter.Record.Mean
import TrialMeter.Record.Ranking
import TrialMeter.Text.Words
import TrialMeter.Trial.External

/-!
# Comparing programs

This command runs each of several programs a number of times and prints the mean records, the
fastest first. A program and its arguments are the words of one operand. An operand
without words is passed over; one with a failed trial is left out, with a line in the log.

## Main definitions

* `trials`: the trials of one program, up to the first failure.
* `assess`: the mean record of an operand, if there is one; `assessAll`: those of all operands.
* `report`: what is printed.
* `work`: the whole comparison; `run`: the command.
-/

namespace TrialMeter.Command.Compare

/-- What the command is asked for. -/
structure Options where
  /-- The number of trials of each program. -/
  runs : Nat := 1
  resolution : Resolution := .milliseconds
deriving DecidableEq, Repr

/-- The trials of one program, one after another, up to the first failure. -/
def trials (s : Settings) (program : String) (args : List String) : Nat → Trial (List Record)
  | 0 => return []
  | n + 1 => do
    let record ← Trial.benchmarkProgram s program args
    return record :: (← trials s program args n)

/-- The greatest number of records that can be kept, each of 144 bytes in an address space of signed
64-bit words. -/
def capacity : Nat := 9223372036854775807 / 144

/-- The mean of the trials of an operand. Room for the records is made before the first trial. Only
a fault ends the command. -/
def assess (o : Options) (operand : String) : ExceptT Fault Meter (Option Record) :=
  match Text.words operand with
  | [] => return none
  | program :: args =>
    if capacity < o.runs then throw .capacityOverflow
    else ExceptT.mk do
      match ← (trials { resolution := o.resolution } program args o.runs).run with
      | .ok records => return .ok (Record.mean records)
      | .error (.error e) =>
        Meter.log .error .compare (operand ++ ": " ++ e.message)
        return .ok none
      | .error (.fault f) => return .error f

/-- The means of all operands that have one, in their order. -/
def assessAll (o : Options) : List String → ExceptT Fault Meter (List Record)
  | [] => return []
  | operand :: rest => do
    let mean ← assess o operand
    let others ← assessAll o rest
    return mean.toList ++ others

/-- Colours the text that follows. -/
def blue : String := "\x1b[34m"

/-- Ends a colour. -/
def plain : String := "\x1b[0m"

/-- The counts of a record with their labels, in the order in which they are printed. -/
def rows (r : Record) : List (String × UInt64) :=
  [("Cycles Spent:         ", r.cycles),
    ("Total Instructions:   ", r.instructions),
    ("Total Branches:       ", r.totalBranches),
    ("Branch Misses:        ", r.branchMisses),
    ("Total CPU Cycles:     ", r.totalCycles),
    ("Total CPU Time Spent: ", r.cpuTime),
    ("Context Switches:     ", r.contextSwitches),
    ("Core Migrations:      ", r.migrations),
    ("Cache Misses:         ", r.cacheMisses),
    ("L1 Cache:             ", r.l1Cache),
    ("L1T Cache:            ", r.l1tCache),
    ("Last Level Cache:     ", r.llCache),
    ("Cache Accesses:       ", r.access),
    ("Branch Predictions:   ", r.bpu)]

/-- One printed row. -/
def rowText (row : String × UInt64) : String :=
  blue ++ row.1 ++ plain ++ toString row.2.toNat ++ "\n"

/-- A printed record. -/
def recordText (o : Options) (winner : Bool) (r : Record) : String :=
  blue ++ "Attempted " ++ toString o.runs ++ " runs" ++ plain ++ "\n"
    ++ blue ++ "Results for: " ++ plain ++ r.name ++ (if winner then " <- winner" else "") ++ "\n"
    ++ blue ++ "Total time elapsed:   " ++ plain ++ numberText r.time ++ " " ++ o.resolution.suffix
    ++ "\n" ++ String.join ((rows r).map rowText)

/-- The printed records; the first one is the winner. -/
def recordsText (o : Options) : List Record → String
  | [] => ""
  | first :: rest => recordText o true first ++ String.join (rest.map (recordText o false))

/-- What is printed. -/
def report (o : Options) (records : List Record) : String :=
  "Sorting according to fastest time.\n" ++ recordsText o (Record.ranked records)

/-- Compares the operands. -/
def work (o : Options) (operands : List String) : Meter Verdict := do
  match ← (assessAll o operands).run with
  | .ok records => return .done (report o records)
  | .error f => return .broken f.message

/-- The command, which is asked for options and operands. -/
def run (read : List String → Request (Options × List String)) (gateOf : String → Log.Gate)
    (filterText : Option String) (args : List String) (k : Kernel) : Ran Exit :=
  Command.run (fun (o, operands) => work o operands) read gateOf filterText args k

end TrialMeter.Command.Compare
