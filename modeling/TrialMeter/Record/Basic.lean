import TrialMeter.Group.Basic

/-!
# Records

A `Record` is the result of one trial: a name, the elapsed time in the unit that was asked for, and
the counts of the fourteen standard kinds. A count that was not sampled, or that the kernel refused,
is zero.

## Main definitions

* `Record.ofGroup`: reads the standard kinds out of a group, in their own order.
* `Record.counters`: the counts in that order.
* `Record.perCycle`, `Record.perInstruction`, `Record.missPercent`, `Record.cyclesPerInstruction`,
  `perOperation`: derived numbers.
-/

namespace TrialMeter

/-- The result of one trial. -/
structure Record where
  name : String := ""
  /-- The elapsed time in the unit that was asked for. -/
  time : Float := 0.0
  /-- Cycles in user mode. -/
  cycles : UInt64 := 0
  instructions : UInt64 := 0
  cacheMisses : UInt64 := 0
  totalBranches : UInt64 := 0
  branchMisses : UInt64 := 0
  /-- Cycles at the reference frequency. -/
  totalCycles : UInt64 := 0
  /-- Processor time in nanoseconds. -/
  cpuTime : UInt64 := 0
  contextSwitches : UInt64 := 0
  migrations : UInt64 := 0
  l1Cache : UInt64 := 0
  l1tCache : UInt64 := 0
  llCache : UInt64 := 0
  /-- Accesses local to the node. -/
  access : UInt64 := 0
  /-- Accesses of the branch prediction unit. -/
  bpu : UInt64 := 0
deriving Repr, Inhabited

namespace Record

/-- Reads the standard kinds out of a group. -/
def ofGroup {μ : Type} {m : Type → Type} [Monad m] [Member μ m] (name : String) (time : Float)
    (group : Group μ) : m Record := do
  let cycles ← group.retrieve .cycles
  let instructions ← group.retrieve .instructions
  let cacheMisses ← group.retrieve .cacheMisses
  let totalBranches ← group.retrieve .branches
  let branchMisses ← group.retrieve .branchMisses
  let totalCycles ← group.retrieve .refCycles
  let cpuTime ← group.retrieve .cpuTime
  let contextSwitches ← group.retrieve .contextSwitches
  let migrations ← group.retrieve .migrations
  let l1Cache ← group.retrieve .l1d
  let l1tCache ← group.retrieve .l1i
  let llCache ← group.retrieve .lastLevel
  let access ← group.retrieve .node
  let bpu ← group.retrieve .bpu
  return {
    name, time, cycles, instructions, cacheMisses, totalBranches, branchMisses, totalCycles,
    cpuTime, contextSwitches, migrations, l1Cache, l1tCache, llCache, access, bpu }

/-- The counts, in the order of the standard kinds. -/
def counters (r : Record) : List UInt64 :=
  [r.cycles, r.instructions, r.cacheMisses, r.totalBranches, r.branchMisses, r.totalCycles,
    r.cpuTime, r.contextSwitches, r.migrations, r.l1Cache, r.l1tCache, r.llCache, r.access, r.bpu]

/-- Whether a record is the empty one. The times are compared as numbers, so that a negative zero
counts as zero. -/
def isDefault (r : Record) : Bool :=
  r.name == "" && r.time == 0.0 && r.counters.all (· == 0)

/-- Cycles per unit of time. -/
def perCycle (r : Record) : Float := r.cycles.toFloat / r.time

/-- Instructions per unit of time. -/
def perInstruction (r : Record) : Float := r.instructions.toFloat / r.time

/-- The part of the branches that were predicted wrongly. -/
def missPercent (r : Record) : Float := r.branchMisses.toFloat / r.totalBranches.toFloat

/-- Cycles per instruction. -/
def cyclesPerInstruction (r : Record) : Float := r.cycles.toFloat / r.instructions.toFloat

end Record

/-- A number divided over `operations` operations. -/
def perOperation (x : Float) (operations : UInt64) : Float := x / operations.toFloat

end TrialMeter
