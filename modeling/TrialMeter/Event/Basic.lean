/-!
# Countable events

An `Event` is what a counter counts: a generalised hardware event, a software event of the kernel,
or an access to a hardware cache. The kernel names an event by a family (`Event.family`) and a
configuration word (`Event.config`); for a cache the word packs the cache, the operation and the
result of the operation into three bytes.
-/

namespace TrialMeter

/-- A generalised event of the processor. -/
inductive HardwareEvent where
  | cpuCycles
  | instructions
  | cacheReferences
  | cacheMisses
  | branchInstructions
  | branchMisses
  | busCycles
  | stalledCyclesFrontend
  | stalledCyclesBackend
  | refCpuCycles
deriving DecidableEq, Repr

namespace HardwareEvent

/-- Every hardware event, in the order of the codes. -/
def all : List HardwareEvent :=
  [cpuCycles, instructions, cacheReferences, cacheMisses, branchInstructions, branchMisses,
    busCycles, stalledCyclesFrontend, stalledCyclesBackend, refCpuCycles]

/-- The code of the event. -/
def code : HardwareEvent → UInt64
  | cpuCycles => 0
  | instructions => 1
  | cacheReferences => 2
  | cacheMisses => 3
  | branchInstructions => 4
  | branchMisses => 5
  | busCycles => 6
  | stalledCyclesFrontend => 7
  | stalledCyclesBackend => 8
  | refCpuCycles => 9

/-- The name of the hardware event. -/
def name : HardwareEvent → String
  | cpuCycles => "CPUCycles"
  | instructions => "Instructions"
  | cacheReferences => "CacheReferences"
  | cacheMisses => "CacheMisses"
  | branchInstructions => "BranchInstructions"
  | branchMisses => "BranchMisses"
  | busCycles => "BusCycles"
  | stalledCyclesFrontend => "StalledCyclesFrontend"
  | stalledCyclesBackend => "StalledCyclesBackend"
  | refCpuCycles => "RefCPUCycles"

/-- The hardware event named `name`. -/
def ofName? (name : String) : Option HardwareEvent := all.find? (·.name == name)

end HardwareEvent

/-- An event raised by the kernel itself. -/
inductive SoftwareEvent where
  | cpuClock
  | taskClock
  | pageFaults
  | contextSwitches
  | cpuMigrations
  | pageFaultsMin
  | pageFaultsMaj
  | alignmentFaults
  | emulationFaults
  | dummy
  | bpfOutput
  | cgroupSwitches
deriving DecidableEq, Repr

namespace SoftwareEvent

/-- Every software event, in the order of the codes. -/
def all : List SoftwareEvent :=
  [cpuClock, taskClock, pageFaults, contextSwitches, cpuMigrations, pageFaultsMin, pageFaultsMaj,
    alignmentFaults, emulationFaults, dummy, bpfOutput, cgroupSwitches]

/-- The code of the event. -/
def code : SoftwareEvent → UInt64
  | cpuClock => 0
  | taskClock => 1
  | pageFaults => 2
  | contextSwitches => 3
  | cpuMigrations => 4
  | pageFaultsMin => 5
  | pageFaultsMaj => 6
  | alignmentFaults => 7
  | emulationFaults => 8
  | dummy => 9
  | bpfOutput => 10
  | cgroupSwitches => 11

/-- The name of the software event. -/
def name : SoftwareEvent → String
  | cpuClock => "CpuClock"
  | taskClock => "TaskClock"
  | pageFaults => "PageFaults"
  | contextSwitches => "ContextSwitches"
  | cpuMigrations => "CpuMigrations"
  | pageFaultsMin => "PageFaultsMin"
  | pageFaultsMaj => "PageFaultsMaj"
  | alignmentFaults => "AlignmentFaults"
  | emulationFaults => "EmulationFaults"
  | dummy => "Dummy"
  | bpfOutput => "BpfOutput"
  | cgroupSwitches => "CgroupSwitches"

/-- The software event named `name`. -/
def ofName? (name : String) : Option SoftwareEvent := all.find? (·.name == name)

end SoftwareEvent

/-- A hardware cache. -/
inductive Cache where
  | l1d
  | l1i
  | ll
  | dtlb
  | itlb
  | bpu
  | node
deriving DecidableEq, Repr

namespace Cache

/-- Every cache, in the order of the codes. -/
def all : List Cache :=
  [l1d, l1i, ll, dtlb, itlb, bpu, node]

/-- The code of the cache. -/
def code : Cache → UInt64
  | l1d => 0
  | l1i => 1
  | ll => 2
  | dtlb => 3
  | itlb => 4
  | bpu => 5
  | node => 6

/-- The name of the cache. -/
def name : Cache → String
  | l1d => "L1D"
  | l1i => "L1I"
  | ll => "LL"
  | dtlb => "DTLB"
  | itlb => "ITLB"
  | bpu => "BPU"
  | node => "NODE"

/-- The cache named `name`. -/
def ofName? (name : String) : Option Cache := all.find? (·.name == name)

end Cache

/-- What is done to a cache. -/
inductive CacheOperation where
  | read
  | write
  | prefetch
deriving DecidableEq, Repr

namespace CacheOperation

/-- Every cache operation, in the order of the codes. -/
def all : List CacheOperation :=
  [read, write, prefetch]

/-- The code of the operation. -/
def code : CacheOperation → UInt64
  | read => 0
  | write => 1
  | prefetch => 2

/-- The name of the cache operation. -/
def name : CacheOperation → String
  | read => "Read"
  | write => "Write"
  | prefetch => "Prefetch"

/-- The cache operation named `name`. -/
def ofName? (name : String) : Option CacheOperation := all.find? (·.name == name)

end CacheOperation

/-- Whether an access is counted, or only one that misses. -/
inductive CacheResult where
  | access
  | miss
deriving DecidableEq, Repr

namespace CacheResult

/-- Every cache result, in the order of the codes. -/
def all : List CacheResult :=
  [access, miss]

/-- The code of the result. -/
def code : CacheResult → UInt64
  | access => 0
  | miss => 1

/-- The name of the cache result. -/
def name : CacheResult → String
  | access => "Access"
  | miss => "Miss"

/-- The cache result named `name`. -/
def ofName? (name : String) : Option CacheResult := all.find? (·.name == name)

end CacheResult

/-- An event of a hardware cache. -/
structure CacheEvent where
  cache : Cache
  operation : CacheOperation
  result : CacheResult
deriving DecidableEq, Repr

namespace CacheEvent

/-- Read accesses of a cache. -/
def accesses (cache : Cache) : CacheEvent := ⟨cache, .read, .access⟩

/-- The configuration word of a cache event: the cache in the lowest byte, then the operation, then
the result. -/
def config (e : CacheEvent) : UInt64 :=
  e.cache.code ||| (e.operation.code <<< 8) ||| (e.result.code <<< 16)

end CacheEvent

/-- What a counter counts. -/
inductive Event where
  | hardware (event : HardwareEvent)
  | software (event : SoftwareEvent)
  | cache (event : CacheEvent)
deriving DecidableEq, Repr

namespace Event

/-- The configuration word of an event within its family. -/
def config : Event → UInt64
  | hardware e => e.code
  | software e => e.code
  | cache e => e.config

/-- The wording of an event. -/
def text : Event → String
  | hardware e => "hardware:" ++ e.name
  | software e => "software:" ++ e.name
  | cache e => "cache:" ++ e.cache.name ++ ":" ++ e.operation.name ++ ":" ++ e.result.name

instance : ToString Event := ⟨text⟩

end Event

end TrialMeter
