import TrialMeter.Event.Attr

/-!
# Counter kinds

A `Kind` is what a counter measures and in which domain. Two kinds that share an event and differ in
the domain are different. The named kinds are listed in `Kind.presets`; the fourteen that a full
benchmark samples are `Kind.standard`, in the order in which a record reports them.
-/

namespace TrialMeter

/-- An event, counted in a domain. -/
structure Kind where
  event : Event
  domain : Domain
deriving DecidableEq, Repr

namespace Kind

/-- The wording of a kind. -/
def text (k : Kind) : String := k.event.text ++ " (" ++ k.domain.text ++ ")"

instance : ToString Kind := ⟨text⟩

/-- The attributes by which a counter of this kind is asked for. -/
def attr (k : Kind) : Attr := .ofEvent k.event k.domain

def cycles : Kind := ⟨.hardware .cpuCycles, .user⟩
def instructions : Kind := ⟨.hardware .instructions, .user⟩
def cacheMisses : Kind := ⟨.hardware .cacheMisses, .user⟩
def branches : Kind := ⟨.hardware .branchInstructions, .user⟩
def branchMisses : Kind := ⟨.hardware .branchMisses, .user⟩
def refCycles : Kind := ⟨.hardware .refCpuCycles, .user⟩

def cpuTime : Kind := ⟨.software .cpuClock, .user⟩
/-- The scheduler raises its events in kernel mode, so no mode is left out. -/
def contextSwitches : Kind := ⟨.software .contextSwitches, .everything⟩
def migrations : Kind := ⟨.software .cpuMigrations, .everything⟩

def l1d : Kind := ⟨.cache (.accesses .l1d), .user⟩
def l1i : Kind := ⟨.cache (.accesses .l1i), .user⟩
def lastLevel : Kind := ⟨.cache (.accesses .ll), .user⟩
def node : Kind := ⟨.cache (.accesses .node), .user⟩
def bpu : Kind := ⟨.cache (.accesses .bpu), .user⟩

def kernelCycles : Kind := ⟨.hardware .cpuCycles, .kernel⟩
def kernelInstructions : Kind := ⟨.hardware .instructions, .kernel⟩
def kernelCacheMisses : Kind := ⟨.hardware .cacheMisses, .kernel⟩
def kernelBranches : Kind := ⟨.hardware .branchInstructions, .kernel⟩
def kernelBranchMisses : Kind := ⟨.hardware .branchMisses, .kernel⟩
def kernelRefCycles : Kind := ⟨.hardware .refCpuCycles, .kernel⟩

def allCycles : Kind := ⟨.hardware .cpuCycles, .everything⟩
def allInstructions : Kind := ⟨.hardware .instructions, .everything⟩
def allCacheMisses : Kind := ⟨.hardware .cacheMisses, .everything⟩
def allBranches : Kind := ⟨.hardware .branchInstructions, .everything⟩
def allBranchMisses : Kind := ⟨.hardware .branchMisses, .everything⟩
def allRefCycles : Kind := ⟨.hardware .refCpuCycles, .everything⟩

/-- The kinds that a full benchmark samples, in the order of a record. -/
def standard : List Kind :=
  [cycles, instructions, cacheMisses, branches, branchMisses, refCycles, cpuTime, contextSwitches,
    migrations, l1d, l1i, lastLevel, node, bpu]

/-- The named kinds. -/
def presets : List (String × Kind) :=
  [("CYCLES", cycles), ("INSTRUCTIONS", instructions), ("CACHE_MISSES", cacheMisses),
    ("BRANCHES", branches), ("BRANCH_MISSES", branchMisses), ("REF_CYCLES", refCycles),
    ("CPU_TIME", cpuTime), ("CONTEXT_SWITCHES", contextSwitches), ("MIGRATIONS", migrations),
    ("L1D", l1d), ("L1I", l1i), ("LAST_LEVEL", lastLevel), ("NODE", node), ("BPU", bpu),
    ("KERNEL_CYCLES", kernelCycles), ("KERNEL_INSTRUCTIONS", kernelInstructions),
    ("KERNEL_CACHE_MISSES", kernelCacheMisses), ("KERNEL_BRANCHES", kernelBranches),
    ("KERNEL_BRANCH_MISSES", kernelBranchMisses), ("KERNEL_REF_CYCLES", kernelRefCycles),
    ("ALL_CYCLES", allCycles), ("ALL_INSTRUCTIONS", allInstructions),
    ("ALL_CACHE_MISSES", allCacheMisses), ("ALL_BRANCHES", allBranches),
    ("ALL_BRANCH_MISSES", allBranchMisses), ("ALL_REF_CYCLES", allRefCycles)]

/-- The kind named `name`. -/
def ofName? (name : String) : Option Kind := presets.lookup name

/-- The names of the presets that equal `k`. -/
def presetNames (k : Kind) : List String :=
  (presets.filter fun p => p.2 = k).map Prod.fst

/-- The place of a kind among the standard ones. -/
def standardIndex? (k : Kind) : Option Nat := standard.findIdx? (· = k)

end Kind

end TrialMeter
