import TrialMeter.Record.Basic

/-!
# The mean of records

The mean of several trials of one workload. Counts are averaged exactly and rounded up; the times
are added from the left, starting at zero, and divided once; the name is that of the first record.

It is defined twice: field by field on exact numbers, and as one pass over the records that adds
all counts up on words of 128 bits, where every addition may overflow, and then writes the quotients
into the fields of an empty record.

## Main definitions

* `Record.mean`: the mean, field by field.
* `Record.Sums`, `Record.Sums.add?`: what one pass adds up, and one record of it.
* `Record.writers`, `Record.writeMeans?`: the fields of the counts, and the quotients in them.
* `Record.meanOnWords?`: the mean by one pass.
-/

namespace TrialMeter.Record

/-- The least integer that is not below `sum / n`. -/
def ceilDiv (sum n : Nat) : Nat := (sum + n - 1) / n

/-- The exact sum of one count over the records. -/
def sumCount (records : List Record) (count : Record → UInt64) : Nat :=
  records.foldl (fun sum r => sum + (count r).toNat) 0

/-- The mean of one count over the records, rounded up. -/
def meanCount (records : List Record) (count : Record → UInt64) : UInt64 :=
  UInt64.ofNat (ceilDiv (sumCount records count) records.length)

/-- The mean of the times. -/
def meanTime (records : List Record) : Float :=
  records.foldl (fun total r => total + r.time) 0.0 / (UInt64.ofNat records.length).toFloat

/-- The mean of the records, when there are any. -/
def mean : List Record → Option Record
  | [] => none
  | first :: rest =>
    let records := first :: rest
    some {
      name := first.name
      time := meanTime records
      cycles := meanCount records (·.cycles)
      instructions := meanCount records (·.instructions)
      cacheMisses := meanCount records (·.cacheMisses)
      totalBranches := meanCount records (·.totalBranches)
      branchMisses := meanCount records (·.branchMisses)
      totalCycles := meanCount records (·.totalCycles)
      cpuTime := meanCount records (·.cpuTime)
      contextSwitches := meanCount records (·.contextSwitches)
      migrations := meanCount records (·.migrations)
      l1Cache := meanCount records (·.l1Cache)
      l1tCache := meanCount records (·.l1tCache)
      llCache := meanCount records (·.llCache)
      access := meanCount records (·.access)
      bpu := meanCount records (·.bpu) }

/-! ### One pass -/

/-- A word of 128 bits. -/
abbrev Wide : Type := BitVec 128

/-- A count as a word of 128 bits. -/
def widen (count : UInt64) : Wide := count.toBitVec.setWidth 128

/-- The sum of two words of 128 bits, if it fits in one. -/
def addWide? (a b : Wide) : Option Wide := if a.uaddOverflow b then none else some (a + b)

/-- The quotient of a sum, rounded up. The number `n` is added before the one is taken off. -/
def ceilDivWide? (sum n : Wide) : Option Wide := do
  return ((← addWide? sum n) - 1) / n

/-- What a pass has added up: the times and, position by position, the counts. -/
structure Sums where
  time : Float := 0.0
  counts : List Wide := List.replicate 14 0

/-- Adds counts to sums, position by position, as far as there are both. -/
def addCounts? : List Wide → List UInt64 → Option (List Wide)
  | sum :: sums, count :: counts => do
    let sum ← addWide? sum (widen count)
    return sum :: (← addCounts? sums counts)
  | sums, _ => some sums

/-- Adds a record. -/
def Sums.add? (s : Sums) (r : Record) : Option Sums := do
  return { time := s.time + r.time, counts := ← addCounts? s.counts r.counters }

/-- The fields of the counts, each as the way to write it, in the order of the counts. -/
def writers : List (Record → UInt64 → Record) :=
  [fun r n => { r with cycles := n }, fun r n => { r with instructions := n },
    fun r n => { r with cacheMisses := n }, fun r n => { r with totalBranches := n },
    fun r n => { r with branchMisses := n }, fun r n => { r with totalCycles := n },
    fun r n => { r with cpuTime := n }, fun r n => { r with contextSwitches := n },
    fun r n => { r with migrations := n }, fun r n => { r with l1Cache := n },
    fun r n => { r with l1tCache := n }, fun r n => { r with llCache := n },
    fun r n => { r with access := n }, fun r n => { r with bpu := n }]

/-- Writes the quotients of sums into the fields of a record, each cut down to 64 bits. -/
def writeMeans? (n : Wide) (out : Record) :
    List ((Record → UInt64 → Record) × Wide) → Option Record
  | [] => some out
  | (write, sum) :: rest => do
    let mean ← ceilDivWide? sum n
    writeMeans? n (write out ⟨mean.setWidth 64⟩) rest

/-- The mean of the records, worked out in one pass on words of 128 bits. -/
def meanOnWords? : List Record → Option (Option Record)
  | [] => some none
  | first :: rest => do
    let records := first :: rest
    let sums ← records.foldlM Sums.add? {}
    let out := {
      name := first.name
      time := sums.time / (UInt64.ofNat records.length).toFloat }
    return some (← writeMeans? (BitVec.ofNat 128 records.length) out (writers.zip sums.counts))

end TrialMeter.Record
