import TrialMeter.Record.Basic

/-!
# Reading a group into a record

A record is read out of a group one standard kind after another. `Record.ofGroup_eq_mapM` says this
as one pass over `Kind.standard`, followed by the record that holds the counts of the pass
(`Record.ofCounts`); the counts of that record are the counts of the pass, in the same order, so
the order of the fields, of the reads and of the standard kinds is one order.

## Main definitions

* `Record.ofCounts`: the record with the given counts.

## Main results

* `Record.ofGroup_eq_mapM`: a record is one pass over the standard kinds.
* `Record.counters_ofCounts`: the counts of the record of fourteen counts.
-/

namespace TrialMeter.Record

/-- The record with the given counts, when there are fourteen of them. -/
def ofCounts (name : String) (time : Float) : List UInt64 → Record
  | [cycles, instructions, cacheMisses, totalBranches, branchMisses, totalCycles, cpuTime,
      contextSwitches, migrations, l1Cache, l1tCache, llCache, access, bpu] => {
    name, time, cycles, instructions, cacheMisses, totalBranches, branchMisses, totalCycles,
    cpuTime, contextSwitches, migrations, l1Cache, l1tCache, llCache, access, bpu }
  | _ => { name, time }

variable (name : String) (time : Float)

theorem ofCounts_name (counts : List UInt64) : (ofCounts name time counts).name = name := by
  unfold ofCounts
  split <;> rfl

theorem ofCounts_time (counts : List UInt64) : (ofCounts name time counts).time = time := by
  unfold ofCounts
  split <;> rfl

/-- The counts of a record are the counts that it was made of, in the same order. -/
theorem counters_ofCounts {counts : List UInt64} (h : counts.length = 14) :
    (ofCounts name time counts).counters = counts := by
  unfold ofCounts
  split
  · rfl
  · rename_i hne
    match counts, h with
    | [a, b, c, d, e, f, g, h, i, j, k, l, m, n], _ =>
      exact absurd rfl (hne a b c d e f g h i j k l m n)

/-- Reading a group is one pass over the standard kinds, in their order. -/
theorem ofGroup_eq_mapM {μ : Type} {m : Type → Type} [Monad m] [LawfulMonad m] [Member μ m]
    (group : Group μ) :
    ofGroup name time group = ofCounts name time <$> Kind.standard.mapM group.retrieve := by
  simp only [ofGroup, Kind.standard, List.mapM_cons, List.mapM_nil, bind_assoc, pure_bind,
    map_bind, map_pure, ofCounts]

end TrialMeter.Record
