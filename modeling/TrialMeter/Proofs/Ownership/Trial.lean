import TrialMeter.Proofs.Ownership.Counter

/-!
# Descriptors of trials

A trial opens its own counters and gives them back on every way out: after a clock that cannot be
read, a child that cannot be started or waited for, a fault of the arithmetic, and a record. So the
ledger ends every trial as it began, whatever other descriptors are open around it.

## Main results

* `Trial.preserves_benchmark`, `Trial.preserves_benchmarkBatch`, `Trial.preserves_benchmarkProgram`:
  the full battery.
* `Trial.preserves_countOne`, `Trial.preserves_countProgram`: one counter.
* `Experiment.preserves_perform`: every trial.
-/

namespace TrialMeter

open Audit (preserves_of_within)

namespace Trial

variable {held : Multiset Fd} {s : Settings} {clock : IntervalClock} {work : Workload}
  {program : String} {args : List String}

theorem preserves_warnRefused {what : String} (r : Except Error Unit) :
    ledger.Preserves held (warnRefused what r) :=
  preserves_of_within (within_warnRefused (fun _ => rfl) r)

theorem preserves_create {source : Source} :
    ledger.Preserves held (IntervalClock.create source).run :=
  preserves_of_within (IntervalClock.within_create fun _ => rfl)

theorem preserves_spawn : ledger.Preserves held (Child.spawn program args).run :=
  preserves_of_within (Child.within_spawn (fun _ => rfl) (fun _ => rfl) fun _ => rfl)

/-- What leaves a group open, followed by its release, leaves nothing of it open. -/
theorem passes_finally_release {α : Type} {body : Trial α} (g : Group Counter)
    (h : ledger.Preserves (ownedBy g.members + held) body.run) :
    ledger.Passes (ownedBy g.members + held) (Meter.finally body g.release).run
      fun _ held' => held' = held :=
  Audit.Passes.finally h fun _ _ h => h ▸ g.passes_release

theorem passes_sample (g : Group Counter) :
    ledger.Passes (ownedBy g.members + held)
      (Meter.finally (sample s clock g work) g.release).run fun _ held' => held' = held :=
  passes_finally_release g (preserves_of_within
    (within_sample (fun _ => rfl) (fun _ _ => rfl) g.serves_owned rfl))

theorem passes_openEach (kinds : List Kind) :
    ledger.Passes held (openEach kinds) fun cs held' => held' = ownedBy cs + held := by
  induction kinds generalizing held with
  | nil => exact .pure (zero_add held).symm
  | cons kind kinds ih =>
    rw [openEach]
    refine (Counter.passes_openHere_quiet kind).bind fun r held' h => ?_
    rw [h]
    refine (preserves_warnRefused r.1).bind fun _ => ih.bind fun cs held' h => .pure ?_
    rw [h, ownedBy_cons, add_assoc, add_left_comm]

theorem preserves_benchmark : ledger.Preserves held (benchmark s work).run := by
  refine preserves_create.attemptBind (fun clock => ?_) fun _ => rfl
  refine (passes_openEach Kind.standard).liftBind fun cs held' h => ?_
  rw [h]
  refine (Group.passes_ofCounters cs).attemptBind (fun g held' h => ?_) fun _ _ h => h
  rw [h]
  exact passes_sample g

/-- A quiet group is where a battery that is opened as a group starts. -/
theorem passes_liftQuiet (kinds : List Kind) :
    ledger.Passes held (liftM (Group.quiet kinds) : Trial (Group Counter)).run fun r held' =>
      held' = held ∧ ∀ g, r = .ok g → ownedBy g.members + held = held := by
  refine .pure ⟨rfl, fun g hg => ?_⟩
  cases h : Group.quiet kinds with
  | ok g' =>
    rw [h] at hg
    obtain rfl : g' = g := by simpa [Except.mapError] using hg
    rw [Group.ownedBy_of_quiet h, zero_add]
  | error e => rw [h] at hg; exact absurd hg nofun

theorem preserves_benchmarkBatch : ledger.Preserves held (benchmarkBatch s work).run := by
  refine preserves_create.attemptBind (fun clock => ?_) fun _ => rfl
  refine (passes_liftQuiet Kind.standard).exceptBind (fun g held' h => ?_) fun _ _ h => h.1
  rw [h.1, ← h.2 g rfl]
  refine g.passes_openHere.liftBind fun r held' h' => ?_
  rw [h.2 g rfl, h']
  exact (preserves_warnRefused r.1).liftBind fun _ => passes_sample r.2

theorem passes_attach (g : Group Counter) (pid : Pid) :
    ledger.Passes (ownedBy g.members + held) (attach g pid) fun g' held' =>
      held' = ownedBy g'.members + held :=
  (g.passes_reopen pid).bind fun r _ h => (preserves_warnRefused r.1).bind fun _ => .pure h

theorem preserves_benchmarkProgram :
    ledger.Preserves held (benchmarkProgram s program args).run := by
  refine preserves_create.attemptBind (fun clock => ?_) fun _ => rfl
  refine (passes_liftQuiet Kind.standard).exceptBind (fun g held' h => ?_) fun _ _ h => h.1
  rw [h.1]
  refine preserves_spawn.attemptBind (fun pid => ?_) fun _ => rfl
  rw [← h.2 g rfl]
  refine (passes_attach g pid).liftBind fun g' held' h' => ?_
  rw [h.2 g rfl, h']
  exact passes_finally_release g' (preserves_of_within
    (within_watch (fun _ => rfl) (fun _ _ => rfl) g'.serves_owned fun _ => rfl))

/-! ### One counter -/

theorem preserves_countOne {kind : Kind} : ledger.Preserves held (countOne kind work) := by
  refine (Counter.passes_openHere_quiet kind).bind fun r held' h => ?_
  rw [h]
  have hserves : r.2.binding.Serves (LeavesLedger (owned [r.2.binding] + held)) :=
    r.2.binding.serves_owned
  refine (preserves_warnRefused r.1).bind fun _ => ?_
  refine (preserves_of_within (within_startCounter (fun _ => rfl) hserves)).bind fun _ => ?_
  refine Audit.Preserves.bind (.tell rfl rfl) fun _ => ?_
  refine (preserves_of_within (within_stopCounter (fun _ => rfl) hserves)).bind fun _ => ?_
  refine (preserves_of_within (Counter.within_retrieve hserves fun _ => rfl)).bind fun _ => ?_
  exact r.2.passes_release.bind fun _ _ h => .pure h

theorem preserves_countProgram {kind : Kind} :
    ledger.Preserves held (countProgram kind program args).run := by
  refine preserves_spawn.exceptBind (fun pid => ?_) fun _ => rfl
  refine (Counter.passes_reopen_quiet kind pid).liftBind fun r held' h => ?_
  rw [h]
  refine (preserves_warnRefused r.1).liftBind fun _ => ?_
  refine Audit.Passes.finally (preserves_of_within
    (within_countRest (fun _ => rfl) r.2.binding.serves_owned fun _ => rfl)) fun _ _ h => ?_
  rw [h]
  exact r.2.passes_release.map

end Trial

/-- Every trial gives back what it opens, however it ends. -/
theorem Experiment.preserves_perform {held : Multiset Fd} (s : Settings) (e : Experiment) :
    ledger.Preserves held (e.perform s).run := by
  cases e with
  | benchmark work => exact Trial.preserves_benchmark.exceptMap _
  | benchmarkBatch work => exact Trial.preserves_benchmarkBatch.exceptMap _
  | benchmarkProgram program args => exact Trial.preserves_benchmarkProgram.exceptMap _
  | countOne kind work => exact Trial.preserves_countOne.liftBind fun _ => .pure rfl
  | countProgram kind program args =>
    exact Trial.preserves_countProgram.attemptBind (fun _ => .pure rfl) fun _ => rfl
  | time work =>
    exact (preserves_of_within (Trial.within_time (fun _ _ => rfl) fun _ => rfl)).exceptMap _
  | timeProgram program args =>
    exact (preserves_of_within (Trial.within_timeProgram (fun _ => rfl) (fun _ _ => rfl)
      (fun _ => rfl) (fun _ _ => rfl) fun _ _ => rfl)).exceptMap _
  | timeEach works =>
    exact (preserves_of_within (Trial.within_timeEach (fun _ _ => rfl) fun _ => rfl)).exceptMap _
  | timeRepeat n work =>
    exact (preserves_of_within (Trial.within_timeRepeat (fun _ _ => rfl) fun _ => rfl)).exceptMap _

end TrialMeter
